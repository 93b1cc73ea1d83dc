/-
  DoipPlayground.Lib.Struct
  ─────────────────────────
  **PACKING INTEGERS THAT MAY NOT FIT.**

  Three ways to write a big-endian integer, each of which raises for one
  that is too large: `struct.pack`, `int.to_bytes` and `bytes`.

    • `packBBHI_eq`, `toBytes_two`, `toBytes_four`, `bytesOf_pair` — where
      they do not raise, they write the same bytes.
-/
import DoipPlayground.Lib.Bytes

namespace Wire

/-! ## §1. The three ways. -/

/-- A field of `struct.pack`: an integer from `bound` on raises `struct.error`. -/
def packField (bound : Nat) (pack : Nat → Bytes) (n : Nat) : Option Bytes :=
  if n < bound then some (pack n) else none

/-- `struct.pack("!BBHI", a, b, c, d)` -/
def packBBHI (a b c d : Nat) : Option Bytes := do
  let a ← packField 256 (fun n => [UInt8.ofNat n]) a
  let b ← packField 256 (fun n => [UInt8.ofNat n]) b
  let c ← packField 65536 packH c
  let d ← packField 4294967296 packI d
  return a ++ b ++ c ++ d

/-- `struct.pack("!HH", a, b)` -/
def packHH (a b : Nat) : Option Bytes := do
  let a ← packField 65536 packH a
  let b ← packField 65536 packH b
  return a ++ b

/-- The last `width` digits to base 256, the highest first. -/
def bigEndian : Nat → Nat → Bytes
  | 0, _ => []
  | width + 1, n => bigEndian width (n / 256) ++ [UInt8.ofNat n]

/-- `n.to_bytes(width, "big")`; `OverflowError` is `none`. -/
def toBytes (width n : Nat) : Option Bytes :=
  if n < 1 <<< (8 * width) then some (bigEndian width n) else none

/-- `bytes([...])`; `ValueError` is `none`. -/
def bytesOf (ns : List Nat) : Option Bytes :=
  if ∀ n ∈ ns, n < 256 then some (ns.map UInt8.ofNat) else none

/-! ## §2. They agree. -/

theorem packField_some {bound n : Nat} (h : n < bound) (pack : Nat → Bytes) :
    packField bound pack n = some (pack n) := if_pos h

theorem packField_none {bound n : Nat} (h : ¬ n < bound) (pack : Nat → Bytes) :
    packField bound pack n = none := if_neg h

/-- Four fields: all of them fit, or nothing is packed. -/
theorem packBBHI_eq (a b c d : Nat) :
    packBBHI a b c d
      = if a < 256 ∧ b < 256 ∧ c < 65536 ∧ d < 4294967296
        then some ([UInt8.ofNat a] ++ [UInt8.ofNat b] ++ packH c ++ packI d) else none := by
  unfold packBBHI
  by_cases ha : a < 256
  · by_cases hb : b < 256
    · by_cases hc : c < 65536
      · by_cases hd : d < 4294967296
        · rw [packField_some ha, packField_some hb, packField_some hc, packField_some hd,
            if_pos ⟨ha, hb, hc, hd⟩]
          rfl
        · rw [packField_some ha, packField_some hb, packField_some hc, packField_none hd,
            if_neg (fun h => hd h.2.2.2)]
          rfl
      · rw [packField_some ha, packField_some hb, packField_none hc, if_neg (fun h => hc h.2.2.1)]
        rfl
    · rw [packField_some ha, packField_none hb, if_neg (fun h => hb h.2.1)]
      rfl
  · rw [packField_none ha, if_neg (fun h => ha h.1)]
    rfl

theorem toBytes_two (n : Nat) : toBytes 2 n = packField 65536 packH n := rfl

theorem toBytes_four (n : Nat) : toBytes 4 n = packField 4294967296 packI n := by
  have hdigits : bigEndian 4 n = packI n := by
    have h2 : n / 256 / 256 = n / 65536 := Nat.div_div_eq_div_mul n 256 256
    have h3 : n / 65536 / 256 = n / 16777216 := Nat.div_div_eq_div_mul n 65536 256
    simp only [bigEndian, packI, List.nil_append, List.cons_append]
    rw [h2, h3]
  unfold toBytes packField
  rw [hdigits]
  rfl

theorem bytesOf_pair (a b : Nat) :
    bytesOf [a, b] = if a < 256 ∧ b < 256 then some [UInt8.ofNat a, UInt8.ofNat b] else none := by
  unfold bytesOf
  simp only [List.forall_mem_cons, List.map_cons, List.map_nil, List.not_mem_nil, false_implies,
    implies_true, and_true]

/-- **`bytes` and `to_bytes` write what `struct.pack` writes**, and raise
where it does. -/
theorem bytesOf_toBytes (a b c d : Nat) :
    (do
      let ab ← bytesOf [a, b]
      let c ← toBytes 2 c
      let d ← toBytes 4 d
      return ab ++ c ++ d) = packBBHI a b c d := by
  rw [packBBHI_eq, bytesOf_pair, toBytes_two, toBytes_four]
  by_cases hab : a < 256 ∧ b < 256
  · by_cases hc : c < 65536
    · by_cases hd : d < 4294967296
      · rw [if_pos hab, packField_some hc, packField_some hd, if_pos ⟨hab.1, hab.2, hc, hd⟩]
        rfl
      · rw [if_pos hab, packField_some hc, packField_none hd, if_neg (fun h => hd h.2.2.2)]
        rfl
    · rw [if_pos hab, packField_none hc, if_neg (fun h => hc h.2.2.1)]
      rfl
  · rw [if_neg hab, if_neg (fun h => hab ⟨h.1, h.2.1⟩)]
    rfl

end Wire
