/-
  DoipPlayground.Lib.Bytes
  ────────────────────────
  **BIG-ENDIAN FIELDS in byte strings.**

    • `packH`, `packI` — the 16- and 32-bit fields of a header,
    • `fromBytes` — a byte string read as one big-endian number,
    • the round trips in both directions.
-/
import Mathlib.Data.List.Basic

namespace Wire

abbrev Bytes := List UInt8

/-- A 16-bit field, high byte first. -/
def packH (n : Nat) : Bytes := [UInt8.ofNat (n / 256), UInt8.ofNat n]

/-- A 32-bit field, high byte first. -/
def packI (n : Nat) : Bytes :=
  [UInt8.ofNat (n / 16777216), UInt8.ofNat (n / 65536), UInt8.ofNat (n / 256), UInt8.ofNat n]

/-- The number a byte string spells, high byte first. -/
def fromBytes (bs : Bytes) : Nat := bs.foldl (fun acc b => acc * 256 + b.toNat) 0

@[simp] theorem length_packH (n : Nat) : (packH n).length = 2 := rfl

@[simp] theorem length_packI (n : Nat) : (packI n).length = 4 := rfl

theorem fromBytes_packH {n : Nat} (h : n < 65536) : fromBytes (packH n) = n := by
  simp only [fromBytes, packH, List.foldl_cons, List.foldl_nil, UInt8.toNat_ofNat']
  omega

theorem fromBytes_packI {n : Nat} (h : n < 4294967296) : fromBytes (packI n) = n := by
  simp only [fromBytes, packI, List.foldl_cons, List.foldl_nil, UInt8.toNat_ofNat']
  omega

end Wire
