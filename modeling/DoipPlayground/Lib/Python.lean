/-
  DoipPlayground.Lib.Python
  ─────────────────────────
  **PYTHON'S CONVERSIONS between text, integers and bytes.**

  Text is a list of characters, a fallible conversion returns an `Option`.

    • `intLiteral` — `int(text, 0)`: signs, base prefixes, single
      underscores and the decimal digits of every script; `intOfBase` for
      bases 10 and 16,
    • `fromHex` — `bytes.fromhex`, and what removing blanks does to it,
    • `toBytes`, `encodeAscii`, `byte?`, `packH?` — the conversions that
      raise.
-/
import DoipPlayground.Lib.Bytes

namespace Python

open Wire

/-! ## §1. Characters. -/

/-- The code points `str.strip` removes. -/
def spaces : List Nat :=
  [0x9, 0xA, 0xB, 0xC, 0xD, 0x1C, 0x1D, 0x1E, 0x1F, 0x20, 0x85, 0xA0, 0x1680, 0x2000, 0x2001,
   0x2002, 0x2003, 0x2004, 0x2005, 0x2006, 0x2007, 0x2008, 0x2009, 0x200A, 0x2028, 0x2029, 0x202F,
   0x205F, 0x3000]

/-- The zero of each run of ten decimal digits. -/
def zeros : List Nat :=
  [0x30, 0x660, 0x6F0, 0x7C0, 0x966, 0x9E6, 0xA66, 0xAE6, 0xB66, 0xBE6, 0xC66, 0xCE6, 0xD66, 0xDE6,
   0xE50, 0xED0, 0xF20, 0x1040, 0x1090, 0x17E0, 0x1810, 0x1946, 0x19D0, 0x1A80, 0x1A90, 0x1B50,
   0x1BB0, 0x1C40, 0x1C50, 0xA620, 0xA8D0, 0xA900, 0xA9D0, 0xA9F0, 0xAA50, 0xABF0, 0xFF10, 0x104A0,
   0x10D30, 0x11066, 0x110F0, 0x11136, 0x111D0, 0x112F0, 0x11450, 0x114D0, 0x11650, 0x116C0,
   0x11730, 0x118E0, 0x11950, 0x11C50, 0x11D50, 0x11DA0, 0x16A60, 0x16AC0, 0x16B50, 0x1D7CE,
   0x1D7D8, 0x1D7E2, 0x1D7EC, 0x1D7F6, 0x1E140, 0x1E2F0, 0x1E950, 0x1FBF0]

/-- `str.strip` -/
def strip (text : List Char) : List Char :=
  let blank (c : Char) : Bool := spaces.contains c.toNat
  ((text.dropWhile blank).reverse.dropWhile blank).reverse

/-- `unicodedata.decimal` -/
def decimal? (c : Char) : Option Nat :=
  (zeros.find? (fun z => z ≤ c.toNat && c.toNat < z + 10)).map (fun z => c.toNat - z)

/-- `str.lower`, as far as it leads to an ASCII letter: the Kelvin sign is
the only other letter that does. -/
def lower (c : Char) : Char :=
  if 65 ≤ c.toNat ∧ c.toNat ≤ 90 then Char.ofNat (c.toNat + 32)
  else if c.toNat = 0x212A then 'k' else c

/-- The value of a hexadecimal digit. -/
def hexDigit? (c : Char) : Option Nat :=
  if 48 ≤ c.toNat ∧ c.toNat ≤ 57 then some (c.toNat - 48)
  else if 97 ≤ c.toNat ∧ c.toNat ≤ 102 then some (c.toNat - 87)
  else if 65 ≤ c.toNat ∧ c.toNat ≤ 70 then some (c.toNat - 55)
  else none

/-! ## §2. Integers. -/

/-- A digit of a number in this base. -/
def digit? (base : Nat) (c : Char) : Option Nat :=
  ((decimal? c).or (hexDigit? c)).filter (· < base)

/-- Digits behind a digit: an underscore may stand before each. -/
def moreDigits (base : Nat) : List Char → Option (List Nat)
  | [] => some []
  | '_' :: c :: rest =>
      match digit? base c with
      | some d => (moreDigits base rest).map (d :: ·)
      | none => none
  | c :: rest =>
      match digit? base c with
      | some d => (moreDigits base rest).map (d :: ·)
      | none => none

/-- At least one digit, the first without an underscore. -/
def digits (base : Nat) : List Char → Option (List Nat)
  | [] => none
  | c :: rest =>
      match digit? base c with
      | some d => (moreDigits base rest).map (d :: ·)
      | none => none

def ofDigits (base : Nat) (ds : List Nat) : Nat := ds.foldl (fun n d => n * base + d) 0

/-- The longest decimal text that is converted. -/
def maxStrDigits : Nat := 4300

/-- The base a prefix letter stands for. -/
def prefixBase? (c : Char) : Option Nat :=
  if c = 'x' ∨ c = 'X' then some 16
  else if c = 'o' ∨ c = 'O' then some 8
  else if c = 'b' ∨ c = 'B' then some 2
  else none

/-- Decimal text.  A leading zero is only allowed in a zero. -/
def decimalLiteral (text : List Char) : Option Nat :=
  match digits 10 text with
  | none => none
  | some ds =>
      if maxStrDigits < ds.length then none
      else if ds.head? = some 0 ∧ ofDigits 10 ds ≠ 0 then none
      else some (ofDigits 10 ds)

/-- An integer without its sign; one underscore may follow the prefix. -/
def unsignedLiteral (text : List Char) : Option Nat :=
  match text with
  | z :: x :: rest =>
      match decimal? z, prefixBase? x with
      | some 0, some base =>
          (digits base (if rest.head? = some '_' then rest.tail else rest)).map (ofDigits base)
      | _, _ => decimalLiteral text
  | _ => decimalLiteral text

/-- `int(text, 0)` -/
def intLiteral (text : List Char) : Option Int :=
  match strip text with
  | '-' :: rest => (unsignedLiteral rest).map (fun n => -(n : Int))
  | '+' :: rest => (unsignedLiteral rest).map (fun n => (n : Int))
  | rest => (unsignedLiteral rest).map (fun n => (n : Int))

example : intLiteral "0xF190".toList = some 0xF190 := by decide

/-- The prefix of base 16, and one underscore behind it. -/
def dropHexPrefix (text : List Char) : List Char :=
  match text with
  | '0' :: x :: rest =>
      if x = 'x' ∨ x = 'X' then if rest.head? = some '_' then rest.tail else rest else text
  | _ => text

/-- Text without its sign, to base 16 or 10. -/
def unsignedOfBase (hex : Bool) (text : List Char) : Option Nat :=
  if hex then (digits 16 (dropHexPrefix text)).map (ofDigits 16)
  else ((digits 10 text).filter (·.length ≤ maxStrDigits)).map (ofDigits 10)

/-- `int(text, 16)` or `int(text, 10)` -/
def intOfBase (hex : Bool) (text : List Char) : Option Int :=
  match strip text with
  | '-' :: rest => (unsignedOfBase hex rest).map (fun n => -(n : Int))
  | '+' :: rest => (unsignedOfBase hex rest).map (fun n => (n : Int))
  | rest => (unsignedOfBase hex rest).map (fun n => (n : Int))

/-! ## §3. Bytes. -/

/-- The blanks `bytes.fromhex` skips. -/
def isBlank (c : Char) : Bool := c = ' ' || (9 ≤ c.toNat && c.toNat ≤ 13)

/-- `bytes.fromhex`: the two digits of a byte stand together. -/
def fromHex : List Char → Option Bytes
  | [] => some []
  | [c] => if isBlank c then some [] else none
  | c :: d :: rest =>
      if isBlank c then fromHex (d :: rest)
      else
        match hexDigit? c, hexDigit? d with
        | some high, some low => (fromHex rest).map (UInt8.ofNat (16 * high + low) :: ·)
        | _, _ => none

/-- `text.encode("ascii")` -/
def encodeAscii : List Char → Option Bytes
  | [] => some []
  | c :: rest =>
      if c.toNat < 128 then (encodeAscii rest).map (UInt8.ofNat c.toNat :: ·) else none

/-- The low bytes of a number, high byte first. -/
def bigEndian : Nat → Nat → Bytes
  | 0, _ => []
  | width + 1, n => bigEndian width (n / 256) ++ [UInt8.ofNat n]

/-- `number.to_bytes(width, "big")` -/
def toBytes (number : Int) (width : Nat) : Option Bytes :=
  if 0 ≤ number ∧ number.toNat < 1 <<< (8 * width) then some (bigEndian width number.toNat)
  else none

/-- `bytes([number])` -/
def byte? (number : Int) : Option UInt8 :=
  if 0 ≤ number ∧ number < 256 then some (UInt8.ofNat number.toNat) else none

/-- `struct.pack("!H", number)` -/
def packH? (number : Int) : Option Bytes :=
  if 0 ≤ number ∧ number < 65536 then some (packH number.toNat) else none

/-- `struct.pack("!I", number)` -/
def packI? (number : Int) : Option Bytes :=
  if 0 ≤ number ∧ number < 4294967296 then some (packI number.toNat) else none

/-- `data[:width].ljust(width, fill)` -/
def fit (width : Nat) (fill : UInt8) (data : Bytes) : Bytes :=
  data.take width ++ List.replicate (width - data.length) fill

/-! ## §4. Their lengths. -/

theorem length_encodeAscii {text : List Char} {data : Bytes} (h : encodeAscii text = some data) :
    data.length = text.length := by
  induction text generalizing data with
  | nil =>
      cases h
      rfl
  | cons c rest ih =>
      simp only [encodeAscii, Option.ite_none_right_eq_some] at h
      obtain ⟨_, h⟩ := h
      obtain ⟨tail, htail, rfl⟩ := Option.map_eq_some_iff.mp h
      rw [List.length_cons, List.length_cons, ih htail]

@[simp] theorem length_bigEndian (width n : Nat) : (bigEndian width n).length = width := by
  induction width generalizing n with
  | zero => rfl
  | succ width ih => rw [bigEndian, List.length_append, ih, List.length_singleton]

theorem length_toBytes {number : Int} {width : Nat} {data : Bytes}
    (h : toBytes number width = some data) : data.length = width := by
  simp only [toBytes, Option.ite_none_right_eq_some, Option.some.injEq] at h
  rw [← h.2, length_bigEndian]

@[simp] theorem length_fit (width : Nat) (fill : UInt8) (data : Bytes) :
    (fit width fill data).length = width := by
  unfold fit
  rw [List.length_append, List.length_take, List.length_replicate]
  omega

/-- Text that is long enough already. -/
theorem fit_self (fill : UInt8) (data : Bytes) : fit data.length fill data = data := by
  simp [fit]

theorem byte?_isSome (number : Int) : (byte? number).isSome = true ↔ 0 ≤ number ∧ number < 256 := by
  unfold byte?
  split
  · rename_i h
    simpa using h
  · rename_i h
    simpa using h

/-- ASCII text can be encoded. -/
theorem encodeAscii_of_lt {text : List Char} (h : ∀ c ∈ text, c.toNat < 128) :
    ∃ data, encodeAscii text = some data ∧ data.length = text.length := by
  induction text with
  | nil => exact ⟨[], rfl, rfl⟩
  | cons c rest ih =>
      obtain ⟨hc, hrest⟩ := List.forall_mem_cons.mp h
      obtain ⟨data, hdata, hlength⟩ := ih hrest
      refine ⟨UInt8.ofNat c.toNat :: data, ?_, ?_⟩
      · rw [encodeAscii, if_pos hc, hdata]
        rfl
      · rw [List.length_cons, List.length_cons, hlength]

/-! ## §5. Hexadecimal text with and without its blanks. -/

theorem hexDigit_kept {c : Char} {n : Nat} (h : hexDigit? c = some n) :
    (c != ' ' && c != '_') = true := by
  by_cases hspace : c = ' '
  · subst hspace
    cases h
  by_cases hunder : c = '_'
  · subst hunder
    cases h
  simp [hspace, hunder]

theorem fromHex_blank {c : Char} (h : isBlank c = true) (text : List Char) :
    fromHex (c :: text) = fromHex text := by
  cases text with
  | nil => simp [fromHex, h]
  | cons d rest =>
      rw [fromHex]
      exact if_pos h

theorem fromHex_filter_blank {c : Char} (h : isBlank c = true) (text : List Char) :
    fromHex ((c :: text).filter (fun c => c != ' ' && c != '_'))
      = fromHex (text.filter (fun c => c != ' ' && c != '_')) := by
  rw [List.filter_cons]
  split
  · exact fromHex_blank h _
  · rfl

/-- Text `bytes.fromhex` accepts spells the same bytes when its spaces and
underscores are taken out. -/
theorem fromHex_filter (text : List Char) (data : Bytes) (h : fromHex text = some data) :
    fromHex (text.filter (fun c => c != ' ' && c != '_')) = some data := by
  induction text using fromHex.induct generalizing data with
  | case1 => exact h
  | case2 c hblank =>
      rw [fromHex_filter_blank hblank]
      rw [fromHex_blank hblank] at h
      exact h
  | case3 c hblank =>
      rw [fromHex, if_neg hblank] at h
      cases h
  | case4 c d rest hblank ih =>
      rw [fromHex_filter_blank hblank]
      rw [fromHex_blank hblank] at h
      exact ih data h
  | case5 c d rest hblank high low hlow hhigh ih =>
      rw [fromHex, if_neg hblank, hhigh, hlow] at h
      obtain ⟨tail, htail, rfl⟩ := Option.map_eq_some_iff.mp h
      -- the digits of a byte stay together
      rw [List.filter_cons, if_pos (hexDigit_kept hhigh), List.filter_cons,
        if_pos (hexDigit_kept hlow), fromHex, if_neg hblank, hhigh, hlow]
      exact Option.map_eq_some_iff.mpr ⟨tail, ih tail htail, rfl⟩
  | case6 c d rest hblank hno =>
      rw [fromHex, if_neg hblank] at h
      split at h
      · rename_i high low hhigh hlow
        exact absurd hlow (hno high low hhigh)
      · cases h

/-- Spaces stand between the bytes only, and there is no underscore;
`first` says that the next digit is the first one of its byte. -/
def betweenBytes : Bool → List Char → Bool
  | _, [] => true
  | first, c :: rest =>
      if c = '_' then false
      else if c = ' ' then first && betweenBytes first rest
      else if (hexDigit? c).isSome then betweenBytes (!first) rest
      else betweenBytes first rest

theorem hexDigit_blank {c : Char} (h : isBlank c = true) : hexDigit? c = none := by
  unfold isBlank at h
  unfold hexDigit?
  simp only [Bool.or_eq_true, Bool.and_eq_true, decide_eq_true_eq] at h
  have hcode : c.toNat = 32 ∨ 9 ≤ c.toNat ∧ c.toNat ≤ 13 := by
    rcases h with rfl | h
    · exact .inl rfl
    · exact .inr h
  split_ifs <;> first | omega | rfl

/-- Digits without anything between them, two for each byte. -/
theorem fromHex_of_digits {size : Nat} {text : List Char} (hlength : text.length = 2 * size)
    (h : ∀ c ∈ text, (hexDigit? c).isSome = true) :
    ∃ data, fromHex text = some data ∧ data.length = size := by
  induction size generalizing text with
  | zero =>
      have hnil : text = [] := List.eq_nil_of_length_eq_zero hlength
      exact ⟨[], by rw [hnil]; rfl, rfl⟩
  | succ size ih =>
      obtain ⟨c, text, rfl⟩ := List.exists_cons_of_length_pos (by omega : 0 < text.length)
      rw [List.length_cons] at hlength
      obtain ⟨d, rest, rfl⟩ := List.exists_cons_of_length_pos (by omega : 0 < text.length)
      rw [List.length_cons] at hlength
      obtain ⟨hc, hd, hrest⟩ : _ ∧ _ ∧ _ := by
        simpa only [List.forall_mem_cons] using h
      obtain ⟨high, hhigh⟩ := Option.isSome_iff_exists.mp hc
      obtain ⟨low, hlow⟩ := Option.isSome_iff_exists.mp hd
      obtain ⟨data, hdata, hsize⟩ := ih (by omega : rest.length = 2 * size) hrest
      have hblank : ¬ isBlank c = true := by
        intro hblank
        rw [hexDigit_blank hblank] at hhigh
        cases hhigh
      refine ⟨UInt8.ofNat (16 * high + low) :: data, ?_, by rw [List.length_cons, hsize]⟩
      rw [fromHex, if_neg hblank, hhigh, hlow, hdata]
      rfl

theorem betweenBytes_blank {c : Char} (h : isBlank c = true) (text : List Char) :
    betweenBytes true (c :: text) = betweenBytes true text := by
  have hunder : c ≠ '_' := by
    rintro rfl
    cases h
  rw [betweenBytes, if_neg hunder]
  split
  · rfl
  · rw [if_neg (by simp [hexDigit_blank h])]

theorem betweenBytes_digit {c : Char} {n : Nat} (h : hexDigit? c = some n) (first : Bool)
    (text : List Char) : betweenBytes first (c :: text) = betweenBytes (!first) text := by
  have hkept := hexDigit_kept h
  simp only [Bool.and_eq_true, bne_iff_ne, ne_eq] at hkept
  rw [betweenBytes, if_neg hkept.2, if_neg hkept.1, if_pos (by rw [h]; rfl)]

/-- A separator inside a byte. -/
theorem betweenBytes_inside {c : Char} (h : (c != ' ' && c != '_') = false) (text : List Char) :
    betweenBytes false (c :: text) = false := by
  rw [betweenBytes]
  split
  · rfl
  · rename_i hunder
    rw [if_pos (by simpa [hunder] using h)]
    rfl

/-- The first of two characters that spell a byte is a digit. -/
theorem hexDigit_of_fromHex {c : Char} {text : List Char} {data : Bytes}
    (hblank : ¬ isBlank c = true) (h : fromHex (c :: text) = some data) :
    ∃ n, hexDigit? c = some n := by
  cases text with
  | nil =>
      rw [fromHex, if_neg hblank] at h
      cases h
  | cons d rest =>
      rw [fromHex, if_neg hblank] at h
      split at h
      · rename_i high _ hhigh _
        exact ⟨high, hhigh⟩
      · cases h

/-- What is taken out and is no blank is an underscore. -/
theorem betweenBytes_dropped {c : Char} (hblank : ¬ isBlank c = true)
    (h : (c != ' ' && c != '_') = false) (first : Bool) (text : List Char) :
    betweenBytes first (c :: text) = false := by
  have hunder : c = '_' := by
    by_contra hunder
    have hspace : c = ' ' := by simpa [hunder] using h
    subst hspace
    exact hblank rfl
  rw [betweenBytes, if_pos hunder]

/-- **When text that spells bytes without its spaces and underscores spells
them with them.** -/
theorem fromHex_isSome_iff (text : List Char) (data : Bytes)
    (h : fromHex (text.filter (fun c => c != ' ' && c != '_')) = some data) :
    (fromHex text).isSome = true ↔ betweenBytes true text = true := by
  induction text using fromHex.induct generalizing data with
  | case1 => exact ⟨fun _ => rfl, fun _ => rfl⟩
  | case2 c hblank =>
      rw [fromHex_blank hblank, betweenBytes_blank hblank]
      exact ⟨fun _ => rfl, fun _ => rfl⟩
  | case3 c hblank =>
      have hnone : fromHex [c] = none := by
        rw [fromHex, if_neg hblank]
      cases hkept : (c != ' ' && c != '_') with
      | true =>
          rw [List.filter_cons, if_pos hkept, List.filter_nil, hnone] at h
          cases h
      | false =>
          rw [hnone, betweenBytes_dropped hblank hkept]
          simp
  | case4 c d rest hblank ih =>
      rw [fromHex_filter_blank hblank] at h
      rw [fromHex_blank hblank, betweenBytes_blank hblank]
      exact ih data h
  | case5 c d rest hblank high low hlow hhigh ih =>
      rw [List.filter_cons, if_pos (hexDigit_kept hhigh), List.filter_cons,
        if_pos (hexDigit_kept hlow), fromHex, if_neg hblank, hhigh, hlow] at h
      obtain ⟨tail, htail, _⟩ := Option.map_eq_some_iff.mp h
      rw [fromHex, if_neg hblank, hhigh, hlow, betweenBytes_digit hhigh, betweenBytes_digit hlow]
      simp only [Option.isSome_map, Bool.not_true, Bool.not_false]
      exact ih tail htail
  | case6 c d rest hblank hno =>
      have hnone : ∀ tail, fromHex (c :: d :: tail) = none := by
        intro tail
        rw [fromHex, if_neg hblank]
        split
        · rename_i high low hhigh hlow
          exact absurd hlow (hno high low hhigh)
        · rfl
      suffices hinside : betweenBytes true (c :: d :: rest) = false by
        rw [hnone, hinside]
        simp
      cases hc : (c != ' ' && c != '_') with
      | false => exact betweenBytes_dropped hblank hc true _
      | true =>
          rw [List.filter_cons, if_pos hc] at h
          obtain ⟨n, hn⟩ := hexDigit_of_fromHex hblank h
          rw [betweenBytes_digit hn]
          -- the second digit of this byte comes behind a separator
          cases hd : (d != ' ' && d != '_') with
          | false => exact betweenBytes_inside hd rest
          | true =>
              rw [List.filter_cons, if_pos hd, hnone] at h
              cases h

end Python
