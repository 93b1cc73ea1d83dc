/-
  DoipPlayground.Lib.OwnerTable
  ─────────────────────────────
  **A TABLE FROM KEYS TO OWNERS with identity-checked removal.**

  Registering overwrites the entry of a key; removing names the owner it
  removes and leaves the entry alone when another owner has replaced it.

    • `lookup_register`, `lookup_unregister` — both operations read back,
    • `count_register_self`, `count_register_le`, `count_unregister_le` —
      how the number of keys moves,
    • `mem_owners` — a snapshot of the owners has those that are looked up.
-/
import Mathlib.Data.List.AList

/-- Keys with their owners, in the order of registration. -/
abbrev OwnerTable (κ ι : Type) : Type := AList (fun _ : κ => ι)

namespace OwnerTable

variable {κ ι : Type} [DecidableEq κ] [DecidableEq ι]

/-- Overwrite the entry of `k`. -/
def register (t : OwnerTable κ ι) (k : κ) (i : ι) : OwnerTable κ ι := AList.insert k i t

/-- Remove the entry of `k` if it still names `i`. -/
def unregister (t : OwnerTable κ ι) (k : κ) (i : ι) : OwnerTable κ ι :=
  if AList.lookup k t = some i then AList.erase k t else t

/-- The owners, in the order of the keys. -/
def owners (t : OwnerTable κ ι) : List ι := t.entries.map (fun e => e.2)

/-- The number of keys. -/
def count (t : OwnerTable κ ι) : Nat := t.keys.length

omit [DecidableEq ι] in
theorem lookup_register (t : OwnerTable κ ι) (k k' : κ) (i : ι) :
    (register t k i).lookup k' = if k' = k then some i else t.lookup k' := by
  unfold register
  by_cases h : k' = k
  · subst h
    rw [if_pos rfl, AList.lookup_insert]
  · rw [if_neg h, AList.lookup_insert_ne h]

theorem lookup_unregister (t : OwnerTable κ ι) (k k' : κ) (i : ι) :
    (unregister t k i).lookup k'
      = if k' = k ∧ t.lookup k = some i then none else t.lookup k' := by
  unfold unregister
  by_cases hown : t.lookup k = some i
  · rw [if_pos hown]
    by_cases h : k' = k
    · subst h
      rw [if_pos ⟨rfl, hown⟩, AList.lookup_erase]
    · rw [if_neg (fun hc => h hc.1), AList.lookup_erase_ne h]
  · rw [if_neg hown, if_neg (fun hc => hown hc.2)]

omit [DecidableEq ι] in
theorem mem_owners {t : OwnerTable κ ι} {i : ι} : i ∈ owners t ↔ ∃ k, t.lookup k = some i := by
  unfold owners
  rw [List.mem_map]
  constructor
  · rintro ⟨⟨k, j⟩, hmem, rfl⟩
    exact ⟨k, AList.mem_lookup_iff.mpr hmem⟩
  · rintro ⟨k, hk⟩
    exact ⟨⟨k, i⟩, AList.mem_lookup_iff.mp hk, rfl⟩

omit [DecidableEq ι] in
/-- Registering a key that is in the table keeps the count. -/
theorem count_register_self {t : OwnerTable κ ι} {k : κ} {i : ι} (h : t.lookup k = some i)
    (j : ι) : count (register t k j) = count t := by
  have hmem : k ∈ t.keys := by
    rw [← AList.mem_keys, ← AList.lookup_isSome, h]
    rfl
  unfold count register
  rw [AList.keys_insert, List.length_cons, List.length_erase_of_mem hmem]
  have : 0 < t.keys.length := List.length_pos_of_mem hmem
  omega

omit [DecidableEq ι] in
/-- Registering adds at most one key. -/
theorem count_register_le (t : OwnerTable κ ι) (k : κ) (i : ι) :
    count (register t k i) ≤ count t + 1 := by
  unfold count register
  rw [AList.keys_insert, List.length_cons]
  have : (t.keys.erase k).length ≤ t.keys.length := List.length_erase_le
  omega

theorem count_unregister_le (t : OwnerTable κ ι) (k : κ) (i : ι) :
    count (unregister t k i) ≤ count t := by
  unfold unregister
  split
  · show (AList.erase k t).keys.length ≤ t.keys.length
    rw [AList.keys_erase]
    exact List.length_erase_le
  · exact Nat.le_refl _

end OwnerTable
