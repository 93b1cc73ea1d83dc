/-
  DoipPlayground.Lib.Reservations
  ───────────────────────────────
  **A LIMITED NUMBER OF PLACES.**

  A key that holds a place keeps it, whoever reserves it again; a place may
  have an owner.  That no more places are held than there are is part of
  the type.

    • `reserve`, `attach`, `release` — the three operations and who holds a
      place after them,
    • `Later` — what any number of them can do; `Later.not_held` says that
      a key that has given its place back gets another one only by being
      admitted again.
-/
import Mathlib.Data.List.AList

/-- At most `capacity` keys hold a place, each with an owner or without. -/
structure Reservations (κ ι : Type) [DecidableEq κ] (capacity : Nat) where
  places : AList (fun _ : κ => Option ι)
  /-- Every key that was given a place, in order; nothing reads it. -/
  admitted : List κ
  bounded : places.keys.length ≤ capacity

namespace Reservations

variable {κ ι : Type} [DecidableEq κ] {capacity : Nat}

/-! ## §1. The operations. -/

def empty : Reservations κ ι capacity where
  places := ∅
  admitted := []
  bounded := Nat.zero_le _

def Held (r : Reservations κ ι capacity) (k : κ) : Prop := k ∈ r.places

instance Held.decidable (r : Reservations κ ι capacity) (k : κ) : Decidable (r.Held k) :=
  inferInstanceAs (Decidable (k ∈ r.places.keys))

/-- How many places are held. -/
def count (r : Reservations κ ι capacity) : Nat := r.places.keys.length

/-- A place for `k`, unless it has one; `none` when all are taken. -/
def reserve (r : Reservations κ ι capacity) (k : κ) : Option (Reservations κ ι capacity) :=
  if r.Held k then some r
  else if h : capacity ≤ r.count then none
  else
    some
      { places := r.places.insert k none
        admitted := r.admitted ++ [k]
        bounded := by
          have hfree : r.places.keys.length < capacity := Nat.not_le.mp h
          have herase := List.length_erase_le (a := k) (l := r.places.keys)
          rw [AList.keys_insert, List.length_cons]
          omega }

/-- The owner of a place that is held. -/
def setOwner (r : Reservations κ ι capacity) (k : κ) (owner : ι) : Reservations κ ι capacity :=
  if h : r.Held k then
    { r with
      -- in place of the entry it has
      places := r.places.insert k (some owner)
      bounded := by
        have hmem : k ∈ r.places.keys := h
        have hsame := List.length_erase_of_mem hmem
        have hpos := List.length_pos_of_mem hmem
        have hbounded := r.bounded
        rw [AList.keys_insert, List.length_cons]
        omega }
  else r

/-- A place for `k`, with its owner. -/
def attach (r : Reservations κ ι capacity) (k : κ) (owner : ι) :
    Option (Reservations κ ι capacity) :=
  (r.reserve k).map fun r => r.setOwner k owner

/-- Give the place of `k` back, if it has one. -/
def release (r : Reservations κ ι capacity) (k : κ) : Reservations κ ι capacity where
  places := r.places.erase k
  admitted := r.admitted
  bounded := by
    have hle := List.length_erase_le (a := k) (l := r.places.keys)
    have hbounded := r.bounded
    rw [AList.keys_erase]
    omega

/-! ## §2. Who holds a place. -/

variable {r r' r'' : Reservations κ ι capacity} {k k' : κ}

theorem count_le (r : Reservations κ ι capacity) : r.count ≤ capacity := r.bounded

theorem not_held_empty : ¬ (empty : Reservations κ ι capacity).Held k := AList.notMem_empty k

/-- A key that holds a place does not get a second one. -/
theorem reserve_held (h : r.Held k) : r.reserve k = some r := if_pos h

/-- A key without a place gets one, while there are any. -/
theorem reserve_free (h : ¬ r.Held k) (hfree : r.count < capacity) :
    ∃ r', r.reserve k = some r' ∧ (∀ k', r'.Held k' ↔ k' = k ∨ r.Held k')
      ∧ r'.admitted = r.admitted ++ [k] := by
  refine ⟨_, (if_neg h).trans (dif_neg (Nat.not_le.mpr hfree)), ?_, rfl⟩
  intro k'
  exact AList.mem_insert r.places

theorem reserve_eq_some (h : r.reserve k = some r') :
    (r.Held k ∧ r' = r) ∨ (¬ r.Held k ∧ (∀ k', r'.Held k' ↔ k' = k ∨ r.Held k')
      ∧ r'.admitted = r.admitted ++ [k]) := by
  by_cases hheld : r.Held k
  · rw [reserve_held hheld, Option.some.injEq] at h
    exact Or.inl ⟨hheld, h.symm⟩
  · by_cases hfree : r.count < capacity
    · obtain ⟨r'', hr'', hwho⟩ := reserve_free hheld hfree
      rw [hr'', Option.some.injEq] at h
      exact Or.inr ⟨hheld, h ▸ hwho⟩
    · have hnone : r.reserve k = none :=
        (if_neg hheld).trans (dif_pos (Nat.not_lt.mp hfree))
      rw [hnone] at h
      cases h

theorem held_setOwner (r : Reservations κ ι capacity) (k k' : κ) (owner : ι) :
    (r.setOwner k owner).Held k' ↔ r.Held k' := by
  unfold setOwner
  split
  · rename_i hheld
    show k' ∈ r.places.insert k (some owner) ↔ _
    rw [AList.mem_insert]
    constructor
    · intro h
      rcases h with rfl | h
      · exact hheld
      · exact h
    · exact Or.inr
  · exact Iff.rfl

@[simp] theorem admitted_setOwner (r : Reservations κ ι capacity) (k : κ) (owner : ι) :
    (r.setOwner k owner).admitted = r.admitted := by
  unfold setOwner
  split <;> rfl

theorem count_setOwner (r : Reservations κ ι capacity) (k : κ) (owner : ι) :
    (r.setOwner k owner).count = r.count := by
  unfold setOwner
  split
  · rename_i hheld
    have hmem : k ∈ r.places.keys := hheld
    have hsame := List.length_erase_of_mem hmem
    have hpos := List.length_pos_of_mem hmem
    show (r.places.insert k (some owner)).keys.length = r.places.keys.length
    rw [AList.keys_insert, List.length_cons]
    omega
  · rfl

theorem attach_held (h : r.Held k) (owner : ι) : r.attach k owner = some (r.setOwner k owner) := by
  unfold attach
  rw [reserve_held h]
  rfl

theorem held_release (r : Reservations κ ι capacity) (k k' : κ) :
    (r.release k).Held k' ↔ k' ≠ k ∧ r.Held k' := AList.mem_erase

/-! ## §3. What happens in the course of time. -/

/-- `r'` may be what has become of `r`: new keys have been admitted, and
nobody else has got a place. -/
def Later (r r' : Reservations κ ι capacity) : Prop :=
  ∃ more, r'.admitted = r.admitted ++ more ∧ ∀ k, r'.Held k → r.Held k ∨ k ∈ more

namespace Later

theorem refl (r : Reservations κ ι capacity) : r.Later r :=
  ⟨[], (List.append_nil _).symm, fun _ h => Or.inl h⟩

theorem trans (h : r.Later r') (h' : r'.Later r'') : r.Later r'' := by
  obtain ⟨more, hadmitted, hheld⟩ := h
  obtain ⟨more', hadmitted', hheld'⟩ := h'
  refine ⟨more ++ more', ?_, ?_⟩
  · rw [hadmitted', hadmitted, List.append_assoc]
  · intro k hk
    rcases hheld' k hk with hk | hk
    · rcases hheld k hk with hk | hk
      · exact Or.inl hk
      · exact Or.inr (List.mem_append_left _ hk)
    · exact Or.inr (List.mem_append_right _ hk)

theorem reserve (h : r.reserve k = some r') : r.Later r' := by
  rcases reserve_eq_some h with ⟨_, rfl⟩ | ⟨_, hwho, hadmitted⟩
  · exact refl r'
  · refine ⟨[k], hadmitted, ?_⟩
    intro k' hk'
    rcases (hwho k').mp hk' with rfl | hk'
    · exact Or.inr (List.mem_singleton_self _)
    · exact Or.inl hk'

theorem attach {owner : ι} (h : r.attach k owner = some r') : r.Later r' := by
  obtain ⟨r₁, hr₁, rfl⟩ := Option.map_eq_some_iff.mp h
  obtain ⟨more, hadmitted, hheld⟩ := Later.reserve hr₁
  refine ⟨more, by rw [admitted_setOwner, hadmitted], ?_⟩
  intro k' hk'
  exact hheld k' ((held_setOwner r₁ k k' owner).mp hk')

theorem release (r : Reservations κ ι capacity) (k : κ) : r.Later (r.release k) :=
  ⟨[], (List.append_nil _).symm, fun _ hk' => Or.inl ((held_release r k _).mp hk').2⟩

/-- **A place that was given back** is not given again, where no key is
admitted twice. -/
theorem not_held (h : r.Later r') (honce : r'.admitted.Nodup) (hk : k ∈ r.admitted)
    (hreleased : ¬ r.Held k) : ¬ r'.Held k := by
  obtain ⟨more, hadmitted, hheld⟩ := h
  rw [hadmitted] at honce
  intro hagain
  rcases hheld k hagain with hold | hnew
  · exact hreleased hold
  -- among the new ones it would be admitted a second time
  · exact (List.nodup_append.mp honce).2.2 k hk k hnew rfl

end Later

end Reservations
