/-
  DoipPlayground.Lib.Leases
  ─────────────────────────
  **RESOURCES SHARED BY KEY AND COUNTED BY LEASES.**

  A table maps a key to the resource in use for it and the number of its
  leases.  The first lease on a key makes a new resource, the last release
  removes the entry.  A release names the resource it gives back: the key
  may meanwhile be served by a newer one, and then nothing happens.

  What the table is for is the list of leases that are out, one pair (key,
  resource) for each of them:

    • `Serves` — the table counts the leases in a list,
    • `Serves.lease`, `Serves.release`, `release_stale` — one lemma for
      each operation, in terms of that list,
    • `Serves.stored_eq`, `Serves.entry_eq` — the list determines the table,
    • `flatMap_perm`, `flatMap_set_perm` — leases collected over a list of
      holders, one of which changes.
-/
import Mathlib.Data.List.Count
import Mathlib.Data.List.Perm.Basic
import Mathlib.Logic.Function.Basic

namespace Leases

/-! ## §1. The table. -/

structure Table (κ : Type*) where
  entry : κ → Option (Nat × Nat)
  next : Nat

section
variable {κ : Type*} [DecidableEq κ]

/-- No leases. -/
def Table.empty : Table κ := ⟨fun _ => none, 0⟩

/-- One more lease on the key, and its resource. -/
def Table.lease (t : Table κ) (k : κ) : Table κ × Nat :=
  match t.entry k with
  | some (r, n) => ({ t with entry := Function.update t.entry k (some (r, n + 1)) }, r)
  | none => (⟨Function.update t.entry k (some (t.next, 1)), t.next + 1⟩, t.next)

/-- A resource that was numbered and never entered. -/
def Table.skip (t : Table κ) : Table κ := { t with next := t.next + 1 }

/-- Give a lease back; `true` when it was the last one. -/
def Table.release (t : Table κ) (k : κ) (r : Nat) : Table κ × Bool :=
  match t.entry k with
  | none => (t, false)
  | some (current, n) =>
      if current ≠ r then (t, false)
      else if 1 < n then
        ({ t with entry := Function.update t.entry k (some (r, n - 1)) }, false)
      else ({ t with entry := Function.update t.entry k none }, true)

theorem release_next (t : Table κ) (k : κ) (r : Nat) : (t.release k r).1.next = t.next := by
  unfold Table.release
  split
  · rfl
  · split
    · rfl
    · split
      · rfl
      · rfl

/-- The number of leases the table has stored for a key. -/
def Table.stored (t : Table κ) (k : κ) : Nat :=
  match t.entry k with
  | some (_, n) => n
  | none => 0

/-! ## §2. The table and the leases that are out. -/

/-- The table counts the leases in `live`. -/
structure Table.Serves (t : Table κ) (live : List (κ × Nat)) : Prop where
  /-- An entry counts its leases, and there is at least one. -/
  counted : ∀ k r n, t.entry k = some (r, n) → n = live.count (k, r) ∧ 0 < n
  /-- A lease is on the resource its key has. -/
  leased : ∀ k r, (k, r) ∈ live → ∃ n, t.entry k = some (r, n)
  /-- Resources in the table were numbered. -/
  created : ∀ k r n, t.entry k = some (r, n) → r < t.next
  /-- Different keys have different resources. -/
  separate : ∀ k k' r n n', t.entry k = some (r, n) → t.entry k' = some (r, n') → k = k'

theorem serves_empty : (Table.empty : Table κ).Serves [] where
  counted := by simp [Table.empty]
  leased := by simp
  created := by simp [Table.empty]
  separate := by simp [Table.empty]

variable {t : Table κ} {live live' : List (κ × Nat)}

/-- The order of the leases does not matter. -/
theorem Table.Serves.perm (h : t.Serves live) (hp : live.Perm live') : t.Serves live' where
  counted := by
    intro k r n hk
    rw [← hp.count_eq]
    exact h.counted k r n hk
  leased := fun k r hm => h.leased k r (hp.mem_iff.mpr hm)
  created := h.created
  separate := h.separate

theorem Table.Serves.skip (h : t.Serves live) : t.skip.Serves live where
  counted := h.counted
  leased := h.leased
  created := fun k r n hk => Nat.lt_succ_of_lt (h.created k r n hk)
  separate := h.separate

/-- The leases on one key are on one resource. -/
theorem Table.Serves.resource_unique (h : t.Serves live) {k : κ} {r r' : Nat}
    (hr : (k, r) ∈ live) (hr' : (k, r') ∈ live) : r = r' := by
  obtain ⟨n, hn⟩ := h.leased k r hr
  obtain ⟨n', hn'⟩ := h.leased k r' hr'
  rw [hn, Option.some.injEq, Prod.mk.injEq] at hn'
  exact hn'.1

/-- The leases on one resource are on one key. -/
theorem Table.Serves.key_unique (h : t.Serves live) {k k' : κ} {r : Nat}
    (hk : (k, r) ∈ live) (hk' : (k', r) ∈ live) : k = k' := by
  obtain ⟨n, hn⟩ := h.leased k r hk
  obtain ⟨n', hn'⟩ := h.leased k' r hk'
  exact h.separate k k' r n n' hn hn'

theorem Table.Serves.lt_next (h : t.Serves live) {k : κ} {r : Nat} (hr : (k, r) ∈ live) :
    r < t.next := by
  obtain ⟨n, hn⟩ := h.leased k r hr
  exact h.created k r n hn

/-- Overwriting the entry of one key by one for a resource of its own. -/
theorem Table.Serves.update (h : t.Serves live) {k : κ} {r n next : Nat}
    (hnext : t.next ≤ next) (hr : r < next) (hn : n = live'.count (k, r)) (hpos : 0 < n)
    (hown : ∀ k' m, t.entry k' = some (r, m) → k' = k)
    (hsame : ∀ k' r', k' ≠ k → live'.count (k', r') = live.count (k', r'))
    (hkey : ∀ r', (k, r') ∈ live' → r' = r) :
    (⟨Function.update t.entry k (some (r, n)), next⟩ : Table κ).Serves live' := by
  constructor
  · intro k' r' n' hk'
    dsimp only at hk'
    by_cases hkk : k' = k
    · subst hkk
      rw [Function.update_self, Option.some.injEq, Prod.mk.injEq] at hk'
      obtain ⟨rfl, rfl⟩ := hk'
      exact ⟨hn, hpos⟩
    · rw [Function.update_of_ne hkk] at hk'
      rw [hsame k' r' hkk]
      exact h.counted k' r' n' hk'
  · intro k' r' hm
    show ∃ n', Function.update t.entry k (some (r, n)) k' = some (r', n')
    by_cases hkk : k' = k
    · subst hkk
      rw [Function.update_self, hkey r' hm]
      exact ⟨n, rfl⟩
    · rw [Function.update_of_ne hkk]
      apply h.leased
      rw [← List.count_pos_iff, ← hsame k' r' hkk]
      exact List.count_pos_iff.mpr hm
  · intro k' r' n' hk'
    dsimp only at hk' ⊢
    by_cases hkk : k' = k
    · subst hkk
      rw [Function.update_self, Option.some.injEq, Prod.mk.injEq] at hk'
      omega
    · rw [Function.update_of_ne hkk] at hk'
      have := h.created k' r' n' hk'
      omega
  · intro k₁ k₂ r' n₁ n₂ h₁ h₂
    dsimp only at h₁ h₂
    by_cases hk₁ : k₁ = k
    · by_cases hk₂ : k₂ = k
      · rw [hk₁, hk₂]
      · subst hk₁
        rw [Function.update_self, Option.some.injEq, Prod.mk.injEq] at h₁
        rw [Function.update_of_ne hk₂] at h₂
        exact (hown k₂ n₂ (h₁.1 ▸ h₂)).symm
    · rw [Function.update_of_ne hk₁] at h₁
      by_cases hk₂ : k₂ = k
      · subst hk₂
        rw [Function.update_self, Option.some.injEq, Prod.mk.injEq] at h₂
        exact hown k₁ n₁ (h₂.1 ▸ h₁)
      · rw [Function.update_of_ne hk₂] at h₂
        exact h.separate k₁ k₂ r' n₁ n₂ h₁ h₂

/-- **A lease** is one pair more. -/
theorem Table.Serves.lease (h : t.Serves live) (k : κ) :
    (t.lease k).1.Serves ((k, (t.lease k).2) :: live) := by
  have hsame : ∀ r k' r', k' ≠ k →
      List.count (k', r') ((k, r) :: live) = live.count (k', r') := by
    intro r k' r' hkk
    rw [List.count_cons_of_ne]
    intro heq
    exact hkk (congrArg Prod.fst heq).symm
  unfold Table.lease
  cases hk : t.entry k with
  | none =>
      have hnone : ∀ r, (k, r) ∉ live := by
        intro r hm
        obtain ⟨n, hn⟩ := h.leased k r hm
        rw [hk] at hn
        cases hn
      have hzero : live.count (k, t.next) = 0 := List.count_eq_zero.mpr (hnone t.next)
      apply h.update (Nat.le_succ _) (Nat.lt_succ_self _) _ Nat.one_pos _ (hsame _)
      · intro r' hm
        rcases List.mem_cons.mp hm with heq | hm
        · exact congrArg Prod.snd heq
        · exact absurd hm (hnone r')
      · rw [List.count_cons_self, hzero]
      · intro k' m hm
        exact absurd (h.created k' _ m hm) (Nat.lt_irrefl _)
  | some p =>
      obtain ⟨r, n⟩ := p
      apply h.update (Nat.le_refl _) (h.created k r n hk) _ (Nat.succ_pos n) _ (hsame _)
      · intro r' hm
        rcases List.mem_cons.mp hm with heq | hm
        · exact congrArg Prod.snd heq
        · obtain ⟨n', hn'⟩ := h.leased k r' hm
          rw [hk, Option.some.injEq, Prod.mk.injEq] at hn'
          exact hn'.1.symm
      · rw [List.count_cons_self, ← (h.counted k r n hk).1]
      · intro k' m hm
        exact h.separate k' k r m n hm hk

/-- **A stale release** changes nothing: no lease, no effect. -/
theorem release_stale (h : t.Serves live) {k : κ} {r : Nat} (hr : (k, r) ∉ live) :
    t.release k r = (t, false) := by
  unfold Table.release
  cases hk : t.entry k with
  | none => rfl
  | some p =>
      obtain ⟨current, n⟩ := p
      have hne : current ≠ r := by
        rintro rfl
        have hcount := h.counted k current n hk
        rw [List.count_eq_zero.mpr hr] at hcount
        omega
      exact if_pos hne

/-- **A release** is one pair less, and says whether it was the last one. -/
theorem Table.Serves.release (h : t.Serves live) {k : κ} {r : Nat} (hr : (k, r) ∈ live) :
    (t.release k r).1.Serves (live.erase (k, r))
      ∧ ((t.release k r).2 = true ↔ (k, r) ∉ live.erase (k, r)) := by
  obtain ⟨n, hk⟩ := h.leased k r hr
  obtain ⟨hn, hpos⟩ := h.counted k r n hk
  have hself : (live.erase (k, r)).count (k, r) = n - 1 := by
    rw [List.count_erase_self, hn]
  have hkey : ∀ r', (k, r') ∈ live.erase (k, r) → r' = r := fun r' hm =>
    h.resource_unique (List.mem_of_mem_erase hm) hr
  have hsame : ∀ k' r', k' ≠ k →
      (live.erase (k, r)).count (k', r') = live.count (k', r') := by
    intro k' r' hkk
    apply List.count_erase_of_ne
    intro heq
    exact hkk (congrArg Prod.fst heq)
  unfold Table.release
  rw [hk]
  dsimp only
  rw [if_neg (not_not.mpr rfl)]
  split
  · rename_i htwo
    -- the resource stays, with a lease less
    refine ⟨?_, ?_⟩
    · apply h.update (Nat.le_refl _) (h.created k r n hk) hself.symm (by omega) _ hsame hkey
      intro k' m hm
      exact h.separate k' k r m n hm hk
    · have hmem : (k, r) ∈ live.erase (k, r) := List.count_pos_iff.mp (by omega)
      simp [hmem]
  · rename_i hone
    -- the last lease: the key is given up
    have hgone : ∀ r', (k, r') ∉ live.erase (k, r) := by
      intro r' hm
      have := List.count_pos_iff.mpr (hkey r' hm ▸ hm)
      omega
    refine ⟨⟨?_, ?_, ?_, ?_⟩, by simp [hgone r]⟩
    · intro k' r' n' hk'
      dsimp only at hk'
      by_cases hkk : k' = k
      · subst hkk
        rw [Function.update_self] at hk'
        cases hk'
      · rw [Function.update_of_ne hkk] at hk'
        rw [hsame k' r' hkk]
        exact h.counted k' r' n' hk'
    · intro k' r' hm
      have hkk : k' ≠ k := by
        rintro rfl
        exact hgone r' hm
      show ∃ n', Function.update t.entry k none k' = some (r', n')
      rw [Function.update_of_ne hkk]
      exact h.leased k' r' (List.mem_of_mem_erase hm)
    · intro k' r' n' hk'
      dsimp only at hk'
      by_cases hkk : k' = k
      · subst hkk
        rw [Function.update_self] at hk'
        cases hk'
      · rw [Function.update_of_ne hkk] at hk'
        exact h.created k' r' n' hk'
    · intro k₁ k₂ r' n₁ n₂ h₁ h₂
      dsimp only at h₁ h₂
      by_cases hk₁ : k₁ = k
      · subst hk₁
        rw [Function.update_self] at h₁
        cases h₁
      · by_cases hk₂ : k₂ = k
        · subst hk₂
          rw [Function.update_self] at h₂
          cases h₂
        · rw [Function.update_of_ne hk₁] at h₁
          rw [Function.update_of_ne hk₂] at h₂
          exact h.separate k₁ k₂ r' n₁ n₂ h₁ h₂

/-! ## §3. The leases determine the table. -/

/-- The stored count is the number of leases on the key. -/
theorem Table.Serves.stored_eq (h : t.Serves live) (k : κ) :
    t.stored k = live.countP (fun e => e.1 = k) := by
  unfold Table.stored
  cases hk : t.entry k with
  | none =>
      symm
      apply List.countP_eq_zero.mpr
      intro e he hek
      obtain ⟨n, hn⟩ := h.leased e.1 e.2 he
      rw [of_decide_eq_true hek, hk] at hn
      cases hn
  | some p =>
      obtain ⟨r, n⟩ := p
      show n = _
      rw [(h.counted k r n hk).1, List.count]
      apply List.countP_congr
      intro e he
      simp only [beq_iff_eq, decide_eq_true_eq]
      constructor
      · rintro rfl
        rfl
      · rintro rfl
        obtain ⟨m, hm⟩ := h.leased e.1 e.2 he
        rw [hk, Option.some.injEq, Prod.mk.injEq] at hm
        rw [hm.1]

/-- There is an entry exactly while there is a lease. -/
theorem Table.Serves.entry_iff (h : t.Serves live) (k : κ) :
    (t.entry k).isSome ↔ ∃ r, (k, r) ∈ live := by
  constructor
  · intro hsome
    obtain ⟨⟨r, n⟩, hk⟩ := Option.isSome_iff_exists.mp hsome
    obtain ⟨hn, hpos⟩ := h.counted k r n hk
    exact ⟨r, List.count_pos_iff.mp (hn ▸ hpos)⟩
  · rintro ⟨r, hr⟩
    obtain ⟨n, hn⟩ := h.leased k r hr
    rw [hn]
    rfl

/-- Two tables with the same leases have the same entries. -/
theorem Table.Serves.entry_eq {t' : Table κ} (h : t.Serves live) (h' : t'.Serves live) :
    t.entry = t'.entry := by
  funext k
  cases hk : t.entry k with
  | none =>
      cases hk' : t'.entry k with
      | none => rfl
      | some p =>
          have hlive := (h'.entry_iff k).mp (by rw [hk']; rfl)
          have hsome := (h.entry_iff k).mpr hlive
          rw [hk] at hsome
          cases hsome
  | some p =>
      obtain ⟨r, n⟩ := p
      obtain ⟨hn, hpos⟩ := h.counted k r n hk
      obtain ⟨n', hn'⟩ := h'.leased k r (List.count_pos_iff.mp (hn ▸ hpos))
      rw [hn', hn, (h'.counted k r n' hn').1]

end

/-! ## §4. Leases over a list of holders. -/

section
variable {α β : Type*} {f : α → List β} {holders : List α} {i : Nat} {a : α}

/-- The leases of one holder, and those of the others. -/
theorem flatMap_perm (h : holders[i]? = some a) :
    (holders.flatMap f).Perm (f a ++ (holders.eraseIdx i).flatMap f) := by
  obtain ⟨hi, rfl⟩ := List.getElem?_eq_some_iff.mp h
  exact ((List.getElem_cons_eraseIdx_perm hi).symm.flatMap_right f)

/-- A holder that changes leaves the leases of the others alone. -/
theorem flatMap_set_perm (h : holders[i]? = some a) (b : α) :
    ((holders.set i b).flatMap f).Perm (f b ++ (holders.eraseIdx i).flatMap f) := by
  obtain ⟨hi, _⟩ := List.getElem?_eq_some_iff.mp h
  have hset : (holders.set i b)[i]? = some b := List.getElem?_set_self hi
  rw [← List.eraseIdx_set_eq (a := b)]
  exact flatMap_perm hset

/-- Counting leases, where each holder has one of the counted or none. -/
theorem countP_flatMap_eq {p : β → Bool} {q : α → Bool}
    (h : ∀ a ∈ holders, (f a).countP p = if q a then 1 else 0) :
    (holders.flatMap f).countP p = holders.countP q := by
  induction holders with
  | nil => rfl
  | cons a holders ih =>
      rw [List.flatMap_cons, List.countP_append, List.countP_cons,
        h a List.mem_cons_self, ih fun b hb => h b (List.mem_cons_of_mem a hb)]
      omega

end

end Leases
