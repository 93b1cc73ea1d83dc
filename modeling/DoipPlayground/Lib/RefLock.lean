/-
  DoipPlayground.Lib.RefLock
  ──────────────────────────
  **A TABLE OF REFERENCE-COUNTED LOCKS, one lock object per key.**

  Clients guard a critical section per key.  The lock object of a key is
  created by the first client that enters, shared by all that enter while
  it is in use, and dropped from the table by the last one that leaves;
  the table entry is the pair (lock object, number of users).  A client
  leaves from inside the section or, when it gives up, while it is still
  waiting: both run the same code.

    • `enter`, `acquire`, `leave` — the three operations,
    • `Inv` — the counting invariant, kept by every operation,
    • `mutual_exclusion` — two holders for one key are one contender,
    • `entry_iff_contender` — the table has no stale and no missing entry,
    • `acquire_eq_hold` — what a table of real lock objects has to prove.
-/
import Mathlib.Data.List.Count
import Mathlib.Data.List.Nodup
import Mathlib.Logic.Function.Basic
import Mathlib.Logic.Relation

namespace RefLock

/-! ## §1. The table and its operations. -/

/-- A client between entering and leaving the guarded section of `key`,
with the lock object it picked up on entering. -/
structure Contender (κ ι : Type*) where
  key : κ
  client : ι
  lock : Nat
  holding : Bool
  deriving DecidableEq, Repr

/-- The lock table with the contenders it serves.  `next` numbers the lock
objects: every one created is a new one. -/
structure Table (κ ι : Type*) where
  entry : κ → Option (Nat × Nat)
  contenders : List (Contender κ ι)
  next : Nat

section
variable {κ ι : Type*} [DecidableEq κ] [DecidableEq ι]

/-- No entry, no contender. -/
def Table.empty : Table κ ι := ⟨fun _ => none, [], 0⟩

/-- Pick up the lock object of `k`, or a new one, and count one more user. -/
def Table.enter (t : Table κ ι) (k : κ) (c : ι) : Table κ ι :=
  let (lock, users) := (t.entry k).getD (t.next, 0)
  { entry := Function.update t.entry k (some (lock, users + 1)),
    contenders := ⟨k, c, lock, false⟩ :: t.contenders,
    next := t.next + 1 }

/-- A lock object nobody holds. -/
def Table.free (t : Table κ ι) (lock : Nat) : Bool :=
  t.contenders.all (fun x => !(x.lock == lock && x.holding))

/-- The record of a client inside. -/
def Table.find (t : Table κ ι) (c : ι) : Option (Contender κ ι) :=
  t.contenders.find? (fun x => x.client == c)

/-- A waiting client gets its lock, once nobody holds it. -/
def Table.acquire (t : Table κ ι) (c : ι) : Option (Table κ ι) :=
  match t.find c with
  | some x =>
      if !x.holding && t.free x.lock then
        some { t with contenders := { x with holding := true } :: t.contenders.erase x }
      else none
  | none => none

/-- Release the lock, or stop waiting for it, and count one user less; the
last user removes the entry.  A client that is not inside changes nothing. -/
def Table.leave (t : Table κ ι) (c : ι) : Table κ ι :=
  match t.find c with
  | some x =>
      let entry := match t.entry x.key with
        | some (_, users) =>
            if users = 1 then Function.update t.entry x.key none
            else Function.update t.entry x.key (some (x.lock, users - 1))
        | none => t.entry
      { t with entry := entry, contenders := t.contenders.erase x }
  | none => t

/-! ## §2. The counting invariant. -/

/-- The number of contenders for a key. -/
def Table.users (t : Table κ ι) (k : κ) : Nat :=
  t.contenders.countP (fun x => x.key = k)

/-- What every table in use satisfies. -/
structure Table.Inv (t : Table κ ι) : Prop where
  /-- A client is inside at most once. -/
  nodup : (t.contenders.map Contender.client).Nodup
  /-- Every contender uses the lock object its key is mapped to. -/
  shared : ∀ x ∈ t.contenders, ∃ n, t.entry x.key = some (x.lock, n)
  /-- An entry counts its contenders, and there is at least one. -/
  counted : ∀ k l n, t.entry k = some (l, n) → n = t.users k ∧ 0 < n
  /-- Lock objects in the table were created. -/
  created : ∀ k l n, t.entry k = some (l, n) → l < t.next
  /-- Different keys have different lock objects. -/
  separate : ∀ k k' l n n', t.entry k = some (l, n) → t.entry k' = some (l, n') → k = k'
  /-- A lock object has at most one holder. -/
  exclusive : ∀ x ∈ t.contenders, ∀ y ∈ t.contenders,
    x.holding = true → y.holding = true → x.lock = y.lock → x = y

omit [DecidableEq ι] in
theorem inv_empty : (Table.empty : Table κ ι).Inv where
  nodup := by simp [Table.empty]
  shared := by simp [Table.empty]
  counted := by simp [Table.empty]
  created := by simp [Table.empty]
  separate := by simp [Table.empty]
  exclusive := by simp [Table.empty]

/-- A client is in the table. -/
def Table.Inside (t : Table κ ι) (c : ι) : Prop := ∃ x ∈ t.contenders, x.client = c

/-- The client holds the lock of the key. -/
def Table.Holds (t : Table κ ι) (k : κ) (c : ι) : Prop :=
  ∃ x ∈ t.contenders, x.client = c ∧ x.key = k ∧ x.holding = true

/-- The client waits for the lock of the key. -/
def Table.Waits (t : Table κ ι) (k : κ) (c : ι) : Prop :=
  ∃ x ∈ t.contenders, x.client = c ∧ x.key = k ∧ x.holding = false

omit [DecidableEq κ] in
theorem find_some {t : Table κ ι} {c : ι} {x : Contender κ ι} (h : t.find c = some x) :
    x ∈ t.contenders ∧ x.client = c := by
  refine ⟨List.mem_of_find?_eq_some h, ?_⟩
  simpa using List.find?_some h

omit [DecidableEq κ] in
theorem find_none {t : Table κ ι} {c : ι} (h : t.find c = none) : ¬ t.Inside c := by
  rintro ⟨x, hx, hc⟩
  have := List.find?_eq_none.mp h x hx
  simp [hc] at this

omit [DecidableEq ι] in
/-- One client, one record. -/
theorem Table.Inv.record_unique {t : Table κ ι} (h : t.Inv) {x y : Contender κ ι}
    (hx : x ∈ t.contenders) (hy : y ∈ t.contenders) (hc : x.client = y.client) : x = y :=
  List.inj_on_of_nodup_map h.nodup hx hy hc

/-- The record of a client is the one that `find` returns. -/
theorem Table.Inv.find_eq {t : Table κ ι} (h : t.Inv) {x : Contender κ ι}
    (hx : x ∈ t.contenders) : t.find x.client = some x := by
  cases hf : t.find x.client with
  | none => exact absurd ⟨x, hx, rfl⟩ (find_none hf)
  | some y =>
      obtain ⟨hy, hc⟩ := find_some hf
      rw [h.record_unique hy hx hc]

/-! ## §3. Every operation keeps the invariant. -/

omit [DecidableEq ι] in
/-- Entering, with the lock object picked up named. -/
theorem enter_eq (t : Table κ ι) (k : κ) (c : ι) :
    ∃ l n, (t.entry k = some (l, n) ∨ (t.entry k = none ∧ l = t.next ∧ n = 0))
      ∧ t.enter k c = { entry := Function.update t.entry k (some (l, n + 1)),
                        contenders := ⟨k, c, l, false⟩ :: t.contenders,
                        next := t.next + 1 } := by
  cases hk : t.entry k with
  | none => exact ⟨t.next, 0, .inr ⟨rfl, rfl, rfl⟩, by simp [Table.enter, hk]⟩
  | some p => exact ⟨p.1, p.2, .inl rfl, by simp [Table.enter, hk]⟩

omit [DecidableEq ι] in
theorem Table.Inv.enter {t : Table κ ι} (h : t.Inv) (k : κ) {c : ι} (hc : ¬ t.Inside c) :
    (t.enter k c).Inv := by
  obtain ⟨l, n, hpick, heq⟩ := enter_eq t k c
  rw [heq]
  -- the picked lock belongs to `k` alone, and `n` counts its contenders
  have hcount : n = t.users k := by
    rcases hpick with hk | ⟨hk, _, rfl⟩
    · exact (h.counted k l n hk).1
    · symm
      refine List.countP_eq_zero.mpr (fun x hx => ?_)
      obtain ⟨m, hm⟩ := h.shared x hx
      simp only [decide_eq_true_eq]
      rintro rfl
      rw [hk] at hm
      cases hm
  -- the lock was created before, or is the one created now
  have hlt : l < t.next + 1 := by
    rcases hpick with hk | ⟨_, rfl, _⟩
    · exact Nat.lt_succ_of_lt (h.created k l n hk)
    · exact Nat.lt_succ_self _
  -- a lock picked up belongs to `k` already, a new one to no key
  have halone : ∀ k' m, t.entry k' = some (l, m) → k' = k := by
    intro k' m hm
    rcases hpick with hk | ⟨_, rfl, _⟩
    · exact h.separate k' k l m n hm hk
    · exact absurd (h.created k' _ m hm) (Nat.lt_irrefl _)
  constructor
  -- one record a client: the one that enters is not inside yet
  · rw [List.map_cons, List.nodup_cons]
    refine ⟨?_, h.nodup⟩
    intro hmem
    obtain ⟨x, hx, hxc⟩ := List.mem_map.mp hmem
    exact hc ⟨x, hx, hxc⟩
  -- the newcomer finds the entry just written, the others of `k` the same lock under a higher
  -- count
  · intro x hx
    rcases List.mem_cons.mp hx with rfl | hx
    · exact ⟨n + 1, by simp⟩
    · obtain ⟨m, hm⟩ := h.shared x hx
      by_cases hkey : x.key = k
      · refine ⟨n + 1, ?_⟩
        dsimp only
        rcases hpick with hk | ⟨hk, _, _⟩
        · rw [hkey, hk, Option.some.injEq, Prod.mk.injEq] at hm
          rw [hkey, Function.update_self, hm.1]
        · rw [hkey, hk] at hm
          cases hm
      · refine ⟨m, ?_⟩
        dsimp only
        rw [Function.update_of_ne hkey]
        exact hm
  -- the count of `k` grows by the newcomer, that of another key counts the same contenders
  · intro k' l' n' hk'
    dsimp only at hk'
    by_cases hkk : k' = k
    · subst hkk
      rw [Function.update_self, Option.some.injEq, Prod.mk.injEq] at hk'
      refine ⟨?_, by omega⟩
      rw [← hk'.2, hcount]
      simp [Table.users]
    · rw [Function.update_of_ne hkk] at hk'
      obtain ⟨hn, hpos⟩ := h.counted k' l' n' hk'
      refine ⟨?_, hpos⟩
      rw [hn]
      simp only [Table.users, List.countP_cons]
      rw [if_neg (by simpa using fun hk => hkk hk.symm)]
      rfl
  -- an entry written now holds a lock created by now
  · intro k' l' n' hk'
    dsimp only at hk' ⊢
    by_cases hkk : k' = k
    · subst hkk
      rw [Function.update_self, Option.some.injEq, Prod.mk.injEq] at hk'
      exact hk'.1 ▸ hlt
    · rw [Function.update_of_ne hkk] at hk'
      exact Nat.lt_succ_of_lt (h.created k' l' n' hk')
  -- two keys with one lock: if either is `k`, `halone` makes the other one `k`
  · intro k₁ k₂ l' n₁ n₂ h₁ h₂
    dsimp only at h₁ h₂
    by_cases hk₁ : k₁ = k <;> by_cases hk₂ : k₂ = k
    · rw [hk₁, hk₂]
    · subst hk₁
      rw [Function.update_self, Option.some.injEq, Prod.mk.injEq] at h₁
      rw [Function.update_of_ne hk₂] at h₂
      exact (halone k₂ n₂ (h₁.1 ▸ h₂)).symm
    · subst hk₂
      rw [Function.update_self, Option.some.injEq, Prod.mk.injEq] at h₂
      rw [Function.update_of_ne hk₁] at h₁
      exact halone k₁ n₁ (h₂.1 ▸ h₁)
    · rw [Function.update_of_ne hk₁] at h₁
      rw [Function.update_of_ne hk₂] at h₂
      exact h.separate k₁ k₂ l' n₁ n₂ h₁ h₂
  -- the newcomer holds nothing, so two holders are two old ones
  · intro x hx y hy hxh hyh hl
    rcases List.mem_cons.mp hx with rfl | hx
    · exact absurd hxh (by simp)
    · rcases List.mem_cons.mp hy with rfl | hy
      · exact absurd hyh (by simp)
      · exact h.exclusive x hx y hy hxh hyh hl

/-- What an acquisition does: the record of the client turns to holding. -/
theorem acquire_eq {t t' : Table κ ι} {c : ι} (h : t.acquire c = some t') :
    ∃ x ∈ t.contenders, x.client = c ∧ x.holding = false
      ∧ (∀ y ∈ t.contenders, y.lock = x.lock → y.holding = false)
      ∧ t' = { t with contenders := { x with holding := true } :: t.contenders.erase x } := by
  unfold Table.acquire at h
  cases hf : t.find c with
  | none => simp [hf] at h
  | some x =>
      simp only [hf, Option.ite_none_right_eq_some, Bool.and_eq_true, Bool.not_eq_true',
        Option.some.injEq] at h
      obtain ⟨⟨hw, hfree⟩, rfl⟩ := h
      obtain ⟨hx, hc⟩ := find_some hf
      refine ⟨x, hx, hc, hw, ?_, rfl⟩
      intro y hy hl
      have := List.all_eq_true.mp hfree y hy
      simpa [hl] using this

theorem Table.Inv.acquire {t t' : Table κ ι} (h : t.Inv) {c : ι}
    (hacq : t.acquire c = some t') : t'.Inv := by
  obtain ⟨x, hx, _, _, hfree, rfl⟩ := acquire_eq hacq
  have hnd : t.contenders.Nodup := List.Nodup.of_map _ h.nodup
  have hperm : (x :: t.contenders.erase x).Perm t.contenders :=
    (List.perm_cons_erase hx).symm
  have hmem : ∀ y, y ∈ t.contenders.erase x → y ∈ t.contenders ∧ y ≠ x := by
    intro y hy
    have := (List.Nodup.mem_erase_iff hnd).mp hy
    exact ⟨this.2, this.1⟩
  constructor
  · have := (hperm.map Contender.client).nodup_iff.mpr h.nodup
    simpa using this
  · intro y hy
    rcases List.mem_cons.mp hy with rfl | hy
    · exact h.shared x hx
    · exact h.shared y (hmem y hy).1
  · intro k l n hk
    obtain ⟨hn, hpos⟩ := h.counted k l n hk
    refine ⟨?_, hpos⟩
    rw [hn]
    show _ = List.countP _ ({ x with holding := true } :: t.contenders.erase x)
    rw [List.countP_cons]
    have := hperm.countP_eq (fun y => decide (y.key = k))
    rw [List.countP_cons] at this
    exact this.symm
  · exact h.created
  · exact h.separate
  · intro y hy z hz hyh hzh hl
    rcases List.mem_cons.mp hy with rfl | hy <;> rcases List.mem_cons.mp hz with rfl | hz
    · rfl
    · rw [hfree z (hmem z hz).1 hl.symm] at hzh
      cases hzh
    · rw [hfree y (hmem y hy).1 hl] at hyh
      cases hyh
    · exact h.exclusive y (hmem y hy).1 z (hmem z hz).1 hyh hzh hl

/-- What leaving does, for a client that is inside. -/
theorem leave_eq {t : Table κ ι} (h : t.Inv) {x : Contender κ ι} (hx : x ∈ t.contenders) :
    ∃ n, t.entry x.key = some (x.lock, n)
      ∧ t.leave x.client =
        { t with
          entry := if n = 1 then Function.update t.entry x.key none
            else Function.update t.entry x.key (some (x.lock, n - 1)),
          contenders := t.contenders.erase x } := by
  obtain ⟨n, hn⟩ := h.shared x hx
  refine ⟨n, hn, ?_⟩
  have hf : t.find x.client = some x := h.find_eq hx
  simp only [Table.leave, hf, hn]

/-- A client that is not inside changes nothing by leaving. -/
theorem leave_of_not_inside {t : Table κ ι} {c : ι} (h : ¬ t.Inside c) :
    t.leave c = t := by
  cases hf : t.find c with
  | none => simp [Table.leave, hf]
  | some x =>
      obtain ⟨hx, hc⟩ := find_some hf
      exact absurd ⟨x, hx, hc⟩ h

theorem Table.Inv.leave {t : Table κ ι} (h : t.Inv) (c : ι) : (t.leave c).Inv := by
  cases hf : t.find c with
  | none => rw [leave_of_not_inside (find_none hf)]; exact h
  | some x =>
      obtain ⟨hx, rfl⟩ := find_some hf
      obtain ⟨n, hn, heq⟩ := leave_eq h hx
      have hnd : t.contenders.Nodup := List.Nodup.of_map _ h.nodup
      have hmem : ∀ y, y ∈ t.contenders.erase x → y ∈ t.contenders ∧ y ≠ x := by
        intro y hy
        have := (List.Nodup.mem_erase_iff hnd).mp hy
        exact ⟨this.2, this.1⟩
      obtain ⟨hcount, hpos⟩ := h.counted _ _ _ hn
      -- one user of `x.key` less, the other keys keep theirs
      have husers : ∀ k, List.countP (fun y => decide (y.key = k)) (t.contenders.erase x)
          = t.users k - if x.key = k then 1 else 0 := by
        intro k
        rw [List.countP_erase]
        simp only [hx, true_and, decide_eq_true_eq]
        rfl
      rw [heq]
      -- the other entries are untouched; that of `x.key` stays only with users left
      have hentry : ∀ k l m,
          (if n = 1 then Function.update t.entry x.key none
            else Function.update t.entry x.key (some (x.lock, n - 1))) k = some (l, m) →
          (k = x.key ∧ l = x.lock ∧ m = n - 1 ∧ n ≠ 1) ∨ (k ≠ x.key ∧ t.entry k = some (l, m)) := by
        intro k l m hk
        by_cases h1 : n = 1 <;> by_cases hkx : k = x.key
        · rw [if_pos h1, hkx, Function.update_self] at hk
          cases hk
        · rw [if_pos h1, Function.update_of_ne hkx] at hk
          exact .inr ⟨hkx, hk⟩
        · rw [if_neg h1, hkx, Function.update_self, Option.some.injEq, Prod.mk.injEq] at hk
          exact .inl ⟨hkx, hk.1.symm, hk.2.symm, h1⟩
        · rw [if_neg h1, Function.update_of_ne hkx] at hk
          exact .inr ⟨hkx, hk⟩
      constructor
      · exact h.nodup.sublist ((List.erase_sublist).map _)
      · intro y hy
        obtain ⟨hyt, hyx⟩ := hmem y hy
        obtain ⟨m, hm⟩ := h.shared y hyt
        by_cases hkey : y.key = x.key
        · have hlock : y.lock = x.lock := by
            rw [hkey, hn, Option.some.injEq, Prod.mk.injEq] at hm
            exact hm.1.symm
          -- `y` is a second contender for the key, so `n` is at least two
          have htwo : n ≠ 1 := by
            rintro rfl
            have : List.countP (fun z => decide (z.key = x.key)) (t.contenders.erase x) = 0 := by
              rw [husers, if_pos rfl, ← hcount]
            have := List.countP_eq_zero.mp this y hy
            simp [hkey] at this
          exact ⟨n - 1, by simp [htwo, hkey, hlock]⟩
        · refine ⟨m, ?_⟩
          by_cases h1 : n = 1 <;> simp [h1, Function.update_of_ne hkey, hm]
      · intro k l m hk
        show m = List.countP (fun y => decide (y.key = k)) (t.contenders.erase x) ∧ 0 < m
        rw [husers]
        rcases hentry k l m hk with ⟨rfl, _, rfl, h1⟩ | ⟨hkx, hk⟩
        · rw [if_pos rfl, ← hcount]
          exact ⟨rfl, by omega⟩
        · rw [if_neg (fun h => hkx h.symm)]
          exact h.counted k l m hk
      · intro k l m hk
        rcases hentry k l m hk with ⟨rfl, rfl, _, _⟩ | ⟨_, hk⟩
        · exact h.created _ _ _ hn
        · exact h.created k l m hk
      · intro k₁ k₂ l m₁ m₂ h₁ h₂
        rcases hentry k₁ l m₁ h₁ with ⟨rfl, rfl, _, _⟩ | ⟨_, h₁⟩ <;>
          rcases hentry k₂ _ m₂ h₂ with ⟨rfl, hl, _, _⟩ | ⟨_, h₂⟩
        · rfl
        · exact h.separate _ _ _ _ _ hn h₂
        · subst hl
          exact h.separate _ _ _ _ _ h₁ hn
        · exact h.separate _ _ _ _ _ h₁ h₂
      · intro y hy z hz
        exact h.exclusive y (hmem y hy).1 z (hmem z hz).1

/-! ## §4. What the invariant buys. -/

omit [DecidableEq ι] in
/-- **Mutual exclusion**: at most one client holds the lock of a key. -/
theorem mutual_exclusion {t : Table κ ι} (h : t.Inv) {k : κ} {c d : ι}
    (hc : t.Holds k c) (hd : t.Holds k d) : c = d := by
  obtain ⟨x, hx, rfl, hxk, hxh⟩ := hc
  obtain ⟨y, hy, rfl, hyk, hyh⟩ := hd
  obtain ⟨n, hn⟩ := h.shared x hx
  obtain ⟨m, hm⟩ := h.shared y hy
  have hlock : x.lock = y.lock := by
    rw [hxk] at hn
    rw [hyk, hn, Option.some.injEq, Prod.mk.injEq] at hm
    exact hm.1
  rw [h.exclusive x hx y hy hxh hyh hlock]

omit [DecidableEq ι] in
/-- The contenders for one key share one lock object, those for different
keys never do. -/
theorem lock_eq_iff_key_eq {t : Table κ ι} (h : t.Inv) {x y : Contender κ ι}
    (hx : x ∈ t.contenders) (hy : y ∈ t.contenders) : x.lock = y.lock ↔ x.key = y.key := by
  obtain ⟨n, hn⟩ := h.shared x hx
  obtain ⟨m, hm⟩ := h.shared y hy
  constructor
  · intro hl
    rw [← hl] at hm
    exact h.separate _ _ _ _ _ hn hm
  · intro hk
    rw [hk, hm, Option.some.injEq, Prod.mk.injEq] at hn
    exact hn.1.symm

omit [DecidableEq ι] in
/-- The table has an entry for a key exactly while there is a contender. -/
theorem entry_iff_contender {t : Table κ ι} (h : t.Inv) (k : κ) :
    (t.entry k).isSome ↔ ∃ x ∈ t.contenders, x.key = k := by
  constructor
  · intro hs
    obtain ⟨⟨l, n⟩, hk⟩ := Option.isSome_iff_exists.mp hs
    obtain ⟨hn, hpos⟩ := h.counted k l n hk
    rw [hn] at hpos
    obtain ⟨x, hx, hxk⟩ := List.countP_pos_iff.mp hpos
    exact ⟨x, hx, by simpa using hxk⟩
  · rintro ⟨x, hx, rfl⟩
    obtain ⟨n, hn⟩ := h.shared x hx
    rw [hn]
    rfl

/-! ## §5. Frame: an operation of one client, seen by the others. -/

/-- The two tables hold the same records for client `d`. -/
def Table.SameFor (t t' : Table κ ι) (d : ι) : Prop :=
  ∀ x : Contender κ ι, x.client = d → (x ∈ t'.contenders ↔ x ∈ t.contenders)

omit [DecidableEq κ] [DecidableEq ι] in
theorem Table.SameFor.holds {t t' : Table κ ι} {d : ι} (h : t.SameFor t' d) {k : κ} :
    t'.Holds k d ↔ t.Holds k d := by
  constructor <;> rintro ⟨x, hx, hc, hrest⟩
  · exact ⟨x, (h x hc).mp hx, hc, hrest⟩
  · exact ⟨x, (h x hc).mpr hx, hc, hrest⟩

omit [DecidableEq κ] [DecidableEq ι] in
theorem Table.SameFor.waits {t t' : Table κ ι} {d : ι} (h : t.SameFor t' d) {k : κ} :
    t'.Waits k d ↔ t.Waits k d := by
  constructor <;> rintro ⟨x, hx, hc, hrest⟩
  · exact ⟨x, (h x hc).mp hx, hc, hrest⟩
  · exact ⟨x, (h x hc).mpr hx, hc, hrest⟩

omit [DecidableEq κ] [DecidableEq ι] in
theorem Table.SameFor.inside {t t' : Table κ ι} {d : ι} (h : t.SameFor t' d) :
    t'.Inside d ↔ t.Inside d := by
  constructor <;> rintro ⟨x, hx, hc⟩
  · exact ⟨x, (h x hc).mp hx, hc⟩
  · exact ⟨x, (h x hc).mpr hx, hc⟩

omit [DecidableEq ι] in
theorem enter_other (t : Table κ ι) (k : κ) {c d : ι} (hd : d ≠ c) :
    t.SameFor (t.enter k c) d := by
  obtain ⟨l, n, _, heq⟩ := enter_eq t k c
  intro x hx
  rw [heq, List.mem_cons]
  constructor
  · rintro (rfl | hmem)
    · exact absurd hx.symm hd
    · exact hmem
  · exact .inr

omit [DecidableEq ι] in
theorem enter_waits (t : Table κ ι) (k : κ) (c : ι) : (t.enter k c).Waits k c := by
  obtain ⟨l, n, _, heq⟩ := enter_eq t k c
  rw [heq]
  exact ⟨⟨k, c, l, false⟩, List.mem_cons_self, rfl, rfl, rfl⟩

theorem acquire_other {t t' : Table κ ι} {c d : ι} (h : t.acquire c = some t') (hd : d ≠ c) :
    t.SameFor t' d := by
  obtain ⟨x, _, hxc, _, _, rfl⟩ := acquire_eq h
  intro y hy
  have hyx : y ≠ x := by
    rintro rfl
    exact hd (hy.symm.trans hxc)
  rw [List.mem_cons, List.mem_erase_of_ne hyx]
  constructor
  · rintro (rfl | hmem)
    · exact absurd (hy.symm.trans hxc) hd
    · exact hmem
  · exact .inr

/-- A waiting client that acquires holds the lock it waited for. -/
theorem acquire_holds {t t' : Table κ ι} (hinv : t.Inv) {k : κ} {c : ι} (hw : t.Waits k c)
    (h : t.acquire c = some t') : t'.Holds k c := by
  obtain ⟨x, hx, hxc, _, _, rfl⟩ := acquire_eq h
  obtain ⟨y, hy, hyc, hyk, _⟩ := hw
  have : x = y := hinv.record_unique hx hy (hxc.trans hyc.symm)
  subst this
  exact ⟨_, List.mem_cons_self, hxc, hyk, rfl⟩

theorem leave_other {t : Table κ ι} (hinv : t.Inv) {c d : ι} (hd : d ≠ c) :
    t.SameFor (t.leave c) d := by
  cases hf : t.find c with
  | none =>
      rw [leave_of_not_inside (find_none hf)]
      exact fun _ _ => Iff.rfl
  | some x =>
      obtain ⟨hx, rfl⟩ := find_some hf
      obtain ⟨n, _, heq⟩ := leave_eq hinv hx
      intro y hy
      rw [heq]
      exact List.mem_erase_of_ne (fun h => hd (hy.symm.trans (h ▸ rfl)))

/-- A client that left is out. -/
theorem leave_outside {t : Table κ ι} (hinv : t.Inv) (c : ι) : ¬ (t.leave c).Inside c := by
  cases hf : t.find c with
  | none =>
      rw [leave_of_not_inside (find_none hf)]
      exact find_none hf
  | some x =>
      obtain ⟨hx, rfl⟩ := find_some hf
      obtain ⟨n, _, heq⟩ := leave_eq hinv hx
      rintro ⟨y, hy, hyc⟩
      rw [heq] at hy
      have hnd : t.contenders.Nodup := List.Nodup.of_map _ hinv.nodup
      obtain ⟨hne, hyt⟩ := (List.Nodup.mem_erase_iff hnd).mp hy
      exact hne (hinv.record_unique hyt hx hyc)

/-! ## §6. The table under real lock objects.

`acquire` waits for a lock nobody holds.  A system whose lock objects decide
that themselves uses `hold`, and owes the proof that it is an `acquire`. -/

/-- The record of a client turns to holding, whoever else holds the lock. -/
def Table.hold (t : Table κ ι) (c : ι) : Table κ ι :=
  match t.find c with
  | some x => { t with contenders := { x with holding := true } :: t.contenders.erase x }
  | none => t

/-- The lock object that a client entering for `k` picks up. -/
def Table.pick (t : Table κ ι) (k : κ) : Nat := ((t.entry k).getD (t.next, 0)).1

/-- Somebody holds this lock object. -/
def Table.HeldAt (t : Table κ ι) (lock : Nat) : Prop :=
  ∃ x ∈ t.contenders, x.lock = lock ∧ x.holding = true

/-- The client waits for this lock object. -/
def Table.WaitsAt (t : Table κ ι) (lock : Nat) (c : ι) : Prop :=
  ∃ x ∈ t.contenders, x.client = c ∧ x.lock = lock ∧ x.holding = false

/-- The two tables differ in records of one key and one lock object only. -/
def Table.SameBeside (t t' : Table κ ι) (k : κ) (lock : Nat) : Prop :=
  ∀ y : Contender κ ι, ¬ (y.key = k ∧ y.lock = lock) → (y ∈ t'.contenders ↔ y ∈ t.contenders)

/-- One operation of one client. -/
inductive Step : Table κ ι → Table κ ι → Prop
  | enter {t : Table κ ι} (k : κ) {c : ι} : ¬ t.Inside c → Step t (t.enter k c)
  | acquire {t t' : Table κ ι} (c : ι) : t.acquire c = some t' → Step t t'
  | leave (t : Table κ ι) (c : ι) : Step t (t.leave c)

theorem Table.Inv.step {t t' : Table κ ι} (h : t.Inv) (hs : Step t t') : t'.Inv := by
  cases hs with
  | enter k hc => exact h.enter k hc
  | acquire c hacq => exact h.acquire hacq
  | leave c => exact h.leave c

theorem Table.Inv.steps {t t' : Table κ ι} (h : t.Inv)
    (hs : Relation.ReflTransGen Step t t') : t'.Inv := by
  induction hs with
  | refl => exact h
  | tail _ hlast ih => exact ih.step hlast

theorem hold_eq {t : Table κ ι} {c : ι} {x : Contender κ ι} (hf : t.find c = some x) :
    t.hold c
      = { t with contenders := { x with holding := true } :: t.contenders.erase x } := by
  simp only [Table.hold, hf]

/-- Holding is acquiring, where nobody holds the lock. -/
theorem acquire_eq_hold {t : Table κ ι} {c : ι} {x : Contender κ ι} (hf : t.find c = some x)
    (hw : x.holding = false) (hfree : ¬ t.HeldAt x.lock) : t.acquire c = some (t.hold c) := by
  have hopen : t.free x.lock = true := by
    refine List.all_eq_true.mpr (fun y hy => ?_)
    cases hh : y.holding with
    | false => simp
    | true =>
        have hne : y.lock ≠ x.lock := fun hl => hfree ⟨y, hy, hl, hh⟩
        simp [hne]
  rw [hold_eq hf]
  simp only [Table.acquire, hf, hw, hopen]
  rfl

omit [DecidableEq ι] in
theorem Table.Inv.pick_cases {t : Table κ ι} (h : t.Inv) (k : κ) :
    (∃ n, t.entry k = some (t.pick k, n))
      ∨ (∀ x ∈ t.contenders, x.key ≠ k) ∧ t.pick k = t.next := by
  cases hk : t.entry k with
  | some p => exact .inl ⟨p.2, by simp [Table.pick, hk]⟩
  | none =>
      refine .inr ⟨?_, by simp [Table.pick, hk]⟩
      rintro x hx rfl
      obtain ⟨n, hn⟩ := h.shared x hx
      rw [hk] at hn
      cases hn

omit [DecidableEq ι] in
/-- The lock object picked up belongs to the contenders for the key. -/
theorem Table.Inv.pick_eq_iff {t : Table κ ι} (h : t.Inv) (k : κ) {x : Contender κ ι}
    (hx : x ∈ t.contenders) : x.lock = t.pick k ↔ x.key = k := by
  obtain ⟨n, hn⟩ := h.shared x hx
  rcases h.pick_cases k with ⟨m, hm⟩ | ⟨hnone, hnext⟩
  · constructor
    · intro hl
      exact h.separate _ _ _ _ _ hn (hl ▸ hm)
    · intro hk
      rw [hk, hm, Option.some.injEq, Prod.mk.injEq] at hn
      exact hn.1.symm
  · constructor
    · intro hl
      have hlt := h.created _ _ _ hn
      omega
    · intro hk
      exact absurd hk (hnone x hx)

omit [DecidableEq ι] in
theorem enter_contenders (t : Table κ ι) (k : κ) (c : ι) :
    (t.enter k c).contenders = ⟨k, c, t.pick k, false⟩ :: t.contenders := rfl

/-- The record of a client that just entered. -/
theorem enter_find (t : Table κ ι) (k : κ) (c : ι) :
    (t.enter k c).find c = some ⟨k, c, t.pick k, false⟩ := by
  rw [Table.find, enter_contenders]
  exact List.find?_cons_of_pos (by simp)

omit [DecidableEq ι] in
theorem enter_beside (t : Table κ ι) (k : κ) (c : ι) :
    t.SameBeside (t.enter k c) k (t.pick k) := by
  intro y hy
  rw [enter_contenders, List.mem_cons]
  constructor
  · rintro (rfl | hmem)
    · exact absurd ⟨rfl, rfl⟩ hy
    · exact hmem
  · exact .inr

theorem hold_beside {t : Table κ ι} {c : ι} {x : Contender κ ι} (hf : t.find c = some x) :
    t.SameBeside (t.hold c) x.key x.lock := by
  intro y hy
  have hyx : y ≠ x := fun h => hy (h ▸ ⟨rfl, rfl⟩)
  rw [hold_eq hf, List.mem_cons, List.mem_erase_of_ne hyx]
  constructor
  · rintro (rfl | hmem)
    · exact absurd ⟨rfl, rfl⟩ hy
    · exact hmem
  · exact .inr

theorem leave_beside {t : Table κ ι} {c : ι} {x : Contender κ ι} (hf : t.find c = some x) :
    t.SameBeside (t.leave c) x.key x.lock := by
  intro y hy
  have hyx : y ≠ x := fun h => hy (h ▸ ⟨rfl, rfl⟩)
  have hcont : (t.leave c).contenders = t.contenders.erase x := by
    simp only [Table.leave, hf]
  rw [hcont]
  exact List.mem_erase_of_ne hyx

/-- An entry changes for the key of the client only. -/
theorem leave_entry_of_ne {t : Table κ ι} {c : ι} {x : Contender κ ι} (hf : t.find c = some x)
    {k : κ} (hk : k ≠ x.key) : (t.leave c).entry k = t.entry k := by
  simp only [Table.leave, hf]
  split
  · split
    · exact Function.update_of_ne hk _ _
    · exact Function.update_of_ne hk _ _
  · rfl

omit [DecidableEq κ] [DecidableEq ι] in
theorem Table.SameBeside.heldAt {t t' : Table κ ι} {k : κ} {lock l : Nat}
    (h : t.SameBeside t' k lock) (hl : l ≠ lock) : t'.HeldAt l ↔ t.HeldAt l := by
  constructor
  · rintro ⟨x, hx, rfl, hh⟩
    exact ⟨x, (h x fun hxk => hl hxk.2).mp hx, rfl, hh⟩
  · rintro ⟨x, hx, rfl, hh⟩
    exact ⟨x, (h x fun hxk => hl hxk.2).mpr hx, rfl, hh⟩

omit [DecidableEq κ] [DecidableEq ι] in
theorem Table.SameBeside.waitsAt {t t' : Table κ ι} {k : κ} {lock l : Nat}
    (h : t.SameBeside t' k lock) (hl : l ≠ lock) (c : ι) : t'.WaitsAt l c ↔ t.WaitsAt l c := by
  constructor
  · rintro ⟨x, hx, hc, rfl, hh⟩
    exact ⟨x, (h x fun hxk => hl hxk.2).mp hx, hc, rfl, hh⟩
  · rintro ⟨x, hx, hc, rfl, hh⟩
    exact ⟨x, (h x fun hxk => hl hxk.2).mpr hx, hc, rfl, hh⟩

omit [DecidableEq κ] [DecidableEq ι] in
theorem Table.SameBeside.trans {t t' t'' : Table κ ι} {k : κ} {lock : Nat}
    (h : t.SameBeside t' k lock) (h' : t'.SameBeside t'' k lock) : t.SameBeside t'' k lock :=
  fun y hy => (h' y hy).trans (h y hy)

/-- What leaving does to the records. -/
theorem mem_leave {t : Table κ ι} (h : t.Inv) {c : ι} {x : Contender κ ι}
    (hf : t.find c = some x) (y : Contender κ ι) :
    y ∈ (t.leave c).contenders ↔ y ∈ t.contenders ∧ y.client ≠ c := by
  have hcont : (t.leave c).contenders = t.contenders.erase x := by
    simp only [Table.leave, hf]
  have hnd : t.contenders.Nodup := List.Nodup.of_map _ h.nodup
  obtain ⟨hx, hxc⟩ := find_some hf
  rw [hcont, List.Nodup.mem_erase_iff hnd]
  constructor
  · rintro ⟨hne, hy⟩
    exact ⟨hy, fun hyc => hne (h.record_unique hy hx (hyc.trans hxc.symm))⟩
  · rintro ⟨hy, hyc⟩
    exact ⟨fun hyx => hyc (hyx ▸ hxc), hy⟩

theorem leave_waitsAt {t : Table κ ι} (h : t.Inv) {c : ι} {x : Contender κ ι}
    (hf : t.find c = some x) (l : Nat) (d : ι) :
    (t.leave c).WaitsAt l d ↔ t.WaitsAt l d ∧ d ≠ c := by
  constructor
  · rintro ⟨y, hy, rfl, hrest⟩
    obtain ⟨hyt, hyc⟩ := (mem_leave h hf y).mp hy
    exact ⟨⟨y, hyt, rfl, hrest⟩, hyc⟩
  · rintro ⟨⟨y, hy, rfl, hrest⟩, hyc⟩
    exact ⟨y, (mem_leave h hf y).mpr ⟨hy, hyc⟩, rfl, hrest⟩

/-- A client that gives up waiting leaves the holder where it is. -/
theorem leave_heldAt_of_waiting {t : Table κ ι} (h : t.Inv) {c : ι} {x : Contender κ ι}
    (hf : t.find c = some x) (hw : x.holding = false) (l : Nat) :
    (t.leave c).HeldAt l ↔ t.HeldAt l := by
  obtain ⟨hx, hxc⟩ := find_some hf
  constructor
  · rintro ⟨y, hy, hrest⟩
    exact ⟨y, ((mem_leave h hf y).mp hy).1, hrest⟩
  · rintro ⟨y, hy, hl, hh⟩
    refine ⟨y, (mem_leave h hf y).mpr ⟨hy, fun hyc => ?_⟩, hl, hh⟩
    rw [h.record_unique hy hx (hyc.trans hxc.symm), hw] at hh
    cases hh

/-- A holder that leaves was the only one. -/
theorem leave_heldAt_of_holding {t : Table κ ι} (h : t.Inv) {c : ι} {x : Contender κ ι}
    (hf : t.find c = some x) (hh : x.holding = true) : ¬ (t.leave c).HeldAt x.lock := by
  rintro ⟨y, hy, hl, hyh⟩
  obtain ⟨hx, hxc⟩ := find_some hf
  obtain ⟨hyt, hyc⟩ := (mem_leave h hf y).mp hy
  exact hyc (h.exclusive y hyt x hx hyh hh hl ▸ hxc)

theorem hold_waitsAt {t : Table κ ι} (h : t.Inv) {c : ι} {x : Contender κ ι}
    (hf : t.find c = some x) (l : Nat) (d : ι) :
    (t.hold c).WaitsAt l d ↔ t.WaitsAt l d ∧ d ≠ c := by
  have hnd : t.contenders.Nodup := List.Nodup.of_map _ h.nodup
  obtain ⟨hx, hxc⟩ := find_some hf
  rw [hold_eq hf]
  constructor
  · rintro ⟨y, hy, rfl, hl, hw⟩
    rcases List.mem_cons.mp hy with rfl | hmem
    · cases hw
    · obtain ⟨hne, hyt⟩ := (List.Nodup.mem_erase_iff hnd).mp hmem
      refine ⟨⟨y, hyt, rfl, hl, hw⟩, fun hyc => ?_⟩
      exact hne (h.record_unique hyt hx (hyc.trans hxc.symm))
  · rintro ⟨⟨y, hy, rfl, hl, hw⟩, hyc⟩
    have hne : y ≠ x := fun hyx => hyc (hyx ▸ hxc)
    exact ⟨y, List.mem_cons_of_mem _ ((List.mem_erase_of_ne hne).mpr hy), rfl, hl, hw⟩

theorem hold_heldAt {t : Table κ ι} {c : ι} {x : Contender κ ι} (hf : t.find c = some x) :
    (t.hold c).HeldAt x.lock := by
  rw [hold_eq hf]
  exact ⟨_, List.mem_cons_self, rfl, rfl⟩

omit [DecidableEq ι] in
theorem enter_waitsAt (t : Table κ ι) (k : κ) (c d : ι) :
    (t.enter k c).WaitsAt (t.pick k) d ↔ t.WaitsAt (t.pick k) d ∨ d = c := by
  unfold Table.WaitsAt
  rw [enter_contenders]
  simp only [List.mem_cons, exists_eq_or_imp, and_self, and_true]
  rw [or_comm, eq_comm]

omit [DecidableEq ι] in
theorem enter_heldAt (t : Table κ ι) (k : κ) (c : ι) (l : Nat) :
    (t.enter k c).HeldAt l ↔ t.HeldAt l := by
  unfold Table.HeldAt
  rw [enter_contenders]
  simp

end

end RefLock
