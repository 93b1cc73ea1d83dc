/-
  DoipPlayground.Lib.AsyncLock
  ────────────────────────────
  **THE ASYNCIO LOCK, with its queue of waiters and their cancellation.**

  A lock is the flag `locked` and a deque of waiters.  A waiter is a task
  suspended on a future of its own: `release` completes the future of the
  first waiter only, and that task takes the lock when the event loop runs
  it again.  Between the two the lock is unlocked and already promised, and
  the promised task can still be cancelled: it then passes the wake-up on.

    • `acquire`, `release`, `cancel`, `resume` — the operations; a suspended
      task is run again by `resume`, which is `none` while its future is
      pending,
    • `Lock.Inv` — only the first waiter is ever woken, never one of a held
      lock; an unlocked lock never leaves its first waiter asleep,
    • `acquire_spec`, `release_spec`, `cancel_spec`, `resume_spec` — what an
      operation does to the flag and to the tasks in the queue,
    • `blocked_behind` — a task stays asleep only behind a holder or behind
      a waiter that can run.
-/
import Mathlib.Data.List.Nodup

namespace AsyncLock

/-! ## §1. The lock. -/

/-- The state of a waiter's future. -/
inductive Fut where
  | pending
  | woken
  | cancelled
  deriving DecidableEq, Repr

/-- A task suspended in `acquire`.  `mustCancel` records a cancellation that
came after the future was done: it is raised when the task next runs. -/
structure Waiter (ι : Type*) where
  task : ι
  fut : Fut
  mustCancel : Bool
  deriving DecidableEq, Repr

structure Lock (ι : Type*) where
  locked : Bool
  waiters : List (Waiter ι)
  deriving DecidableEq, Repr

section
variable {ι : Type*}

/-- A new lock. -/
def Lock.new : Lock ι := ⟨false, []⟩

/-- The tasks in the queue. -/
def Lock.tasks (l : Lock ι) : List ι := l.waiters.map Waiter.task

/-- Wake up the first waiter if its future is not done. -/
def Lock.wakeFirst (l : Lock ι) : Lock ι :=
  match l.waiters with
  | [] => l
  | w :: ws => if w.fut = .pending then { l with waiters := { w with fut := .woken } :: ws } else l

/-- `acquire` up to its first suspension: `true` when the lock is taken at
once, `false` when the task now waits. -/
def Lock.acquire (l : Lock ι) (c : ι) : Lock ι × Bool :=
  if !l.locked && l.waiters.all (fun w => w.fut == .cancelled) then
    ({ l with locked := true }, true)
  else
    ({ l with waiters := l.waiters ++ [⟨c, .pending, false⟩] }, false)

/-- `release`; `none` is the error of releasing an unlocked lock. -/
def Lock.release (l : Lock ι) : Option (Lock ι) :=
  if l.locked then some { l with locked := false }.wakeFirst else none

/-- A cancellation request: a pending future is cancelled, a done one leaves
the request to the task. -/
def Waiter.cancel (w : Waiter ι) : Waiter ι :=
  match w.fut with
  | .pending => { w with fut := .cancelled }
  | .woken => { w with mustCancel := true }
  | .cancelled => { w with mustCancel := true }

variable [DecidableEq ι]

def Lock.cancel (l : Lock ι) (c : ι) : Lock ι :=
  { l with waiters := l.waiters.map (fun w => if w.task = c then w.cancel else w) }

/-- Remove the future of a task from the deque. -/
def Lock.remove (l : Lock ι) (c : ι) : Lock ι :=
  { l with waiters := l.waiters.filter (fun w => w.task ≠ c) }

/-- The rest of `acquire` after the suspension.  `none` while the future is
pending; `true` when the lock is taken, `false` when the cancellation is
raised, which passes the wake-up on if nobody took the lock. -/
def Lock.resume (l : Lock ι) (c : ι) : Option (Lock ι × Bool) :=
  match l.waiters.find? (fun w => w.task = c) with
  | none => none
  | some w =>
      if w.fut = .pending then none
      else if w.fut = .cancelled || w.mustCancel then
        some (if l.locked then l.remove c else (l.remove c).wakeFirst, false)
      else some ({ l.remove c with locked := true }, true)

end

/-! ## §2. The invariant. -/

section
variable {ι : Type*}

/-- Nobody but the first waiter is woken. -/
def Behind (ws : List (Waiter ι)) : Prop := ∀ w ∈ ws.tail, w.fut ≠ .woken

/-- What every lock in use satisfies. -/
structure Lock.Inv (l : Lock ι) : Prop where
  /-- A task waits at most once. -/
  nodup : l.tasks.Nodup
  behind : Behind l.waiters
  /-- A held lock has promised itself to nobody. -/
  held : l.locked = true → ∀ w ∈ l.waiters.head?, w.fut ≠ .woken
  /-- An unlocked lock does not leave its first waiter asleep. -/
  awake : l.locked = false → ∀ w ∈ l.waiters.head?, w.fut ≠ .pending

theorem inv_new : (Lock.new : Lock ι).Inv where
  nodup := List.nodup_nil
  behind := by simp [Lock.new, Behind]
  held := by simp [Lock.new]
  awake := by simp [Lock.new]

/-- A woken waiter of a lock is its first one. -/
theorem Lock.Inv.head_of_woken {l : Lock ι} (h : l.Inv) {w : Waiter ι} (hw : w ∈ l.waiters)
    (hf : w.fut = .woken) : l.waiters.head? = some w := by
  have hb := h.behind
  cases hws : l.waiters with
  | nil => simp [hws] at hw
  | cons v vs =>
      rw [hws] at hw hb
      rcases List.mem_cons.mp hw with hwv | hmem
      · rw [hwv]
        rfl
      · exact absurd hf (hb w hmem)

/-- Waking the first waiter changes no task and no flag. -/
@[simp] theorem wakeFirst_tasks (l : Lock ι) : l.wakeFirst.tasks = l.tasks := by
  unfold Lock.wakeFirst Lock.tasks
  cases hws : l.waiters with
  | nil => simp [hws]
  | cons w ws =>
      dsimp only
      split
      · rfl
      · rw [hws]

@[simp] theorem wakeFirst_locked (l : Lock ι) : l.wakeFirst.locked = l.locked := by
  unfold Lock.wakeFirst
  cases l.waiters with
  | nil => rfl
  | cons w ws =>
      dsimp only
      split
      · rfl
      · rfl

/-- Whoever comes first, waking it restores the invariant of an unlocked lock. -/
theorem inv_wakeFirst {l : Lock ι} (hnodup : l.tasks.Nodup) (hb : Behind l.waiters)
    (hl : l.locked = false) : l.wakeFirst.Inv := by
  have hshape : Behind l.wakeFirst.waiters
      ∧ ∀ w ∈ l.wakeFirst.waiters.head?, w.fut ≠ .pending := by
    unfold Lock.wakeFirst
    cases hws : l.waiters with
    | nil => simp [hws, Behind]
    | cons w ws =>
        rw [hws] at hb
        dsimp only
        split
        · exact ⟨hb, by simp⟩
        · rename_i hpending
          rw [hws]
          exact ⟨hb, by simpa using hpending⟩
  refine ⟨?_, hshape.1, ?_, fun _ => hshape.2⟩
  · rw [wakeFirst_tasks]
    exact hnodup
  · intro hlocked
    rw [wakeFirst_locked, hl] at hlocked
    cases hlocked

/-! ## §3. One lemma for each operation. -/

/-- Taking the lock at once needs it unlocked; waiting adds the task. -/
theorem acquire_spec (l : Lock ι) (c : ι) :
    (l.acquire c).2 = true ∧ l.locked = false ∧ (l.acquire c).1.locked = true
        ∧ (l.acquire c).1.tasks = l.tasks
      ∨ (l.acquire c).2 = false ∧ (l.acquire c).1.locked = l.locked
        ∧ (l.acquire c).1.tasks = l.tasks ++ [c] := by
  unfold Lock.acquire
  split
  · rename_i hfast
    rw [Bool.and_eq_true, Bool.not_eq_true'] at hfast
    exact .inl ⟨rfl, hfast.1, rfl, rfl⟩
  · right
    exact ⟨rfl, rfl, by simp [Lock.tasks]⟩

theorem Lock.Inv.acquire {l : Lock ι} (h : l.Inv) {c : ι} (hc : c ∉ l.tasks) :
    (l.acquire c).1.Inv := by
  unfold Lock.acquire
  split
  · rename_i hfast
    rw [Bool.and_eq_true] at hfast
    have hall := List.all_eq_true.mp hfast.2
    refine ⟨h.nodup, h.behind, ?_, by simp⟩
    intro _ w hw hwoken
    have := hall w (List.mem_of_mem_head? hw)
    rw [hwoken] at this
    cases this
  · rename_i hslow
    have hnd : (l.tasks ++ [c]).Nodup := by
      rw [List.nodup_append]
      refine ⟨h.nodup, List.nodup_singleton c, ?_⟩
      intro a ha b hb hab
      exact hc (List.mem_singleton.mp hb ▸ hab ▸ ha)
    refine ⟨by simpa [Lock.tasks] using hnd, ?_, ?_, ?_⟩
    · -- the new waiter is asleep, wherever it stands
      intro w hw
      cases hws : l.waiters with
      | nil => simp [hws] at hw
      | cons v vs =>
          have hb := h.behind
          rw [hws] at hb
          simp only [hws, List.cons_append, List.tail_cons, List.mem_append,
            List.mem_singleton] at hw
          rcases hw with hw | rfl
          · exact hb w hw
          · simp
    · intro hlocked w hw
      cases hws : l.waiters with
      | nil =>
          simp only [hws, List.nil_append, List.head?_cons, Option.mem_some_iff] at hw
          subst hw
          simp
      | cons v vs =>
          have hheld := h.held hlocked
          simp only [hws, List.cons_append, List.head?_cons] at hw hheld
          exact hheld w hw
    · intro hunlocked w hw
      have hopen : l.locked = false := hunlocked
      cases hws : l.waiters with
      | nil =>
          -- an empty queue of an unlocked lock takes the other branch
          rw [hopen, hws] at hslow
          exact absurd rfl hslow
      | cons v vs =>
          have hawake := h.awake hunlocked
          simp only [hws, List.cons_append, List.head?_cons] at hw hawake
          exact hawake w hw

/-- Only a held lock is released; the queue keeps its tasks. -/
theorem release_spec {l : Lock ι} (h : l.locked = true) :
    ∃ l', l.release = some l' ∧ l'.locked = false ∧ l'.tasks = l.tasks := by
  refine ⟨{ l with locked := false }.wakeFirst, ?_, ?_, ?_⟩
  · rw [Lock.release, if_pos h]
  · rw [wakeFirst_locked]
  · rw [wakeFirst_tasks]
    rfl

theorem Lock.Inv.release {l l' : Lock ι} (h : l.Inv) (hr : l.release = some l') : l'.Inv := by
  unfold Lock.release at hr
  split at hr
  · cases hr
    exact inv_wakeFirst h.nodup h.behind rfl
  · cases hr

@[simp] theorem Waiter.cancel_task (w : Waiter ι) : w.cancel.task = w.task := by
  unfold Waiter.cancel
  split
  · rfl
  · rfl
  · rfl

theorem Waiter.cancel_woken {w : Waiter ι} : w.cancel.fut = .woken ↔ w.fut = .woken := by
  unfold Waiter.cancel
  split
  · rename_i hf
    simp [hf]
  · rename_i hf
    simp [hf]
  · rename_i hf
    simp [hf]

theorem Waiter.cancel_not_pending (w : Waiter ι) : w.cancel.fut ≠ .pending := by
  unfold Waiter.cancel
  split
  · simp
  · rename_i hf
    simp [hf]
  · rename_i hf
    simp [hf]

variable [DecidableEq ι]

/-- A cancellation request changes neither the flag nor the queue's tasks. -/
theorem cancel_spec (l : Lock ι) (c : ι) :
    (l.cancel c).locked = l.locked ∧ (l.cancel c).tasks = l.tasks := by
  refine ⟨rfl, ?_⟩
  unfold Lock.cancel Lock.tasks
  rw [List.map_map]
  apply List.map_congr_left
  intro w _
  show (if w.task = c then w.cancel else w).task = w.task
  split
  · exact w.cancel_task
  · rfl

theorem Lock.Inv.cancel {l : Lock ι} (h : l.Inv) (c : ι) : (l.cancel c).Inv := by
  -- what a waiter may become: no more woken, no more asleep than it was
  have hstep : ∀ w : Waiter ι,
      ((if w.task = c then w.cancel else w).fut = .woken → w.fut = .woken)
      ∧ ((if w.task = c then w.cancel else w).fut = .pending → w.fut = .pending) := by
    intro w
    split
    · exact ⟨Waiter.cancel_woken.mp, fun hp => absurd hp w.cancel_not_pending⟩
    · exact ⟨id, id⟩
  have hhead : ∀ w ∈ (l.cancel c).waiters.head?, ∃ v ∈ l.waiters.head?,
      w = if v.task = c then v.cancel else v := by
    intro w hw
    rw [Lock.cancel, List.head?_map, Option.mem_def, Option.map_eq_some_iff] at hw
    obtain ⟨v, hv, rfl⟩ := hw
    exact ⟨v, hv, rfl⟩
  refine ⟨?_, ?_, ?_, ?_⟩
  · rw [(cancel_spec l c).2]
    exact h.nodup
  · intro w hw
    rw [Lock.cancel, ← List.map_tail, List.mem_map] at hw
    obtain ⟨v, hv, rfl⟩ := hw
    exact fun hwoken => h.behind v hv ((hstep v).1 hwoken)
  · intro hlocked w hw
    obtain ⟨v, hv, rfl⟩ := hhead w hw
    exact fun hwoken => h.held hlocked v hv ((hstep v).1 hwoken)
  · intro hunlocked w hw
    obtain ⟨v, hv, rfl⟩ := hhead w hw
    exact fun hpending => h.awake hunlocked v hv ((hstep v).2 hpending)

theorem remove_tasks (l : Lock ι) (c : ι) :
    (l.remove c).tasks = l.tasks.filter (fun d => d ≠ c) := by
  unfold Lock.remove Lock.tasks
  rw [List.filter_map]
  rfl

theorem remove_behind {l : Lock ι} (h : Behind l.waiters) (c : ι) :
    Behind (l.remove c).waiters := by
  unfold Lock.remove
  cases hws : l.waiters with
  | nil => simp [Behind]
  | cons v vs =>
      rw [hws] at h
      intro w hw
      apply h w
      show w ∈ vs
      dsimp only at hw
      rw [List.filter_cons] at hw
      split at hw
      · exact (List.mem_filter.mp hw).1
      · exact (List.mem_filter.mp (List.mem_of_mem_tail hw)).1

/-- How a suspended task runs again: raising the cancellation, or woken. -/
theorem resume_cases {l l' : Lock ι} {c : ι} {taken : Bool}
    (hr : l.resume c = some (l', taken)) :
    ∃ w ∈ l.waiters, w.task = c
      ∧ (taken = false ∧ l' = (if l.locked then l.remove c else (l.remove c).wakeFirst)
        ∨ taken = true ∧ w.fut = .woken ∧ l' = { l.remove c with locked := true }) := by
  unfold Lock.resume at hr
  cases hf : l.waiters.find? (fun w => w.task = c) with
  | none => simp [hf] at hr
  | some w =>
      have hwc : w.task = c := by simpa using List.find?_some hf
      refine ⟨w, List.mem_of_find?_eq_some hf, hwc, ?_⟩
      simp only [hf] at hr
      split at hr
      · cases hr
      · rename_i hpending
        split at hr
        · rw [Option.some.injEq, Prod.mk.injEq] at hr
          exact .inl ⟨hr.2.symm, hr.1.symm⟩
        · rename_i hcancelled
          rw [Option.some.injEq, Prod.mk.injEq] at hr
          refine .inr ⟨hr.2.symm, ?_, hr.1.symm⟩
          -- neither pending nor cancelled
          simp only [Bool.or_eq_true, decide_eq_true_eq, not_or] at hcancelled
          cases hfut : w.fut with
          | pending => exact absurd hfut hpending
          | woken => rfl
          | cancelled => exact absurd hfut hcancelled.1

/-- A task that runs again leaves the queue.  It takes the lock only when
nobody holds it, and a cancelled one leaves the flag alone. -/
theorem resume_spec {l l' : Lock ι} {c : ι} {taken : Bool} (h : l.Inv)
    (hr : l.resume c = some (l', taken)) :
    c ∈ l.tasks ∧ l'.tasks = l.tasks.filter (fun d => d ≠ c)
      ∧ (taken = true → l.locked = false ∧ l'.locked = true)
      ∧ (taken = false → l'.locked = l.locked) := by
  obtain ⟨w, hw, hwc, hcase⟩ := resume_cases hr
  refine ⟨List.mem_map.mpr ⟨w, hw, hwc⟩, ?_⟩
  rcases hcase with ⟨rfl, rfl⟩ | ⟨rfl, hwoken, rfl⟩
  · refine ⟨?_, by simp, ?_⟩
    · split
      · exact remove_tasks l c
      · rw [wakeFirst_tasks]
        exact remove_tasks l c
    · intro _
      split
      · rfl
      · rw [wakeFirst_locked]
        rfl
  · refine ⟨remove_tasks l c, fun _ => ⟨?_, rfl⟩, by simp⟩
    -- woken, hence first, hence not held
    cases hlocked : l.locked with
    | false => rfl
    | true => exact absurd hwoken (h.held hlocked w (h.head_of_woken hw hwoken))

theorem Lock.Inv.resume {l l' : Lock ι} {c : ι} {taken : Bool} (h : l.Inv)
    (hr : l.resume c = some (l', taken)) : l'.Inv := by
  have hnd : (l.remove c).tasks.Nodup := by
    rw [remove_tasks]
    exact h.nodup.filter _
  have hb := remove_behind h.behind c
  -- the waiters that stay were there before
  have hstay : ∀ v ∈ (l.remove c).waiters.head?, v ∈ l.waiters ∧ v.task ≠ c := by
    intro v hv
    have hmem := List.mem_filter.mp (List.mem_of_mem_head? hv)
    exact ⟨hmem.1, by simpa using hmem.2⟩
  obtain ⟨w, hw, hwc, hcase⟩ := resume_cases hr
  rcases hcase with ⟨rfl, rfl⟩ | ⟨rfl, hwoken, rfl⟩
  · split
    · -- a lock that stays held has woken nobody
      rename_i hlocked
      refine ⟨hnd, hb, ?_, ?_⟩
      · intro _ v hv hvf
        exact h.held hlocked v (h.head_of_woken (hstay v hv).1 hvf) hvf
      · intro hunlocked
        exact absurd (hlocked.symm.trans hunlocked) (by simp)
    · rename_i hlocked
      exact inv_wakeFirst hnd hb (Bool.not_eq_true _ ▸ hlocked)
  · refine ⟨hnd, hb, ?_, by simp⟩
    -- the woken waiter was the first one and is gone
    intro _ v hv hvf
    have hfirst := h.head_of_woken (hstay v hv).1 hvf
    rw [h.head_of_woken hw hwoken, Option.some.injEq] at hfirst
    exact (hstay v hv).2 (hfirst ▸ hwc)

/-! ## §4. Nobody sleeps in front of a free lock. -/

/-- The task cannot run: its future is pending. -/
def Lock.Asleep (l : Lock ι) (c : ι) : Prop := c ∈ l.tasks ∧ l.resume c = none

theorem find_task {l : Lock ι} (h : l.Inv) {w : Waiter ι} (hw : w ∈ l.waiters) :
    l.waiters.find? (fun v => v.task = w.task) = some w := by
  cases hf : l.waiters.find? (fun v => v.task = w.task) with
  | none => simpa using List.find?_eq_none.mp hf w hw
  | some v =>
      have hv := List.mem_of_find?_eq_some hf
      have hvw : v.task = w.task := by simpa using List.find?_some hf
      rw [List.inj_on_of_nodup_map h.nodup hv hw hvw]

theorem asleep_iff {l : Lock ι} (h : l.Inv) {w : Waiter ι} (hw : w ∈ l.waiters) :
    l.Asleep w.task ↔ w.fut = .pending := by
  have hmem : w.task ∈ l.tasks := List.mem_map.mpr ⟨w, hw, rfl⟩
  unfold Lock.Asleep Lock.resume
  rw [find_task h hw]
  dsimp only
  constructor
  · intro hasleep
    have hnone := hasleep.2
    split at hnone
    · assumption
    · split at hnone
      · cases hnone
      · cases hnone
  · intro hpending
    exact ⟨hmem, if_pos hpending⟩

/-- **A task stays asleep only behind a holder or behind a waiter that can run.** -/
theorem blocked_behind {l : Lock ι} (h : l.Inv) {c : ι} (hc : l.Asleep c) :
    l.locked = true ∨ ∃ d ∈ l.tasks, d ≠ c ∧ ¬ l.Asleep d := by
  obtain ⟨w, hw, rfl⟩ := List.mem_map.mp hc.1
  have hpending := (asleep_iff h hw).mp hc
  cases hlocked : l.locked with
  | true => exact .inl rfl
  | false =>
      right
      have hawake := h.awake hlocked
      cases hws : l.waiters with
      | nil => simp [hws] at hw
      | cons v vs =>
          have hv : v ∈ l.waiters := by simp [hws]
          have hvf : v.fut ≠ .pending := hawake v (by simp [hws])
          have hva : ¬ l.Asleep v.task := fun ha => hvf ((asleep_iff h hv).mp ha)
          refine ⟨v.task, List.mem_map.mpr ⟨v, hv, rfl⟩, ?_, hva⟩
          intro htask
          rw [htask] at hva
          exact hva hc

end

end AsyncLock
