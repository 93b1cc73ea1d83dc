/-
  DoipPlayground.Lib.Tasks
  ────────────────────────
  **TASKS AND THOSE WHO HOLD THEM.**

  A table says of each task identity whether it is unused, running, asked
  to cancel, or done.  Its owner creates tasks, asks them to cancel and
  later waits for a snapshot of them.

    • `start`, `cancel`, `settle` and their read-back lemmas,
    • `Covered` — every live task is held by someone who will wait for it,
    • `Covered.idle` — a snapshot that has everything held, once joined,
      leaves no live task.
-/
import Mathlib.Logic.Function.Basic

/-- A task as those who hold it see it. -/
inductive TaskStatus where
  | unused
  | running
  /-- `cancel()` was called and the exception is not through yet. -/
  | cancelling
  | done
  deriving DecidableEq, Repr

/-- `cancel()`: nothing happens to a task that is done. -/
def TaskStatus.cancel : TaskStatus → TaskStatus
  | .running => .cancelling
  | s => s

/-- Tasks by their identity. -/
abbrev Tasks (ι : Type*) := ι → TaskStatus

namespace Tasks

variable {ι : Type*} [DecidableEq ι]

/-- `create_task` under a new identity. -/
def start (ts : Tasks ι) (t : ι) : Tasks ι := Function.update ts t .running

/-- The task has run to its end. -/
def settle (ts : Tasks ι) (t : ι) : Tasks ι := Function.update ts t .done

/-- `cancel()` on each task of the list. -/
def cancel (ts : Tasks ι) (l : List ι) : Tasks ι :=
  fun t => if t ∈ l then (ts t).cancel else ts t

/-- Created and not done. -/
def Live (ts : Tasks ι) (t : ι) : Prop := ts t = .running ∨ ts t = .cancelling

instance (ts : Tasks ι) (t : ι) : Decidable (Live ts t) :=
  inferInstanceAs (Decidable (_ ∨ _))

/-- `gather` over the snapshot has nothing left to wait for. -/
def Joined (ts : Tasks ι) (snapshot : List ι) : Prop := ∀ t ∈ snapshot, ts t = .done

instance (ts : Tasks ι) (snapshot : List ι) : Decidable (Joined ts snapshot) :=
  inferInstanceAs (Decidable (∀ t ∈ snapshot, ts t = .done))

variable {ts : Tasks ι} {t u : ι} {l : List ι}

/-! ## §1. Reading the operations back. -/

omit [DecidableEq ι] in
theorem not_live_of_done (h : ts t = .done) : ¬ Live ts t := by
  simp [Live, h]

omit [DecidableEq ι] in
theorem Live.ne_unused (h : Live ts t) : ts t ≠ .unused := by
  rcases h with h | h <;> simp [h]

@[simp] theorem live_start : Live (start ts t) u ↔ u = t ∨ Live ts u := by
  by_cases h : u = t <;> simp [Live, start, h]

@[simp] theorem live_settle : Live (settle ts t) u ↔ u ≠ t ∧ Live ts u := by
  by_cases h : u = t <;> simp [Live, settle, h]

@[simp] theorem live_cancel : Live (cancel ts l) u ↔ Live ts u := by
  by_cases h : u ∈ l
  · cases hs : ts u <;> simp [Live, cancel, h, hs, TaskStatus.cancel]
  · simp [Live, cancel, h]

@[simp] theorem cancel_nil : cancel ts [] = ts := by
  funext t
  simp [cancel]

@[simp] theorem start_eq_unused : start ts t u = .unused ↔ u ≠ t ∧ ts u = .unused := by
  by_cases h : u = t <;> simp [start, h]

@[simp] theorem settle_eq_unused : settle ts t u = .unused ↔ u ≠ t ∧ ts u = .unused := by
  by_cases h : u = t <;> simp [settle, h]

@[simp] theorem cancel_eq_unused : cancel ts l u = .unused ↔ ts u = .unused := by
  by_cases h : u ∈ l
  · cases hs : ts u <;> simp [cancel, h, hs, TaskStatus.cancel]
  · simp [cancel, h]

@[simp] theorem start_eq_done : start ts t u = .done ↔ u ≠ t ∧ ts u = .done := by
  by_cases h : u = t <;> simp [start, h]

@[simp] theorem settle_eq_done : settle ts t u = .done ↔ u = t ∨ ts u = .done := by
  by_cases h : u = t <;> simp [settle, h]

@[simp] theorem cancel_eq_running : cancel ts l u = .running ↔ u ∉ l ∧ ts u = .running := by
  by_cases h : u ∈ l
  · cases hs : ts u <;> simp [cancel, h, hs, TaskStatus.cancel]
  · simp [cancel, h]

@[simp] theorem start_eq_running : start ts t u = .running ↔ u = t ∨ ts u = .running := by
  by_cases h : u = t <;> simp [start, h]

@[simp] theorem settle_eq_running : settle ts t u = .running ↔ u ≠ t ∧ ts u = .running := by
  by_cases h : u = t <;> simp [settle, h]

theorem start_of_ne (h : u ≠ t) : start ts t u = ts u := Function.update_of_ne h _ _

theorem settle_of_ne (h : u ≠ t) : settle ts t u = ts u := Function.update_of_ne h _ _

/-! ## §2. Tasks that are held. -/

omit [DecidableEq ι] in
/-- Every live task is held. -/
def Covered (ts : Tasks ι) (held : ι → Prop) : Prop := ∀ t, Live ts t → held t

variable {held held' : ι → Prop}

omit [DecidableEq ι] in
theorem Covered.mono (h : Covered ts held) (hsub : ∀ t, Live ts t → held t → held' t) :
    Covered ts held' :=
  fun t ht => hsub t ht (h t ht)

theorem Covered.start (h : Covered ts held) (hsub : ∀ u, held u → held' u) (ht : held' t) :
    Covered (start ts t) held' := by
  intro u hu
  rcases live_start.mp hu with rfl | hu
  · exact ht
  · exact hsub u (h u hu)

/-- Only the task that ends may be let go. -/
theorem Covered.settle (h : Covered ts held) (hsub : ∀ u, u ≠ t → held u → held' u) :
    Covered (settle ts t) held' := by
  intro u hu
  obtain ⟨hne, hu⟩ := live_settle.mp hu
  exact hsub u hne (h u hu)

theorem Covered.cancel (h : Covered ts held) : Covered (cancel ts l) held :=
  fun u hu => h u (live_cancel.mp hu)

omit [DecidableEq ι] in
/-- **Nothing is left** once a snapshot of everything held is joined. -/
theorem Covered.idle (h : Covered ts held) {snapshot : List ι} (hsub : ∀ t, held t → t ∈ snapshot)
    (hjoined : Joined ts snapshot) (t : ι) : ¬ Live ts t :=
  fun ht => not_live_of_done (hjoined t (hsub t (h t ht))) ht

end Tasks
