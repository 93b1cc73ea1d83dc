/-
  DoipPlayground.Lib.Watchdog
  ───────────────────────────
  **ONE WATCHER ASLEEP OVER SEVERAL TIMERS.**

  Each timer of a type `ι` is armed with a deadline or not armed.  The
  watcher computes the least deadline, sleeps until then, and looks which
  timer has elapsed.  While it sleeps the deadlines change under it: who
  arms a timer has to kick it, who puts a deadline off or disarms a timer
  need not.

    • `Covered` — the watcher is kicked, or wakes by every deadline,
    • `Covered.later` — it survives a change that brings nothing forward,
    • `Covered.due` — so by an elapsed deadline the watcher has been woken,
    • `elapsed_isSome` — and it finds the timer.
-/
import Mathlib.Order.Lattice
import Mathlib.Data.List.MinMax

namespace Watchdog

variable {ι τ : Type*} [LinearOrder τ]

/-- The timers, and until when the watcher sleeps. -/
structure Watch (ι τ : Type*) where
  deadline : ι → Option τ
  kicked : Bool
  /-- `none`: until it is kicked. -/
  wake : Option τ

namespace Watch

/-- The least deadline of these timers. -/
def least (timers : List ι) (w : Watch ι τ) : Option τ :=
  (timers.filterMap w.deadline).min?

/-- Lie down until the least deadline. -/
def rest (timers : List ι) (w : Watch ι τ) : Watch ι τ :=
  { w with kicked := false, wake := w.least timers }

def kick (w : Watch ι τ) : Watch ι τ :=
  { w with kicked := true }

/-- The first of these timers whose deadline is reached. -/
def elapsed (timers : List ι) (now : τ) (w : Watch ι τ) : Option ι :=
  timers.find? fun i =>
    match w.deadline i with
    | some d => decide (d ≤ now)
    | none => false

/-- The watcher is kicked, or wakes by every deadline. -/
def Covered (w : Watch ι τ) : Prop :=
  w.kicked = true ∨ ∀ i d, w.deadline i = some d → ∃ t, w.wake = some t ∧ t ≤ d

/-- No deadline of `w'` comes before it did in `w`. -/
def Later (w w' : Watch ι τ) : Prop :=
  ∀ i d, w'.deadline i = some d → ∃ d₀, w.deadline i = some d₀ ∧ d₀ ≤ d

variable {w w' : Watch ι τ} {timers : List ι} {i : ι} {d now : τ}

theorem least_le (hi : i ∈ timers) (hd : w.deadline i = some d) :
    ∃ t, w.least timers = some t ∧ t ≤ d := by
  have hmem : d ∈ timers.filterMap w.deadline := List.mem_filterMap.mpr ⟨i, hi, hd⟩
  cases hleast : w.least timers with
  | none =>
      have hnil : timers.filterMap w.deadline = [] := List.min?_eq_none_iff.mp hleast
      rw [hnil] at hmem
      cases hmem
  | some t =>
      have hmin := (List.min?_eq_some_iff.mp hleast).2
      exact ⟨t, rfl, hmin d hmem⟩

/-- The watcher that lies down is covered. -/
theorem rest_covered (hall : ∀ i, i ∈ timers) (w : Watch ι τ) : Covered (w.rest timers) :=
  .inr fun i _ hd => least_le (hall i) hd

/-- A covered watcher may be left asleep over deadlines that only move back. -/
theorem Covered.later (h : Covered w) (hlater : Later w w') (hkicked : w'.kicked = w.kicked)
    (hwake : w'.wake = w.wake) : Covered w' := by
  rcases h with hkick | hcover
  · exact .inl (hkicked.trans hkick)
  · right
    intro i d hd
    obtain ⟨d₀, hd₀, hle⟩ := hlater i d hd
    obtain ⟨t, ht, htd⟩ := hcover i d₀ hd₀
    exact ⟨t, hwake.trans ht, htd.trans hle⟩

/-- A covered watcher has been woken by the time a deadline is reached. -/
theorem Covered.due (h : Covered w) (hd : w.deadline i = some d) (hle : d ≤ now) :
    w.kicked = true ∨ ∃ t, w.wake = some t ∧ t ≤ now := by
  rcases h with hkick | hcover
  · exact .inl hkick
  · obtain ⟨t, ht, htd⟩ := hcover i d hd
    exact .inr ⟨t, ht, htd.trans hle⟩

/-- What the woken watcher finds has elapsed. -/
theorem elapsed_eq_some (h : w.elapsed timers now = some i) :
    ∃ d, w.deadline i = some d ∧ d ≤ now := by
  have hi := List.find?_some h
  cases hd : w.deadline i with
  | none =>
      rw [hd] at hi
      cases hi
  | some d =>
      rw [hd] at hi
      exact ⟨d, rfl, of_decide_eq_true hi⟩

/-- The woken watcher finds a timer if one has elapsed. -/
theorem elapsed_isSome (hi : i ∈ timers) (hd : w.deadline i = some d) (hle : d ≤ now) :
    (w.elapsed timers now).isSome = true := by
  unfold elapsed
  rw [List.find?_isSome]
  refine ⟨i, hi, ?_⟩
  rw [hd]
  exact decide_eq_true hle

end Watch

end Watchdog
