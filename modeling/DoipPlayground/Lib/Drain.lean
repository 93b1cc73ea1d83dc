/-
  DoipPlayground.Lib.Drain
  ────────────────────────
  **WORK THAT CANNOT GET STUCK AND CANNOT GO ON FOREVER.**

  Some events of a system are its own: nobody outside has to do anything
  for them.  As long as the work is not done one of them can happen, and
  each of them makes a rank smaller.

    • `Drains` — the two facts, under an invariant,
    • `Drains.reaches_done` — the system can finish, by itself,
    • `Drains.done_of_stuck` — if it has nothing left to do, it has finished,
    • `Drains.finite` — and it does not go on without end,
    • `Inevitable` — a property that own events can bring about, and that
      they bring about whichever of them happen,
    • `Drains.inevitable` — so the end of the work is.
-/
import Mathlib.Order.WellFounded
import DoipPlayground.Lib.Run

namespace Transition

variable {σ ε α : Type*}

/-! ## §1. What has to happen. -/

/-- **`P` can be reached, and must be**: it holds, or an own event can happen
and after each own event that can it is inevitable. -/
inductive Inevitable (step : σ → ε → Option σ) (Own : ε → Prop) (P : σ → Prop) : σ → Prop where
  | now {s : σ} (h : P s) : Inevitable step Own P s
  | later {s : σ} (hcan : ∃ e s', Own e ∧ step s e = some s')
      (hmust : ∀ e s', Own e → step s e = some s' → Inevitable step Own P s') :
      Inevitable step Own P s

namespace Inevitable

variable {step : σ → ε → Option σ} {Own : ε → Prop} {P Q : σ → Prop} {s : σ}

theorem mono (h : Inevitable step Own P s) (hPQ : ∀ s, P s → Q s) : Inevitable step Own Q s := by
  induction h with
  | now h => exact .now (hPQ _ h)
  | later hcan _ ih => exact .later hcan ih

/-- It holds in some state that the own events lead to, together with all
that they keep. -/
theorem exists_of (h : Inevitable step Own P s) {Inv : σ → Prop} (hs : Inv s)
    (hkeeps : ∀ s e s', Inv s → Own e → step s e = some s' → Inv s') : ∃ t, Inv t ∧ P t := by
  induction h with
  | now h => exact ⟨_, hs, h⟩
  | later hcan _ ih =>
      obtain ⟨e, s', hown, hstep⟩ := hcan
      exact ih e s' hown hstep (hkeeps _ e s' hs hown hstep)

end Inevitable

/-! ## §2. Work that drains. -/

variable [LT α]

/-- The own events keep the invariant, lower the rank, and one of them can
happen until the work is done. -/
structure Drains (step : σ → ε → Option σ) (Inv : σ → Prop) (Own : ε → Prop) (Done : σ → Prop)
    (rank : σ → α) : Prop where
  keeps : ∀ s e s', Inv s → Own e → step s e = some s' → Inv s'
  lowers : ∀ s e s', Inv s → Own e → step s e = some s' → rank s' < rank s
  goes_on : ∀ s, Inv s → ¬ Done s → ∃ e s', Own e ∧ step s e = some s'

namespace Drains

variable {step : σ → ε → Option σ} {Inv : σ → Prop} {Own : ε → Prop} {Done : σ → Prop}
  {rank : σ → α} {s : σ}

/-- Where no own event can happen, the work is done. -/
theorem done_of_stuck (h : Drains step Inv Own Done rank) (hs : Inv s)
    (hstuck : ∀ e, Own e → step s e = none) : Done s := by
  apply Classical.byContradiction
  intro hnot
  obtain ⟨e, s', hown, hstep⟩ := h.goes_on s hs hnot
  rw [hstuck e hown] at hstep
  cases hstep

variable [WellFoundedLT α]

/-- **The work can be finished** by own events alone. -/
theorem reaches_done (h : Drains step Inv Own Done rank) (hs : Inv s) :
    ∃ es t, (∀ e ∈ es, Own e) ∧ exec step s es = some t ∧ Done t := by
  induction s using WellFounded.induction (InvImage.wf rank (wellFounded_lt (α := α))) with
  | _ s ih =>
      by_cases hdone : Done s
      · exact ⟨[], s, by simp, rfl, hdone⟩
      · obtain ⟨e, s', hown, hstep⟩ := h.goes_on s hs hdone
        obtain ⟨es, t, hes, ht, hdone⟩ :=
          ih s' (h.lowers s e s' hs hown hstep) (h.keeps s e s' hs hown hstep)
        refine ⟨e :: es, t, ?_, exec_cons_eq_some.mpr ⟨s', hstep, ht⟩, hdone⟩
        intro e' he'
        rcases List.mem_cons.mp he' with rfl | htail
        · exact hown
        · exact hes e' htail

/-- **Finishing is inevitable**, and the invariant still holds then. -/
theorem inevitable (h : Drains step Inv Own Done rank) (hs : Inv s) :
    Inevitable step Own (fun s => Inv s ∧ Done s) s := by
  induction s using WellFounded.induction (InvImage.wf rank (wellFounded_lt (α := α))) with
  | _ s ih =>
      by_cases hdone : Done s
      · exact .now ⟨hs, hdone⟩
      · refine .later (h.goes_on s hs hdone) ?_
        intro e s' hown hstep
        exact ih s' (h.lowers s e s' hs hown hstep) (h.keeps s e s' hs hown hstep)

/-- **There is no end to nothing**: own events do not follow each other forever. -/
theorem finite (h : Drains step Inv Own Done rank) (states : ℕ → σ) (hs : Inv (states 0)) :
    ¬ ∀ n, ∃ e, Own e ∧ step (states n) e = some (states (n + 1)) := by
  intro hall
  have hinv : ∀ n, Inv (states n) := by
    intro n
    induction n with
    | zero => exact hs
    | succ n ih =>
        obtain ⟨e, hown, hstep⟩ := hall n
        exact h.keeps _ e _ ih hown hstep
  have hfalls : ∀ n, rank (states (n + 1)) < rank (states n) := by
    intro n
    obtain ⟨e, hown, hstep⟩ := hall n
    exact h.lowers _ e _ (hinv n) hown hstep
  obtain ⟨n, hn⟩ : ∃ n, ¬ rank (states (n + 1)) < rank (states n) :=
    WellFounded.not_rel_apply_succ fun n => rank (states n)
  exact hn (hfalls n)

end Drains

end Transition
