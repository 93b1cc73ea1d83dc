/-
  DoipPlayground.Lib.Unwinding
  ────────────────────────────
  **WHAT ONE PARTY SEES OF A RUN.**

  A view of the state is moved by some events and left alone by the others.
  What an event does to the view is a list of deeds, often empty; `act` is
  one deed.

    • `collect` — the deeds of a run, in order,
    • `Unwinds` — every step moves the view by its deeds and nothing else,
    • `Unwinds.view_run` — so a run moves it by the deeds collected along it.
-/
import DoipPlayground.Lib.Run

namespace Transition

variable {σ ε α β : Type*} {step : σ → ε → Option σ}

/-- What `f` notes of each step of the run, in order. -/
def collect (step : σ → ε → Option σ) (f : σ → ε → List α) : σ → List ε → List α
  | _, [] => []
  | s, e :: es =>
      f s e ++
        match step s e with
        | some s' => collect step f s' es
        | none => []

variable {f : σ → ε → List α} {s t u : σ} {e : ε} {es : List ε}

theorem collect_cons (hu : step s e = some u) :
    collect step f s (e :: es) = f s e ++ collect step f u es := by
  rw [collect, hu]

theorem collect_snoc (ht : exec step s es = some t) :
    collect step f s (es ++ [e]) = collect step f s es ++ f t e := by
  induction es generalizing s with
  | nil =>
      cases ht
      simp only [List.nil_append, collect]
      split <;> exact List.append_nil _
  | cons e' es ih =>
      obtain ⟨u, hu, hrest⟩ := exec_cons_eq_some.mp ht
      rw [List.cons_append, collect_cons hu, collect_cons hu, ih hrest, List.append_assoc]

/-- What is collected has been noted in a step of the run. -/
theorem mem_collect {a : α} (h : a ∈ collect step f s es) :
    ∃ before e after t, es = before ++ e :: after ∧ exec step s before = some t ∧ a ∈ f t e := by
  induction es generalizing s with
  | nil => cases h
  | cons e es ih =>
      rw [collect, List.mem_append] at h
      rcases h with hhead | htail
      · exact ⟨[], e, es, s, rfl, rfl, hhead⟩
      · cases hu : step s e with
        | none =>
            rw [hu] at htail
            cases htail
        | some u =>
            rw [hu] at htail
            obtain ⟨before, e', after, t, hsplit, ht, ha⟩ := ih htail
            refine ⟨e :: before, e', after, t, ?_, ?_, ha⟩
            · rw [hsplit, List.cons_append]
            · exact exec_cons_eq_some.mpr ⟨u, hu, ht⟩

/-- Every step that keeps to the invariant moves the view by its deeds. -/
structure Unwinds (step : σ → ε → Option σ) (Inv : σ → Prop) (deeds : σ → ε → List α)
    (view : σ → β) (act : β → α → β) : Prop where
  keeps : ∀ s e s', Inv s → step s e = some s' → Inv s'
  moves : ∀ s e s', Inv s → step s e = some s' → view s' = (deeds s e).foldl act (view s)

variable {Inv : σ → Prop} {deeds : σ → ε → List α} {view : σ → β} {act : β → α → β}

/-- A run moves the view by the deeds collected along it. -/
theorem Unwinds.view_run (h : Unwinds step Inv deeds view act) (hs : Inv s)
    (ht : exec step s es = some t) :
    view t = (collect step deeds s es).foldl act (view s) := by
  induction es generalizing s with
  | nil =>
      cases ht
      rfl
  | cons e es ih =>
      obtain ⟨u, hu, hrest⟩ := exec_cons_eq_some.mp ht
      rw [collect_cons hu, List.foldl_append, ← h.moves s e u hs hu]
      exact ih (h.keeps s e u hs hu) hrest

end Transition
