/-
  DoipPlayground.Lib.Run
  ──────────────────────
  **FINITE RUNS OF A PARTIAL STEP FUNCTION.**

  A system is a state type `σ`, an event type `ε` and a step function
  `σ → ε → Option σ`: `none` says the event is not enabled in the state.
  Nondeterminism lives in the choice of the events, so "every
  interleaving" is "every list of events".

    • `exec` replays a list of events,
    • `exec_invariant` is the induction every safety proof goes through,
      `exec_history` the one that looks at the events so far,
    • `Along` restricts a run by a condition on each (state, event) pair,
      and `exec_invariant_along` is the induction for restricted runs,
    • `throughout_iff_along` and `everyStep_iff_along` say which runs keep a
      property in all their states, and in all their steps,
    • `everyStep_snoc` is the step of an induction over what has happened,
    • `logged` adds a record of the run to the state; `exec_logged` says it
      changes no behaviour,
    • `Chronicle` is a record each of whose entries goes with those before it.
-/
import Mathlib.Data.List.Induction
import Mathlib.Data.Option.Basic

namespace Transition

variable {σ ε γ : Type*}

/-! ## §1. Runs. -/

/-- Replay the events from `s`; `none` as soon as one is not enabled. -/
def exec (step : σ → ε → Option σ) : σ → List ε → Option σ
  | s, [] => some s
  | s, e :: es => (step s e).bind (fun s' => exec step s' es)

section
variable {step : σ → ε → Option σ}

@[simp] theorem exec_nil (s : σ) : exec step s [] = some s := rfl

theorem exec_cons (s : σ) (e : ε) (es : List ε) :
    exec step s (e :: es) = (step s e).bind (fun s' => exec step s' es) := rfl

/-- A run is its first step followed by a shorter run. -/
theorem exec_cons_eq_some {s t : σ} {e : ε} {es : List ε} :
    exec step s (e :: es) = some t
      ↔ ∃ u, step s e = some u ∧ exec step u es = some t := by
  rw [exec_cons, Option.bind_eq_some_iff]

/-- Runs compose. -/
theorem exec_append (s : σ) (es fs : List ε) :
    exec step s (es ++ fs) = (exec step s es).bind (fun t => exec step t fs) := by
  induction es generalizing s with
  | nil => rfl
  | cons e es ih =>
      rw [List.cons_append, exec_cons, exec_cons]
      cases step s e with
      | none => rfl
      | some u => exact ih u

/-- A run can be cut at any point. -/
theorem exec_append_eq_some {s t : σ} {es fs : List ε} :
    exec step s (es ++ fs) = some t
      ↔ ∃ u, exec step s es = some u ∧ exec step u fs = some t := by
  rw [exec_append, Option.bind_eq_some_iff]

/-- One more step. -/
theorem exec_snoc {s t u : σ} {es : List ε} {e : ε} (h : exec step s es = some t)
    (hu : step t e = some u) : exec step s (es ++ [e]) = some u := by
  rw [exec_append_eq_some]
  exact ⟨t, h, by rw [exec_cons, hu]; rfl⟩

/-- **The invariant rule**: what every step keeps, every run keeps. -/
theorem exec_invariant (Inv : σ → Prop)
    (hstep : ∀ s e s', Inv s → step s e = some s' → Inv s') :
    ∀ (es : List ε) (s t : σ), Inv s → exec step s es = some t → Inv t := by
  intro es
  induction es with
  | nil =>
      intro s t hs h
      rw [exec_nil, Option.some.injEq] at h
      exact h ▸ hs
  | cons e es ih =>
      intro s t hs h
      obtain ⟨u, hu, ht⟩ := exec_cons_eq_some.mp h
      exact ih u t (hstep s e u hs hu) ht

/-- The invariant rule with the history of the run in view. -/
theorem exec_history {init : σ} (Inv : List ε → σ → Prop) (hinit : Inv [] init)
    (hstep : ∀ es s e s', Inv es s → step s e = some s' → Inv (es ++ [e]) s') :
    ∀ (es : List ε) (t : σ), exec step init es = some t → Inv es t := by
  intro es
  induction es using List.reverseRecOn with
  | nil =>
      intro t h
      rw [exec_nil, Option.some.injEq] at h
      exact h ▸ hinit
  | append_singleton es e ih =>
      intro t h
      obtain ⟨u, hu, ht⟩ := exec_append_eq_some.mp h
      obtain ⟨v, hv, hvt⟩ := exec_cons_eq_some.mp ht
      rw [exec_nil, Option.some.injEq] at hvt
      exact hvt ▸ hstep es u e v (ih u hu) hv

end

/-! ## §2. Runs restricted by a condition on their steps. -/

/-- Each step of the run meets `ok`, a condition on the state before the
step and the event taken there. -/
def Along (step : σ → ε → Option σ) (ok : σ → ε → Prop) : σ → List ε → Prop
  | _, [] => True
  | s, e :: es =>
      ok s e ∧
        match step s e with
        | some s' => Along step ok s' es
        | none => True

section
variable {step : σ → ε → Option σ} {ok : σ → ε → Prop}

instance Along.decidable [∀ s e, Decidable (ok s e)] :
    ∀ (s : σ) (es : List ε), Decidable (Along step ok s es)
  | _, [] => inferInstanceAs (Decidable True)
  | s, e :: es =>
      match h : step s e with
      | some s' =>
          have : Decidable (Along step ok s' es) := Along.decidable s' es
          decidable_of_iff (ok s e ∧ Along step ok s' es) (by simp [Along, h])
      | none => decidable_of_iff (ok s e) (by simp [Along, h])

/-- Reading a restricted run one step at a time. -/
theorem Along.cons {s u : σ} {e : ε} {es : List ε}
    (h : Along step ok s (e :: es)) (hu : step s e = some u) :
    ok s e ∧ Along step ok u es := by
  obtain ⟨hok, hrest⟩ := h
  rw [hu] at hrest
  exact ⟨hok, hrest⟩

/-- A restricted run goes on by steps that meet the condition. -/
theorem Along.append {s u : σ} {es fs : List ε} (h : Along step ok s es)
    (hu : exec step s es = some u) (h' : Along step ok u fs) : Along step ok s (es ++ fs) := by
  induction es generalizing s with
  | nil =>
      rw [exec_nil, Option.some.injEq] at hu
      exact hu ▸ h'
  | cons e es ih =>
      obtain ⟨v, hv, hvu⟩ := exec_cons_eq_some.mp hu
      obtain ⟨hok, hrest⟩ := h.cons hv
      refine ⟨hok, ?_⟩
      rw [hv]
      exact ih hrest hvu

/-- What is left of a restricted run is restricted. -/
theorem Along.suffix {s u : σ} {es fs : List ε} (h : Along step ok s (es ++ fs))
    (hu : exec step s es = some u) : Along step ok u fs := by
  induction es generalizing s with
  | nil =>
      rw [exec_nil, Option.some.injEq] at hu
      exact hu ▸ h
  | cons e es ih =>
      obtain ⟨v, hv, hvu⟩ := exec_cons_eq_some.mp hu
      exact ih (h.cons hv).2 hvu

/-- One more step. -/
theorem Along.snoc {s u : σ} {es : List ε} {e : ε} (h : Along step ok s es)
    (hu : exec step s es = some u) (hok : ok u e) : Along step ok s (es ++ [e]) := by
  refine h.append hu ⟨hok, ?_⟩
  split <;> trivial

/-- **The invariant rule for restricted runs**: it is enough that the
steps meeting the condition keep the invariant. -/
theorem exec_invariant_along (Inv : σ → Prop)
    (hstep : ∀ s e s', Inv s → ok s e → step s e = some s' → Inv s') :
    ∀ (es : List ε) (s t : σ), Inv s → Along step ok s es →
      exec step s es = some t → Inv t := by
  intro es
  induction es with
  | nil =>
      intro s t hs _ h
      rw [exec_nil, Option.some.injEq] at h
      exact h ▸ hs
  | cons e es ih =>
      intro s t hs hal h
      obtain ⟨u, hu, ht⟩ := exec_cons_eq_some.mp h
      obtain ⟨hok, hrest⟩ := hal.cons hu
      exact ih u t (hstep s e u hs hok hu) hrest ht

end

section
variable {step : σ → ε → Option σ} {ok : σ → ε → Prop} {P : σ → Prop}

/-- `P` holds in every state the run goes through. -/
def Throughout (step : σ → ε → Option σ) (P : σ → Prop) (s : σ) (es : List ε) : Prop :=
  ∀ before after t, es = before ++ after → exec step s before = some t → P t

theorem throughout_nil {s : σ} : Throughout step P s [] ↔ P s := by
  constructor
  · intro h
    exact h [] [] s rfl rfl
  · intro hs before after t hsplit ht
    rw [(List.append_eq_nil_iff.mp hsplit.symm).1, exec_nil, Option.some.injEq] at ht
    exact ht ▸ hs

theorem throughout_cons {s : σ} {e : ε} {es : List ε} :
    Throughout step P s (e :: es) ↔ P s ∧ ∀ u, step s e = some u → Throughout step P u es := by
  constructor
  · intro h
    refine ⟨h [] (e :: es) s rfl rfl, ?_⟩
    intro u hu before after t hsplit ht
    exact h (e :: before) after t (by rw [hsplit]; rfl) (exec_cons_eq_some.mpr ⟨u, hu, ht⟩)
  · intro ⟨hs, hrest⟩ before after t hsplit ht
    cases before with
    | nil =>
        rw [exec_nil, Option.some.injEq] at ht
        exact ht ▸ hs
    | cons b before =>
        obtain ⟨rfl, hes⟩ := List.cons.inj hsplit
        obtain ⟨u, hu, hut⟩ := exec_cons_eq_some.mp ht
        exact hrest u hu before after t hes hut

/-- **The runs that keep `P`** are known as soon as the steps are that keep it. -/
theorem throughout_iff_along (Inv : σ → Prop)
    (hinv : ∀ s e s', Inv s → step s e = some s' → Inv s')
    (hdisabled : ∀ s e, step s e = none → ok s e)
    (hiff : ∀ s e s', Inv s → P s → step s e = some s' → (P s' ↔ ok s e)) :
    ∀ (es : List ε) (s : σ), Inv s → P s → (Throughout step P s es ↔ Along step ok s es) := by
  intro es
  induction es with
  | nil =>
      intro s _ hs
      rw [throughout_nil]
      exact iff_of_true hs trivial
  | cons e es ih =>
      intro s hI hs
      rw [throughout_cons]
      cases hstep : step s e with
      | none =>
          refine iff_of_true ⟨hs, by simp⟩ ⟨hdisabled s e hstep, ?_⟩
          rw [hstep]
          trivial
      | some u =>
          have hIu := hinv s e u hI hstep
          constructor
          · intro ⟨_, hrest⟩
            have hthrough := hrest u rfl
            have hu : P u := hthrough [] es u rfl rfl
            refine ⟨(hiff s e u hI hs hstep).mp hu, ?_⟩
            rw [hstep]
            exact (ih u hIu hu).mp hthrough
          · intro halong
            obtain ⟨hok, hrest⟩ := halong.cons hstep
            have hu := (hiff s e u hI hs hstep).mpr hok
            refine ⟨hs, ?_⟩
            intro v hv
            cases hv
            exact (ih u hIu hu).mpr hrest

/-- `R` holds of every step the run takes. -/
def EveryStep (step : σ → ε → Option σ) (R : σ → ε → σ → Prop) (s : σ) (es : List ε) : Prop :=
  ∀ before e after t u, es = before ++ e :: after → exec step s before = some t →
    step t e = some u → R t e u

/-- **The runs whose steps meet a relation** are known as soon as the steps
are that meet it. -/
theorem everyStep_iff_along (Inv : σ → Prop) {R : σ → ε → σ → Prop}
    (hinv : ∀ s e s', Inv s → step s e = some s' → Inv s')
    (hdisabled : ∀ s e, step s e = none → ok s e)
    (hiff : ∀ s e s', Inv s → step s e = some s' → (R s e s' ↔ ok s e)) :
    ∀ (es : List ε) (s : σ), Inv s → (EveryStep step R s es ↔ Along step ok s es) := by
  intro es
  induction es with
  | nil =>
      intro s _
      refine iff_of_true ?_ trivial
      intro before e after t u hsplit
      cases before <;> cases hsplit
  | cons e es ih =>
      intro s hI
      constructor
      · intro h
        cases hstep : step s e with
        | none =>
            refine ⟨hdisabled s e hstep, ?_⟩
            rw [hstep]
            trivial
        | some u =>
            refine ⟨(hiff s e u hI hstep).mp (h [] e es s u rfl rfl hstep), ?_⟩
            rw [hstep]
            refine (ih u (hinv s e u hI hstep)).mp ?_
            intro before e' after t v hsplit ht hv
            exact h (e :: before) e' after t v (by rw [hsplit]; rfl)
              (exec_cons_eq_some.mpr ⟨u, hstep, ht⟩) hv
      · intro halong before e' after t v hsplit ht hv
        cases before with
        | nil =>
            obtain ⟨rfl, -⟩ := List.cons.inj hsplit
            rw [exec_nil, Option.some.injEq] at ht
            subst ht
            exact (hiff s e v hI hv).mpr (halong.cons hv).1
        | cons b before =>
            obtain ⟨rfl, hes⟩ := List.cons.inj hsplit
            obtain ⟨u, hu, hut⟩ := exec_cons_eq_some.mp ht
            exact (ih u (hinv s e u hI hu)).mpr (halong.cons hu).2 before e' after t v hes hut hv

/-- A run that goes on meets the relation if it has and the new step does. -/
theorem everyStep_snoc {R : σ → ε → σ → Prop} {s t u : σ} {e : ε} {es : List ε}
    (ht : exec step s es = some t) (hu : step t e = some u) :
    EveryStep step R s (es ++ [e]) ↔ EveryStep step R s es ∧ R t e u := by
  constructor
  · intro h
    refine ⟨?_, h es e [] t u rfl ht hu⟩
    intro before e' after v v' hsplit
    apply h before e' (after ++ [e]) v v'
    rw [hsplit, List.append_assoc, List.cons_append]
  · intro hboth before e' after v v' hsplit hv hv'
    obtain ⟨h, hnew⟩ := hboth
    rcases List.eq_nil_or_concat after with hnil | ⟨after', last, hlast⟩
    · rw [hnil] at hsplit
      obtain ⟨hbefore, hlast⟩ := List.append_inj' hsplit rfl
      cases hlast
      rw [← hbefore, ht, Option.some.injEq] at hv
      subst hv
      rw [hu, Option.some.injEq] at hv'
      subst hv'
      exact hnew
    · rw [hlast, List.concat_eq_append, ← List.cons_append, ← List.append_assoc] at hsplit
      exact h before e' after' v v' (List.append_inj' hsplit rfl).1 hv hv'

end

/-! ## §3. Runs with a record. -/

/-- The system with a record at its side: `note` enters each step. -/
def logged (step : σ → ε → Option σ) (note : σ → ε → σ → γ → γ) :
    σ × γ → ε → Option (σ × γ)
  | (s, g), e => (step s e).map (fun s' => (s', note s e s' g))

section
variable {step : σ → ε → Option σ} {note : σ → ε → σ → γ → γ}

theorem logged_eq_some {s s' : σ} {g g' : γ} {e : ε} :
    logged step note (s, g) e = some (s', g') ↔ step s e = some s' ∧ note s e s' g = g' := by
  show (step s e).map (fun s' => (s', note s e s' g)) = some (s', g') ↔ _
  rw [Option.map_eq_some_iff]
  constructor
  · rintro ⟨t, ht, heq⟩
    cases heq
    exact ⟨ht, rfl⟩
  · rintro ⟨hs, rfl⟩
    exact ⟨s', hs, rfl⟩

/-- Every run can be recorded. -/
theorem exec_logged {s t : σ} {es : List ε} (h : exec step s es = some t) (g : γ) :
    ∃ g', exec (logged step note) (s, g) es = some (t, g') := by
  induction es generalizing s g with
  | nil =>
      rw [exec_nil, Option.some.injEq] at h
      exact ⟨g, by rw [h]; rfl⟩
  | cons e es ih =>
      obtain ⟨u, hu, ht⟩ := exec_cons_eq_some.mp h
      obtain ⟨g', hg'⟩ := ih ht (note s e u g)
      refine ⟨g', exec_cons_eq_some.mpr ⟨(u, note s e u g), ?_, hg'⟩⟩
      exact logged_eq_some.mpr ⟨hu, rfl⟩

end

/-! ## §4. Records whose entries go with those before them. -/

/-- Each entry of the record goes with those before it. -/
def Chronicle {α : Type*} (ok : List α → α → Prop) (log : List α) : Prop :=
  ∀ before a after, log = before ++ a :: after → ok before a

namespace Chronicle

variable {α : Type*} {ok : List α → α → Prop} {log : List α}

theorem nil : Chronicle ok [] := by
  intro before a after h
  exact absurd h.symm (by simp)

/-- One more entry. -/
theorem snoc {a : α} (h : Chronicle ok log) (ha : ok log a) : Chronicle ok (log ++ [a]) := by
  intro before b after hsplit
  rcases List.eq_nil_or_concat after with rfl | ⟨after, c, rfl⟩
  · obtain ⟨rfl, hb⟩ := List.append_inj' hsplit rfl
    cases hb
    exact ha
  · rw [List.concat_eq_append, ← List.cons_append, ← List.append_assoc] at hsplit
    exact h before b after (List.append_inj' hsplit rfl).1

end Chronicle

end Transition
