/-
  DoipPlayground.Lib.Stages
  ─────────────────────────
  **CHAINS OF STATEFUL FILTERS.**

  A stage reads an item, lets one item through or none, has effects on the
  side and moves to its next state.  A chain hands each item from stage to
  stage until one of them keeps it.  A chain is a stage itself, with the list
  of the states of its members for a state.

    • `runs` — a stage and a sequence of items; `Trace` is what comes of each,
    • `chain` — one item through a list of stages,
    • `survivors_runs_chain` — item by item or stage by stage makes no
      difference to what comes out,
    • `runs_chain_split` — a stage in the middle of a chain sees what the
      stages before it let through.
-/
import Mathlib.Data.List.Basic

namespace Stages

variable {σ α ε : Type*}

/-! ## §1. One stage. -/

/-- The next state, what is let through, and the effects. -/
abbrev Outcome (σ α ε : Type*) := σ × Option α × List ε

/-- What came of each item. -/
abbrev Trace (α ε : Type*) := List (Option α × List ε)

/-- What was let through, in order. -/
def survivors (t : Trace α ε) : List α := t.filterMap Prod.fst

@[simp] theorem survivors_cons (o : Option α) (es : List ε) (t : Trace α ε) :
    survivors ((o, es) :: t) = o.toList ++ survivors t := by
  cases o <;> rfl

variable (process : σ → α → Outcome σ α ε)

/-- A sequence of items, one after the other. -/
def runs : σ → List α → σ × Trace α ε
  | s, [] => (s, [])
  | s, a :: rest =>
      let (s', out, es) := process s a
      let (s'', trace) := runs s' rest
      (s'', (out, es) :: trace)

theorem runs_cons (s : σ) (a : α) (rest : List α) :
    runs process s (a :: rest)
      = ((runs process (process s a).1 rest).1,
        (process s a).2 :: (runs process (process s a).1 rest).2) := rfl

theorem runs_append (s : σ) (xs ys : List α) :
    runs process s (xs ++ ys)
      = ((runs process (runs process s xs).1 ys).1,
        (runs process s xs).2 ++ (runs process (runs process s xs).1 ys).2) := by
  induction xs generalizing s with
  | nil => rfl
  | cons a rest ih =>
      rw [List.cons_append, runs_cons, runs_cons, ih]
      rfl

/-- What comes of one item depends on those before it only. -/
theorem runs_getElem? (s : σ) (xs : List α) (i : Nat) :
    (runs process s xs).2[i]?
      = (xs[i]?).map fun a => (process (runs process s (xs.take i)).1 a).2 := by
  induction xs generalizing s i with
  | nil => rfl
  | cons a rest ih =>
      rw [runs_cons]
      cases i with
      | zero => rfl
      | succ i =>
          show (runs process (process s a).1 rest).2[i]? = _
          rw [ih]
          rfl

variable {process}

/-- An invariant of the state is kept along a sequence. -/
theorem runs_invariant (Inv : σ → Prop) (h : ∀ s a, Inv s → Inv (process s a).1) (xs : List α) :
    ∀ s, Inv s → Inv (runs process s xs).1 := by
  induction xs with
  | nil => exact fun s hs => hs
  | cons a rest ih =>
      intro s hs
      rw [runs_cons]
      exact ih _ (h s a hs)

/-! ## §2. A chain. -/

variable (process)

/-- One item through the stages, in order. -/
def chain : List σ → α → Outcome (List σ) α ε
  | [], a => ([], some a, [])
  | s :: rest, a =>
      match process s a with
      | (s', none, es) => (s' :: rest, none, es)
      | (s', some b, es) =>
          let (rest', out, es') := chain rest b
          (s' :: rest', out, es ++ es')

@[simp] theorem chain_nil (a : α) : chain process [] a = ([], some a, []) := rfl

/-- An item that is kept is not seen further down. -/
theorem chain_cons_none {s s' : σ} {a : α} {es : List ε} (h : process s a = (s', none, es))
    (rest : List σ) : chain process (s :: rest) a = (s' :: rest, none, es) := by
  rw [chain, h]

theorem chain_cons_some {s s' : σ} {a b : α} {es : List ε} (h : process s a = (s', some b, es))
    (rest : List σ) :
    chain process (s :: rest) a
      = (s' :: (chain process rest b).1, (chain process rest b).2.1,
        es ++ (chain process rest b).2.2) := by
  rw [chain, h]

/-! ## §3. Stage by stage. -/

/-- The whole sequence through the first stage, what it lets through into
the second, and so on. -/
def byStage : List σ → List α → List α
  | [], xs => xs
  | s :: rest, xs => byStage rest (survivors (runs process s xs).2)

/-- A sequence through a chain is a sequence through its first stage, and
what survives through the others. -/
theorem survivors_chain_cons (s : σ) (rest : List σ) (xs : List α) :
    survivors (runs (chain process) (s :: rest) xs).2
      = survivors (runs (chain process) rest (survivors (runs process s xs).2)).2 := by
  induction xs generalizing s rest with
  | nil => rfl
  | cons a xs ih =>
      rw [runs_cons (chain process), runs_cons process]
      cases hp : process s a with
      | mk s' o =>
          obtain ⟨out, es⟩ := o
          cases out with
          | none =>
              rw [chain_cons_none process hp, survivors_cons, survivors_cons]
              exact ih s' rest
          | some b =>
              rw [chain_cons_some process hp, survivors_cons, survivors_cons, Option.toList_some,
                List.singleton_append, runs_cons (chain process), survivors_cons]
              exact congrArg _ (ih s' (chain process rest b).1)

theorem runs_chain_nil (xs : List α) :
    (runs (chain process) [] xs).2 = xs.map fun a => (some a, []) := by
  induction xs with
  | nil => rfl
  | cons a xs ih =>
      rw [runs_cons, chain_nil, List.map_cons]
      exact congrArg _ ih

/-- **The same items survive.** -/
theorem survivors_runs_chain (stages : List σ) (xs : List α) :
    survivors (runs (chain process) stages xs).2 = byStage process stages xs := by
  induction stages generalizing xs with
  | nil =>
      rw [runs_chain_nil]
      show (xs.map _).filterMap Prod.fst = xs
      rw [List.filterMap_map]
      exact List.filterMap_some
  | cons s rest ih =>
      rw [survivors_chain_cons process s rest xs, ih]
      rfl

/-- What the stages before a stage let through, and what those behind it
make of that. -/
theorem byStage_append (before after : List σ) (xs : List α) :
    byStage process (before ++ after) xs
      = byStage process after (byStage process before xs) := by
  induction before generalizing xs with
  | nil => rfl
  | cons s before ih => exact ih _

/-- **A stage in the middle of a chain.** -/
theorem runs_chain_split (before : List σ) (s : σ) (after : List σ) (xs : List α) :
    survivors (runs (chain process) (before ++ s :: after) xs).2
      = survivors (runs (chain process) after
          (survivors (runs process s
            (survivors (runs (chain process) before xs).2)).2)).2 := by
  rw [survivors_runs_chain, byStage_append, survivors_runs_chain process before]
  show byStage process after _ = _
  rw [survivors_runs_chain]

end Stages
