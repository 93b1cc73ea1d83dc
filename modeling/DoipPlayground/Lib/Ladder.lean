/-
  DoipPlayground.Lib.Ladder
  ─────────────────────────
  **THE FIRST CANDIDATE THAT DOES NOT DECLINE.**

  A candidate works on a state and either answers or declines.  A ladder
  tries its candidates one after the other; what a declining candidate did
  to the state stays done.

    • `first` — the answer of a ladder,
    • `first_eq_some` — it is the answer of one rung, all rungs before it
      having declined,
    • `walk` — the answers to several questions, up to the first refusal,
    • `sortBy` — candidates in the order of a key, ties as they came.
-/
import Mathlib.Data.List.Sort
import Mathlib.Order.Basic

namespace Ladder

variable {σ τ α β γ : Type*}

/-! ## §1. Candidates. -/

/-- Works on the state, and answers or declines. -/
abbrev Candidate (σ α : Type*) := σ → σ × Option α

/-- The answer of the first candidate that has one. -/
def first : List (Candidate σ α) → Candidate σ α
  | [], s => (s, none)
  | c :: cs, s =>
      match c s with
      | (s', some a) => (s', some a)
      | (s', none) => first cs s'

@[simp] theorem first_nil (s : σ) : first ([] : List (Candidate σ α)) s = (s, none) := rfl

theorem first_cons_some {c : Candidate σ α} {s s' : σ} {a : α} (h : c s = (s', some a))
    (cs : List (Candidate σ α)) : first (c :: cs) s = (s', some a) := by
  rw [first, h]

theorem first_cons_none {c : Candidate σ α} {s s' : σ} (h : c s = (s', none))
    (cs : List (Candidate σ α)) : first (c :: cs) s = first cs s' := by
  rw [first, h]

theorem first_singleton (c : Candidate σ α) : first [c] = c := by
  funext s
  rw [first]
  split
  · rename_i heq
    exact heq.symm
  · rename_i heq
    exact heq.symm

/-- A ladder on top of another one. -/
theorem first_append (cs ds : List (Candidate σ α)) (s : σ) :
    first (cs ++ ds) s = first [first cs, first ds] s := by
  induction cs generalizing s with
  | nil =>
      show first ds s = first [first ds] s
      rw [first_singleton]
  | cons c cs ih =>
      cases h : c s with
      | mk s' answer =>
          cases answer with
          | some a =>
              rw [List.cons_append, first_cons_some h, first_cons_some (first_cons_some h cs)]
          | none =>
              have hfirst : first (c :: cs) s = first cs s' := first_cons_none h cs
              rw [List.cons_append, first_cons_none h, ih s', first, first, hfirst]

/-- **The answer is that of one rung**, and all before it have declined. -/
theorem first_eq_some {cs : List (Candidate σ α)} {s s' : σ} {a : α} :
    first cs s = (s', some a) ↔
      ∃ before c after t, cs = before ++ c :: after ∧ first before s = (t, none)
        ∧ c t = (s', some a) := by
  induction cs generalizing s with
  | nil =>
      constructor
      · intro h
        cases h
      · rintro ⟨before, c, after, t, hsplit, _⟩
        exact absurd hsplit (by simp)
  | cons c cs ih =>
      cases h : c s with
      | mk t answer =>
          cases answer with
          | some b =>
              rw [first_cons_some h]
              constructor
              · intro heq
                exact ⟨[], c, cs, s, rfl, rfl, h.trans heq⟩
              · rintro ⟨before, c', after, u, hsplit, hbefore, hc'⟩
                cases before with
                | nil =>
                    cases hsplit
                    cases hbefore
                    rw [← hc', h]
                | cons d before =>
                    cases hsplit
                    rw [first_cons_some h] at hbefore
                    cases hbefore
          | none =>
              rw [first_cons_none h, ih]
              constructor
              · rintro ⟨before, c', after, u, rfl, hbefore, hc'⟩
                exact ⟨c :: before, c', after, u, rfl, by rw [first_cons_none h, hbefore], hc'⟩
              · rintro ⟨before, c', after, u, hsplit, hbefore, hc'⟩
                cases before with
                | nil =>
                    cases hsplit
                    cases hbefore
                    rw [h] at hc'
                    cases hc'
                | cons d before =>
                    cases hsplit
                    rw [first_cons_none h] at hbefore
                    exact ⟨before, c', after, u, rfl, hbefore, hc'⟩

/-- What becomes of an answer. -/
def andThen (c : Candidate σ α) (f : α → σ → σ × β) : Candidate σ β := fun s =>
  match c s with
  | (s', none) => (s', none)
  | (s', some a) => ((f a s').1, some (f a s').2)

/-- It makes no difference whether each rung does it or the whole ladder. -/
theorem first_andThen (cs : List (Candidate σ α)) (f : α → σ → σ × β) (s : σ) :
    first (cs.map (fun c => andThen c f)) s = andThen (first cs) f s := by
  induction cs generalizing s with
  | nil => rfl
  | cons c cs ih =>
      rw [List.map_cons]
      cases h : c s with
      | mk s' answer =>
          cases answer with
          | none =>
              have hthen : andThen c f s = (s', none) := by
                unfold andThen
                rw [h]
              rw [first_cons_none hthen, ih s']
              unfold andThen
              rw [first_cons_none h]
          | some a =>
              have hthen : andThen c f s = ((f a s').1, some (f a s').2) := by
                unfold andThen
                rw [h]
              rw [first_cons_some hthen]
              unfold andThen
              rw [first_cons_some h]

/-! ## §2. Several questions. -/

section
variable {κ ε : Type*} (f : κ → Candidate σ (Except ε α))

/-- One candidate for each key, in order: what answers is collected, what
declines is skipped, and the first refusal ends the walk. -/
def walk : List κ → σ → σ × Except ε (List (κ × α))
  | [], s => (s, .ok [])
  | k :: ks, s =>
      match f k s with
      | (s', none) => walk ks s'
      | (s', some (.error e)) => (s', .error e)
      | (s', some (.ok a)) => ((walk ks s').1, (walk ks s').2.map ((k, a) :: ·))

variable {f} {k : κ} {s s' : σ}

theorem walk_declined (h : f k s = (s', none)) (ks : List κ) : walk f (k :: ks) s = walk f ks s' := by
  rw [walk, h]

theorem walk_refused {e : ε} (h : f k s = (s', some (.error e))) (ks : List κ) :
    walk f (k :: ks) s = (s', .error e) := by
  rw [walk, h]

theorem walk_answered {a : α} (h : f k s = (s', some (.ok a))) (ks : List κ) :
    walk f (k :: ks) s = ((walk f ks s').1, (walk f ks s').2.map ((k, a) :: ·)) := by
  rw [walk, h]

end

/-! ## §3. The order of the candidates. -/

section
variable [LinearOrder γ] (key : α → γ)

/-- By the key; equal keys stay in their order. -/
def sortBy (l : List α) : List α := l.mergeSort (fun a b => decide (key a ≤ key b))

@[simp] theorem sortBy_nil : sortBy key [] = [] := List.mergeSort_nil

@[simp] theorem sortBy_singleton (a : α) : sortBy key [a] = [a] := List.mergeSort_singleton a

theorem sortBy_perm (l : List α) : (sortBy key l).Perm l := List.mergeSort_perm l _

theorem mem_sortBy {a : α} {l : List α} : a ∈ sortBy key l ↔ a ∈ l := (sortBy_perm key l).mem_iff

theorem le_decide_trans (a b c : α) (hab : decide (key a ≤ key b) = true)
    (hbc : decide (key b ≤ key c) = true) : decide (key a ≤ key c) = true := by
  simp only [decide_eq_true_eq] at hab hbc ⊢
  exact le_trans hab hbc

theorem le_decide_total (a b : α) : (decide (key a ≤ key b) || decide (key b ≤ key a)) = true := by
  simp only [Bool.or_eq_true, decide_eq_true_eq]
  exact le_total _ _

theorem sortBy_sorted (l : List α) : (sortBy key l).Pairwise (fun a b => key a ≤ key b) := by
  have h : (sortBy key l).Pairwise (fun a b => decide (key a ≤ key b) = true) :=
    List.pairwise_mergeSort (le_decide_trans key) (le_decide_total key) l
  exact h.imp (fun hab => of_decide_eq_true hab)

/-- What is below all others comes first. -/
theorem sortBy_append_least {l : List α} {a : α} (h : ∀ b ∈ l, key a < key b) :
    ∃ rest, sortBy key (l ++ [a]) = a :: rest := by
  have hmem : a ∈ sortBy key (l ++ [a]) := (mem_sortBy key).mpr (by simp)
  have hsorted := sortBy_sorted key (l ++ [a])
  cases hsort : sortBy key (l ++ [a]) with
  | nil =>
      rw [hsort] at hmem
      cases hmem
  | cons b rest =>
      rw [hsort] at hmem hsorted
      have hb : b ∈ l ++ [a] := (mem_sortBy key).mp (by rw [hsort]; exact List.mem_cons_self ..)
      rcases List.mem_append.mp hb with hl | ha
      · -- the head is not above `a`, which is among the rest
        have hlt := h b hl
        rcases List.mem_cons.mp hmem with rfl | hrest
        · exact absurd hlt (lt_irrefl _)
        · exact absurd (List.rel_of_pairwise_cons hsorted hrest) (not_le_of_gt hlt)
      · exact ⟨rest, by rw [List.mem_singleton.mp ha]⟩

/-- The sort is stable. -/
theorem sortBy_stable {l : List α} {a b : α} (hab : [a, b].Sublist l) (hle : key a ≤ key b) :
    [a, b].Sublist (sortBy key l) :=
  List.pair_sublist_mergeSort (le_decide_trans key) (le_decide_total key) (by simpa using hle) hab

/-- Renaming the candidates does not reorder them. -/
theorem sortBy_map (f : β → α) (l : List β) :
    sortBy key (l.map f) = (sortBy (key ∘ f) l).map f :=
  (@List.map_mergeSort β α (fun a b => decide (key (f a) ≤ key (f b)))
    (fun a b => decide (key a ≤ key b)) f l (fun _ _ _ _ => rfl)).symm

end

end Ladder
