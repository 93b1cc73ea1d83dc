/-
  DoipPlayground.Lib.AsyncQueue
  ─────────────────────────────
  **AN UNBOUNDED QUEUE WITH WAITING GETTERS** (`asyncio.Queue`).

  A getter that finds the queue empty waits.  A put wakes the getter that
  has waited longest; it looks at the queue again when it runs, and by then
  another one may have been faster.  A woken getter that is cancelled
  passes the wake on.

    • `put`, `get`, `resume`, `cancel`, `clear`,
    • `Attended` — nobody waits for an item that is there, unless as many
      getters have been woken as there are items,
    • `Attended.woken_ne_nil` — a getter that waits at a queue with items is
      not stranded.
-/
import Mathlib.Data.List.Basic

/-- The items and the getters of a queue. -/
structure AsyncQueue (ι α : Type*) where
  items : List α := []
  /-- Getters that wait, the oldest first. -/
  pending : List ι := []
  /-- Getters that were woken and have not run yet. -/
  woken : List ι := []
  deriving DecidableEq, Repr

namespace AsyncQueue

variable {ι α : Type*} (q : AsyncQueue ι α)

/-! ## §1. The operations. -/

/-- `_wakeup_next` -/
def wakeNext : AsyncQueue ι α :=
  match q.pending with
  | [] => q
  | r :: rest => { q with pending := rest, woken := q.woken ++ [r] }

/-- `put_nowait` -/
def put (a : α) : AsyncQueue ι α := wakeNext { q with items := q.items ++ [a] }

/-- `get`: the oldest item, or the getter waits. -/
def get (r : ι) : AsyncQueue ι α × Option α :=
  match q.items with
  | [] => ({ q with pending := q.pending ++ [r] }, none)
  | a :: rest => ({ q with items := rest }, some a)

/-- `get_nowait` until the queue is empty. -/
def clear : AsyncQueue ι α := { q with items := [] }

/-- The getters that have not returned. -/
def waiting : List ι := q.pending ++ q.woken

section
variable [DecidableEq ι]

/-- A woken getter runs. -/
def resume (r : ι) : AsyncQueue ι α × Option α := get { q with woken := q.woken.erase r } r

/-- A getter is cancelled. -/
def cancel (r : ι) : AsyncQueue ι α :=
  if r ∈ q.woken then
    if q.items = [] then { q with woken := q.woken.erase r }
    else wakeNext { q with woken := q.woken.erase r }
  else { q with pending := q.pending.erase r }

end

/-! ## §2. Items. -/

@[simp] theorem items_wakeNext : q.wakeNext.items = q.items := by
  unfold wakeNext
  split <;> rfl

@[simp] theorem items_put (a : α) : (q.put a).items = q.items ++ [a] := by
  unfold put
  rw [items_wakeNext]

@[simp] theorem items_clear : q.clear.items = [] := rfl

@[simp] theorem items_cancel [DecidableEq ι] (r : ι) : (q.cancel r).items = q.items := by
  unfold cancel
  split
  · split
    · rfl
    · rw [items_wakeNext]
  · rfl

/-- What a getter takes was at the head. -/
theorem get_items {r : ι} {q' : AsyncQueue ι α} {taken : Option α} (h : q.get r = (q', taken)) :
    q.items = taken.toList ++ q'.items := by
  unfold get at h
  split at h
  · cases h
    rfl
  · rename_i a rest hitems
    cases h
    exact hitems

/-- A getter waits only at an empty queue. -/
theorem get_none {r : ι} {q' : AsyncQueue ι α} (h : q.get r = (q', none)) : q.items = [] := by
  unfold get at h
  split at h
  · rename_i hitems
    exact hitems
  · cases h

theorem resume_items [DecidableEq ι] {r : ι} {q' : AsyncQueue ι α} {taken : Option α}
    (h : q.resume r = (q', taken)) : q.items = taken.toList ++ q'.items :=
  get_items { q with woken := q.woken.erase r } h

/-! ## §3. Getters. -/

/-- Waking changes nobody's waiting. -/
theorem waiting_wakeNext : q.wakeNext.waiting.Perm q.waiting := by
  unfold wakeNext waiting
  split
  · exact .refl _
  · rename_i r rest hpending
    rw [hpending, ← List.append_assoc, List.cons_append]
    exact List.perm_append_singleton r (rest ++ q.woken)

theorem waiting_put (a : α) : (q.put a).waiting.Perm q.waiting :=
  waiting_wakeNext { q with items := q.items ++ [a] }

/-- A getter that takes an item does not wait. -/
theorem waiting_get_some {r : ι} {q' : AsyncQueue ι α} {a : α} (h : q.get r = (q', some a)) :
    q'.waiting = q.waiting := by
  unfold get at h
  split at h
  · cases h
  · cases h
    rfl

/-- A woken getter that takes an item waits no longer. -/
theorem waiting_resume_some [DecidableEq ι] {r : ι} {q' : AsyncQueue ι α} {a : α}
    (hr : r ∈ q.woken) (h : q.resume r = (q', some a)) : (r :: q'.waiting).Perm q.waiting := by
  have hwaiting := waiting_get_some { q with woken := q.woken.erase r } h
  rw [hwaiting]
  show (r :: (q.pending ++ q.woken.erase r)).Perm (q.pending ++ q.woken)
  refine List.perm_middle.symm.trans ?_
  exact (List.perm_cons_erase hr).symm.append_left q.pending

/-! ## §4. Nobody is stranded. -/

/-- Nobody waits for an item that is there, unless as many getters have been
woken as there are items. -/
def Attended : Prop := q.pending = [] ∨ q.items.length ≤ q.woken.length

variable {q}

/-- Getters that wait at a queue with items: one of them has been woken. -/
theorem Attended.woken_ne_nil (h : q.Attended) (hitems : q.items ≠ []) (hwaiting : q.waiting ≠ []) :
    q.woken ≠ [] := by
  intro hwoken
  rcases h with hpending | hle
  · exact hwaiting (by rw [waiting, hpending, hwoken]; rfl)
  · rw [hwoken] at hle
    exact hitems (List.length_eq_zero_iff.mp (Nat.le_zero.mp hle))

theorem attended_wakeNext (h : q.pending = [] ∨ q.items.length ≤ q.woken.length + 1) :
    q.wakeNext.Attended := by
  unfold wakeNext
  split
  · rename_i hpending
    exact .inl hpending
  · rename_i r rest hpending
    refine .inr ?_
    rcases h with hnil | hle
    · rw [hpending] at hnil
      cases hnil
    · rw [List.length_append]
      exact hle

theorem Attended.put (h : q.Attended) (a : α) : (q.put a).Attended := by
  refine attended_wakeNext (h.imp id fun hle => ?_)
  rw [List.length_append]
  exact Nat.succ_le_succ hle

theorem Attended.clear (h : q.Attended) : q.clear.Attended := h.imp id fun _ => Nat.zero_le _

theorem Attended.get {r : ι} {q' : AsyncQueue ι α} {taken : Option α} (h : q.Attended)
    (hget : q.get r = (q', taken)) : q'.Attended := by
  unfold AsyncQueue.get at hget
  split at hget
  · rename_i hitems
    cases hget
    refine .inr ?_
    rw [hitems]
    exact Nat.zero_le _
  · rename_i a rest hitems
    cases hget
    refine h.imp id fun hle => ?_
    rw [hitems] at hle
    exact Nat.le_of_succ_le hle

variable [DecidableEq ι]

theorem Attended.resume {r : ι} {q' : AsyncQueue ι α} {taken : Option α} (h : q.Attended)
    (hr : r ∈ q.woken) (hresume : q.resume r = (q', taken)) : q'.Attended := by
  have hlength : (q.woken.erase r).length + 1 = q.woken.length := by
    rw [List.length_erase_of_mem hr]
    have := List.length_pos_of_mem hr
    omega
  unfold AsyncQueue.resume AsyncQueue.get at hresume
  split at hresume
  · rename_i hitems
    cases hresume
    refine .inr ?_
    show q.items.length ≤ _
    rw [show q.items = [] from hitems]
    exact Nat.zero_le _
  · rename_i a rest hitems
    cases hresume
    refine h.imp id fun hle => ?_
    show rest.length ≤ (q.woken.erase r).length
    rw [show q.items = a :: rest from hitems, List.length_cons] at hle
    omega

theorem Attended.cancel (h : q.Attended) (r : ι) : (q.cancel r).Attended := by
  unfold AsyncQueue.cancel
  split
  · rename_i hr
    have hlength : (q.woken.erase r).length + 1 = q.woken.length := by
      rw [List.length_erase_of_mem hr]
      have := List.length_pos_of_mem hr
      omega
    split
    · rename_i hitems
      refine .inr ?_
      rw [hitems]
      exact Nat.zero_le _
    · -- the wake is passed on
      refine attended_wakeNext (h.imp id fun hle => ?_)
      show q.items.length ≤ (q.woken.erase r).length + 1
      omega
  · refine h.imp (fun hnil => ?_) id
    show q.pending.erase r = []
    rw [hnil]
    rfl

end AsyncQueue
