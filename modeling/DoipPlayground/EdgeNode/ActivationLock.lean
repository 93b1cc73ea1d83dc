/-
  DoipPlayground.EdgeNode.ActivationLock
  ──────────────────────────────────────
  **`SessionRegistry.activation_lock`, down to its `asyncio.Lock` objects**
  (`session_registry.py`).

  A contender is one call of the context manager.  It runs from one await
  to the next: `enter` is everything up to the suspension in
  `async with lock` (or up to the `yield`), `resume` is the event loop
  running a suspended contender again, `leave` is the body ending, normally
  or by an exception, with the release and the `finally`.  A cancellation
  request reaches a waiter through its future; a holder gets it inside its
  body and then leaves.

  Main results:
    * `Inv.step` — the dictionary, the lock objects and the contenders agree
      after every step,
    * `Inv.refines` — every step is a few operations of the
      reference-counted table that the session model is built on,
    * `Inv.leave_releases` — the release of a holder never raises,
    * `activation_lock_serializes` — one lock object and one holder per SA,
      an entry exactly while somebody contends, and no blocking across SAs.
-/
import DoipPlayground.EdgeNode.Session
import DoipPlayground.Lib.AsyncLock

namespace DoipPlayground.EdgeNode.ActivationLock

open RefLock (Table Contender)
open AsyncLock (Lock)

/-! ## §1. The locks. -/

/-- `_activation_locks` with the contenders' frames (`table`), and the lock
objects it refers to. -/
structure ActivationLocks (ι : Type) where
  table : Table SA ι
  heap : Nat → Lock ι

inductive Event (ι : Type) where
  | enter (logicalAddr : SA) (c : ι)
  | resume (c : ι)
  | cancel (c : ι)
  | leave (c : ι)
  deriving DecidableEq, Repr

namespace ActivationLocks

variable {ι : Type} [DecidableEq ι]

/-- A registry nobody has contended in. -/
def init : ActivationLocks ι := ⟨Table.empty, fun _ => Lock.new⟩

/-- `activation_lock` up to its first suspension.  The default of `get` is
built in any case, so every call makes one lock object. -/
def enter (s : ActivationLocks ι) (logicalAddr : SA) (c : ι) : ActivationLocks ι :=
  let lock := ((s.table.entry logicalAddr).getD (s.table.next, 0)).1
  let table := s.table.enter logicalAddr c
  match (s.heap lock).acquire c with
  | (l, true) => ⟨table.hold c, Function.update s.heap lock l⟩
  | (l, false) => ⟨table, Function.update s.heap lock l⟩

/-- A suspended contender runs again: into the body, or out through the
`finally` with its `CancelledError`. -/
def resume (s : ActivationLocks ι) (c : ι) : Option (ActivationLocks ι) :=
  match s.table.find c with
  | none => none
  | some x =>
      match (s.heap x.lock).resume c with
      | none => none
      | some (l, true) => some ⟨s.table.hold c, Function.update s.heap x.lock l⟩
      | some (l, false) => some ⟨s.table.leave c, Function.update s.heap x.lock l⟩

/-- `cancel()` on the task of a contender. -/
def cancel (s : ActivationLocks ι) (c : ι) : ActivationLocks ι :=
  match s.table.find c with
  | none => s
  | some x =>
      -- a holder is suspended in its body, not on the lock
      if x.holding then s
      else { s with heap := Function.update s.heap x.lock ((s.heap x.lock).cancel c) }

/-- The end of the body: `__aexit__` of the lock, then the `finally`, which
also runs should the release raise. -/
def leave (s : ActivationLocks ι) (c : ι) : Option (ActivationLocks ι) :=
  match s.table.find c with
  | none => none
  | some x =>
      if x.holding then
        some ⟨s.table.leave c,
          Function.update s.heap x.lock ((s.heap x.lock).release.getD (s.heap x.lock))⟩
      else none

def step (s : ActivationLocks ι) : Event ι → Option (ActivationLocks ι)
  | .enter sa c => if (s.table.find c).isSome then none else some (s.enter sa c)
  | .resume c => s.resume c
  | .cancel c => some (s.cancel c)
  | .leave c => s.leave c

/-! ## §2. The invariant. -/

/-- The dictionary counts its contenders, and every lock object knows the
ones that wait for it and whether one of them holds it. -/
structure Inv (s : ActivationLocks ι) : Prop where
  table : s.table.Inv
  lock : ∀ l, (s.heap l).Inv
  waiting : ∀ l c, c ∈ (s.heap l).tasks ↔ s.table.WaitsAt l c
  held : ∀ l, (s.heap l).locked = true ↔ s.table.HeldAt l

omit [DecidableEq ι] in
theorem inv_init : (init : ActivationLocks ι).Inv where
  table := RefLock.inv_empty
  lock := fun _ => AsyncLock.inv_new
  waiting := by simp [init, Table.WaitsAt, Table.empty, Lock.tasks, Lock.new]
  held := by simp [init, Table.HeldAt, Table.empty, Lock.new]

omit [DecidableEq ι] in
/-- A step on one lock object keeps the invariant if the object and the
records of its contenders still agree. -/
theorem Inv.update {s : ActivationLocks ι} (h : s.Inv) {t : Table SA ι} {sa : SA} {l₀ : Nat}
    {k : Lock ι} (ht : t.Inv) (hbeside : s.table.SameBeside t sa l₀) (hk : k.Inv)
    (hwaiting : ∀ c, c ∈ k.tasks ↔ t.WaitsAt l₀ c) (hheld : k.locked = true ↔ t.HeldAt l₀) :
    (⟨t, Function.update s.heap l₀ k⟩ : ActivationLocks ι).Inv where
  table := ht
  lock := by
    intro l
    show (Function.update s.heap l₀ k l).Inv
    by_cases hl : l = l₀
    · subst hl
      rw [Function.update_self]
      exact hk
    · rw [Function.update_of_ne hl]
      exact h.lock l
  waiting := by
    intro l c
    show c ∈ (Function.update s.heap l₀ k l).tasks ↔ t.WaitsAt l c
    by_cases hl : l = l₀
    · subst hl
      rw [Function.update_self]
      exact hwaiting c
    · rw [Function.update_of_ne hl, hbeside.waitsAt hl]
      exact h.waiting l c
  held := by
    intro l
    show (Function.update s.heap l₀ k l).locked = true ↔ t.HeldAt l
    by_cases hl : l = l₀
    · subst hl
      rw [Function.update_self]
      exact hheld
    · rw [Function.update_of_ne hl, hbeside.heldAt hl]
      exact h.held l

/-! ## §3. One step, by cases. -/

/-- What a step does: the operations of the table, and the one lock object
it works on. -/
inductive Change (s : ActivationLocks ι) : Event ι → ActivationLocks ι → Prop
  | entered {sa : SA} {c : ι} {l : Lock ι} : s.table.find c = none →
      (s.heap (s.table.pick sa)).acquire c = (l, true) →
      Change s (.enter sa c)
        ⟨(s.table.enter sa c).hold c, Function.update s.heap (s.table.pick sa) l⟩
  | queued {sa : SA} {c : ι} {l : Lock ι} : s.table.find c = none →
      (s.heap (s.table.pick sa)).acquire c = (l, false) →
      Change s (.enter sa c) ⟨s.table.enter sa c, Function.update s.heap (s.table.pick sa) l⟩
  | acquired {c : ι} {x : Contender SA ι} {l : Lock ι} : s.table.find c = some x →
      (s.heap x.lock).resume c = some (l, true) →
      Change s (.resume c) ⟨s.table.hold c, Function.update s.heap x.lock l⟩
  | cancelled {c : ι} {x : Contender SA ι} {l : Lock ι} : s.table.find c = some x →
      (s.heap x.lock).resume c = some (l, false) →
      Change s (.resume c) ⟨s.table.leave c, Function.update s.heap x.lock l⟩
  | requested {c : ι} {x : Contender SA ι} : s.table.find c = some x → x.holding = false →
      Change s (.cancel c)
        ⟨s.table, Function.update s.heap x.lock ((s.heap x.lock).cancel c)⟩
  | untouched {c : ι} : Change s (.cancel c) s
  | left {c : ι} {x : Contender SA ι} : s.table.find c = some x → x.holding = true →
      Change s (.leave c)
        ⟨s.table.leave c,
          Function.update s.heap x.lock ((s.heap x.lock).release.getD (s.heap x.lock))⟩

theorem step_cases {s s' : ActivationLocks ι} {e : Event ι} (h : s.step e = some s') :
    s.Change e s' := by
  cases e with
  | enter sa c =>
      simp only [step] at h
      split at h
      -- a client is in one `async with` at a time
      · cases h
      · rename_i hout
        rw [Option.some.injEq] at h
        subst h
        have hnone : s.table.find c = none := by simpa using hout
        have hpick : ((s.table.entry sa).getD (s.table.next, 0)).1 = s.table.pick sa := rfl
        unfold enter
        dsimp only
        rw [hpick]
        -- a free lock is taken at once; else the client goes to the lock's queue
        cases hacq : (s.heap (s.table.pick sa)).acquire c with
        | mk l taken =>
            cases taken with
            | true => exact .entered hnone hacq
            | false => exact .queued hnone hacq
  | resume c =>
      simp only [step, resume] at h
      cases hf : s.table.find c with
      | none => simp [hf] at h
      | some x =>
          simp only [hf] at h
          -- only a task in the queue is resumed, with the lock or with its cancellation
          cases hr : (s.heap x.lock).resume c with
          | none => simp [hr] at h
          | some p =>
              obtain ⟨l, taken⟩ := p
              simp only [hr] at h
              cases taken with
              | true =>
                  rw [Option.some.injEq] at h
                  exact h ▸ .acquired hf hr
              | false =>
                  rw [Option.some.injEq] at h
                  exact h ▸ .cancelled hf hr
  | cancel c =>
      simp only [step, cancel, Option.some.injEq] at h
      cases hf : s.table.find c with
      | none =>
          simp only [hf] at h
          exact h ▸ .untouched
      | some x =>
          -- a cancellation of a holder is delivered elsewhere, inside its body
          simp only [hf] at h
          split at h
          · exact h ▸ .untouched
          · rename_i hw
            exact h ▸ .requested hf (Bool.not_eq_true _ ▸ hw)
  | leave c =>
      simp only [step, leave] at h
      cases hf : s.table.find c with
      | none => simp [hf] at h
      | some x =>
          simp only [hf] at h
          -- `leave` is the end of the body, so the client holds the lock
          split at h
          · rename_i hh
            rw [Option.some.injEq] at h
            exact h ▸ .left hf hh
          · cases h

/-! ## §4. Every step refines the reference-counted table. -/

/-- A contender suspended on its lock is a waiting one. -/
theorem Inv.waiting_of_resume {s : ActivationLocks ι} (h : s.Inv) {c : ι} {x : Contender SA ι}
    {l : Lock ι} {taken : Bool} (hf : s.table.find c = some x)
    (hr : (s.heap x.lock).resume c = some (l, taken)) : x.holding = false := by
  have hmem := (AsyncLock.resume_spec (h.lock x.lock) hr).1
  obtain ⟨y, hy, hyc, _, hw⟩ := (h.waiting x.lock c).mp hmem
  obtain ⟨hx, hxc⟩ := RefLock.find_some hf
  rw [h.table.record_unique hx hy (hxc.trans hyc.symm)]
  exact hw

/-- A waiter that takes its lock finds nobody holding it. -/
theorem Inv.free_of_resume {s : ActivationLocks ι} (h : s.Inv) {c : ι} {x : Contender SA ι}
    {l : Lock ι} (hr : (s.heap x.lock).resume c = some (l, true)) :
    ¬ s.table.HeldAt x.lock := by
  rw [← h.held x.lock, ((AsyncLock.resume_spec (h.lock x.lock) hr).2.2.1 rfl).1]
  simp

omit [DecidableEq ι] in
/-- A contender that takes its lock on entering finds nobody holding it. -/
theorem Inv.free_of_acquire {s : ActivationLocks ι} (h : s.Inv) {sa : SA} {c : ι} {l : Lock ι}
    (hacq : (s.heap (s.table.pick sa)).acquire c = (l, true)) :
    ¬ (s.table.enter sa c).HeldAt (s.table.pick sa) := by
  rw [RefLock.enter_heldAt, ← h.held]
  rcases AsyncLock.acquire_spec (s.heap (s.table.pick sa)) c with ⟨_, hl, _⟩ | ⟨htaken, _⟩
  · simp [hl]
  · rw [hacq] at htaken
    cases htaken

/-- **Every step is a few operations of the table.** -/
theorem Inv.refines {s s' : ActivationLocks ι} {e : Event ι} (h : s.Inv) (hc : s.Change e s') :
    Relation.ReflTransGen RefLock.Step s.table s'.table := by
  induction hc with
  | @entered sa c l hnone hacq =>
      apply Relation.ReflTransGen.tail
      · exact .single (.enter sa (RefLock.find_none hnone))
      · exact .acquire c (RefLock.acquire_eq_hold (RefLock.enter_find _ sa c) rfl
          (h.free_of_acquire hacq))
  | @queued sa c l hnone _ => exact .single (.enter sa (RefLock.find_none hnone))
  | @acquired c x l hf hr =>
      apply Relation.ReflTransGen.single
      exact .acquire c (RefLock.acquire_eq_hold hf (h.waiting_of_resume hf hr)
        (h.free_of_resume hr))
  | @cancelled c x l _ _ => exact .single (.leave s.table c)
  | requested _ _ => exact .refl
  | untouched => exact .refl
  | @left c x _ _ => exact .single (.leave s.table c)

/-- A contender waits for the lock object of its record only. -/
theorem Inv.not_waitsAt_of_find {s : ActivationLocks ι} (h : s.Inv) {c : ι}
    {x : Contender SA ι} (hf : s.table.find c = some x) (hh : x.holding = true) (l : Nat) :
    ¬ s.table.WaitsAt l c := by
  rintro ⟨y, hy, hyc, _, hw⟩
  obtain ⟨hx, hxc⟩ := RefLock.find_some hf
  rw [h.table.record_unique hx hy (hxc.trans hyc.symm), hw] at hh
  cases hh

/-- Who is not inside is in no queue. -/
theorem Inv.not_queued {s : ActivationLocks ι} (h : s.Inv) {c : ι} (hnone : s.table.find c = none)
    (l : Nat) : c ∉ (s.heap l).tasks := by
  rw [h.waiting]
  rintro ⟨x, hx, hxc, _⟩
  exact RefLock.find_none hnone ⟨x, hx, hxc⟩

theorem Inv.change {s s' : ActivationLocks ι} {e : Event ι} (h : s.Inv) (hc : s.Change e s') :
    s'.Inv := by
  have htable : s'.table.Inv := h.table.steps (h.refines hc)
  induction hc with
  | @entered sa c l hnone hacq =>
      have hout := h.not_queued hnone (s.table.pick sa)
      -- the lock object of `sa` does not know the client yet
      have hlock := (h.lock (s.table.pick sa)).acquire hout
      have hfind := RefLock.enter_find s.table sa c
      have hspec := AsyncLock.acquire_spec (s.heap (s.table.pick sa)) c
      rw [hacq] at hlock hspec
      have hbeside := (RefLock.enter_beside s.table sa c).trans (RefLock.hold_beside hfind)
      rcases hspec with ⟨_, _, hlocked, htasks⟩ | ⟨htaken, _⟩
      -- a free lock is taken at once, so the client waits at no moment
      · apply h.update htable hbeside hlock
        · intro d
          have hinv := h.table.enter sa (RefLock.find_none hnone)
          rw [htasks, RefLock.hold_waitsAt hinv hfind, RefLock.enter_waitsAt, h.waiting]
          constructor
          · intro hd
            refine ⟨.inl hd, ?_⟩
            rintro rfl
            exact hout ((h.waiting _ _).mpr hd)
          · rintro ⟨hd | hd, hdc⟩
            · exact hd
            · exact absurd hd hdc
        · exact ⟨fun _ => RefLock.hold_heldAt hfind, fun _ => hlocked⟩
      · cases htaken
  | @queued sa c l hnone hacq =>
      have hout := h.not_queued hnone (s.table.pick sa)
      have hlock := (h.lock (s.table.pick sa)).acquire hout
      have hspec := AsyncLock.acquire_spec (s.heap (s.table.pick sa)) c
      rw [hacq] at hlock hspec
      rcases hspec with ⟨htaken, _⟩ | ⟨_, hlocked, htasks⟩
      -- a lock that is taken queues the client and stays locked
      · cases htaken
      · apply h.update htable (RefLock.enter_beside s.table sa c) hlock
        · intro d
          rw [htasks, RefLock.enter_waitsAt, List.mem_append, List.mem_singleton, h.waiting]
        · rw [hlocked, RefLock.enter_heldAt]
          exact h.held _
  | @acquired c x l hf hr =>
      -- the task woken first takes the lock: it leaves the queue and the flag is set
      obtain ⟨_, htasks, htaken, _⟩ := AsyncLock.resume_spec (h.lock x.lock) hr
      apply h.update htable (RefLock.hold_beside hf) ((h.lock x.lock).resume hr)
      · intro d
        rw [htasks, RefLock.hold_waitsAt h.table hf, List.mem_filter, h.waiting]
        simp
      · exact ⟨fun _ => RefLock.hold_heldAt hf, fun _ => (htaken rfl).2⟩
  | @cancelled c x l hf hr =>
      obtain ⟨_, htasks, _, hflag⟩ := AsyncLock.resume_spec (h.lock x.lock) hr
      -- a waiter that is cancelled leaves the flag to whoever holds the lock
      apply h.update htable (RefLock.leave_beside hf) ((h.lock x.lock).resume hr)
      · intro d
        rw [htasks, RefLock.leave_waitsAt h.table hf, List.mem_filter, h.waiting]
        simp
      · rw [hflag rfl, RefLock.leave_heldAt_of_waiting h.table hf (h.waiting_of_resume hf hr)]
        exact h.held _
  | @requested c x _ _ =>
      -- a cancellation requested is only noted: queue and flag stay as they are
      obtain ⟨hflag, htasks⟩ := AsyncLock.cancel_spec (s.heap x.lock) c
      have hbeside : s.table.SameBeside s.table x.key x.lock := fun _ _ => Iff.rfl
      apply h.update htable hbeside ((h.lock x.lock).cancel c)
      · intro d
        rw [htasks]
        exact h.waiting _ d
      · rw [hflag]
        exact h.held _
  | untouched => exact h
  | @left c x hf hh =>
      have hlocked : (s.heap x.lock).locked = true :=
        (h.held _).mpr ⟨x, (RefLock.find_some hf).1, rfl, hh⟩
      obtain ⟨l, hr, hfree, htasks⟩ := AsyncLock.release_spec hlocked
      -- a release frees the lock, even if a waiter is woken with it
      rw [hr, Option.getD_some]
      apply h.update (by rwa [hr] at htable) (RefLock.leave_beside hf)
        ((h.lock x.lock).release hr)
      · intro d
        rw [htasks, RefLock.leave_waitsAt h.table hf, h.waiting]
        constructor
        · intro hd
          refine ⟨hd, ?_⟩
          rintro rfl
          exact h.not_waitsAt_of_find hf hh _ hd
        · exact And.left
      · rw [hfree]
        constructor
        · intro hf'
          cases hf'
        · intro hheld
          exact absurd hheld (RefLock.leave_heldAt_of_holding h.table hf hh)

theorem Inv.step {s s' : ActivationLocks ι} {e : Event ι} (h : s.Inv) (hs : s.step e = some s') :
    s'.Inv := h.change (step_cases hs)

omit [DecidableEq ι] in
/-- The release at the end of a body never raises. -/
theorem Inv.leave_releases {s : ActivationLocks ι} (h : s.Inv) {x : Contender SA ι}
    (hx : x ∈ s.table.contenders) (hh : x.holding = true) :
    ∃ l, (s.heap x.lock).release = some l := by
  have hlocked : (s.heap x.lock).locked = true := (h.held _).mpr ⟨x, hx, rfl, hh⟩
  obtain ⟨l, hr, _⟩ := AsyncLock.release_spec hlocked
  exact ⟨l, hr⟩

/-! ## §5. Who blocks whom. -/

/-- The contender is suspended and its future is not done. -/
def Blocked (s : ActivationLocks ι) (x : Contender SA ι) : Prop :=
  x.holding = false ∧ s.step (.resume x.client) = none

theorem Inv.blocked_iff {s : ActivationLocks ι} (h : s.Inv) {x : Contender SA ι}
    (hx : x ∈ s.table.contenders) (hw : x.holding = false) :
    s.Blocked x ↔ (s.heap x.lock).Asleep x.client := by
  have hmem : x.client ∈ (s.heap x.lock).tasks :=
    (h.waiting _ _).mpr ⟨x, hx, rfl, rfl, hw⟩
  have hstep : s.step (.resume x.client) = none ↔ (s.heap x.lock).resume x.client = none := by
    simp only [ActivationLocks.step, ActivationLocks.resume, h.table.find_eq hx]
    cases hr : (s.heap x.lock).resume x.client with
    | none => simp
    | some p =>
        obtain ⟨l, taken⟩ := p
        cases taken with
        | true => simp
        | false => simp
  unfold Blocked Lock.Asleep
  rw [hstep]
  exact ⟨fun hb => ⟨hmem, hb.2⟩, fun ha => ⟨hw, ha.2⟩⟩

/-- A blocked contender has another one for its SA that holds or can run. -/
theorem Inv.blocked_behind {s : ActivationLocks ι} (h : s.Inv) {x : Contender SA ι}
    (hx : x ∈ s.table.contenders) (hb : s.Blocked x) :
    ∃ y ∈ s.table.contenders, y.client ≠ x.client ∧ y.key = x.key ∧ ¬ s.Blocked y := by
  have hasleep := (h.blocked_iff hx hb.1).mp hb
  rcases AsyncLock.blocked_behind (h.lock x.lock) hasleep with hlocked | ⟨d, hd, hne, hawake⟩
  · obtain ⟨y, hy, hl, hh⟩ := (h.held _).mp hlocked
    refine ⟨y, hy, ?_, (RefLock.lock_eq_iff_key_eq h.table hy hx).mp hl, ?_⟩
    · intro hyx
      rw [h.table.record_unique hy hx hyx, hb.1] at hh
      cases hh
    · intro hyb
      rw [hyb.1] at hh
      cases hh
  · obtain ⟨y, hy, rfl, hl, hw⟩ := (h.waiting _ _).mp hd
    refine ⟨y, hy, hne, (RefLock.lock_eq_iff_key_eq h.table hy hx).mp hl, ?_⟩
    rw [h.blocked_iff hy hw, hl]
    exact hawake

/-- The SA a step is about: that of its contender. -/
def about (s : ActivationLocks ι) : Event ι → Option SA
  | .enter sa _ => some sa
  | .resume c => (s.table.find c).map Contender.key
  | .cancel c => (s.table.find c).map Contender.key
  | .leave c => (s.table.find c).map Contender.key

/-- For the contenders of one SA the two states are the same. -/
structure SameFor (s s' : ActivationLocks ι) (sa : SA) : Prop where
  entry : s'.table.entry sa = s.table.entry sa
  contenders : ∀ x : Contender SA ι, x.key = sa →
    (x ∈ s'.table.contenders ↔ x ∈ s.table.contenders)
  lock : ∀ x ∈ s.table.contenders, x.key = sa → s'.heap x.lock = s.heap x.lock

omit [DecidableEq ι] in
/-- A step on the lock object of one SA, seen from another. -/
theorem Inv.sameFor {s : ActivationLocks ι} {t : Table SA ι} {sa sa' : SA} {l₀ : Nat}
    {k : Lock ι} (hentry : t.entry sa' = s.table.entry sa')
    (hbeside : s.table.SameBeside t sa l₀) (hne : sa ≠ sa')
    (hlock : ∀ x ∈ s.table.contenders, x.lock = l₀ → x.key = sa) :
    s.SameFor ⟨t, Function.update s.heap l₀ k⟩ sa' where
  entry := hentry
  contenders := by
    rintro x rfl
    exact hbeside x fun hx => hne hx.1.symm
  lock := by
    rintro x hx rfl
    apply Function.update_of_ne
    intro hl
    exact hne (hlock x hx hl).symm

theorem Inv.frame {s s' : ActivationLocks ι} {e : Event ι} (h : s.Inv) (hc : s.Change e s')
    {sa' : SA} (hother : s.about e ≠ some sa') : s.SameFor s' sa' := by
  -- the contenders of a lock object contend for the SA of its record
  have howner : ∀ {c : ι} {x : Contender SA ι}, s.table.find c = some x →
      ∀ y ∈ s.table.contenders, y.lock = x.lock → y.key = x.key := by
    intro c x hf y hy hl
    exact (RefLock.lock_eq_iff_key_eq h.table hy (RefLock.find_some hf).1).mp hl
  have hkey : ∀ {c : ι} {x : Contender SA ι}, s.table.find c = some x →
      (s.table.find c).map Contender.key ≠ some sa' → x.key ≠ sa' := by
    intro c x hf hne hk
    rw [hf, Option.map_some, hk] at hne
    exact hne rfl
  induction hc with
  | @entered sa c l _ _ =>
      have hne : sa ≠ sa' := fun hsa => hother (congrArg some hsa)
      have hfind := RefLock.enter_find s.table sa c
      apply Inv.sameFor _ ((RefLock.enter_beside s.table sa c).trans (RefLock.hold_beside hfind))
        hne
      · intro x hx hl
        exact (h.table.pick_eq_iff sa hx).mp hl
      · rw [RefLock.hold_eq hfind]
        exact Function.update_of_ne hne.symm _ _
  | @queued sa c l _ _ =>
      have hne : sa ≠ sa' := fun hsa => hother (congrArg some hsa)
      apply Inv.sameFor _ (RefLock.enter_beside s.table sa c) hne
      · intro x hx hl
        exact (h.table.pick_eq_iff sa hx).mp hl
      · exact Function.update_of_ne hne.symm _ _
  | @acquired c x l hf _ =>
      apply Inv.sameFor _ (RefLock.hold_beside hf) (hkey hf hother) (howner hf)
      rw [RefLock.hold_eq hf]
  | @cancelled c x l hf _ =>
      exact Inv.sameFor (RefLock.leave_entry_of_ne hf (hkey hf hother).symm)
        (RefLock.leave_beside hf) (hkey hf hother) (howner hf)
  | @requested c x hf _ =>
      exact Inv.sameFor rfl (fun _ _ => Iff.rfl) (hkey hf hother) (howner hf)
  | untouched => exact ⟨rfl, fun _ _ => Iff.rfl, fun _ _ _ => rfl⟩
  | @left c x hf _ =>
      exact Inv.sameFor (RefLock.leave_entry_of_ne hf (hkey hf hother).symm)
        (RefLock.leave_beside hf) (hkey hf hother) (howner hf)

/-- What is the same for an SA blocks the same of its contenders. -/
theorem SameFor.blocked_iff {s s' : ActivationLocks ι} (h : s.Inv) (h' : s'.Inv) {sa : SA}
    (hs : s.SameFor s' sa) {x : Contender SA ι} (hx : x ∈ s.table.contenders)
    (hsa : x.key = sa) : s'.Blocked x ↔ s.Blocked x := by
  have hx' := (hs.contenders x hsa).mpr hx
  cases hw : x.holding with
  | true => simp [Blocked, hw]
  | false => rw [h'.blocked_iff hx' hw, h.blocked_iff hx hw, hs.lock x hx hsa]

/-- A contender that finds its SA uncontended is in the body at once. -/
theorem Inv.enter_uncontended {s : ActivationLocks ι} (h : s.Inv) {sa : SA} {c : ι}
    (hout : ¬ s.table.Inside c) (hnone : ∀ x ∈ s.table.contenders, x.key ≠ sa) :
    ∃ s', s.step (.enter sa c) = some s' ∧ s'.table.Holds sa c := by
  have hfind : s.table.find c = none := by
    cases hf : s.table.find c with
    | none => rfl
    | some x => exact absurd ⟨x, RefLock.find_some hf⟩ hout
  -- no record has the lock object picked up, so it is free and its queue empty
  have hunused : ∀ x ∈ s.table.contenders, x.lock ≠ s.table.pick sa := fun x hx hl =>
    hnone x hx ((h.table.pick_eq_iff sa hx).mp hl)
  have hlocked : (s.heap (s.table.pick sa)).locked = false := by
    rw [← Bool.not_eq_true, h.held]
    rintro ⟨x, hx, hl, _⟩
    exact hunused x hx hl
  have hqueue : (s.heap (s.table.pick sa)).waiters = [] := by
    have htasks : (s.heap (s.table.pick sa)).tasks = [] := by
      apply List.eq_nil_iff_forall_not_mem.mpr
      intro d hd
      obtain ⟨x, hx, _, hl, _⟩ := (h.waiting _ _).mp hd
      exact hunused x hx hl
    exact List.map_eq_nil_iff.mp htasks
  have hacq : (s.heap (s.table.pick sa)).acquire c = (⟨true, []⟩, true) := by
    simp [Lock.acquire, hlocked, hqueue]
  have hstep : s.step (.enter sa c) = some (s.enter sa c) := by
    simp only [ActivationLocks.step, hfind]
    rfl
  refine ⟨s.enter sa c, hstep, ?_⟩
  have hpick : ((s.table.entry sa).getD (s.table.next, 0)).1 = s.table.pick sa := rfl
  simp only [ActivationLocks.enter, hpick, hacq]
  rw [RefLock.hold_eq (RefLock.enter_find s.table sa c)]
  exact ⟨_, List.mem_cons_self, rfl, rfl, rfl⟩

/-! ## §6. Every interleaving. -/

theorem inv_of_run {es : List (Event ι)} {s : ActivationLocks ι}
    (hrun : Transition.exec step init es = some s) : s.Inv :=
  Transition.exec_invariant Inv (fun _ _ _ h hs => h.step hs) es _ _ inv_init hrun

/-- What holds between the contenders, the dictionary and the lock objects. -/
structure Serialized (s : ActivationLocks ι) : Prop where
  /-- One lock object per SA. -/
  shared : ∀ x ∈ s.table.contenders, ∀ y ∈ s.table.contenders,
    x.lock = y.lock ↔ x.key = y.key
  /-- At most one contender per SA is in the body. -/
  exclusive : ∀ x ∈ s.table.contenders, ∀ y ∈ s.table.contenders,
    x.key = y.key → x.holding = true → y.holding = true → x = y
  /-- An entry exactly while somebody contends. -/
  entry : ∀ sa, (s.table.entry sa).isSome ↔ ∃ x ∈ s.table.contenders, x.key = sa
  /-- The entry holds that lock object and counts the contenders. -/
  counted : ∀ x ∈ s.table.contenders,
    s.table.entry x.key = some (x.lock, s.table.users x.key)
  /-- Whoever is blocked is blocked by a contender for the same SA. -/
  blocked : ∀ x ∈ s.table.contenders, s.Blocked x →
    ∃ y ∈ s.table.contenders, y.client ≠ x.client ∧ y.key = x.key ∧ ¬ s.Blocked y

theorem Inv.serialized {s : ActivationLocks ι} (h : s.Inv) : s.Serialized where
  shared := fun _ hx _ hy => RefLock.lock_eq_iff_key_eq h.table hx hy
  exclusive := by
    intro x hx y hy hk hxh hyh
    exact h.table.exclusive x hx y hy hxh hyh ((RefLock.lock_eq_iff_key_eq h.table hx hy).mpr hk)
  entry := RefLock.entry_iff_contender h.table
  counted := by
    intro x hx
    obtain ⟨n, hn⟩ := h.table.shared x hx
    rw [hn, (h.table.counted _ _ _ hn).1]
  blocked := fun _ hx hb => h.blocked_behind hx hb

/-- **The per-SA activation lock**, in every state of every interleaving of
contenders that enter, acquire, are cancelled and leave: the contenders are
serialized, an uncontended SA is entered at once, and a step about one SA
changes nothing for the contenders of the others and blocks none of them. -/
theorem activation_lock_serializes {es : List (Event ι)} {s : ActivationLocks ι}
    (hrun : Transition.exec step init es = some s) :
    s.Serialized
      ∧ (∀ sa c, ¬ s.table.Inside c → (∀ x ∈ s.table.contenders, x.key ≠ sa) →
          ∃ s', s.step (.enter sa c) = some s' ∧ s'.table.Holds sa c)
      ∧ ∀ e s', s.step e = some s' → ∀ sa, s.about e ≠ some sa →
          s.SameFor s' sa
            ∧ ∀ x ∈ s.table.contenders, x.key = sa → (s'.Blocked x ↔ s.Blocked x) := by
  have hinv := inv_of_run hrun
  refine ⟨hinv.serialized, fun sa c hout hnone => hinv.enter_uncontended hout hnone, ?_⟩
  intro e s' hs sa hother
  have hsame := hinv.frame (step_cases hs) hother
  exact ⟨hsame, fun x hx hsa => hsame.blocked_iff hinv (hinv.step hs) hx hsa⟩

/-- A holder, a waiter cancelled in the queue, one behind it, and another SA:
the cancelled one is not yet gone when the holder leaves. -/
def cancelledInQueue : List (Event Nat) :=
  [.enter 0x0E00 1, .enter 0x0E00 2, .enter 0x0E00 3, .enter 0x0E01 4, .cancel 2, .leave 1]

theorem activation_lock_serializes_cancelledInQueue :
    ∃ s, Transition.exec step init cancelledInQueue = some s ∧ s.Serialized := by
  have hsome : (Transition.exec step init cancelledInQueue).isSome = true := by decide
  obtain ⟨s, hs⟩ := Option.isSome_iff_exists.mp hsome
  exact ⟨s, hs, (activation_lock_serializes hs).1⟩

end ActivationLocks

end DoipPlayground.EdgeNode.ActivationLock
