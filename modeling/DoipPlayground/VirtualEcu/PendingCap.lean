/-
  DoipPlayground.VirtualEcu.PendingCap
  ────────────────────────────────────
  **ONE CALL OF `_dispatch_with_p2`** (`session.py`).

  The call watches the dispatch task through `wait_for(shield(task))`.  The
  timer of a window and the resumption of the call are two steps, so the
  task may end in between; a task that ends before the timer runs delivers
  its result.  The dispatcher turns a `TimeoutError` of a handler into a
  refusal, so the one the loop catches is its own.

    • `callStep` — the call, its task and what both hand to the responder,
    • `CallOk` — where the call stands after a schedule,
    • `callStep_refines` — it is a refinement of `p2Step`,
    • `pending_capped_iff` — the cap holds and the task is accounted for,
      as long as the responder does not raise.
-/
import DoipPlayground.VirtualEcu.ResponsePending

namespace DoipPlayground.VirtualEcu

open Wire

/-! ## §1. The call and its task. -/

/-- How the dispatch task ends. -/
inductive TaskEnd where
  | ended (r : Result)
  /-- With `CancelledError`, asked for or not. -/
  | cancelled
  deriving DecidableEq, Repr

/-- How the call ends. -/
inductive CallEnd where
  /-- As the task did. -/
  | own (e : TaskEnd)
  /-- It returned `NO_RESPONSE` after giving up. -/
  | noResponse
  /-- The call was cancelled. -/
  | cancelled
  /-- The responder raised. -/
  | failed
  deriving DecidableEq, Repr

/-- Where the call is suspended. -/
inductive CallPoint where
  /-- `await asyncio.wait_for(asyncio.shield(task), timeout=window)` -/
  | waiting
  /-- The timer of the window has run: `TimeoutError` is on its way. -/
  | elapsed
  /-- Sending `7F <sid> 78`. -/
  | sendingPending
  /-- Sending `7F <sid> 10`. -/
  | sendingReject
  | returned (e : CallEnd)
  deriving DecidableEq, Repr

/-- Who hands a frame to the responder. -/
inductive Sender where
  | call | handler
  deriving DecidableEq, Repr

structure P2Call where
  point : CallPoint := .waiting
  /-- How the dispatch task has ended. -/
  task : Option TaskEnd := none
  /-- `task.cancel()` was called. -/
  cancelCalled : Bool := false
  pendingSent : Nat := 0
  /-- All frames handed to the responder, in order. -/
  sent : List (Sender × Bytes) := []
  deriving DecidableEq, Repr

inductive CallEvent where
  /-- The task ends of its own accord. -/
  | finish (e : TaskEnd)
  /-- The handler sends a frame of its own. -/
  | emit (frame : Bytes)
  /-- A cancelled task is through with it. -/
  | settle
  /-- The timer of the window runs. -/
  | elapse
  /-- The call resumes with `TimeoutError`. -/
  | timeout
  /-- The frame being sent is drained. -/
  | drained
  /-- The responder raises. -/
  | fail
  /-- The call resumes with the end of the task. -/
  | resume
  /-- The call is cancelled. -/
  | cancel
  deriving DecidableEq, Repr

/-- The steps of the call itself, cancellation apart. -/
def CallEvent.isOwn : CallEvent → Bool
  | .elapse | .timeout | .drained | .fail | .resume => true
  | .finish _ | .emit _ | .settle | .cancel => false

/-- How far the call has come in its window. -/
def CallPoint.stage : CallPoint → Nat
  | .waiting => 0
  | .elapsed => 1
  | .sendingPending | .sendingReject => 2
  | .returned _ => 3

namespace P2Call

/-- A task that runs on: neither done nor about to be cancelled. -/
def Running (m : P2Call) : Prop := m.task = none ∧ m.cancelCalled = false

instance (m : P2Call) : Decidable m.Running := inferInstanceAs (Decidable (_ ∧ _))

def send (m : P2Call) (sender : Sender) (frame : Bytes) : P2Call :=
  { m with sent := m.sent ++ [(sender, frame)] }

/-- What the call itself has handed to the responder. -/
def own (m : P2Call) : List Bytes :=
  m.sent.filterMap fun s => if s.1 = .call then some s.2 else none

end P2Call

def callStep (cfg : UdsConfig) (request : UdsRequest) (m : P2Call) : CallEvent → Option P2Call
  | .finish e => if m.Running then some { m with task := some e } else none
  | .emit frame => if m.Running then some (m.send .handler frame) else none
  | .settle =>
      if m.task = none ∧ m.cancelCalled = true then some { m with task := some .cancelled }
      else none
  | .elapse =>
      if m.point = .waiting ∧ m.task = none ∧ cfg.autoResponsePending = true then
        some { m with point := .elapsed }
      else none
  | .timeout =>
      if m.point = .elapsed then
        if cfg.maxResponsePending ≠ 0 ∧ cfg.maxResponsePending ≤ m.pendingSent then
          -- give up: `task.cancel()` and the final frame
          some ({ m with point := .sendingReject, cancelCalled := true }.send .call
            (request.negative nrcGeneralReject))
        else
          some ({ m with point := .sendingPending }.send .call
            (request.negative nrcResponsePending))
      else none
  | .drained =>
      match m.point with
      | .sendingPending => some { m with point := .waiting, pendingSent := m.pendingSent + 1 }
      | .sendingReject => some { m with point := .returned .noResponse }
      | _ => none
  | .fail =>
      if m.point = .sendingPending ∨ m.point = .sendingReject then
        some { m with point := .returned .failed }
      else none
  | .resume =>
      match m.point, m.task with
      | .waiting, some e => some { m with point := .returned (.own e) }
      | _, _ => none
  | .cancel =>
      match m.point with
      | .returned _ => none
      | _ =>
          -- `if not task.done(): task.cancel()`
          some { m with point := .returned .cancelled
                        cancelCalled := m.cancelCalled || m.task.isNone }

variable {cfg : UdsConfig} {request : UdsRequest} {m m' : P2Call} {es : List CallEvent}

namespace P2Call

@[simp] theorem send_point (sender : Sender) (frame : Bytes) :
    (m.send sender frame).point = m.point := rfl

@[simp] theorem send_pendingSent (sender : Sender) (frame : Bytes) :
    (m.send sender frame).pendingSent = m.pendingSent := rfl

theorem own_send_call (frame : Bytes) : (m.send .call frame).own = m.own ++ [frame] := by
  unfold own send
  rw [List.filterMap_append]
  rfl

@[simp] theorem own_send_handler (frame : Bytes) : (m.send .handler frame).own = m.own := by
  unfold own send
  rw [List.filterMap_append]
  exact List.append_nil _

end P2Call

/-! ## §2. What a step can do. -/

/-- A step of the call, guard and outcome. -/
inductive CallEffect (cfg : UdsConfig) (request : UdsRequest) (m : P2Call) :
    CallEvent → P2Call → Prop where
  | finished (e : TaskEnd) (hrunning : m.Running) :
      CallEffect cfg request m (.finish e) { m with task := some e }
  | emitted (frame : Bytes) (hrunning : m.Running) :
      CallEffect cfg request m (.emit frame) (m.send .handler frame)
  | settled (htask : m.task = none) (hcalled : m.cancelCalled = true) :
      CallEffect cfg request m .settle { m with task := some .cancelled }
  | elapsed (hpoint : m.point = .waiting) (htask : m.task = none) :
      CallEffect cfg request m .elapse { m with point := .elapsed }
  | gaveUp (hpoint : m.point = .elapsed)
      (hover : cfg.maxResponsePending ≠ 0 ∧ cfg.maxResponsePending ≤ m.pendingSent) :
      CallEffect cfg request m .timeout
        ({ m with point := .sendingReject, cancelCalled := true }.send .call
          (request.negative nrcGeneralReject))
  | pendingStarted (hpoint : m.point = .elapsed)
      (hmore : ¬ (cfg.maxResponsePending ≠ 0 ∧ cfg.maxResponsePending ≤ m.pendingSent)) :
      CallEffect cfg request m .timeout
        ({ m with point := .sendingPending }.send .call (request.negative nrcResponsePending))
  | pendingDrained (hpoint : m.point = .sendingPending) :
      CallEffect cfg request m .drained
        { m with point := .waiting, pendingSent := m.pendingSent + 1 }
  | rejectDrained (hpoint : m.point = .sendingReject) :
      CallEffect cfg request m .drained { m with point := .returned .noResponse }
  | failed (hpoint : m.point = .sendingPending ∨ m.point = .sendingReject) :
      CallEffect cfg request m .fail { m with point := .returned .failed }
  | resumed (e : TaskEnd) (hpoint : m.point = .waiting) (htask : m.task = some e) :
      CallEffect cfg request m .resume { m with point := .returned (.own e) }
  | cancelled (hopen : ∀ e, m.point ≠ .returned e) :
      CallEffect cfg request m .cancel
        { m with point := .returned .cancelled, cancelCalled := m.cancelCalled || m.task.isNone }

/-- The one place where `callStep` is unfolded. -/
theorem callStep_effect {e : CallEvent} (hstep : callStep cfg request m e = some m') :
    CallEffect cfg request m e m' := by
  cases e with
  | finish e =>
      simp only [callStep, Option.ite_none_right_eq_some, Option.some.injEq] at hstep
      obtain ⟨hrunning, rfl⟩ := hstep
      exact .finished e hrunning
  | emit frame =>
      simp only [callStep, Option.ite_none_right_eq_some, Option.some.injEq] at hstep
      obtain ⟨hrunning, rfl⟩ := hstep
      exact .emitted frame hrunning
  | settle =>
      simp only [callStep, Option.ite_none_right_eq_some, Option.some.injEq] at hstep
      obtain ⟨⟨htask, hcalled⟩, rfl⟩ := hstep
      exact .settled htask hcalled
  | elapse =>
      simp only [callStep, Option.ite_none_right_eq_some, Option.some.injEq] at hstep
      obtain ⟨⟨hpoint, htask, _⟩, rfl⟩ := hstep
      exact .elapsed hpoint htask
  | timeout =>
      simp only [callStep, Option.ite_none_right_eq_some] at hstep
      obtain ⟨hpoint, hstep⟩ := hstep
      split at hstep
      · rename_i hover
        rw [Option.some.injEq] at hstep
        subst hstep
        exact .gaveUp hpoint hover
      · rename_i hmore
        rw [Option.some.injEq] at hstep
        subst hstep
        exact .pendingStarted hpoint hmore
  | drained =>
      simp only [callStep] at hstep
      split at hstep
      · rename_i hpoint
        rw [Option.some.injEq] at hstep
        subst hstep
        exact .pendingDrained hpoint
      · rename_i hpoint
        rw [Option.some.injEq] at hstep
        subst hstep
        exact .rejectDrained hpoint
      · cases hstep
  | fail =>
      simp only [callStep, Option.ite_none_right_eq_some, Option.some.injEq] at hstep
      obtain ⟨hpoint, rfl⟩ := hstep
      exact .failed hpoint
  | resume =>
      simp only [callStep] at hstep
      split at hstep
      · rename_i e hpoint htask
        rw [Option.some.injEq] at hstep
        subst hstep
        exact .resumed e hpoint htask
      · cases hstep
  | cancel =>
      simp only [callStep] at hstep
      split at hstep
      · cases hstep
      · rename_i hopen
        rw [Option.some.injEq] at hstep
        subst hstep
        exact .cancelled hopen

theorem CallPoint.stage_le (point : CallPoint) : point.stage ≤ 3 := by
  cases point <;> simp [CallPoint.stage]

/-- Three steps a window: a timer, a resumption, a frame. -/
theorem ownSteps_run (h : Transition.exec (callStep cfg request) {} es = some m) :
    es.countP CallEvent.isOwn ≤ 3 * m.pendingSent + m.point.stage := by
  refine Transition.exec_history
    (fun es m => es.countP CallEvent.isOwn ≤ 3 * m.pendingSent + m.point.stage) (by simp) ?_ es m h
  intro es m e m' hle hstep
  rw [List.countP_append, List.countP_singleton]
  cases callStep_effect hstep with
  -- the task's own steps leave the point where it is
  | finished e _ => exact hle
  | emitted frame _ => exact hle
  | settled _ _ => exact hle
  -- a step of the call moves it on by one stage
  | elapsed hpoint _ =>
      rw [hpoint] at hle
      exact Nat.succ_le_succ hle
  | gaveUp hpoint _ =>
      rw [hpoint] at hle
      exact Nat.succ_le_succ hle
  | pendingStarted hpoint _ =>
      rw [hpoint] at hle
      exact Nat.succ_le_succ hle
  | rejectDrained hpoint =>
      rw [hpoint] at hle
      exact Nat.succ_le_succ hle
  | failed hpoint =>
      have hstage : m.point.stage = 2 := by
        rcases hpoint with hpoint | hpoint
        · rw [hpoint]
          rfl
        · rw [hpoint]
          rfl
      rw [hstage] at hle
      exact Nat.succ_le_succ hle
  -- or into the next window
  | pendingDrained hpoint =>
      rw [hpoint] at hle
      show _ ≤ 3 * (m.pendingSent + 1) + 0
      simp only [CallPoint.stage, CallEvent.isOwn, if_true] at hle ⊢
      omega
  | resumed e hpoint _ =>
      rw [hpoint] at hle
      show _ ≤ 3 * m.pendingSent + 3
      simp only [CallPoint.stage, CallEvent.isOwn, if_true] at hle ⊢
      omega
  | cancelled _ =>
      have hstage := m.point.stage_le
      show _ ≤ 3 * m.pendingSent + 3
      simp only [CallEvent.isOwn, Bool.false_eq_true, if_false]
      omega

/-! ## §3. Where the call stands. -/

/-- The handler was still running when the window after the last permitted
pending frame elapsed. -/
def Outlasts (cfg : UdsConfig) (request : UdsRequest) (es : List CallEvent) : Prop :=
  ∃ before after m₀, es = before ++ .elapse :: after
    ∧ Transition.exec (callStep cfg request) {} before = some m₀
    ∧ m₀.task = none ∧ m₀.pendingSent = cfg.maxResponsePending

theorem outlasts_snoc {e : CallEvent}
    (hrun : Transition.exec (callStep cfg request) {} es = some m) :
    Outlasts cfg request (es ++ [e]) ↔ Outlasts cfg request es
      ∨ (e = .elapse ∧ m.task = none ∧ m.pendingSent = cfg.maxResponsePending) := by
  constructor
  · rintro ⟨before, after, m₀, hsplit, hm₀, htask, hsent⟩
    rcases List.eq_nil_or_concat after with rfl | ⟨after, last, rfl⟩
    · obtain ⟨rfl, he⟩ := List.append_inj' hsplit rfl
      cases he
      rw [hrun, Option.some.injEq] at hm₀
      subst hm₀
      exact .inr ⟨rfl, htask, hsent⟩
    · rw [List.concat_eq_append, ← List.cons_append, ← List.append_assoc] at hsplit
      exact .inl ⟨before, after, m₀, (List.append_inj' hsplit rfl).1, hm₀, htask, hsent⟩
  · rintro (⟨before, after, m₀, rfl, hm₀, htask, hsent⟩ | ⟨rfl, htask, hsent⟩)
    · exact ⟨before, after ++ [e], m₀, by simp, hm₀, htask, hsent⟩
    · exact ⟨es, [], m, rfl, hrun, htask, hsent⟩

/-- `7F <sid> 10` was the last frame, after as many pending ones as permitted. -/
structure GaveUp (cfg : UdsConfig) (request : UdsRequest) (m : P2Call) : Prop where
  own : m.own = pendings request cfg.maxResponsePending ++ [request.negative nrcGeneralReject]
  last : ∃ before, m.sent = before ++ [(.call, request.negative nrcGeneralReject)]
  cancelCalled : m.cancelCalled = true

/-- Nothing but permitted pending frames. -/
def Patient (cfg : UdsConfig) (request : UdsRequest) (m : P2Call) : Prop :=
  ∃ k, k ≤ cfg.maxResponsePending ∧ m.own = pendings request k

/-- Where the call stands; `outlasts` is whether the handler has outlasted
the last window. -/
def Standing (cfg : UdsConfig) (request : UdsRequest) (outlasts : Prop) (m : P2Call) : Prop :=
  match m.point with
  | .waiting =>
      m.own = pendings request m.pendingSent ∧ m.pendingSent ≤ cfg.maxResponsePending
        ∧ ¬ outlasts ∧ m.cancelCalled = false
  | .elapsed =>
      m.own = pendings request m.pendingSent ∧ m.pendingSent ≤ cfg.maxResponsePending
        ∧ (outlasts ↔ m.pendingSent = cfg.maxResponsePending) ∧ m.cancelCalled = false
  | .sendingPending =>
      m.own = pendings request (m.pendingSent + 1) ∧ m.pendingSent + 1 ≤ cfg.maxResponsePending
        ∧ ¬ outlasts ∧ m.cancelCalled = false
  | .sendingReject | .returned .noResponse => outlasts ∧ GaveUp cfg request m
  | .returned (.own e) => Patient cfg request m ∧ ¬ outlasts ∧ m.task = some e
  | .returned .cancelled =>
      (Patient cfg request m ∨ GaveUp cfg request m) ∧ (m.task ≠ none ∨ m.cancelCalled = true)
  | .returned .failed => Patient cfg request m ∨ GaveUp cfg request m

/-- What the schedule `es` has led to. -/
structure CallOk (cfg : UdsConfig) (request : UdsRequest) (es : List CallEvent) (m : P2Call) :
    Prop where
  run : Transition.exec (callStep cfg request) {} es = some m
  failed : m.point = .returned .failed ↔ CallEvent.fail ∈ es
  count : m.pendingSent ≤ cfg.maxResponsePending
  standing : Standing cfg request (Outlasts cfg request es) m

/-- What the task does meanwhile leaves the call where it is. -/
theorem Standing.aside {outlasts : Prop} (h : Standing cfg request outlasts m)
    (hpoint : m'.point = m.point) (hown : m'.own = m.own) (hcount : m'.pendingSent = m.pendingSent)
    (hcancel : m'.cancelCalled = m.cancelCalled) (htask : m.task ≠ none → m'.task = m.task)
    (hsent : m.cancelCalled = true → m'.sent = m.sent) :
    Standing cfg request outlasts m' := by
  have hpatient : Patient cfg request m → Patient cfg request m' := by
    rintro ⟨k, hk, hk'⟩
    exact ⟨k, hk, by rw [hown, hk']⟩
  have hgave : GaveUp cfg request m → GaveUp cfg request m' := by
    intro hg
    exact ⟨by rw [hown, hg.own], by rw [hsent hg.cancelCalled]; exact hg.last,
      by rw [hcancel, hg.cancelCalled]⟩
  unfold Standing at h ⊢
  rw [hpoint]
  split at h
  case h_1 => rw [hown, hcount, hcancel]; exact h
  case h_2 => rw [hown, hcount, hcancel]; exact h
  case h_3 => rw [hown, hcount, hcancel]; exact h
  case h_4 => exact ⟨h.1, hgave h.2⟩
  case h_5 => exact ⟨h.1, hgave h.2⟩
  case h_6 =>
    obtain ⟨hp, hno, he⟩ := h
    exact ⟨hpatient hp, hno, by rw [htask (by simp [he]), he]⟩
  case h_7 =>
    obtain ⟨hframes, hdone⟩ := h
    refine ⟨hframes.imp hpatient hgave, hdone.imp (fun ht => ?_) (fun hc => ?_)⟩
    · rw [htask ht]
      exact ht
    · rw [hcancel, hc]
  case h_8 => exact h.imp hpatient hgave

theorem Standing.frames {outlasts : Prop} (h : Standing cfg request outlasts m) :
    Patient cfg request m ∨ GaveUp cfg request m := by
  unfold Standing at h
  split at h
  case h_1 => exact .inl ⟨_, h.2.1, h.1⟩
  case h_2 => exact .inl ⟨_, h.2.1, h.1⟩
  case h_3 => exact .inl ⟨_, h.2.1, h.1⟩
  case h_4 => exact .inr h.2
  case h_5 => exact .inr h.2
  case h_6 => exact .inl h.1
  case h_7 => exact h.1
  case h_8 => exact h

/-- A step that is none of the timer's does not count as outlasting. -/
theorem outlasts_kept {e : CallEvent} (hrun : Transition.exec (callStep cfg request) {} es = some m)
    (he : e ≠ .elapse) : Outlasts cfg request (es ++ [e]) ↔ Outlasts cfg request es := by
  rw [outlasts_snoc hrun]
  simp [he]

theorem fail_mem_snoc {e : CallEvent} :
    CallEvent.fail ∈ es ++ [e] ↔ CallEvent.fail ∈ es ∨ e = .fail := by
  rw [List.mem_append, List.mem_singleton, eq_comm (a := e)]

/-- The step is the task's, not the call's. -/
theorem CallOk.aside {e : CallEvent} (h : CallOk cfg request es m)
    (hstep : callStep cfg request m e = some m') (hfail : e ≠ .fail) (helapse : e ≠ .elapse)
    (hpoint : m'.point = m.point) (hown : m'.own = m.own) (hcount : m'.pendingSent = m.pendingSent)
    (hcancel : m'.cancelCalled = m.cancelCalled) (htask : m.task ≠ none → m'.task = m.task)
    (hsent : m.cancelCalled = true → m'.sent = m.sent) : CallOk cfg request (es ++ [e]) m' := by
  refine ⟨Transition.exec_snoc h.run hstep, ?_, ?_, ?_⟩
  · rw [hpoint, h.failed, fail_mem_snoc]
    simp [hfail]
  · rw [hcount]
    exact h.count
  · rw [outlasts_kept h.run helapse]
    exact h.standing.aside hpoint hown hcount hcancel htask hsent

/-- The step is the call's and the responder does not raise in it. -/
theorem CallOk.moved {e : CallEvent} (h : CallOk cfg request es m)
    (hstep : callStep cfg request m e = some m') (hfail : e ≠ .fail)
    (hbefore : m.point ≠ .returned .failed) (hafter : m'.point ≠ .returned .failed)
    (hcount : m'.pendingSent ≤ cfg.maxResponsePending)
    (hstanding : Standing cfg request (Outlasts cfg request (es ++ [e])) m') :
    CallOk cfg request (es ++ [e]) m' := by
  refine ⟨Transition.exec_snoc h.run hstep, ?_, hcount, hstanding⟩
  rw [fail_mem_snoc, ← h.failed]
  simp [hfail, hbefore, hafter]

theorem callOk_step (hcap : cfg.maxResponsePending ≠ 0) (es : List CallEvent) (m : P2Call)
    (e : CallEvent) (m' : P2Call) (h : CallOk cfg request es m)
    (hstep : callStep cfg request m e = some m') : CallOk cfg request (es ++ [e]) m' := by
  have hstanding := h.standing
  cases callStep_effect hstep with
  | finished e hrunning =>
      exact h.aside hstep (by simp) (by simp) rfl rfl rfl rfl
        (fun hno => absurd hrunning.1 hno) (fun _ => rfl)
  | emitted frame hrunning =>
      refine h.aside hstep (by simp) (by simp) rfl (P2Call.own_send_handler frame) rfl rfl
        (fun _ => rfl) ?_
      -- a task about to be cancelled sends nothing more
      intro hcalled
      exact absurd (hrunning.2.symm.trans hcalled) (by simp)
  | settled htask _ =>
      exact h.aside hstep (by simp) (by simp) rfl rfl rfl rfl
        (fun hno => absurd htask hno) (fun _ => rfl)
  | elapsed hpoint htask =>
      unfold Standing at hstanding
      rw [hpoint] at hstanding
      obtain ⟨hown, hle, hno, hcancel⟩ := hstanding
      refine h.moved hstep (by simp) (by simp [hpoint]) (by simp) h.count ?_
      refine ⟨hown, hle, ?_, hcancel⟩
      -- the task is still running: outlasting is a matter of the count
      rw [outlasts_snoc h.run]
      simp [hno, htask]
  | gaveUp hpoint hover =>
      unfold Standing at hstanding
      rw [hpoint] at hstanding
      obtain ⟨hown, hle, houtlasts, _⟩ := hstanding
      -- the count is at most the cap and not below it
      have hcount : m.pendingSent = cfg.maxResponsePending := by omega
      refine h.moved hstep (by simp) (by simp [hpoint]) (by simp) h.count ?_
      refine ⟨?_, ?_, ⟨m.sent, rfl⟩, rfl⟩
      · rw [outlasts_kept h.run (by simp)]
        exact houtlasts.mpr hcount
      · rw [P2Call.own_send_call, ← hcount]
        exact congrArg (· ++ _) hown
  | pendingStarted hpoint hmore =>
      unfold Standing at hstanding
      rw [hpoint] at hstanding
      obtain ⟨hown, hle, houtlasts, hcancel⟩ := hstanding
      refine h.moved hstep (by simp) (by simp [hpoint]) (by simp) h.count ?_
      show _ ∧ m.pendingSent + 1 ≤ _ ∧ _ ∧ _
      -- below the cap the count may still grow by one
      refine ⟨?_, by omega, ?_, hcancel⟩
      · rw [P2Call.own_send_call, P2Call.send_pendingSent, pendings_succ]
        exact congrArg (· ++ _) hown
      · rw [outlasts_kept h.run (by simp), houtlasts]
        omega
  | pendingDrained hpoint =>
      unfold Standing at hstanding
      rw [hpoint] at hstanding
      obtain ⟨hown, hle, hno, hcancel⟩ := hstanding
      refine h.moved hstep (by simp) (by simp [hpoint]) (by simp) hle ?_
      refine ⟨hown, hle, ?_, hcancel⟩
      rwa [outlasts_kept h.run (by simp)]
  | rejectDrained hpoint =>
      unfold Standing at hstanding
      rw [hpoint] at hstanding
      obtain ⟨hafter, hgave⟩ := hstanding
      refine h.moved hstep (by simp) (by simp [hpoint]) (by simp) h.count ?_
      refine ⟨?_, hgave.own, hgave.last, hgave.cancelCalled⟩
      rwa [outlasts_kept h.run (by simp)]
  | failed hpoint =>
      refine ⟨Transition.exec_snoc h.run hstep, by simp, h.count, ?_⟩
      show Patient cfg request _ ∨ GaveUp cfg request _
      -- a failed drain leaves the frames that were sent before it
      exact hstanding.frames.imp id fun hg => ⟨hg.own, hg.last, hg.cancelCalled⟩
  | resumed e hpoint htask =>
      unfold Standing at hstanding
      rw [hpoint] at hstanding
      obtain ⟨hown, hle, hno, _⟩ := hstanding
      -- the handler's own end: what was sent before it is some number of pendings within the cap
      refine h.moved hstep (by simp) (by simp [hpoint]) (by simp) h.count ?_
      refine ⟨⟨_, hle, hown⟩, ?_, htask⟩
      rwa [outlasts_kept h.run (by simp)]
  | cancelled hopen =>
      refine h.moved hstep (by simp) (hopen .failed) (by simp) h.count ?_
      -- a cancellation from outside sends nothing; it is passed on to a handler that has not
      -- ended
      constructor
      · refine hstanding.frames.imp id fun hg => ⟨hg.own, hg.last, ?_⟩
        show (m.cancelCalled || _) = true
        rw [hg.cancelCalled]
        rfl
      · show m.task ≠ none ∨ (m.cancelCalled || m.task.isNone) = true
        cases m.task with
        | none => exact .inr (by simp)
        | some e => exact .inl (by simp)

/-- The invariant holds after every schedule. -/
theorem callOk_run (hcap : cfg.maxResponsePending ≠ 0)
    (h : Transition.exec (callStep cfg request) {} es = some m) : CallOk cfg request es m := by
  refine Transition.exec_history (CallOk cfg request) ?_ (callOk_step hcap) es m h
  refine ⟨rfl, by simp, Nat.zero_le _, rfl, Nat.zero_le _, ?_, rfl⟩
  rintro ⟨before, after, m₀, hsplit, _⟩
  exact absurd hsplit (by simp)

/-! ## §4. The cap. -/

/-- What the cap promises of a call. -/
structure PendingCapped (cfg : UdsConfig) (request : UdsRequest) (es : List CallEvent)
    (m : P2Call) : Prop where
  /-- At most as many pending frames as permitted, at most one give-up. -/
  pendings : m.own.count (request.negative nrcResponsePending) ≤ cfg.maxResponsePending
  rejects : m.own.count (request.negative nrcGeneralReject) ≤ 1
  /-- A call that is not cancelled has given up iff the handler was still
  running when the window after the last permitted pending frame elapsed. -/
  outlasted : ∀ e, m.point = .returned e → e ≠ .cancelled →
    (m.own.count (request.negative nrcGeneralReject) = 1 ↔ Outlasts cfg request es)
  /-- Having given up: `task.cancel()` was called, no frame of the call or
  of the handler follows, and the call returns `NO_RESPONSE`. -/
  gaveUp : request.negative nrcGeneralReject ∈ m.own →
    m.cancelCalled = true
      ∧ (∃ before, m.sent = before ++ [(.call, request.negative nrcGeneralReject)])
      ∧ ∀ e, m.point = .returned e → e = .noResponse ∨ e = .cancelled
  /-- Otherwise the call ends as the task did. -/
  ownEnd : request.negative nrcGeneralReject ∉ m.own → ∀ e, m.point = .returned e →
    e = .cancelled ∨ ∃ taskEnd, e = .own taskEnd ∧ m.task = some taskEnd
  /-- With the call, the task is cancelled. -/
  cancelled : m.point = .returned .cancelled → m.task ≠ none ∨ m.cancelCalled = true
  /-- The call never waits for the handler alone, and it ends. -/
  progress : (∀ e, m.point ≠ .returned e) →
    ∃ e, CallEvent.isOwn e = true ∧ e ≠ .fail ∧ (callStep cfg request m e).isSome = true
  bounded : es.countP CallEvent.isOwn ≤ 3 * cfg.maxResponsePending + 3

theorem negative_ne (request : UdsRequest) :
    request.negative nrcResponsePending ≠ request.negative nrcGeneralReject := by
  unfold UdsRequest.negative
  simp [nrcResponsePending, nrcGeneralReject]

theorem count_pendings (k : Nat) :
    (pendings request k).count (request.negative nrcResponsePending) = k := by
  unfold pendings
  exact List.count_replicate_self

theorem reject_not_mem_pendings (k : Nat) :
    request.negative nrcGeneralReject ∉ pendings request k := by
  intro hmem
  exact negative_ne request (List.eq_of_mem_replicate hmem).symm

theorem Patient.counts (h : Patient cfg request m) :
    m.own.count (request.negative nrcResponsePending) ≤ cfg.maxResponsePending
      ∧ request.negative nrcGeneralReject ∉ m.own := by
  obtain ⟨k, hk, hown⟩ := h
  rw [hown]
  exact ⟨by rw [count_pendings]; exact hk, reject_not_mem_pendings k⟩

theorem GaveUp.counts (h : GaveUp cfg request m) :
    m.own.count (request.negative nrcResponsePending) ≤ cfg.maxResponsePending
      ∧ m.own.count (request.negative nrcGeneralReject) = 1
      ∧ request.negative nrcGeneralReject ∈ m.own := by
  rw [h.own]
  refine ⟨?_, ?_, by simp⟩
  · rw [List.count_append, count_pendings, List.count_singleton]
    simp [(negative_ne request).symm]
  · rw [List.count_append, List.count_eq_zero_of_not_mem (reject_not_mem_pendings _)]
    simp

/-- Wherever the call waits, it can go on. -/
theorem callStep_progress (hauto : cfg.autoResponsePending = true)
    (hopen : ∀ e, m.point ≠ .returned e) :
    ∃ e, CallEvent.isOwn e = true ∧ e ≠ .fail ∧ (callStep cfg request m e).isSome = true := by
  cases hpoint : m.point with
  | waiting =>
      cases htask : m.task with
      | none => exact ⟨.elapse, rfl, by simp, by simp [callStep, hpoint, htask, hauto]⟩
      | some e => exact ⟨.resume, rfl, by simp, by simp [callStep, hpoint, htask]⟩
  | elapsed =>
      refine ⟨.timeout, rfl, by simp, ?_⟩
      simp only [callStep, hpoint, if_true]
      split <;> rfl
  | sendingPending => exact ⟨.drained, rfl, by simp, by simp [callStep, hpoint]⟩
  | sendingReject => exact ⟨.drained, rfl, by simp, by simp [callStep, hpoint]⟩
  | returned e => exact absurd hpoint (hopen e)

theorem pendingCapped (hauto : cfg.autoResponsePending = true) (h : CallOk cfg request es m)
    (hfail : CallEvent.fail ∉ es) : PendingCapped cfg request es m := by
  have hstanding := h.standing
  have hpoint : m.point ≠ .returned .failed := fun hp => hfail (h.failed.mp hp)
  have hbounded := ownSteps_run h.run
  have hcount := h.count
  have hstage := m.point.stage_le
  refine
    { pendings := ?_, rejects := ?_, outlasted := ?_, gaveUp := ?_, ownEnd := ?_
      cancelled := ?_, progress := callStep_progress hauto, bounded := by omega }
  · rcases hstanding.frames with hp | hg
    · exact hp.counts.1
    · exact hg.counts.1
  · rcases hstanding.frames with hp | hg
    · rw [List.count_eq_zero_of_not_mem hp.counts.2]
      exact Nat.zero_le 1
    · exact Nat.le_of_eq hg.counts.2.1
  · intro e he hnot
    unfold Standing at hstanding
    rw [he] at hstanding hpoint
    cases e with
    | own e =>
        obtain ⟨hp, hno, _⟩ := hstanding
        rw [List.count_eq_zero_of_not_mem hp.counts.2]
        exact ⟨fun h0 => absurd h0 (by decide), fun hout => absurd hout hno⟩
    | noResponse =>
        obtain ⟨hout, hg⟩ := hstanding
        exact ⟨fun _ => hout, fun _ => hg.counts.2.1⟩
    | cancelled => exact absurd rfl hnot
    | failed => exact absurd rfl hpoint
  · intro hmem
    have hg : GaveUp cfg request m := by
      rcases hstanding.frames with hp | hg
      · exact absurd hmem hp.counts.2
      · exact hg
    refine ⟨hg.cancelCalled, hg.last, ?_⟩
    intro e he
    unfold Standing at hstanding
    rw [he] at hstanding hpoint
    cases e with
    | own e => exact absurd hmem hstanding.1.counts.2
    | noResponse => exact .inl rfl
    | cancelled => exact .inr rfl
    | failed => exact absurd rfl hpoint
  · intro hmem e he
    unfold Standing at hstanding
    rw [he] at hstanding hpoint
    cases e with
    | own e => exact .inr ⟨e, rfl, hstanding.2.2⟩
    | noResponse => exact absurd hstanding.2.counts.2.2 hmem
    | cancelled => exact .inl rfl
    | failed => exact absurd rfl hpoint
  · intro he
    unfold Standing at hstanding
    rw [he] at hstanding
    exact hstanding.2

/-- **The cap on pending frames**: every call keeps what the cap promises,
whatever the handler does and whenever the call is cancelled, iff the
responder does not raise in it. -/
theorem pending_capped_iff (cfg : UdsConfig) (request : UdsRequest)
    (hcap : cfg.maxResponsePending ≠ 0) (hauto : cfg.autoResponsePending = true)
    (es : List CallEvent) (m : P2Call)
    (h : Transition.exec (callStep cfg request) {} es = some m) :
    PendingCapped cfg request es m ↔ CallEvent.fail ∉ es := by
  have hok := callOk_run hcap h
  constructor
  · intro hcapped hfail
    have hpoint := hok.failed.mpr hfail
    by_cases hmem : request.negative nrcGeneralReject ∈ m.own
    · rcases (hcapped.gaveUp hmem).2.2 _ hpoint with heq | heq
      · cases heq
      · cases heq
    · rcases hcapped.ownEnd hmem _ hpoint with heq | ⟨taskEnd, heq, _⟩
      · cases heq
      · cases heq
  · exact pendingCapped hauto hok

/-- A read whose handler never returns, with a cap of two. -/
def hung : List CallEvent :=
  [.elapse, .timeout, .drained, .elapse, .timeout, .drained, .elapse, .timeout, .drained, .settle]

theorem pending_capped_hung :
    ∃ m, Transition.exec (callStep { maxResponsePending := 2 } (slowRead false)) {} hung = some m
      ∧ m.own = [[0x7F, 0x22, 0x78], [0x7F, 0x22, 0x78], [0x7F, 0x22, 0x10]]
      ∧ m.point = .returned .noResponse ∧ m.task = some .cancelled
      ∧ PendingCapped { maxResponsePending := 2 } (slowRead false) hung m :=
  ⟨_, rfl, rfl, rfl, rfl, (pending_capped_iff { maxResponsePending := 2 } (slowRead false)
    (by decide) rfl hung _ rfl).mpr (by decide)⟩

/-- **The responder raises** (the connection is lost while the pending frame
drains): the call ends with that exception, and the handler runs on. -/
theorem responder_failure_detaches_handler :
    ∃ m, Transition.exec (callStep {} (slowRead false)) {} [.elapse, .timeout, .fail] = some m
      ∧ m.point = .returned .failed ∧ m.Running
      ∧ ¬ PendingCapped {} (slowRead false) [.elapse, .timeout, .fail] m := by
  refine ⟨_, rfl, rfl, by decide, ?_⟩
  intro hcapped
  rcases hcapped.ownEnd (by decide) .failed rfl with heq | ⟨taskEnd, heq, _⟩
  · cases heq
  · cases heq

/-! ## §5. The call refines the P2 timer. -/

/-- The call as the P2 timer sees it: what comes after the end of the task is
still to come. -/
structure Refines (m : P2Call) (a : P2) : Prop where
  point :
    match m.point with
    | .waiting | .returned (.own _) => a.point = .waiting
    | .elapsed => a.point = .elapsed
    | .sendingPending => a.point = .sendingPending
    | .sendingReject => a.point = .sendingLast
    | .returned .noResponse => a.point = .done
    | .returned .cancelled => a.point = .cancelled
    | .returned .failed => False
  running : m.Running → a.handler = none ∧ a.abandoned = false
  unfinished : m.task = none → a.handler = none
  ended : ∀ r, m.task = some (.ended r) → a.handler = some r
  pendingSent : a.pendingSent = m.pendingSent
  emitted : a.emitted = m.own

/-- The events of the P2 timer in a step of the call. -/
def CallEvent.p2Events : CallEvent → List P2Event
  | .finish (.ended r) => [.finish r]
  | .elapse => [.window]
  | .timeout => [.timeout]
  | .drained => [.sent]
  | .cancel => [.cancel]
  | .finish .cancelled | .emit _ | .settle | .fail | .resume => []

theorem callStep_refines (hauto : cfg.autoResponsePending = true) {a : P2} {e : CallEvent}
    (h : Refines m a) (hstep : callStep cfg request m e = some m') (hfail : e ≠ .fail) :
    ∃ a', Transition.exec (p2Step cfg request) a e.p2Events = some a' ∧ Refines m' a' := by
  have hpoint := h.point
  -- the two agree on the point before the step, which is what `hpoint` carries along
  cases callStep_effect hstep with
  | finished e hrunning =>
      cases e with
      | ended r =>
          refine ⟨{ a with handler := some r }, ?_, hpoint, ?_, ?_, ?_, h.pendingSent, h.emitted⟩
          · rw [CallEvent.p2Events, Transition.exec_cons, p2Step, if_pos (h.running hrunning)]
            rfl
          · rintro ⟨hnone, _⟩
            cases hnone
          · intro hnone
            cases hnone
          · intro r' hr'
            cases hr'
            rfl
      | cancelled =>
          -- the timer does not tell a cancelled handler from one that hangs
          refine ⟨a, rfl, hpoint, ?_, ?_, ?_, h.pendingSent, h.emitted⟩
          · rintro ⟨hnone, _⟩
            cases hnone
          · intro hnone
            cases hnone
          · intro r' hr'
            cases hr'
  -- a frame of the handler's own changes neither count nor timer
  | emitted frame _ =>
      refine ⟨a, rfl, hpoint, h.running, h.unfinished, h.ended, h.pendingSent, ?_⟩
      rw [P2Call.own_send_handler, h.emitted]
  -- a task that is settled was cancelled before
  | settled _ _ =>
      refine ⟨a, rfl, hpoint, ?_, ?_, ?_, h.pendingSent, h.emitted⟩
      · rintro ⟨hnone, _⟩
        cases hnone
      · intro hnone
        cases hnone
      · intro r' hr'
        cases hr'
  -- the timer runs out: one event of the timer, guarded by the handler's still running
  | elapsed hwaiting htask =>
      rw [hwaiting] at hpoint
      rw [CallEvent.p2Events, Transition.exec_cons, p2Step,
        if_pos ⟨hpoint, h.unfinished htask, hauto⟩]
      exact ⟨_, rfl, rfl, h.running, h.unfinished, h.ended, h.pendingSent, h.emitted⟩
  | gaveUp helapsed hover =>
      rw [helapsed] at hpoint
      rw [CallEvent.p2Events, Transition.exec_cons, p2Step, if_pos hpoint, h.pendingSent,
        if_pos hover]
      refine ⟨_, rfl, rfl, ?_, h.unfinished, h.ended, rfl, ?_⟩
      · rintro ⟨_, hcalled⟩
        cases hcalled
      · rw [P2Call.own_send_call]
        exact congrArg (· ++ _) h.emitted
  -- below the cap the timer goes on, with one pending more in its count
  | pendingStarted helapsed hmore =>
      rw [helapsed] at hpoint
      rw [CallEvent.p2Events, Transition.exec_cons, p2Step, if_pos hpoint, h.pendingSent,
        if_neg hmore]
      refine ⟨_, rfl, rfl, h.running, h.unfinished, h.ended, rfl, ?_⟩
      rw [P2Call.own_send_call]
      exact congrArg (· ++ _) h.emitted
  | pendingDrained hsending =>
      rw [hsending] at hpoint
      rw [CallEvent.p2Events, Transition.exec_cons, p2Step, hpoint]
      exact ⟨_, rfl, rfl, h.running, h.unfinished, h.ended, congrArg (· + 1) h.pendingSent,
        h.emitted⟩
  | rejectDrained hsending =>
      rw [hsending] at hpoint
      rw [CallEvent.p2Events, Transition.exec_cons, p2Step, hpoint]
      exact ⟨_, rfl, rfl, h.running, h.unfinished, h.ended, h.pendingSent, h.emitted⟩
  -- a failed drain is outside this comparison
  | failed _ => exact absurd rfl hfail
  | resumed e hwaiting _ =>
      rw [hwaiting] at hpoint
      exact ⟨a, rfl, hpoint, h.running, h.unfinished, h.ended, h.pendingSent, h.emitted⟩
  | cancelled hopen =>
      -- a cancelled call was not over, so the timer's call was not either
      have hlive : ¬ (a.point = .done ∨ a.point = .cancelled) := by
        cases hp : m.point with
        | returned e => exact absurd hp (hopen e)
        | _ =>
            rw [hp] at hpoint
            rw [hpoint]
            simp
      rw [CallEvent.p2Events, Transition.exec_cons, p2Step, if_neg hlive]
      refine ⟨_, rfl, rfl, ?_, h.unfinished, h.ended, h.pendingSent, h.emitted⟩
      rintro ⟨hnone, hcalled⟩
      rw [hnone] at hcalled
      simp at hcalled

/-- **The call refines the P2 timer** on every schedule in which the
responder does not raise. -/
theorem call_refines (hauto : cfg.autoResponsePending = true)
    (h : Transition.exec (callStep cfg request) {} es = some m) (hfail : CallEvent.fail ∉ es) :
    ∃ a, Transition.exec (p2Step cfg request) {} (es.flatMap CallEvent.p2Events) = some a
      ∧ Refines m a := by
  refine Transition.exec_history (fun es m => CallEvent.fail ∉ es → ∃ a,
    Transition.exec (p2Step cfg request) {} (es.flatMap CallEvent.p2Events) = some a
      ∧ Refines m a) ?_ ?_ es m h hfail
  · intro _
    exact ⟨{}, rfl, rfl, fun _ => ⟨rfl, rfl⟩, fun _ => rfl, by simp, rfl, rfl⟩
  · intro es m e m' ih hstep hno
    obtain ⟨a, ha, hrefines⟩ := ih fun hmem => hno (List.mem_append_left _ hmem)
    have he : e ≠ .fail := fun he => hno (by simp [he])
    obtain ⟨a', ha', hrefines'⟩ := callStep_refines hauto hrefines hstep he
    refine ⟨a', ?_, hrefines'⟩
    rw [List.flatMap_append, Transition.exec_append_eq_some]
    exact ⟨a, ha, by simpa using ha'⟩

end DoipPlayground.VirtualEcu
