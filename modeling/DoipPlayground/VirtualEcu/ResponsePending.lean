/-
  DoipPlayground.VirtualEcu.ResponsePending
  ─────────────────────────────────────────
  **ONE REQUEST UNDER THE P2 TIMER** (`resolve_uds`, `_dispatch_with_p2`).

  The handler runs as a task of its own and finishes whenever it likes, or
  never.  Each elapsed window puts `7F <sid> 78` on the wire, until the cap
  gives up with `7F <sid> 10`; the suppression rules are applied to the
  result afterwards.

  The timer of a window and the resumption of the coroutine are two steps:
  a handler that finishes between them has come too late for this window,
  one that finishes before the timer runs delivers its result.

    • `P2Ok` — what has been emitted, and after which schedule,
    • `drains` — once the handler is done with, so is the request before long,
    • `answered_once_iff` — when a promised answer comes, and that it comes.
-/
import DoipPlayground.VirtualEcu.Config
import DoipPlayground.Lib.Drain

namespace DoipPlayground.VirtualEcu

open Wire

/-! ## §1. The suppression rules. -/

/-- `7F <sid> <nrc>` -/
def UdsRequest.negative (request : UdsRequest) (nrc : UInt8) : Bytes :=
  [sidNegativeResponse, request.sid, nrc]

/-- A negative response with code 0x78. -/
def isResponsePending (uds : Bytes) : Bool :=
  uds[0]? == some sidNegativeResponse && uds[2]? == some nrcResponsePending

/-- What `resolve_uds` makes of the outcome of the dispatch: the bytes the
worker sends, if any.  The response of an aborted connection is sent by
the worker itself. -/
def resolveUds (cfg : UdsConfig) (request : UdsRequest) : Result → Option Bytes
  | .suppress => none
  | .negative nrc sid =>
      if request.functional && functionalSuppressedNrcs.contains nrc then none
      else some [sidNegativeResponse, sid.getD request.sid, nrc]
  | .noResponse => none
  | .bytes response =>
      if request.suppressPosRsp && cfg.suppressPosRspBit
          && response.head? != some sidNegativeResponse then none
      else some response
  | .abort response => some response
  | .error => none

/-! ## §2. The coroutine. -/

/-- Where `resolve_uds` is suspended. -/
inductive P2Point where
  /-- `await asyncio.wait_for(asyncio.shield(task), timeout=window)` -/
  | waiting
  /-- The timer of the window has run: `TimeoutError` is on its way. -/
  | elapsed
  /-- Sending `7F <sid> 78`. -/
  | sendingPending
  /-- Sending the last frame. -/
  | sendingLast
  | done
  /-- The worker was cancelled: the connection goes down. -/
  | cancelled
  deriving DecidableEq, Repr

structure P2 where
  point : P2Point := .waiting
  /-- The outcome of the dispatch task, once it finished. -/
  handler : Option Result := none
  /-- The dispatch task was cancelled. -/
  abandoned : Bool := false
  pendingSent : Nat := 0
  /-- The responses handed to the responder, in order. -/
  emitted : List Bytes := []
  deriving DecidableEq, Repr

inductive P2Event where
  /-- The handler finishes. -/
  | finish (r : Result)
  /-- The timer of the window runs. -/
  | window
  /-- The coroutine resumes with `TimeoutError`. -/
  | timeout
  /-- The frame being sent is drained. -/
  | sent
  /-- The finished task wakes the waiter. -/
  | resume
  /-- The worker is cancelled. -/
  | cancel
  deriving DecidableEq, Repr

/-- The steps of the coroutine: the handler and the worker's end are not its
own. -/
def P2Event.Own : P2Event → Prop
  | .window | .timeout | .sent | .resume => True
  | .finish _ | .cancel => False

def p2Step (cfg : UdsConfig) (request : UdsRequest) (m : P2) : P2Event → Option P2
  | .finish r =>
      if m.handler = none ∧ m.abandoned = false then some { m with handler := some r } else none
  | .window =>
      if m.point = .waiting ∧ m.handler = none ∧ cfg.autoResponsePending = true then
        some { m with point := .elapsed }
      else none
  | .timeout =>
      if m.point = .elapsed then
        if cfg.maxResponsePending ≠ 0 ∧ cfg.maxResponsePending ≤ m.pendingSent then
          -- give up: cancel the handler and answer in its place
          some { m with
            point := .sendingLast
            abandoned := true
            emitted := m.emitted ++ [request.negative nrcGeneralReject] }
        else
          some { m with
            point := .sendingPending
            emitted := m.emitted ++ [request.negative nrcResponsePending] }
      else none
  | .sent =>
      match m.point with
      | .sendingPending => some { m with point := .waiting, pendingSent := m.pendingSent + 1 }
      | .sendingLast => some { m with point := .done }
      | _ => none
  | .resume =>
      match m.point, m.handler with
      | .waiting, some r =>
          match resolveUds cfg request r with
          | some response =>
              some { m with point := .sendingLast, emitted := m.emitted ++ [response] }
          | none => some { m with point := .done }
      | _, _ => none
  | .cancel =>
      if m.point = .done ∨ m.point = .cancelled then none
      else some { m with point := .cancelled, abandoned := true }

/-! ## §3. The invariant. -/

variable {cfg : UdsConfig} {request : UdsRequest} {m m' : P2}

/-- The pending frames of `k` elapsed windows. -/
def pendings (request : UdsRequest) (k : Nat) : List Bytes :=
  List.replicate k (request.negative nrcResponsePending)

theorem pendings_succ (k : Nat) :
    pendings request (k + 1) = pendings request k ++ [request.negative nrcResponsePending] := by
  unfold pendings
  rw [List.replicate_succ']

/-- How many windows have elapsed in a schedule: how often the timer has run. -/
def windows (es : List P2Event) : Nat := es.count .window

/-- The windows stay within the cap; a cap of 0 is no cap. -/
def WithinCap (cfg : UdsConfig) (k : Nat) : Prop :=
  cfg.maxResponsePending = 0 ∨ k ≤ cfg.maxResponsePending

/-- What the last frame is: the give-up after the cap, or what the rules
make of the handler's result. -/
def Concluded (cfg : UdsConfig) (request : UdsRequest) (es : List P2Event) (m : P2) : Prop :=
  (cfg.maxResponsePending ≠ 0 ∧ windows es = cfg.maxResponsePending + 1
      ∧ m.emitted = pendings request cfg.maxResponsePending
          ++ [request.negative nrcGeneralReject])
    ∨ (∃ r, m.handler = some r ∧ WithinCap cfg (windows es)
      ∧ m.emitted = pendings request (windows es) ++ (resolveUds cfg request r).toList)

/-- What has been emitted after the schedule `es`. -/
structure P2Ok (cfg : UdsConfig) (request : UdsRequest) (es : List P2Event) (m : P2) : Prop where
  handler : ∀ r, P2Event.finish r ∈ es ↔ m.handler = some r
  closed : m.point = .sendingLast ∨ m.point = .done → m.handler ≠ none ∨ m.abandoned = true
  emitted :
    match m.point with
    | .waiting =>
        m.emitted = pendings request (windows es) ∧ windows es = m.pendingSent
          ∧ WithinCap cfg (windows es)
    | .elapsed =>
        m.emitted = pendings request m.pendingSent ∧ windows es = m.pendingSent + 1
          ∧ WithinCap cfg m.pendingSent
    | .sendingPending =>
        m.emitted = pendings request (windows es) ∧ windows es = m.pendingSent + 1
          ∧ WithinCap cfg (windows es)
    | .sendingLast | .done => Concluded cfg request es m
    | .cancelled => True

theorem windows_append_other {es : List P2Event} {e : P2Event} (h : e ≠ .window) :
    windows (es ++ [e]) = windows es := by
  unfold windows
  rw [List.count_append, List.count_singleton]
  simp [h]

theorem windows_append_window (es : List P2Event) : windows (es ++ [.window]) = windows es + 1 := by
  unfold windows
  rw [List.count_append, List.count_singleton]
  simp

/-- Only the handler finishes. -/
theorem finish_mem_other {es : List P2Event} {e : P2Event} (he : ∀ r, e ≠ .finish r) (r : Result) :
    P2Event.finish r ∈ es ++ [e] ↔ P2Event.finish r ∈ es := by
  rw [List.mem_append, List.mem_singleton]
  exact ⟨fun hm => hm.resolve_right (fun heq => he r heq.symm), .inl⟩

namespace P2Ok

variable {es : List P2Event}

theorem finish (h : P2Ok cfg request es m) {r : Result}
    (hstep : p2Step cfg request m (.finish r) = some m') :
    P2Ok cfg request (es ++ [.finish r]) m' := by
  simp only [p2Step, Option.ite_none_right_eq_some, Option.some.injEq] at hstep
  obtain ⟨⟨hnone, hab⟩, rfl⟩ := hstep
  -- no last frame goes out before the handler has finished or was given up
  have hlast : m.point ≠ .sendingLast ∧ m.point ≠ .done := by
    constructor <;> intro hp <;> rcases h.closed (by simp [hp]) with hc | hc
    · exact hc hnone
    · rw [hab] at hc; cases hc
    · exact hc hnone
    · rw [hab] at hc; cases hc
  constructor
  · intro r'
    rw [List.mem_append, List.mem_singleton, h.handler r', hnone]
    simp [eq_comm]
  · intro _
    exact .inl (by simp)
  · have hem := h.emitted
    rw [windows_append_other (by simp)]
    dsimp only
    cases hp : m.point with
    | waiting => rw [hp] at hem; exact hem
    | elapsed => rw [hp] at hem; exact hem
    | sendingPending => rw [hp] at hem; exact hem
    | sendingLast => exact absurd hp hlast.1
    | done => exact absurd hp hlast.2
    | cancelled => trivial

theorem window (h : P2Ok cfg request es m) (hstep : p2Step cfg request m .window = some m') :
    P2Ok cfg request (es ++ [.window]) m' := by
  simp only [p2Step, Option.ite_none_right_eq_some, Option.some.injEq] at hstep
  obtain ⟨⟨hp, _, _⟩, rfl⟩ := hstep
  have hem := h.emitted
  rw [hp] at hem
  obtain ⟨hem, hsent, hcap⟩ := hem
  constructor
  · intro r
    rw [finish_mem_other (by simp)]
    exact h.handler r
  · rintro (hl | hl) <;> cases hl
  · refine ⟨?_, ?_, ?_⟩
    · rw [← hsent]
      exact hem
    · rw [windows_append_window, hsent]
    · rw [← hsent]
      exact hcap

theorem timeout (h : P2Ok cfg request es m) (hstep : p2Step cfg request m .timeout = some m') :
    P2Ok cfg request (es ++ [.timeout]) m' := by
  have hw : windows (es ++ [.timeout]) = windows es := windows_append_other (by simp)
  simp only [p2Step, Option.ite_none_right_eq_some] at hstep
  obtain ⟨hp, hstep⟩ := hstep
  have hem := h.emitted
  rw [hp] at hem
  obtain ⟨hem, hsent, hcap⟩ := hem
  have hhandler : ∀ r, P2Event.finish r ∈ es ++ [.timeout] ↔ m.handler = some r := by
    intro r
    rw [finish_mem_other (by simp)]
    exact h.handler r
  split at hstep
  · -- one window more than the cap: the answer is given in the handler's place
    rename_i hgive
    rw [Option.some.injEq] at hstep
    subst hstep
    have hk : m.pendingSent = cfg.maxResponsePending := by
      rcases hcap with hcap | hcap
      · exact absurd hcap hgive.1
      · have := hgive.2
        omega
    refine ⟨hhandler, fun _ => .inr rfl, .inl ⟨hgive.1, ?_, ?_⟩⟩
    · rw [hw, hsent, hk]
    · show m.emitted ++ _ = _
      rw [hem, hk]
  · rename_i hmore
    rw [Option.some.injEq] at hstep
    subst hstep
    refine ⟨hhandler, ?_, ?_, ?_, ?_⟩
    · rintro (hl | hl) <;> cases hl
    · rw [hw, hsent, pendings_succ, ← hem]
    · rw [hw, hsent]
    · rw [hw, hsent]
      unfold WithinCap
      omega

theorem sent (h : P2Ok cfg request es m) (hstep : p2Step cfg request m .sent = some m') :
    P2Ok cfg request (es ++ [.sent]) m' := by
  have hw : windows (es ++ [.sent]) = windows es := windows_append_other (by simp)
  have hem := h.emitted
  simp only [p2Step] at hstep
  split at hstep
  · rename_i hp
    rw [Option.some.injEq] at hstep
    subst hstep
    rw [hp] at hem
    constructor
    · intro r
      rw [finish_mem_other (by simp)]
      exact h.handler r
    · rintro (hl | hl) <;> cases hl
    · rw [hw]
      exact hem
  · rename_i hp
    rw [Option.some.injEq] at hstep
    subst hstep
    rw [hp] at hem
    constructor
    · intro r
      rw [finish_mem_other (by simp)]
      exact h.handler r
    · intro _
      exact h.closed (.inl hp)
    · unfold Concluded at hem ⊢
      rw [hw]
      exact hem
  · cases hstep

theorem resume (h : P2Ok cfg request es m) (hstep : p2Step cfg request m .resume = some m') :
    P2Ok cfg request (es ++ [.resume]) m' := by
  have hw : windows (es ++ [.resume]) = windows es := windows_append_other (by simp)
  have hem := h.emitted
  simp only [p2Step] at hstep
  split at hstep
  · rename_i r hp hr
    rw [hp] at hem
    have hhandler : ∀ r', P2Event.finish r' ∈ es ++ [.resume] ↔ m.handler = some r' := by
      intro r'
      rw [finish_mem_other (by simp)]
      exact h.handler r'
    split at hstep
    · rename_i response hresp
      rw [Option.some.injEq] at hstep
      subst hstep
      refine ⟨hhandler, fun _ => .inl (by simp [hr]), ?_⟩
      refine .inr ⟨r, hr, ?_, ?_⟩
      · rw [hw]; exact hem.2.2
      · rw [hw, hresp]
        show m.emitted ++ [response] = _
        rw [hem.1]
        rfl
    · -- a suppressed response: the pending frames are all there is
      rename_i hresp
      rw [Option.some.injEq] at hstep
      subst hstep
      refine ⟨hhandler, fun _ => .inl (by simp [hr]), ?_⟩
      refine .inr ⟨r, hr, ?_, ?_⟩
      · rw [hw]; exact hem.2.2
      · rw [hw, hresp]
        show m.emitted = _
        rw [hem.1]
        simp
  · cases hstep

theorem cancel (h : P2Ok cfg request es m) (hstep : p2Step cfg request m .cancel = some m') :
    P2Ok cfg request (es ++ [.cancel]) m' := by
  simp only [p2Step, Option.ite_none_left_eq_some, Option.some.injEq] at hstep
  obtain ⟨_, rfl⟩ := hstep
  constructor
  · intro r
    rw [finish_mem_other (by simp)]
    exact h.handler r
  · rintro (hl | hl) <;> cases hl
  · trivial

end P2Ok

theorem p2Ok_step (es : List P2Event) (m : P2) (e : P2Event) (m' : P2)
    (h : P2Ok cfg request es m) (hstep : p2Step cfg request m e = some m') :
    P2Ok cfg request (es ++ [e]) m' := by
  cases e with
  | finish r => exact h.finish hstep
  | window => exact h.window hstep
  | timeout => exact h.timeout hstep
  | sent => exact h.sent hstep
  | resume => exact h.resume hstep
  | cancel => exact h.cancel hstep

/-- The invariant holds after every schedule. -/
theorem p2Ok_run (es : List P2Event) (m : P2)
    (h : Transition.exec (p2Step cfg request) {} es = some m) : P2Ok cfg request es m := by
  refine Transition.exec_history (P2Ok cfg request) ?_ p2Ok_step es m h
  constructor
  · simp
  · simp
  · exact ⟨rfl, rfl, .inr (Nat.zero_le _)⟩

/-! ## §4. When a promised answer comes. -/

/-- The result leads to a final response: not suppressed, and not itself a
pending one. -/
def Answers (cfg : UdsConfig) (request : UdsRequest) : Result → Prop
  | .bytes response =>
      (request.suppressPosRsp = false ∨ cfg.suppressPosRspBit = false
        ∨ response.head? = some sidNegativeResponse) ∧ isResponsePending response = false
  | .negative nrc _ =>
      (request.functional = false ∨ nrc ∉ functionalSuppressedNrcs) ∧ nrc ≠ nrcResponsePending
  | .abort response => isResponsePending response = false
  | .noResponse | .suppress | .error => False

theorem resolveUds_answers (r : Result) :
    Answers cfg request r
      ↔ ∃ response, resolveUds cfg request r = some response
          ∧ isResponsePending response = false := by
  cases r with
  | bytes response =>
      simp only [Answers, resolveUds, Option.ite_none_left_eq_some, Option.some.injEq]
      constructor
      · intro h
        refine ⟨response, ⟨?_, rfl⟩, h.2⟩
        rcases h.1 with h | h | h <;> simp [h]
      · rintro ⟨_, ⟨h, rfl⟩, hp⟩
        refine ⟨?_, hp⟩
        simp only [Bool.and_eq_true, bne_iff_ne, ne_eq, not_and, not_not] at h
        cases hs : request.suppressPosRsp with
        | false => exact .inl rfl
        | true =>
            cases hb : cfg.suppressPosRspBit with
            | false => exact .inr (.inl rfl)
            | true => exact .inr (.inr (h ⟨hs, hb⟩))
  | negative nrc sid =>
      simp only [Answers, resolveUds, Option.ite_none_left_eq_some, Option.some.injEq]
      have hpending : ∀ s : UInt8,
          isResponsePending [sidNegativeResponse, s, nrc] = false ↔ nrc ≠ nrcResponsePending := by
        intro s
        simp [isResponsePending]
      constructor
      · intro h
        refine ⟨_, ⟨?_, rfl⟩, (hpending _).mpr h.2⟩
        rcases h.1 with h | h <;> simp [h]
      · rintro ⟨_, ⟨h, rfl⟩, hp⟩
        refine ⟨?_, (hpending _).mp hp⟩
        cases hf : request.functional with
        | false => exact .inl rfl
        | true => exact .inr (by simpa [hf] using h)
  | abort response => simp [Answers, resolveUds]
  | noResponse => simp [Answers, resolveUds]
  | suppress => simp [Answers, resolveUds]
  | error => simp [Answers, resolveUds]

/-- Exactly one final response, after all pending ones. -/
def P2.AnsweredOnce (m : P2) : Prop :=
  ∃ before final, m.emitted = before ++ [final] ∧ isResponsePending final = false
    ∧ ∀ frame ∈ before, isResponsePending frame = true

theorem isResponsePending_of_pendings {k : Nat} {frame : Bytes}
    (h : frame ∈ pendings request k) : isResponsePending frame = true := by
  rw [List.eq_of_mem_replicate h]
  rfl

/-- Pending frames with at most one response behind them. -/
theorem answeredOnce_iff {k : Nat} (last : Option Bytes)
    (h : m.emitted = pendings request k ++ last.toList) :
    m.AnsweredOnce ↔ ∃ response, last = some response ∧ isResponsePending response = false := by
  constructor
  · rintro ⟨before, final, heq, hfinal, _⟩
    rw [h] at heq
    cases last with
    | none =>
        rw [Option.toList_none, List.append_nil] at heq
        have hmem : final ∈ pendings request k := by
          rw [heq]
          simp
        rw [isResponsePending_of_pendings hmem] at hfinal
        cases hfinal
    | some response =>
        rw [Option.toList_some] at heq
        have hlast := List.append_inj_right' heq rfl
        rw [List.cons.injEq] at hlast
        exact ⟨response, rfl, hlast.1 ▸ hfinal⟩
  · rintro ⟨response, rfl, hresp⟩
    exact ⟨_, response, h, hresp, fun _ hf => isResponsePending_of_pendings hf⟩

/-- More windows have elapsed than the cap permits. -/
def PastCap (cfg : UdsConfig) (es : List P2Event) : Prop :=
  cfg.maxResponsePending ≠ 0 ∧ cfg.maxResponsePending < windows es

/-- What has been emitted when the request is through with. -/
theorem P2Ok.answeredOnce_iff {es : List P2Event} (h : P2Ok cfg request es m)
    (hdone : m.point = .done) :
    m.AnsweredOnce
      ↔ PastCap cfg es ∨ ∃ r, P2Event.finish r ∈ es ∧ Answers cfg request r := by
  have hem := h.emitted
  rw [hdone] at hem
  rcases hem with ⟨hcap, hw, hem⟩ | ⟨r, hr, hcap, hem⟩
  · -- the give-up answers in the place of the handler
    have honce : m.AnsweredOnce :=
      (VirtualEcu.answeredOnce_iff (some _) hem).mpr ⟨_, rfl, rfl⟩
    exact ⟨fun _ => .inl ⟨hcap, by omega⟩, fun _ => honce⟩
  · rw [VirtualEcu.answeredOnce_iff _ hem, ← resolveUds_answers]
    constructor
    · intro hans
      exact .inr ⟨r, (h.handler r).mpr hr, hans⟩
    · rintro (⟨hcap', hlt⟩ | ⟨r', hr', hans⟩)
      · rcases hcap with hcap | hcap
        · exact absurd hcap hcap'
        · omega
      · rw [(h.handler r').mp hr', Option.some.injEq] at hr
        exact hr ▸ hans

/-! ## §5. The answer has to come. -/

/-- The handler has finished or was given up, in the schedule `es₀`; what the
coroutine has done since changes nothing about that. -/
structure Due (cfg : UdsConfig) (request : UdsRequest) (es₀ : List P2Event) (m : P2) : Prop where
  live : m.point ≠ .cancelled
  due : (∃ r, P2Event.finish r ∈ es₀) ∨ PastCap cfg es₀
  since : ∃ es, P2Ok cfg request es m ∧ windows es = windows es₀
    ∧ ∀ r, P2Event.finish r ∈ es ↔ P2Event.finish r ∈ es₀

namespace Due

variable {es₀ : List P2Event}

/-- While it waits it waits for a task that is done, so no further window elapses. -/
theorem finished (h : Due cfg request es₀ m) (hpoint : m.point = .waiting) :
    ∃ r, m.handler = some r := by
  obtain ⟨es, hok, hwindows, hfinish⟩ := h.since
  rcases h.due with ⟨r, hr⟩ | hpast
  · exact ⟨r, (hok.handler r).mp ((hfinish r).mpr hr)⟩
  · have hem := hok.emitted
    rw [hpoint] at hem
    have hlt := hpast.2
    rcases hem.2.2 with hcap | hcap
    · exact absurd hcap hpast.1
    · omega

theorem keeps (h : Due cfg request es₀ m) {e : P2Event} (hown : e.Own)
    (hstep : p2Step cfg request m e = some m') : Due cfg request es₀ m' := by
  have hno : e ≠ .window := by
    rintro rfl
    simp only [p2Step, Option.ite_none_right_eq_some] at hstep
    obtain ⟨r, hr⟩ := h.finished hstep.1.1
    rw [hr] at hstep
    cases hstep.1.2.1
  have hother : ∀ r, e ≠ .finish r := by
    rintro r rfl
    exact hown
  obtain ⟨es, hok, hwindows, hfinish⟩ := h.since
  refine ⟨?_, h.due, es ++ [e], p2Ok_step es m e m' hok hstep, ?_, ?_⟩
  · cases e with
    | finish r => exact hown.elim
    | cancel => exact hown.elim
    | window => exact absurd rfl hno
    | timeout =>
        simp only [p2Step, Option.ite_none_right_eq_some] at hstep
        obtain ⟨_, hstep⟩ := hstep
        split at hstep <;> cases hstep <;> simp
    | sent =>
        simp only [p2Step] at hstep
        split at hstep <;> cases hstep <;> simp
    | resume =>
        simp only [p2Step] at hstep
        split at hstep
        · split at hstep <;> cases hstep <;> simp
        · cases hstep
  · rw [windows_append_other hno, hwindows]
  · intro r
    rw [finish_mem_other hother, hfinish]

end Due

/-- How many steps the coroutine can still make, once the handler is done with. -/
def P2Point.stage : P2Point → Nat
  | .elapsed => 4
  | .sendingPending => 3
  | .waiting => 2
  | .sendingLast => 1
  | .done | .cancelled => 0

/-- **Once the handler is done with, so is the request before long.** -/
theorem drains (cfg : UdsConfig) (request : UdsRequest) (es₀ : List P2Event) :
    Transition.Drains (p2Step cfg request) (Due cfg request es₀) P2Event.Own
      (fun m => m.point = .done) (fun m => m.point.stage) where
  keeps _ _ _ h hown hstep := h.keeps hown hstep
  lowers := by
    intro m e m' h hown hstep
    cases e with
    | finish r => exact hown.elim
    | cancel => exact hown.elim
    | window =>
        simp only [p2Step, Option.ite_none_right_eq_some] at hstep
        obtain ⟨r, hr⟩ := h.finished hstep.1.1
        rw [hr] at hstep
        cases hstep.1.2.1
    | timeout =>
        simp only [p2Step, Option.ite_none_right_eq_some] at hstep
        obtain ⟨hp, hstep⟩ := hstep
        rw [hp]
        split at hstep <;> cases hstep <;> simp [P2Point.stage]
    | sent =>
        simp only [p2Step] at hstep
        split at hstep <;> cases hstep <;> rename_i hp <;> rw [hp] <;> simp [P2Point.stage]
    | resume =>
        simp only [p2Step] at hstep
        split at hstep
        · rename_i r hp _
          rw [hp]
          split at hstep <;> cases hstep <;> simp [P2Point.stage]
        · cases hstep
  goes_on := by
    intro m h hnot
    cases hp : m.point with
    | waiting =>
        obtain ⟨r, hr⟩ := h.finished hp
        cases hresponse : resolveUds cfg request r with
        | none => exact ⟨.resume, _, trivial, by simp only [p2Step, hp, hr, hresponse]; rfl⟩
        | some response => exact ⟨.resume, _, trivial, by simp only [p2Step, hp, hr, hresponse]; rfl⟩
    | elapsed =>
        by_cases hgive : cfg.maxResponsePending ≠ 0 ∧ cfg.maxResponsePending ≤ m.pendingSent
        · exact ⟨.timeout, _, trivial, by rw [p2Step, if_pos hp, if_pos hgive]⟩
        · exact ⟨.timeout, _, trivial, by rw [p2Step, if_pos hp, if_neg hgive]⟩
    | sendingPending => exact ⟨.sent, _, trivial, by simp only [p2Step, hp]; rfl⟩
    | sendingLast => exact ⟨.sent, _, trivial, by simp only [p2Step, hp]; rfl⟩
    | done => exact absurd hp hnot
    | cancelled => exact absurd hp h.live

/-- **A promised answer comes, exactly when**: as soon as the handler has
finished, or the windows have run past the cap, and unless the connection goes
down, the request can and must be brought to its end with exactly one final
response behind all pending ones, if and only if the windows ran past the cap
or the handler finished with a result that the suppression rules let through.
A code that is no byte is none of `Result.negative`: it raises, and the result
is `.error`. -/
theorem answered_once_iff (cfg : UdsConfig) (request : UdsRequest) (es : List P2Event) (m : P2)
    (h : Transition.exec (p2Step cfg request) {} es = some m) (hlive : m.point ≠ .cancelled)
    (hdue : (∃ r, P2Event.finish r ∈ es) ∨ PastCap cfg es) :
    Transition.Inevitable (p2Step cfg request) P2Event.Own
        (fun m => m.point = .done ∧ m.AnsweredOnce) m
      ↔ PastCap cfg es ∨ ∃ r, P2Event.finish r ∈ es ∧ Answers cfg request r := by
  have hinit : Due cfg request es m := ⟨hlive, hdue, es, p2Ok_run es m h, rfl, fun _ => .rfl⟩
  -- what is due is answered once, or not, by what had happened before
  have hdone : ∀ t, Due cfg request es t → t.point = .done →
      (t.AnsweredOnce ↔ PastCap cfg es ∨ ∃ r, P2Event.finish r ∈ es ∧ Answers cfg request r) := by
    intro t ht hpoint
    obtain ⟨es', hok, hwindows, hfinish⟩ := ht.since
    rw [hok.answeredOnce_iff hpoint]
    unfold PastCap
    simp only [hwindows, hfinish]
  constructor
  · intro hmust
    obtain ⟨t, ht, hpoint, honce⟩ :=
      hmust.exists_of hinit fun _ _ _ hs hown hstep => hs.keeps hown hstep
    exact (hdone t ht hpoint).mp honce
  · intro hcond
    refine ((drains cfg request es).inevitable hinit).mono ?_
    intro t ⟨ht, hpoint⟩
    exact ⟨hpoint, (hdone t ht hpoint).mpr hcond⟩

/-- A read of an unknown DID, physically addressed, by a slow handler. -/
def slowRead (functional : Bool) : UdsRequest :=
  ⟨[0x22, 0x12, 0x34], 0x0E00, 0x0003, functional⟩

/-- One window elapses, then the handler refuses with requestOutOfRange. -/
def refusedLate : List P2Event :=
  [.window, .timeout, .sent, .finish (.negative nrcRequestOutOfRange none)]

theorem answered_once_physical :
    ∃ m, Transition.exec (p2Step {} (slowRead false)) {} refusedLate = some m
      ∧ (∃ frame ∈ m.emitted, isResponsePending frame = true)
      ∧ Transition.Inevitable (p2Step {} (slowRead false)) P2Event.Own
        (fun m => m.point = .done ∧ m.AnsweredOnce) m := by
  refine ⟨_, rfl, ⟨(slowRead false).negative nrcResponsePending, by decide, by decide⟩, ?_⟩
  have hfinish : P2Event.finish (.negative nrcRequestOutOfRange none) ∈ refusedLate := by decide
  have hanswers : Answers {} (slowRead false) (.negative nrcRequestOutOfRange none) :=
    ⟨.inl rfl, by decide⟩
  exact (answered_once_iff {} (slowRead false) refusedLate _ rfl (by decide)
    (.inl ⟨_, hfinish⟩)).mpr (.inr ⟨_, hfinish, hanswers⟩)

/-- The same run addressed functionally leaves the promise open. -/
theorem functional_refusal_breaks_promise :
    ¬ ∀ (cfg : UdsConfig) (request : UdsRequest) (es : List P2Event) (m : P2),
      Transition.exec (p2Step cfg request) {} es = some m → m.point = .done →
      (∃ frame ∈ m.emitted, isResponsePending frame = true) → m.AnsweredOnce := by
  intro hall
  have honce := hall {} (slowRead true) (refusedLate ++ [.resume]) _ rfl rfl
    ⟨(slowRead true).negative nrcResponsePending, by decide, by decide⟩
  have hemitted : ([(slowRead true).negative nrcResponsePending] : List Bytes)
      = pendings (slowRead true) 1 ++ (none : Option Bytes).toList := rfl
  have hnone : ∃ response : Bytes, (none : Option Bytes) = some response
      ∧ isResponsePending response = false :=
    (answeredOnce_iff none hemitted).mp honce
  obtain ⟨_, hresp, _⟩ := hnone
  cases hresp

end DoipPlayground.VirtualEcu
