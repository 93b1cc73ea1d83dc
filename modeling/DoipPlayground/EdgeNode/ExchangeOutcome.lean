/-
  DoipPlayground.EdgeNode.ExchangeOutcome
  ───────────────────────────────────────
  **WHAT AN EXCHANGE WITH AN ECU LEAVES BEHIND** (`_exchange_with_ecu`).

  One exchange, alone: the bytes sent to the ECU may differ from those of
  the tester's request, and the clock is read where the source reads it.
  The session is not closing, the middleware passes the frames on as they
  are, and the tester takes what is written to it.

  An event says how an await ends, and when.  What `wait_for` returns has come
  before its timer: within the timeout of one frame, and never behind the
  budget.  The coroutine may run again any time later than that, as the loop
  has other work to do, and it is then that it reads the clock.

    • `Running` — what holds at each wait for a frame,
    • `Returned` — what holds in the end,
    • `run_step`, `run_exec` — a step, and a whole exchange,
    • `timeout_waits`, `stop_unanswered` — when the exchange goes on, and when
      it gives up,
    • `exchange_outcome` — the exchange, to the tester and to the connection.
-/
import DoipPlayground.EdgeNode.Exchange

namespace DoipPlayground.EdgeNode.Outcome

open Wire
open Ecu (ConnId responseMatches isResponsePending diagNack nackTargetUnreachable)

/-! ## §1. The exchange. -/

/-- The timers, in ticks. -/
structure Config where
  strictResponseMatching : Bool := true
  /-- `ecu_response_timeout_s` -/
  ecuResponseTimeout : Nat
  /-- `ecu_pending_max_wait_s` -/
  ecuPendingMaxWait : Nat

/-- The arguments of `_exchange_with_ecu`. -/
structure Call where
  conn : ConnId
  /-- What is sent: the request behind the middleware. -/
  sentBytes : Bytes
  /-- What the tester has sent. -/
  request : Bytes

def Call.requestSid (x : Call) : Option UInt8 := x.sentBytes[12]?

/-- The request lacks complete addresses: `_send_diag_nack` raises. -/
def Call.Unaddressed (x : Call) : Prop := x.request.length < 12

instance (x : Call) : Decidable x.Unaddressed := inferInstanceAs (Decidable (_ < _))

/-- What is written to the tester. -/
inductive Outgoing where
  /-- A frame of the ECU. -/
  | relayed (raw : Bytes)
  /-- A Diagnostic Message NACK of the EdgeNode. -/
  | diagNack (raw : Bytes)
  /-- A Header NACK of the EdgeNode. -/
  | headerNack (raw : Bytes)
  deriving DecidableEq, Repr

/-- The frame, if the ECU has sent it. -/
def Outgoing.frame? : Outgoing → Option Bytes
  | .relayed raw => some raw
  | .diagNack _ | .headerNack _ => none

/-- The entries of the session for the target, and the connections it closed. -/
structure Session where
  /-- `_ecu_conns.get(target)` -/
  ecuConn : Option ConnId
  /-- `_ecu_read_owners.get(target)`, of the task in `_ecu_read_tasks`. -/
  readOwner : Option ConnId := none
  closed : ConnId → Bool := fun _ => false

/-- `_retire_ecu_leg` -/
def Session.retireEcuLeg (s : Session) (c : ConnId) : Session where
  ecuConn := if s.ecuConn = some c then none else s.ecuConn
  readOwner := if s.readOwner = some c then none else s.readOwner
  closed := fun d => if d = c then true else s.closed d

/-- Where the exchange is. -/
inductive Phase where
  /-- `await asyncio.wait_for(ecu_conn.send(sent_bytes), ...)` -/
  | sending
  /-- `await self._recv_ecu_frame(...)` -/
  | receiving
  /-- It has returned, and `completed` was this. -/
  | returned (completed : Bool)
  deriving DecidableEq, Repr

structure Exchange where
  phase : Phase := .sending
  /-- `loop.time()` -/
  now : Nat
  deadline : Nat
  accepted : Bool := false
  pendingSeen : Bool := false
  session : Session
  /-- The frames `_recv_ecu_frame` has returned; nothing reads them. -/
  received : List Bytes := []
  written : List Outgoing := []

namespace Exchange

variable (x : Call) (e : Exchange)

/-- `return`, and `finally`. -/
def leave (completed : Bool) : Exchange :=
  { e with
    phase := .returned completed
    session := if completed then e.session else e.session.retireEcuLeg x.conn }

/-- `_relay_ecu_frame` -/
def relayEcuFrame (raw : Bytes) : Exchange := { e with written := e.written ++ [.relayed raw] }

/-- `_send_diag_nack(0x06, request)`, up to where it may raise. -/
def sendDiagNack : Exchange :=
  { e with written := e.written ++ [
      if x.Unaddressed then .headerNack (buildFrame ptHeaderNack [0x04])
      else .diagNack (diagNack x.request nackTargetUnreachable)] }

/-- `except Exception` -/
def fail : Exchange := (if e.accepted then e else e.sendDiagNack x).leave x false

/-- The ECU is silent. -/
def giveUp : Exchange :=
  if e.accepted then e.leave x false
  else if x.Unaddressed then (e.sendDiagNack x).fail x
  else (e.sendDiagNack x).leave x false

/-- The head of the loop, up to the wait for the next frame. -/
def loopHead : Exchange :=
  if e.deadline ≤ e.now then e.giveUp x
  else
    match e.session.readOwner with
    | some owner => if owner = x.conn then { e with phase := .receiving } else e.fail x
    | none =>
        { e with phase := .receiving, session := { e.session with readOwner := some x.conn } }

/-- The loop with a frame. -/
def handleEcuFrame (cfg : Config) (raw : Bytes) : Exchange :=
  if ptype raw = ptDiagnosticPositiveAck then
    if e.accepted then e.leave x false
    else ({ e with accepted := true }.relayEcuFrame raw).loopHead x
  else if ptype raw = ptDiagnosticMessage then
    if responseMatches cfg.strictResponseMatching raw x.requestSid = false then e.leave x false
    else
      let pending := isResponsePending raw
      let pendingMatches := pending && x.requestSid.isSome && raw[13]? == x.requestSid
      if pendingMatches then
        { { e with accepted := true }.relayEcuFrame raw with pendingSeen := true }.loopHead x
      else ({ e with accepted := true }.relayEcuFrame raw).leave x (!pending)
  else (e.relayEcuFrame raw).leave x (ptype raw == ptDiagnosticNegativeAck)

/-- Time passes. -/
def elapse (ticks : Nat) : Exchange := { e with now := e.now + ticks }

/-- The wait ends; the read task stays if it has not. -/
def collect (done : Bool) : Exchange :=
  { e with session := { e.session with readOwner := if done then none else e.session.readOwner } }

/-- What is left of the budget: how long `send` may take. -/
def remaining : Nat := e.deadline - e.now

/-- How long `_recv_ecu_frame` waits. -/
def wait (cfg : Config) : Nat := min cfg.ecuResponseTimeout e.remaining

end Exchange

/-- How an await ends: after `ticks`, and `late` more until the coroutine runs. -/
inductive Event where
  /-- `send` returns. -/
  | sent (ticks late : Nat)
  /-- `send` raises, or takes too long. -/
  | sendRaises (ticks : Nat)
  /-- `recv` returns a frame. -/
  | frame (raw : Bytes) (ticks late : Nat)
  /-- The wait elapses; a task that is done by then goes with its frame. -/
  | timeout (late : Nat) (done : Bool)
  /-- `recv` raises. -/
  | recvRaises (ticks late : Nat)
  deriving DecidableEq, Repr

def step (cfg : Config) (x : Call) (e : Exchange) : Event → Option Exchange
  | .sent ticks late =>
      if e.phase = .sending ∧ ticks ≤ e.remaining then
        some ((e.elapse (ticks + late)).loopHead x)
      else none
  | .sendRaises ticks => if e.phase = .sending then some ((e.elapse ticks).fail x) else none
  | .frame raw ticks late =>
      -- a frame that is slower than the wait stays with its task
      if e.phase = .receiving ∧ ticks ≤ e.wait cfg then
        some ({ (e.elapse (ticks + late)).collect true with
          received := e.received ++ [raw] }.handleEcuFrame x cfg raw)
      else none
  | .timeout late done =>
      if e.phase = .receiving then
        if e.pendingSeen then some (((e.elapse (e.wait cfg + late)).collect done).loopHead x)
        else some (((e.elapse (e.wait cfg + late)).collect done).giveUp x)
      else none
  | .recvRaises ticks late =>
      if e.phase = .receiving ∧ ticks ≤ e.wait cfg then
        some (((e.elapse (ticks + late)).collect true).fail x)
      else none

/-- `_exchange_with_ecu` is called. -/
def start (cfg : Config) (session : Session) (now : Nat) : Exchange where
  now := now
  deadline := now + cfg.ecuPendingMaxWait
  session := session

/-! ## §2. What it is to keep to. -/

/-- A Diagnostic Message whose SID, if it has one, answers the one that was
sent, if there was one. -/
def Answers (requestSid : Option UInt8) (raw : Bytes) : Prop :=
  ∀ sid, requestSid = some sid → ∀ r, raw[12]? = some r →
    r = sid ||| 0x40 ∨ r = 0x7F ∧ raw[13]? = some sid

/-- `7F <sid> 78`, with the SID that was sent. -/
def MatchingPending (x : Call) (raw : Bytes) : Prop :=
  isResponsePending raw = true ∧ x.requestSid.isSome = true ∧ raw[13]? = x.requestSid

/-- A Diagnostic Message that is no `7F .. 78`, or an NACK. -/
def Final (raw : Bytes) : Prop :=
  (ptype raw = ptDiagnosticMessage ∧ isResponsePending raw = false)
    ∨ ptype raw = ptDiagnosticNegativeAck

/-- The last thing written to the tester is final. -/
def Ended (written : List Outgoing) : Prop :=
  ∃ raw, written.getLast? = some (.relayed raw) ∧ Final raw

/-- What strict matching asks of a relayed frame. -/
def Relayable (cfg : Config) (x : Call) (raw : Bytes) : Prop :=
  cfg.strictResponseMatching = true → ptype raw = ptDiagnosticMessage → Answers x.requestSid raw

theorem responseMatches_answers {sid? : Option UInt8} {raw : Bytes}
    (h : responseMatches true raw sid? = true) : Answers sid? raw := by
  intro sid hsid r hr
  subst hsid
  have hlen : ¬ raw.length < 13 := by
    have := (List.getElem?_eq_some_iff.mp hr).1
    omega
  unfold responseMatches at h
  dsimp only at h
  rw [if_neg hlen, hr] at h
  by_cases hpos : some r = some (sid ||| 0x40)
  · exact .inl (Option.some.inj hpos)
  · rw [if_neg hpos] at h
    by_cases hneg : some r = some 0x7F ∧ raw[13]? = some sid
    · exact .inr ⟨Option.some.inj hneg.1, hneg.2⟩
    · rw [if_neg hneg] at h
      cases h

theorem answers_responseMatches {sid? : Option UInt8} {raw : Bytes} (h : Answers sid? raw) :
    responseMatches true raw sid? = true := by
  unfold responseMatches
  cases sid? with
  | none => rfl
  | some sid =>
      dsimp only
      cases hr : raw[12]? with
      | none =>
          have hlen := List.getElem?_eq_none_iff.mp hr
          exact if_pos (by omega)
      | some r =>
          split
          · rfl
          rcases h sid rfl r hr with hpos | ⟨hneg, h13⟩
          · rw [if_pos (congrArg some hpos)]
          · split
            · rfl
            · exact if_pos ⟨congrArg some hneg, h13⟩

/-- A frame that may be relayed gets past the check of its SID. -/
theorem Relayable.responseMatches {cfg : Config} {x : Call} {raw : Bytes}
    (h : Relayable cfg x raw) (htype : ptype raw = ptDiagnosticMessage) :
    Ecu.responseMatches cfg.strictResponseMatching raw x.requestSid = true := by
  cases hstrict : cfg.strictResponseMatching with
  | true => exact answers_responseMatches (h hstrict htype)
  | false =>
      unfold Ecu.responseMatches
      split
      · rfl
      split
      · rfl
      split
      · rfl
      split
      · rfl
      · rfl

/-- The frames of a response that is pending match. -/
theorem MatchingPending.responseMatches {x : Call} {raw : Bytes} (h : MatchingPending x raw)
    (strict : Bool) : Ecu.responseMatches strict raw x.requestSid = true := by
  obtain ⟨hpending, hsome, h13⟩ := h
  obtain ⟨sid, hsid⟩ := Option.isSome_iff_exists.mp hsome
  rw [hsid] at h13 ⊢
  have h12 : raw[12]? = some 0x7F := by
    unfold Ecu.isResponsePending at hpending
    simp only [Bool.and_eq_true, beq_iff_eq] at hpending
    exact hpending.1.2
  unfold Ecu.responseMatches
  dsimp only
  split
  · rfl
  split
  · rfl
  · exact if_pos ⟨h12, h13⟩

theorem ptype_of_pending {raw : Bytes} (h : isResponsePending raw = true) :
    ptype raw = ptDiagnosticMessage := by
  unfold isResponsePending at h
  simp only [Bool.and_eq_true, beq_iff_eq] at h
  exact h.1.1.2

/-! ## §3. While the loop goes on. -/

variable {cfg : Config} {x : Call} {s₀ : Session} {now : Nat} {e e' : Exchange} {raw : Bytes}

/-- While the loop goes on: nothing final has been relayed, and nothing at
all before the ECU has accepted the request. -/
structure Running (cfg : Config) (x : Call) (s₀ : Session) (now : Nat) (e : Exchange) : Prop where
  deadline : e.deadline = now + cfg.ecuPendingMaxWait
  quiet : e.accepted = false ↔ e.written = []
  pending : e.pendingSeen = true ↔ ∃ raw ∈ e.received, MatchingPending x raw
  accepted : e.pendingSeen = true → e.accepted = true
  relays : ∃ raws : List Bytes, e.written = raws.map .relayed ∧ List.Sublist raws e.received
    ∧ ∀ raw ∈ raws, Relayable cfg x raw ∧ ¬ Final raw
  ecuConn : e.session.ecuConn = s₀.ecuConn
  closed : e.session.closed = s₀.closed

/-- What the exchange writes besides: nothing, or a NACK instead of anything else. -/
def Synthetic (x : Call) (raws : List Bytes) (nacks : List Outgoing) : Prop :=
  nacks = [] ∨ raws = [] ∧ nacks ≠ []
    ∧ (nacks = [.diagNack (diagNack x.request nackTargetUnreachable)]
      ∨ ∀ out ∈ nacks, ∃ raw, out = .headerNack raw)

/-- When the exchange has returned. -/
structure Returned (cfg : Config) (x : Call) (s₀ : Session) (completed : Bool) (e : Exchange) :
    Prop where
  phase : e.phase = .returned completed
  output : ∃ raws nacks, e.written = raws.map .relayed ++ nacks ∧ List.Sublist raws e.received
    ∧ (∀ raw ∈ raws, Relayable cfg x raw) ∧ Synthetic x raws nacks
  ended : completed = true ↔ Ended e.written
  kept : completed = true → e.session.ecuConn = s₀.ecuConn ∧ e.session.closed = s₀.closed
  retired : completed = false → e.session.ecuConn ≠ some x.conn
    ∧ e.session.readOwner ≠ some x.conn ∧ e.session.closed x.conn = true

/-- The exchange waits for a frame, with time left. -/
structure Waits (cfg : Config) (x : Call) (s₀ : Session) (now : Nat) (e : Exchange) : Prop where
  running : Running cfg x s₀ now e
  phase : e.phase = .receiving
  readOwner : e.session.readOwner = some x.conn
  budget : e.now < e.deadline

/-- What a step leads to: another wait, or the end. -/
def Next (cfg : Config) (x : Call) (s₀ : Session) (now : Nat) (e : Exchange) : Prop :=
  Waits cfg x s₀ now e ∨ ∃ completed, Returned cfg x s₀ completed e

/-- The exchange is over without an answer, and its connection with it: it is
neither cached nor read from, and closed. -/
structure Retired (x : Call) (e : Exchange) : Prop where
  phase : e.phase = .returned false
  ecuConn : e.session.ecuConn ≠ some x.conn
  readOwner : e.session.readOwner ≠ some x.conn
  closed : e.session.closed x.conn = true

/-- The exchange `d` ends as `e` for want of an answer: the tester gets a NACK
0x06, unless something has been relayed to it. -/
structure Unanswered (x : Call) (d e : Exchange) : Prop where
  retired : Retired x e
  silent : d.written ≠ [] → e.written = d.written
  refused : d.written = [] → ¬ x.Unaddressed →
    e.written = [.diagNack (diagNack x.request nackTargetUnreachable)]

theorem retireEcuLeg_retired (s : Session) (c : ConnId) :
    (s.retireEcuLeg c).ecuConn ≠ some c ∧ (s.retireEcuLeg c).readOwner ≠ some c
      ∧ (s.retireEcuLeg c).closed c = true := by
  unfold Session.retireEcuLeg
  dsimp only
  refine ⟨?_, ?_, if_pos rfl⟩
  · split
    · simp
    · assumption
  · split
    · simp
    · assumption

/-- Only what had been written counts. -/
theorem Unanswered.of_written {d d' : Exchange} (h : Unanswered x d e)
    (hwritten : d'.written = d.written) : Unanswered x d' e where
  retired := h.retired
  silent := by
    rw [hwritten]
    exact h.silent
  refused := by
    rw [hwritten]
    exact h.refused

theorem retired_leave (x : Call) (e : Exchange) : Retired x (e.leave x false) := by
  have hretired := retireEcuLeg_retired e.session x.conn
  exact ⟨rfl, hretired.1, hretired.2.1, hretired.2.2⟩

/-- The end without a final answer. -/
theorem returned_leave_false (raws : List Bytes) (nacks : List Outgoing)
    (hwritten : e.written = raws.map .relayed ++ nacks) (hsub : List.Sublist raws e.received)
    (hrelays : ∀ raw ∈ raws, Relayable cfg x raw ∧ ¬ Final raw) (hnacks : Synthetic x raws nacks) :
    Returned cfg x s₀ false (e.leave x false) where
  phase := rfl
  output := ⟨raws, nacks, hwritten, hsub, fun raw hraw => (hrelays raw hraw).1, hnacks⟩
  ended := by
    refine iff_of_false (by simp) ?_
    intro ⟨raw, hlast, hfinal⟩
    have hmem : Outgoing.relayed raw ∈ raws.map .relayed ++ nacks := by
      rw [← hwritten]
      exact List.mem_of_getLast? hlast
    rcases List.mem_append.mp hmem with hraw | hnack
    · obtain ⟨raw', hraw', heq⟩ := List.mem_map.mp hraw
      cases heq
      exact (hrelays raw hraw').2 hfinal
    · rcases hnacks with rfl | ⟨_, _, rfl | hheader⟩
      · cases hnack
      · cases List.mem_singleton.mp hnack
      · obtain ⟨_, hout⟩ := hheader _ hnack
        cases hout
  kept := by simp
  retired := fun _ => retireEcuLeg_retired e.session x.conn

namespace Running

theorem elapse (h : Running cfg x s₀ now e) (ticks : Nat) : Running cfg x s₀ now (e.elapse ticks) :=
  ⟨h.deadline, h.quiet, h.pending, h.accepted, h.relays, h.ecuConn, h.closed⟩

theorem collect (h : Running cfg x s₀ now e) (done : Bool) :
    Running cfg x s₀ now (e.collect done) :=
  ⟨h.deadline, h.quiet, h.pending, h.accepted, h.relays, h.ecuConn, h.closed⟩

theorem leave (h : Running cfg x s₀ now e) : Returned cfg x s₀ false (e.leave x false) := by
  obtain ⟨raws, hwritten, hsub, hrelays⟩ := h.relays
  exact returned_leave_false raws [] (by rw [hwritten, List.append_nil]) hsub hrelays (.inl rfl)

/-- Nothing has been written before the first NACK. -/
theorem written_sendDiagNack (h : Running cfg x s₀ now e) (haccepted : e.accepted = false) :
    (e.sendDiagNack x).written
      = [if x.Unaddressed then .headerNack (buildFrame ptHeaderNack [0x04])
          else .diagNack (diagNack x.request nackTargetUnreachable)] := by
  unfold Exchange.sendDiagNack
  rw [h.quiet.mp haccepted]
  rfl

theorem fail (h : Running cfg x s₀ now e) : Returned cfg x s₀ false (e.fail x) := by
  unfold Exchange.fail
  cases haccepted : e.accepted with
  | true =>
      rw [if_pos rfl]
      exact h.leave
  | false =>
      rw [if_neg (by simp)]
      have hwritten := h.written_sendDiagNack haccepted
      refine returned_leave_false [] _ hwritten (List.nil_sublist _) (by simp) ?_
      refine .inr ⟨rfl, by simp, ?_⟩
      by_cases haddress : x.Unaddressed
      · rw [if_pos haddress]
        exact .inr fun out hout => ⟨_, List.mem_singleton.mp hout⟩
      · rw [if_neg haddress]
        exact .inl rfl

theorem giveUp (h : Running cfg x s₀ now e) : Returned cfg x s₀ false (e.giveUp x) := by
  unfold Exchange.giveUp
  cases haccepted : e.accepted with
  | true =>
      rw [if_pos rfl]
      exact h.leave
  | false =>
      rw [if_neg (by simp)]
      have hwritten := h.written_sendDiagNack haccepted
      by_cases haddress : x.Unaddressed
      · -- `_send_diag_nack` raises, and the `except` clause calls it again
        rw [if_pos haddress] at hwritten ⊢
        have hstill : ¬ (e.sendDiagNack x).accepted = true := by
          show ¬ e.accepted = true
          rw [haccepted]
          simp
        have hagain : ((e.sendDiagNack x).sendDiagNack x).written
            = [.headerNack (buildFrame ptHeaderNack [0x04]),
              .headerNack (buildFrame ptHeaderNack [0x04])] := by
          show (e.sendDiagNack x).written ++ [if x.Unaddressed then _ else _] = _
          rw [hwritten, if_pos haddress]
          rfl
        unfold Exchange.fail
        rw [if_neg hstill]
        refine returned_leave_false [] _ hagain (List.nil_sublist _) (by simp) ?_
        refine .inr ⟨rfl, by simp, .inr ?_⟩
        intro out hout
        refine ⟨buildFrame ptHeaderNack [0x04], ?_⟩
        simpa using hout
      · rw [if_neg haddress] at hwritten ⊢
        refine returned_leave_false [] _ hwritten (List.nil_sublist _) (by simp) ?_
        exact .inr ⟨rfl, by simp, .inl rfl⟩

/-- The end of an exchange that has been accepted writes nothing; any other
one is refused. -/
theorem unanswered {d : Exchange} (h : Running cfg x s₀ now e) (hretired : Retired x d)
    (haccepted : e.accepted = true → d.written = e.written)
    (hrefused : e.accepted = false → ¬ x.Unaddressed → d.written = (e.sendDiagNack x).written) :
    Unanswered x e d where
  retired := hretired
  silent := by
    intro hwritten
    apply haccepted
    rw [← Bool.not_eq_false, h.quiet]
    exact hwritten
  refused := by
    intro hwritten haddress
    have hno := h.quiet.mpr hwritten
    rw [hrefused hno haddress, h.written_sendDiagNack hno, if_neg haddress]

theorem fail_unanswered (h : Running cfg x s₀ now e) : Unanswered x e (e.fail x) := by
  refine h.unanswered (retired_leave x _) ?_ ?_
  · intro haccepted
    unfold Exchange.fail
    rw [if_pos haccepted]
    rfl
  · intro hno _
    unfold Exchange.fail
    rw [if_neg (by simp [hno])]
    rfl

theorem giveUp_unanswered (h : Running cfg x s₀ now e) : Unanswered x e (e.giveUp x) := by
  have hretired : Retired x (e.giveUp x) := by
    unfold Exchange.giveUp
    split
    · exact retired_leave x e
    split
    · exact retired_leave x _
    · exact retired_leave x _
  refine h.unanswered hretired ?_ ?_
  · intro haccepted
    unfold Exchange.giveUp
    rw [if_pos haccepted]
    rfl
  · intro hno haddress
    unfold Exchange.giveUp
    rw [if_neg (by simp [hno]), if_neg haddress]
    rfl

/-- The head of the loop waits again, or gives up. -/
theorem loopHead (h : Running cfg x s₀ now e) : Next cfg x s₀ now (e.loopHead x) := by
  unfold Exchange.loopHead
  split
  · exact .inr ⟨false, h.giveUp⟩
  rename_i htime
  have hbudget : e.now < e.deadline := Nat.lt_of_not_le htime
  split
  · rename_i owner howner
    split
    · rename_i heq
      refine .inl ⟨?_, rfl, ?_, hbudget⟩
      · exact ⟨h.deadline, h.quiet, h.pending, h.accepted, h.relays, h.ecuConn, h.closed⟩
      · show e.session.readOwner = some x.conn
        rw [howner, heq]
    · exact .inr ⟨false, h.fail⟩
  · refine .inl ⟨?_, rfl, rfl, hbudget⟩
    exact ⟨h.deadline, h.quiet, h.pending, h.accepted, h.relays, h.ecuConn, h.closed⟩

/-- At the head of the loop, after a response: until the budget is used up the
exchange waits on, then it ends, and nothing is written either way. -/
theorem loopHead_accepted (h : Running cfg x s₀ now e) (haccepted : e.accepted = true)
    (howner : e.session.readOwner = none ∨ e.session.readOwner = some x.conn) :
    (e.loopHead x).written = e.written ∧ (e.loopHead x).now = e.now
      ∧ (e.now < now + cfg.ecuPendingMaxWait → (e.loopHead x).phase = .receiving)
      ∧ (now + cfg.ecuPendingMaxWait ≤ e.now → Retired x (e.loopHead x)) := by
  have hdeadline := h.deadline
  unfold Exchange.loopHead
  by_cases hover : e.deadline ≤ e.now
  · rw [if_pos hover]
    unfold Exchange.giveUp
    rw [if_pos haccepted]
    refine ⟨rfl, rfl, ?_, fun _ => retired_leave x e⟩
    intro hbefore
    omega
  · rw [if_neg hover]
    have hbefore : ¬ now + cfg.ecuPendingMaxWait ≤ e.now := by omega
    rcases howner with howner | howner
    · rw [howner]
      exact ⟨rfl, rfl, fun _ => rfl, fun hafter => absurd hafter hbefore⟩
    · rw [howner]
      dsimp only
      rw [if_pos rfl]
      exact ⟨rfl, rfl, fun _ => rfl, fun hafter => absurd hafter hbefore⟩

/-- A list with one more element. -/
theorem exists_mem_concat {p : Bytes → Prop} {raws : List Bytes} :
    (∃ f ∈ raws ++ [raw], p f) ↔ (∃ f ∈ raws, p f) ∨ p raw := by
  constructor
  · rintro ⟨f, hf, hp⟩
    rcases List.mem_append.mp hf with hf | hf
    · exact .inl ⟨f, hf, hp⟩
    · exact .inr (List.mem_singleton.mp hf ▸ hp)
  · rintro (⟨f, hf, hp⟩ | hp)
    · exact ⟨f, List.mem_append_left _ hf, hp⟩
    · exact ⟨raw, by simp, hp⟩

/-- A frame is received that does not keep the exchange waiting. -/
theorem ignore (h : Running cfg x s₀ now e) (hnot : ¬ MatchingPending x raw) :
    Running cfg x s₀ now { e with received := e.received ++ [raw] } := by
  obtain ⟨raws, hwritten, hsub, hrelays⟩ := h.relays
  refine ⟨h.deadline, h.quiet, ?_, h.accepted,
    ⟨raws, hwritten, hsub.trans (List.sublist_append_left _ _), hrelays⟩, h.ecuConn, h.closed⟩
  show e.pendingSeen = true ↔ _
  rw [h.pending, exists_mem_concat]
  exact (or_iff_left hnot).symm

/-- A frame is received and relayed, and the loop goes on. -/
theorem relay (h : Running cfg x s₀ now e) (hrelay : Relayable cfg x raw) (hfinal : ¬ Final raw)
    (pendingSeen : Bool)
    (hpending : pendingSeen = true ↔ e.pendingSeen = true ∨ MatchingPending x raw) :
    Running cfg x s₀ now { e with
      received := e.received ++ [raw], accepted := true, pendingSeen := pendingSeen
      written := e.written ++ [.relayed raw] } := by
  obtain ⟨raws, hwritten, hsub, hrelays⟩ := h.relays
  refine ⟨h.deadline, by simp, ?_, fun _ => rfl, ⟨raws ++ [raw], ?_, ?_, ?_⟩,
    h.ecuConn, h.closed⟩
  · show pendingSeen = true ↔ _
    rw [hpending, h.pending, exists_mem_concat]
  · rw [List.map_append, ← hwritten]
    rfl
  · exact hsub.append (.refl _)
  · intro f hf
    rcases List.mem_append.mp hf with hf | hf
    · exact hrelays f hf
    · rw [List.mem_singleton.mp hf]
      exact ⟨hrelay, hfinal⟩

/-- A frame is received and relayed, and the exchange is over. -/
theorem finish (h : Running cfg x s₀ now e) (hrelay : Relayable cfg x raw) {completed : Bool}
    (hcompleted : completed = true ↔ Final raw) (accepted : Bool) :
    Returned cfg x s₀ completed ({ e with
      received := e.received ++ [raw], accepted := accepted
      written := e.written ++ [Outgoing.relayed raw] }.leave x completed) := by
  obtain ⟨raws, hwritten, hsub, hrelays⟩ := h.relays
  refine ⟨rfl, ⟨raws ++ [raw], [], ?_, ?_, ?_, .inl rfl⟩, ?_, ?_, ?_⟩
  · show e.written ++ [Outgoing.relayed raw] = _
    rw [hwritten, List.map_append, List.append_nil]
    rfl
  · exact hsub.append (.refl _)
  · intro f hf
    rcases List.mem_append.mp hf with hf | hf
    · exact (hrelays f hf).1
    · rw [List.mem_singleton.mp hf]
      exact hrelay
  · rw [hcompleted]
    have hlast : (e.written ++ [Outgoing.relayed raw]).getLast? = some (.relayed raw) :=
      List.getLast?_concat
    constructor
    · intro hfinal
      exact ⟨raw, hlast, hfinal⟩
    · intro ⟨f, hf, hfinal⟩
      have heq : some (Outgoing.relayed raw) = some (.relayed f) := hlast.symm.trans hf
      cases heq
      exact hfinal
  · intro htrue
    subst htrue
    exact ⟨h.ecuConn, h.closed⟩
  · intro hfalse
    subst hfalse
    exact retireEcuLeg_retired e.session x.conn

/-- **The loop with a frame.** -/
theorem handleEcuFrame (h : Running cfg x s₀ now e) (raw : Bytes) :
    Next cfg x s₀ now ({ e with received := e.received ++ [raw] }.handleEcuFrame x cfg raw) := by
  unfold Exchange.handleEcuFrame
  split
  · rename_i hack
    have hdiag : ptype raw ≠ ptDiagnosticMessage := by
      rw [hack]
      decide
    have hnot : ¬ MatchingPending x raw := fun hm => hdiag (ptype_of_pending hm.1)
    split
    · exact .inr ⟨false, (h.ignore hnot).leave⟩
    · refine (h.relay (fun _ hpt => absurd hpt hdiag) ?_ e.pendingSeen
        (or_iff_left hnot).symm).loopHead
      rintro (hfinal | hfinal)
      · exact hdiag hfinal.1
      · rw [hack] at hfinal
        cases hfinal
  split
  · rename_i hnack hdiag
    split
    · rename_i hmismatch
      refine .inr ⟨false, (h.ignore fun hm => ?_).leave⟩
      rw [hm.responseMatches] at hmismatch
      cases hmismatch
    · rename_i hmatches
      have hrelay : Relayable cfg x raw := by
        intro hstrict _
        rw [hstrict] at hmatches
        exact responseMatches_answers (by simpa using hmatches)
      dsimp only
      split
      · rename_i hpending
        have hmatch : MatchingPending x raw := by
          simp only [Bool.and_eq_true, beq_iff_eq] at hpending
          exact ⟨hpending.1.1, hpending.1.2, hpending.2⟩
        refine (h.relay hrelay ?_ true (iff_of_true rfl (.inr hmatch))).loopHead
        rintro (hfinal | hfinal)
        · rw [hmatch.1] at hfinal
          cases hfinal.2
        · rw [hdiag] at hfinal
          cases hfinal
      · refine .inr ⟨_, h.finish hrelay ?_ true⟩
        rw [Bool.not_eq_true']
        constructor
        · intro hno
          exact .inl ⟨hdiag, hno⟩
        · rintro (hfinal | hfinal)
          · exact hfinal.2
          · rw [hdiag] at hfinal
            cases hfinal
  · rename_i hack hdiag
    refine .inr ⟨_, h.finish (fun _ hpt => absurd hpt hdiag) ?_ e.accepted⟩
    rw [beq_iff_eq]
    constructor
    · exact .inr
    · rintro (hfinal | hfinal)
      · exact absurd hfinal.1 hdiag
      · exact hfinal

end Running

/-! ## §4. A step and a run. -/

/-- Where an exchange is between two steps. -/
def Reached (cfg : Config) (x : Call) (s₀ : Session) (now : Nat) (e : Exchange) : Prop :=
  (Running cfg x s₀ now e ∧ e.phase = .sending) ∨ Next cfg x s₀ now e

theorem reached_start : Reached cfg x s₀ now (start cfg s₀ now) := by
  refine .inl ⟨⟨rfl, iff_of_true rfl rfl, ?_, (fun hno => by cases hno), ⟨[], rfl, .slnil, ?_⟩,
    rfl, rfl⟩, rfl⟩
  · refine iff_of_false (by simp [start]) ?_
    intro ⟨raw, hraw, _⟩
    cases hraw
  · intro raw hraw
    cases hraw

/-- An exchange that waits for the ECU has not returned. -/
theorem Reached.running (h : Reached cfg x s₀ now e)
    (hphase : ∀ completed, e.phase ≠ .returned completed) : Running cfg x s₀ now e := by
  rcases h with ⟨h, _⟩ | h | ⟨completed, h⟩
  · exact h
  · exact h.running
  · exact absurd h.phase (hphase completed)

theorem Reached.waits (h : Reached cfg x s₀ now e) (hphase : e.phase = .receiving) :
    Waits cfg x s₀ now e := by
  rcases h with ⟨_, hsending⟩ | h | ⟨completed, h⟩
  · rw [hsending] at hphase
    cases hphase
  · exact h
  · rw [h.phase] at hphase
    cases hphase

/-- The step lemma. -/
theorem run_step {event : Event} (h : Reached cfg x s₀ now e)
    (hstep : step cfg x e event = some e') : Next cfg x s₀ now e' := by
  cases event with
  | sent ticks late =>
      obtain ⟨⟨hphase, _⟩, heq⟩ := Option.ite_none_right_eq_some.mp hstep
      cases heq
      exact ((h.running (by simp [hphase])).elapse (ticks + late)).loopHead
  | sendRaises ticks =>
      obtain ⟨hphase, heq⟩ := Option.ite_none_right_eq_some.mp hstep
      cases heq
      exact .inr ⟨false, ((h.running (by simp [hphase])).elapse ticks).fail⟩
  | frame raw ticks late =>
      obtain ⟨⟨hphase, _⟩, heq⟩ := Option.ite_none_right_eq_some.mp hstep
      cases heq
      exact (((h.running (by simp [hphase])).elapse (ticks + late)).collect true).handleEcuFrame raw
  | timeout late done =>
      obtain ⟨hphase, heq⟩ := Option.ite_none_right_eq_some.mp hstep
      have hrunning :=
        ((h.running (by simp [hphase])).elapse (e.wait cfg + late)).collect done
      split at heq
      · cases heq
        exact hrunning.loopHead
      · cases heq
        exact .inr ⟨false, hrunning.giveUp⟩
  | recvRaises ticks late =>
      obtain ⟨⟨hphase, _⟩, heq⟩ := Option.ite_none_right_eq_some.mp hstep
      cases heq
      exact .inr ⟨false, (((h.running (by simp [hphase])).elapse (ticks + late)).collect true).fail⟩

/-- The run lemma. -/
theorem run_exec {es : List Event}
    (h : Transition.exec (step cfg x) (start cfg s₀ now) es = some e) : Reached cfg x s₀ now e :=
  Transition.exec_invariant (Reached cfg x s₀ now) (fun _ _ _ hd hstep => .inr (run_step hd hstep))
    es _ _ reached_start h

/-- **A wait that elapses after a matching `7F .. 78`**: nothing is written; the
exchange goes on before the deadline, and is over from then on. -/
theorem timeout_waits {late : Nat} {done : Bool} (h : Reached cfg x s₀ now e)
    (hpending : ∃ raw ∈ e.received, MatchingPending x raw)
    (hstep : step cfg x e (.timeout late done) = some e') :
    e'.written = e.written ∧ (e'.now < now + cfg.ecuPendingMaxWait → e'.phase = .receiving)
      ∧ (now + cfg.ecuPendingMaxWait ≤ e'.now → Retired x e') := by
  obtain ⟨hphase, heq⟩ := Option.ite_none_right_eq_some.mp hstep
  have hwaits := h.waits hphase
  have hseen := hwaits.running.pending.mpr hpending
  rw [if_pos hseen, Option.some.injEq] at heq
  have hrunning := (hwaits.running.elapse (e.wait cfg + late)).collect done
  have howner : ((e.elapse (e.wait cfg + late)).collect done).session.readOwner = none
      ∨ ((e.elapse (e.wait cfg + late)).collect done).session.readOwner = some x.conn := by
    cases done with
    | true => exact .inl rfl
    | false => exact .inr hwaits.readOwner
  obtain ⟨hwritten, hnow, hbefore, hafter⟩ :=
    hrunning.loopHead_accepted (hwaits.running.accepted hseen) howner
  subst heq
  rw [hnow]
  exact ⟨hwritten, hbefore, hafter⟩

/-- A frame that matches and is pending: it is relayed, and the exchange has
until the deadline. -/
theorem frame_waits {ticks late : Nat} (h : Reached cfg x s₀ now e)
    (hmatch : MatchingPending x raw) (hstep : step cfg x e (.frame raw ticks late) = some e') :
    e'.written = e.written ++ [.relayed raw]
      ∧ (e'.now < now + cfg.ecuPendingMaxWait → e'.phase = .receiving)
      ∧ (now + cfg.ecuPendingMaxWait ≤ e'.now → Retired x e') := by
  obtain ⟨⟨hphase, _⟩, heq⟩ := Option.ite_none_right_eq_some.mp hstep
  have hwaits := h.waits hphase
  have hdiag := ptype_of_pending hmatch.1
  have hrelay : Relayable cfg x raw :=
    fun _ _ => responseMatches_answers (hmatch.responseMatches true)
  have hfinal : ¬ Final raw := by
    rintro (hfinal | hfinal)
    · rw [hmatch.1] at hfinal
      cases hfinal.2
    · rw [hdiag] at hfinal
      cases hfinal
  have hrunning := ((hwaits.running.elapse (ticks + late)).collect true).relay hrelay hfinal true
    (iff_of_true rfl (.inr hmatch))
  have hpending : (isResponsePending raw && x.requestSid.isSome && raw[13]? == x.requestSid)
      = true := by
    rw [hmatch.1, hmatch.2.1, hmatch.2.2]
    simp
  unfold Exchange.handleEcuFrame at heq
  rw [if_neg (by rw [hdiag]; decide), if_pos hdiag,
    if_neg (by rw [hmatch.responseMatches]; simp)] at heq
  dsimp only at heq
  rw [if_pos hpending, Option.some.injEq] at heq
  obtain ⟨hwritten, hnow, hbefore, hafter⟩ := hrunning.loopHead_accepted rfl (.inl rfl)
  subst heq
  refine ⟨hwritten, ?_, ?_⟩
  · intro hlt
    exact hbefore (hnow ▸ hlt)
  · intro hle
    exact hafter (hnow ▸ hle)

/-- **A final frame** that may be relayed is, and completes the exchange. -/
theorem frame_completes {ticks late : Nat} (hrelay : Relayable cfg x raw) (hfinal : Final raw)
    (hstep : step cfg x e (.frame raw ticks late) = some e') :
    e'.written = e.written ++ [.relayed raw] ∧ e'.phase = .returned true := by
  obtain ⟨_, heq⟩ := Option.ite_none_right_eq_some.mp hstep
  unfold Exchange.handleEcuFrame at heq
  rcases hfinal with ⟨hdiag, hpending⟩ | hnack
  · rw [if_neg (by rw [hdiag]; decide), if_pos hdiag,
      if_neg (by rw [hrelay.responseMatches hdiag]; simp)] at heq
    dsimp only at heq
    rw [if_neg (by simp [hpending]), hpending, Option.some.injEq] at heq
    subst heq
    exact ⟨rfl, rfl⟩
  · rw [if_neg (by rw [hnack]; decide), if_neg (by rw [hnack]; decide), hnack,
      Option.some.injEq] at heq
    subst heq
    exact ⟨rfl, rfl⟩

/-- The event leaves the exchange `d` without an answer: an error, or a wait
that elapses before any matching `7F .. 78`. -/
def Stops (x : Call) (d : Exchange) : Event → Prop
  | .sendRaises _ | .recvRaises _ _ => True
  | .timeout _ _ => ¬ ∃ raw ∈ d.received, MatchingPending x raw
  | .sent _ _ | .frame _ _ _ => False

/-- **Where the exchange gives up at once.** -/
theorem stop_unanswered {event : Event} (h : Reached cfg x s₀ now e) (hstop : Stops x e event)
    (hstep : step cfg x e event = some e') : Unanswered x e e' := by
  cases event with
  | sent ticks late => exact hstop.elim
  | frame raw ticks late => exact hstop.elim
  | sendRaises ticks =>
      obtain ⟨hphase, heq⟩ := Option.ite_none_right_eq_some.mp hstep
      cases heq
      exact ((h.running (by simp [hphase])).elapse ticks).fail_unanswered.of_written rfl
  | recvRaises ticks late =>
      obtain ⟨⟨hphase, _⟩, heq⟩ := Option.ite_none_right_eq_some.mp hstep
      cases heq
      have hrunning := ((h.running (by simp [hphase])).elapse (ticks + late)).collect true
      exact hrunning.fail_unanswered.of_written rfl
  | timeout late done =>
      obtain ⟨hphase, heq⟩ := Option.ite_none_right_eq_some.mp hstep
      have hwaits := h.waits hphase
      have hunseen : ¬ e.pendingSeen = true := fun hseen =>
        hstop (hwaits.running.pending.mp hseen)
      rw [if_neg hunseen, Option.some.injEq] at heq
      subst heq
      have hrunning := (hwaits.running.elapse (e.wait cfg + late)).collect done
      exact hrunning.giveUp_unanswered.of_written rfl

/-! ## §5. The exchange. -/

/-- What was relayed. -/
theorem frames_output {raws : List Bytes} {nacks : List Outgoing} (h : Synthetic x raws nacks) :
    (raws.map Outgoing.relayed ++ nacks).filterMap Outgoing.frame? = raws := by
  have hraws : (raws.map Outgoing.relayed).filterMap Outgoing.frame? = raws := by
    rw [List.filterMap_map]
    exact List.filterMap_some
  have hnacks : nacks.filterMap Outgoing.frame? = [] := by
    rw [List.filterMap_eq_nil_iff]
    rcases h with rfl | ⟨_, _, rfl | hheader⟩
    · simp
    · simp [Outgoing.frame?]
    · intro out hout
      obtain ⟨raw, rfl⟩ := hheader out hout
      rfl
  rw [List.filterMap_append, hraws, hnacks, List.append_nil]

/-- What has been written at any point of the exchange. -/
theorem Reached.output (h : Reached cfg x s₀ now e) :
    ∃ raws nacks, e.written = raws.map .relayed ++ nacks ∧ List.Sublist raws e.received
      ∧ (∀ raw ∈ raws, Relayable cfg x raw) ∧ Synthetic x raws nacks := by
  have hrunning : Running cfg x s₀ now e →
      ∃ raws nacks, e.written = raws.map .relayed ++ nacks ∧ List.Sublist raws e.received
        ∧ (∀ raw ∈ raws, Relayable cfg x raw) ∧ Synthetic x raws nacks := by
    intro hrun
    obtain ⟨raws, hwritten, hsub, hrelays⟩ := hrun.relays
    exact ⟨raws, [], by rw [hwritten, List.append_nil], hsub,
      fun f hf => (hrelays f hf).1, .inl rfl⟩
  rcases h with ⟨h, _⟩ | h | ⟨completed, h⟩
  · exact hrunning h
  · exact hrunning h.running
  · exact h.output

/-- **What an exchange may rely on and be relied on for**, after the events `es`.
The last event of a run is told apart from those before it, which lead to `d`. -/
structure Settles (cfg : Config) (x : Call) (session : Session) (now : Nat) (es : List Event)
    (e : Exchange) : Prop where
  /-- What is relayed are frames of the ECU, in order. -/
  relays : List.Sublist (e.written.filterMap Outgoing.frame?) e.received
  strict : cfg.strictResponseMatching = true → ∀ raw ∈ e.written.filterMap Outgoing.frame?,
    ptype raw = ptDiagnosticMessage → Answers x.requestSid raw
  /-- A NACK 0x06 is all that is written. -/
  nack : ∀ nack, .diagNack nack ∈ e.written →
    nack = diagNack x.request nackTargetUnreachable ∧ e.written = [.diagNack nack]
  /-- It waits only while the budget lasts. -/
  budget : e.phase = .receiving → e.now < now + cfg.ecuPendingMaxWait
  /-- After a matching `7F .. 78` it waits as long as that, and no longer. -/
  promised : ∀ before late done d, es = before ++ [.timeout late done] →
    Transition.exec (step cfg x) (start cfg session now) before = some d →
    (∃ raw ∈ d.received, MatchingPending x raw) →
    e.written = d.written ∧ (e.now < now + cfg.ecuPendingMaxWait → e.phase = .receiving)
      ∧ (now + cfg.ecuPendingMaxWait ≤ e.now → Retired x e)
  pending : ∀ before raw ticks late d, es = before ++ [.frame raw ticks late] →
    Transition.exec (step cfg x) (start cfg session now) before = some d →
    MatchingPending x raw →
    e.written = d.written ++ [.relayed raw]
      ∧ (e.now < now + cfg.ecuPendingMaxWait → e.phase = .receiving)
      ∧ (now + cfg.ecuPendingMaxWait ≤ e.now → Retired x e)
  /-- A final frame completes it. -/
  final : ∀ before raw ticks late d, es = before ++ [.frame raw ticks late] →
    Transition.exec (step cfg x) (start cfg session now) before = some d →
    Relayable cfg x raw → Final raw →
    e.written = d.written ++ [.relayed raw] ∧ e.phase = .returned true
  /-- An error, or a wait that elapses without such a promise, ends it. -/
  stops : ∀ before last d, es = before ++ [last] →
    Transition.exec (step cfg x) (start cfg session now) before = some d →
    Stops x d last → Unanswered x d e
  /-- In the end the connection is as it was if the last thing written is
  final; otherwise it is neither cached nor read from, and closed. -/
  leg : ∀ completed, e.phase = .returned completed →
    (Ended e.written → e.session.ecuConn = session.ecuConn
      ∧ e.session.closed = session.closed)
    ∧ (¬ Ended e.written → e.session.ecuConn ≠ some x.conn
      ∧ e.session.readOwner ≠ some x.conn ∧ e.session.closed x.conn = true)
    ∧ (session.ecuConn = some x.conn →
      (e.session.ecuConn = some x.conn ↔ Ended e.written))

/-- The last step of a run. -/
theorem exec_concat {before : List Event} {last : Event} {d : Exchange}
    (h : Transition.exec (step cfg x) (start cfg s₀ now) (before ++ [last]) = some e)
    (hd : Transition.exec (step cfg x) (start cfg s₀ now) before = some d) :
    step cfg x d last = some e := by
  obtain ⟨d', hd', hlast⟩ := Transition.exec_append_eq_some.mp h
  rw [hd, Option.some.injEq] at hd'
  subst hd'
  obtain ⟨e', hstep, hnil⟩ := Transition.exec_cons_eq_some.mp hlast
  rw [Transition.exec_nil, Option.some.injEq] at hnil
  exact hnil ▸ hstep

/-- What has become of the connection. -/
theorem Returned.leg {completed : Bool} (h : Returned cfg x s₀ completed e) :
    (Ended e.written → e.session.ecuConn = s₀.ecuConn ∧ e.session.closed = s₀.closed)
    ∧ (¬ Ended e.written → e.session.ecuConn ≠ some x.conn
      ∧ e.session.readOwner ≠ some x.conn ∧ e.session.closed x.conn = true)
    ∧ (s₀.ecuConn = some x.conn → (e.session.ecuConn = some x.conn ↔ Ended e.written)) := by
  -- the exchange returns `True` just if the last thing written is final
  have hkept : Ended e.written → e.session.ecuConn = s₀.ecuConn ∧ e.session.closed = s₀.closed :=
    fun hended => h.kept (h.ended.mpr hended)
  have hretired : ¬ Ended e.written → e.session.ecuConn ≠ some x.conn
      ∧ e.session.readOwner ≠ some x.conn ∧ e.session.closed x.conn = true := by
    intro hnot
    refine h.retired ?_
    cases completed with
    | false => rfl
    | true => exact absurd (h.ended.mp rfl) hnot
  refine ⟨hkept, hretired, ?_⟩
  intro hcached
  constructor
  · intro hstill
    by_contra hnot
    exact (hretired hnot).1 hstill
  · intro hended
    rw [(hkept hended).1, hcached]

/-- **The outcome of an exchange**, at any point of it and in the end, whatever
frames come, however late, and wherever an await elapses or raises. -/
theorem exchange_outcome (cfg : Config) (x : Call) (session : Session) (now : Nat)
    (es : List Event) (e : Exchange)
    (h : Transition.exec (step cfg x) (start cfg session now) es = some e) :
    Settles cfg x session now es e := by
  have hreached := run_exec h
  obtain ⟨raws, nacks, hwritten, hsub, hrelays, hnacks⟩ := hreached.output
  have hframes : e.written.filterMap Outgoing.frame? = raws := by
    rw [hwritten]
    exact frames_output hnacks
  constructor
  · rw [hframes]
    exact hsub
  · intro hstrict raw hraw
    rw [hframes] at hraw
    exact hrelays raw hraw hstrict
  · intro nack hmem
    -- a NACK is only ever written instead of everything else
    rw [hwritten] at hmem ⊢
    rcases List.mem_append.mp hmem with hmem | hmem
    · obtain ⟨raw, _, heq⟩ := List.mem_map.mp hmem
      cases heq
    · rcases hnacks with rfl | ⟨rfl, _, rfl | hheader⟩
      · cases hmem
      · cases List.mem_singleton.mp hmem
        exact ⟨rfl, rfl⟩
      · obtain ⟨raw, heq⟩ := hheader _ hmem
        cases heq
  · intro hphase
    have hwaits := hreached.waits hphase
    rw [← hwaits.running.deadline]
    exact hwaits.budget
  · intro before late done d hes hd hpending
    subst hes
    exact timeout_waits (run_exec hd) hpending (exec_concat h hd)
  · intro before raw ticks late d hes hd hmatch
    subst hes
    exact frame_waits (run_exec hd) hmatch (exec_concat h hd)
  · intro before raw ticks late d hes hd hrelay hfinal
    subst hes
    exact frame_completes hrelay hfinal (exec_concat h hd)
  · intro before last d hes hd hstop
    subst hes
    exact stop_unanswered (run_exec hd) hstop (exec_concat h hd)
  · intro completed hphase
    rcases hreached with ⟨_, hsending⟩ | hwaits | ⟨completed', hreturned⟩
    · rw [hsending] at hphase
      cases hphase
    · rw [hwaits.phase] at hphase
      cases hphase
    · exact hreturned.leg

/-- A read request that the ECU acknowledges, and answers late. -/
def lateAnswer : List Event :=
  [.sent 1 0, .frame [0x02, 0xFD, 0x80, 0x02, 0, 0, 0, 5, 0, 1, 0x0E, 0, 0] 1 0,
    .frame [0x02, 0xFD, 0x80, 0x01, 0, 0, 0, 7, 0, 1, 0x0E, 0, 0x7F, 0x22, 0x78] 1 0,
    .timeout 0 false,
    .frame [0x02, 0xFD, 0x80, 0x01, 0, 0, 0, 7, 0, 1, 0x0E, 0, 0x62, 0xF1, 0x90] 2 0]

/-- The read request. -/
def readRequest : Call where
  conn := 0
  sentBytes := [0x02, 0xFD, 0x80, 0x01, 0, 0, 0, 7, 0x0E, 0, 0, 1, 0x22, 0xF1, 0x90]
  request := [0x02, 0xFD, 0x80, 0x01, 0, 0, 0, 7, 0x0E, 0, 0, 1, 0x22, 0xF1, 0x90]

def fiveOfTwenty : Config where
  ecuResponseTimeout := 5
  ecuPendingMaxWait := 20

theorem exchange_outcome_lateAnswer :
    ∃ e, Transition.exec (step fiveOfTwenty readRequest)
        (start fiveOfTwenty { ecuConn := some 0 } 0) lateAnswer = some e
      ∧ e.phase = .returned true ∧ e.session.ecuConn = some 0 := by
  have hrun : (Transition.exec (step fiveOfTwenty readRequest)
      (start fiveOfTwenty { ecuConn := some 0 } 0) lateAnswer).map
        (fun e => (e.phase, e.written.getLast?))
      = some (.returned true, some (.relayed
          [0x02, 0xFD, 0x80, 0x01, 0, 0, 0, 7, 0, 1, 0x0E, 0, 0x62, 0xF1, 0x90])) := by decide
  obtain ⟨e, he, heq⟩ := Option.map_eq_some_iff.mp hrun
  obtain ⟨hphase, hlast⟩ := Prod.mk.inj heq
  have hended : Ended e.written := ⟨_, hlast, .inl ⟨by decide, by decide⟩⟩
  have hsettles := exchange_outcome fiveOfTwenty readRequest { ecuConn := some 0 } 0 lateAnswer e he
  exact ⟨e, he, hphase, ((hsettles.leg true hphase).2.2 rfl).mpr hended⟩

end DoipPlayground.EdgeNode.Outcome
