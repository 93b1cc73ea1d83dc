/-
  DoipPlayground.Interop.Conversation
  ───────────────────────────────────
  **AN EDGENODE SESSION IN CONVERSATION WITH A VIRTUALECU.**

  The session has one leg to the ECU at a time: a socket of the ECU that has
  activated its address.  Requests go one way, in order, and what the ECU
  writes goes the other.  Both sides take steps as they like; the other
  sockets of the ECU do what they want.

  A request is one complete Diagnostic Message, and the background reader
  answers the probes of the ECU whenever it likes.  A frame is taken when
  `recv` returns it, or is lost when the wait elapses at that moment.

    • `step` — the two sides and what is on its way,
    • `Resting` (of `Turns`) — nothing of a request is left at the ECU,
    • `conversation_in_sync` — a leg that is kept is in step.
-/
import DoipPlayground.EdgeNode.ExchangeOutcome
import DoipPlayground.Interop.FinalResponse
import DoipPlayground.Interop.Turns

namespace DoipPlayground.Interop.Conversation

open Wire VirtualEcu

/-! ## §1. The two sides. -/

structure Config where
  edge : EdgeNode.Outcome.Config
  ecu : EcuConfig

/-- An exchange under way. -/
structure Current where
  call : EdgeNode.Outcome.Call
  exchange : EdgeNode.Outcome.Exchange
  /-- `loop.time()` at its start. -/
  start : Nat
  /-- `send` has written the request. -/
  written : Bool := false
  /-- How many frames the leg had brought before. -/
  before : Nat
  /-- What the ECU has dispatched on the leg since. -/
  dispatched : List Dispatch := []

/-- An exchange that has returned. -/
structure Finished where
  call : EdgeNode.Outcome.Call
  /-- What the ECU dispatched on the leg meanwhile. -/
  dispatched : List Dispatch
  /-- What the ECU wrote on the leg meanwhile. -/
  answered : List Bytes
  /-- What `recv` has returned. -/
  received : List Bytes
  /-- What the tester was sent. -/
  written : List EdgeNode.Outcome.Outgoing
  completed : Bool

structure Node where
  ecu : World
  /-- The leg is its `ecuConn`, a socket of the ECU. -/
  session : EdgeNode.Outcome.Session := { ecuConn := none }
  now : Nat := 0
  /-- Requests on their way to the ECU. -/
  transit : List Bytes := []
  /-- How many frames of the leg were taken. -/
  taken : Nat := 0
  current : Option Current := none
  log : List Finished := []

/-- A complete Diagnostic Message. -/
def OneMessage (raw : Bytes) : Prop :=
  ptype raw = ptDiagnosticMessage ∧ raw.length = 8 + declaredLen raw

instance (raw : Bytes) : Decidable (OneMessage raw) := inferInstanceAs (Decidable (_ ∧ _))

/-- The socket has activated its tester's address, and nothing else. -/
def Ready (s : Session) : Prop :=
  (s.pump = .reading ∨ s.pump = .sending .loop) ∧ s.udsQueue = [] ∧ s.worker = .idle

instance (s : Session) : Decidable (Ready s) := inferInstanceAs (Decidable (_ ∧ _ ∧ _))

inductive Event where
  /-- A step of the ECU. -/
  | ecu (e : VirtualEcu.Event)
  /-- The leg is set up. -/
  | connected (i : Sid)
  /-- A request of the tester, and what the middleware makes of it. -/
  | request (raw sent : Bytes)
  /-- `send` writes the request. -/
  | write
  /-- A step of the exchange. -/
  | exchange (e : EdgeNode.Outcome.Event)
  /-- The leg is closed between two exchanges. -/
  | retire
  /-- Time passes between two exchanges. -/
  | idle (ticks : Nat)
  deriving DecidableEq, Repr

namespace Node

/-- The frames of a socket that its client gets to see. -/
def frames (n : Node) (i : Sid) : List Bytes := heard (n.ecu.sessions i)

/-- What the pumps of the ECU may read: on the leg, the requests in order and
Alive Check Responses. -/
def admits (n : Node) : VirtualEcu.Event → Option (List Bytes)
  | .frame i raw =>
      if n.session.ecuConn = some i then
        if ptype raw = ptAliveCheckResponse then some n.transit
        else
          match n.transit with
          | [] => none
          | sent :: rest => if raw = sent then some rest else none
      else some n.transit
  | _ => some n.transit

/-- How many frames are taken after the step of the exchange. -/
def takes (n : Node) (x : Current) : EdgeNode.Outcome.Event → Option Nat
  | .frame raw _ _ =>
      if (n.frames x.call.conn)[n.taken]? = some raw then some (n.taken + 1) else none
  | .timeout _ true => some (min (n.taken + 1) (n.frames x.call.conn).length)
  | .sent _ _ => if x.written then some n.taken else none
  | _ => some n.taken

/-- The exchange under way, with what a step of the ECU dispatches on its leg. -/
def watched (n : Node) (e : VirtualEcu.Event) : Option Current :=
  n.current.map fun x => { x with
    dispatched := x.dispatched
      ++ dispatches n.ecu.core (n.ecu.sessions x.call.conn) x.call.conn e }

/-- The exchange has returned. -/
def finish (n : Node) (x : Current) (e : EdgeNode.Outcome.Exchange) (taken : Nat)
    (completed : Bool) : Node :=
  { n with
    session := e.session
    now := e.now
    transit := if completed then n.transit else []
    taken := taken
    current := none
    log := n.log ++
      [⟨x.call, x.dispatched, (n.frames x.call.conn).drop x.before, e.received, e.written,
        completed⟩] }

end Node

def step (cfg : Config) (n : Node) : Event → Option Node
  | .ecu e => do
      let transit ← n.admits e
      let ecu ← VirtualEcu.step cfg.ecu n.ecu e
      some { n with ecu, transit, current := n.watched e }
  | .connected i =>
      if n.current.isNone ∧ n.session.ecuConn = none ∧ n.session.closed i = false
          ∧ Ready (n.ecu.sessions i) then
        some { n with
          session := { n.session with ecuConn := some i }
          transit := []
          taken := (n.frames i).length }
      else none
  | .request raw sent =>
      match n.current, n.session.ecuConn with
      | none, some i =>
          if OneMessage sent then
            some { n with current := some {
              call := ⟨i, sent, raw⟩
              exchange := EdgeNode.Outcome.start cfg.edge n.session n.now
              start := n.now
              before := n.taken } }
          else none
      | _, _ => none
  | .write =>
      match n.current with
      | some x =>
          if x.written = false then
            some { n with
              transit := n.transit ++ [x.call.sentBytes]
              current := some { x with written := true } }
          else none
      | none => none
  | .exchange e =>
      match n.current with
      | some x => do
          let taken ← n.takes x e
          let exchange ← EdgeNode.Outcome.step cfg.edge x.call x.exchange e
          match exchange.phase with
          | .returned completed => some (n.finish x exchange taken completed)
          | _ => some { n with taken, current := some { x with exchange } }
      | none => none
  | .retire =>
      match n.current, n.session.ecuConn with
      | none, some i => some { n with session := n.session.retireEcuLeg i, transit := [] }
      | _, _ => none
  | .idle ticks => if n.current.isNone then some { n with now := n.now + ticks } else none

/-! ## §2. A step of the exchange. -/

section Edge

open EdgeNode.Outcome EdgeNode.Outcome.Exchange
open EdgeNode.Ecu (responseMatches isResponsePending)

variable {edge : EdgeNode.Outcome.Config} {x : Call} {e e' : Exchange}

/-- Nothing is received, nothing is completed, and the leg is kept or gone. -/
structure Unfinished (e e' : Exchange) : Prop where
  received : e'.received = e.received
  notCompleted : e'.phase ≠ .returned true
  ecuConn : e'.session.ecuConn = e.session.ecuConn ∨ e'.session.ecuConn = none
  written : e'.phase = .returned false ∨ e'.written = e.written

theorem unfinished_leave (x : Call) (e : Exchange) : Unfinished e (e.leave x false) := by
  refine ⟨rfl, by simp [leave], ?_, .inl rfl⟩
  have hretired : (e.leave x false).session.ecuConn
      = if e.session.ecuConn = some x.conn then none else e.session.ecuConn := rfl
  rw [hretired]
  split
  · exact .inr rfl
  · exact .inl rfl

theorem unfinished_nack (x : Call) (e : Exchange) :
    Unfinished e ((e.sendDiagNack x).leave x false) := by
  have hleave := unfinished_leave x (e.sendDiagNack x)
  exact ⟨hleave.received, hleave.notCompleted, hleave.ecuConn, .inl rfl⟩

theorem unfinished_fail (x : Call) (e : Exchange) : Unfinished e (e.fail x) := by
  unfold Exchange.fail
  split
  · exact unfinished_leave x e
  · exact unfinished_nack x e

theorem unfinished_giveUp (x : Call) (e : Exchange) : Unfinished e (e.giveUp x) := by
  unfold giveUp
  split
  · exact unfinished_leave x e
  split
  · have hfail := unfinished_fail x (e.sendDiagNack x)
    refine ⟨hfail.received, hfail.notCompleted, hfail.ecuConn, .inl ?_⟩
    unfold Exchange.fail
    split <;> rfl
  · exact unfinished_nack x e

theorem unfinished_loopHead (x : Call) (e : Exchange) : Unfinished e (e.loopHead x) := by
  unfold loopHead
  split
  · exact unfinished_giveUp x e
  split
  · split
    · exact ⟨rfl, by simp, .inl rfl, .inr rfl⟩
    · exact unfinished_fail x e
  · exact ⟨rfl, by simp, .inl rfl, .inr rfl⟩

/-- A frame is taken: it is relayed, or the exchange is over without an answer. -/
structure Taken (e : Exchange) (raw : Bytes) (e' : Exchange) : Prop where
  received : e'.received = e.received ++ [raw]
  ecuConn : e'.session.ecuConn = e.session.ecuConn ∨ e'.session.ecuConn = none
  written : e'.phase = .returned false ∨ e'.written = e.written ++ [.relayed raw]
  final : e'.phase = .returned true → EdgeNode.Outcome.Final raw

theorem taken_of_unfinished {raw : Bytes} {d : Exchange} (h : Unfinished d e')
    (hreceived : d.received = e.received ++ [raw]) (hconn : d.session.ecuConn = e.session.ecuConn)
    (hwritten : e'.phase = .returned false ∨ d.written = e.written ++ [.relayed raw]) :
    Taken e raw e' where
  received := h.received.trans hreceived
  ecuConn := hconn ▸ h.ecuConn
  written := by
    rcases h.written with hphase | heq
    · exact .inl hphase
    · rcases hwritten with hphase | hd
      · exact .inl hphase
      · exact .inr (heq.trans hd)
  final := fun hphase => absurd hphase h.notCompleted

/-- The frame is relayed, and the exchange is over. -/
theorem taken_relay {raw : Bytes} {d : Exchange} (completed : Bool)
    (hreceived : d.received = e.received ++ [raw]) (hconn : d.session.ecuConn = e.session.ecuConn)
    (hwritten : d.written = e.written ++ [.relayed raw])
    (hfinal : completed = true → EdgeNode.Outcome.Final raw) :
    Taken e raw (d.leave x completed) where
  received := hreceived
  ecuConn := by
    cases completed with
    | true => exact .inl hconn
    | false => exact hconn ▸ (unfinished_leave x d).ecuConn
  written := .inr hwritten
  final := by
    intro hphase
    cases completed with
    | true => exact hfinal rfl
    | false => cases hphase

theorem taken_handleEcuFrame (edge : EdgeNode.Outcome.Config) (x : Call) (e : Exchange)
    (raw : Bytes) :
    Taken e raw
      (Exchange.handleEcuFrame x { e with received := e.received ++ [raw] } edge raw) := by
  unfold Exchange.handleEcuFrame
  split
  · split
    · exact taken_of_unfinished (unfinished_leave x _) rfl rfl (.inl rfl)
    · exact taken_of_unfinished (unfinished_loopHead x _) rfl rfl (.inr rfl)
  rename_i hack
  split
  · rename_i hdiag
    split
    · exact taken_of_unfinished (unfinished_leave x _) rfl rfl (.inl rfl)
    dsimp only
    split
    · exact taken_of_unfinished (unfinished_loopHead x _) rfl rfl (.inr rfl)
    · refine taken_relay _ rfl rfl rfl ?_
      intro hcompleted
      exact .inl ⟨hdiag, by simpa using hcompleted⟩
  · refine taken_relay _ rfl rfl rfl ?_
    intro hcompleted
    exact .inr (beq_iff_eq.mp hcompleted)

/-- What a step of the exchange takes. -/
theorem step_takes {event : EdgeNode.Outcome.Event}
    (h : EdgeNode.Outcome.step edge x e event = some e') :
    (∃ raw ticks late, event = .frame raw ticks late ∧ Taken e raw e')
      ∨ (∀ raw ticks late, event ≠ .frame raw ticks late) ∧ Unfinished e e' := by
  cases event with
  | sent ticks late =>
      obtain ⟨_, heq⟩ := Option.ite_none_right_eq_some.mp h
      cases heq
      have hhead := unfinished_loopHead x (e.elapse (ticks + late))
      exact .inr ⟨by simp, hhead.received, hhead.notCompleted, hhead.ecuConn, hhead.written⟩
  | sendRaises ticks =>
      obtain ⟨_, heq⟩ := Option.ite_none_right_eq_some.mp h
      cases heq
      have hfail := unfinished_fail x (e.elapse ticks)
      exact .inr ⟨by simp, hfail.received, hfail.notCompleted, hfail.ecuConn, hfail.written⟩
  | frame raw ticks late =>
      obtain ⟨_, heq⟩ := Option.ite_none_right_eq_some.mp h
      cases heq
      have htaken := taken_handleEcuFrame edge x ((e.elapse (ticks + late)).collect true) raw
      exact .inl ⟨raw, ticks, late, rfl, htaken.received, htaken.ecuConn, htaken.written, htaken.final⟩
  | timeout late done =>
      obtain ⟨_, heq⟩ := Option.ite_none_right_eq_some.mp h
      refine .inr ⟨by simp, ?_⟩
      split at heq
      · cases heq
        have hhead := unfinished_loopHead x ((e.elapse (e.wait edge + late)).collect done)
        exact ⟨hhead.received, hhead.notCompleted, hhead.ecuConn, hhead.written⟩
      · cases heq
        have hgive := unfinished_giveUp x ((e.elapse (e.wait edge + late)).collect done)
        exact ⟨hgive.received, hgive.notCompleted, hgive.ecuConn, hgive.written⟩
  | recvRaises ticks late =>
      obtain ⟨_, heq⟩ := Option.ite_none_right_eq_some.mp h
      cases heq
      have hfail := unfinished_fail x ((e.elapse (ticks + late)).collect true)
      exact .inr ⟨by simp, hfail.received, hfail.notCompleted, hfail.ecuConn, hfail.written⟩

end Edge

/-! ## §3. The last frame of an answer. -/

variable {cfg : Config} {ecu : EcuConfig} {sent : Bytes} {s : Session} {answered : List Bytes}
  {dispatched : List Dispatch}

theorem not_final_ack (ecu : EcuConfig) (sent : Bytes) :
    ¬ EdgeNode.Outcome.Final (ackFrame ecu sent) := by
  have htype : EdgeNode.ptype (ackFrame ecu sent) = ptDiagnosticPositiveAck :=
    ptype_buildFrame (by decide) _ _
  rintro (⟨hdiag, _⟩ | hnack)
  · rw [htype] at hdiag
    cases hdiag
  · rw [htype] at hnack
    cases hnack

theorem not_final_pending {request : UdsRequest} {version : UInt8} {k : Nat} {frame : Bytes}
    (h : frame ∈ pendingFrames ecu request version k) : ¬ EdgeNode.Outcome.Final frame := by
  rw [List.eq_of_mem_replicate h]
  have hpending : EdgeNode.Ecu.isResponsePending
      (udsFrame ecu request version (request.negative nrcResponsePending)) = true := by
    refine (isResponsePending_responseFrame version _).trans ?_
    simp [VirtualEcu.isResponsePending, UdsRequest.negative]
  have htype : EdgeNode.ptype (udsFrame ecu request version (request.negative nrcResponsePending))
      = ptDiagnosticMessage := ptype_buildFrame (by decide) _ _
  rintro (⟨_, hnot⟩ | hnack)
  · rw [hpending] at hnot
    cases hnot
  · rw [htype] at hnack
    cases hnack

/-- Only the last frame of an answer is final. -/
theorem answer_final_last {n : Nat} {frame : Bytes} (h : Answer ecu sent dispatched answered)
    (hframe : answered[n]? = some frame) (hfinal : EdgeNode.Outcome.Final frame) :
    n + 1 = answered.length := by
  have hearly : ∀ k, frame ∉ ackFrame ecu sent
      :: pendingFrames ecu (requestOf ecu sent) (sent.headD 0) k := by
    intro k hmem
    rcases List.mem_cons.mp hmem with rfl | hmem
    · exact not_final_ack ecu sent hfinal
    · exact not_final_pending hmem hfinal
  have hlast : ∀ (k : Nat) (last : Bytes),
      (ackFrame ecu sent :: pendingFrames ecu (requestOf ecu sent) (sent.headD 0) k
        ++ [last])[n]? = some frame →
      n + 1 = (ackFrame ecu sent :: pendingFrames ecu (requestOf ecu sent) (sent.headD 0) k
        ++ [last]).length := by
    intro k last hframe
    have hlt := (List.getElem?_eq_some_iff.mp hframe).1
    rw [List.length_append, List.length_singleton] at hlt ⊢
    by_cases hn : n < (ackFrame ecu sent
        :: pendingFrames ecu (requestOf ecu sent) (sent.headD 0) k).length
    · rw [List.getElem?_append_left hn] at hframe
      exact absurd (List.mem_of_getElem? hframe) (hearly k)
    · omega
  cases h with
  | silence => cases hframe
  | nack code _ =>
      have hlt := (List.getElem?_eq_some_iff.mp hframe).1
      rw [List.length_singleton] at hlt ⊢
      omega
  | pending k => exact absurd (List.mem_of_getElem? hframe) (hearly k)
  | gaveUp _ => exact hlast _ _ hframe
  | final k _ _ _ response _ => exact hlast k _ hframe

/-- Once the last frame is out the socket is at rest. -/
theorem turn_resting {frame : Bytes} (h : Turn ecu sent dispatched s answered)
    (hframe : frame ∈ answered) (hfinal : EdgeNode.Outcome.Final frame) : Resting s := by
  cases h with
  | acked _ _ _ =>
      rw [List.mem_singleton.mp hframe] at hfinal
      exact absurd hfinal (not_final_ack ecu sent)
  | queued _ _ _ =>
      rw [List.mem_singleton.mp hframe] at hfinal
      exact absurd hfinal (not_final_ack ecu sent)
  | serving _ _ _ _ _ k _ =>
      rcases List.mem_cons.mp hframe with rfl | hmem
      · exact absurd hfinal (not_final_ack ecu sent)
      · exact absurd hfinal (not_final_pending hmem)
  | settled hrest _ _ => exact hrest

/-! ## §4. The invariant. -/

/-- How far the leg is with the request of the exchange, and what has come
back. -/
inductive Engaged (ecu : EcuConfig) (sent : Bytes) (dispatched : List Dispatch) (s : Session)
    (written : Bool) (transit : List Bytes) : List Bytes → Prop
  | unsent (hwritten : written = false) (htransit : transit = []) (hrest : Resting s) :
      Engaged ecu sent dispatched s written transit []
  | sent (hwritten : written = true) (htransit : transit = [sent]) (hrest : Resting s) :
      Engaged ecu sent dispatched s written transit []
  | read (hwritten : written = true) (htransit : transit = []) (answer : List Bytes)
      (hturn : Turn ecu sent dispatched s answer) :
      Engaged ecu sent dispatched s written transit answer

theorem Engaged.answer {written : Bool} {transit : List Bytes}
    (h : Engaged ecu sent dispatched s written transit answered) :
    Answer ecu sent dispatched answered := by
  cases h with
  | unsent => exact .silence
  | sent => exact .silence
  | read _ _ _ hturn => exact hturn.answer

theorem Engaged.plain {written : Bool} {transit : List Bytes}
    (h : Engaged ecu sent dispatched s written transit answered) : Plain s.pump := by
  cases h with
  | unsent _ _ hrest => exact hrest.pump.1
  | sent _ _ hrest => exact hrest.pump.1
  | read _ _ _ hturn => exact hturn.plain

/-- During an exchange. -/
structure Talking (cfg : Config) (n : Node) (x : Current) : Prop where
  leg : n.session.ecuConn = some x.call.conn
  message : OneMessage x.call.sentBytes
  reached : EdgeNode.Outcome.Reached cfg.edge x.call n.session x.start x.exchange
  running : ∀ completed, x.exchange.phase ≠ .returned completed
  engaged : ∃ old answer, n.frames x.call.conn = old ++ answer ∧ old.length = x.before
    ∧ Engaged cfg.ecu x.call.sentBytes x.dispatched (n.ecu.sessions x.call.conn) x.written
      n.transit answer
  before : x.before ≤ n.taken
  taken : n.taken ≤ (n.frames x.call.conn).length
  received : List.Sublist x.exchange.received
    (((n.frames x.call.conn).drop x.before).take (n.taken - x.before))
  written : x.exchange.written = x.exchange.received.map .relayed

/-- Between two exchanges: nothing is on its way, in either direction. -/
structure AtRest (n : Node) (i : Sid) : Prop where
  transit : n.transit = []
  taken : n.taken = (n.frames i).length
  resting : Resting (n.ecu.sessions i)

/-- What an exchange that has returned says of the ECU. -/
structure Honest (cfg : Config) (f : Finished) : Prop where
  answer : Answer cfg.ecu f.call.sentBytes f.dispatched f.answered
  relayed : List.Sublist (f.written.filterMap EdgeNode.Outcome.Outgoing.frame?) f.answered
  completed : f.completed = true → f.written = f.received.map .relayed
    ∧ ∃ last, f.received.getLast? = some last ∧ f.answered.getLast? = some last
      ∧ EdgeNode.Outcome.Final last

structure Synced (cfg : Config) (n : Node) : Prop where
  rest : n.current = none → ∀ i, n.session.ecuConn = some i → AtRest n i
  talking : ∀ x, n.current = some x → Talking cfg n x
  log : ∀ f ∈ n.log, Honest cfg f

/-! ## §5. The steps. -/

variable {n n' : Node} {x : Current} {i : Sid}

/-- What was taken before does not change with what comes after. -/
theorem take_frames {before taken : Nat} {frames more : List Bytes} (hbefore : before ≤ taken)
    (htaken : taken ≤ frames.length) :
    ((frames ++ more).drop before).take (taken - before)
      = (frames.drop before).take (taken - before) := by
  rw [List.drop_append_of_le_length (by omega), List.take_append_of_le_length]
  rw [List.length_drop]
  omega

/-- The leg reads the first request on its way, or at most an Alive Check
Response. -/
theorem admits_cases {e : VirtualEcu.Event} {transit : List Bytes}
    (hleg : n.session.ecuConn = some i) (h : n.admits e = some transit) :
    (transit = n.transit ∧ ∀ raw, e = .frame i raw → ptype raw = ptAliveCheckResponse)
      ∨ ∃ raw, e = .frame i raw ∧ n.transit = raw :: transit := by
  unfold Node.admits at h
  split at h
  · rename_i j raw
    split at h
    · rename_i hj
      rw [hleg, Option.some.injEq] at hj
      subst hj
      split at h
      · rename_i htype
        cases h
        refine .inl ⟨rfl, ?_⟩
        intro raw' heq
        cases heq
        exact htype
      · split at h
        · cases h
        · rename_i first rest htransit
          obtain ⟨rfl, heq⟩ := Option.ite_none_right_eq_some.mp h
          cases heq
          exact .inr ⟨raw, rfl, htransit⟩
    · rename_i hj
      cases h
      refine .inl ⟨rfl, ?_⟩
      intro raw' heq
      cases heq
      exact absurd hleg hj
  · rename_i hno
    cases h
    exact .inl ⟨rfl, fun raw heq => absurd heq (hno i raw)⟩

theorem alive_not_message {raw : Bytes} (h : ptype raw = ptAliveCheckResponse) :
    ptype raw ≠ ptDiagnosticMessage := by
  rw [h]
  decide

/-- A step of the ECU between two exchanges. -/
theorem atRest_ecu {e : VirtualEcu.Event} {transit : List Bytes} {w : World}
    (h : AtRest n i) (hleg : n.session.ecuConn = some i) (hadmits : n.admits e = some transit)
    (hstep : VirtualEcu.step ecu n.ecu e = some w) :
    AtRest { n with ecu := w, transit := transit, current := n.watched e } i := by
  rcases admits_cases hleg hadmits with ⟨htransit, halive⟩ | ⟨raw, _, hhead⟩
  · have hmove := step_move hstep h.resting.pump.1 fun raw heq => .inr (halive raw heq)
    obtain ⟨hheard, hrest⟩ :=
      h.resting.step hmove fun raw heq => alive_not_message (halive raw heq)
    refine ⟨htransit.trans h.transit, ?_, hrest⟩
    show n.taken = (heard (w.sessions i)).length
    rw [hheard]
    exact h.taken
  · rw [h.transit] at hhead
    cases hhead

/-- A step of the ECU during an exchange. -/
theorem engaged_ecu {e : VirtualEcu.Event} {transit : List Bytes} {w : World} {written : Bool}
    (hleg : n.session.ecuConn = some i) (hmessage : OneMessage sent)
    (h : Engaged ecu sent dispatched (n.ecu.sessions i) written n.transit answered)
    (hadmits : n.admits e = some transit) (hstep : VirtualEcu.step ecu n.ecu e = some w) :
    ∃ more, heard (w.sessions i) = n.frames i ++ more
      ∧ Engaged ecu sent (dispatched ++ dispatches n.ecu.core (n.ecu.sessions i) i e)
        (w.sessions i) written transit (answered ++ more) := by
  rcases admits_cases hleg hadmits with ⟨htransit, halive⟩ | ⟨raw, rfl, hhead⟩
  · have hmove := step_move hstep h.plain fun raw heq => .inr (halive raw heq)
    have hno : ∀ raw, e = .frame i raw → ptype raw ≠ ptDiagnosticMessage :=
      fun raw heq => alive_not_message (halive raw heq)
    rw [htransit]
    have hidle : Resting (n.ecu.sessions i) →
        heard (w.sessions i) = n.frames i ++ [] ∧ Resting (w.sessions i) := by
      intro hrest
      obtain ⟨hheard, hstill⟩ := hrest.step hmove hno
      exact ⟨hheard.trans (List.append_nil _).symm, hstill⟩
    cases h with
    | unsent hwritten hempty hrest =>
        exact ⟨[], (hidle hrest).1, .unsent hwritten hempty (hidle hrest).2⟩
    | sent hwritten hone hrest =>
        exact ⟨[], (hidle hrest).1, .sent hwritten hone (hidle hrest).2⟩
    | read hwritten hempty _ hturn =>
        obtain ⟨more, hheard, hturn'⟩ := hturn.step hmove hno
        exact ⟨more, hheard, .read hwritten hempty _ hturn'⟩
  · -- the request itself is read
    cases h with
    | unsent _ hempty _ =>
        rw [hempty] at hhead
        cases hhead
    | sent hwritten hone hrest =>
        rw [hone] at hhead
        cases hhead
        have hmove := step_move hstep hrest.pump.1 fun raw' heq => by
          cases heq
          exact .inl hmessage.1
        obtain ⟨frames, hheard, hturn⟩ := hrest.reads hmove hmessage.1
        exact ⟨frames, hheard, .read hwritten rfl _ hturn⟩
    | read _ hempty _ _ =>
        rw [hempty] at hhead
        cases hhead

theorem synced_ecu {e : VirtualEcu.Event} {transit : List Bytes} {w : World} (h : Synced cfg n)
    (hadmits : n.admits e = some transit) (hstep : VirtualEcu.step cfg.ecu n.ecu e = some w) :
    Synced cfg { n with ecu := w, transit := transit, current := n.watched e } where
  rest := by
    -- no exchange is on: the leg is at rest, and stays so
    intro hidle i hleg
    have hidle' : n.current = none := Option.map_eq_none_iff.mp hidle
    exact atRest_ecu (h.rest hidle' i hleg) hleg hadmits hstep
  talking := by
    intro y hy
    obtain ⟨x, hx, rfl⟩ := Option.map_eq_some_iff.mp hy
    have ht := h.talking x hx
    -- what the socket writes is a part of its answer
    obtain ⟨old, answered, hframes, hold, hengaged⟩ := ht.engaged
    obtain ⟨more, hheard, hengaged'⟩ :=
      engaged_ecu ht.leg ht.message hengaged hadmits hstep
    refine ⟨ht.leg, ht.message, ht.reached, ht.running,
      ⟨old, answered ++ more, ?_, hold, hengaged'⟩, ht.before, ?_, ?_, ht.written⟩
    · show heard (w.sessions x.call.conn) = _
      rw [hheard, hframes, List.append_assoc]
    · show n.taken ≤ (heard (w.sessions x.call.conn)).length
      rw [hheard, List.length_append]
      exact Nat.le_add_right_of_le ht.taken
    -- the exchange has taken no more than it had
    · show List.Sublist _ (((heard (w.sessions x.call.conn)).drop _).take _)
      rw [hheard, take_frames ht.before ht.taken]
      exact ht.received
  log := h.log

/-- What an exchange has taken goes on with the frames of the leg. -/
structure Progress (n : Node) (x : Current) (e : EdgeNode.Outcome.Exchange) (taken : Nat) :
    Prop where
  le : x.before ≤ taken
  bound : taken ≤ (n.frames x.call.conn).length
  received : List.Sublist e.received
    (((n.frames x.call.conn).drop x.before).take (taken - x.before))
  written : e.phase = .returned false ∨ e.written = e.received.map .relayed
  ecuConn : e.session.ecuConn = some x.call.conn ∨ e.session.ecuConn = none
  final : e.phase = .returned true → ∃ raw, (n.frames x.call.conn)[n.taken]? = some raw
    ∧ taken = n.taken + 1 ∧ e.received.getLast? = some raw ∧ EdgeNode.Outcome.Final raw

theorem progress {e : EdgeNode.Outcome.Event} {d : EdgeNode.Outcome.Exchange} {taken : Nat}
    (h : Talking cfg n x) (htakes : n.takes x e = some taken)
    (hstep : EdgeNode.Outcome.step cfg.edge x.call x.exchange e = some d) :
    Progress n x d taken := by
  have hconn : x.exchange.session.ecuConn = some x.call.conn :=
    (h.reached.running h.running).ecuConn.trans h.leg
  have hbefore := h.before
  have hbound := h.taken
  rcases step_takes hstep with ⟨raw, ticks, late, rfl, htaken⟩ | ⟨hno, hunfinished⟩
  · obtain ⟨hframe, heq⟩ := Option.ite_none_right_eq_some.mp htakes
    cases heq
    have hlt := (List.getElem?_eq_some_iff.mp hframe).1
    refine ⟨by omega, by omega, ?_, ?_, ?_, ?_⟩
    · -- the frame is the next one of the leg
      have hnext : ((n.frames x.call.conn).drop x.before)[n.taken - x.before]? = some raw := by
        rw [List.getElem?_drop, Nat.add_sub_cancel' hbefore]
        exact hframe
      have hmore : n.taken + 1 - x.before = (n.taken - x.before) + 1 := by omega
      rw [htaken.received, hmore, List.take_add_one, hnext]
      exact h.received.append (.refl _)
    · rcases htaken.written with hphase | heq
      · exact .inl hphase
      · right
        rw [heq, htaken.received, h.written, List.map_append]
        rfl
    · rw [← hconn]
      exact htaken.ecuConn
    · intro hphase
      exact ⟨raw, hframe, rfl, by rw [htaken.received, List.getLast?_concat], htaken.final hphase⟩
  -- any other event takes nothing, or frames that the reader drops
  · have hmono : n.taken ≤ taken ∧ taken ≤ (n.frames x.call.conn).length := by
      unfold Node.takes at htakes
      split at htakes
      · exact absurd rfl (hno _ _ _)
      · cases htakes
        omega
      · obtain ⟨_, heq⟩ := Option.ite_none_right_eq_some.mp htakes
        cases heq
        omega
      · cases htakes
        omega
    refine ⟨by omega, hmono.2, ?_, ?_, ?_, fun hphase => absurd hphase hunfinished.notCompleted⟩
    · rw [hunfinished.received]
      exact h.received.trans (List.take_sublist_take_left (by omega))
    · rcases hunfinished.written with hphase | heq
      · exact .inl hphase
      · right
        rw [heq, hunfinished.received, h.written]
    · rw [← hconn]
      exact hunfinished.ecuConn

/-- **The exchange that completes is in step**: its last frame is the last of
the answer. -/
theorem completed_last {d : EdgeNode.Outcome.Exchange} {taken : Nat} (h : Talking cfg n x)
    (hprogress : Progress n x d taken) (hphase : d.phase = .returned true) :
    ∃ last, d.received.getLast? = some last
      ∧ ((n.frames x.call.conn).drop x.before).getLast? = some last
      ∧ EdgeNode.Outcome.Final last ∧ taken = (n.frames x.call.conn).length
      ∧ n.transit = [] ∧ Resting (n.ecu.sessions x.call.conn) := by
  obtain ⟨last, hframe, htaken, hreceived, hfinal⟩ := hprogress.final hphase
  -- the answer is what has been heard since the exchange began
  obtain ⟨old, answered, hframes, hold, hengaged⟩ := h.engaged
  have hbefore := h.before
  have hlast : answered[n.taken - x.before]? = some last := by
    rw [hframes, List.getElem?_append_right (by omega), hold] at hframe
    exact hframe
  have hend := answer_final_last hengaged.answer hlast hfinal
  have hlength : (n.frames x.call.conn).length = x.before + answered.length := by
    rw [hframes, List.length_append, hold]
  have hanswered : (n.frames x.call.conn).drop x.before = answered := by
    rw [hframes, ← hold]
    exact List.drop_left
  refine ⟨last, hreceived, ?_, hfinal, by omega, ?_⟩
  · rw [hanswered, List.getLast?_eq_getElem?, ← hend, Nat.add_sub_cancel]
    exact hlast
  -- a final frame has come, so the request has been read, and its turn is over
  · cases hengaged with
    | unsent => cases hlast
    | sent => cases hlast
    | read _ htransit _ hturn =>
        exact ⟨htransit, turn_resting hturn (List.mem_of_getElem? hlast) hfinal⟩

/-- The exchange goes on. -/
theorem talking_goes_on {e : EdgeNode.Outcome.Event} {d : EdgeNode.Outcome.Exchange} {taken : Nat}
    (h : Talking cfg n x) (htakes : n.takes x e = some taken)
    (hstep : EdgeNode.Outcome.step cfg.edge x.call x.exchange e = some d)
    (hrunning : ∀ completed, d.phase ≠ .returned completed) :
    Talking cfg { n with taken := taken, current := some { x with exchange := d } }
      { x with exchange := d } where
  leg := h.leg
  message := h.message
  reached := .inr (EdgeNode.Outcome.run_step h.reached hstep)
  running := hrunning
  engaged := h.engaged
  before := (progress h htakes hstep).le
  taken := (progress h htakes hstep).bound
  received := (progress h htakes hstep).received
  written := (progress h htakes hstep).written.resolve_left (hrunning false)

/-- The exchange returns. -/
theorem synced_finish {e : EdgeNode.Outcome.Event} {d : EdgeNode.Outcome.Exchange} {taken : Nat}
    {completed : Bool} (hs : Synced cfg n) (h : Talking cfg n x)
    (htakes : n.takes x e = some taken)
    (hstep : EdgeNode.Outcome.step cfg.edge x.call x.exchange e = some d)
    (hphase : d.phase = .returned completed) : Synced cfg (n.finish x d taken completed) := by
  have hprogress := progress h htakes hstep
  have hreached : EdgeNode.Outcome.Reached cfg.edge x.call n.session x.start d :=
    .inr (EdgeNode.Outcome.run_step h.reached hstep)
  have hreturned : EdgeNode.Outcome.Returned cfg.edge x.call n.session completed d := by
    -- of the ways to have come here, only one has returned
    rcases hreached with ⟨_, hsending⟩ | hwaits | ⟨c, hreturned⟩
    · rw [hsending] at hphase
      cases hphase
    · rw [hwaits.phase] at hphase
      cases hphase
    · have heq := hreturned.phase.symm.trans hphase
      cases heq
      exact hreturned
  refine ⟨?_, (fun x hx => by cases hx), ?_⟩
  · intro _ i hleg
    cases completed with
    | true =>
        obtain ⟨last, _, _, _, htaken, htransit, hrest⟩ := completed_last h hprogress hphase
        -- the final response is the last frame, so nothing is left on the connection
        have hi : i = x.call.conn := by
          have hkept := (hreturned.kept rfl).1.trans h.leg
          exact Option.some.inj (Eq.trans (Eq.symm hleg) hkept)
        subst hi
        exact ⟨htransit, htaken, hrest⟩
    | false =>
        rcases hprogress.ecuConn with hsame | hnone
        -- the leg of an exchange that failed is retired
        · exact absurd hsame (hreturned.retired rfl).1
        · have hleg' : d.session.ecuConn = some i := hleg
          rw [hnone] at hleg'
          cases hleg'
  -- the log has one entry more
  · intro f hf
    rcases List.mem_append.mp hf with hf | hf
    · exact hs.log f hf
    rw [List.mem_singleton.mp hf]
    obtain ⟨old, answered, hframes, hold, hengaged⟩ := h.engaged
    have hanswered : (n.frames x.call.conn).drop x.before = answered := by
      rw [hframes, ← hold]
      exact List.drop_left
    -- its answer, what was relayed of it, and how it ended
    refine ⟨?_, ?_, ?_⟩
    · show Answer _ _ _ ((n.frames x.call.conn).drop x.before)
      rw [hanswered]
      exact hengaged.answer
    · obtain ⟨raws, nacks, hwritten, hsub, _, hnacks⟩ := hreturned.output
      show List.Sublist (d.written.filterMap _) _
      rw [hwritten, EdgeNode.Outcome.frames_output hnacks]
      exact (hsub.trans hprogress.received).trans (List.take_sublist _ _)
    · intro hcompleted
      have hdone : d.phase = .returned true := hphase.trans (congrArg _ hcompleted)
      obtain ⟨last, hreceived, hlast, hfinal, _⟩ := completed_last h hprogress hdone
      refine ⟨hprogress.written.resolve_left ?_, last, hreceived, hlast, hfinal⟩
      rw [hdone]
      simp

theorem resting_of_ready (h : Ready s) : Resting s := by
  obtain ⟨hpump, hqueue, hworker⟩ := h
  refine ⟨?_, hqueue, by rw [hworker]; trivial⟩
  rcases hpump with hpump | hpump
  · rw [hpump]
    exact ⟨trivial, id⟩
  · rw [hpump]
    exact ⟨trivial, id⟩

/-- The step lemma. -/
theorem synced_step (e : Event) (h : Synced cfg n) (hstep : step cfg n e = some n') :
    Synced cfg n' := by
  cases e with
  | ecu e =>
      obtain ⟨transit, hadmits, hrest⟩ := Option.bind_eq_some_iff.mp hstep
      obtain ⟨w, hecu, heq⟩ := Option.bind_eq_some_iff.mp hrest
      cases heq
      exact synced_ecu h hadmits hecu
  | connected i =>
      obtain ⟨⟨hidle, _, _, hready⟩, heq⟩ := Option.ite_none_right_eq_some.mp hstep
      cases heq
      -- a new leg is at rest, as nothing has been said on it
      refine ⟨?_, fun x hx => ?_, h.log⟩
      · intro _ j hj
        cases hj
        exact ⟨rfl, rfl, resting_of_ready hready⟩
      · have hx' : n.current = some x := hx
        rw [hx'] at hidle
        cases hidle
  | request raw sent =>
      dsimp only [step] at hstep
      split at hstep
      · rename_i i hidle hleg
        obtain ⟨hmessage, heq⟩ := Option.ite_none_right_eq_some.mp hstep
        -- the request meets a socket at rest, and no frame on its way
        cases heq
        have hrest := h.rest hidle i hleg
        refine ⟨(fun hno => by cases hno), fun x hx => ?_, h.log⟩
        cases hx
        refine ⟨hleg, hmessage, EdgeNode.Outcome.reached_start, by simp [EdgeNode.Outcome.start],
          ⟨n.frames i, [], (List.append_nil _).symm, hrest.taken.symm,
            .unsent rfl hrest.transit hrest.resting⟩, Nat.le_refl _, Nat.le_of_eq hrest.taken,
          List.nil_sublist _, rfl⟩
      · cases hstep
  | write =>
      dsimp only [step] at hstep
      -- the request is on its way now, and not before
      split at hstep
      · rename_i x hx
        obtain ⟨hunwritten, heq⟩ := Option.ite_none_right_eq_some.mp hstep
        cases heq
        have ht := h.talking x hx
        refine ⟨(fun hno => by cases hno), fun y hy => ?_, h.log⟩
        cases hy
        obtain ⟨old, answered, hframes, hold, hengaged⟩ := ht.engaged
        refine ⟨ht.leg, ht.message, ht.reached, ht.running, ⟨old, answered, hframes, hold, ?_⟩,
          ht.before, ht.taken, ht.received, ht.written⟩
        cases hengaged with
        | unsent _ htransit hrest =>
            refine .sent rfl ?_ hrest
            show n.transit ++ _ = _
            rw [htransit]
            rfl
        | sent hwritten _ _ =>
            rw [hunwritten] at hwritten
            cases hwritten
        | read hwritten _ _ _ =>
            rw [hunwritten] at hwritten
            cases hwritten
      · cases hstep
  | exchange e =>
      dsimp only [step] at hstep
      split at hstep
      · rename_i x hx
        have ht := h.talking x hx
        obtain ⟨taken, htakes, hrest⟩ := Option.bind_eq_some_iff.mp hstep
        obtain ⟨d, hedge, hmatch⟩ := Option.bind_eq_some_iff.mp hrest
        -- the exchange returns, or goes on
        split at hmatch
        · rename_i completed hphase
          cases hmatch
          exact synced_finish h ht htakes hedge hphase
        · rename_i hrunning
          cases hmatch
          refine ⟨(fun hno => by cases hno), fun y hy => ?_, h.log⟩
          cases hy
          exact talking_goes_on ht htakes hedge hrunning
      · cases hstep
  | retire =>
      dsimp only [step] at hstep
      split at hstep
      · rename_i i hidle hleg
        cases hstep
        refine ⟨fun _ j hj => ?_, (fun x hx => absurd hx (by rw [hidle]; simp)), h.log⟩
        -- without a leg there is nothing to be at rest
        have hnone : (n.session.retireEcuLeg i).ecuConn = none := if_pos hleg
        have hj' : (n.session.retireEcuLeg i).ecuConn = some j := hj
        rw [hnone] at hj'
        cases hj'
      · cases hstep
  | idle ticks =>
      obtain ⟨hidle, heq⟩ := Option.ite_none_right_eq_some.mp hstep
      cases heq
      -- time alone changes nothing
      refine ⟨fun hno i hleg => ?_, fun x hx => ?_, h.log⟩
      · have hrest := h.rest hno i hleg
        exact ⟨hrest.transit, hrest.taken, hrest.resting⟩
      · have hx' : n.current = some x := hx
        rw [hx'] at hidle
        cases hidle

/-- The node before anything has happened. -/
def Node.init (ecu : EcuConfig) : Node := { ecu := World.init ecu }

theorem synced_init (cfg : Config) : Synced cfg (Node.init cfg.ecu) :=
  ⟨(fun _ _ hleg => by cases hleg), (fun _ hx => by cases hx), (fun _ hf => by cases hf)⟩

/-! ## §6. The conversation. -/

/-- **The conversation stays in step.**  Whatever the order in which the two
sides and the other sockets of the ECU take their steps: between two
exchanges a leg that is kept has no request on its way, no frame that was
not taken, and a socket at rest.  So what the ECU writes during an exchange
is the answer to its request: its final frame, if there is one, is what
`resolve_uds` makes of a dispatch of that very request, at the state and the
core it met, or the give-up behind all the promises there may be.  A part of
the answer is what the tester is sent; an exchange that keeps the leg has
relayed all it received, up to the very last frame of the answer. -/
theorem conversation_in_sync (cfg : Config) (es : List Event) (n : Node)
    (h : Transition.exec (step cfg) (Node.init cfg.ecu) es = some n) :
    (n.current = none → ∀ i, n.session.ecuConn = some i →
      n.transit = [] ∧ n.taken = (n.frames i).length ∧ Resting (n.ecu.sessions i))
    ∧ ∀ f ∈ n.log, Answer cfg.ecu f.call.sentBytes f.dispatched f.answered
      ∧ List.Sublist (f.written.filterMap EdgeNode.Outcome.Outgoing.frame?) f.answered
      ∧ (f.completed = true → f.written = f.received.map .relayed
        ∧ ∃ last, f.received.getLast? = some last ∧ f.answered.getLast? = some last
          ∧ EdgeNode.Outcome.Final last) := by
  have hsynced : Synced cfg n :=
    Transition.exec_invariant (Synced cfg) (fun n e n' hs hstep => synced_step e hs hstep) es
      _ n (synced_init cfg) h
  refine ⟨fun hidle i hleg => ?_, fun f hf => ?_⟩
  · have hrest := hsynced.rest hidle i hleg
    exact ⟨hrest.transit, hrest.taken, hrest.resting⟩
  · have hhonest := hsynced.log f hf
    exact ⟨hhonest.answer, hhonest.relayed, hhonest.completed⟩

def byDefault : Config where
  edge := { ecuResponseTimeout := 2000, ecuPendingMaxWait := 5000 }
  ecu := {}

def present : Bytes := diagnosticFrame 0x0E00 [0x3E, 0x00]

/-- A leg is set up, and a TesterPresent is answered. -/
def talk : List Event :=
  (asks 0 0x0E00 ++ [VirtualEcu.Event.sent 0]).map .ecu
    ++ [.connected 0, .request present present, .write, .exchange (.sent 1 0),
      .ecu (.frame 0 present), .exchange (.frame (ackFrame {} present) 1 0), .ecu (.sent 0),
      .ecu (.takeRequest 0), .ecu (.dispatch 0), .ecu (.resolve 0 .resume),
      .exchange (.frame (udsFrame {} (requestOf {} present) ver [0x7E, 0x00]) 1 0)]

theorem conversation_in_sync_present :
    ∃ n, Transition.exec (step byDefault) (Node.init byDefault.ecu) talk = some n
      ∧ n.log.map (fun f => (f.completed, f.dispatched.length)) = [(true, 1)]
      ∧ ∀ i, n.session.ecuConn = some i →
        n.transit = [] ∧ n.taken = (n.frames i).length ∧ Resting (n.ecu.sessions i) := by
  have hlog : (Transition.exec (step byDefault) (Node.init byDefault.ecu) talk).map
      (fun n => (n.log.map fun f => (f.completed, f.dispatched.length), n.current.isNone))
        = some ([(true, 1)], true) := by decide
  obtain ⟨n, hn, heq⟩ := Option.map_eq_some_iff.mp hlog
  have hidle : n.current = none := Option.isNone_iff_eq_none.mp (congrArg Prod.snd heq)
  exact ⟨n, hn, congrArg Prod.fst heq, (conversation_in_sync byDefault talk n hn).1 hidle⟩

end DoipPlayground.Interop.Conversation
