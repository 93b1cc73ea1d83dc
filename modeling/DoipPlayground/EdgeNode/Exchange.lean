/-
  DoipPlayground.EdgeNode.Exchange
  ────────────────────────────────
  **THE DIAGNOSTIC EXCHANGES OF ONE SESSION WITH ONE TARGET** (`session.py`:
  `_handle_diagnostic`, `_exchange_with_ecu`, `_recv_ecu_frame`,
  `_connect_to_ecu`, `_retire_ecu_leg`).

  The session loop takes one request after the other; `Phase` says where it
  is suspended.  Beside it run the read task of `_recv_ecu_frame`, the
  background readers of the connections and the ECU itself.  An `Event`
  lets one of them run to its next await, or lets time or an error strike.

  The middleware relays what it is given; it may take its time.

  Bookkeeping that steers nothing: `World.sent` and `Emitted.requests`
  number the requests, and `Outgoing.relayed` says which one a frame was
  relayed for.
-/
import DoipPlayground.Lib.Run
import DoipPlayground.EdgeNode.EcuClient
import Mathlib.Logic.Function.Basic

namespace DoipPlayground.EdgeNode.Ecu

open Wire

/-! ## §1. Configuration and frames. -/

/-- What an exchange reads of the configuration. -/
structure Config where
  maxPayloadBytes : Nat := 4096
  strictResponseMatching : Bool := true
  /-- `tester_logical_addr` of the session. -/
  testerAddr : Nat
  /-- `lookup_by_ecu_addr`: the logical address of the target, if it is routed. -/
  entry : Option Nat
  deriving Repr

/-- The SID of a response: `SID | 0x40`, or `0x7F SID`.  Without strict
matching any response passes. -/
def responseMatches (strict : Bool) (ecuRaw : Bytes) (requestSid : Option UInt8) : Bool :=
  match requestSid with
  | none => true
  | some sid =>
      if ecuRaw.length < 13 then true
      else if ecuRaw[12]? = some (sid ||| 0x40) then true
      else if ecuRaw[12]? = some 0x7F ∧ ecuRaw[13]? = some sid then true
      else !strict

/-- A Diagnostic Message carrying `7F <sid> 78`. -/
def isResponsePending (ecuRaw : Bytes) : Bool :=
  15 ≤ ecuRaw.length && ptype ecuRaw == ptDiagnosticMessage && ecuRaw[12]? == some 0x7F
    && ecuRaw[14]? == some 0x78

/-- `_send_diag_nack`: the addresses of the request, swapped. -/
def diagNack (request : Bytes) (nackCode : UInt8) : Bytes :=
  buildFrame ptDiagnosticNegativeAck
    ((request.drop 10).take 2 ++ (request.drop 8).take 2 ++ [nackCode])

def nackUnknownTarget : UInt8 := 0x03
def nackTargetUnreachable : UInt8 := 0x06

/-- Shortest Diagnostic Message the session's own `_read_frame` lets pass:
addresses plus one byte. -/
def requestMinLen : Nat := 13

/-! ## §2. State. -/

/-- The identity of an `ECUConnection` object. -/
abbrev ConnId := Nat

/-- The local variables of `_exchange_with_ecu`. -/
structure Exchange where
  conn : ConnId
  request : Bytes
  accepted : Bool := false
  pendingSeen : Bool := false
  deriving DecidableEq, Repr

def Exchange.requestSid (x : Exchange) : Option UInt8 := x.request[12]?

/-- What follows a relayed frame. -/
inductive After where
  /-- An ACK: `continue`. -/
  | ack
  /-- `pending_seen = True`, then `continue`. -/
  | pending
  /-- `return`. -/
  | finish (completed : Bool)
  deriving DecidableEq, Repr

/-- Where the session loop is suspended. -/
inductive Phase where
  | idle
  /-- `await self.middleware_chain.run(pkt, "tester_to_ecu", self)` -/
  | forwarding (request : Bytes)
  /-- Retiring a cached connection that is no longer connected. -/
  | replacing (request : Bytes) (conn : ConnId)
  /-- In `_do_routing_activation`, with so many rounds left. -/
  | connecting (request : Bytes) (conn : ConnId) (rounds : Nat)
  /-- The connection is there, and `_handle_diagnostic` is to resume. -/
  | opened (request : Bytes) (conn : ConnId)
  /-- Sending the NACK of `_connect_to_ecu`. -/
  | refusing
  /-- `await asyncio.wait_for(ecu_conn.send(sent_bytes), ...)` -/
  | sending (x : Exchange) (written : Bool)
  /-- At the head of the loop. -/
  | looping (x : Exchange)
  /-- `await asyncio.wait_for(asyncio.shield(task), ...)` -/
  | receiving (x : Exchange)
  /-- `await self.middleware_chain.run(ecu_pkt, "ecu_to_tester", self)` -/
  | relaying (x : Exchange) (f : Emitted) (after : After)
  /-- The relayed frame is being drained. -/
  | draining (x : Exchange) (after : After)
  /-- Sending the NACK of the exchange, from the `except` clause or not. -/
  | nacking (x : Exchange) (handled : Bool)
  /-- `finally`: retiring the connection, and the loop goes on or not. -/
  | retiring (conn : ConnId) (alive : Bool)
  | ended
  deriving DecidableEq, Repr

/-- The entry of `_ecu_read_tasks` and `_ecu_read_owners`. -/
structure ReadTask where
  owner : ConnId
  /-- What `recv` returned, once it did; `some none` if it raised. -/
  result : Option (Option Emitted) := none
  deriving DecidableEq, Repr

/-- What is written to the tester. -/
inductive Outgoing where
  /-- A frame of the ECU, relayed during the exchange of the request with this number. -/
  | relayed (request : Nat) (f : Emitted)
  | nack (raw : Bytes)
  deriving DecidableEq, Repr

structure World where
  phase : Phase := .idle
  closing : Bool := false
  /-- `_ecu_conns.get(target)` -/
  ecuConn : Option ConnId := none
  readTask : Option ReadTask := none
  conns : ConnId → ECUConnection := fun _ => {}
  nextConn : ConnId := 0
  /-- The requests written to the ECU so far. -/
  sent : Nat := 0
  tester : List Outgoing := []

namespace World

def setConn (w : World) (c : ConnId) (conn : ECUConnection) : World :=
  { w with conns := Function.update w.conns c conn }

/-- `_send_raw` -/
def sendRaw (w : World) (out : Outgoing) : World :=
  if w.closing then w else { w with tester := w.tester ++ [out] }

/-! ## §3. The exchange. -/

/-- `_retire_ecu_leg`: detach the connection, drain its read, close it. -/
def retireEcuLeg (w : World) (c : ConnId) : World :=
  { w.setConn c (w.conns c).close with
    ecuConn := if w.ecuConn = some c then none else w.ecuConn
    readTask := if w.readTask.any (fun t => t.owner = c) then none else w.readTask }

/-- The exchange returns: the connection is kept if it was completed. -/
def leaveExchange (w : World) (x : Exchange) (completed : Bool) : World :=
  { w with phase := if completed then .idle else .retiring x.conn true }

/-- The exchange failed: a synthetic NACK, unless the ECU has answered. -/
def nackUnanswered (w : World) (x : Exchange) (handled : Bool) : World :=
  if x.accepted ∨ w.closing then w.leaveExchange x false
  else
    { w.sendRaw (.nack (diagNack x.request nackTargetUnreachable)) with
      phase := .nacking x handled }

/-- `except Exception` -/
def fail (w : World) (x : Exchange) : World := w.nackUnanswered x true

/-- The ECU stays silent. -/
def giveUp (w : World) (x : Exchange) : World := w.nackUnanswered x false

/-- After `_relay_ecu_frame`. -/
def continueWith (w : World) (x : Exchange) : After → World
  | .ack => { w with phase := .looping x }
  | .pending => { w with phase := .looping { x with pendingSeen := true } }
  | .finish completed => w.leaveExchange x completed

/-- `_relay_ecu_frame`, up to the middleware. -/
def relayEcuFrame (w : World) (x : Exchange) (f : Emitted) (after : After) : World :=
  if w.closing then w.continueWith x after else { w with phase := .relaying x f after }

/-- The body of the loop for a received frame. -/
def handleEcuFrame (cfg : Config) (w : World) (x : Exchange) (f : Emitted) : World :=
  if ptype f.raw = ptDiagnosticPositiveAck then
    if x.accepted then w.leaveExchange x false
    else w.relayEcuFrame { x with accepted := true } f .ack
  else if ptype f.raw = ptDiagnosticMessage then
    if responseMatches cfg.strictResponseMatching f.raw x.requestSid = false then
      w.leaveExchange x false
    else
      let pending := isResponsePending f.raw
      let pendingMatches := pending && x.requestSid.isSome && f.raw[13]? == x.requestSid
      w.relayEcuFrame { x with accepted := true } f
        (if pendingMatches then .pending else .finish (!pending))
  else w.relayEcuFrame x f (.finish (ptype f.raw == ptDiagnosticNegativeAck))

/-- `_recv_ecu_frame`, up to its await. -/
def recvEcuFrame (w : World) (x : Exchange) : World :=
  match w.readTask with
  | some t => if t.owner = x.conn then { w with phase := .receiving x } else w.fail x
  | none => { w with readTask := some { owner := x.conn }, phase := .receiving x }

/-- `finally` of `_recv_ecu_frame`: a task that is done is forgotten. -/
def popDoneTask (w : World) : World :=
  if w.readTask.any (fun t => t.result.isSome) then { w with readTask := none } else w

/-- The wait elapsed.  A task that finished just then goes with its frame. -/
def recvTimeout (w : World) (x : Exchange) : World :=
  if x.pendingSeen then { w.popDoneTask with phase := .looping x } else w.popDoneTask.giveUp x

/-! ## §4. Connecting. -/

/-- No connection: a NACK to the tester. -/
def refuse (w : World) (request : Bytes) (nackCode : UInt8) : World :=
  if w.closing then { w with phase := .idle }
  else { w.sendRaw (.nack (diagNack request nackCode)) with phase := .refusing }

/-- `_connect_to_ecu`, up to the first frame of the handshake. -/
def connectToEcu (cfg : Config) (w : World) (request : Bytes) : World :=
  if w.closing then { w with phase := .idle }
  else
    match cfg.entry with
    | none => w.refuse request nackUnknownTarget
    | some _ =>
        { w.setConn w.nextConn { connected := true } with
          nextConn := w.nextConn + 1
          phase := .connecting request w.nextConn activationRounds }

/-- The setup failed. -/
def connectFails (w : World) (request : Bytes) (c : ConnId) : World :=
  (w.setConn c (w.conns c).close).refuse request nackTargetUnreachable

/-- The setup succeeded: cache the connection. -/
def connected (w : World) (request : Bytes) (c : ConnId) : World :=
  if w.closing then { w.setConn c (w.conns c).close with phase := .idle }
  else
    { w.setConn c (w.conns c).activate with
      ecuConn := some c
      phase := .opened request c }

/-- `_exchange_with_ecu`, up to its `send`. -/
def startExchange (w : World) (request : Bytes) (c : ConnId) : World :=
  if w.closing then { w with phase := .idle }
  else { w with phase := .sending { conn := c, request := request } false }

/-- The handshake reads a frame. -/
def handshake (cfg : Config) (w : World) (request : Bytes) (c : ConnId) (rounds : Nat)
    (f : Emitted) (rest : List Emitted) : World :=
  let w := w.setConn c { w.conns c with transit := rest }
  match readFrame cfg.maxPayloadBytes f.raw, cfg.entry with
  | .ok _, some ecuAddr =>
      match activationReply cfg.testerAddr ecuAddr f.raw with
      | .active => w.connected request c
      | .denied => w.connectFails request c
      | .again =>
          if rounds ≤ 1 then w.connectFails request c
          else { w with phase := .connecting request c (rounds - 1) }
  | _, _ => w.connectFails request c

/-- `_handle_diagnostic` behind the middleware: find a connection. -/
def forward (cfg : Config) (w : World) (request : Bytes) : World :=
  if w.closing then { w with phase := .idle }
  else
    match w.ecuConn with
    | none => w.connectToEcu cfg request
    | some c =>
        if (w.conns c).connected then w.startExchange request c
        else { w with phase := .replacing request c }

/-- `send` writes the request, or raises on a dead connection. -/
def writeRequest (w : World) (x : Exchange) : World :=
  if (w.conns x.conn).terminal = false ∧ (w.conns x.conn).connected then
    { w with sent := w.sent + 1, phase := .sending x true }
  else w.fail x

end World

/-! ## §5. Events and steps. -/

inductive Event where
  /-- The session loop reads a Diagnostic Message for the target. -/
  | request (raw : Bytes)
  /-- The middleware has passed the request on. -/
  | forwarded
  /-- The handshake reads the next frame of the ECU. -/
  | handshake
  /-- The setup fails: no TCP connection, EOF, a timeout. -/
  | connectFails
  /-- `_handle_diagnostic` resumes with its connection. -/
  | opened
  /-- `send` gets to run. -/
  | write
  /-- What the session is sending is drained. -/
  | drained
  /-- Sending it raises. -/
  | raises
  /-- The head of the loop, with budget left. -/
  | receive
  /-- The head of the loop, with the budget used up. -/
  | exhausted
  /-- The read task gets an item. -/
  | readRuns
  /-- `_recv_ecu_frame` returns the result of its task. -/
  | received
  /-- `_recv_ecu_frame` times out. -/
  | timeout
  /-- The middleware has passed the frame on. -/
  | relay
  /-- The retirement is over. -/
  | retired
  /-- `CancelledError` strikes the session loop. -/
  | cancel
  /-- `_closing` is set. -/
  | close
  /-- The ECU emits a frame. -/
  | emit (c : ConnId) (raw : Bytes)
  /-- The background reader reads a frame. -/
  | readerRuns (c : ConnId)
  /-- EOF, an error, or the end of its task stops the background reader. -/
  | readerEnds (c : ConnId)
  deriving DecidableEq, Repr

open World in
/-- Let one of them run to its next await. -/
def step (cfg : Config) (w : World) : Event → Option World
  | .request raw =>
      if w.phase = .idle ∧ requestMinLen ≤ raw.length then
        some { w with phase := .forwarding raw }
      else none
  | .forwarded =>
      match w.phase with
      | .forwarding request => some (w.forward cfg request)
      | _ => none
  | .handshake =>
      match w.phase with
      | .connecting request c rounds =>
          match (w.conns c).transit with
          | f :: rest => some (w.handshake cfg request c rounds f rest)
          | [] => none
      | _ => none
  | .connectFails =>
      match w.phase with
      | .connecting request c _ => some (w.connectFails request c)
      | _ => none
  | .opened =>
      match w.phase with
      | .opened request c => some (w.startExchange request c)
      | _ => none
  | .write =>
      match w.phase with
      | .sending x false => some (w.writeRequest x)
      | _ => none
  | .drained =>
      match w.phase with
      | .refusing => some { w with phase := .idle }
      | .sending x true => some { w with phase := .looping x }
      | .draining x after => some (w.continueWith x after)
      | .nacking x _ => some (w.leaveExchange x false)
      | _ => none
  | .raises =>
      match w.phase with
      | .refusing => some { w with phase := .ended }
      | .sending x _ => some (w.fail x)
      | .draining x _ => some (w.fail x)
      | .nacking x false => some (w.fail x)
      -- raised inside the `except` clause: `finally`, and the session ends
      | .nacking x true => some { w with phase := .retiring x.conn false }
      | _ => none
  | .receive =>
      match w.phase with
      | .looping x => if w.closing then some (w.leaveExchange x false) else some (w.recvEcuFrame x)
      | _ => none
  | .exhausted =>
      match w.phase with
      | .looping x => if w.closing then some (w.leaveExchange x false) else some (w.giveUp x)
      | _ => none
  | .readRuns =>
      match w.readTask with
      | some ⟨owner, none⟩ =>
          ((w.conns owner).recv).map (fun r =>
            { w.setConn owner r.1 with readTask := some ⟨owner, some r.2⟩ })
      | _ => none
  | .received =>
      match w.phase, w.readTask with
      | .receiving x, some ⟨_, some (some f)⟩ =>
          some ({ w with readTask := none }.handleEcuFrame cfg x f)
      | .receiving x, some ⟨_, some none⟩ => some ({ w with readTask := none }.fail x)
      | _, _ => none
  | .timeout =>
      match w.phase with
      | .receiving x => some (w.recvTimeout x)
      | _ => none
  | .relay =>
      match w.phase with
      | .relaying x f after =>
          some { w.sendRaw (.relayed w.sent f) with phase := .draining x after }
      | _ => none
  | .retired =>
      match w.phase with
      | .replacing request c => some ((w.retireEcuLeg c).connectToEcu cfg request)
      | .retiring c alive =>
          some { w.retireEcuLeg c with phase := if alive then .idle else .ended }
      | _ => none
  | .cancel =>
      match w.phase with
      | .sending x _ | .looping x | .receiving x | .relaying x _ _ | .draining x _
      | .nacking x _ => some { w with phase := .retiring x.conn false }
      | .retiring c _ => some { w with phase := .retiring c false }
      | .connecting _ c _ => some { w.setConn c (w.conns c).close with phase := .ended }
      -- the retirement of an old connection is finished first
      | .replacing _ c => some { w with phase := .retiring c false }
      | .ended => none
      | _ => some { w with phase := .ended }
  | .close => some { w with closing := true }
  | .emit c raw =>
      if c < w.nextConn ∧ IsFrame raw then
        some (w.setConn c ((w.conns c).emit ⟨raw, w.sent⟩))
      else none
  | .readerRuns c =>
      ((w.conns c).backgroundReader cfg.maxPayloadBytes).map (w.setConn c)
  | .readerEnds c =>
      if (w.conns c).reading then some (w.setConn c (w.conns c).readerEnds) else none

end DoipPlayground.EdgeNode.Ecu
