/-
  DoipPlayground.VirtualEcu.Session
  ─────────────────────────────────
  **THE CONNECTIONS OF ONE VIRTUALECU: pumps, workers, probes and timers**
  (`session.py`).

  Each accepted socket is an `EcuSession` with two coroutines: the pump
  (`run` and `_loop`) reads frames, the worker (`_uds_worker`) serves the
  queued requests.  `Pump`, `Worker` and `ProbePhase` say where a coroutine
  is suspended; an `Event` lets one of them run to its next await, so a
  list of events is one interleaving.

  Plugins are left out, except that an activation hook may take its time
  and deny.  Without them a dispatch is one step of its own task.

  Bookkeeping that steers nothing: `Session.awaiting`, `Probe.answered`,
  `World.evictedAnswered` (which response answers which probe) and
  `Session.released` (the socket gave its state back).
-/
import DoipPlayground.Lib.OwnerTable
import DoipPlayground.VirtualEcu.Doip
import DoipPlayground.VirtualEcu.Services
import DoipPlayground.VirtualEcu.ResponsePending

namespace DoipPlayground.VirtualEcu

open Wire

/-- The identity of an `EcuSession` object. -/
abbrev Sid := Nat

/-- The identity of an `asyncio.Event` object. -/
abbrev EventId := Nat

/-! ## §1. The registry. -/

/-- `SessionRegistry._sessions` -/
abbrev SessionRegistry := OwnerTable SA Sid

namespace SessionRegistry

abbrev register (r : SessionRegistry) (logicalAddr : SA) (i : Sid) : SessionRegistry :=
  OwnerTable.register r logicalAddr i

/-- Remove an address only if it still points at this session. -/
abbrev unregister (r : SessionRegistry) (logicalAddr : SA) (i : Sid) : SessionRegistry :=
  OwnerTable.unregister r logicalAddr i

abbrev len (r : SessionRegistry) : Nat := OwnerTable.count r

end SessionRegistry

/-! ## §2. Sessions. -/

/-- What the pump does once the frame it sends is drained. -/
inductive AfterSend where
  /-- Read the next frame. -/
  | loop
  /-- `_CloseConnection`, or a `return` from the loop. -/
  | close
  /-- Queue the request whose Positive ACK this is. -/
  | enqueue (request : UdsRequest) (version : UInt8)
  deriving DecidableEq, Repr

/-- Where `run` is suspended. -/
inductive Pump where
  | reading
  /-- `await ...resolve_routing_activation(...)` -/
  | hooking (src activationType : Nat)
  /-- `await existing.probe_alive(...)` -/
  | probing (src : SA) (existing : Sid)
  | sending (next : AfterSend)
  /-- `finally`: waiting for the supervisor. -/
  | stoppingSupervisor
  /-- `finally`: waiting for the worker. -/
  | stoppingWorker
  /-- `finally`: waiting for the writer. -/
  | closingWriter
  | ended
  deriving DecidableEq, Repr

/-- Where `_uds_worker` is. -/
inductive Worker where
  /-- `await self._uds_queue.get()` -/
  | idle
  /-- In `resolve_uds` with the state the session held when it started. -/
  | serving (request : UdsRequest) (version : UInt8) (st : StateId) (p2 : P2)
  /-- Cancelled, with a dispatch task that may still run before it learns. -/
  | doomed (request : UdsRequest) (st : StateId)
  | stopped
  deriving DecidableEq, Repr

/-- Where a `probe_alive` call is. -/
inductive ProbePhase where
  /-- Sending the Alive Check Request. -/
  | sending
  /-- Waiting for an event, with a timeout. -/
  | waiting (event : EventId)
  /-- Returned, not yet picked up by the prober. -/
  | done (alive : Bool)
  deriving DecidableEq, Repr

/-- One call of `probe_alive`. -/
structure Probe where
  /-- The event it created. -/
  event : EventId
  phase : ProbePhase
  /-- The pump read the response to its request while it was under way. -/
  answered : Bool
  deriving DecidableEq, Repr

/-- The request is out and the call has not returned. -/
def Probe.inFlight (p : Probe) : Bool :=
  match p.phase with
  | .done _ => false
  | _ => true

structure Session where
  activated : Bool := false
  testerAddr : Option SA := none
  state : Option StateId := none
  aliveProbePending : Bool := false
  aliveProbeEvent : Option EventId := none
  udsQueue : List (UdsRequest × UInt8) := []
  currentReqVersion : UInt8 := ver
  finalized : Bool := false
  pump : Pump := .reading
  worker : Worker := .idle
  /-- The frames written to the socket. -/
  wire : List Bytes := []
  /-- The probers whose request is written and whose response is not read
  yet, in the order of the requests. -/
  awaiting : List Sid := []
  /-- `maybe_drop_session_state` was called for this socket. -/
  released : Bool := false
  deriving DecidableEq, Repr

structure World where
  /-- Sockets are numbered in the order of their acceptance. -/
  opened : Nat
  sessions : Sid → Session
  registry : SessionRegistry
  core : EcuCore
  /-- Which `asyncio.Event`s are set; those from `nextEvent` on are not created. -/
  events : EventId → Bool
  nextEvent : EventId
  /-- `probes i o` is the call of `o.probe_alive` that `i` awaits. -/
  probes : Sid → Sid → Option Probe
  /-- Sessions evicted after a probe whose response was read. -/
  evictedAnswered : List Sid

def World.init (cfg : EcuConfig) : World where
  opened := 0
  sessions := fun _ => {}
  registry := ∅
  core := EcuCore.init cfg
  events := fun _ => false
  nextEvent := 0
  probes := fun _ _ => none
  evictedAnswered := []

/-- The cap on queued Diagnostic Messages. -/
def udsQueueMaxsize : Nat := 8

/-- Slack on top of `max_payload_bytes` for a declared length. -/
def frameLenSlack : Nat := 65536

namespace World

def set (w : World) (i : Sid) (s : Session) : World :=
  { w with sessions := Function.update w.sessions i s }

def setPump (w : World) (i : Sid) (p : Pump) : World :=
  w.set i { w.sessions i with pump := p }

def setWorker (w : World) (i : Sid) (k : Worker) : World :=
  w.set i { w.sessions i with worker := k }

/-- `self._writer.write(raw)` -/
def write (w : World) (i : Sid) (raw : Bytes) : World :=
  w.set i { w.sessions i with wire := (w.sessions i).wire ++ [raw] }

/-- `_send_response` from the pump, with what follows the drain. -/
def sendResponse (w : World) (i : Sid) (payloadType : Nat) (payload : Bytes)
    (next : AfterSend) : World :=
  (w.write i (buildFrame payloadType payload (w.sessions i).currentReqVersion)).setPump i
    (.sending next)

/-! ## §3. Teardown. -/

/-- `_finalize`: no further effect than the flag, the writer closes. -/
def finalize (w : World) (i : Sid) : World :=
  w.set i { w.sessions i with finalized := true }

/-- `task.cancel()` on the worker.  A dispatch task that has not run yet
may run once more before the worker is resumed and cancels it. -/
def cancelWorker (w : World) (i : Sid) : World :=
  w.setWorker i
    (match (w.sessions i).worker with
     | .serving request _ st p2 =>
         if p2.handler = none ∧ p2.abandoned = false then .doomed request st else .stopped
     | .doomed request st => .doomed request st
     | _ => .stopped)

/-- `maybe_drop_session_state(self.tester_addr, self.state)`, if there is a state. -/
def releaseState (cfg : EcuConfig) (w : World) (i : Sid) : World :=
  { w.set i { w.sessions i with released := true } with
    core :=
      match (w.sessions i).state with
      | some st => w.core.maybeDropSessionState cfg (w.sessions i).testerAddr st
      | none => w.core }

def unregister (w : World) (i : Sid) : World :=
  { w with
    registry :=
      match (w.sessions i).testerAddr with
      | some sa => SessionRegistry.unregister w.registry sa i
      | none => w.registry }

/-- `evict`, synchronous; `answered` is the bookkeeping of the probe that led to it. -/
def evict (cfg : EcuConfig) (w : World) (i : Sid) (answered : Bool) : World :=
  let w := (((w.finalize i).cancelWorker i).releaseState cfg i).unregister i
  { w with evictedAnswered := if answered then i :: w.evictedAnswered else w.evictedAnswered }

/-- The `finally` of `probe_alive` and its return. -/
def endProbe (w : World) (i owner : Sid) (p : Probe) (alive : Bool) : World :=
  { w.set owner { w.sessions owner with aliveProbePending := false, aliveProbeEvent := none } with
    probes := fun j o => if j = i ∧ o = owner then some { p with phase := .done alive }
      else w.probes j o }

/-- Forget the result of a probe the prober has picked up. -/
def takeProbe (w : World) (i owner : Sid) : World :=
  { w with probes := fun j o => if j = i ∧ o = owner then none else w.probes j o }

/-- `run` leaves the loop.  A probe it awaits is cancelled with it. -/
def leaveLoop (w : World) (i : Sid) : World :=
  let w :=
    match (w.sessions i).pump with
    | .probing _ existing =>
        match w.probes i existing with
        | some p =>
            if p.inFlight then (w.endProbe i existing p false).takeProbe i existing
            else w.takeProbe i existing
        | none => w
    | _ => w
  (w.finalize i).setPump i .stoppingSupervisor

/-! ## §4. Routing activation. -/

/-- 13-byte Routing Activation Response payload. -/
def activationResponse (cfg : EcuConfig) (srcAddr : SA) (code : UInt8) : Bytes :=
  packH srcAddr ++ packH cfg.doip.ecuLogicalAddr ++ [code] ++ [0, 0, 0, 0] ++ [0, 0, 0, 0]

/-- Send an activation response; every code but 0x10 closes the socket. -/
def respondActivation (cfg : EcuConfig) (w : World) (i : Sid) (src : SA) (code : UInt8) : World :=
  w.sendResponse i ptRoutingActResponse (activationResponse cfg src code)
    (if code = 0x10 then .loop else .close)

/-- Bind the socket to the tester and confirm. -/
def commitActivation (cfg : EcuConfig) (w : World) (i : Sid) (src : SA) : World :=
  let (core, st) := w.core.sessionFor cfg src
  let w :=
    { w.set i { w.sessions i with testerAddr := some src, activated := true, state := some st } with
      core := core
      registry := SessionRegistry.register w.registry src i }
  w.respondActivation cfg i src 0x10

/-- Past the conflict check: the count of registered sockets. -/
def checkCapacity (cfg : EcuConfig) (w : World) (i : Sid) (src : SA) : World :=
  if cfg.doip.maxConcurrentSessions ≤ SessionRegistry.len w.registry then
    w.respondActivation cfg i src 0x01
  else w.commitActivation cfg i src

/-- `owner.probe_alive` up to the drain of its request. -/
def startProbe (w : World) (i owner : Sid) : World :=
  let s := w.sessions owner
  { w.set owner { s with
      aliveProbePending := true
      aliveProbeEvent := some w.nextEvent
      wire := s.wire ++ [buildFrame ptAliveCheckRequest [] ver]
      awaiting := s.awaiting ++ [i] } with
    events := Function.update w.events w.nextEvent false
    nextEvent := w.nextEvent + 1
    probes := fun j o => if j = i ∧ o = owner then some ⟨w.nextEvent, .sending, false⟩
      else w.probes j o }

/-- `_handle_routing_activation` once the hooks have answered. -/
def handleRoutingActivation (cfg : EcuConfig) (w : World) (i : Sid) (src activationType : Nat)
    (override : Option UInt8) : World :=
  let s := w.sessions i
  match override.filter (fun code => code != 0x10) with
  | some code => (w.sendResponse i ptRoutingActResponse (activationResponse cfg src code) .close)
  | none =>
      if ¬ (cfg.doip.testerAddrRange.1 ≤ src ∧ src ≤ cfg.doip.testerAddrRange.2) then
        w.respondActivation cfg i src 0x00
      else if activationType ≠ 0x00 ∧ activationType ≠ 0x01 then
        w.respondActivation cfg i src 0x06
      else if s.activated ∧ s.testerAddr ≠ some src then w.respondActivation cfg i src 0x02
      else if s.activated ∧ s.testerAddr = some src then w.respondActivation cfg i src 0x10
      else
        match w.registry.lookup src with
        | none => w.checkCapacity cfg i src
        | some existing =>
            if existing = i then w.checkCapacity cfg i src
            else (w.startProbe i existing).setPump i (.probing src existing)

/-- The activation after the probe of the existing owner returned. -/
def resumeActivation (cfg : EcuConfig) (w : World) (i : Sid) (src : SA) (existing : Sid)
    (alive answered : Bool) : World :=
  if alive then w.respondActivation cfg i src 0x03
  else (w.evict cfg existing answered).checkCapacity cfg i src

/-! ## §5. Frames. -/

/-- `_handle_diagnostic` up to the drain of its answer. -/
def handleDiagnostic (cfg : EcuConfig) (w : World) (i : Sid) (payload : Bytes) : World :=
  let s := w.sessions i
  if payload.length < 5 then
    w.sendResponse i ptHeaderNack [nackGenericInvalidPayloadLength] .loop
  else
    let src := fromBytes (payload.take 2)
    let tgt := fromBytes ((payload.drop 2).take 2)
    let uds := payload.drop 4
    let functional := tgt == cfg.uds.functionalAddr
    let nack (code : UInt8) : Bytes := packH cfg.doip.ecuLogicalAddr ++ packH src ++ [code]
    if s.activated = false ∨ s.testerAddr ≠ some src then
      w.sendResponse i ptDiagnosticNegativeAck (nack nackInvalidSourceAddress) .close
    else if tgt ≠ cfg.doip.ecuLogicalAddr ∧ functional = false then
      w.sendResponse i ptDiagnosticNegativeAck (nack nackUnknownTargetAddress) .loop
    else if cfg.doip.maxPayloadBytes < uds.length then
      w.sendResponse i ptDiagnosticNegativeAck (nack nackMessageTooLarge) .loop
    else
      w.sendResponse i ptDiagnosticPositiveAck (nack 0x00)
        (.enqueue ⟨uds, src, tgt, functional⟩ s.currentReqVersion)

/-- After the Positive ACK: queue the request, or refuse it as busy. -/
def enqueue (cfg : EcuConfig) (w : World) (i : Sid) (request : UdsRequest) (version : UInt8) :
    World :=
  let s := w.sessions i
  if s.udsQueue.length < udsQueueMaxsize then
    w.set i { s with udsQueue := s.udsQueue ++ [(request, version)], pump := .reading }
  else
    w.sendResponse i ptDiagnosticMessage
      (packH cfg.doip.ecuLogicalAddr ++ packH request.sourceAddr
        ++ request.negative nrcBusyRepeatRequest) .loop

/-- The response of the tester to the oldest request that is still open. -/
def creditResponse (w : World) (i : Sid) : World :=
  match (w.sessions i).awaiting with
  | [] => w
  | j :: rest =>
      { w.set i { w.sessions i with awaiting := rest } with
        probes := fun j' o =>
          if j' = j ∧ o = i then
            (w.probes j i).map (fun p => if p.inFlight then { p with answered := true } else p)
          else w.probes j' o }

/-- `PT_ALIVE_CHECK_RESPONSE` in the loop: set whatever event is in the slot. -/
def handleAliveCheckResponse (w : World) (i : Sid) : World :=
  let s := w.sessions i
  match s.aliveProbePending, s.aliveProbeEvent with
  | true, some ev => { w.creditResponse i with events := Function.update w.events ev true }
  | _, _ => w.creditResponse i

/-- The loop has read a complete frame. -/
def handleFrame (cfg : EcuConfig) (w : World) (i : Sid) (raw : Bytes) : World :=
  match validateHeader raw with
  | some nack => (w.write i (buildFrame ptHeaderNack [nack] ver)).setPump i (.sending .close)
  | none =>
      let w := w.set i { w.sessions i with currentReqVersion := raw.headD 0 }
      let pt := ptype raw
      let pload := payload raw
      if pt = ptRoutingActRequest then
        if pload.length < routingActRequestMinLen then
          w.sendResponse i ptHeaderNack [nackGenericInvalidPayloadLength] .loop
        else
          w.setPump i (.hooking (fromBytes (pload.take 2)) ((pload.drop 2).headD 0).toNat)
      else if pt = ptDiagnosticMessage then w.handleDiagnostic cfg i pload
      else if pt = ptAliveCheckRequest then
        w.sendResponse i ptAliveCheckResponse (packH cfg.doip.ecuLogicalAddr) .loop
      else if pt = ptAliveCheckResponse then w.handleAliveCheckResponse i
      else w.sendResponse i ptHeaderNack [nackGenericUnknownPayloadType] .loop

/-- `read_frame` returns or raises `FrameTooLarge`; `none` while the bytes
are no complete frame. -/
def readFrame (cfg : EcuConfig) (w : World) (i : Sid) (raw : Bytes) : Option World :=
  if raw.length < 8 then none
  else if cfg.doip.maxPayloadBytes + 4 + frameLenSlack < declaredLen raw then
    some ((w.write i (buildFrame ptHeaderNack [nackGenericMessageTooLarge] ver)).setPump i
      (.sending .close))
  else if raw.length = 8 + declaredLen raw then some (w.handleFrame cfg i raw)
  else none

/-! ## §6. The worker. -/

/-- The responder of one request.  A response the header cannot carry makes
`struct.pack` raise, and nothing is written. -/
def respondUds (cfg : EcuConfig) (w : World) (i : Sid) (request : UdsRequest) (version : UInt8)
    (response : Bytes) : World :=
  let payload := packH cfg.doip.ecuLogicalAddr ++ packH request.sourceAddr ++ response
  if payload.length < 4294967296 then w.write i (buildFrame ptDiagnosticMessage payload version)
  else w

/-- Take the next request and restart the S3 timer. -/
def takeRequest (cfg : EcuConfig) (w : World) (i : Sid) (request : UdsRequest) (version : UInt8)
    (rest : List (UdsRequest × UInt8)) : World :=
  let s := { w.sessions i with udsQueue := rest }
  match s.state with
  | some st =>
      { w.set i { s with worker := .serving request version st {} } with
        core := w.core.setState st ((w.core.states st).refreshS3 cfg) }
  | none => w.set i s

/-- `resolve_uds` moved from `p2` to `p2'`: put the frames it emitted on the
wire; when it is done, go for the next request, or close the connection if
the dispatch asked for it. -/
def advanceWorker (cfg : EcuConfig) (w : World) (i : Sid) (request : UdsRequest)
    (version : UInt8) (st : StateId) (p2 p2' : P2) : World :=
  let w := (p2'.emitted.drop p2.emitted.length).foldl
    (fun w response => w.respondUds cfg i request version response) w
  if p2'.point = .done then
    let w := w.setWorker i .idle
    match p2'.handler, p2'.abandoned with
    | some (.abort _), false => w.finalize i
    | _, _ => w
  else w.setWorker i (.serving request version st p2')

end World

/-! ## §7. Events and steps. -/

inductive Event where
  /-- A socket is accepted. -/
  | accept
  /-- The pump of `i` reads this frame. -/
  | frame (i : Sid) (raw : Bytes)
  /-- EOF, a reset, a failing send or a cancellation ends the loop of `i`. -/
  | loopEnds (i : Sid)
  /-- The activation hooks of `i` return. -/
  | hookReturned (i : Sid) (override : Option UInt8)
  /-- The pump of `i` has drained the frame it sends. -/
  | sent (i : Sid)
  /-- The request of the probe of `o` by `i` is drained. -/
  | probeSent (i o : Sid)
  /-- Sending it raised. -/
  | probeSendFailed (i o : Sid)
  /-- The event it waits for is set. -/
  | probeWoken (i o : Sid)
  /-- Its timer fires. -/
  | probeTimeout (i o : Sid)
  /-- `i` resumes with the result of its probe. -/
  | probeReturned (i : Sid)
  /-- The worker of `i` takes a request. -/
  | takeRequest (i : Sid)
  /-- The dispatch task of `i` runs. -/
  | dispatch (i : Sid)
  /-- A window, a drain or the finished dispatch moves `resolve_uds` of `i`. -/
  | resolve (i : Sid) (e : P2Event)
  /-- The responder of `i` raises after the dispatch has finished. -/
  | responderFailed (i : Sid)
  /-- An inactivity timer of `i` elapses. -/
  | inactivity (i : Sid)
  /-- The S3 timer of a state fires. -/
  | s3Expiry (st : StateId)
  /-- `finally` of `i`: the supervisor is gone, the worker is cancelled. -/
  | supervisorStopped (i : Sid)
  /-- `finally` of `i`: the worker is gone, the state is given back. -/
  | workerStopped (i : Sid)
  /-- `finally` of `i`: the writer is closed. -/
  | writerClosed (i : Sid)
  deriving DecidableEq, Repr

open World in
/-- Let one coroutine run to its next await. -/
def step (cfg : EcuConfig) (w : World) : Event → Option World
  | .accept => some { w with opened := w.opened + 1 }
  | .frame i raw =>
      if i < w.opened ∧ (w.sessions i).pump = .reading then w.readFrame cfg i raw else none
  | .loopEnds i =>
      if i < w.opened then
        match (w.sessions i).pump with
        | .reading | .hooking _ _ | .probing _ _ | .sending _ => some (w.leaveLoop i)
        | _ => none
      else none
  | .hookReturned i override =>
      match (w.sessions i).pump with
      | .hooking src activationType =>
          some (w.handleRoutingActivation cfg i src activationType override)
      | _ => none
  | .sent i =>
      match (w.sessions i).pump with
      | .sending .loop => some (w.setPump i .reading)
      | .sending .close => some (w.leaveLoop i)
      | .sending (.enqueue request version) => some (w.enqueue cfg i request version)
      | _ => none
  | .probeSent i o =>
      match w.probes i o with
      | some ⟨ev, .sending, answered⟩ =>
          match (w.sessions o).aliveProbeEvent with
          | some slot =>
              some { w with
                probes := fun j o' =>
                  if j = i ∧ o' = o then some ⟨ev, .waiting slot, answered⟩ else w.probes j o' }
          -- `None.wait()` raises, and the probe returns False
          | none => some (w.endProbe i o ⟨ev, .sending, answered⟩ false)
      | _ => none
  | .probeSendFailed i o =>
      match w.probes i o with
      | some ⟨ev, .sending, answered⟩ => some (w.endProbe i o ⟨ev, .sending, answered⟩ false)
      | _ => none
  | .probeWoken i o =>
      match w.probes i o with
      | some ⟨ev, .waiting slot, answered⟩ =>
          if w.events slot then some (w.endProbe i o ⟨ev, .waiting slot, answered⟩ true) else none
      | _ => none
  | .probeTimeout i o =>
      match w.probes i o with
      | some ⟨ev, .waiting slot, answered⟩ =>
          some (w.endProbe i o ⟨ev, .waiting slot, answered⟩ false)
      | _ => none
  | .probeReturned i =>
      match (w.sessions i).pump with
      | .probing src existing =>
          match w.probes i existing with
          | some ⟨_, .done alive, answered⟩ =>
              some ((w.takeProbe i existing).resumeActivation cfg i src existing alive answered)
          | _ => none
      | _ => none
  | .takeRequest i =>
      match (w.sessions i).worker, (w.sessions i).udsQueue with
      | .idle, (request, version) :: rest => some (w.takeRequest cfg i request version rest)
      | _, _ => none
  | .dispatch i =>
      match (w.sessions i).worker with
      | .serving request version st p2 =>
          let (core, result) := VirtualEcu.dispatch cfg request st w.core
          (p2Step cfg.uds request p2 (.finish result)).map (fun p2' =>
            { w.setWorker i (.serving request version st p2') with core := core })
      | .doomed request st =>
          some { w.setWorker i .stopped with core := (VirtualEcu.dispatch cfg request st w.core).1 }
      | _ => none
  | .resolve i e =>
      match (w.sessions i).worker, e with
      | .serving request version st p2, .window | .serving request version st p2, .timeout
      | .serving request version st p2, .sent | .serving request version st p2, .resume =>
          (p2Step cfg.uds request p2 e).map (w.advanceWorker cfg i request version st p2)
      | _, _ => none
  | .responderFailed i =>
      match (w.sessions i).worker with
      | .serving _ _ _ p2 =>
          match p2.point, p2.handler, p2.abandoned with
          -- raised inside the `except` clause: the worker dies
          | .sendingLast, some (.abort _), false => some (w.setWorker i .stopped)
          | .sendingLast, _, _ => some (w.setWorker i .idle)
          | .sendingPending, some _, _ => some (w.setWorker i .idle)
          | _, _, _ => none
      | _ => none
  | .inactivity i =>
      if i < w.opened ∧ (w.sessions i).finalized = false then some (w.finalize i) else none
  | .s3Expiry st =>
      if (w.core.states st).s3Armed then some { w with core := w.core.s3Expiry cfg st } else none
  | .supervisorStopped i =>
      if (w.sessions i).pump = .stoppingSupervisor then
        some ((w.cancelWorker i).setPump i .stoppingWorker)
      else none
  | .workerStopped i =>
      if (w.sessions i).pump = .stoppingWorker then
        some (((w.setWorker i .stopped).releaseState cfg i).setPump i .closingWriter)
      else none
  | .writerClosed i =>
      if (w.sessions i).pump = .closingWriter then some ((w.unregister i).setPump i .ended)
      else none

end DoipPlayground.VirtualEcu
