/-
  DoipPlayground.EdgeNode.Session
  ───────────────────────────────
  **THE EDGENODE'S TESTER SIDE: sessions sharing one SessionRegistry.**

  One `DoIPSession` serves one accepted socket.  Its coroutines are cut at
  their await points: `Point` says where the session's `run` task is
  suspended, `ProbePhase` where a `probe_alive` call is, and an `Event`
  lets one of them run to its next await.  Everything between two awaits
  is one step, so a list of events is one interleaving.

  The code modelled is `session.py` (`_session_loop`, the routing
  activation handler with its conflict check and capacity reclaim, the
  alive probe, eviction and the start of clean-up) and
  `session_registry.py`.  A frame other than a routing activation or an
  alive check response is a `request`: its handler awaits something (an
  ECU exchange, a middleware, a send) and returns at some later event, or
  raises.

  Three fields are bookkeeping for statements and steer nothing:
  `Probe.answered`, `World.evictedLive` and `Session.responses`.
-/
import DoipPlayground.Lib.Run
import DoipPlayground.Lib.RefLock
import DoipPlayground.Lib.OwnerTable

namespace DoipPlayground.EdgeNode

/-- A tester logical address. -/
abbrev SA := Nat

/-- The identity of a `DoIPSession` object. -/
abbrev Sid := Nat

/-! ## §1. Configuration and registry. -/

/-- The `doip` settings the activation logic reads. -/
structure DoIPConfig where
  testerAddrRange : SA × SA
  testerAddrList : List SA
  maxConnections : Nat
  deriving Repr

def DoIPConfig.isTesterAllowed (cfg : DoIPConfig) (addr : SA) : Bool :=
  if cfg.testerAddrRange.1 ≤ addr ∧ addr ≤ cfg.testerAddrRange.2 then true
  else cfg.testerAddrList.contains addr

/-- `SessionRegistry._sessions`. -/
abbrev SessionRegistry := OwnerTable SA Sid

namespace SessionRegistry

abbrev register (r : SessionRegistry) (sa : SA) (i : Sid) : SessionRegistry :=
  OwnerTable.register r sa i

/-- Remove an address only while it is still owned by this session. -/
abbrev unregister (r : SessionRegistry) (sa : SA) (i : Sid) : SessionRegistry :=
  OwnerTable.unregister r sa i

abbrev count (r : SessionRegistry) : Nat := OwnerTable.count r

def registeredSessions (r : SessionRegistry) : List (SA × Sid) :=
  r.entries.map (fun e => (e.1, e.2))

end SessionRegistry

/-! ## §2. Sessions and probes. -/

/-- A frame on the tester's socket, as far as the loop tells them apart. -/
inductive Inbound where
  | routingActivation (src : SA) (activationType : Nat)
  | aliveCheckResponse (sa : SA)
  /-- Any other accepted frame: its handler awaits and then returns. -/
  | request
  /-- A frame the loop answers by raising. -/
  | invalid
  deriving DecidableEq, Repr

/-- Where the `run` task of a session is suspended. -/
inductive Point where
  /-- `await self._read_frame()` -/
  | reading
  /-- Any await of the handler of a `request`. -/
  | handling
  /-- `async with self._registry.activation_lock(src_addr)` -/
  | enteringLock (sa : SA)
  /-- `await existing.probe_alive(...)` -/
  | probing (sa : SA) (existing : Sid)
  /-- `async with self._registry.capacity_lock` -/
  | enteringCapacity (sa : SA)
  /-- `await asyncio.wait(tasks, timeout=2.0)` -/
  | reclaiming (sa : SA) (owners : List (SA × Sid))
  /-- `await asyncio.gather(*tasks)` in the `finally`; `failed` when an
  exception is on its way out. -/
  | drainingProbes (sa : SA) (failed : Bool)
  /-- The send of a denial, before the raise. -/
  | denying
  /-- The send of response code 0x10. -/
  | confirming
  /-- `run` has reached its clean-up. -/
  | ended
  deriving DecidableEq, Repr

/-- Where a `probe_alive` call is. -/
inductive ProbePhase where
  /-- Waiting for `_alive_probe_lock`. -/
  | queued
  /-- Sending the Alive Check Request. -/
  | sending
  /-- `asyncio.wait_for(self._alive_probe_event.wait(), timeout)` -/
  | waiting
  /-- Returned this result, not yet picked up by the prober. -/
  | done (alive : Bool)
  deriving DecidableEq, Repr

/-- One call of `probe_alive`. -/
structure Probe where
  phase : ProbePhase
  /-- The owner's tester answered while the call was under way. -/
  answered : Bool
  deriving DecidableEq, Repr

/-- The probe has written its request and not finished. -/
def Probe.inBody (p : Probe) : Bool := p.phase == .sending || p.phase == .waiting

structure Session where
  activated : Bool := false
  testerLogicalAddr : Option SA := none
  closing : Bool := false
  transportClosed : Bool := false
  aliveProbePending : Bool := false
  /-- `_alive_probe_event`: absent, or present and set or not. -/
  aliveProbeEvent : Option Bool := none
  /-- The prober inside `async with self._alive_probe_lock`. -/
  aliveProbeLock : Option Sid := none
  point : Point := .reading
  /-- Complete frames on the socket the loop has not read yet. -/
  inbox : List Inbound := []
  /-- Routing activation response codes written to the socket. -/
  responses : List Nat := []
  deriving DecidableEq, Repr

/-- The frame is an Alive Check Response carrying the registered address. -/
def Session.answers (s : Session) : Inbound → Bool
  | .aliveCheckResponse sa => s.testerLogicalAddr == some sa
  | _ => false

/-- The `finally` of `_probe_alive_once`, if `prober` is inside. -/
def Session.releaseProbe (s : Session) (prober : Sid) : Session :=
  if s.aliveProbeLock = some prober then
    { s with aliveProbePending := false, aliveProbeEvent := none, aliveProbeLock := none }
  else s

structure World where
  sessions : Sid → Session
  registry : SessionRegistry
  /-- `_activation_locks` with the coroutines inside. -/
  locks : RefLock.Table SA Sid
  /-- The holder of `capacity_lock`. -/
  capacityLock : Option Sid
  /-- `probes i o` is the call of `o.probe_alive` that `i` awaits.  A session
  runs one coroutine and a snapshot has each owner once, so there is never
  a second one. -/
  probes : Sid → Sid → Option Probe
  /-- Sessions evicted by a contender although their tester answered. -/
  evictedLive : List Sid

/-- No socket has spoken yet. -/
def World.init : World where
  sessions := fun _ => {}
  registry := ∅
  locks := RefLock.Table.empty
  capacityLock := none
  probes := fun _ _ => none
  evictedLive := []

namespace World

/-- Overwrite one session. -/
def set (w : World) (i : Sid) (s : Session) : World :=
  { w with sessions := Function.update w.sessions i s }

def setPoint (w : World) (i : Sid) (p : Point) : World :=
  w.set i { w.sessions i with point := p }

/-! ## §3. Closing a session. -/

/-- `_schedule_cleanup`: set `_closing` and run `_close_transport_and_registry`,
whose body is executed once. -/
def scheduleCleanup (w : World) (i : Sid) : World :=
  let s := w.sessions i
  if s.transportClosed then w.set i { s with closing := true }
  else
    { w.set i { s with
        closing := true
        transportClosed := true
        aliveProbeEvent := s.aliveProbeEvent.map (fun _ => true) } with
      registry :=
        match s.testerLogicalAddr with
        | some sa => SessionRegistry.unregister w.registry sa i
        | none => w.registry }

/-- `evict`; `answered` is the bookkeeping of the probe that led to it. -/
def evict (w : World) (i : Sid) (answered : Bool) : World :=
  { w.scheduleCleanup i with
    evictedLive :=
      if answered && !(w.sessions i).closing then i :: w.evictedLive else w.evictedLive }

/-- The `finally` blocks of the probes `i` awaits: forget the event, give
the owner's probe lock back. -/
def releaseProbes (w : World) (i : Sid) : World :=
  { w with
    sessions := fun o => (w.sessions o).releaseProbe i
    probes := Function.update w.probes i (fun _ => none) }

/-- `async with self._registry.capacity_lock` is left, if it was entered. -/
def releaseCapacity (w : World) (i : Sid) : World :=
  { w with capacityLock := if w.capacityLock = some i then none else w.capacityLock }

/-- An exception leaves the handler: the locks are released on the way out
and `run` starts the clean-up. -/
def unwind (w : World) (i : Sid) : World :=
  let w := (w.releaseProbes i).releaseCapacity i
  let w := { w with locks := w.locks.leave i }
  (w.scheduleCleanup i).setPoint i .ended

/-! ## §4. The alive probe. -/

def setProbe (w : World) (i owner : Sid) (p : Option Probe) : World :=
  { w with
    probes := fun i' o' => if i' = i ∧ o' = owner then p else w.probes i' o' }

/-- Call `owner.probe_alive`. -/
def startProbe (w : World) (i owner : Sid) : World :=
  w.setProbe i owner (some ⟨.queued, false⟩)

def setPhase (w : World) (i owner : Sid) (ph : ProbePhase) : World :=
  w.setProbe i owner ((w.probes i owner).map (fun p => { p with phase := ph }))

/-- `_probe_alive_once` up to its first await, once the probe lock is free. -/
def probeAliveOnce (w : World) (i owner : Sid) : World :=
  let s := w.sessions owner
  if s.closing || !s.activated || s.testerLogicalAddr.isNone then
    w.setPhase i owner (.done false)
  else
    (w.set owner { s with
      aliveProbePending := true
      aliveProbeEvent := some false
      aliveProbeLock := some i }).setPhase i owner .sending

/-- The `finally` of `_probe_alive_once` and its return. -/
def endProbe (w : World) (i owner : Sid) (alive : Bool) : World :=
  (w.set owner { w.sessions owner with
    aliveProbePending := false
    aliveProbeEvent := none
    aliveProbeLock := none }).setPhase i owner (.done alive)

/-- `_handle_alive_check_response` -/
def handleAliveCheckResponse (w : World) (i : Sid) (sa : SA) : World :=
  let s := w.sessions i
  if !s.activated || s.closing || s.testerLogicalAddr != some sa then w
  else if s.aliveProbePending && s.aliveProbeEvent.isSome then
    w.set i { s with aliveProbeEvent := some true }
  else w

/-! ## §5. Routing activation. -/

/-- `_send_routing_activation_response`, suspended at `p` in the drain. -/
def respond (w : World) (i : Sid) (code : Nat) (p : Point) : World :=
  let s := w.sessions i
  w.set i { s with
    responses := if s.closing then s.responses else s.responses ++ [code]
    point := p }

/-- The end of `_activate_with_conflict_check`: register and confirm. -/
def commitActivation (w : World) (i : Sid) (sa : SA) : World :=
  let s := w.sessions i
  if s.closing then w.unwind i
  else
    { w.set i { s with testerLogicalAddr := some sa, activated := true } with
      registry := SessionRegistry.register w.registry sa i }.respond i 0x10 .confirming

/-- The count check after the capacity lock was taken. -/
def recheckCapacity (cfg : DoIPConfig) (w : World) (i : Sid) (sa : SA) : World :=
  if cfg.maxConnections ≤ SessionRegistry.count w.registry then w.respond i 0x01 .denying
  else w.commitActivation i sa

/-- Past the conflict loop: only a new registration at full capacity takes
the shared lock. -/
def checkCapacity (cfg : DoIPConfig) (w : World) (i : Sid) (sa : SA) : World :=
  if (w.sessions i).activated then w.commitActivation i sa
  else if cfg.maxConnections ≤ SessionRegistry.count w.registry then
    w.setPoint i (.enteringCapacity sa)
  else w.commitActivation i sa

/-- One turn of the conflict loop, up to the await of the probe. -/
def activateWithConflictCheck (cfg : DoIPConfig) (w : World) (i : Sid) (sa : SA) : World :=
  if (w.sessions i).closing then w.unwind i
  else
    match w.registry.lookup sa with
    | none => w.checkCapacity cfg i sa
    | some existing =>
        if existing = i then w.checkCapacity cfg i sa
        else (w.startProbe i existing).setPoint i (.probing sa existing)

/-- The conflict loop after its probe returned. -/
def resumeConflictCheck (cfg : DoIPConfig) (w : World) (i : Sid) (sa : SA) (existing : Sid)
    (alive answered : Bool) : World :=
  if (w.sessions i).closing then w.unwind i
  else if w.registry.lookup sa ≠ some existing then w.activateWithConflictCheck cfg i sa
  else if alive then w.respond i 0x03 .denying
  else (w.evict existing answered).activateWithConflictCheck cfg i sa

/-- `_reclaim_capacity` up to its await: one snapshot of the owners, one
probe for each. -/
def reclaimCapacity (cfg : DoIPConfig) (w : World) (i : Sid) (sa : SA) : World :=
  if (w.sessions i).closing then w.unwind i
  else if SessionRegistry.count w.registry < cfg.maxConnections then
    (w.releaseCapacity i).recheckCapacity cfg i sa
  else
    let owners := SessionRegistry.registeredSessions w.registry
    (owners.foldl (fun w o => w.startProbe i o.2) w).setPoint i (.reclaiming sa owners)

/-- Evict one owner of the snapshot if its probe is done, found it dead and
it still is the owner. -/
def reclaimOwner (i : Sid) (w : World) (o : SA × Sid) : World :=
  match w.probes i o.2 with
  | some p =>
      if p.phase = .done false ∧ w.registry.lookup o.1 = some o.2 then w.evict o.2 p.answered
      else w
  | none => w

/-- `_handle_routing_activation` up to the activation lock. -/
def handleRoutingActivation (cfg : DoIPConfig) (w : World) (i : Sid) (src : SA)
    (activationType : Nat) : World :=
  let s := w.sessions i
  if s.activated ∧ s.testerLogicalAddr ≠ some src then w.respond i 0x02 .denying
  else if !cfg.isTesterAllowed src then w.respond i 0x00 .denying
  else if activationType ≠ 0x00 ∧ activationType ≠ 0x01 then w.respond i 0x06 .denying
  else { w with locks := w.locks.enter src i }.setPoint i (.enteringLock src)

/-- The session loop takes one frame off the socket. -/
def dispatch (cfg : DoIPConfig) (w : World) (i : Sid) (f : Inbound) : World :=
  if (w.sessions i).closing then w.unwind i
  else
    match f with
    | .routingActivation src ty => w.handleRoutingActivation cfg i src ty
    | .aliveCheckResponse sa => w.handleAliveCheckResponse i sa
    | .request => w.setPoint i .handling
    | .invalid => w.unwind i

/-- Bytes of one frame arrive.  An Alive Check Response with the registered
address answers the probe whose request is out. -/
def receive (w : World) (i : Sid) (f : Inbound) : World :=
  let s := w.sessions i
  { w.set i { s with inbox := s.inbox ++ [f] } with
    probes := fun j o => (w.probes j o).map (fun p =>
      if o == i && p.inBody && s.answers f then { p with answered := true } else p) }

end World

/-! ## §6. Events and steps. -/

inductive Event where
  /-- A frame arrives on the socket of `i`. -/
  | receive (i : Sid) (f : Inbound)
  /-- The loop of `i` reads the next frame. -/
  | read (i : Sid)
  /-- The handler of a `request` returns. -/
  | handlerDone (i : Sid)
  /-- EOF, a reset or any exception ends the loop or a handler of `i`. -/
  | fail (i : Sid)
  /-- `i` gets the activation lock it waits for. -/
  | lockAcquired (i : Sid)
  /-- The probe of `owner` by `i` gets the probe lock. -/
  | probeStarted (i owner : Sid)
  /-- Its Alive Check Request is sent. -/
  | probeSent (i owner : Sid)
  /-- Sending it raised. -/
  | probeSendFailed (i owner : Sid)
  /-- Its event is set and the call returns. -/
  | probeWoken (i owner : Sid)
  /-- Its timer fires. -/
  | probeTimeout (i owner : Sid)
  /-- `i` resumes the conflict loop with the result. -/
  | probeReturned (i : Sid)
  /-- `i` gets the capacity lock. -/
  | capacityAcquired (i : Sid)
  /-- `asyncio.wait` returns to `i`, with all probes done or timed out. -/
  | reclaimWoken (i : Sid)
  /-- The cancelled probes of `i` are gathered. -/
  | probesDrained (i : Sid)
  /-- The response of `i` is drained. -/
  | sent (i : Sid)
  /-- `CancelledError` reaches `i` where it is suspended. -/
  | cancel (i : Sid)
  /-- A timer, `close()` or the server schedules the clean-up of `i`. -/
  | close (i : Sid)
  deriving DecidableEq, Repr

open World in
/-- Let one coroutine run to its next await point. -/
def step (cfg : DoIPConfig) (w : World) : Event → Option World
  | .receive i f => some (w.receive i f)
  | .read i =>
      match (w.sessions i).point, (w.sessions i).inbox with
      | .reading, f :: rest =>
          some ((w.set i { w.sessions i with inbox := rest }).dispatch cfg i f)
      | _, _ => none
  | .handlerDone i =>
      if (w.sessions i).point = .handling then some (w.setPoint i .reading) else none
  | .fail i =>
      if (w.sessions i).point = .reading ∨ (w.sessions i).point = .handling
        ∨ (w.sessions i).point = .denying ∨ (w.sessions i).point = .confirming then
        some (w.unwind i)
      else none
  | .lockAcquired i =>
      match (w.sessions i).point with
      | .enteringLock sa =>
          (w.locks.acquire i).map
            (fun l => { w with locks := l }.activateWithConflictCheck cfg i sa)
      | _ => none
  | .probeStarted i o =>
      match w.probes i o with
      | some p =>
          if p.phase = .queued ∧ (w.sessions o).aliveProbeLock = none then
            some (w.probeAliveOnce i o)
          else none
      | none => none
  | .probeSent i o =>
      match w.probes i o with
      | some p => if p.phase = .sending then some (w.setPhase i o .waiting) else none
      | none => none
  | .probeSendFailed i o =>
      match w.probes i o with
      | some p => if p.phase = .sending then some (w.endProbe i o false) else none
      | none => none
  | .probeWoken i o =>
      match w.probes i o with
      | some p =>
          if p.phase = .waiting ∧ (w.sessions o).aliveProbeEvent = some true then
            some (w.endProbe i o (!(w.sessions o).closing))
          else none
      | none => none
  | .probeTimeout i o =>
      match w.probes i o with
      | some p =>
          if p.phase = .waiting then some (w.endProbe i o false) else none
      | none => none
  | .probeReturned i =>
      match (w.sessions i).point with
      | .probing sa existing =>
          match w.probes i existing with
          | some ⟨.done alive, answered⟩ =>
              some ((w.releaseProbes i).resumeConflictCheck cfg i sa existing alive answered)
          | _ => none
      | _ => none
  | .capacityAcquired i =>
      match (w.sessions i).point, w.capacityLock with
      | .enteringCapacity sa, none =>
          some ({ w with capacityLock := some i }.reclaimCapacity cfg i sa)
      | _, _ => none
  | .reclaimWoken i =>
      match (w.sessions i).point with
      | .reclaiming sa owners =>
          if (w.sessions i).closing then some (w.setPoint i (.drainingProbes sa true))
          else some ((owners.foldl (reclaimOwner i) w).setPoint i (.drainingProbes sa false))
      | _ => none
  | .probesDrained i =>
      match (w.sessions i).point with
      | .drainingProbes sa failed =>
          let w := (w.releaseProbes i).releaseCapacity i
          some (if failed then w.unwind i else w.recheckCapacity cfg i sa)
      | _ => none
  | .sent i =>
      match (w.sessions i).point with
      | .denying => some (w.unwind i)
      | .confirming =>
          if (w.sessions i).closing then some (w.unwind i)
          else some ({ w with locks := w.locks.leave i }.setPoint i .reading)
      | _ => none
  | .cancel i =>
      match (w.sessions i).point with
      | .ended => none
      | .reclaiming sa _ => some (w.setPoint i (.drainingProbes sa true))
      | _ => some (w.unwind i)
  | .close i => some (w.scheduleCleanup i)

/-! ## §7. What a step can do. -/

open World in
/-- A step that happens, with the guard it passed. -/
inductive StepEffect (cfg : DoIPConfig) (w : World) : Event → World → Prop where
  | received (i : Sid) (f : Inbound) : StepEffect cfg w (.receive i f) (w.receive i f)
  | read (i : Sid) (f : Inbound) (rest : List Inbound)
      (hpoint : (w.sessions i).point = .reading) (hinbox : (w.sessions i).inbox = f :: rest) :
      StepEffect cfg w (.read i)
        ((w.set i { w.sessions i with inbox := rest }).dispatch cfg i f)
  | handled (i : Sid) (hpoint : (w.sessions i).point = .handling) :
      StepEffect cfg w (.handlerDone i) (w.setPoint i .reading)
  | failed (i : Sid) : StepEffect cfg w (.fail i) (w.unwind i)
  | lockAcquired (i : Sid) (sa : SA) (locks : RefLock.Table SA Sid)
      (hpoint : (w.sessions i).point = .enteringLock sa)
      (hacquire : w.locks.acquire i = some locks) :
      StepEffect cfg w (.lockAcquired i)
        ({ w with locks := locks }.activateWithConflictCheck cfg i sa)
  | probeStarted (i o : Sid) (p : Probe) (hprobe : w.probes i o = some p)
      (hphase : p.phase = .queued) (hfree : (w.sessions o).aliveProbeLock = none) :
      StepEffect cfg w (.probeStarted i o) (w.probeAliveOnce i o)
  | probeSent (i o : Sid) (p : Probe) (hprobe : w.probes i o = some p)
      (hphase : p.phase = .sending) :
      StepEffect cfg w (.probeSent i o) (w.setPhase i o .waiting)
  | probeSendFailed (i o : Sid) (p : Probe) (hprobe : w.probes i o = some p)
      (hphase : p.phase = .sending) :
      StepEffect cfg w (.probeSendFailed i o) (w.endProbe i o false)
  | probeWoken (i o : Sid) (p : Probe) (hprobe : w.probes i o = some p)
      (hphase : p.phase = .waiting) (hset : (w.sessions o).aliveProbeEvent = some true) :
      StepEffect cfg w (.probeWoken i o) (w.endProbe i o (!(w.sessions o).closing))
  | probeTimedOut (i o : Sid) (p : Probe) (hprobe : w.probes i o = some p)
      (hphase : p.phase = .waiting) :
      StepEffect cfg w (.probeTimeout i o) (w.endProbe i o false)
  | probeReturned (i existing : Sid) (sa : SA) (alive answered : Bool)
      (hpoint : (w.sessions i).point = .probing sa existing)
      (hprobe : w.probes i existing = some ⟨.done alive, answered⟩) :
      StepEffect cfg w (.probeReturned i)
        ((w.releaseProbes i).resumeConflictCheck cfg i sa existing alive answered)
  | capacityAcquired (i : Sid) (sa : SA) (hpoint : (w.sessions i).point = .enteringCapacity sa) :
      StepEffect cfg w (.capacityAcquired i)
        ({ w with capacityLock := some i }.reclaimCapacity cfg i sa)
  | reclaimAborted (i : Sid) (sa : SA) (owners : List (SA × Sid))
      (hpoint : (w.sessions i).point = .reclaiming sa owners) :
      StepEffect cfg w (.reclaimWoken i) (w.setPoint i (.drainingProbes sa true))
  | reclaimed (i : Sid) (sa : SA) (owners : List (SA × Sid))
      (hpoint : (w.sessions i).point = .reclaiming sa owners) :
      StepEffect cfg w (.reclaimWoken i)
        ((owners.foldl (reclaimOwner i) w).setPoint i (.drainingProbes sa false))
  | reclaimFailed (i : Sid) (sa : SA) (hpoint : (w.sessions i).point = .drainingProbes sa true) :
      StepEffect cfg w (.probesDrained i) (((w.releaseProbes i).releaseCapacity i).unwind i)
  | probesDrained (i : Sid) (sa : SA) (hpoint : (w.sessions i).point = .drainingProbes sa false) :
      StepEffect cfg w (.probesDrained i)
        (((w.releaseProbes i).releaseCapacity i).recheckCapacity cfg i sa)
  | sentLast (i : Sid) : StepEffect cfg w (.sent i) (w.unwind i)
  | confirmed (i : Sid) (hpoint : (w.sessions i).point = .confirming) :
      StepEffect cfg w (.sent i) ({ w with locks := w.locks.leave i }.setPoint i .reading)
  | cancelled (i : Sid) : StepEffect cfg w (.cancel i) (w.unwind i)
  | reclaimCancelled (i : Sid) (sa : SA) (owners : List (SA × Sid))
      (hpoint : (w.sessions i).point = .reclaiming sa owners) :
      StepEffect cfg w (.cancel i) (w.setPoint i (.drainingProbes sa true))
  | closed (i : Sid) : StepEffect cfg w (.close i) (w.scheduleCleanup i)

/-- The one place where `step` is unfolded. -/
theorem step_effect {cfg : DoIPConfig} {w w' : World} {e : Event}
    (hstep : step cfg w e = some w') : StepEffect cfg w e w' := by
  cases e with
  | receive i f =>
      cases hstep
      exact .received i f
  -- the loop takes the oldest frame of its inbox
  | read i =>
      simp only [step] at hstep
      split at hstep
      · rename_i f rest hpoint hinbox
        cases hstep
        exact .read i f rest hpoint hinbox
      · cases hstep
  -- one guard, on the point the session is at, and no branch behind it
  | handlerDone i =>
      simp only [step, Option.ite_none_right_eq_some, Option.some.injEq] at hstep
      obtain ⟨hpoint, rfl⟩ := hstep
      exact .handled i hpoint
  | fail i =>
      simp only [step, Option.ite_none_right_eq_some, Option.some.injEq] at hstep
      obtain ⟨_, rfl⟩ := hstep
      exact .failed i
  -- the table decides: it grants the lock to a waiter only while nobody holds it
  | lockAcquired i =>
      simp only [step] at hstep
      split at hstep
      · rename_i sa hpoint
        obtain ⟨locks, hacquire, rfl⟩ := Option.map_eq_some_iff.mp hstep
        exact .lockAcquired i sa locks hpoint hacquire
      · cases hstep
  -- the phases of a probe, each guarded by the phase before it
  | probeStarted i o =>
      simp only [step] at hstep
      split at hstep
      · rename_i p hprobe
        simp only [Option.ite_none_right_eq_some, Option.some.injEq] at hstep
        obtain ⟨⟨hphase, hfree⟩, rfl⟩ := hstep
        exact .probeStarted i o p hprobe hphase hfree
      · cases hstep
  | probeSent i o =>
      simp only [step] at hstep
      split at hstep
      · rename_i p hprobe
        simp only [Option.ite_none_right_eq_some, Option.some.injEq] at hstep
        obtain ⟨hphase, rfl⟩ := hstep
        exact .probeSent i o p hprobe hphase
      · cases hstep
  | probeSendFailed i o =>
      simp only [step] at hstep
      split at hstep
      · rename_i p hprobe
        simp only [Option.ite_none_right_eq_some, Option.some.injEq] at hstep
        obtain ⟨hphase, rfl⟩ := hstep
        exact .probeSendFailed i o p hprobe hphase
      · cases hstep
  -- the event may be set by an answer that came before the wait
  | probeWoken i o =>
      simp only [step] at hstep
      split at hstep
      · rename_i p hprobe
        simp only [Option.ite_none_right_eq_some, Option.some.injEq] at hstep
        obtain ⟨⟨hphase, hset⟩, rfl⟩ := hstep
        exact .probeWoken i o p hprobe hphase hset
      · cases hstep
  | probeTimeout i o =>
      simp only [step] at hstep
      split at hstep
      · rename_i p hprobe
        simp only [Option.ite_none_right_eq_some, Option.some.injEq] at hstep
        obtain ⟨hphase, rfl⟩ := hstep
        exact .probeTimedOut i o p hprobe hphase
      · cases hstep
  -- the return value of the probe is read off the session it was made for
  | probeReturned i =>
      simp only [step] at hstep
      split at hstep
      · rename_i sa existing hpoint
        split at hstep
        · rename_i alive answered hprobe
          cases hstep
          exact .probeReturned i existing sa alive answered hpoint hprobe
        · cases hstep
      · cases hstep
  | capacityAcquired i =>
      simp only [step] at hstep
      split at hstep
      · rename_i sa hpoint _
        cases hstep
        exact .capacityAcquired i sa hpoint
      · cases hstep
  -- a session closed in the meantime gives the reclaim up, the others act on what the probes said
  | reclaimWoken i =>
      simp only [step] at hstep
      split at hstep
      · rename_i sa owners hpoint
        split at hstep
        · cases hstep
          exact .reclaimAborted i sa owners hpoint
        · cases hstep
          exact .reclaimed i sa owners hpoint
      · cases hstep
  -- `failed` remembers that the reclaim was given up: the session unwinds and checks no more
  | probesDrained i =>
      simp only [step] at hstep
      split at hstep
      · rename_i sa failed hpoint
        cases hstep
        cases failed with
        | true => exact .reclaimFailed i sa hpoint
        | false => exact .probesDrained i sa hpoint
      · cases hstep
  -- a denial is the last frame of its session, a confirmation only of one closed in the meantime
  | sent i =>
      simp only [step] at hstep
      split at hstep
      · cases hstep
        exact .sentLast i
      · rename_i hpoint
        split at hstep
        · cases hstep
          exact .sentLast i
        · cases hstep
          exact .confirmed i hpoint
      · cases hstep
  -- a cancelled reclaim still waits for its probes, the other points unwind at once
  | cancel i =>
      simp only [step] at hstep
      split at hstep
      · cases hstep
      · rename_i sa owners hpoint
        cases hstep
        exact .reclaimCancelled i sa owners hpoint
      · cases hstep
        exact .cancelled i
  | close i =>
      cases hstep
      exact .closed i

end DoipPlayground.EdgeNode
