/-
  DoipPlayground.EdgeNode.Lifecycle
  ─────────────────────────────────
  **A SERVER THAT STOPS** (`DoIPServer` of `server.py`, `UDPAnnouncer` of
  `udp_announcer.py`).

  `start` has its startup task acquire two listeners and the discovery
  endpoint one after the other, and serves until it is cancelled or a
  listener fails; it ends in `stop`.  Every call of `stop` joins one
  clean-up task, which may come at any moment of the startup.  Coroutines
  are cut at their awaits, so a list of events is one interleaving of all
  of them with the connection handlers and the datagrams.

    • `UDPAnnouncer` — its endpoint and its announcements,
    • `startupStep`, `resumeStart`, `cleanupStep` — the three coroutines,
    • `socketStep` — the sockets, cancelled only when they were asked to,
    • `step` — the server.
-/
import DoipPlayground.EdgeNode.Server
import DoipPlayground.EdgeNode.UdpAnnouncer
import DoipPlayground.Lib.Tasks

namespace DoipPlayground.EdgeNode.Lifecycle

open Sockets (Writer Server Handler)
open UdpAnnouncer (UdpProtocol)

/-! ## §1. The announcer. -/

structure UDPAnnouncer where
  /-- `_transport` and `_protocol` are set. -/
  started : Bool := false
  /-- The protocol of the endpoint, if there has been one. -/
  protocol : Option UdpProtocol := none
  /-- Announcements sent so far. -/
  announced : Nat := 0
  deriving Repr

namespace UDPAnnouncer

/-- `stop` -/
def stop (a : UDPAnnouncer) : UDPAnnouncer :=
  if a.started then { a with started := false, protocol := a.protocol.map UdpProtocol.close } else a

/-- One turn of the loop of `_send_announcements`. -/
def announce (a : UDPAnnouncer) : UDPAnnouncer :=
  if a.started then { a with announced := a.announced + 1 } else a

/-- The endpoint is closed, and no reply of it is pending. -/
def Closed (a : UDPAnnouncer) : Prop :=
  ∀ p, a.protocol = some p → p.transport = none ∧ p.pendingResponses = []

end UDPAnnouncer

/-! ## §2. The server. -/

/-- The two listeners. -/
inductive Port where
  | plain
  | tls
  deriving DecidableEq, Repr

/-- Where `_startup_task` is. -/
inductive Startup where
  | absent
  /-- It has not run yet. -/
  | created
  /-- `await asyncio.start_server(...)` -/
  | binding (port : Port)
  /-- `await loop.create_datagram_endpoint(...)` -/
  | endpoint
  /-- `await asyncio.sleep(...)`, with so many announcements sent. -/
  | announcing (sent : Nat)
  | done (ok : Bool)
  deriving DecidableEq, Repr

/-- Where the call of `start` is. -/
inductive Start where
  | absent
  /-- `await self._startup_task` -/
  | starting
  /-- `await asyncio.gather(*self._serve_tasks)` -/
  | serving
  /-- `await self.stop()`, in the `finally`. -/
  | stopping
  | returned
  deriving DecidableEq, Repr

/-- Where `_cleanup_task` is. -/
inductive Cleanup where
  | absent
  /-- It has not run yet. -/
  | created
  | joiningStartup
  | joiningServe (snapshot : List Port)
  /-- `await asyncio.gather(*(listener.wait_closed() ...))` -/
  | closingListeners
  | joiningTasks (snapshot : List Writer)
  | closingSessions (snapshot : List Writer)
  | done
  deriving DecidableEq, Repr

/-- What the clean-up has still before it. -/
def Cleanup.left : Cleanup → Nat
  | .absent => 7
  | .created => 6
  | .joiningStartup => 5
  | .joiningServe _ => 4
  | .closingListeners => 3
  | .joiningTasks _ => 2
  | .closingSessions _ => 1
  | .done => 0

/-- How an await of the startup task ends. -/
inductive Outcome where
  | returns
  | raises
  /-- The cancellation comes through.  `left` if `start_server` already
  listens: what it has opened is lost. -/
  | cancelled (left : Bool)
  deriving DecidableEq, Repr

structure Config where
  doip : Loader.DoIPConfig
  /-- `udp.announce_count` -/
  announceCount : Nat

structure DoIPServer where
  /-- `_closing`, the registry, the connection tasks and the sessions. -/
  sockets : Server
  /-- Connection tasks that were asked to cancel. -/
  cancelling : List Writer := []
  started : Bool := false
  start : Start := .absent
  /-- A cancellation of `start` that has not come through. -/
  startCancelled : Bool := false
  startup : Startup := .absent
  startupCancelling : Bool := false
  /-- The ports that accept connections. -/
  listening : Port → Bool := fun _ => false
  /-- Those among them that a cancelled `start_server` has left behind. -/
  strays : List Port := []
  listeners : List Port := []
  /-- The tasks in `serve_forever`. -/
  serving : Tasks Port := fun _ => .unused
  serveTasks : List Port := []
  udpAnnouncer : UDPAnnouncer := {}
  cleanup : Cleanup := .absent
  /-- Calls of `stop` that wait for the clean-up. -/
  stops : Nat := 0
  /-- A call of `stop` has returned. -/
  stopped : Bool := false
  executorShutdown : Bool := false
  /-- `_log_sink_owner.close()` -/
  sinksClosed : Bool := false

namespace DoIPServer

/-- `__init__` -/
def new (cfg : Config) : Option DoIPServer := (Server.new cfg.doip).map fun sockets => { sockets }

variable (s : DoIPServer)

/-- `stop`, up to its first await. -/
def stop : DoIPServer :=
  { s with
    sockets := s.sockets.stop
    cleanup := if s.cleanup = .absent then .created else s.cleanup }

/-! ### The startup task. -/

/-- It ends. -/
def endStartup (ok : Bool) : DoIPServer := { s with startup := .done ok }

/-- `start_server` has returned: the listener is recorded. -/
def record (port : Port) : DoIPServer :=
  { s with
    listening := fun p => if p = port then true else s.listening p
    listeners := s.listeners ++ [port]
    startup := match port with
      | .plain => .binding .tls
      | .tls => .endpoint }

/-- `start_server` is cancelled. -/
def abandon (port : Port) (left : Bool) : DoIPServer :=
  if left then
    { s.endStartup false with
      listening := fun p => if p = port then true else s.listening p
      strays := s.strays ++ [port] }
  else s.endStartup false

/-- The endpoint is there; `start` of the announcer goes on to its first sleep. -/
def openEndpoint (protocol : UdpProtocol) : DoIPServer :=
  { s with
    udpAnnouncer := { s.udpAnnouncer with
      started := true
      protocol := some { protocol with transport := some 0 } }
    startup := .announcing 0 }

/-- An announcement and the sleep behind it; none behind the last. -/
def announce (count sent : Nat) : DoIPServer :=
  if sent < count then
    { s with
      udpAnnouncer := s.udpAnnouncer.announce
      startup := if sent + 1 < count then .announcing (sent + 1) else .done true }
  else s.endStartup true

/-- `except BaseException` of the announcer's `start`. -/
def failAnnouncing : DoIPServer :=
  { s.endStartup false with udpAnnouncer := s.udpAnnouncer.stop }

/-- One turn of `_start_resources`.  A task that was asked to cancel is
cancelled in its next turn. -/
def startupStep (cfg : Config) (outcome : Outcome) : Option DoIPServer :=
  if (s.startupCancelling = true ↔ ∃ left, outcome = .cancelled left) then
    match s.startup, outcome with
    | .created, .returns => some { s with startup := .binding .plain }
    -- its body is never entered
    | .created, .cancelled _ => some (s.endStartup false)
    | .binding port, .returns => some (s.record port)
    | .binding _, .raises => some (s.endStartup false)
    | .binding port, .cancelled left => some (s.abandon port left)
    | .endpoint, .returns =>
        match UdpProtocol.new cfg.doip with
        | some protocol => some (s.openEndpoint protocol)
        | none => some (s.endStartup false)
    | .endpoint, _ => some (s.endStartup false)
    | .announcing sent, .returns => some (s.announce cfg.announceCount sent)
    | .announcing _, _ => some s.failAnnouncing
    | _, _ => none
  else none

/-! ### `start`. -/

/-- `start`, up to its first await.  It is single-use: a second call raises,
and so does one behind a stop. -/
def callStart : DoIPServer :=
  if s.started = true ∨ s.sockets.closing = true then s
  else { s with started := true, start := .starting, startup := .created }

/-- The serving tasks are created, one for each listener. -/
def serve : DoIPServer :=
  { s with
    start := .serving
    serving := s.listeners.foldl Tasks.start s.serving
    serveTasks := s.serveTasks ++ s.listeners }

/-- `start` goes on. -/
def resumeStart : Option DoIPServer :=
  match s.start with
  | .starting =>
      match s.startup with
      | .done ok =>
          if ok = true ∧ s.startCancelled = false ∧ s.sockets.closing = false then some s.serve
          else some { s.stop with start := .stopping }
      | _ => none
  | .serving =>
      if s.serving .plain = .done ∨ s.serving .tls = .done then
        some { s.stop with start := .stopping }
      else none
  | .stopping => if s.cleanup = .done then some { s with start := .returned } else none
  | _ => none

/-- `start` is cancelled. -/
def cancelStart : Option DoIPServer :=
  match s.start with
  | .starting =>
      match s.startup with
      | .done _ => some { s with startCancelled := true }
      -- the cancellation goes on to the task that is awaited
      | _ => some { s with startupCancelling := true }
  | .serving =>
      some { s with startCancelled := true, serving := s.serving.cancel [.plain, .tls] }
  -- remembered until the clean-up is done
  | .stopping => some { s with startCancelled := true }
  | _ => none

/-- `serve_forever` of a listener ends.  A cancelled one has closed it. -/
def endServing (port : Port) : Option DoIPServer :=
  match s.serving port with
  | .running => some { s with serving := s.serving.settle port }
  | .cancelling =>
      some { s with
        serving := s.serving.settle port
        listening := fun p => if p = port then false else s.listening p }
  | _ => none

/-! ### The clean-up task. -/

/-- The last lines of `_cleanup`. -/
def release : DoIPServer :=
  { s with executorShutdown := true, sinksClosed := true, cleanup := .done }

/-- `_sessions`: those whose handler is in their `run` or `close`. -/
def sessions : List Writer :=
  s.sockets.connectionWriters.filter fun w =>
    s.sockets.handlers w = .running ∨ s.sockets.handlers w = .cleaning

/-- `close` of every session. -/
def closeSessions : DoIPServer :=
  match s.sessions with
  | [] => s.release
  | w :: ws =>
      { s with
        sockets := (w :: ws).foldl (fun sockets w => (sockets.endSession w).getD sockets) s.sockets
        cleanup := .closingSessions (w :: ws) }

/-- The announcer stops; the connection tasks are asked to cancel. -/
def cancelTasks : DoIPServer :=
  let s := { s with udpAnnouncer := s.udpAnnouncer.stop }
  match s.sockets.connectionWriters with
  | [] => s.closeSessions
  | w :: ws =>
      { s with cancelling := s.cancelling ++ (w :: ws), cleanup := .joiningTasks (w :: ws) }

def closeListeners : DoIPServer :=
  { s with
    listening := fun p => if p ∈ s.listeners then false else s.listening p
    listeners := []
    cleanup := .closingListeners }

/-- The serving tasks are asked to cancel. -/
def cancelServing : DoIPServer :=
  match s.serveTasks with
  | [] => s.closeListeners
  | p :: ps =>
      { s with
        serving := s.serving.cancel (p :: ps)
        serveTasks := []
        cleanup := .joiningServe (p :: ps) }

/-- One turn of `_cleanup`. -/
def cleanupStep : Option DoIPServer :=
  match s.cleanup with
  | .created =>
      match s.startup with
      | .absent => some s.cancelServing
      | .done _ => some { s with cleanup := .joiningStartup }
      | _ => some { s with startupCancelling := true, cleanup := .joiningStartup }
  | .joiningStartup =>
      match s.startup with
      | .done _ => some s.cancelServing
      | _ => none
  | .joiningServe snapshot => if s.serving.Joined snapshot then some s.closeListeners else none
  | .closingListeners => some s.cancelTasks
  -- `finished` is the first callback of a task: it has run before `gather` goes on
  | .joiningTasks snapshot =>
      if ∀ w ∈ snapshot, w ∉ s.sockets.connectionWriters then some s.closeSessions else none
  | .closingSessions snapshot =>
      if ∀ w ∈ snapshot, ∀ session, s.sockets.sessions w = some session → session.cleanup = .done
      then some s.release else none
  | .absent | .done => none

/-! ### Events. -/

/-- The steps of the sockets as they come in a server: a handler is cancelled
only when it was asked to, and does not start then. -/
def socketStep : Server.Event → Option DoIPServer
  | .construct _ | .stop => none
  | .start w setup raises =>
      if w ∈ s.cancelling then none
      else (s.sockets.step (.start w setup raises)).map fun sockets => { s with sockets }
  | .cancel w =>
      if w ∈ s.cancelling then
        (s.sockets.step (.cancel w)).map fun sockets =>
          { s with sockets, cancelling := s.cancelling.erase w }
      else none
  | .finished w =>
      if w ∈ s.sockets.connectionWriters then
        (s.sockets.step (.finished w)).map fun sockets => { s with sockets }
      else none
  | e => (s.sockets.step e).map fun sockets => { s with sockets }

/-- A datagram, or the timer of a reply, with the registry as it is. -/
def udpStep (f : UdpProtocol → UdpProtocol) : Option DoIPServer :=
  s.udpAnnouncer.protocol.map fun protocol =>
    { s with udpAnnouncer := { s.udpAnnouncer with protocol := some (f protocol) } }

end DoIPServer

inductive Event where
  | start
  | cancelStart
  | resumeStart
  | startup (outcome : Outcome)
  | endServing (port : Port)
  | stop
  | stopReturns
  | cleanup
  | socket (e : Server.Event)
  | datagram (data : Wire.Bytes) (address : Option Nat)
  | reply (id : Nat)

def step (cfg : Config) (s : DoIPServer) : Event → Option DoIPServer
  | .start => some s.callStart
  | .cancelStart => s.cancelStart
  | .resumeStart => s.resumeStart
  | .startup outcome => s.startupStep cfg outcome
  | .endServing port => s.endServing port
  | .stop => some { s.stop with stops := s.stops + 1 }
  | .stopReturns =>
      if 0 < s.stops ∧ s.cleanup = .done then some { s with stops := s.stops - 1, stopped := true }
      else none
  | .cleanup => s.cleanupStep
  | .socket e => s.socketStep e
  | .datagram data address => s.udpStep fun p => p.datagramReceived data address s.sockets.registry
  | .reply id => s.udpStep fun p => p.reply id

end DoipPlayground.EdgeNode.Lifecycle
