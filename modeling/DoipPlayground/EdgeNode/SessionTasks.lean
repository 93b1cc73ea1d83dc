/-
  DoipPlayground.EdgeNode.SessionTasks
  ────────────────────────────────────
  **THE TASKS OF ONE SESSION AND THE CONNECTIONS THEY HAND AROUND.**

  The code modelled is `session.py`: `run` with the diagnostic exchange,
  `_connect_to_ecu` and its child, `_recv_ecu_frame`, retirement,
  `_close_ecu_once`, the two inactivity timers, `close`, `evict` and the
  clean-up.  Every coroutine is cut at its awaits; an event lets one of
  them run to its next await, so a list of events is one interleaving.

  Three liberties, each of which only adds interleavings:

    • `_send_raw`, the inactivity timers and routing activation are events
      of their own, not tied to where `run` is suspended,
    • an await on an empty snapshot or a finished task may still suspend,
    • an exchange may stop, fail or complete at any of its awaits.

  A task is started where the session creates it.  Of an `ECUConnection`
  the session sees `connected`, the end of `connect` and the end of
  `close`: `connect` closes what it has opened before it raises, and a
  `close` that runs into its timeout has closed the transport.  A session
  without a registry has neither reservation nor registration.
-/
import DoipPlayground.EdgeNode.Session
import DoipPlayground.Lib.Bytes
import DoipPlayground.Lib.Tasks

namespace DoipPlayground.EdgeNode.Teardown

open Wire

/-- A logical address of an ECU. -/
abbrev Target := Nat

/-- The identity of an `ECUConnection`, and of the task that connects it. -/
abbrev ConnId := Nat

/-- The identity of any other task. -/
abbrev Tid := Nat

structure Config where
  /-- The addresses `lookup_by_ecu_addr` finds. -/
  routes : List Target
  maxConnections : Nat

/-! ## §1. Connections. -/

/-- Where `connect_owned` is. -/
inductive Setup where
  /-- The task has not run yet. -/
  | created
  /-- `await conn.connect(...)` -/
  | connecting
  /-- `connect` is closing a set-up that failed or was cancelled. -/
  | failing (cancelled : Bool)
  /-- `await self._close_ecu_once(conn)`: the session was closing. -/
  | closing
  deriving DecidableEq, Repr

/-- How `connect_owned` ended. -/
inductive Outcome where
  | conn
  /-- It returned `None`. -/
  | nothing
  | failed
  | cancelled
  deriving DecidableEq, Repr

/-- An `ECUConnection` with the child that connects it. -/
structure Leg where
  target : Target := 0
  setup : Setup := .created
  outcome : Option Outcome := none
  /-- `connect` has been entered. -/
  opened : Bool := false
  /-- `connect` has returned. -/
  established : Bool := false
  /-- `ecu_conn.connected` -/
  connected : Bool := false
  /-- How often the session has called `ecu_conn.close()`. -/
  closeCalls : Nat := 0
  /-- Its transport is closed. -/
  closed : Bool := false
  deriving DecidableEq, Repr

/-- Where `_retire_ecu_leg` is. -/
inductive Retirement where
  /-- The task has not run yet. -/
  | created (target : Target) (conn : ConnId)
  /-- `await asyncio.gather(task, ...)` on the read it has taken over. -/
  | draining (conn : ConnId) (read : Tid)
  /-- `await self._close_ecu_once(ecu_conn)` -/
  | closing (conn : ConnId)
  deriving DecidableEq, Repr

def Retirement.conn : Retirement → ConnId
  | .created _ c | .draining c _ | .closing c => c

/-! ## §2. The coroutines that own no connection. -/

/-- Where `_cleanup_impl` is; each `gather` has its snapshot. -/
inductive Cleanup where
  /-- `_cleanup_task is None` -/
  | absent
  /-- The task has not run yet. -/
  | scheduled
  | timers (snapshot : List Tid)
  | connects (snapshot : List ConnId)
  | reads (snapshot : List Tid)
  | conns (snapshot : List ConnId)
  | retirements (snapshot : List Tid)
  | closes (snapshot : List ConnId)
  /-- `self.writer.wait_closed()` -/
  | writer
  | done
  deriving DecidableEq, Repr

/-- `if self._cleanup_task is None: ... create_task(...)` -/
def Cleanup.schedule : Cleanup → Cleanup
  | .absent => .scheduled
  | c => c

/-- Where `run` is suspended. -/
inductive Point where
  | notStarted
  /-- Any await of the session loop and its handlers but the ones below. -/
  | serving
  /-- `_retire_ecu_connection` on a dead cached leg, before a new connect. -/
  | retiringStale (target : Target) (replay : Bool) (retirement : Tid) (cancelled : Bool)
  /-- `await asyncio.shield(connect_task)`; `cancelled` in its handler of
  `CancelledError`. -/
  | connecting (target : Target) (replay : Bool) (conn : ConnId) (cancelled : Bool)
  /-- `await ecu_conn.send(raw)` in `send_to_ecu` -/
  | injecting
  /-- Any await in the `try` of `_exchange_with_ecu` but the next. -/
  | exchanging (target : Target) (conn : ConnId)
  /-- `await asyncio.wait_for(asyncio.shield(task), ...)` -/
  | receiving (target : Target) (conn : ConnId) (read : Tid)
  /-- The `finally` of `_exchange_with_ecu`; `raising` when an exception or
  a cancellation is on its way out. -/
  | retiring (retirement : Tid) (raising : Bool)
  /-- `await self._cleanup()` -/
  | cleaning
  | returned
  deriving DecidableEq, Repr

/-- A call of `close()` by another task. -/
inductive Caller where
  | absent
  | waiting (cancelled : Bool)
  | returned (cancelled : Bool)
  deriving DecidableEq, Repr

/-- One session with the registry it is in. -/
structure Session where
  closing : Bool := false
  transportClosed : Bool := false
  activated : Bool := false
  testerLogicalAddr : Option SA := none
  /-- The registry's `_sessions`. -/
  registry : SessionRegistry := ∅
  /-- The registry's `_open_sockets`. -/
  openSockets : List Sid
  /-- What was written to the tester. -/
  written : List Bytes := []
  timers : Tasks Tid := fun _ => .unused
  timerTasks : List Tid := []
  initialTimerTask : Option Tid := none
  inactivityTask : Option Tid := none
  legs : ConnId → Leg := fun _ => {}
  connects : Tasks ConnId := fun _ => .unused
  connectTasks : List ConnId := []
  ecuConns : OwnerTable Target ConnId := ∅
  reads : Tasks Tid := fun _ => .unused
  /-- `_ecu_read_tasks` with `_ecu_read_owners`. -/
  ecuReads : OwnerTable Target (Tid × ConnId) := ∅
  closes : Tasks ConnId := fun _ => .unused
  /-- The keys of `_ecu_close_tasks`; a connection nobody can close again
  may have been collected. -/
  ecuCloseTasks : List ConnId := []
  retirements : Tasks Tid := fun _ => .unused
  retirement : Tid → Retirement := fun _ => .created 0 0
  retirementTasks : List Tid := []
  cleanup : Cleanup := .absent
  run : Point := .notStarted
  callers : Nat → Caller := fun _ => .absent

/-- `__init__` of the session `me`, which reserves its socket. -/
def Session.init (me : Sid) : Session where
  openSockets := [me]

namespace Session

def setLeg (s : Session) (c : ConnId) (leg : Leg) : Session :=
  { s with legs := Function.update s.legs c leg }

/-! ## §3. Writing, timers and the start of the clean-up. -/

/-- `_send_raw`, up to the drain. -/
def sendRaw (s : Session) (data : Bytes) : Session :=
  if s.closing then s else { s with written := s.written ++ [data] }

/-- `_new_timer` -/
def newTimer (s : Session) (t : Tid) : Session :=
  { s with timers := s.timers.start t, timerTasks := t :: s.timerTasks }

/-- A timer has ended and its callback has taken it off `_timer_tasks`. -/
def timerEnded (s : Session) (t : Tid) : Session :=
  { s with timers := s.timers.settle t, timerTasks := s.timerTasks.filter (· ≠ t) }

/-- `_start_initial_timer` -/
def startInitialTimer (s : Session) (t : Tid) : Session :=
  if s.closing then s else { s.newTimer t with initialTimerTask := some t }

/-- `_reset_inactivity_timer` -/
def resetInactivityTimer (s : Session) (t : Tid) : Session :=
  let s := { s with timers := s.timers.cancel s.inactivityTask.toList }
  if s.closing then s else { s.newTimer t with inactivityTask := some t }

/-- A Routing Activation Request has arrived. -/
def cancelInitialTimer (s : Session) : Session :=
  { s with timers := s.timers.cancel s.initialTimerTask.toList, initialTimerTask := none }

/-- `if self.tester_logical_addr is not None: ... unregister(...)` -/
def unregisterAddr (registry : SessionRegistry) (me : Sid) : Option SA → SessionRegistry
  | some sa => SessionRegistry.unregister registry sa me
  | none => registry

/-- `_close_transport_and_registry` -/
def closeTransportAndRegistry (s : Session) (me : Sid) : Session :=
  if s.transportClosed then s
  else
    { s with
      transportClosed := true
      timers := s.timers.cancel (s.initialTimerTask.toList ++ s.inactivityTask.toList)
      openSockets := s.openSockets.filter (· ≠ me)
      registry := unregisterAddr s.registry me s.testerLogicalAddr }

/-- `_schedule_cleanup` -/
def scheduleCleanup (s : Session) (me : Sid) : Session :=
  let s := { s with closing := true }.closeTransportAndRegistry me
  { s with cleanup := s.cleanup.schedule }

/-- The commit of `_activate_with_conflict_check`; a socket that is
activated under another address is turned away at the head of the handler. -/
def activate (s : Session) (me : Sid) (sa : SA) : Session :=
  if s.closing ∨ (s.activated ∧ s.testerLogicalAddr ≠ some sa) then s
  else
    { s with
      testerLogicalAddr := some sa
      activated := true
      registry := SessionRegistry.register s.registry sa me }

/-- `run` has left its loop: `finally: await self._cleanup()`. -/
def leaveLoop (s : Session) (me : Sid) : Session :=
  { s.scheduleCleanup me with run := .cleaning }

/-! ## §4. Closing and retiring a connection. -/

/-- `_close_ecu_once`, up to its await. -/
def closeEcuOnce (s : Session) (c : ConnId) : Session :=
  if s.closes c = .unused then
    { s.setLeg c { s.legs c with closeCalls := (s.legs c).closeCalls + 1 } with
      closes := s.closes.start c
      ecuCloseTasks := c :: s.ecuCloseTasks }
  else s

/-- `close_owned` has ended. -/
def closeEnded (s : Session) (c : ConnId) : Session :=
  { s.setLeg c { s.legs c with connected := false, closed := true } with
    closes := s.closes.settle c }

/-- `_retire_ecu_connection`, up to its await, at `p`. -/
def retireEcuConnection (s : Session) (r : Tid) (target : Target) (c : ConnId) (p : Point) :
    Option Session :=
  if s.retirements r = .unused then
    some { s with
      retirements := s.retirements.start r
      retirement := Function.update s.retirement r (.created target c)
      retirementTasks := r :: s.retirementTasks
      run := p }
  else none

/-- The end of `_retire_ecu_leg`: `await self._close_ecu_once(ecu_conn)`. -/
def retireClose (s : Session) (r : Tid) (c : ConnId) : Session :=
  { s.closeEcuOnce c with retirement := Function.update s.retirement r (.closing c) }

/-- `_retire_ecu_leg` up to its first await. -/
def retireDetach (s : Session) (r : Tid) (target : Target) (c : ConnId) : Session :=
  let s := { s with ecuConns := OwnerTable.unregister s.ecuConns target c }
  match s.ecuReads.lookup target with
  | some (t, owner) =>
      if owner = c then
        { s with
          ecuReads := OwnerTable.unregister s.ecuReads target (t, owner)
          reads := s.reads.cancel [t]
          retirement := Function.update s.retirement r (.draining c t) }
      else s.retireClose r c
  | none => s.retireClose r c

/-- One step of the task of a retirement. -/
def retireStep (s : Session) (r : Tid) : Option Session :=
  if s.retirements.Live r then
    match s.retirement r with
    | .created target c => some (s.retireDetach r target c)
    | .draining c t => if s.reads t = .done then some (s.retireClose r c) else none
    | .closing c =>
        if s.closes c = .done then
          some { s with
            retirements := s.retirements.settle r
            retirementTasks := s.retirementTasks.filter (· ≠ r) }
        else none
  else none

/-! ## §5. Connecting. -/

/-- `connect_owned` has ended and its callback has taken it off
`_connect_tasks`. -/
def setupEnded (s : Session) (c : ConnId) (leg : Leg) (o : Outcome) : Session :=
  { s.setLeg c { leg with outcome := some o } with
    connects := s.connects.settle c
    connectTasks := s.connectTasks.filter (· ≠ c) }

/-- `conn.connect` has returned. -/
def setupConnected (s : Session) (c : ConnId) : Session :=
  let leg := { s.legs c with established := true, connected := true }
  if s.closing then (s.setLeg c { leg with setup := .closing }).closeEcuOnce c
  else
    { s.setupEnded c leg .conn with ecuConns := OwnerTable.register s.ecuConns leg.target c }

/-- What can happen to `connect_owned`. -/
inductive SetupEvent where
  /-- Its first step. -/
  | first
  | connected
  | raised (cancelled : Bool)
  | last
  deriving DecidableEq, Repr

/-- One step of `connect_owned`.  A cancellation that meets the end of
`connect` may be lost, so `connected` is open to a cancelled task. -/
def setupStep (s : Session) (c : ConnId) (e : SetupEvent) : Option Session :=
  if s.connects.Live c then
    let leg := s.legs c
    match leg.setup, e with
    | .created, .first =>
        -- a task cancelled before its first step never enters its body
        if s.connects c = .cancelling then some (s.setupEnded c leg .cancelled)
        else some (s.setLeg c { leg with setup := .connecting, opened := true })
    | .connecting, .connected => some (s.setupConnected c)
    | .connecting, .raised cancelled =>
        if cancelled ∧ s.connects c ≠ .cancelling then none
        else some (s.setLeg c { leg with setup := .failing cancelled, connected := false })
    | .failing cancelled, .last =>
        -- `connected` is false here: the handler of `connect_owned` closes nothing
        some (s.setupEnded c { leg with closed := true }
          (if cancelled then .cancelled else .failed))
    | .closing, .last =>
        if s.closes c = .done then
          some (s.setupEnded c leg (if s.connects c = .cancelling then .cancelled else .nothing))
        else none
    | _, _ => none
  else none

/-- `_connect_to_ecu`, up to its await. -/
def connectToEcu (s : Session) (cfg : Config) (target : Target) (replay : Bool) (c : ConnId) :
    Option Session :=
  if s.closing then some { s with run := .serving }
  else if target ∉ cfg.routes then some { s with run := .serving }  -- a NACK 0x03 is sent
  else if s.connects c = .unused then
    some { s.setLeg c { target := target } with
      connects := s.connects.start c
      connectTasks := c :: s.connectTasks
      run := .connecting target replay c false }
  else none

/-! ## §6. The `run` task. -/

/-- The handler has a connection: an exchange, or the send of a replay. -/
def useLeg (s : Session) (target : Target) (replay : Bool) (c : ConnId) : Session :=
  { s with
    run :=
      if s.closing then .serving
      else if replay then .injecting
      else .exchanging target c }

/-- `_handle_diagnostic` and `send_to_ecu` from the look-up on.  `fresh` is
the identity of the task that is created. -/
def diagnose (s : Session) (cfg : Config) (target : Target) (replay : Bool) (fresh : Nat) :
    Option Session :=
  if s.closing then some s
  else
    match s.ecuConns.lookup target with
    | some c =>
        if (s.legs c).connected then some (s.useLeg target replay c)
        else s.retireEcuConnection fresh target c (.retiringStale target replay fresh false)
    | none => s.connectToEcu cfg target replay fresh

/-- `_connect_to_ecu` once its child is done. -/
def connectReturns (s : Session) (me : Sid) (target : Target) (replay : Bool) (c : ConnId)
    (cancelled : Bool) : Option Session :=
  if cancelled then some (s.leaveLoop me)
  else
    match (s.legs c).outcome with
    | some .conn => some (s.useLeg target replay c)
    | some .nothing => some { s with run := .serving }
    | some .failed => some { s with run := .serving }  -- a NACK 0x06 is sent
    | some .cancelled => some (s.leaveLoop me)
    | none => none

/-- `_recv_ecu_frame`, up to its await.  A read that belongs to another
connection raises, which ends the exchange. -/
def recvEcuFrame (s : Session) (target : Target) (c : ConnId) (t : Tid) : Option Session :=
  if s.closing then some s
  else
    match s.ecuReads.lookup target with
    | some (t', owner) =>
        if owner = c then some { s with run := .receiving target c t' } else some s
    | none =>
        if s.reads t = .unused then
          some { s with
            reads := s.reads.start t
            ecuReads := OwnerTable.register s.ecuReads target (t, c)
            run := .receiving target c t }
        else none

/-- The `finally` of `_recv_ecu_frame`. -/
def recvFinally (s : Session) (target : Target) (t : Tid) : Session :=
  match s.ecuReads.lookup target with
  | some (t', owner) =>
      if s.reads t = .done ∧ t' = t then
        { s with ecuReads := OwnerTable.unregister s.ecuReads target (t', owner) }
      else s
  | none => s

/-- What can happen to `run`. -/
inductive RunEvent where
  /-- `run()` is called. -/
  | start (t : Tid)
  /-- A diagnostic message has passed the middleware, or is replayed by it. -/
  | diagnose (target : Target) (replay : Bool) (fresh : Nat)
  /-- The awaited retirement is done. -/
  | retired (fresh : Nat)
  /-- The awaited connect is done. -/
  | connected
  | injected
  | receive (t : Tid)
  /-- A frame has come, or the wait has elapsed. -/
  | received
  /-- The exchange leaves its `try`. -/
  | exchanged (completed raising : Bool) (r : Tid)
  /-- The loop ends or raises. -/
  | ends
  /-- `CancelledError` comes out of the await: `run` was cancelled, or what
  it awaits was. -/
  | cancelled (r : Tid)
  /-- The awaited clean-up is done. -/
  | joined
  deriving DecidableEq, Repr

/-- `CancelledError` at the await where `run` is suspended. -/
def runCancelled (s : Session) (me : Sid) (r : Tid) : Option Session :=
  match s.run with
  | .notStarted | .returned => none
  | .serving | .injecting => some (s.leaveLoop me)
  | .retiringStale target replay r' _ =>
      some { s with run := .retiringStale target replay r' true }
  | .connecting target replay c cancelled =>
      if cancelled then some s
      else
        some { s with
          connects := s.connects.cancel [c]
          run := .connecting target replay c true }
  | .exchanging target c => s.retireEcuConnection r target c (.retiring r true)
  | .receiving target c t =>
      (s.recvFinally target t).retireEcuConnection r target c (.retiring r true)
  | .retiring r' _ => some { s with run := .retiring r' true }
  | .cleaning => some s

/-- One step of `run`. -/
def runStep (s : Session) (cfg : Config) (me : Sid) (e : RunEvent) : Option Session :=
  match s.run, e with
  | .notStarted, .start t =>
      if s.closing then some (s.leaveLoop me)
      else if s.timers t = .unused then some { s.startInitialTimer t with run := .serving }
      else none
  | .serving, .diagnose target replay fresh => s.diagnose cfg target replay fresh
  | .serving, .ends => some (s.leaveLoop me)
  | .retiringStale target replay r cancelled, .retired fresh =>
      if s.retirements r = .done then
        if cancelled then some (s.leaveLoop me) else s.connectToEcu cfg target replay fresh
      else none
  | .connecting target replay c cancelled, .connected =>
      if s.connects c = .done then s.connectReturns me target replay c cancelled else none
  | .injecting, .injected => some { s with run := .serving }
  | .exchanging target c, .receive t => s.recvEcuFrame target c t
  | .exchanging target c, .exchanged completed raising r =>
      if completed then some { s with run := .serving }
      else s.retireEcuConnection r target c (.retiring r raising)
  | .receiving target c t, .received =>
      some { s.recvFinally target t with run := .exchanging target c }
  | .retiring r raising, .retired _ =>
      if s.retirements r = .done then
        if raising then some (s.leaveLoop me) else some { s with run := .serving }
      else none
  | .cleaning, .joined => if s.cleanup = .done then some { s with run := .returned } else none
  | _, .cancelled r => s.runCancelled me r
  | _, _ => none

/-! ## §7. The clean-up. -/

/-- One step of `_cleanup_impl`. -/
def cleanupStep (s : Session) (me : Sid) : Option Session :=
  match s.cleanup with
  | .absent => none
  | .scheduled =>
      let s := { s with closing := true }.closeTransportAndRegistry me
      some { s with timers := s.timers.cancel s.timerTasks, cleanup := .timers s.timerTasks }
  | .timers snapshot =>
      if s.timers.Joined snapshot then
        some { s with
          timerTasks := []
          connects := s.connects.cancel s.connectTasks
          cleanup := .connects s.connectTasks }
      else none
  | .connects snapshot =>
      if s.connects.Joined snapshot then
        let tasks := (OwnerTable.owners s.ecuReads).map (fun read => read.1)
        some { s with
          connectTasks := []
          reads := s.reads.cancel tasks
          cleanup := .reads tasks }
      else none
  | .reads snapshot =>
      if s.reads.Joined snapshot then
        some { s with
          ecuReads := ∅
          ecuConns := ∅
          cleanup := .conns (OwnerTable.owners s.ecuConns) }
      else none
  | .conns snapshot =>
      if s.closes.Joined snapshot then
        some { s with cleanup := .retirements s.retirementTasks }
      else none
  | .retirements snapshot =>
      if s.retirements.Joined snapshot then
        some { s with cleanup := .closes s.ecuCloseTasks }
      else none
  | .closes snapshot =>
      if s.closes.Joined snapshot then some { s with cleanup := .writer } else none
  | .writer => some { s with cleanup := .done }
  | .done => none

/-- The first step of `_close_ecu_once(conn)` in the `gather` over the
connections of the snapshot. -/
def cleanupClose (s : Session) (c : ConnId) : Option Session :=
  match s.cleanup with
  | .conns snapshot => if c ∈ snapshot then some (s.closeEcuOnce c) else none
  | _ => none

/-! ## §8. The calls of `close()` and the rest of the registry. -/

/-- What a caller of `close()` does. -/
inductive CallerEvent where
  | call
  | cancelled
  | returns
  deriving DecidableEq, Repr

/-- `close()` joins the clean-up; a cancellation is raised after it. -/
def callerStep (s : Session) (me : Sid) (k : Nat) (e : CallerEvent) : Option Session :=
  match s.callers k, e with
  | .absent, .call =>
      some { s.scheduleCleanup me with callers := Function.update s.callers k (.waiting false) }
  | .waiting _, .cancelled =>
      some { s with callers := Function.update s.callers k (.waiting true) }
  | .waiting cancelled, .returns =>
      if s.cleanup = .done then
        some { s with callers := Function.update s.callers k (.returned cancelled) }
      else none
  | _, _ => none

/-- What other sessions and the server do to the registry. -/
inductive RegistryEvent where
  | register (sa : SA) (j : Sid)
  | unregister (sa : SA) (j : Sid)
  | reserve (j : Sid)
  /-- The server also releases the socket of this session. -/
  | release (j : Sid)
  deriving DecidableEq, Repr

def registryStep (s : Session) (cfg : Config) (me : Sid) : RegistryEvent → Option Session
  | .register sa j =>
      if j = me then none else some { s with registry := SessionRegistry.register s.registry sa j }
  | .unregister sa j =>
      if j = me then none
      else some { s with registry := SessionRegistry.unregister s.registry sa j }
  | .reserve j =>
      if j = me then none
      else if j ∈ s.openSockets ∨ cfg.maxConnections + 1 ≤ s.openSockets.length then some s
      else some { s with openSockets := j :: s.openSockets }
  | .release j => some { s with openSockets := s.openSockets.filter (· ≠ j) }

end Session

/-! ## §9. The system. -/

inductive Event where
  | run (e : Session.RunEvent)
  | setup (c : ConnId) (e : Session.SetupEvent)
  | retire (r : Tid)
  /-- A read of an ECU has ended. -/
  | readEnded (t : Tid)
  /-- A timer has run out. -/
  | timerExpired (t : Tid)
  | timerCancelled (t : Tid)
  | closeEnded (c : ConnId)
  /-- The connection has become unusable. -/
  | terminated (c : ConnId)
  | cleanup
  | cleanupClose (c : ConnId)
  | sendRaw (data : Bytes)
  | resetInactivityTimer (t : Tid)
  | cancelInitialTimer
  | activate (sa : SA)
  | evict
  | caller (k : Nat) (e : Session.CallerEvent)
  | registry (e : Session.RegistryEvent)
  deriving DecidableEq, Repr

/-- One task runs to its next await. -/
def step (cfg : Config) (me : Sid) (s : Session) : Event → Option Session
  | .run e => s.runStep cfg me e
  | .setup c e => s.setupStep c e
  | .retire r => s.retireStep r
  | .readEnded t => if s.reads.Live t then some { s with reads := s.reads.settle t } else none
  | .timerExpired t =>
      if s.timers t = .running then some ((s.scheduleCleanup me).timerEnded t) else none
  | .timerCancelled t => if s.timers t = .cancelling then some (s.timerEnded t) else none
  | .closeEnded c => if s.closes.Live c then some (s.closeEnded c) else none
  | .terminated c => some (s.setLeg c { s.legs c with connected := false })
  | .cleanup => s.cleanupStep me
  | .cleanupClose c => s.cleanupClose c
  | .sendRaw data => some (s.sendRaw data)
  | .resetInactivityTimer t =>
      if s.timers t = .unused then some (s.resetInactivityTimer t) else none
  | .cancelInitialTimer => some s.cancelInitialTimer
  | .activate sa => some (s.activate me sa)
  | .evict => some (s.scheduleCleanup me)
  | .caller k e => s.callerStep me k e
  | .registry e => s.registryStep cfg me e

end DoipPlayground.EdgeNode.Teardown
