/-
  DoipPlayground.EdgeNode.Server
  ──────────────────────────────
  **EVERY SOCKET THE SERVER HAS TAKEN IN IS GIVEN BACK** (`server.py`,
  with the ends of `session.py` that give it back).

  A connection handler reserves its socket in its first step and runs to
  the first await of the session's loop without a pause: between the
  reservation and `attach` nothing else can happen.  Coroutines are cut at
  their awaits; an event lets one of them run to its next one.

    • `handleConnection`, `finish`, `scheduleCleanup`, `stop` — the four
      places that take a socket in or give one back,
    • `Ok` — a counted socket has a session that has not closed it,
    • `inbound_accounting` — what holds in every run.
-/
import DoipPlayground.EdgeNode.SocketRegistry
import DoipPlayground.Lib.Run

namespace DoipPlayground.EdgeNode.Sockets

/-! ## §1. The server. -/

/-- Where `_handle_connection` is. -/
inductive Handler where
  /-- There is none. -/
  | absent
  /-- Its task has not run yet. -/
  | created
  /-- `await session.run()`, in the session's loop. -/
  | running
  /-- It waits for the clean-up of its session. -/
  | cleaning
  /-- `await asyncio.wait_for(writer.wait_closed(), timeout=2.0)` -/
  | closing
  | ended
  deriving DecidableEq, Repr

/-- Where `_cleanup_task` is. -/
inductive Cleanup where
  | absent
  | live
  | done
  deriving DecidableEq, Repr

/-- A `DoIPSession`, as far as its socket is concerned. -/
structure Session where
  closing : Bool := false
  transportClosed : Bool := false
  cleanup : Cleanup := .absent
  deriving DecidableEq, Repr

structure Server where
  registry : SessionRegistry
  closing : Bool := false
  /-- The values of `_connection_writers`. -/
  connectionWriters : List Writer := []
  handlers : Writer → Handler := fun _ => .absent
  sessions : Writer → Option Session := fun _ => none

/-- How far `_run_connection` gets in its first step. -/
inductive Setup where
  | tlsFailed
  | middlewareFailed
  /-- Raised before `attach`. -/
  | constructorFailed
  /-- There is a session; `loops` unless its `run` raises before its loop. -/
  | constructed (loops : Bool)
  deriving DecidableEq, Repr

namespace Server

/-- `DoIPServer.__init__` -/
def new (config : Loader.DoIPConfig) : Option Server :=
  (SessionRegistry.new config.maxConnections).map fun registry => { registry }

def setHandler (s : Server) (w : Writer) (handler : Handler) : Server :=
  { s with handlers := Function.update s.handlers w handler }

def setSession (s : Server) (w : Writer) (session : Session) : Server :=
  { s with sessions := Function.update s.sessions w (some session) }

def release (s : Server) (w : Writer) : Server := { s with registry := s.registry.release w }

/-- `_close_transport_and_registry` of a session; a `close` that raises is
caught. -/
def closeTransportAndRegistry (s : Server) (w : Writer) (session : Session) : Server :=
  if session.transportClosed then s
  else (s.setSession w { session with transportClosed := true }).release w

/-- `_schedule_cleanup` -/
def scheduleCleanup (s : Server) (w : Writer) (session : Session) : Server :=
  let session := { session with closing := true }
  let s := s.closeTransportAndRegistry w session
  s.setSession w
    { session with
      transportClosed := true
      cleanup := if session.cleanup = .absent then .live else session.cleanup }

/-- The `finally` of `_handle_connection`; `raises` if `writer.close()` does. -/
def finish (s : Server) (w : Writer) (raises : Bool) : Server :=
  (s.release w).setHandler w (if raises then .ended else .closing)

/-- `_run_connection`, up to its first await. -/
def runConnection (s : Server) (w : Writer) (setup : Setup) (raises : Bool) : Server :=
  match setup with
  | .tlsFailed | .middlewareFailed | .constructorFailed => s.finish w raises
  | .constructed loops =>
      match s.registry.attach w w with
      -- the `RuntimeError` leaves through the handler's `finally`
      | none => s.finish w raises
      | some registry =>
          let s := { s with registry }
          if loops then (s.setSession w {}).setHandler w .running
          else (s.scheduleCleanup w {}).setHandler w .cleaning

/-- `_handle_connection`, up to its first await. -/
def handleConnection (s : Server) (w : Writer) (setup : Setup) (raises : Bool) : Server :=
  -- accepted before `stop`, but too late to run
  if s.closing then (s.release w).setHandler w .ended
  else
    match s.registry.reserve w with
    -- overflow: closed without a DoIP response, and never counted
    | none => s.setHandler w .ended
    | some registry => { s with registry }.runConnection w setup raises

/-- `_accept_connection` -/
def acceptConnection (s : Server) (w : Writer) : Server :=
  -- a late accept gets no task
  if s.closing then s.setHandler w .ended
  else
    { s with connectionWriters := s.connectionWriters ++ [w] }.setHandler w .created

/-- `stop`, up to its first await. -/
def stop (s : Server) : Server :=
  { s with
    closing := true
    registry := s.connectionWriters.foldl SessionRegistry.release s.registry }

inductive Event where
  /-- `_accept_connection` is called with a new writer. -/
  | accept (w : Writer)
  /-- The first step of its handler. -/
  | start (w : Writer) (setup : Setup) (raises : Bool)
  /-- A `DoIPSession` for a writer that has no handler. -/
  | construct (w : Writer)
  /-- `run` leaves its loop, for whatever reason. -/
  | leaveLoop (w : Writer)
  /-- One of the inactivity timers. -/
  | expire (w : Writer)
  | evict (w : Writer)
  /-- `close`, up to its first await. -/
  | close (w : Writer)
  /-- `_cleanup_task` has ended. -/
  | cleanupEnds (w : Writer)
  /-- The handler goes on after the clean-up. -/
  | resume (w : Writer) (raises : Bool)
  /-- `wait_closed` has returned, raised or run out of time. -/
  | closed (w : Writer)
  /-- A cancellation reaches the handler. -/
  | cancel (w : Writer)
  /-- The callback of its task. -/
  | finished (w : Writer)
  | stop
  deriving DecidableEq, Repr

/-- What ends a session from outside. -/
def endSession (s : Server) (w : Writer) : Option Server :=
  (s.sessions w).map fun session => s.scheduleCleanup w session

def step (s : Server) : Event → Option Server
  | .accept w =>
      if s.handlers w = .absent ∧ s.sessions w = none then some (s.acceptConnection w) else none
  | .start w setup raises =>
      if s.handlers w = .created then some (s.handleConnection w setup raises) else none
  | .construct w =>
      if s.handlers w = .absent ∧ s.sessions w = none then
        match s.registry.attach w w with
        | none => some s
        | some registry => some ({ s with registry }.setSession w {})
      else none
  | .leaveLoop w =>
      if s.handlers w = .running then
        (s.endSession w).map fun s => s.setHandler w .cleaning
      else none
  | .expire w | .evict w | .close w => s.endSession w
  | .cleanupEnds w =>
      match s.sessions w with
      | some session =>
          if session.cleanup = .live then some (s.setSession w { session with cleanup := .done })
          else none
      | none => none
  | .resume w raises =>
      match s.handlers w, s.sessions w with
      | .cleaning, some session =>
          -- `close` finds the clean-up done
          if session.cleanup = .done then some ((s.scheduleCleanup w session).finish w raises)
          else none
      | _, _ => none
  | .closed w => if s.handlers w = .closing then some (s.setHandler w .ended) else none
  | .cancel w =>
      match s.handlers w with
      -- its body is never entered
      | .created => some (s.setHandler w .ended)
      -- `run` catches it and cleans up
      | .running => (s.endSession w).map fun s => s.setHandler w .cleaning
      -- remembered until the clean-up is done
      | .cleaning => some s
      | .closing => some (s.setHandler w .ended)
      | _ => none
  | .finished w =>
      if s.handlers w = .ended then
        some { s with connectionWriters := s.connectionWriters.erase w }
      else none
  | .stop => some s.stop

/-- The socket is counted. -/
def Holds (s : Server) (w : Writer) : Prop := s.registry.Holds w

/-- Every socket that was ever counted. -/
def admitted (s : Server) : List Writer := s.registry.admitted

/-! ## §2. What is about one socket. -/

variable {s s' s'' : Server} {w v : Writer}

/-- Nothing changes but what is about `w`. -/
structure About (w : Writer) (s s' : Server) : Prop where
  handlers : ∀ v, v ≠ w → s'.handlers v = s.handlers v
  sessions : ∀ v, v ≠ w → s'.sessions v = s.sessions v
  holds : ∀ v, v ≠ w → s'.Holds v → s.Holds v
  admitted : ∀ v, v ≠ w → v ∈ s'.admitted → v ∈ s.admitted

namespace About

theorem trans (h : About w s s') (h' : About w s' s'') : About w s s'' where
  handlers v hv := (h'.handlers v hv).trans (h.handlers v hv)
  sessions v hv := (h'.sessions v hv).trans (h.sessions v hv)
  holds v hv hheld := h.holds v hv (h'.holds v hv hheld)
  admitted v hv hmem := h.admitted v hv (h'.admitted v hv hmem)

theorem setHandler (s : Server) (w : Writer) (handler : Handler) :
    About w s (s.setHandler w handler) where
  handlers v hv := by
    show Function.update s.handlers w handler v = s.handlers v
    exact Function.update_of_ne hv _ _
  sessions _ _ := rfl
  holds _ _ := id
  admitted _ _ := id

theorem setSession (s : Server) (w : Writer) (session : Session) :
    About w s (s.setSession w session) where
  handlers _ _ := rfl
  sessions v hv := by
    show Function.update s.sessions w (some session) v = s.sessions v
    exact Function.update_of_ne hv _ _
  holds _ _ := id
  admitted _ _ := id

theorem release (s : Server) (w : Writer) : About w s (s.release w) where
  handlers _ _ := rfl
  sessions _ _ := rfl
  holds _ _ hheld := (SessionRegistry.holds_release.mp hheld).2
  admitted _ _ := id

theorem setOwner (s : Server) (w session : Writer) :
    About w s { s with registry := { s.registry with
      openSockets := s.registry.openSockets.setOwner w session } } where
  handlers _ _ := rfl
  sessions _ _ := rfl
  holds v _ hheld := (SessionRegistry.holds_setOwner s.registry w v session).mp hheld
  admitted v _ hmem := by
    have hmem' : v ∈ SessionRegistry.admitted { s.registry with
      openSockets := s.registry.openSockets.setOwner w session } := hmem
    rw [SessionRegistry.admitted_setOwner] at hmem'
    exact hmem'

theorem closeTransportAndRegistry (s : Server) (w : Writer) (session : Session) :
    About w s (s.closeTransportAndRegistry w session) := by
  unfold Server.closeTransportAndRegistry
  split
  · exact ⟨fun _ _ => rfl, fun _ _ => rfl, fun _ _ => id, fun _ _ => id⟩
  · exact (About.setSession s w _).trans (About.release _ w)

theorem scheduleCleanup (s : Server) (w : Writer) (session : Session) :
    About w s (s.scheduleCleanup w session) :=
  (About.closeTransportAndRegistry s w _).trans (About.setSession _ w _)

theorem finish (s : Server) (w : Writer) (raises : Bool) : About w s (s.finish w raises) :=
  (About.release s w).trans (About.setHandler _ w _)

/-- A new socket is let in. -/
theorem letIn {registry : SessionRegistry}
    (hwho : ∀ v, registry.Holds v ↔ v = w ∨ s.registry.Holds v)
    (hadmitted : registry.admitted = s.registry.admitted ++ [w]) :
    About w s { s with registry } where
  handlers _ _ := rfl
  sessions _ _ := rfl
  holds v hv hheld := ((hwho v).mp hheld).resolve_left hv
  admitted v hv hmem := by
    have hmem' : v ∈ s.registry.admitted ++ [w] := hadmitted ▸ hmem
    rcases List.mem_append.mp hmem' with hold | hnew
    · exact hold
    · exact absurd (List.mem_singleton.mp hnew) hv

end About

/-! ## §3. The invariant. -/

/-- One socket: is it counted, was it ever, its handler and its session. -/
structure Sound (holds admitted : Prop) (handler : Handler) (session : Option Session) : Prop where
  /-- A counted socket has a session that has not closed it. -/
  held : holds → ∃ open_, session = some open_ ∧ open_.transportClosed = false
    ∧ (handler = .running ∨ handler = .absent)
  cleanup : ∀ ending, session = some ending → ending.cleanup ≠ .absent →
    ending.transportClosed = true
  used : admitted → session ≠ none ∨ handler ≠ .absent ∧ handler ≠ .created
  created : handler = .created → session = none

def SoundAt (s : Server) (w : Writer) : Prop :=
  Sound (s.Holds w) (w ∈ s.admitted) (s.handlers w) (s.sessions w)

structure Ok (s : Server) : Prop where
  sound : ∀ w, s.SoundAt w
  /-- No socket is admitted twice. -/
  once : s.admitted.Nodup

/-- A step about one socket. -/
theorem Ok.about (h : s.Ok) (habout : About w s s') (hself : s'.SoundAt w)
    (honce : s'.admitted.Nodup) : s'.Ok := by
  refine ⟨?_, honce⟩
  intro v
  by_cases hv : v = w
  · exact hv ▸ hself
  -- the invariant of another socket only asks for less
  · have hold := h.sound v
    unfold SoundAt at hold ⊢
    rw [habout.handlers v hv, habout.sessions v hv]
    exact ⟨fun hheld => hold.held (habout.holds v hv hheld), hold.cleanup,
      fun hmem => hold.used (habout.admitted v hv hmem), hold.created⟩

/-- A socket without a session is not counted. -/
theorem Ok.not_holds_of_none (h : s.Ok) (hnone : s.sessions w = none) : ¬ s.Holds w := by
  intro hheld
  obtain ⟨session, hsession, _⟩ := (h.sound w).held hheld
  rw [hnone] at hsession
  cases hsession

/-- A socket whose session has closed it is not counted. -/
theorem Ok.not_holds_of_closed {session : Session} (h : s.Ok)
    (hsession : s.sessions w = some session) (hclosed : session.transportClosed = true) :
    ¬ s.Holds w := by
  intro hheld
  obtain ⟨other, hother, hopen, _⟩ := (h.sound w).held hheld
  rw [hsession, Option.some.injEq] at hother
  rw [← hother, hclosed] at hopen
  cases hopen

/-- A handler that has not run yet has no session. -/
theorem Ok.not_created {session : Session} (h : s.Ok) (hsession : s.sessions w = some session) :
    s.handlers w ≠ .created := by
  intro hcreated
  have hnone := (h.sound w).created hcreated
  rw [hsession] at hnone
  cases hnone

/-- A socket that nothing has been done with was never counted. -/
theorem Ok.not_admitted (h : s.Ok) (hnone : s.sessions w = none)
    (hhandler : s.handlers w = .absent ∨ s.handlers w = .created) : w ∉ s.admitted := by
  intro hmem
  rcases (h.sound w).used hmem with hsome | ⟨habsent, hcreated⟩
  · exact hsome hnone
  · exact hhandler.elim habsent hcreated

theorem not_holds_release (s : Server) (w : Writer) : ¬ (s.release w).Holds w := by
  intro hheld
  exact (SessionRegistry.holds_release.mp hheld).1 rfl

/-- **A clean-up gives the socket back**, whoever starts it. -/
theorem Ok.not_holds_scheduleCleanup {session : Session} (h : s.Ok)
    (hsession : s.sessions w = some session) : ¬ (s.scheduleCleanup w session).Holds w := by
  show ¬ (s.closeTransportAndRegistry w { session with closing := true }).Holds w
  unfold closeTransportAndRegistry
  split
  · rename_i hclosed
    exact h.not_holds_of_closed hsession hclosed
  · exact not_holds_release _ w

/-! ## §4. What the steps do to the socket they are about. -/

@[simp] theorem handlers_setHandler (s : Server) (w : Writer) (handler : Handler) :
    (s.setHandler w handler).handlers w = handler := by
  show Function.update s.handlers w handler w = handler
  exact Function.update_self _ _ _

@[simp] theorem sessions_setHandler (s : Server) (w : Writer) (handler : Handler) :
    (s.setHandler w handler).sessions = s.sessions := rfl

@[simp] theorem sessions_setSession (s : Server) (w : Writer) (session : Session) :
    (s.setSession w session).sessions w = some session := by
  show Function.update s.sessions w (some session) w = some session
  exact Function.update_self _ _ _

@[simp] theorem handlers_setSession (s : Server) (w : Writer) (session : Session) :
    (s.setSession w session).handlers = s.handlers := rfl

theorem handlers_scheduleCleanup (s : Server) (w : Writer) (session : Session) :
    (s.scheduleCleanup w session).handlers = s.handlers := by
  show (s.closeTransportAndRegistry w _).handlers = s.handlers
  unfold closeTransportAndRegistry
  split <;> rfl

theorem admitted_scheduleCleanup (s : Server) (w : Writer) (session : Session) :
    (s.scheduleCleanup w session).admitted = s.admitted := by
  show (s.closeTransportAndRegistry w _).admitted = s.admitted
  unfold closeTransportAndRegistry
  split <;> rfl

/-- The session behind a clean-up. -/
theorem sessions_scheduleCleanup (s : Server) (w : Writer) (session : Session) :
    ∃ closed, (s.scheduleCleanup w session).sessions w = some closed
      ∧ closed.transportClosed = true := by
  refine ⟨_, sessions_setSession _ w _, rfl⟩

/-- A socket that is not counted. -/
theorem Sound.uncounted {holds admitted : Prop} {handler : Handler} {session : Option Session}
    (hholds : ¬ holds)
    (hcleanup : ∀ ending, session = some ending → ending.cleanup ≠ .absent →
      ending.transportClosed = true)
    (hused : admitted → session ≠ none ∨ handler ≠ .absent ∧ handler ≠ .created)
    (hcreated : handler = .created → session = none) : Sound holds admitted handler session :=
  ⟨fun hheld => absurd hheld hholds, hcleanup, hused, hcreated⟩

/-- A session that has just been constructed. -/
theorem Sound.opened {holds admitted : Prop} {handler : Handler}
    (hhandler : handler = .running ∨ handler = .absent) :
    Sound holds admitted handler (some {}) := by
  refine ⟨fun _ => ⟨_, rfl, rfl, hhandler⟩, ?_, fun _ => Or.inl (by simp), ?_⟩
  · intro ending hending hcleanup
    cases hending
    exact absurd rfl hcleanup
  · intro hcreated
    rw [hcreated] at hhandler
    rcases hhandler with hrunning | habsent
    · cases hrunning
    · cases habsent

/-- A session that has closed its transport. -/
theorem Sound.closed {holds admitted : Prop} {handler : Handler} {session : Session}
    (hholds : ¬ holds) (htransport : session.transportClosed = true)
    (hhandler : handler ≠ .created) : Sound holds admitted handler (some session) := by
  refine .uncounted hholds ?_ (fun _ => Or.inl (by simp)) (fun hcreated => absurd hcreated hhandler)
  intro ending hending _
  cases hending
  exact htransport

/-- The handler moves on, with a socket that is not counted. -/
theorem Ok.setHandler {handler : Handler} (h : s.Ok) (hholds : ¬ s.Holds w)
    (hused : w ∈ s.admitted → s.sessions w ≠ none ∨ handler ≠ .absent ∧ handler ≠ .created)
    (hcreated : handler = .created → s.sessions w = none) : (s.setHandler w handler).Ok := by
  refine h.about (About.setHandler s w handler) ?_ h.once
  unfold SoundAt
  rw [handlers_setHandler]
  exact .uncounted hholds (h.sound w).cleanup hused hcreated

/-- A session is ended, by whatever. -/
theorem Ok.scheduleCleanup {session : Session} (h : s.Ok) (hsession : s.sessions w = some session) :
    (s.scheduleCleanup w session).Ok := by
  obtain ⟨closed, hclosed, htransport⟩ := sessions_scheduleCleanup s w session
  refine h.about (About.scheduleCleanup s w session) ?_ ?_
  · unfold SoundAt
    rw [hclosed, handlers_scheduleCleanup]
    exact .closed (h.not_holds_scheduleCleanup hsession) htransport (h.not_created hsession)
  · rw [admitted_scheduleCleanup]
    exact h.once

theorem soundAt_finish (hcleanup : ∀ ending, s.sessions w = some ending →
    ending.cleanup ≠ .absent → ending.transportClosed = true) (raises : Bool) :
    (s.finish w raises).SoundAt w := by
  have hlate : ∀ late : Handler, late = (if raises then .ended else .closing) →
      late ≠ .absent ∧ late ≠ .created := by
    intro late hlate
    subst hlate
    cases raises <;> decide
  unfold SoundAt finish
  rw [handlers_setHandler]
  exact .uncounted (not_holds_release s w) hcleanup (fun _ => Or.inr (hlate _ rfl))
    (fun hcreated => absurd hcreated (hlate _ rfl).2)

/-- **The end of a handler**, whatever has become of its session. -/
theorem Ok.finish (h : s.Ok) (raises : Bool) : (s.finish w raises).Ok :=
  h.about (About.finish s w raises) (soundAt_finish (h.sound w).cleanup raises) h.once

/-- A handler whose socket has just been reserved. -/
theorem Ok.runConnection {registry : SessionRegistry} (h : s.Ok) (hnone : s.sessions w = none)
    (hhandler : s.handlers w = .created)
    (hwho : ∀ v, registry.Holds v ↔ v = w ∨ s.registry.Holds v)
    (hadmitted : registry.admitted = s.registry.admitted ++ [w]) (setup : Setup) (raises : Bool) :
    ({ s with registry }.runConnection w setup raises).Ok := by
  have hnew := h.not_admitted hnone (Or.inr hhandler)
  have honce : registry.admitted.Nodup := by
    rw [hadmitted, ← List.concat_eq_append]
    exact List.Nodup.concat hnew h.once
  have hin : About w s { s with registry } := About.letIn hwho hadmitted
  have hcleanup : ∀ ending, s.sessions w = some ending → ending.cleanup ≠ .absent →
      ending.transportClosed = true := (h.sound w).cleanup
  have hfinish : (Server.finish { s with registry } w raises).Ok :=
    h.about (hin.trans (About.finish _ w raises))
      (soundAt_finish (s := { s with registry }) hcleanup raises) honce
  unfold Server.runConnection
  split
  -- the three ways to fail before there is a session
  · exact hfinish
  · exact hfinish
  · exact hfinish
  · rename_i loops
    -- the place that was reserved is found again
    rw [SessionRegistry.attach_held ((hwho w).mpr (Or.inl rfl))]
    dsimp only
    have hsame := About.setOwner { s with registry } w w
    have honce' : (SessionRegistry.admitted
        { registry with openSockets := registry.openSockets.setOwner w w }).Nodup := by
      rw [SessionRegistry.admitted_setOwner]
      exact honce
    split
    -- the only way to keep a place: a session in its loop
    · refine h.about (((hin.trans hsame).trans (About.setSession _ w _)).trans
        (About.setHandler _ w _)) ?_ honce'
      unfold SoundAt
      rw [handlers_setHandler, sessions_setHandler, sessions_setSession]
      exact .opened (Or.inl rfl)
    · refine h.about (((hin.trans hsame).trans (About.scheduleCleanup _ w _)).trans
        (About.setHandler _ w _)) ?_ honce'
      unfold SoundAt
      rw [handlers_setHandler, sessions_setHandler]
      obtain ⟨closed, hclosed, htransport⟩ := sessions_scheduleCleanup
        { s with registry := { registry with
          openSockets := registry.openSockets.setOwner w w } } w {}
      rw [hclosed]
      exact .closed (not_holds_release _ w) htransport (by decide)

/-- A handler that is not in the session's loop ends. -/
theorem Ok.endHandler (h : s.Ok) (hhandler : s.handlers w ≠ .running ∧ s.handlers w ≠ .absent) :
    (s.setHandler w .ended).Ok := by
  refine h.setHandler ?_ (fun _ => Or.inr ⟨by decide, by decide⟩) ?_
  · intro hheld
    obtain ⟨_, _, _, hwhere⟩ := (h.sound w).held hheld
    exact hwhere.elim hhandler.1 hhandler.2
  · intro hcreated
    cases hcreated

/-- **The first step of a handler.** -/
theorem Ok.handleConnection (h : s.Ok) (hhandler : s.handlers w = .created) (setup : Setup)
    (raises : Bool) : (s.handleConnection w setup raises).Ok := by
  have hnone := (h.sound w).created hhandler
  have hholds := h.not_holds_of_none hnone
  unfold Server.handleConnection
  split
  · show (s.finish w true).Ok
    exact h.finish true
  · split
    · refine h.setHandler hholds (fun _ => Or.inr ⟨by decide, by decide⟩) ?_
      intro hcreated
      cases hcreated
    · rename_i registry hreserve
      obtain ⟨hwho, hadmitted⟩ := SessionRegistry.reserve_new hholds hreserve
      exact h.runConnection hnone hhandler hwho hadmitted setup raises

theorem Ok.acceptConnection (h : s.Ok) (hhandler : s.handlers w = .absent)
    (hnone : s.sessions w = none) : (s.acceptConnection w).Ok := by
  have hholds := h.not_holds_of_none hnone
  have hnew := h.not_admitted hnone (Or.inl hhandler)
  unfold Server.acceptConnection
  split
  · refine h.setHandler hholds (fun hmem => absurd hmem hnew) ?_
    intro hcreated
    cases hcreated
  · have hlisted : Ok { s with connectionWriters := s.connectionWriters ++ [w] } :=
      ⟨h.sound, h.once⟩
    exact hlisted.setHandler hholds (fun hmem => absurd hmem hnew) (fun _ => hnone)

/-- The loop of a session is left. -/
theorem Ok.leaveLoop {session : Session} (h : s.Ok) (hsession : s.sessions w = some session) :
    ((s.scheduleCleanup w session).setHandler w .cleaning).Ok := by
  obtain ⟨closed, hclosed, _⟩ := sessions_scheduleCleanup s w session
  refine (h.scheduleCleanup hsession).setHandler (h.not_holds_scheduleCleanup hsession)
    (fun _ => Or.inl (by rw [hclosed]; simp)) ?_
  intro hcreated
  cases hcreated

/-- The clean-up of a session has ended. -/
theorem Ok.cleaned {session : Session} (h : s.Ok) (hsession : s.sessions w = some session)
    (hlive : session.cleanup = .live) : (s.setSession w { session with cleanup := .done }).Ok := by
  have htransport := (h.sound w).cleanup session hsession (by rw [hlive]; decide)
  refine h.about (About.setSession s w _) ?_ h.once
  unfold SoundAt
  rw [sessions_setSession, handlers_setSession]
  exact .closed (h.not_holds_of_closed hsession htransport) htransport (h.not_created hsession)

/-- A session is constructed directly. -/
theorem Ok.construct {registry : SessionRegistry} (h : s.Ok) (hhandler : s.handlers w = .absent)
    (hnone : s.sessions w = none) (hattach : s.registry.attach w w = some registry) :
    ({ s with registry }.setSession w {}).Ok := by
  have hnew := h.not_admitted hnone (Or.inl hhandler)
  obtain ⟨hwho, hadmitted⟩ := SessionRegistry.attach_new (h.not_holds_of_none hnone) hattach
  refine h.about ((About.letIn hwho hadmitted).trans (About.setSession _ w _)) ?_ ?_
  · unfold SoundAt
    rw [sessions_setSession, handlers_setSession]
    exact .opened (Or.inr hhandler)
  · show registry.admitted.Nodup
    rw [hadmitted, ← List.concat_eq_append]
    exact List.Nodup.concat hnew h.once

theorem holds_foldl_release (writers : List Writer) (r : SessionRegistry) :
    (writers.foldl SessionRegistry.release r).admitted = r.admitted
      ∧ ∀ v, (writers.foldl SessionRegistry.release r).Holds v → r.Holds v := by
  induction writers generalizing r with
  | nil => exact ⟨rfl, fun _ => id⟩
  | cons w writers ih =>
      obtain ⟨hadmitted, hholds⟩ := ih (r.release w)
      exact ⟨hadmitted, fun v hv => (SessionRegistry.holds_release.mp (hholds v hv)).2⟩

theorem Ok.stop (h : s.Ok) : s.stop.Ok := by
  obtain ⟨hadmitted, hholds⟩ := holds_foldl_release s.connectionWriters s.registry
  refine ⟨?_, ?_⟩
  · intro v
    have hold := h.sound v
    refine ⟨fun hheld => hold.held (hholds v hheld), hold.cleanup, ?_, hold.created⟩
    intro hmem
    refine hold.used ?_
    show v ∈ s.registry.admitted
    rw [← hadmitted]
    exact hmem
  · show (s.connectionWriters.foldl SessionRegistry.release s.registry).admitted.Nodup
    rw [hadmitted]
    exact h.once

/-! ## §5. Steps and runs. -/

/-- **What a step can do.** -/
inductive Effect (s : Server) : Server → Prop where
  | accepted (w : Writer) (hhandler : s.handlers w = .absent) (hnone : s.sessions w = none) :
      Effect s (s.acceptConnection w)
  | started (w : Writer) (setup : Setup) (raises : Bool) (hhandler : s.handlers w = .created) :
      Effect s (s.handleConnection w setup raises)
  | constructed (w : Writer) (registry : SessionRegistry) (hhandler : s.handlers w = .absent)
      (hnone : s.sessions w = none) (hattach : s.registry.attach w w = some registry) :
      Effect s ({ s with registry }.setSession w {})
  | sessionEnds (w : Writer) (session : Session) (hsession : s.sessions w = some session) :
      Effect s (s.scheduleCleanup w session)
  | loopEnds (w : Writer) (session : Session) (hsession : s.sessions w = some session) :
      Effect s ((s.scheduleCleanup w session).setHandler w .cleaning)
  | cleaned (w : Writer) (session : Session) (hsession : s.sessions w = some session)
      (hlive : session.cleanup = .live) :
      Effect s (s.setSession w { session with cleanup := .done })
  | resumed (w : Writer) (session : Session) (raises : Bool)
      (hsession : s.sessions w = some session) :
      Effect s ((s.scheduleCleanup w session).finish w raises)
  | handlerEnds (w : Writer) (hhandler : s.handlers w = .created ∨ s.handlers w = .closing) :
      Effect s (s.setHandler w .ended)
  | unlisted (w : Writer) :
      Effect s { s with connectionWriters := s.connectionWriters.erase w }
  | stopped : Effect s s.stop
  | idle : Effect s s

theorem Effect.endSession (hs : s.endSession w = some s') : Effect s s' := by
  obtain ⟨session, hsession, rfl⟩ := Option.map_eq_some_iff.mp hs
  exact .sessionEnds w session hsession

theorem Effect.leaveLoop (hs : (s.endSession w).map (fun s => s.setHandler w .cleaning) = some s') :
    Effect s s' := by
  obtain ⟨ended, hended, rfl⟩ := Option.map_eq_some_iff.mp hs
  obtain ⟨session, hsession, rfl⟩ := Option.map_eq_some_iff.mp hended
  exact .loopEnds w session hsession

theorem effect_of_step {e : Event} (hstep : s.step e = some s') : Effect s s' := by
  cases e with
  | accept w =>
      obtain ⟨⟨hhandler, hnone⟩, hs⟩ := Option.ite_none_right_eq_some.mp hstep
      cases hs
      exact .accepted w hhandler hnone
  | start w setup raises =>
      obtain ⟨hhandler, hs⟩ := Option.ite_none_right_eq_some.mp hstep
      cases hs
      exact .started w setup raises hhandler
  | construct w =>
      obtain ⟨⟨hhandler, hnone⟩, hs⟩ := Option.ite_none_right_eq_some.mp hstep
      split at hs
      · cases hs
        exact .idle
      · rename_i registry hattach
        cases hs
        exact .constructed w registry hhandler hnone hattach
  | leaveLoop w =>
      obtain ⟨_, hs⟩ := Option.ite_none_right_eq_some.mp hstep
      exact .leaveLoop hs
  | expire w => exact .endSession hstep
  | evict w => exact .endSession hstep
  | close w => exact .endSession hstep
  | cleanupEnds w =>
      simp only [Server.step] at hstep
      split at hstep
      · rename_i session hsession
        obtain ⟨hlive, hs⟩ := Option.ite_none_right_eq_some.mp hstep
        cases hs
        exact .cleaned w session hsession hlive
      · cases hstep
  | resume w raises =>
      simp only [Server.step] at hstep
      split at hstep
      · rename_i session _ hsession
        obtain ⟨_, hs⟩ := Option.ite_none_right_eq_some.mp hstep
        cases hs
        exact .resumed w session raises hsession
      · cases hstep
  | closed w =>
      obtain ⟨hhandler, hs⟩ := Option.ite_none_right_eq_some.mp hstep
      cases hs
      exact .handlerEnds w (Or.inr hhandler)
  | cancel w =>
      simp only [Server.step] at hstep
      split at hstep
      · rename_i hhandler
        cases hstep
        exact .handlerEnds w (Or.inl hhandler)
      · exact .leaveLoop hstep
      · cases hstep
        exact .idle
      · rename_i hhandler
        cases hstep
        exact .handlerEnds w (Or.inr hhandler)
      · cases hstep
  | finished w =>
      obtain ⟨_, hs⟩ := Option.ite_none_right_eq_some.mp hstep
      cases hs
      exact .unlisted w
  | stop =>
      cases hstep
      exact .stopped

/-- **One step keeps the invariant.** -/
theorem Ok.effect (h : s.Ok) (heffect : Effect s s') : s'.Ok := by
  cases heffect with
  | accepted w hhandler hnone => exact h.acceptConnection hhandler hnone
  | started w setup raises hhandler => exact h.handleConnection hhandler setup raises
  | constructed w registry hhandler hnone hattach => exact h.construct hhandler hnone hattach
  | sessionEnds w session hsession => exact h.scheduleCleanup hsession
  | loopEnds w session hsession => exact h.leaveLoop hsession
  | cleaned w session hsession hlive => exact h.cleaned hsession hlive
  | resumed w session raises hsession => exact (h.scheduleCleanup hsession).finish raises
  | handlerEnds w hhandler =>
      refine h.endHandler ?_
      rcases hhandler with hcreated | hclosing
      · rw [hcreated]
        decide
      · rw [hclosing]
        decide
  | unlisted w => exact ⟨h.sound, h.once⟩
  | stopped => exact h.stop
  | idle => exact h

theorem later_scheduleCleanup (s : Server) (w : Writer) (session : Session) :
    s.registry.Later (s.scheduleCleanup w session).registry := by
  show s.registry.Later (s.closeTransportAndRegistry w _).registry
  unfold closeTransportAndRegistry
  split
  · exact .refl _
  · exact .release _ w

theorem later_runConnection (s : Server) (w : Writer) (setup : Setup) (raises : Bool) :
    s.registry.Later (s.runConnection w setup raises).registry := by
  unfold runConnection
  split
  · exact .release _ w
  · exact .release _ w
  · exact .release _ w
  · split
    · exact .release _ w
    · rename_i registry hattach
      have hlater := SessionRegistry.Later.attach hattach
      dsimp only
      split
      · exact hlater
      · exact hlater.trans (later_scheduleCleanup { s with registry } w {})

theorem later_handleConnection (s : Server) (w : Writer) (setup : Setup) (raises : Bool) :
    s.registry.Later (s.handleConnection w setup raises).registry := by
  unfold handleConnection
  split
  · exact .release _ w
  · split
    · exact .refl _
    · rename_i registry hreserve
      exact (SessionRegistry.Later.reserve hreserve).trans
        (later_runConnection { s with registry } w setup raises)

theorem later_foldl_release (writers : List Writer) (r : SessionRegistry) :
    r.Later (writers.foldl SessionRegistry.release r) := by
  induction writers generalizing r with
  | nil => exact .refl r
  | cons w writers ih => exact (SessionRegistry.Later.release r w).trans (ih (r.release w))

/-- **No step gives a place to a socket** without admitting it. -/
theorem Effect.later (heffect : Effect s s') : s.registry.Later s'.registry := by
  cases heffect with
  | accepted w _ _ =>
      unfold acceptConnection
      split <;> exact .refl _
  | started w setup raises _ => exact later_handleConnection s w setup raises
  | constructed w registry _ _ hattach => exact .attach hattach
  | sessionEnds w session _ => exact later_scheduleCleanup s w session
  | loopEnds w session _ => exact later_scheduleCleanup s w session
  | cleaned w session _ _ => exact .refl _
  | resumed w session raises _ => exact (later_scheduleCleanup s w session).trans (.release _ w)
  | handlerEnds w _ => exact .refl _
  | unlisted w => exact .refl _
  | stopped => exact later_foldl_release s.connectionWriters s.registry
  | idle => exact .refl _

theorem ok_run {es : List Event} (h : s.Ok) (hrun : Transition.exec Server.step s es = some s') :
    s'.Ok :=
  Transition.exec_invariant Ok (fun _ _ _ hok hstep => hok.effect (effect_of_step hstep))
    es s s' h hrun

theorem later_run {es : List Event} (hrun : Transition.exec Server.step s es = some s') :
    s.registry.Later s'.registry :=
  Transition.exec_invariant (fun t => s.registry.Later t.registry)
    (fun _ _ _ hlater hstep => hlater.trans (effect_of_step hstep).later) es s s' (.refl _) hrun

theorem ok_new {config : Loader.DoIPConfig} (h : Server.new config = some s) : s.Ok := by
  obtain ⟨registry, hregistry, rfl⟩ := Option.map_eq_some_iff.mp h
  obtain ⟨_, hregistry⟩ := Option.dite_none_right_eq_some.mp hregistry
  cases hregistry
  refine ⟨?_, List.nodup_nil⟩
  intro w
  refine .uncounted Reservations.not_held_empty ?_ ?_ (fun _ => rfl)
  · intro ending hending
    cases hending
  · intro hmem
    cases hmem

/-! ## §6. The accounting. -/

/-- What the sockets of a running server satisfy. -/
structure Accounting (config : Loader.DoIPConfig) (s : Server) : Prop where
  /-- No more sockets than there are places, and the count fits in a byte. -/
  bounded : (s.registry.openCount : Int) ≤ config.maxConnections + 1 ∧ s.registry.openCount ≤ 255
  status : (s.registry.statusPayload config).isSome = true
  /-- No socket is counted twice. -/
  once : s.registry.openSockets.places.keys.Nodup ∧ ∀ w, s.Holds w →
    s.registry.reserve w = some s.registry ∧ ∀ session, ∃ registry,
      s.registry.attach w session = some registry ∧ registry.openCount = s.registry.openCount
  /-- What a handler has reserved is free when the handler has ended. -/
  handlerEnded : ∀ w, s.handlers w = .ended → ¬ s.Holds w
  /-- The socket of a session is free when its `close` returns. -/
  sessionClosed : ∀ w session, s.sessions w = some session → session.cleanup = .done → ¬ s.Holds w
  /-- A socket is admitted once, and does not come back. -/
  neverReadded : s.admitted.Nodup ∧ ∀ w ∈ s.admitted, ¬ s.Holds w → ∀ es t,
    Transition.exec Server.step s es = some t → ¬ t.Holds w

theorem maxConnections_run {config : Loader.DoIPConfig} {s₀ : Server} {es : List Event}
    (hnew : Server.new config = some s₀) (hrun : Transition.exec Server.step s₀ es = some s) :
    (s.registry.maxConnections : Int) = config.maxConnections := by
  obtain ⟨registry, hregistry, rfl⟩ := Option.map_eq_some_iff.mp hnew
  obtain ⟨_, hregistry⟩ := Option.dite_none_right_eq_some.mp hregistry
  cases hregistry
  obtain ⟨sockets, hsame, _⟩ := later_run hrun
  rw [hsame]
  show ((config.maxConnections.toNat : Nat) : Int) = config.maxConnections
  omega

/-- A section with two places and the one more. -/
def twoConnections : VirtualEcu.Loader.Section :=
  [(.str "vin", .str "EDGENODE000000001"), (.str "eid", .str "0123456789AB"),
   (.str "gid", .str "0123456789ab"), (.str "node_type", .int 0), (.str "power_mode", .int 1),
   (.str "max_payload_bytes", .int 4096), (.str "max_connections", .int 2)]

/-- Four sockets for three places: one is turned away, one fails, one runs
out of time and one is cancelled by the stop. -/
def fourSockets : List Event :=
  [.accept 0, .start 0 (.constructed true) false, .accept 1, .start 1 .middlewareFailed true,
   .accept 2, .start 2 (.constructed true) false, .accept 3, .start 3 (.constructed false) false,
   .expire 0, .cleanupEnds 0, .leaveLoop 0, .resume 0 false, .closed 0, .finished 0, .stop,
   .cancel 2, .cleanupEnds 2, .resume 2 true, .close 2, .finished 2]

/-- **Inbound socket accounting**, in every order of accepts, failures,
session ends, timers, evictions, cancellations and stops. -/
theorem inbound_accounting {raw : VirtualEcu.Loader.Section} {config : Loader.DoIPConfig}
    (hconfig : Loader.loadDoip raw = .ok config) {s₀ s : Server}
    (hnew : Server.new config = some s₀) (es : List Event)
    (hrun : Transition.exec Server.step s₀ es = some s) : Accounting config s := by
  have hok : s.Ok := ok_run (ok_new hnew) hrun
  have hmax := maxConnections_run hnew hrun
  have hcount := s.registry.openCount_le
  have hrange := s.registry.range
  refine ⟨⟨by omega, by omega⟩, s.registry.statusPayload_isSome (Loader.loadDoip_ok hconfig),
    ⟨s.registry.openSockets.places.keys_nodup, ?_⟩, ?_, ?_, hok.once, ?_⟩
  · intro w hheld
    refine ⟨SessionRegistry.reserve_held hheld, ?_⟩
    intro session
    exact ⟨_, SessionRegistry.attach_held hheld session,
      Reservations.count_setOwner s.registry.openSockets w session⟩
  · intro w hended hheld
    obtain ⟨_, _, _, hwhere⟩ := (hok.sound w).held hheld
    rw [hended] at hwhere
    rcases hwhere with hrunning | habsent
    · cases hrunning
    · cases habsent
  · intro w session hsession hdone
    exact hok.not_holds_of_closed hsession
      ((hok.sound w).cleanup session hsession (by rw [hdone]; decide))
  · intro w hmem hreleased es' t hrun'
    exact (later_run hrun').not_holds (ok_run hok hrun').once hmem hreleased

theorem inbound_accounting_fourSockets :
    ∃ config s₀ s, Loader.loadDoip twoConnections = .ok config ∧ Server.new config = some s₀
      ∧ Transition.exec Server.step s₀ fourSockets = some s ∧ Accounting config s := by
  have hgoes : (match Loader.loadDoip twoConnections with
      | .ok config => ((Server.new config).bind fun s₀ =>
          Transition.exec Server.step s₀ fourSockets).isSome
      | .error _ => false) = true := by decide
  cases hconfig : Loader.loadDoip twoConnections with
  | error e =>
      rw [hconfig] at hgoes
      cases hgoes
  | ok config =>
      rw [hconfig] at hgoes
      obtain ⟨s, hs⟩ := Option.isSome_iff_exists.mp hgoes
      obtain ⟨s₀, hnew, hrun⟩ := Option.bind_eq_some_iff.mp hs
      exact ⟨config, s₀, s, rfl, hnew, hrun, inbound_accounting hconfig hnew fourSockets hrun⟩

end Server

end DoipPlayground.EdgeNode.Sockets
