/-
  DoipPlayground.EdgeNode.Quiescence
  ──────────────────────────────────
  **A CLOSING SESSION STARTS NOTHING.**

  Every step that writes, caches or creates a task looks at `_closing`
  first, with no await in between.

    • `Quiet` — from one state to the other nothing was written to the
      tester, no connection was cached, no task was created that times,
      reads or connects, and the clean-up did not go back,
    • `Cleaned` — what a step of the clean-up is,
    • `step_quiet` — every step of a closing session is quiet.
-/
import DoipPlayground.EdgeNode.SessionTasks

namespace DoipPlayground.EdgeNode.Teardown

open Wire

variable {cfg : Config} {me : Sid} {s s' s'' : Session}

/-! ## §1. What closing the transport changes. -/

/-- How far the clean-up is. -/
@[simp] def Cleanup.rank : Cleanup → Nat
  | .absent => 0
  | .scheduled => 1
  | .timers _ => 2
  | .connects _ => 3
  | .reads _ => 4
  | .conns _ => 5
  | .retirements _ => 6
  | .closes _ => 7
  | .writer => 8
  | .done => 9

theorem Cleanup.rank_schedule (phase : Cleanup) : phase.rank ≤ phase.schedule.rank := by
  cases phase <;> simp [Cleanup.schedule]

/-- Timers are cancelled, the socket is released and the address is given
up; nothing else changes. -/
theorem closeTransportAndRegistry_eq (s : Session) (me : Sid) : ∃ l sockets registry,
    s.closeTransportAndRegistry me = { s with
      transportClosed := true
      timers := s.timers.cancel l
      openSockets := sockets
      registry := registry } := by
  unfold Session.closeTransportAndRegistry
  split
  · rename_i hclosed
    refine ⟨[], s.openSockets, s.registry, ?_⟩
    rw [Tasks.cancel_nil, ← hclosed]
  · exact ⟨_, _, _, rfl⟩

theorem scheduleCleanup_eq (s : Session) (me : Sid) : ∃ l sockets registry,
    s.scheduleCleanup me = { s with
      closing := true
      transportClosed := true
      timers := s.timers.cancel l
      openSockets := sockets
      registry := registry
      cleanup := s.cleanup.schedule } := by
  obtain ⟨l, sockets, registry, heq⟩ :=
    closeTransportAndRegistry_eq { s with closing := true } me
  refine ⟨l, sockets, registry, ?_⟩
  unfold Session.scheduleCleanup
  rw [heq]

/-! ## §2. What the clean-up and its callers do. -/

/-- **A step of the clean-up**, with the tasks that it has waited for. -/
inductive Cleaned (me : Sid) (s : Session) : Session → Prop where
  | scheduled (u : Session) (hphase : s.cleanup = .scheduled)
      (hclosed : u = Session.closeTransportAndRegistry { s with closing := true } me) :
      Cleaned me s { u with
        timers := u.timers.cancel u.timerTasks
        cleanup := .timers u.timerTasks }
  | timers (snapshot : List Tid) (hphase : s.cleanup = .timers snapshot)
      (hjoined : s.timers.Joined snapshot) :
      Cleaned me s { s with
        timerTasks := []
        connects := s.connects.cancel s.connectTasks
        cleanup := .connects s.connectTasks }
  | connects (snapshot : List ConnId) (hphase : s.cleanup = .connects snapshot)
      (hjoined : s.connects.Joined snapshot) :
      Cleaned me s { s with
        connectTasks := []
        reads := s.reads.cancel ((OwnerTable.owners s.ecuReads).map (fun read => read.1))
        cleanup := .reads ((OwnerTable.owners s.ecuReads).map (fun read => read.1)) }
  | reads (snapshot : List Tid) (hphase : s.cleanup = .reads snapshot)
      (hjoined : s.reads.Joined snapshot) :
      Cleaned me s { s with
        ecuReads := ∅
        ecuConns := ∅
        cleanup := .conns (OwnerTable.owners s.ecuConns) }
  | conns (snapshot : List ConnId) (hphase : s.cleanup = .conns snapshot)
      (hjoined : s.closes.Joined snapshot) :
      Cleaned me s { s with cleanup := .retirements s.retirementTasks }
  | retirements (snapshot : List Tid) (hphase : s.cleanup = .retirements snapshot)
      (hjoined : s.retirements.Joined snapshot) :
      Cleaned me s { s with cleanup := .closes s.ecuCloseTasks }
  | closes (snapshot : List ConnId) (hphase : s.cleanup = .closes snapshot)
      (hjoined : s.closes.Joined snapshot) : Cleaned me s { s with cleanup := .writer }
  | writer (hphase : s.cleanup = .writer) : Cleaned me s { s with cleanup := .done }

theorem cleaned_of_cleanupStep (h : s.cleanupStep me = some s') : Cleaned me s s' := by
  unfold Session.cleanupStep at h
  split at h
  case h_1 | h_10 => cases h
  case h_2 hphase =>
    cases h
    exact .scheduled _ hphase rfl
  case h_9 hphase =>
    cases h
    exact .writer hphase
  all_goals
    rename_i hphase
    obtain ⟨hjoined, heq⟩ := Option.ite_none_right_eq_some.mp h
    cases heq
  case h_3 => exact .timers _ hphase hjoined
  case h_4 => exact .connects _ hphase hjoined
  case h_5 => exact .reads _ hphase hjoined
  case h_6 => exact .conns _ hphase hjoined
  case h_7 => exact .retirements _ hphase hjoined
  case h_8 => exact .closes _ hphase hjoined

/-- A step of a call of `close()`. -/
inductive Called (me : Sid) (s : Session) (k : Nat) : Session → Prop where
  | begun :
      Called me s k
        { s.scheduleCleanup me with callers := Function.update s.callers k (.waiting false) }
  | cancelled : Called me s k { s with callers := Function.update s.callers k (.waiting true) }
  | returned (cancelled : Bool) (hdone : s.cleanup = .done) :
      Called me s k { s with callers := Function.update s.callers k (.returned cancelled) }

theorem called_of_callerStep {k : Nat} {e : Session.CallerEvent}
    (h : s.callerStep me k e = some s') : Called me s k s' := by
  unfold Session.callerStep at h
  split at h
  · cases h
    exact .begun
  · cases h
    exact .cancelled
  · rw [Option.ite_none_right_eq_some, Option.some.injEq] at h
    obtain ⟨hdone, rfl⟩ := h
    exact .returned _ hdone
  · cases h

/-! ## §3. Nothing is started. -/

/-- From `s` to `s'` nothing was written, cached or started.  A connect, a
read or a timer is started where its task is created; the task may take its
first step later. -/
structure Quiet (s s' : Session) : Prop where
  written : s'.written = s.written
  cache : ∀ target c, s'.ecuConns.lookup target = some c → s.ecuConns.lookup target = some c
  timers : ∀ t, s'.timers t ≠ .unused → s.timers t ≠ .unused
  reads : ∀ t, s'.reads t ≠ .unused → s.reads t ≠ .unused
  connects : ∀ c, s'.connects c ≠ .unused → s.connects c ≠ .unused
  closing : s.closing = true → s'.closing = true
  cleanup : s.cleanup.rank ≤ s'.cleanup.rank

namespace Quiet

theorem refl (s : Session) : Quiet s s :=
  ⟨rfl, fun _ _ h => h, fun _ h => h, fun _ h => h, fun _ h => h, fun h => h, Nat.le_refl _⟩

theorem trans (h : Quiet s s') (h' : Quiet s' s'') : Quiet s s'' where
  written := h'.written.trans h.written
  cache := fun target c hc => h.cache target c (h'.cache target c hc)
  timers := fun t ht => h.timers t (h'.timers t ht)
  reads := fun t ht => h.reads t (h'.reads t ht)
  connects := fun c hc => h.connects c (h'.connects c hc)
  closing := fun hc => h'.closing (h.closing hc)
  cleanup := Nat.le_trans h.cleanup h'.cleanup

/-- What a step does not touch stays quiet. -/
theorem of_same (hwritten : s'.written = s.written) (hcache : s'.ecuConns = s.ecuConns)
    (htimers : ∀ t, s'.timers t = .unused ↔ s.timers t = .unused) (hreads : s'.reads = s.reads)
    (hconnects : ∀ c, s'.connects c = .unused ↔ s.connects c = .unused)
    (hclosing : s.closing = true → s'.closing = true)
    (hcleanup : s.cleanup.rank ≤ s'.cleanup.rank) : Quiet s s' where
  written := hwritten
  cache := fun target c h => by rwa [hcache] at h
  timers := fun t h => mt (htimers t).mpr h
  reads := fun t h => by rwa [hreads] at h
  connects := fun c h => mt (hconnects c).mpr h
  closing := hclosing
  cleanup := hcleanup

/-- A step that touches none of it. -/
theorem of_frame (hwritten : s'.written = s.written) (hcache : s'.ecuConns = s.ecuConns)
    (htimers : s'.timers = s.timers) (hreads : s'.reads = s.reads)
    (hconnects : s'.connects = s.connects) (hclosing : s'.closing = s.closing)
    (hcleanup : s'.cleanup = s.cleanup) : Quiet s s' :=
  .of_same hwritten hcache (fun t => by rw [htimers]) hreads (fun c => by rw [hconnects])
    (fun h => hclosing.trans h) (Nat.le_of_eq (by rw [hcleanup]))

/-- The clean-up goes on. -/
theorem nextPhase {phase : Cleanup} (h : s.cleanup.rank ≤ phase.rank) :
    Quiet s { s with cleanup := phase } :=
  .of_same rfl rfl (fun _ => .rfl) rfl (fun _ => .rfl) id h

theorem setLeg (s : Session) (c : ConnId) (leg : Leg) : Quiet s (s.setLeg c leg) :=
  .of_frame rfl rfl rfl rfl rfl rfl rfl

theorem setRun (s : Session) (p : Point) : Quiet s { s with run := p } :=
  .of_frame rfl rfl rfl rfl rfl rfl rfl

theorem scheduleCleanup (s : Session) (me : Sid) : Quiet s (s.scheduleCleanup me) := by
  obtain ⟨l, sockets, registry, heq⟩ := scheduleCleanup_eq s me
  rw [heq]
  exact .of_same rfl rfl (fun _ => Tasks.cancel_eq_unused) rfl (fun _ => .rfl) (fun _ => rfl)
    s.cleanup.rank_schedule

theorem leaveLoop (s : Session) (me : Sid) : Quiet s (s.leaveLoop me) :=
  (scheduleCleanup s me).trans (setRun _ _)

theorem closeEcuOnce (s : Session) (c : ConnId) : Quiet s (s.closeEcuOnce c) := by
  unfold Session.closeEcuOnce
  split
  · exact .of_frame rfl rfl rfl rfl rfl rfl rfl
  · exact .refl s

/-- A read that is taken over or forgotten was there before. -/
theorem forgetRead (s : Session) (target : Target) (read : Tid × ConnId) :
    Quiet s { s with ecuReads := OwnerTable.unregister s.ecuReads target read } :=
  .of_frame rfl rfl rfl rfl rfl rfl rfl

theorem recvFinally (s : Session) (target : Target) (t : Tid) :
    Quiet s (s.recvFinally target t) := by
  unfold Session.recvFinally
  split
  · split
    · exact forgetRead s _ _
    · exact .refl s
  · exact .refl s

theorem timerEnded {t : Tid} (ht : s.timers t ≠ .unused) : Quiet s (s.timerEnded t) where
  written := rfl
  cache := fun _ _ h => h
  timers := by
    intro u hu
    rcases eq_or_ne u t with rfl | hne
    · exact ht
    · exact fun h => hu (Tasks.settle_eq_unused.mpr ⟨hne, h⟩)
  reads := fun _ h => h
  connects := fun _ h => h
  closing := id
  cleanup := Nat.le_refl _

theorem setupEnded {c : ConnId} {leg : Leg} {o : Outcome} (hc : s.connects c ≠ .unused) :
    Quiet s (s.setupEnded c leg o) where
  written := rfl
  cache := fun _ _ h => h
  timers := fun _ h => h
  reads := fun _ h => h
  connects := by
    intro d hd
    rcases eq_or_ne d c with rfl | hne
    · exact hc
    · exact fun h => hd (Tasks.settle_eq_unused.mpr ⟨hne, h⟩)
  closing := id
  cleanup := Nat.le_refl _

theorem retireClose (s : Session) (r : Tid) (c : ConnId) : Quiet s (s.retireClose r c) :=
  (closeEcuOnce s c).trans (.of_frame rfl rfl rfl rfl rfl rfl rfl)

theorem retireEcuConnection {r : Tid} {target : Target} {c : ConnId} {p : Point}
    (h : s.retireEcuConnection r target c p = some s') : Quiet s s' := by
  unfold Session.retireEcuConnection at h
  split at h
  · cases h
    exact .of_frame rfl rfl rfl rfl rfl rfl rfl
  · cases h

/-- Taking a leg out of the cache. -/
theorem uncache (s : Session) (target : Target) (c : ConnId) :
    Quiet s { s with ecuConns := OwnerTable.unregister s.ecuConns target c } where
  written := rfl
  cache := by
    intro target' d h
    rw [OwnerTable.lookup_unregister] at h
    split at h
    · cases h
    · exact h
  timers := fun _ h => h
  reads := fun _ h => h
  connects := fun _ h => h
  closing := id
  cleanup := Nat.le_refl _

theorem retireDetach (s : Session) (r : Tid) (target : Target) (c : ConnId) :
    Quiet s (s.retireDetach r target c) := by
  unfold Session.retireDetach
  refine (uncache s target c).trans ?_
  dsimp only
  split
  · rename_i t owner _
    split
    · refine ⟨rfl, fun _ _ h => h, fun _ h => h, ?_, fun _ h => h, id, Nat.le_refl _⟩
      intro u hu
      exact mt Tasks.cancel_eq_unused.mpr hu
    · exact retireClose _ r c
  · exact retireClose _ r c

theorem retireStep {r : Tid} (h : s.retireStep r = some s') : Quiet s s' := by
  unfold Session.retireStep at h
  split at h
  · split at h
    · cases h
      exact retireDetach s _ _ _
    · split at h
      · cases h
        exact retireClose s _ _
      · cases h
    · split at h
      · cases h
        exact .of_frame rfl rfl rfl rfl rfl rfl rfl
      · cases h
  · cases h

/-! The steps that start something look at `_closing` first. -/

section
variable (hc : s.closing = true)
include hc

theorem sendRaw (data : Bytes) : Quiet s (s.sendRaw data) := by
  unfold Session.sendRaw
  rw [if_pos hc]
  exact .refl s

theorem resetInactivityTimer (t : Tid) : Quiet s (s.resetInactivityTimer t) := by
  unfold Session.resetInactivityTimer
  dsimp only
  rw [if_pos hc]
  exact .of_same rfl rfl (fun _ => Tasks.cancel_eq_unused) rfl (fun _ => .rfl) id
    (Nat.le_refl _)

/-- A connection that comes too late is closed, not cached. -/
theorem setupConnected (c : ConnId) : Quiet s (s.setupConnected c) := by
  unfold Session.setupConnected
  dsimp only
  rw [if_pos hc]
  exact (setLeg s c _).trans (closeEcuOnce _ c)

theorem setupStep {c : ConnId} {e : Session.SetupEvent} (h : s.setupStep c e = some s') :
    Quiet s s' := by
  simp only [Session.setupStep] at h
  split at h
  case isFalse => cases h
  case isTrue hlive =>
    have hused : s.connects c ≠ .unused := Tasks.Live.ne_unused hlive
    split at h
    · split at h <;> cases h
      · exact setupEnded hused
      · exact setLeg s c _
    · cases h
      exact setupConnected hc c
    · split at h <;> cases h
      exact setLeg s c _
    · cases h
      exact setupEnded hused
    · split at h <;> cases h
      exact setupEnded hused
    · cases h

theorem connectToEcu {target : Target} {replay : Bool} {c : ConnId}
    (h : s.connectToEcu cfg target replay c = some s') : Quiet s s' := by
  unfold Session.connectToEcu at h
  rw [if_pos hc] at h
  cases h
  exact setRun s _

theorem diagnose {target : Target} {replay : Bool} {fresh : Nat}
    (h : s.diagnose cfg target replay fresh = some s') : Quiet s s' := by
  unfold Session.diagnose at h
  rw [if_pos hc] at h
  cases h
  exact .refl s

theorem recvEcuFrame {target : Target} {c : ConnId} {t : Tid}
    (h : s.recvEcuFrame target c t = some s') : Quiet s s' := by
  unfold Session.recvEcuFrame at h
  rw [if_pos hc] at h
  cases h
  exact .refl s

end

theorem connectReturns {target : Target} {replay : Bool} {c : ConnId} {cancelled : Bool}
    (h : s.connectReturns me target replay c cancelled = some s') : Quiet s s' := by
  unfold Session.connectReturns at h
  split at h
  · cases h
    exact leaveLoop s me
  · split at h <;> cases h
    · exact setRun s _
    · exact setRun s _
    · exact setRun s _
    · exact leaveLoop s me

theorem runCancelled {r : Tid} (h : s.runCancelled me r = some s') : Quiet s s' := by
  unfold Session.runCancelled at h
  split at h
  case h_1 => cases h
  case h_2 => cases h
  case h_3 => cases h; exact leaveLoop s me
  case h_4 => cases h; exact leaveLoop s me
  case h_5 => cases h; exact setRun s _
  case h_6 =>
    split at h <;> cases h
    · exact .refl s
    · exact .of_same rfl rfl (fun _ => .rfl) rfl (fun _ => Tasks.cancel_eq_unused) id
        (Nat.le_refl _)
  case h_7 => exact retireEcuConnection h
  case h_8 => exact (recvFinally s _ _).trans (retireEcuConnection h)
  case h_9 => cases h; exact setRun s _
  case h_10 => cases h; exact .refl s

theorem runStep (hc : s.closing = true) {e : Session.RunEvent}
    (h : s.runStep cfg me e = some s') : Quiet s s' := by
  unfold Session.runStep at h
  split at h
  case h_1 =>
    rw [if_pos hc] at h
    cases h
    exact leaveLoop s me
  case h_2 => exact diagnose hc h
  case h_3 => cases h; exact leaveLoop s me
  case h_4 =>
    split at h
    · split at h
      · cases h
        exact leaveLoop s me
      · exact connectToEcu hc h
    · cases h
  case h_5 =>
    split at h
    · exact connectReturns h
    · cases h
  case h_6 => cases h; exact setRun s _
  case h_7 => exact recvEcuFrame hc h
  case h_8 =>
    split at h
    · cases h
      exact setRun s _
    · exact retireEcuConnection h
  case h_9 =>
    cases h
    exact (recvFinally s _ _).trans (setRun _ _)
  case h_10 =>
    split at h
    · split at h <;> cases h
      · exact leaveLoop s me
      · exact setRun s _
    · cases h
  case h_11 =>
    split at h <;> cases h
    exact setRun s _
  case h_12 => exact runCancelled h
  case h_13 => cases h

theorem cleanupStep (h : s.cleanupStep me = some s') : Quiet s s' := by
  cases cleaned_of_cleanupStep h with
  | scheduled u hphase hclosed =>
      obtain ⟨l, sockets, registry, heq⟩ :=
        closeTransportAndRegistry_eq { s with closing := true } me
      rw [hclosed, heq]
      refine .of_same rfl rfl ?_ rfl (fun _ => .rfl) (fun _ => rfl) (by simp [hphase])
      intro t
      exact Tasks.cancel_eq_unused.trans Tasks.cancel_eq_unused
  | timers _ hphase =>
      exact .of_same rfl rfl (fun _ => .rfl) rfl (fun _ => Tasks.cancel_eq_unused) id
        (by simp [hphase])
  | connects _ hphase =>
      exact ⟨rfl, fun _ _ h => h, fun _ h => h, fun _ => mt Tasks.cancel_eq_unused.mpr,
        fun _ h => h, id, by simp [hphase]⟩
  | reads _ hphase =>
      exact ⟨rfl, fun _ _ h => by simp at h, fun _ h => h, fun _ h => h, fun _ h => h, id,
        by simp [hphase]⟩
  | conns _ hphase | retirements _ hphase | closes _ hphase | writer hphase =>
      exact nextPhase (by simp [hphase])

theorem callerStep {k : Nat} {e : Session.CallerEvent} (h : s.callerStep me k e = some s') :
    Quiet s s' := by
  cases called_of_callerStep h with
  | begun => exact (scheduleCleanup s me).trans (.of_frame rfl rfl rfl rfl rfl rfl rfl)
  | cancelled | returned => exact .of_frame rfl rfl rfl rfl rfl rfl rfl

/-- The registry is no part of what is kept quiet. -/
theorem registryStep {e : Session.RegistryEvent} (h : s.registryStep cfg me e = some s') :
    Quiet s s' := by
  cases e with
  | register sa j =>
      simp only [Session.registryStep] at h
      split at h <;> cases h
      exact .of_frame rfl rfl rfl rfl rfl rfl rfl
  | unregister sa j =>
      simp only [Session.registryStep] at h
      split at h <;> cases h
      exact .of_frame rfl rfl rfl rfl rfl rfl rfl
  | reserve j =>
      simp only [Session.registryStep] at h
      split at h
      · cases h
      · split at h <;> cases h
        · exact .refl s
        · exact .of_frame rfl rfl rfl rfl rfl rfl rfl
  | release j =>
      cases h
      exact .of_frame rfl rfl rfl rfl rfl rfl rfl

end Quiet

/-- **A closing session starts nothing**, whichever task runs. -/
theorem step_quiet (hc : s.closing = true) {e : Event} (h : step cfg me s e = some s') :
    Quiet s s' := by
  cases e with
  | run e => exact Quiet.runStep hc h
  | setup c e => exact Quiet.setupStep hc h
  | retire r => exact Quiet.retireStep h
  | readEnded t =>
      simp only [step] at h
      split at h <;> cases h
      rename_i hlive
      refine ⟨rfl, fun _ _ h => h, fun _ h => h, ?_, fun _ h => h, id, Nat.le_refl _⟩
      intro u hu
      rcases eq_or_ne u t with rfl | hne
      · exact Tasks.Live.ne_unused hlive
      · exact fun h => hu (Tasks.settle_eq_unused.mpr ⟨hne, h⟩)
  | timerExpired t =>
      simp only [step] at h
      split at h <;> cases h
      rename_i hrunning
      obtain ⟨l, sockets, registry, heq⟩ := scheduleCleanup_eq s me
      refine (Quiet.scheduleCleanup s me).trans (Quiet.timerEnded ?_)
      rw [heq]
      exact mt Tasks.cancel_eq_unused.mp (by simp [hrunning])
  | timerCancelled t =>
      simp only [step] at h
      split at h <;> cases h
      rename_i hcancelling
      exact Quiet.timerEnded (by simp [hcancelling])
  | closeEnded c =>
      simp only [step] at h
      split at h <;> cases h
      exact .of_frame rfl rfl rfl rfl rfl rfl rfl
  | terminated c => cases h; exact Quiet.setLeg s c _
  | cleanup => exact Quiet.cleanupStep h
  | cleanupClose c =>
      simp only [step, Session.cleanupClose] at h
      split at h
      · split at h <;> cases h
        exact Quiet.closeEcuOnce s c
      · cases h
  | sendRaw data => cases h; exact Quiet.sendRaw hc data
  | resetInactivityTimer t =>
      simp only [step] at h
      split at h <;> cases h
      exact Quiet.resetInactivityTimer hc t
  | cancelInitialTimer =>
      cases h
      exact .of_same rfl rfl (fun _ => Tasks.cancel_eq_unused) rfl (fun _ => .rfl) id
        (Nat.le_refl _)
  | activate sa =>
      cases h
      unfold Session.activate
      rw [if_pos (.inl hc)]
      exact .refl s
  | evict => cases h; exact Quiet.scheduleCleanup s me
  | caller k e => exact Quiet.callerStep h
  | registry e => exact Quiet.registryStep h

end DoipPlayground.EdgeNode.Teardown
