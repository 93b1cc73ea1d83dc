/-
  DoipPlayground.VirtualEcu.Privileges
  ────────────────────────────────────
  **NO PRIVILEGES WITHOUT A TIMER** (`refresh_s3`,
  `maybe_drop_session_state`).

  Whether a socket's end keeps the entry of its tester depends on session,
  security level and seed; whether a timer is armed depends on the session
  alone.

    • `Timed` — an entry outside the default session has its timer armed,
    • `Watched` — an entry without a socket is outside the default session,
    • `no_immortal_privileges` — both, over runs whose sockets end in a tidy
      state or outside the default session,
    • `seed_outlives_tester` — a seed requested in the default session stays.
-/
import DoipPlayground.VirtualEcu.Continuity

namespace DoipPlayground.VirtualEcu

open Wire

variable {cfg : EcuConfig} {w w' : World} {i j : Sid} {sa : SA} {st : StateId}

/-! ## §1. Entries and their timers. -/

/-- A state whose timer runs outside the default session. -/
def SessionState.Ticks (cfg : EcuConfig) (s : SessionState) : Prop :=
  s.sessionType ≠ cfg.uds.defaultSession → s.s3Armed = true

/-- The states in the table have their timers running. -/
def EcuCore.Timed (cfg : EcuConfig) (c : EcuCore) : Prop :=
  ∀ sa st, c.sessionStates sa = some st → (c.states st).Ticks cfg

theorem refreshS3_ticks (hs3 : 0 < cfg.uds.s3ServerMs) (s : SessionState) :
    (s.refreshS3 cfg).Ticks cfg := by
  unfold SessionState.refreshS3 SessionState.Ticks
  split
  · rename_i hdefault
    exact fun h => absurd hdefault h
  · rw [if_neg (by omega)]
    exact fun _ => rfl

/-- A service leaves the timer of the state it changes running. -/
theorem StateEffect.ticks (hs3 : 0 < cfg.uds.s3ServerMs) {s s' : SessionState}
    (h : StateEffect cfg s s') (hs : s.Ticks cfg) : s'.Ticks cfg := by
  cases h with
  | same => exact hs
  | entered sub _ => exact refreshS3_ticks hs3 _
  | refreshed => exact refreshS3_ticks hs3 s
  | security => exact hs

namespace EcuCore.Timed

variable {c c' : EcuCore}

theorem setState (hc : c.Timed cfg) (st : StateId) {s : SessionState} (hs : s.Ticks cfg) :
    (c.setState st s).Timed cfg := by
  intro sa st' hl
  rw [setState_states]
  split
  · exact hs
  · exact hc sa st' hl

theorem maybeDrop (hc : c.Timed cfg) (testerAddr : Option SA) (st : StateId) :
    (c.maybeDropSessionState cfg testerAddr st).Timed cfg := by
  intro sa st' hl hsession
  have hl' := (Shrinks.maybeDrop cfg c testerAddr st).table sa st' hl
  rcases maybeDrop_states cfg c testerAddr st st' with h | ⟨_, htidy, h⟩
  · rw [h] at hsession ⊢
    exact hc sa st' hl' hsession
  · rw [h] at hsession
    exact absurd htidy.1 hsession

theorem s3Expiry (hc : c.Timed cfg) (st : StateId) : (c.s3Expiry cfg st).Timed cfg :=
  (hc.setState st (fun h => absurd rfl h)).maybeDrop _ st

theorem sessionFor (hc : c.Timed cfg) (src : SA) : (c.sessionFor cfg src).1.Timed cfg := by
  unfold EcuCore.sessionFor
  split
  · exact hc
  · intro sa st hl hsession
    dsimp only at hl hsession ⊢
    by_cases hst : st = c.nextState
    · rw [hst, Function.update_self] at hsession
      exact absurd rfl hsession
    · rw [Function.update_of_ne hst] at hsession ⊢
      by_cases hsa : sa = src
      · rw [hsa, Function.update_self, Option.some.injEq] at hl
        exact absurd hl.symm hst
      · rw [Function.update_of_ne hsa] at hl
        exact hc sa st hl hsession

/-- The entry of one tester is deleted; no other tester has its state. -/
theorem dropSessionState (hc : c.Timed cfg)
    (htable : ∀ sa st, c.sessionStates sa = some st → (c.states st).testerAddr = some sa)
    (src : SA) : (c.dropSessionState src).Timed cfg := by
  unfold EcuCore.dropSessionState
  split
  · rename_i st hst
    intro sa st' hl hsession
    dsimp only at hl hsession ⊢
    by_cases hsa : sa = src
    · rw [hsa, Function.update_self] at hl
      cases hl
    · rw [Function.update_of_ne hsa] at hl
      have hne : st' ≠ st := by
        rintro rfl
        have h := htable sa st' hl
        rw [htable src st' hst, Option.some.injEq] at h
        exact hsa h.symm
      rw [setState_states, if_neg hne] at hsession ⊢
      exact hc sa st' hl hsession
  · exact hc

theorem dispatch (hs3 : 0 < cfg.uds.s3ServerMs) (hc : c.Timed cfg)
    (htable : ∀ sa st, c.sessionStates sa = some st → (c.states st).testerAddr = some sa)
    (request : UdsRequest) (st : StateId) :
    (VirtualEcu.dispatch cfg request st c).1.Timed cfg := by
  have heffect := dispatch_effect cfg request st c
  generalize (VirtualEcu.dispatch cfg request st c).1 = c' at heffect ⊢
  cases heffect with
  | served s d h =>
      intro sa st' hl
      show (c.setState st s).states st' |>.Ticks cfg
      rw [setState_states]
      split
      · rename_i heq
        exact h.ticks hs3 (heq ▸ hc sa st' hl)
      · exact hc sa st' hl
  | reset d _ _ => exact hc.setState st (fun h => absurd rfl h)
  | dropped d _ _ => exact hc.dropSessionState htable request.sourceAddr

end EcuCore.Timed

/-! ## §2. The condition. -/

/-- Socket `i` is activated for `sa` and has not given its state back. -/
def World.Attached (w : World) (i : Sid) (sa : SA) : Prop :=
  (w.sessions i).activated = true ∧ (w.sessions i).testerAddr = some sa
    ∧ (w.sessions i).released = false

/-- Tester `sa` has a socket. -/
def World.HasSocket (w : World) (sa : SA) : Prop := ∃ i, w.Attached i sa

/-- The entry of `sa` is outside the default session, or it is the state of
socket `i` and tidy, or there is none. -/
def EntryTimed (cfg : EcuConfig) (w : World) (i : Sid) (sa : SA) : Prop :=
  match w.core.sessionStates sa with
  | none => True
  | some st => (w.core.states st).sessionType ≠ cfg.uds.defaultSession
      ∨ ((w.sessions i).state = some st ∧ (w.core.states st).Tidy cfg)

/-- The end of socket `i` leaves its tester another socket, or an entry
with a timer, or none. -/
def EndsTimed (cfg : EcuConfig) (w : World) (i : Sid) : Prop :=
  match (w.sessions i).testerAddr with
  | none => True
  | some sa => (∃ j < w.opened, j ≠ i ∧ w.Attached j sa) ∨ EntryTimed cfg w i sa

/-- The condition on the steps of a run: sockets end as above, unless the
prober takes over the address, and no request is served for a tester
without a socket. -/
def Guarded (cfg : EcuConfig) (w : World) : Event → Prop
  | .probeReturned i =>
      match (w.sessions i).pump with
      | .probing _ existing =>
          (w.probes i existing).map Probe.phase = some (.done false) →
            SessionRegistry.len (w.unregister existing).registry < cfg.doip.maxConcurrentSessions
              ∨ EndsTimed cfg w existing
      | _ => True
  | .workerStopped i => EndsTimed cfg w i
  | .dispatch i =>
      match (w.sessions i).testerAddr with
      | some sa => ∃ j < w.opened, w.Attached j sa
      | none => True
  | _ => True

instance World.Attached.decidable (w : World) (i : Sid) (sa : SA) : Decidable (w.Attached i sa) :=
  inferInstanceAs (Decidable (_ ∧ _ ∧ _))

instance EntryTimed.decidable (cfg : EcuConfig) (w : World) (i : Sid) (sa : SA) :
    Decidable (EntryTimed cfg w i sa) := by
  unfold EntryTimed
  rcases w.core.sessionStates sa <;> infer_instance

instance EndsTimed.decidable (cfg : EcuConfig) (w : World) (i : Sid) :
    Decidable (EndsTimed cfg w i) := by
  unfold EndsTimed
  rcases (w.sessions i).testerAddr <;> infer_instance

instance Guarded.decidable (cfg : EcuConfig) (w : World) (e : Event) :
    Decidable (Guarded cfg w e) := by
  unfold Guarded
  rcases e <;> dsimp only <;> try infer_instance
  · rcases (w.sessions _).pump <;> infer_instance
  · rcases (w.sessions _).testerAddr <;> infer_instance

/-! ## §3. Entries without a socket. -/

/-- Every entry has a socket of its tester, or is outside the default
session; the tester `off` is left out. -/
def WatchedExcept (cfg : EcuConfig) (off : Option SA) (w : World) : Prop :=
  ∀ sa st, off ≠ some sa → w.core.sessionStates sa = some st →
    w.HasSocket sa ∨ (w.core.states st).sessionType ≠ cfg.uds.defaultSession

abbrev Watched (cfg : EcuConfig) (w : World) : Prop := WatchedExcept cfg none w

theorem Quiet.attached (h : Quiet w w') (i : Sid) (sa : SA) :
    w'.Attached i sa ↔ w.Attached i sa := by
  unfold World.Attached
  rw [h.activated, h.testerAddr, h.released]

theorem EndsTimed.quiet (hend : EndsTimed cfg w i) (h : Quiet w w') : EndsTimed cfg w' i := by
  unfold EndsTimed EntryTimed at hend ⊢
  rw [h.core, h.state, h.testerAddr, h.opened]
  simp only [h.attached]
  exact hend

theorem releaseState_attached (w : World) (i j : Sid) (sa : SA) :
    (w.releaseState cfg i).Attached j sa ↔ j ≠ i ∧ w.Attached j sa := by
  unfold World.Attached World.releaseState
  simp only [World.set_sessions]
  by_cases hj : j = i
  · simp [hj]
  · simp [hj]

theorem releaseState_sessionType (w : World) (i : Sid) (st : StateId) :
    ((w.releaseState cfg i).core.states st).sessionType = (w.core.states st).sessionType := by
  rcases releaseState_states cfg w i st with h | ⟨_, h⟩
  · rw [h]
  · rw [h]
    rfl

theorem releaseState_shrinks (w : World) (i : Sid) :
    EcuCore.Shrinks w.core (w.releaseState cfg i).core := by
  unfold World.releaseState
  dsimp only
  split
  · exact EcuCore.Shrinks.maybeDrop cfg _ _ _
  · exact EcuCore.Shrinks.refl _

namespace WatchedExcept

variable {off : Option SA}

theorem quiet (hw : WatchedExcept cfg off w) (h : Quiet w w') : WatchedExcept cfg off w' := by
  intro sa st hoff hl
  rw [h.core] at hl ⊢
  refine (hw sa st hoff hl).imp_left ?_
  rintro ⟨j, hj⟩
  exact ⟨j, (h.attached j sa).mpr hj⟩

/-- A socket ends: only its own tester may be left with an entry in the
default session and no socket. -/
theorem releaseState (hw : Watched cfg w) (i : Sid) :
    WatchedExcept cfg (w.sessions i).testerAddr (w.releaseState cfg i) := by
  intro sa st hoff hl
  rw [releaseState_sessionType]
  refine (hw sa st (by simp) ((releaseState_shrinks w i).table sa st hl)).imp_left ?_
  rintro ⟨j, hj⟩
  refine ⟨j, (releaseState_attached w i j sa).mpr ⟨?_, hj⟩⟩
  rintro rfl
  exact hoff hj.2.1

/-- The condition covers the tester of the socket. -/
theorem releaseState_timed (hw : Watched cfg w) (hend : EndsTimed cfg w i) :
    Watched cfg (w.releaseState cfg i) := by
  intro sa st _ hl
  by_cases haddr : (w.sessions i).testerAddr = some sa
  · have hentry := (releaseState_shrinks w i).table sa st hl
    simp only [EndsTimed, haddr, EntryTimed, hentry] at hend
    rw [releaseState_sessionType]
    rcases hend with ⟨j, _, hne, hj⟩ | hsession | ⟨hst, htidy⟩
    · exact .inl ⟨j, (releaseState_attached w i j sa).mpr ⟨hne, hj⟩⟩
    · exact .inr hsession
    · -- a tidy entry has just been deleted
      have hgone : (w.releaseState cfg i).core.sessionStates sa = none := by
        unfold World.releaseState
        simp only [hst]
        rw [EcuCore.maybeDrop_sessionStates, if_pos]
        exact EcuCore.dropped_eq_some.mpr ⟨haddr, hentry, htidy⟩
      rw [hgone] at hl
      cases hl
  · exact releaseState hw i sa st haddr hl

/-- A socket takes over an address: its entry has a socket again. -/
theorem occupy (hshape : Shape w) {src : SA} (hw : WatchedExcept cfg (some src) w)
    (hrel : (w.sessions i).released = false) (hact : (w.sessions i).activated = false) :
    Watched cfg (w.occupy cfg i src) := by
  have hspec := EcuCore.sessionFor_spec cfg w.core src
  intro sa st _ hl
  by_cases hsa : sa = src
  · refine .inl ⟨i, ?_⟩
    unfold World.Attached World.occupy
    simp [hsa, hrel]
  · have hl' : w.core.sessionStates sa = some st := (hspec.others sa hsa).symm.trans hl
    have hstate : (w.occupy cfg i src).core.states st = w.core.states st :=
      hspec.states st (hshape.table sa st hl').1
    rw [hstate]
    refine (hw sa st (by simpa using Ne.symm hsa) hl').imp_left ?_
    rintro ⟨j, hj⟩
    have hne : j ≠ i := by
      rintro rfl
      exact absurd (hact.symm.trans hj.1) (by simp)
    refine ⟨j, ?_⟩
    unfold World.Attached at hj ⊢
    unfold World.occupy
    simpa [hne] using hj

theorem evict (hw : Watched cfg w) (i : Sid) (answered : Bool) :
    WatchedExcept cfg (w.sessions i).testerAddr (w.evict cfg i answered) := by
  have hquiet := Quiet.stopWork w i
  have hw' : Watched cfg ((w.finalize i).cancelWorker i) := hw.quiet hquiet
  have hend := releaseState hw' i
  rw [hquiet.testerAddr] at hend
  exact hend

theorem evict_timed (hw : Watched cfg w) (hend : EndsTimed cfg w i) (answered : Bool) :
    Watched cfg (w.evict cfg i answered) := by
  have hquiet := Quiet.stopWork w i
  have hw' : Watched cfg ((w.finalize i).cancelWorker i) := hw.quiet hquiet
  exact releaseState_timed hw' (hend.quiet hquiet)

/-- The core changes: entries go, and those that stay are as before or have
a socket. -/
theorem core (hw : Watched cfg w) (hholder : ∀ j sa, w'.Attached j sa ↔ w.Attached j sa)
    (hentry : ∀ sa st, w'.core.sessionStates sa = some st → w.core.sessionStates sa = some st
      ∧ (w.HasSocket sa
        ∨ (w'.core.states st).sessionType = (w.core.states st).sessionType)) :
    Watched cfg w' := by
  intro sa st hoff hl
  obtain ⟨hl', hsame⟩ := hentry sa st hl
  have hsocket : w.HasSocket sa → w'.HasSocket sa := fun ⟨j, hj⟩ => ⟨j, (hholder j sa).mpr hj⟩
  rcases hsame with hj | hsame
  · exact .inl (hsocket hj)
  · rw [hsame]
    exact (hw sa st hoff hl').imp_left hsocket

/-- The step lemma: the condition is needed where a socket ends, and where a
request is served. -/
theorem step {e : Event} (hshape : Shape w) (hw : Watched cfg w) (hok : Guarded cfg w e)
    (h : VirtualEcu.step cfg w e = some w') : Watched cfg w' := by
  cases step_change hshape h with
  | quiet h => exact hw.quiet h
  | accepted => exact hw
  | @occupied i src activationType override _ hpump hfresh hfree h =>
      have hin : ¬ (w.sessions i).pump.Past := by simp [hpump, Pump.Past]
      have hread := hshape.hooking_reads hpump
      have hoff : WatchedExcept cfg (some src) (w.setPump i .reading) :=
        fun sa st _ hl => (hw.quiet hread) sa st (by simp) hl
      refine (occupy (hshape.quiet hread) hoff ?_ ?_).quiet h
      · rw [hread.released]
        exact hshape.unreleased hfresh hin
      · rw [hread.activated]
        exact hfresh
  | @evicted i src existing ev answered _ hpump hprobe hfull h =>
      simp only [Guarded, hpump, hprobe, Option.map_some, forall_const] at hok
      have htake := Quiet.takeProbe w i existing
      rw [evict_registry] at hfull
      rcases hok with hroom | hend
      · exact absurd hroom (Nat.not_lt.mpr hfull)
      · exact (evict_timed (hw.quiet htake) (hend.quiet htake) answered).quiet h
  | @replaced i src existing ev answered _ hpump hprobe hroom h =>
      have hin : ¬ (w.sessions i).pump.Past := by simp [hpump, Pump.Past]
      have htake := Quiet.takeProbe w i existing
      have hshape' := hshape.probed_evict cfg hpump answered
      have hread := hshape.prober_reads cfg hpump answered
      have hact := hshape.prober_fresh cfg hpump answered
      have hw' : Watched cfg (w.takeProbe i existing) := hw.quiet htake
      have hoff := (evict hw' existing answered).quiet hread
      rw [htake.testerAddr, (hshape.probing i src existing hpump).2] at hoff
      refine (occupy (hshape'.quiet hread) hoff ?_ ?_).quiet h
      · rw [hread.released]
        exact hshape'.unreleased hact (by rw [evict_pump]; exact hin)
      · rw [hread.activated]
        exact hact
  | @requested i st _ hst h =>
      refine hw.core h.attached (fun sa st' hl => ?_)
      rw [h.core] at hl ⊢
      refine ⟨hl, .inr ?_⟩
      dsimp only
      rw [EcuCore.setState_states]
      split
      · rename_i heq
        rw [heq, SessionState.refreshS3_sessionType]
      · rfl
  | @dispatched i st request _ hst h =>
      refine hw.core h.attached (fun sa st' hl => ?_)
      rw [h.core] at hl ⊢
      have hl' := (dispatch_shrinks request st w.core).table sa st' hl
      refine ⟨hl', ?_⟩
      by_cases hne : st' = st
      · -- the entry is the state the socket serves with, so the tester is its own
        left
        have hi := hshape.worker i st hst
        obtain ⟨sa', st'', haddr, hst'', _, htester⟩ :=
          hshape.bound i (hshape.activated_of_state hi)
        rw [hi, Option.some.injEq] at hst''
        rw [← hst'', ← hne, (hshape.table sa st' hl').2, Option.some.injEq] at htester
        simp only [Guarded, haddr] at hok
        obtain ⟨j, _, hj⟩ := hok
        exact ⟨j, htester ▸ hj⟩
      · exact .inr (dispatch_sessionType request hne w.core)
  | @expired st harmed =>
      refine hw.core (fun _ _ => Iff.rfl) (fun sa st' hl => ?_)
      have hl' := (EcuCore.Shrinks.s3Expiry w.core st).table sa st' hl
      refine ⟨hl', .inr (EcuCore.s3Expiry_sessionType ?_)⟩
      rintro rfl
      have hgone := EcuCore.s3Expiry_deletes cfg hl' (hshape.table sa st' hl').2
      exact absurd (hl.symm.trans hgone) (by simp)
  | @released i _ hpump h => exact (releaseState_timed hw hok).quiet h
  | unregistered hpump h =>
      refine quiet (w := { w with registry := _ }) ?_ h
      exact hw

end WatchedExcept

/-- The timers of the table run in every run. -/
theorem EcuCore.Timed.step {e : Event} (hs3 : 0 < cfg.uds.s3ServerMs) (hshape : Shape w)
    (hw : w.core.Timed cfg) (h : VirtualEcu.step cfg w e = some w') : w'.core.Timed cfg := by
  have hrelease : ∀ (u : World) (i : Sid), u.core.Timed cfg →
      (u.releaseState cfg i).core.Timed cfg := by
    intro u i hu
    unfold World.releaseState
    dsimp only
    split
    · exact hu.maybeDrop _ _
    · exact hu
  cases step_change hshape h with
  | quiet h =>
      rw [h.core]
      exact hw
  | accepted => exact hw
  | occupied hpump hfresh hfree h =>
      rw [h.core]
      exact hw.sessionFor _
  | evicted hpump hprobe hfull h =>
      rw [h.core, evict_core]
      exact hrelease _ _ hw
  | @replaced i src existing ev answered _ hpump hprobe hroom h =>
      have hevict : ((w.takeProbe i existing).evict cfg existing answered).core.Timed cfg := by
        rw [evict_core]
        exact hrelease _ _ hw
      rw [h.core]
      exact hevict.sessionFor src
  | @requested i st _ hst h =>
      rw [h.core]
      exact hw.setState st (refreshS3_ticks hs3 _)
  | @dispatched i st request _ hst h =>
      rw [h.core]
      exact hw.dispatch hs3 (fun sa st hl => (hshape.table sa st hl).2) request st
  | expired harmed => exact hw.s3Expiry _
  | released hpump h =>
      rw [h.core]
      exact hrelease w _ hw
  | unregistered hpump h =>
      rw [h.core]
      exact hw

/-! ## §4. Runs. -/

/-- An entry without a socket has its timer armed, and the timer takes it. -/
structure NoImmortal (cfg : EcuConfig) (w : World) : Prop where
  armed : ∀ sa st, w.core.sessionStates sa = some st → ¬ w.HasSocket sa →
    (w.core.states st).s3Armed = true
  expires : ∀ sa st, w.core.sessionStates sa = some st → ¬ w.HasSocket sa →
    ∃ w', step cfg w (.s3Expiry st) = some w' ∧ w'.core.sessionStates sa = none
      ∧ (w'.core.states st).rights = Rights.none cfg

/-- **No immortal privileges**, in every run whose sockets end in a tidy
state or outside the default session. -/
theorem no_immortal_privileges (cfg : EcuConfig) (hs3 : 0 < cfg.uds.s3ServerMs)
    (es : List Event) (w : World)
    (hal : Transition.Along (step cfg) (Guarded cfg) (World.init cfg) es)
    (h : Transition.exec (step cfg) (World.init cfg) es = some w) : NoImmortal cfg w := by
  have hall : Shape w ∧ Watched cfg w ∧ w.core.Timed cfg := by
    refine Transition.exec_invariant_along
      (fun w => Shape w ∧ Watched cfg w ∧ w.core.Timed cfg) ?_ es
      (World.init cfg) w ⟨shape_init cfg, ?_, ?_⟩ hal h
    · intro u e u' hu hok hstep
      exact ⟨Shape.step hu.1 hstep, WatchedExcept.step hu.1 hu.2.1 hok hstep,
        EcuCore.Timed.step hs3 hu.1 hu.2.2 hstep⟩
    · intro sa st _ hl
      cases hl
    · intro sa st hl
      cases hl
  obtain ⟨hshape, hwatched, htimed⟩ := hall
  have harmed : ∀ sa st, w.core.sessionStates sa = some st → ¬ w.HasSocket sa →
      (w.core.states st).s3Armed = true := by
    intro sa st hl hnone
    exact htimed sa st hl ((hwatched sa st (by simp) hl).resolve_left hnone)
  refine ⟨harmed, ?_⟩
  intro sa st hl hnone
  refine ⟨{ w with core := w.core.s3Expiry cfg st }, if_pos (harmed sa st hl hnone), ?_, ?_⟩
  · exact EcuCore.s3Expiry_deletes cfg hl (hshape.table sa st hl).2
  · exact s3Expiry_rights w.core st

/-- A tester unlocks the ECU in an extended session and leaves. -/
def timedLeave : List Event :=
  asks 0 0x0E00 ++ [.sent 0] ++ requests 0 0x0E00 [0x10, 0x03] ++ requests 0 0x0E00 [0x27, 0x01]
    ++ closes 0

set_option maxRecDepth 8000 in
theorem no_immortal_privileges_timed :
    ∃ w, Transition.exec (step {}) (World.init {}) timedLeave = some w
      ∧ w.core.sessionStates 0x0E00 = some 0 ∧ NoImmortal {} w := by
  have hrun : ((Transition.exec (step {}) (World.init {}) timedLeave).map
      (fun w => w.core.sessionStates 0x0E00)) = some (some 0) := by decide
  obtain ⟨w, hw, hl⟩ := Option.map_eq_some_iff.mp hrun
  exact ⟨w, hw, hl, no_immortal_privileges {} (by decide) timedLeave w (by decide) hw⟩

/-- A tester asks for a seed in the default session and leaves. -/
def untimedLeave : List Event :=
  asks 0 0x0E00 ++ [.sent 0] ++ requests 0 0x0E00 [0x27, 0x01] ++ closes 0

set_option maxRecDepth 8000 in
/-- Its seed stays pending, with no timer that would take it. -/
theorem seed_outlives_tester :
    ¬ ∀ (cfg : EcuConfig) (es : List Event) (w : World), cfg.Accepted → 0 < cfg.uds.s3ServerMs →
      Transition.exec (step cfg) (World.init cfg) es = some w → NoImmortal cfg w := by
  intro hall
  have hrun : ((Transition.exec (step {}) (World.init {}) untimedLeave).map (fun w =>
      (w.core.sessionStates 0x0E00, (w.core.states 0).s3Armed, w.opened,
        (w.sessions 0).released))) = some (some 0, false, 1, true) := by decide
  obtain ⟨w, hw, hend⟩ := Option.map_eq_some_iff.mp hrun
  rw [Prod.mk.injEq, Prod.mk.injEq, Prod.mk.injEq] at hend
  obtain ⟨hl, hidle, hopen, hrel⟩ := hend
  have harmed := (hall {} untimedLeave w EcuConfig.accepted_default (by decide) hw).armed
    0x0E00 0 hl ?_
  · rw [hidle] at harmed
    cases harmed
  · rintro ⟨i, hact, _, hattached⟩
    cases i with
    | zero =>
        rw [hrel] at hattached
        cases hattached
    | succ i =>
        rw [(shape_run untimedLeave hw).unused_of_opened (by omega)] at hact
        cases hact

end DoipPlayground.VirtualEcu
