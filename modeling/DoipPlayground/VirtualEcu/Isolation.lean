/-
  DoipPlayground.VirtualEcu.Isolation
  ───────────────────────────────────
  **EVERY TESTER HAS A SESSION OF ITS OWN** (`core.py`, `session.py`,
  `services/`).

  All sockets share one core, and requests of all testers interleave.  What
  a session state remembers is moved by the requests dispatched for it and
  the expiries of its timer, its deeds; connections, probes, evictions and
  the requests of other testers leave it alone.

    • `SessionState.bare` — what a service reads and leaves of a state,
    • `deed`, `Deeds` — the deeds of one state in a run,
    • `bare_run` — the state is what its own deeds have made of it,
    • `tester_isolation` — so two runs with the same deeds agree on the
      state, and on the answers that take nothing from the shared data,
    • `unlocked_by_own_key` — and a level was unlocked by a key of the
      tester it belongs to.
-/
import DoipPlayground.Lib.Unwinding
import DoipPlayground.VirtualEcu.Privileges
import DoipPlayground.VirtualEcu.RoutineSequence
import DoipPlayground.VirtualEcu.SecuritySoundness

namespace DoipPlayground.VirtualEcu

open Wire

/-! ## §1. What a service reads of a state. -/

/-- The state without its timer and the address it is filed under. -/
def SessionState.bare (s : SessionState) : SessionState :=
  { s with s3Armed := false, testerAddr := none }

/-- The services that read or write what all testers share. -/
def UdsRequest.UsesData (r : UdsRequest) : Prop :=
  r.sid = sidReadDataByIdentifier ∨ r.sid = sidWriteDataByIdentifier ∨ r.sid = sidRoutineControl

variable {cfg : EcuConfig} {r : UdsRequest} {s s' : SessionState} {d d' : EcuData}
  {st st' : StateId} {c : EcuCore}

theorem bare_eq_iff : s.bare = s'.bare ↔ s.sessionType = s'.sessionType
    ∧ s.securityLevel = s'.securityLevel ∧ s.seedPending = s'.seedPending
    ∧ s.securityAttempts = s'.securityAttempts := by
  simp [SessionState.bare]

@[simp] theorem bare_refreshS3 (s : SessionState) : (s.refreshS3 cfg).bare = s.bare := by
  obtain ⟨armed, heq⟩ := SessionState.refreshS3_eq cfg s
  rw [heq]
  rfl

theorem bare_enterSession (s s' : SessionState) (sub : Int) :
    (s.enterSession cfg sub).bare = (s'.enterSession cfg sub).bare := by
  unfold SessionState.enterSession
  rw [bare_refreshS3, bare_refreshS3]
  rfl

theorem checkGates_bare (hs : s.bare = s'.bare) (sessions : Option (List Int)) (security : Int) :
    checkGates r s sessions security = checkGates r s' sessions security := by
  obtain ⟨htype, hlevel, _⟩ := bare_eq_iff.mp hs
  unfold checkGates
  rw [htype, hlevel]

theorem readAll_bare (hs : s.bare = s'.bare) (dids : List Nat) :
    readAll cfg r s d dids = readAll cfg r s' d dids := by
  have hone : ∀ did, readOne cfg r s d did = readOne cfg r s' d did := by
    intro did
    unfold readOne dynamicValue
    rw [(bare_eq_iff.mp hs).1]
    split
    · rfl
    · rw [checkGates_bare hs]
  induction dids with
  | nil => rfl
  | cons did rest ih =>
      unfold readAll
      rw [hone, ih]

/-- On two states that differ in nothing it reads, the service leaves the
same behind and gives the same result. -/
def ReadsBare (cfg : EcuConfig) (service : Service) : Prop :=
  ∀ r s s' d, SessionState.bare s = SessionState.bare s' →
    (service cfg r s d).1.bare = (service cfg r s' d).1.bare
      ∧ (service cfg r s d).2 = (service cfg r s' d).2

theorem diagnosticSessionControl_bare : ReadsBare cfg diagnosticSessionControl := by
  intro r s s' d hs
  unfold diagnosticSessionControl
  dsimp only
  split
  · exact ⟨hs, rfl⟩
  split
  · exact ⟨hs, rfl⟩
  · exact ⟨bare_enterSession s s' _, rfl⟩

theorem testerPresent_bare : ReadsBare cfg testerPresent := by
  intro r s s' d hs
  unfold testerPresent
  split
  · exact ⟨hs, rfl⟩
  split
  · exact ⟨hs, rfl⟩
  · refine ⟨?_, rfl⟩
    rw [bare_refreshS3, bare_refreshS3]
    exact hs

theorem securityAccess_bare : ReadsBare cfg securityAccess := by
  intro r s s' d hs
  obtain ⟨htype, hlevel, hseed, hattempts⟩ := bare_eq_iff.mp hs
  unfold securityAccess requestSeed sendKey
  rw [hlevel, hseed, hattempts]
  dsimp only
  split
  · exact ⟨hs, rfl⟩
  split
  · exact ⟨hs, rfl⟩
  split
  · split
    · exact ⟨hs, rfl⟩
    split
    · exact ⟨hs, rfl⟩
    · exact ⟨bare_eq_iff.mpr ⟨htype, rfl, rfl, rfl⟩, rfl⟩
  split
  · exact ⟨hs, rfl⟩
  split
  · exact ⟨hs, rfl⟩
  split
  · split <;> exact ⟨bare_eq_iff.mpr ⟨htype, rfl, rfl, rfl⟩, rfl⟩
  · exact ⟨bare_eq_iff.mpr ⟨htype, rfl, rfl, rfl⟩, rfl⟩

theorem readDataByIdentifier_bare : ReadsBare cfg readDataByIdentifier := by
  intro r s s' d hs
  unfold readDataByIdentifier
  rw [readAll_bare hs]
  dsimp only
  split
  · exact ⟨hs, rfl⟩
  split
  · exact ⟨hs, rfl⟩
  · exact ⟨hs, rfl⟩
  · split <;> exact ⟨hs, rfl⟩

theorem writeDataByIdentifier_bare : ReadsBare cfg writeDataByIdentifier := by
  intro r s s' d hs
  unfold writeDataByIdentifier
  dsimp only
  split
  · exact ⟨hs, rfl⟩
  split
  · split <;> exact ⟨hs, rfl⟩
  · rw [checkGates_bare hs]
    split
    · exact ⟨hs, rfl⟩
    split
    · exact ⟨hs, rfl⟩
    · exact ⟨hs, rfl⟩
    · split <;> exact ⟨hs, rfl⟩

theorem routineControl_bare : ReadsBare cfg routineControl := by
  intro r s s' d hs
  unfold routineControl
  dsimp only
  split
  · exact ⟨hs, rfl⟩
  split
  · exact ⟨hs, rfl⟩
  split
  · exact ⟨hs, rfl⟩
  · rw [checkGates_bare hs]
    split
    · exact ⟨hs, rfl⟩
    split
    · exact ⟨hs, rfl⟩
    split <;> exact ⟨hs, rfl⟩

theorem coreService_bare {sid : UInt8} {service : Service}
    (h : coreService cfg sid = some service) : ReadsBare cfg service := by
  cases coreService_cases h with
  | diagnosticSessionControl => exact diagnosticSessionControl_bare
  | testerPresent => exact testerPresent_bare
  | securityAccess => exact securityAccess_bare
  | readDataByIdentifier => exact readDataByIdentifier_bare
  | writeDataByIdentifier => exact writeDataByIdentifier_bare
  | routineControl => exact routineControl_bare

/-- No service lets the shared data into the state, and those for the session
and the security answer without them. -/
theorem coreService_unshared {service : Service} (h : coreService cfg r.sid = some service)
    (s : SessionState) (d d' : EcuData) :
    (service cfg r s d).1 = (service cfg r s d').1
      ∧ (¬ r.UsesData → (service cfg r s d).2.2 = (service cfg r s d').2.2) := by
  cases coreService_cases h with
  | diagnosticSessionControl =>
      unfold diagnosticSessionControl
      dsimp only
      split
      · exact ⟨rfl, fun _ => rfl⟩
      split <;> exact ⟨rfl, fun _ => rfl⟩
  | testerPresent =>
      unfold testerPresent
      split
      · exact ⟨rfl, fun _ => rfl⟩
      split <;> exact ⟨rfl, fun _ => rfl⟩
  | securityAccess =>
      unfold securityAccess requestSeed sendKey
      dsimp only
      split
      · exact ⟨rfl, fun _ => rfl⟩
      split
      · exact ⟨rfl, fun _ => rfl⟩
      split
      · split
        · exact ⟨rfl, fun _ => rfl⟩
        split <;> exact ⟨rfl, fun _ => rfl⟩
      split
      · exact ⟨rfl, fun _ => rfl⟩
      split
      · exact ⟨rfl, fun _ => rfl⟩
      split
      · split <;> exact ⟨rfl, fun _ => rfl⟩
      · exact ⟨rfl, fun _ => rfl⟩
  | readDataByIdentifier hsid =>
      refine ⟨?_, fun hnot => absurd (.inl hsid) hnot⟩
      rw [readDataByIdentifier_state, readDataByIdentifier_state]
  | writeDataByIdentifier hsid =>
      refine ⟨?_, fun hnot => absurd (.inr (.inl hsid)) hnot⟩
      rw [writeDataByIdentifier_state, writeDataByIdentifier_state]
  | routineControl hsid =>
      refine ⟨?_, fun hnot => absurd (.inr (.inr hsid)) hnot⟩
      rw [routineControl_state, routineControl_state]

/-! ## §2. Deeds. -/

/-- What a request makes of the state: what its service does, whatever the
data, or a reset. -/
def SessionState.afterRequest (cfg : EcuConfig) (s : SessionState) (r : UdsRequest) :
    SessionState :=
  if r.IsSupportedReset then
    if cfg.uds.resetDropsConnection then s else (s.reset cfg).bare
  else
    match coreService cfg r.sid with
    | some service => (service cfg r s ⟨fun _ => none, fun _ => none⟩).1.bare
    | none => s

def SessionState.after (cfg : EcuConfig) (s : SessionState) : WorkEvent → SessionState
  | .request r => s.afterRequest cfg r
  | .s3Expiry => (s.reset cfg).bare

theorem bare_dropSessionState (c : EcuCore) (sa : SA) (st : StateId) :
    ((c.dropSessionState sa).states st).bare = (c.states st).bare := by
  unfold EcuCore.dropSessionState
  split
  · dsimp only
    rw [EcuCore.setState_states]
    split
    · rename_i heq
      rw [heq]
      rfl
    · rfl
  · rfl

theorem bare_maybeDrop (c : EcuCore) (testerAddr : Option SA) (st st' : StateId) :
    ((c.maybeDropSessionState cfg testerAddr st').states st).bare = (c.states st).bare := by
  rcases EcuCore.maybeDrop_states cfg c testerAddr st' st with hsame | ⟨rfl, _, hcancel⟩
  · rw [hsame]
  · rw [hcancel]
    rfl

/-- A dispatch is a deed of the state it is for. -/
theorem bare_dispatch (r : UdsRequest) (c : EcuCore) (st : StateId) :
    ((dispatch cfg r st c).1.states st).bare = (c.states st).bare.afterRequest cfg r := by
  unfold dispatch SessionState.afterRequest
  by_cases hsid : r.sid = sidEcuReset
  · rw [if_pos hsid]
    by_cases hreset : r.IsSupportedReset
    · rw [ecuReset_executed hreset, if_pos hreset]
      split
      · exact bare_dropSessionState c r.sourceAddr st
      · show ((c.setState st ((c.states st).reset cfg)).states st).bare = _
        rw [EcuCore.setState_states, if_pos rfl]
        rfl
    · have hnone : coreService cfg r.sid = none := by
        rw [hsid]
        rfl
      rw [ecuReset_refused hsid hreset, if_neg hreset, hnone]
  · rw [if_neg hsid, if_neg (fun hreset => hsid hreset.1)]
    cases hservice : coreService cfg r.sid with
    | none => rfl
    | some service =>
        show ((c.setState st (service cfg r (c.states st) c.data).1).states st).bare = _
        rw [EcuCore.setState_states, if_pos rfl,
          (coreService_unshared hservice _ _ ⟨fun _ => none, fun _ => none⟩).1]
        exact (coreService_bare hservice r (c.states st) (c.states st).bare _ rfl).1

/-- It leaves the other states alone. -/
theorem bare_dispatch_other (r : UdsRequest) (c : EcuCore) (hst : st' ≠ st) :
    ((dispatch cfg r st c).1.states st').bare = (c.states st').bare := by
  have heffect := dispatch_effect cfg r st c
  generalize (dispatch cfg r st c).1 = c' at heffect ⊢
  cases heffect with
  | served s d h =>
      show ((c.setState st s).states st').bare = _
      rw [EcuCore.setState_states, if_neg hst]
  | reset d _ _ =>
      show ((c.setState st ((c.states st).reset cfg)).states st').bare = _
      rw [EcuCore.setState_states, if_neg hst]
  | dropped d _ _ => exact bare_dropSessionState c r.sourceAddr st'

theorem bare_s3Expiry (c : EcuCore) (st : StateId) :
    ((c.s3Expiry cfg st).states st).bare = ((c.states st).bare.reset cfg).bare := by
  unfold EcuCore.s3Expiry
  rw [bare_maybeDrop, EcuCore.setState_states, if_pos rfl]
  rfl

theorem bare_s3Expiry_other (c : EcuCore) (hst : st' ≠ st) :
    ((c.s3Expiry cfg st).states st').bare = (c.states st').bare := by
  unfold EcuCore.s3Expiry
  rw [bare_maybeDrop, EcuCore.setState_states, if_neg hst]

/-- The result of a dispatch is that of the state's deeds, and of the shared
data where the service uses them. -/
theorem dispatch_result {c c' : EcuCore} (hs : (c.states st).bare = (c'.states st').bare)
    (hd : ¬ r.UsesData ∨ c.data = c'.data) :
    (dispatch cfg r st c).2 = (dispatch cfg r st' c').2 := by
  unfold dispatch
  split
  · unfold ecuReset
    dsimp only
    split
    · rfl
    split
    · rfl
    split <;> rfl
  · cases hservice : coreService cfg r.sid with
    | none => rfl
    | some service =>
        show (service cfg r (c.states st) c.data).2.2
          = (service cfg r (c'.states st') c'.data).2.2
        rw [(coreService_bare hservice r _ _ c.data hs).2]
        rcases hd with hunshared | hdata
        · exact (coreService_unshared hservice _ c.data c'.data).2 hunshared
        · rw [hdata]

/-- The deed of `st` an event is, in the state before it. -/
def deed (st : StateId) (w : World) (e : Event) : List WorkEvent :=
  match dispatched? w e, e with
  | some (r, st'), _ => if st' = st then [.request r] else []
  | none, .s3Expiry st' => if st' = st then [.s3Expiry] else []
  | none, _ => []

/-- The deeds of `st` in a run. -/
def deeds (cfg : EcuConfig) (st : StateId) (es : List Event) : List WorkEvent :=
  Transition.collect (step cfg) (deed st) (World.init cfg) es

/-! ## §3. Every step, and every run. -/

/-- The states that are not created yet. -/
def Unused (cfg : EcuConfig) (c : EcuCore) : Prop :=
  ∀ st, c.nextState ≤ st → c.states st = SessionState.new cfg

/-- Nothing happens to any state but to its timer and its entry. -/
structure Idle (cfg : EcuConfig) (c c' : EcuCore) : Prop where
  bare : ∀ st, (c'.states st).bare = (c.states st).bare
  unused : Unused cfg c'

theorem Idle.refl (h : Unused cfg c) : Idle cfg c c := ⟨fun _ => rfl, h⟩

theorem Idle.trans {c' c'' : EcuCore} (h : Idle cfg c c') (h' : Idle cfg c' c'') :
    Idle cfg c c'' :=
  ⟨fun st => (h'.bare st).trans (h.bare st), h'.unused⟩

theorem refreshS3_new (cfg : EcuConfig) :
    (SessionState.new cfg).refreshS3 cfg = SessionState.new cfg :=
  if_pos rfl

theorem Unused.setState (h : Unused cfg c) (st : StateId) {s : SessionState}
    (hs : c.nextState ≤ st → s = SessionState.new cfg) : Unused cfg (c.setState st s) := by
  intro st' hst'
  rw [EcuCore.setState_states]
  split
  · rename_i heq
    exact hs (heq ▸ hst')
  · exact h st' hst'

theorem Unused.dropSessionState (h : Unused cfg c) (sa : SA) :
    Unused cfg (c.dropSessionState sa) := by
  unfold EcuCore.dropSessionState
  split
  · rename_i st _
    exact h.setState st fun hst => by rw [h st hst]; rfl
  · exact h

theorem Unused.dispatch (h : Unused cfg c) (r : UdsRequest) (hst : st < c.nextState) :
    Unused cfg (VirtualEcu.dispatch cfg r st c).1 := by
  have hcreated : ∀ s, c.nextState ≤ st → s = SessionState.new cfg :=
    fun _ hle => absurd hst (Nat.not_lt.mpr hle)
  have heffect := dispatch_effect cfg r st c
  generalize (VirtualEcu.dispatch cfg r st c).1 = c' at heffect ⊢
  cases heffect with
  | served s d _ => exact h.setState st (hcreated s)
  | reset d _ _ => exact h.setState st (hcreated _)
  | dropped d _ _ => exact h.dropSessionState r.sourceAddr

theorem Unused.maybeDrop (h : Unused cfg c) (testerAddr : Option SA) (st : StateId) :
    Unused cfg (c.maybeDropSessionState cfg testerAddr st) := by
  intro st' hst'
  have hnext : c.nextState ≤ st' := by
    unfold EcuCore.maybeDropSessionState at hst'
    split at hst' <;> exact hst'
  rcases EcuCore.maybeDrop_states cfg c testerAddr st st' with hsame | ⟨heq, _, hcancel⟩
  · rw [hsame]
    exact h st' hnext
  · rw [hcancel, h st (heq ▸ hnext)]
    rfl

theorem Idle.maybeDrop (h : Unused cfg c) (testerAddr : Option SA) (st : StateId) :
    Idle cfg c (c.maybeDropSessionState cfg testerAddr st) :=
  ⟨fun st' => bare_maybeDrop c testerAddr st' st, h.maybeDrop testerAddr st⟩

theorem Idle.refreshS3 (h : Unused cfg c) (st : StateId) :
    Idle cfg c (c.setState st ((c.states st).refreshS3 cfg)) := by
  constructor
  · intro st'
    rw [EcuCore.setState_states]
    split
    · rename_i heq
      rw [heq]
      exact bare_refreshS3 _
    · rfl
  · apply h.setState
    intro hst
    rw [h st hst]
    exact refreshS3_new cfg

/-- A fresh state remembers nothing, as one that is not created. -/
theorem Idle.sessionFor (h : Unused cfg c) (src : SA) : Idle cfg c (c.sessionFor cfg src).1 := by
  unfold EcuCore.sessionFor
  split
  · exact .refl h
  · constructor
    · intro st
      by_cases hst : st = c.nextState
      · subst hst
        simp only [Function.update_self]
        rw [h _ (Nat.le_refl _)]
        rfl
      · simp only [Function.update_of_ne hst]
    · intro st hst
      have hlt : c.nextState < st := hst
      simp only [Function.update_of_ne (Nat.ne_of_gt hlt)]
      exact h st (Nat.le_of_lt hlt)

theorem Idle.releaseState (w : World) (h : Unused cfg w.core) (i : Sid) :
    Idle cfg w.core (w.releaseState cfg i).core := by
  unfold World.releaseState
  dsimp only
  split
  · exact .maybeDrop h _ _
  · exact .refl h

theorem Idle.evict (w : World) (h : Unused cfg w.core) (i : Sid) (answered : Bool) :
    Idle cfg w.core (w.evict cfg i answered).core := by
  rw [evict_core]
  exact .releaseState w h i

variable {w w' : World} {e : Event} {i : Sid}

theorem deed_dispatch (h : Dispatches w e r st') (st : StateId) :
    deed st w e = if st' = st then [.request r] else [] := by
  unfold deed
  rw [dispatched?_eq_some.mpr h]

theorem deed_s3Expiry (st st' : StateId) :
    deed st w (.s3Expiry st') = if st' = st then [.s3Expiry] else [] := rfl

/-- A step that dispatches nothing and is no expiry is nobody's deed. -/
theorem step_idle (hw : Shape w) (hunused : Unused cfg w.core) (h : step cfg w e = some w')
    (hdispatch : ∀ i, e ≠ .dispatch i) (hexpiry : ∀ st, e ≠ .s3Expiry st) :
    Idle cfg w.core w'.core := by
  cases step_change hw h with
  | quiet hq =>
      rw [hq.core]
      exact .refl hunused
  | accepted => exact .refl hunused
  | occupied _ _ _ hq =>
      rw [hq.core]
      exact .sessionFor hunused _
  | @evicted i src existing ev answered _ _ _ _ hq =>
      rw [hq.core]
      exact .evict (w.takeProbe i existing) hunused existing answered
  | @replaced i src existing ev answered _ _ _ _ hq =>
      have hevict := Idle.evict (w.takeProbe i existing) hunused existing answered
      rw [hq.core]
      exact hevict.trans (.sessionFor hevict.unused src)
  | @requested i st _ _ hq =>
      rw [hq.core]
      exact .refreshS3 hunused st
  | @dispatched i _ _ _ _ _ => exact absurd rfl (hdispatch i)
  | @expired st _ => exact absurd rfl (hexpiry st)
  | @released i _ _ hq =>
      rw [hq.core]
      exact .releaseState w hunused i
  | unregistered _ hq =>
      rw [hq.core]
      exact .refl hunused

/-- A request is dispatched for a state that was created. -/
theorem Dispatches.created (hw : Shape w) (h : Dispatches w e r st) : st < w.core.nextState := by
  obtain ⟨i, _, _, hstate⟩ := h
  have hheld := hw.worker i st hstate
  obtain ⟨sa, st', _, hst', hlt, _⟩ := hw.bound i (hw.activated_of_state hheld)
  rw [hheld, Option.some.injEq] at hst'
  exact hst' ▸ hlt

theorem dispatches_of_step (h : step cfg w (.dispatch i) = some w') :
    ∃ r st, Dispatches w (.dispatch i) r st := by
  cases step_effect h with
  | dispatched _ r _ st _ _ hworker _ =>
      exact ⟨r, st, i, rfl, by rw [hworker]; rfl, by rw [hworker]; rfl⟩
  | dispatchedLast _ r st hworker =>
      exact ⟨r, st, i, rfl, by rw [hworker]; rfl, by rw [hworker]; rfl⟩

/-- **Every step moves a state by its deeds** and by nothing else. -/
theorem step_deeds (hw : Shape w) (hunused : Unused cfg w.core) (h : step cfg w e = some w') :
    Unused cfg w'.core
      ∧ ∀ st, (w'.core.states st).bare
          = (deed st w e).foldl (SessionState.after cfg) (w.core.states st).bare := by
  by_cases hdispatch : ∃ r st', Dispatches w e r st'
  · obtain ⟨r, st', hd⟩ := hdispatch
    rw [dispatches_core hd h]
    refine ⟨hunused.dispatch r (hd.created hw), ?_⟩
    intro st
    rw [deed_dispatch hd]
    by_cases hst : st' = st
    · subst hst
      rw [if_pos rfl]
      exact bare_dispatch r w.core st'
    · rw [if_neg hst]
      exact bare_dispatch_other r w.core (Ne.symm hst)
  · have hnone : dispatched? w e = none := by
      rw [Option.eq_none_iff_forall_not_mem]
      intro x hx
      exact hdispatch ⟨x.1, x.2, dispatched?_eq_some.mp hx⟩
    by_cases hexpiry : ∃ st', e = .s3Expiry st'
    · obtain ⟨st', rfl⟩ := hexpiry
      simp only [step, Option.ite_none_right_eq_some] at h
      obtain ⟨_, h⟩ := h
      cases h
      refine ⟨(hunused.setState st' ?_).maybeDrop _ _, ?_⟩
      · intro hst'
        rw [hunused st' hst']
        rfl
      · intro st
        rw [deed_s3Expiry]
        by_cases hst : st' = st
        · subst hst
          rw [if_pos rfl]
          exact bare_s3Expiry w.core st'
        · rw [if_neg hst]
          exact bare_s3Expiry_other w.core (Ne.symm hst)
    · have hidle := step_idle hw hunused h
        (fun i he => by
          subst he
          exact hdispatch (dispatches_of_step h))
        (fun st he => hexpiry ⟨st, he⟩)
      refine ⟨hidle.unused, ?_⟩
      intro st
      have hidle' : deed st w e = [] := by
        unfold deed
        rw [hnone]
        cases e with
        | s3Expiry st' => exact absurd ⟨st', rfl⟩ hexpiry
        | _ => rfl
      rw [hidle']
      exact hidle.bare st

/-- The states of the ECU, seen one by one. -/
theorem states_unwind (cfg : EcuConfig) (st : StateId) :
    Transition.Unwinds (step cfg) (fun w => Shape w ∧ Unused cfg w.core) (deed st)
      (fun w => (w.core.states st).bare) (SessionState.after cfg) where
  keeps := by
    rintro w e w' ⟨hw, hunused⟩ h
    exact ⟨hw.step h, (step_deeds hw hunused h).1⟩
  moves := by
    rintro w e w' ⟨hw, hunused⟩ h
    exact (step_deeds hw hunused h).2 st

/-- **A state is what its own deeds have made of it**, in every run. -/
theorem bare_run (es : List Event) (h : Transition.exec (step cfg) (World.init cfg) es = some w)
    (st : StateId) :
    (w.core.states st).bare
      = (deeds cfg st es).foldl (SessionState.after cfg) (SessionState.new cfg) :=
  (states_unwind cfg st).view_run ⟨shape_init cfg, fun _ _ => rfl⟩ h

/-- A state that was created keeps its tester. -/
theorem tester_step (hw : Shape w) (h : step cfg w e = some w') (hst : st < w.core.nextState) :
    st < w'.core.nextState
      ∧ (w'.core.states st).testerAddr = (w.core.states st).testerAddr := by
  have hshrinks : ∀ {c : EcuCore}, EcuCore.Shrinks w.core c →
      st < c.nextState ∧ (c.states st).testerAddr = (w.core.states st).testerAddr := by
    intro c hc
    exact ⟨hc.nextState ▸ hst, hc.testerAddr st⟩
  have hsessionFor : ∀ {c : EcuCore} (src : SA), EcuCore.Shrinks w.core c →
      st < (c.sessionFor cfg src).1.nextState
        ∧ ((c.sessionFor cfg src).1.states st).testerAddr = (w.core.states st).testerAddr := by
    intro c src hc
    have hspec := EcuCore.sessionFor_spec cfg c src
    have hst' : st < c.nextState := hc.nextState ▸ hst
    exact ⟨Nat.lt_of_lt_of_le hst' hspec.grows,
      (congrArg _ (hspec.states st hst')).trans (hc.testerAddr st)⟩
  cases step_change hw h with
  | quiet hq =>
      rw [hq.core]
      exact ⟨hst, rfl⟩
  | accepted => exact ⟨hst, rfl⟩
  | occupied _ _ _ hq =>
      rw [hq.core]
      exact hsessionFor _ (.refl w.core)
  | @evicted i src existing ev answered _ _ _ _ hq =>
      rw [hq.core, evict_core]
      exact hshrinks (releaseState_shrinks (w.takeProbe i existing) existing)
  | @replaced i src existing ev answered _ _ _ _ hq =>
      have hevict : EcuCore.Shrinks w.core
          ((w.takeProbe i existing).evict cfg existing answered).core := by
        rw [evict_core]
        exact releaseState_shrinks (w.takeProbe i existing) existing
      rw [hq.core]
      exact hsessionFor src hevict
  | @requested i st' _ _ hq =>
      have hrefresh : ((w.core.states st').refreshS3 cfg).testerAddr
          = (w.core.states st').testerAddr := by
        obtain ⟨armed, heq⟩ := SessionState.refreshS3_eq cfg (w.core.states st')
        rw [heq]
      rw [hq.core]
      exact hshrinks (.setState w.core st' hrefresh)
  | dispatched _ hq =>
      rw [hq.core]
      exact hshrinks (dispatch_shrinks _ _ _)
  | expired _ => exact hshrinks (.s3Expiry _ _)
  | @released i _ _ hq =>
      rw [hq.core]
      exact hshrinks (releaseState_shrinks w i)
  | unregistered _ hq =>
      rw [hq.core]
      exact ⟨hst, rfl⟩

theorem tester_run {es : List Event} (h : Transition.exec (step cfg) w es = some w')
    (hw : Shape w) (hst : st < w.core.nextState) :
    st < w'.core.nextState
      ∧ (w'.core.states st).testerAddr = (w.core.states st).testerAddr := by
  refine (Transition.exec_invariant (fun u => Shape u ∧ st < u.core.nextState
      ∧ (u.core.states st).testerAddr = (w.core.states st).testerAddr) ?_ es w w'
    ⟨hw, hst, rfl⟩ h).2
  rintro u e u' ⟨hu, hcreated, htester⟩ hstep
  obtain ⟨hcreated', htester'⟩ := tester_step hu hstep hcreated
  exact ⟨hu.step hstep, hcreated', htester'.trans htester⟩

/-- The requests among the deeds of a state come from its tester. -/
theorem deeds_own (es : List Event) (h : Transition.exec (step cfg) (World.init cfg) es = some w)
    (hr : .request r ∈ deeds cfg st es) : (w.core.states st).testerAddr = some r.sourceAddr := by
  obtain ⟨before, e, after, u, hes, hu, hdeed⟩ := Transition.mem_collect hr
  have hd : Dispatches u e r st := by
    unfold deed at hdeed
    split at hdeed
    · rename_i r' st' _ hdispatched
      split at hdeed
      · rename_i hst
        rw [List.mem_singleton] at hdeed
        cases hdeed
        exact hst ▸ dispatched?_eq_some.mp hdispatched
      · cases hdeed
    · split at hdeed
      · rw [List.mem_singleton] at hdeed
        cases hdeed
      · cases hdeed
    · cases hdeed
  -- at that step the socket, its state and the request have one tester
  have hshape := shape_run before hu
  have hcreated := hd.created hshape
  obtain ⟨i, _, hrequest, hstate⟩ := hd
  obtain ⟨raw, rfl, hadmitted⟩ := served_admitted hu hrequest
  obtain ⟨sa, st', haddr, hheld, _, htester⟩ := hshape.bound i hadmitted.activated
  rw [hshape.worker i st hstate, Option.some.injEq] at hheld
  subst hheld
  rw [hadmitted.source] at haddr
  -- and the state keeps it
  rw [hes] at h
  obtain ⟨v, hv, hafter⟩ := Transition.exec_append_eq_some.mp h
  rw [hu, Option.some.injEq] at hv
  subst hv
  rw [(tester_run hafter hshape hcreated).2, htester, haddr]

/-! ## §4. Isolation. -/

/-- **Testers are isolated**: the requests that move a session state are its
own tester's; and in two runs, whatever else goes on in them, a state with the
same deeds is the same state, and gives every request the same answer; where
the service reads what all testers share, if that is the same too. -/
theorem tester_isolation (cfg : EcuConfig) (es es' : List Event) (w w' : World) (st st' : StateId)
    (hrun : Transition.exec (step cfg) (World.init cfg) es = some w)
    (hrun' : Transition.exec (step cfg) (World.init cfg) es' = some w')
    (hsame : deeds cfg st es = deeds cfg st' es') :
    (∀ r, .request r ∈ deeds cfg st es → (w.core.states st).testerAddr = some r.sourceAddr)
      ∧ (w.core.states st).bare = (w'.core.states st').bare
      ∧ ∀ r, ¬ UdsRequest.UsesData r ∨ w.core.data = w'.core.data →
          (dispatch cfg r st w.core).2 = (dispatch cfg r st' w'.core).2 := by
  have hbare : (w.core.states st).bare = (w'.core.states st').bare := by
    rw [bare_run es hrun, bare_run es' hrun', hsame]
  refine ⟨?_, hbare, ?_⟩
  · intro r hr
    exact deeds_own es hrun hr
  · intro r hd
    exact dispatch_result hbare hd

/-- One tester opens an extended session, alone. -/
def opensAlone : List Event :=
  asks 0 0x0E00 ++ [.sent 0] ++ requests 0 0x0E00 [0x10, 0x03]

/-- It does so while another one unlocks the ECU for itself. -/
def opensBeside : List Event :=
  asks 0 0x0E01 ++ [.sent 0] ++ asks 1 0x0E00 ++ [.sent 1] ++ requests 0 0x0E01 [0x27, 0x01]
    ++ requests 1 0x0E00 [0x10, 0x03]
    ++ requests 0 0x0E01 [0x27, 0x02, 0xB4, 0x87, 0x96, 0xE1]

theorem tester_isolation_beside :
    ∃ w w', Transition.exec (step {}) (World.init {}) opensAlone = some w
      ∧ Transition.exec (step {}) (World.init {}) opensBeside = some w'
      ∧ (w.core.states 0).bare = (w'.core.states 1).bare := by
  have hrun : (Transition.exec (step {}) (World.init {}) opensAlone).isSome = true
      ∧ (Transition.exec (step {}) (World.init {}) opensBeside).isSome = true := by decide
  obtain ⟨w, hw⟩ := Option.isSome_iff_exists.mp hrun.1
  obtain ⟨w', hw'⟩ := Option.isSome_iff_exists.mp hrun.2
  have hsame : deeds {} 0 opensAlone = deeds {} 1 opensBeside := by decide
  exact ⟨w, w', hw, hw', (tester_isolation {} opensAlone opensBeside w w' 0 1 hw hw' hsame).2.1⟩

/-! ## §5. The deeds of a state, on their own. -/

/-- What every operation on states keeps of one. -/
structure Closed (cfg : EcuConfig) (P : SessionState → Prop) : Prop where
  fresh : ∀ sa, P { SessionState.new cfg with testerAddr := sa }
  effect : ∀ {s s'}, StateEffect cfg s s' → P s → P s'
  cancelS3 : ∀ {s : SessionState}, P s → P s.cancelS3
  reset : ∀ s : SessionState, P (s.reset cfg)

namespace Closed

variable {P : SessionState → Prop}

theorem setState (hc : ∀ st, P (c.states st)) (st : StateId) (hs : P s) :
    ∀ st', P ((c.setState st s).states st') := by
  intro st'
  rw [EcuCore.setState_states]
  split
  · exact hs
  · exact hc st'

theorem maybeDrop (h : Closed cfg P) (hc : ∀ st, P (c.states st)) (testerAddr : Option SA)
    (st : StateId) : ∀ st', P ((c.maybeDropSessionState cfg testerAddr st).states st') := by
  intro st'
  rcases EcuCore.maybeDrop_states cfg c testerAddr st st' with hsame | ⟨_, _, hcancel⟩
  · rw [hsame]
    exact hc st'
  · rw [hcancel]
    exact h.cancelS3 (hc st)

theorem sessionFor (h : Closed cfg P) (hc : ∀ st, P (c.states st)) (src : SA) :
    ∀ st, P ((c.sessionFor cfg src).1.states st) := by
  unfold EcuCore.sessionFor
  split
  · exact hc
  · intro st
    by_cases hst : st = c.nextState
    · subst hst
      simp only [Function.update_self]
      exact h.fresh _
    · simp only [Function.update_of_ne hst]
      exact hc st

theorem dropSessionState (h : Closed cfg P) (hc : ∀ st, P (c.states st)) (sa : SA) :
    ∀ st, P ((c.dropSessionState sa).states st) := by
  unfold EcuCore.dropSessionState
  split
  · exact setState hc _ (h.cancelS3 (hc _))
  · exact hc

theorem dispatch (h : Closed cfg P) (hc : ∀ st, P (c.states st)) (r : UdsRequest) (st : StateId) :
    ∀ st', P ((VirtualEcu.dispatch cfg r st c).1.states st') := by
  have heffect := dispatch_effect cfg r st c
  generalize (VirtualEcu.dispatch cfg r st c).1 = c' at heffect ⊢
  cases heffect with
  | served s d hs => exact setState hc st (h.effect hs (hc st))
  | reset d _ _ => exact setState hc st (h.reset _)
  | dropped d _ _ => exact h.dropSessionState hc r.sourceAddr

theorem releaseState (h : Closed cfg P) (hc : ∀ st, P (w.core.states st)) (i : Sid) :
    ∀ st, P ((w.releaseState cfg i).core.states st) := by
  unfold World.releaseState
  dsimp only
  split
  · exact h.maybeDrop hc _ _
  · exact hc

theorem step (h : Closed cfg P) (hw : Shape w) (hstep : VirtualEcu.step cfg w e = some w')
    (hc : ∀ st, P (w.core.states st)) : ∀ st, P (w'.core.states st) := by
  have hevict : ∀ (u : World) (i : Sid) (answered : Bool), (∀ st, P (u.core.states st)) →
      ∀ st, P ((u.evict cfg i answered).core.states st) := by
    intro u i answered hu
    rw [evict_core]
    exact h.releaseState hu i
  cases step_change hw hstep with
  | quiet hq =>
      rw [hq.core]
      exact hc
  | accepted => exact hc
  | occupied _ _ _ hq =>
      rw [hq.core]
      exact h.sessionFor hc _
  | @evicted i src existing ev answered _ _ _ _ hq =>
      rw [hq.core]
      exact hevict (w.takeProbe i existing) existing answered hc
  | @replaced i src existing ev answered _ _ _ _ hq =>
      rw [hq.core]
      exact h.sessionFor (hevict (w.takeProbe i existing) existing answered hc) src
  | @requested i st _ _ hq =>
      rw [hq.core]
      exact setState hc st (h.effect .refreshed (hc st))
  | dispatched _ hq =>
      rw [hq.core]
      exact h.dispatch hc _ _
  | @expired st _ => exact h.maybeDrop (setState hc st (h.reset _)) _ _
  | @released i _ _ hq =>
      rw [hq.core]
      exact h.releaseState hc i
  | unregistered _ hq =>
      rw [hq.core]
      exact hc

end Closed

/-- The timer runs only outside the default session, and only if it is on. -/
def SessionState.Runs (cfg : EcuConfig) (s : SessionState) : Prop :=
  s.s3Armed = true → s.sessionType ≠ cfg.uds.defaultSession ∧ 0 < cfg.uds.s3ServerMs

theorem refreshS3_runs (s : SessionState) : (s.refreshS3 cfg).Runs cfg := by
  unfold SessionState.refreshS3 SessionState.Runs
  split
  · exact fun h => absurd h Bool.false_ne_true
  split
  · exact fun h => absurd h Bool.false_ne_true
  · rename_i hother hon
    exact fun _ => ⟨hother, by omega⟩

theorem closed_runs (cfg : EcuConfig) : Closed cfg (SessionState.Runs cfg) where
  fresh := fun _ h => absurd h Bool.false_ne_true
  effect := by
    intro s s' heffect hs
    cases heffect with
    | same => exact hs
    | entered sub _ => exact refreshS3_runs _
    | refreshed => exact refreshS3_runs s
    | security => exact hs
  cancelS3 := fun _ h => absurd h Bool.false_ne_true
  reset := fun _ h => absurd h Bool.false_ne_true

/-- The deeds of `st`, replayed on a core that serves nobody else, lead to
what the state `s` remembers. -/
structure Replayed (cfg : EcuConfig) (st : StateId) (ds : List WorkEvent) (s : SessionState)
    (c : EcuCore) : Prop where
  run : Transition.exec (workStep cfg st) (EcuCore.init cfg) ds = some c
  bare : (c.states st).bare = s.bare
  table : ∀ sa, c.sessionStates sa = none
  ticks : 0 < cfg.uds.s3ServerMs → (c.states st).Ticks cfg

namespace Replayed

variable {ds : List WorkEvent}

theorem init (cfg : EcuConfig) (st : StateId) :
    Replayed cfg st [] (SessionState.new cfg) (EcuCore.init cfg) where
  run := rfl
  bare := rfl
  table := fun _ => rfl
  ticks := fun _ hother => absurd rfl hother

theorem congr (h : Replayed cfg st ds s c) (hs : s'.bare = s.bare) : Replayed cfg st ds s' c :=
  { h with bare := h.bare.trans hs.symm }

theorem empty_of_shrinks {c' : EcuCore} (h : ∀ sa, c.sessionStates sa = none)
    (hshrinks : EcuCore.Shrinks c c') (sa : SA) : c'.sessionStates sa = none := by
  cases hentry : c'.sessionStates sa with
  | none => rfl
  | some st => exact absurd ((h sa).symm.trans (hshrinks.table sa st hentry)) (by simp)

theorem request (h : Replayed cfg st ds s c) (hs : s'.bare = s.bare.afterRequest cfg r) :
    Replayed cfg st (ds ++ [.request r]) s' (serve cfg r st c).1 where
  run := Transition.exec_snoc h.run rfl
  bare := by
    unfold serve
    rw [bare_dispatch, EcuCore.setState_states, if_pos rfl, bare_refreshS3, h.bare, hs]
  table := empty_of_shrinks h.table
    ((EcuCore.Shrinks.setState c st (by
      obtain ⟨armed, heq⟩ := SessionState.refreshS3_eq cfg (c.states st)
      rw [heq])).trans (dispatch_shrinks r st _))
  ticks := by
    intro hs3
    have hrefreshed := refreshS3_ticks hs3 (c.states st)
    unfold serve
    have hstate : (c.setState st ((c.states st).refreshS3 cfg)).states st
        = (c.states st).refreshS3 cfg := by rw [EcuCore.setState_states, if_pos rfl]
    rw [← hstate] at hrefreshed
    have heffect := dispatch_effect cfg r st (c.setState st ((c.states st).refreshS3 cfg))
    generalize (dispatch cfg r st (c.setState st ((c.states st).refreshS3 cfg))).1 = c'
      at heffect ⊢
    cases heffect with
    | served s d hserved =>
        show ((EcuCore.setState _ st s).states st).Ticks cfg
        rw [EcuCore.setState_states, if_pos rfl]
        exact hserved.ticks hs3 hrefreshed
    | reset d _ _ =>
        show ((EcuCore.setState _ st _).states st).Ticks cfg
        rw [EcuCore.setState_states, if_pos rfl]
        exact fun hother => absurd rfl hother
    | dropped d _ _ =>
        have hsame : (c.setState st ((c.states st).refreshS3 cfg)).dropSessionState r.sourceAddr
            = c.setState st ((c.states st).refreshS3 cfg) := by
          unfold EcuCore.dropSessionState
          rw [EcuCore.setState_sessionStates, h.table]
        rw [hsame]
        exact hrefreshed

theorem s3Expiry (h : Replayed cfg st ds s c) (harmed : s.s3Armed = true) (hruns : s.Runs cfg)
    (hs : s'.bare = (s.bare.reset cfg).bare) :
    Replayed cfg st (ds ++ [.s3Expiry]) s' (c.s3Expiry cfg st) where
  run := by
    obtain ⟨hother, hs3⟩ := hruns harmed
    have hstays : (c.states st).s3Armed = true := by
      apply h.ticks hs3
      rw [(bare_eq_iff.mp h.bare).1]
      exact hother
    exact Transition.exec_snoc h.run (if_pos hstays)
  bare := (bare_s3Expiry c st).trans hs.symm
  table := empty_of_shrinks h.table (EcuCore.Shrinks.s3Expiry c st)
  ticks := by
    intro _ hother
    have hrights : ((c.s3Expiry cfg st).states st).rights = Rights.none cfg :=
      s3Expiry_rights c st
    exact absurd (congrArg Rights.sessionType hrights) hother

end Replayed

/-- **The deeds of a state are a run of their own**, with the same outcome. -/
theorem deeds_replayed (es : List Event)
    (h : Transition.exec (step cfg) (World.init cfg) es = some w) (st : StateId) :
    ∃ c, Replayed cfg st (deeds cfg st es) (w.core.states st) c := by
  refine (Transition.exec_history (fun es w =>
    Transition.exec (step cfg) (World.init cfg) es = some w ∧ Shape w ∧ Unused cfg w.core
      ∧ (∀ st, (w.core.states st).Runs cfg)
      ∧ ∃ c, Replayed cfg st (deeds cfg st es) (w.core.states st) c) ?_ ?_ es w h).2.2.2.2
  · refine ⟨rfl, shape_init cfg, fun _ _ => rfl, fun _ => (closed_runs cfg).fresh none, ?_⟩
    exact ⟨_, .init cfg st⟩
  · rintro es w e w' ⟨hrun, hw, hunused, hruns, c, hreplayed⟩ hstep
    have hmoves := step_deeds hw hunused hstep
    refine ⟨Transition.exec_snoc hrun hstep, hw.step hstep, hmoves.1,
      (closed_runs cfg).step hw hstep hruns, ?_⟩
    have hsnoc : deeds cfg st (es ++ [e]) = deeds cfg st es ++ deed st w e :=
      Transition.collect_snoc hrun
    have hbare := hmoves.2 st
    rw [hsnoc]
    generalize hdeed : deed st w e = ds at hbare ⊢
    unfold deed at hdeed
    split at hdeed
    · split at hdeed
      · subst hdeed
        exact ⟨_, hreplayed.request hbare⟩
      · subst hdeed
        rw [List.append_nil]
        exact ⟨c, hreplayed.congr hbare⟩
    · split at hdeed
      · rename_i st' _ hst
        subst hdeed hst
        simp only [step, Option.ite_none_right_eq_some] at hstep
        exact ⟨_, hreplayed.s3Expiry hstep.1 (hruns st') hbare⟩
      · subst hdeed
        rw [List.append_nil]
        exact ⟨c, hreplayed.congr hbare⟩
    · subst hdeed
      rw [List.append_nil]
      exact ⟨c, hreplayed.congr hbare⟩

/-! ## §6. Whose key it was. -/

theorem Relocks.disturbs {e : WorkEvent} (h : Relocks cfg e) (s : SessionState) :
    Disturbs cfg s e := by
  cases e with
  | request r => exact .inl h
  | s3Expiry => trivial

/-- Nothing locks the state while an exchange is armed. -/
theorem not_relocks_between {c c' : EcuCore} {ds : List WorkEvent}
    (h : Transition.exec (workStep cfg st) c ds = some c')
    (hal : Transition.Along (workStep cfg st) (fun c e => ¬ Disturbs cfg (c.states st) e) c ds)
    {e : WorkEvent} (he : e ∈ ds) : ¬ Relocks cfg e := by
  obtain ⟨before, after, rfl⟩ := List.append_of_mem he
  obtain ⟨u, hu, _⟩ := Transition.exec_append_eq_some.mp h
  intro hrelocks
  exact (hal.suffix hu).1 (hrelocks.disturbs (u.states st))

/-- Nothing locks the state while it has a level and keeps it. -/
theorem not_relocks_after {c c' : EcuCore} {ds : List WorkEvent} {level : Nat}
    (hen : cfg.uds.security.enabled = true) (hplace : cfg.uds.resetDropsConnection = false)
    (hpos : 0 < level) (hend : (c'.states st).securityLevel = level)
    (h : Transition.exec (workStep cfg st) c ds = some c')
    (hal : Transition.Along (workStep cfg st) (fun c _ => (c.states st).securityLevel = level) c ds)
    {e : WorkEvent} (he : e ∈ ds) : ¬ Relocks cfg e := by
  obtain ⟨before, after, rfl⟩ := List.append_of_mem he
  obtain ⟨u, hu, hrest⟩ := Transition.exec_append_eq_some.mp h
  obtain ⟨v, hv, hafter⟩ := Transition.exec_cons_eq_some.mp hrest
  intro hrelocks
  have hin : ResetsInPlace cfg e := by
    cases e with
    | request r => exact fun _ => hplace
    | s3Expiry => trivial
  have hzero := ((workStep_moves hen hin hv).of_relocks hrelocks).1
  have hkept : (v.states st).securityLevel = level := by
    cases after with
    | nil =>
        cases hafter
        exact hend
    | cons e' after => exact (((hal.suffix hu).cons hv).2).1
  omega

/-- **A level is unlocked by its own tester**: in every run, if a state has a
security level, then its tester asked for the seed of that level, sent the
expected key, and nothing has locked the state since the seed. -/
theorem unlocked_by_own_key (cfg : EcuConfig) (hen : cfg.uds.security.enabled = true)
    (hplace : cfg.uds.resetDropsConnection = false) (es : List Event) (w : World) (st : StateId)
    (hrun : Transition.exec (step cfg) (World.init cfg) es = some w)
    (hlevel : 0 < (w.core.states st).securityLevel) :
    ∃ sa before q between r after,
      (w.core.states st).testerAddr = some sa ∧ q.sourceAddr = sa ∧ r.sourceAddr = sa
      ∧ deeds cfg st es = before ++ .request q :: (between ++ .request r :: after)
      ∧ q.RequestsSeed (2 * (w.core.states st).securityLevel - 1)
      ∧ r.SendsKey (2 * (w.core.states st).securityLevel)
          (expectedKey cfg.uds.security.seed cfg.uds.security)
      ∧ ∀ e ∈ between ++ after, ¬ Relocks cfg e := by
  obtain ⟨c, hreplayed⟩ := deeds_replayed es hrun st
  have hsame : (c.states st).securityLevel = (w.core.states st).securityLevel :=
    (bare_eq_iff.mp hreplayed.bare).2.1
  have hinplace : ∀ e ∈ deeds cfg st es, ResetsInPlace cfg e := by
    intro e _
    cases e with
    | request r => exact fun _ => hplace
    | s3Expiry => trivial
  have hfresh : ((EcuCore.init cfg).states st).rights = Rights.none cfg := rfl
  have hinv := securityInv_run hen hfresh (deeds cfg st es) c hinplace hreplayed.run
  obtain ⟨armed, r, after, c₁, c₂, hdeeds, harmed, _, hkey, hr, hafter, hkept⟩ :=
    hinv.level (hsame ▸ hlevel)
  obtain ⟨before, q, between, c₃, c₄, rfl, _, hseed, _, hbetween, hundisturbed⟩ := harmed
  rw [List.append_assoc, List.cons_append] at hdeeds
  have hq : WorkEvent.request q ∈ deeds cfg st es := by
    rw [hdeeds]
    simp
  have hr' : WorkEvent.request r ∈ deeds cfg st es := by
    rw [hdeeds]
    simp
  have htester := deeds_own es hrun hq
  have htester' := deeds_own es hrun hr'
  rw [hsame] at hseed hkey hkept
  refine ⟨q.sourceAddr, before, q, between, r, after, htester, rfl, ?_, hdeeds, hseed.1, hkey, ?_⟩
  · exact Option.some.inj (htester'.symm.trans htester)
  · intro e he
    rcases List.mem_append.mp he with hmem | hmem
    · exact not_relocks_between hbetween hundisturbed hmem
    · exact not_relocks_after hen hplace hlevel hsame hafter hkept hmem

theorem unlocked_by_own_key_beside :
    ∃ w r, Transition.exec (step {}) (World.init {}) opensBeside = some w
      ∧ (w.core.states 0).securityLevel = 1 ∧ .request r ∈ deeds {} 0 opensBeside
      ∧ r.sourceAddr = 0x0E01 ∧ r.SendsKey 2 (expectedKey [0x11, 0x22, 0x33, 0x44] {}) := by
  have hrun : ((Transition.exec (step {}) (World.init {}) opensBeside).map fun w =>
      ((w.core.states 0).securityLevel, (w.core.states 0).testerAddr)) = some (1, some 0x0E01) := by
    decide
  obtain ⟨w, hw, heq⟩ := Option.map_eq_some_iff.mp hrun
  simp only [Prod.mk.injEq] at heq
  obtain ⟨hlevel, haddr⟩ := heq
  have hpos : 0 < (w.core.states 0).securityLevel := by omega
  obtain ⟨sa, before, q, between, r, after, htester, _, hr, hdeeds, _, hkey, _⟩ :=
    unlocked_by_own_key {} rfl rfl opensBeside w 0 hw hpos
  rw [haddr, Option.some.injEq] at htester
  rw [hlevel] at hkey
  refine ⟨w, r, hw, hlevel, ?_, hr.trans htester.symm, hkey⟩
  rw [hdeeds]
  simp

end DoipPlayground.VirtualEcu
