/-
  DoipPlayground.VirtualEcu.Steps
  ───────────────────────────────
  **WHAT EACH COROUTINE CAN DO IN ONE STEP.**

  One lemma per handler, said once for all invariants:

    • most handlers only move the pump of their own socket (`Pumped`) or its
      worker (`Worked`),
    • a Routing Activation may also start a probe, or take the address,
    • the end of a probe may also evict the owner.
-/
import DoipPlayground.VirtualEcu.Session
import DoipPlayground.Lib.Run

namespace DoipPlayground.VirtualEcu

open Wire

variable {cfg : EcuConfig} {w w' : World} {i j : Sid}

/-! ## §1. Overwriting one session. -/

namespace World

@[simp] theorem set_sessions (w : World) (i j : Sid) (s : Session) :
    (w.set i s).sessions j = if j = i then s else w.sessions j := by
  by_cases h : j = i
  · subst h
    simp [set]
  · simp [set, h]

@[simp] theorem set_opened (w : World) (i : Sid) (s : Session) :
    (w.set i s).opened = w.opened := rfl

@[simp] theorem set_registry (w : World) (i : Sid) (s : Session) :
    (w.set i s).registry = w.registry := rfl

@[simp] theorem set_core (w : World) (i : Sid) (s : Session) : (w.set i s).core = w.core := rfl

/-- The last write to a session wins. -/
@[simp] theorem set_set (w : World) (i : Sid) (s t : Session) :
    (w.set i s).set i t = w.set i t := by
  unfold set
  dsimp only
  rw [Function.update_idem]

theorem set_self (w : World) (i : Sid) : w.set i (w.sessions i) = w := by
  unfold set
  rw [Function.update_eq_self]

end World

/-! ## §2. The pump on its own. -/

/-- Inside the loop, with no probe awaited. -/
def Pump.Calm : Pump → Prop
  | .reading | .hooking _ _ | .sending _ => True
  | _ => False

/-- In the `finally` of `run`. -/
def Pump.Past : Pump → Prop
  | .stoppingSupervisor | .stoppingWorker | .closingWriter | .ended => True
  | _ => False

/-- The pump of `i` moved inside its loop: it may have read the version of a
frame, written to the socket and queued a request. -/
def Pumped (w : World) (i : Sid) (w' : World) : Prop :=
  ∃ wire version queue pump, pump.Calm ∧
    w' = w.set i { w.sessions i with
      wire := wire, currentReqVersion := version, udsQueue := queue, pump := pump }

theorem Pumped.version {v : UInt8}
    (h : Pumped (w.set i { w.sessions i with currentReqVersion := v }) i w') : Pumped w i w' := by
  obtain ⟨wire, version, queue, pump, hcalm, rfl⟩ := h
  exact ⟨wire, version, queue, pump, hcalm, by simp⟩

theorem sendResponse_pumped (w : World) (i : Sid) (payloadType : Nat) (payload : Bytes)
    (next : AfterSend) : Pumped w i (w.sendResponse i payloadType payload next) :=
  ⟨_, _, _, .sending next, trivial, by
    unfold World.sendResponse World.write World.setPump
    simp
    rfl⟩

theorem respondActivation_pumped (w : World) (i : Sid) (src : SA) (code : UInt8) :
    Pumped w i (w.respondActivation cfg i src code) :=
  sendResponse_pumped w i _ _ _

theorem setPump_pumped (w : World) (i : Sid) (pump : Pump) (h : pump.Calm) :
    Pumped w i (w.setPump i pump) :=
  ⟨_, _, _, pump, h, rfl⟩

theorem enqueue_pumped (w : World) (i : Sid) (request : UdsRequest) (version : UInt8) :
    Pumped w i (w.enqueue cfg i request version) := by
  unfold World.enqueue
  dsimp only
  -- it is queued, or refused as busy
  split
  · exact ⟨_, _, _, .reading, trivial, rfl⟩
  · exact sendResponse_pumped w i _ _ _

theorem handleDiagnostic_pumped (w : World) (i : Sid) (payload : Bytes) :
    Pumped w i (w.handleDiagnostic cfg i payload) := by
  unfold World.handleDiagnostic
  dsimp only
  -- by the checks, in order: each of them answers
  split
  · exact sendResponse_pumped w i _ _ _
  split
  · exact sendResponse_pumped w i _ _ _
  split
  · exact sendResponse_pumped w i _ _ _
  split
  · exact sendResponse_pumped w i _ _ _
  · exact sendResponse_pumped w i _ _ _

/-- A frame moves the pump, or it is an Alive Check Response. -/
theorem readFrame_spec {raw : Bytes} (h : w.readFrame cfg i raw = some w') :
    Pumped w i w'
      ∨ ∃ version, w' = (w.set i { w.sessions i with
          currentReqVersion := version }).handleAliveCheckResponse i := by
  have hclose : ∀ frame, Pumped w i ((w.write i frame).setPump i (.sending .close)) := fun frame =>
    ⟨_, _, _, .sending .close, trivial, by unfold World.write World.setPump; simp; rfl⟩
  unfold World.readFrame at h
  split at h
  -- too few bytes, a payload that is too long, a frame, or bytes of the next one
  · cases h
  split at h
  · cases h
    exact .inl (hclose _)
  split at h
  · cases h
    unfold World.handleFrame
    dsimp only
    -- by the header, then by the payload type
    split
    · exact .inl (hclose _)
    split
    · split
      · exact .inl (sendResponse_pumped _ i _ _ _).version
      · exact .inl (setPump_pumped _ i (.hooking _ _) trivial).version
    split
    · exact .inl (handleDiagnostic_pumped _ i _).version
    split
    · exact .inl (sendResponse_pumped _ i _ _ _).version
    split
    -- the only frame that moves something else than the pump
    · exact .inr ⟨_, rfl⟩
    · exact .inl (sendResponse_pumped _ i _ _ _).version
  · cases h

/-! ## §3. Routing activation. -/

/-- The socket takes the address: what `commitActivation` does before it
confirms. -/
def World.occupy (cfg : EcuConfig) (w : World) (i : Sid) (src : SA) : World :=
  { w.set i { w.sessions i with
      testerAddr := some src, activated := true, state := some (w.core.sessionFor cfg src).2 } with
    core := (w.core.sessionFor cfg src).1
    registry := SessionRegistry.register w.registry src i }

theorem commitActivation_eq (w : World) (i : Sid) (src : SA) :
    w.commitActivation cfg i src = (w.occupy cfg i src).respondActivation cfg i src 0x10 := rfl

/-- Past the conflict check the request is refused, or the address is taken. -/
theorem checkCapacity_spec (cfg : EcuConfig) (w : World) (i : Sid) (src : SA) :
    (cfg.doip.maxConcurrentSessions ≤ SessionRegistry.len w.registry
        ∧ Pumped w i (w.checkCapacity cfg i src))
      ∨ (SessionRegistry.len w.registry < cfg.doip.maxConcurrentSessions
        ∧ Pumped (w.occupy cfg i src) i (w.checkCapacity cfg i src)) := by
  unfold World.checkCapacity
  split
  · rename_i hfull
    exact .inl ⟨hfull, respondActivation_pumped w i src _⟩
  · rename_i hroom
    rw [commitActivation_eq]
    exact .inr ⟨by omega, respondActivation_pumped _ i src _⟩

/-- The owner a Routing Activation has to probe: the request is otherwise
fine and the address is registered on another socket. -/
def World.probeTarget (cfg : EcuConfig) (w : World) (i : Sid) (src activationType : Nat)
    (override : Option UInt8) : Option Sid :=
  if override.filter (fun code => code != 0x10) = none
      ∧ cfg.doip.testerAddrRange.1 ≤ src ∧ src ≤ cfg.doip.testerAddrRange.2
      ∧ (activationType = 0x00 ∨ activationType = 0x01)
      ∧ (w.sessions i).activated = false then
    (w.registry.lookup src).filter (fun existing => existing != i)
  else none

theorem probeTarget_eq_some {src activationType : Nat} {override : Option UInt8} {existing : Sid}
    (h : w.probeTarget cfg i src activationType override = some existing) :
    (w.sessions i).activated = false ∧ w.registry.lookup src = some existing
      ∧ existing ≠ i := by
  unfold World.probeTarget at h
  rw [Option.ite_none_right_eq_some, Option.filter_eq_some_iff] at h
  obtain ⟨⟨_, _, _, _, hact⟩, hl, hne⟩ := h
  exact ⟨hact, hl, by simpa using hne⟩

/-- The request is answered, or the owner is probed, or a fresh socket takes
a free address. -/
theorem handleRoutingActivation_spec (cfg : EcuConfig) (w : World) (i : Sid)
    (src activationType : Nat) (override : Option UInt8) :
    Pumped w i (w.handleRoutingActivation cfg i src activationType override)
      ∨ (∃ existing, w.probeTarget cfg i src activationType override = some existing
          ∧ w.handleRoutingActivation cfg i src activationType override
            = (w.startProbe i existing).setPump i (.probing src existing))
      ∨ ((w.sessions i).activated = false
          ∧ (w.registry.lookup src = none ∨ w.registry.lookup src = some i)
          ∧ Pumped (w.occupy cfg i src) i
              (w.handleRoutingActivation cfg i src activationType override)) := by
  unfold World.handleRoutingActivation
  dsimp only
  split
  -- a hook has refused
  · exact .inl (sendResponse_pumped w i _ _ _)
  rename_i hover
  split
  -- out of range, unknown type, an address of its own
  · exact .inl (respondActivation_pumped w i src _)
  rename_i hrange
  split
  · exact .inl (respondActivation_pumped w i src _)
  rename_i htype
  split
  · exact .inl (respondActivation_pumped w i src _)
  rename_i hother
  split
  -- the same address once more: a confirmation
  · exact .inl (respondActivation_pumped w i src _)
  rename_i hsame
  -- past these checks the socket is a fresh one
  have hact : (w.sessions i).activated = false := by
    cases ha : (w.sessions i).activated with
    | false => rfl
    | true => exact absurd ⟨ha, by simpa [ha] using hother⟩ hsame
  have hcheck : (w.registry.lookup src = none ∨ w.registry.lookup src = some i) →
      Pumped w i (w.checkCapacity cfg i src)
        ∨ (∃ existing, w.probeTarget cfg i src activationType override = some existing
            ∧ w.checkCapacity cfg i src
              = (w.startProbe i existing).setPump i (.probing src existing))
        ∨ ((w.sessions i).activated = false
            ∧ (w.registry.lookup src = none ∨ w.registry.lookup src = some i)
            ∧ Pumped (w.occupy cfg i src) i (w.checkCapacity cfg i src)) := by
    intro hl
    rcases checkCapacity_spec cfg w i src with ⟨_, hp⟩ | ⟨_, hp⟩
    · exact .inl hp
    · exact .inr (.inr ⟨hact, hl, hp⟩)
  -- by the owner of the address: none, this socket, or another one
  split
  · rename_i hl
    exact hcheck (.inl hl)
  · rename_i existing hl
    split
    · rename_i heq
      exact hcheck (.inr (heq ▸ hl))
    · rename_i hne
      refine .inr (.inl ⟨existing, ?_, rfl⟩)
      unfold World.probeTarget
      rw [if_pos ⟨hover, by omega, by omega, by omega, hact⟩, hl]
      simpa using hne

/-- After the probe: the owner is alive, or it is evicted. -/
theorem resumeActivation_spec (cfg : EcuConfig) (w : World) (i : Sid) (src : SA) (existing : Sid)
    (alive answered : Bool) :
    (alive = true ∧ Pumped w i (w.resumeActivation cfg i src existing alive answered))
      ∨ (alive = false
          ∧ ((cfg.doip.maxConcurrentSessions
                  ≤ SessionRegistry.len (w.evict cfg existing answered).registry
              ∧ Pumped (w.evict cfg existing answered) i
                  (w.resumeActivation cfg i src existing alive answered))
            ∨ (SessionRegistry.len (w.evict cfg existing answered).registry
                  < cfg.doip.maxConcurrentSessions
              ∧ Pumped ((w.evict cfg existing answered).occupy cfg i src) i
                  (w.resumeActivation cfg i src existing alive answered)))) := by
  unfold World.resumeActivation
  cases alive with
  | true => exact .inl ⟨rfl, respondActivation_pumped w i src _⟩
  | false => exact .inr ⟨rfl, checkCapacity_spec cfg _ i src⟩

/-! ## §4. The worker. -/

/-- The state a worker serves with. -/
def Worker.state? : Worker → Option StateId
  | .serving _ _ st _ | .doomed _ st => some st
  | _ => none

/-- The worker of `i` moved: it may have written responses, left its state
and closed the writer. -/
def Worked (w : World) (i : Sid) (w' : World) : Prop :=
  ∃ wire worker finalized,
    (∀ st, worker.state? = some st → (w.sessions i).worker.state? = some st)
      ∧ ((w.sessions i).finalized = true → finalized = true)
      ∧ w' = w.set i { w.sessions i with wire := wire, worker := worker, finalized := finalized }

/-- The responder only writes to the socket. -/
theorem responses_eq (cfg : EcuConfig) (i : Sid) (request : UdsRequest) (version : UInt8)
    (responses : List Bytes) :
    ∀ w : World, ∃ wire,
      responses.foldl (fun w response => w.respondUds cfg i request version response) w
        = w.set i { w.sessions i with wire := wire } := by
  induction responses with
  | nil =>
      intro w
      exact ⟨(w.sessions i).wire, (w.set_self i).symm⟩
  -- a response the header cannot carry is left out
  | cons response responses ih =>
      intro w
      rw [List.foldl_cons]
      unfold World.respondUds
      dsimp only
      split
      · obtain ⟨wire, hw⟩ := ih (w.write i _)
        refine ⟨wire, hw.trans ?_⟩
        unfold World.write
        simp
      · exact ih w

theorem advanceWorker_worked {request : UdsRequest} {version : UInt8} {st : StateId}
    (h : (w.sessions i).worker.state? = some st) (p2 p2' : P2) :
    Worked w i (w.advanceWorker cfg i request version st p2 p2') := by
  obtain ⟨wire, hwire⟩ := responses_eq cfg i request version
    (p2'.emitted.drop p2.emitted.length) w
  unfold World.advanceWorker World.setWorker World.finalize
  dsimp only
  rw [hwire]
  -- the call is over, and may have asked for the connection to close
  split
  · split
    · exact ⟨wire, .idle, true, by simp [Worker.state?], fun _ => rfl, by simp⟩
    · exact ⟨wire, .idle, _, by simp [Worker.state?], id, by simp⟩
  · exact ⟨wire, .serving request version st p2', _, fun _ hst => h.trans hst, id, by simp⟩

/-! ## §5. What a step can do. -/

/-- A step that happens, with the guard it passed. -/
inductive StepEffect (cfg : EcuConfig) (w : World) : Event → World → Prop where
  | accepted : StepEffect cfg w .accept { w with opened := w.opened + 1 }
  | frameRead (i : Sid) (raw : Bytes) (w' : World) (hopen : i < w.opened)
      (hpump : (w.sessions i).pump = .reading) (hread : w.readFrame cfg i raw = some w') :
      StepEffect cfg w (.frame i raw) w'
  | loopEnded (i : Sid) (hopen : i < w.opened) (hpump : ¬ (w.sessions i).pump.Past) :
      StepEffect cfg w (.loopEnds i) (w.leaveLoop i)
  | hookReturned (i : Sid) (override : Option UInt8) (src activationType : Nat)
      (hpump : (w.sessions i).pump = .hooking src activationType) :
      StepEffect cfg w (.hookReturned i override)
        (w.handleRoutingActivation cfg i src activationType override)
  | sentLoop (i : Sid) (hpump : (w.sessions i).pump = .sending .loop) :
      StepEffect cfg w (.sent i) (w.setPump i .reading)
  | sentClose (i : Sid) (hpump : (w.sessions i).pump = .sending .close) :
      StepEffect cfg w (.sent i) (w.leaveLoop i)
  | sentEnqueue (i : Sid) (request : UdsRequest) (version : UInt8)
      (hpump : (w.sessions i).pump = .sending (.enqueue request version)) :
      StepEffect cfg w (.sent i) (w.enqueue cfg i request version)
  | probeSent (i o : Sid) (event slot : EventId) (answered : Bool)
      (hprobe : w.probes i o = some ⟨event, .sending, answered⟩)
      (hslot : (w.sessions o).aliveProbeEvent = some slot) :
      StepEffect cfg w (.probeSent i o) { w with
        probes := fun j o' =>
          if j = i ∧ o' = o then some ⟨event, .waiting slot, answered⟩ else w.probes j o' }
  | probeUnwaited (i o : Sid) (event : EventId) (answered : Bool)
      (hprobe : w.probes i o = some ⟨event, .sending, answered⟩)
      (hslot : (w.sessions o).aliveProbeEvent = none) :
      StepEffect cfg w (.probeSent i o) (w.endProbe i o ⟨event, .sending, answered⟩ false)
  | probeSendFailed (i o : Sid) (event : EventId) (answered : Bool)
      (hprobe : w.probes i o = some ⟨event, .sending, answered⟩) :
      StepEffect cfg w (.probeSendFailed i o) (w.endProbe i o ⟨event, .sending, answered⟩ false)
  | probeWoken (i o : Sid) (event slot : EventId) (answered : Bool)
      (hprobe : w.probes i o = some ⟨event, .waiting slot, answered⟩)
      (hset : w.events slot = true) :
      StepEffect cfg w (.probeWoken i o) (w.endProbe i o ⟨event, .waiting slot, answered⟩ true)
  | probeTimedOut (i o : Sid) (event slot : EventId) (answered : Bool)
      (hprobe : w.probes i o = some ⟨event, .waiting slot, answered⟩) :
      StepEffect cfg w (.probeTimeout i o)
        (w.endProbe i o ⟨event, .waiting slot, answered⟩ false)
  | probeReturned (i existing : Sid) (src : SA) (event : EventId) (alive answered : Bool)
      (hpump : (w.sessions i).pump = .probing src existing)
      (hprobe : w.probes i existing = some ⟨event, .done alive, answered⟩) :
      StepEffect cfg w (.probeReturned i)
        ((w.takeProbe i existing).resumeActivation cfg i src existing alive answered)
  | requestTaken (i : Sid) (request : UdsRequest) (version : UInt8)
      (rest : List (UdsRequest × UInt8)) (hworker : (w.sessions i).worker = .idle)
      (hqueue : (w.sessions i).udsQueue = (request, version) :: rest) :
      StepEffect cfg w (.takeRequest i) (w.takeRequest cfg i request version rest)
  | dispatched (i : Sid) (request : UdsRequest) (version : UInt8) (st : StateId) (p2 p2' : P2)
      (hworker : (w.sessions i).worker = .serving request version st p2)
      (hp2 : p2Step cfg.uds request p2 (.finish (dispatch cfg request st w.core).2) = some p2') :
      StepEffect cfg w (.dispatch i)
        { w.setWorker i (.serving request version st p2') with
          core := (dispatch cfg request st w.core).1 }
  | dispatchedLast (i : Sid) (request : UdsRequest) (st : StateId)
      (hworker : (w.sessions i).worker = .doomed request st) :
      StepEffect cfg w (.dispatch i)
        { w.setWorker i .stopped with core := (dispatch cfg request st w.core).1 }
  | resolved (i : Sid) (e : P2Event) (request : UdsRequest) (version : UInt8) (st : StateId)
      (p2 p2' : P2) (hworker : (w.sessions i).worker = .serving request version st p2)
      (hevent : e.Own)
      (hp2 : p2Step cfg.uds request p2 e = some p2') :
      StepEffect cfg w (.resolve i e) (w.advanceWorker cfg i request version st p2 p2')
  | responderStopped (i : Sid) (request : UdsRequest) (version : UInt8) (st : StateId) (p2 : P2)
      (response : Bytes) (hworker : (w.sessions i).worker = .serving request version st p2)
      (hpoint : p2.point = .sendingLast) (hhandler : p2.handler = some (.abort response)) :
      StepEffect cfg w (.responderFailed i) (w.setWorker i .stopped)
  | responderFailed (i : Sid) (request : UdsRequest) (version : UInt8) (st : StateId) (p2 : P2)
      (hworker : (w.sessions i).worker = .serving request version st p2)
      (hpoint : p2.point = .sendingLast ∨ p2.point = .sendingPending) :
      StepEffect cfg w (.responderFailed i) (w.setWorker i .idle)
  | inactive (i : Sid) (hopen : i < w.opened) (hlive : (w.sessions i).finalized = false) :
      StepEffect cfg w (.inactivity i) (w.finalize i)
  | s3Expired (st : StateId) (harmed : (w.core.states st).s3Armed = true) :
      StepEffect cfg w (.s3Expiry st) { w with core := w.core.s3Expiry cfg st }
  | supervisorStopped (i : Sid) (hpump : (w.sessions i).pump = .stoppingSupervisor) :
      StepEffect cfg w (.supervisorStopped i) ((w.cancelWorker i).setPump i .stoppingWorker)
  | workerStopped (i : Sid) (hpump : (w.sessions i).pump = .stoppingWorker) :
      StepEffect cfg w (.workerStopped i)
        (((w.setWorker i .stopped).releaseState cfg i).setPump i .closingWriter)
  | writerClosed (i : Sid) (hpump : (w.sessions i).pump = .closingWriter) :
      StepEffect cfg w (.writerClosed i) ((w.unregister i).setPump i .ended)

theorem step_effect {e : Event} (h : step cfg w e = some w') : StepEffect cfg w e w' := by
  cases e with
  | accept =>
      cases h
      exact .accepted
  | frame i raw =>
      simp only [step, Option.ite_none_right_eq_some] at h
      obtain ⟨⟨hopen, hpump⟩, hread⟩ := h
      exact .frameRead i raw w' hopen hpump hread
  | loopEnds i =>
      simp only [step, Option.ite_none_right_eq_some] at h
      obtain ⟨hopen, h⟩ := h
      -- in the clean-up there is no loop left that could end
      have hends : (w.sessions i).pump.Past → False := by
        intro hpast
        cases hpump : (w.sessions i).pump <;> simp [hpump, Pump.Past] at h hpast
      split at h
      all_goals cases h
      all_goals exact .loopEnded i hopen hends
  | hookReturned i override =>
      simp only [step] at h
      split at h
      · rename_i src activationType hpump
        cases h
        exact .hookReturned i override src activationType hpump
      · cases h
  | sent i =>
      simp only [step] at h
      -- by what the pump does once the frame is drained
      split at h
      · rename_i hpump
        cases h
        exact .sentLoop i hpump
      · rename_i hpump
        cases h
        exact .sentClose i hpump
      · rename_i request version hpump
        cases h
        exact .sentEnqueue i request version hpump
      · cases h
  | probeSent i o =>
      simp only [step] at h
      split at h
      · rename_i event answered hprobe
        -- another call may have cleared the slot meanwhile
        split at h
        · rename_i slot hslot
          cases h
          exact .probeSent i o event slot answered hprobe hslot
        · rename_i hslot
          cases h
          exact .probeUnwaited i o event answered hprobe hslot
      · cases h
  | probeSendFailed i o =>
      simp only [step] at h
      split at h
      · rename_i event answered hprobe
        cases h
        exact .probeSendFailed i o event answered hprobe
      · cases h
  | probeWoken i o =>
      simp only [step] at h
      split at h
      · rename_i event slot answered hprobe
        -- it wakes only if the event in its slot is set
        split at h
        · rename_i hset
          cases h
          exact .probeWoken i o event slot answered hprobe hset
        · cases h
      · cases h
  | probeTimeout i o =>
      simp only [step] at h
      split at h
      · rename_i event slot answered hprobe
        cases h
        exact .probeTimedOut i o event slot answered hprobe
      · cases h
  | probeReturned i =>
      simp only [step] at h
      split at h
      · rename_i src existing hpump
        -- the pump picks the result up only when there is one
        split at h
        · rename_i event alive answered hprobe
          cases h
          exact .probeReturned i existing src event alive answered hpump hprobe
        · cases h
      · cases h
  | takeRequest i =>
      simp only [step] at h
      split at h
      · rename_i request version rest hworker hqueue
        cases h
        exact .requestTaken i request version rest hworker hqueue
      · cases h
  | dispatch i =>
      simp only [step] at h
      split at h
      -- a cancelled worker takes its last dispatch to the end, and answers nobody
      · rename_i request version st p2 hworker
        obtain ⟨p2', hp2, rfl⟩ := Option.map_eq_some_iff.mp h
        exact .dispatched i request version st p2 p2' hworker hp2
      · rename_i request st hworker
        cases h
        exact .dispatchedLast i request st hworker
      · cases h
  | resolve i e =>
      simp only [step] at h
      -- `finish` and `cancel` are not among the events of the timer
      split at h
      · rename_i request version st p2 hworker
        obtain ⟨p2', hp2, rfl⟩ := Option.map_eq_some_iff.mp h
        exact .resolved i .window request version st p2 p2' hworker trivial hp2
      · rename_i request version st p2 hworker
        obtain ⟨p2', hp2, rfl⟩ := Option.map_eq_some_iff.mp h
        exact .resolved i .timeout request version st p2 p2' hworker trivial hp2
      · rename_i request version st p2 hworker
        obtain ⟨p2', hp2, rfl⟩ := Option.map_eq_some_iff.mp h
        exact .resolved i .sent request version st p2 p2' hworker trivial hp2
      · rename_i request version st p2 hworker
        obtain ⟨p2', hp2, rfl⟩ := Option.map_eq_some_iff.mp h
        exact .resolved i .resume request version st p2 p2' hworker trivial hp2
      · cases h
  | responderFailed i =>
      simp only [step] at h
      split at h
      · rename_i request version st p2 hworker
        -- inside the `except` clause it ends the worker, elsewhere the worker goes on
        split at h
        · rename_i response hpoint hhandler _
          cases h
          exact .responderStopped i request version st p2 response hworker hpoint hhandler
        · rename_i hpoint _
          cases h
          exact .responderFailed i request version st p2 hworker (.inl hpoint)
        · rename_i hpoint _
          cases h
          exact .responderFailed i request version st p2 hworker (.inr hpoint)
        · cases h
      · cases h
  | inactivity i =>
      simp only [step, Option.ite_none_right_eq_some, Option.some.injEq] at h
      obtain ⟨⟨hopen, hlive⟩, rfl⟩ := h
      exact .inactive i hopen hlive
  | s3Expiry st =>
      simp only [step, Option.ite_none_right_eq_some, Option.some.injEq] at h
      obtain ⟨harmed, rfl⟩ := h
      exact .s3Expired st harmed
  | supervisorStopped i =>
      simp only [step, Option.ite_none_right_eq_some, Option.some.injEq] at h
      obtain ⟨hpump, rfl⟩ := h
      exact .supervisorStopped i hpump
  | workerStopped i =>
      simp only [step, Option.ite_none_right_eq_some, Option.some.injEq] at h
      obtain ⟨hpump, rfl⟩ := h
      exact .workerStopped i hpump
  | writerClosed i =>
      simp only [step, Option.ite_none_right_eq_some, Option.some.injEq] at h
      obtain ⟨hpump, rfl⟩ := h
      exact .writerClosed i hpump

/-! ## §6. Schedules of a few sockets. -/

/-- The Routing Activation Request of a tester. -/
def activationFrame (sa : SA) : Bytes :=
  buildFrame ptRoutingActRequest (packH sa ++ [0x00, 0, 0, 0, 0]) ver

/-- Socket `i` asks for `sa`, up to the end of the hooks. -/
def asks (i : Sid) (sa : SA) : List Event :=
  [.accept, .frame i (activationFrame sa), .hookReturned i none]

/-- A Diagnostic Message of a tester to this ECU. -/
def diagnosticFrame (sa : SA) (uds : Bytes) : Bytes :=
  buildFrame ptDiagnosticMessage (packH sa ++ packH 0x0003 ++ uds) ver

/-- Socket `i` has one request served to the end. -/
def requests (i : Sid) (sa : SA) (uds : Bytes) : List Event :=
  [.frame i (diagnosticFrame sa uds), .sent i, .takeRequest i, .dispatch i, .resolve i .resume,
   .resolve i .sent]

/-- The end of socket `i`. -/
def closes (i : Sid) : List Event :=
  [.loopEnds i, .supervisorStopped i, .workerStopped i, .writerClosed i]

end DoipPlayground.VirtualEcu
