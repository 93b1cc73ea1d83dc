/-
  DoipPlayground.VirtualEcu.Outbound
  ──────────────────────────────────
  **WHAT GOES ON THE WIRE.**

  A socket writes in three places: its pump answers a frame, a prober asks
  the owner of an address whether it is alive, and its worker sends what
  `resolve_uds` emits.  Each builds its frame from a payload of a few kinds
  and the version of the request.  That version was read from an accepted
  header and stored, so it has to be followed through the pump, the queue and
  the worker; and a Diagnostic Message must not be empty, so the dispatcher
  is followed too.

    • `Payload` — the payloads the session builds, by type,
    • `Outbound` — a header of a supported version over such a payload,
    • `Session.WellSpoken` — what a session keeps so that all it writes is outbound,
    • `outbound_of_run` — every frame written in any run is outbound.
-/
import DoipPlayground.VirtualEcu.Steps

namespace DoipPlayground.VirtualEcu

open Wire

variable {cfg : EcuConfig} {w w' : World} {i j : Sid}

/-! ## §1. Outbound frames. -/

/-- The payloads a session sends under each payload type. -/
inductive Payload : Nat → Bytes → Prop
  | headerNack (code : UInt8) : Payload ptHeaderNack [code]
  | routingActivation (sa ecu : Nat) (code : UInt8) :
      Payload ptRoutingActResponse
        (packH sa ++ packH ecu ++ [code] ++ [0, 0, 0, 0] ++ [0, 0, 0, 0])
  | aliveCheckRequest : Payload ptAliveCheckRequest []
  | aliveCheckResponse (ecu : Nat) : Payload ptAliveCheckResponse (packH ecu)
  | positiveAck (ecu sa : Nat) (code : UInt8) :
      Payload ptDiagnosticPositiveAck (packH ecu ++ packH sa ++ [code])
  | negativeAck (ecu sa : Nat) (code : UInt8) :
      Payload ptDiagnosticNegativeAck (packH ecu ++ packH sa ++ [code])
  | diagnostic (ecu sa : Nat) (uds : Bytes) (h : uds ≠ []) :
      Payload ptDiagnosticMessage (packH ecu ++ packH sa ++ uds)

/-- Only a Diagnostic Message is longer than a Routing Activation Response. -/
theorem Payload.length_le {pt : Nat} {data : Bytes} (h : Payload pt data)
    -- the longest of the others: addresses, code, and twice four reserved bytes
    (hpt : pt ≠ ptDiagnosticMessage) : data.length ≤ 13 := by
  cases h with
  | diagnostic => exact absurd rfl hpt
  | _ => simp

/-- A frame a session writes. -/
def Outbound (raw : Bytes) : Prop :=
  ∃ pt data, ∃ version ∈ acceptedVersions, Payload pt data ∧ data.length < 4294967296
    ∧ raw = buildFrame pt data version

theorem Outbound.short {pt : Nat} {data : Bytes} {version : UInt8} (h : Payload pt data)
    (hpt : pt ≠ ptDiagnosticMessage) (hv : version ∈ acceptedVersions) :
    Outbound (buildFrame pt data version) := by
  have hlen := h.length_le hpt
  exact ⟨pt, data, version, hv, h, by omega, rfl⟩

/-! ## §2. Every response says something. -/

/-- Response bytes, if there are any, are not empty. -/
def Result.Spoken : Result → Prop
  | .bytes response | .abort response => response ≠ []
  | _ => True

theorem spoken_positive (r : UdsRequest) (payload : Bytes) :
    (Result.bytes (r.positive payload)).Spoken := List.cons_ne_nil _ _

theorem checkGates_spoken {r : UdsRequest} {s : SessionState} {sessions : Option (List Int)}
    {security : Int} {refusal : Result} (h : checkGates r s sessions security = some refusal) :
    refusal.Spoken := by
  -- both refusals are negative responses
  unfold checkGates at h
  split at h
  · cases h
    trivial
  split at h
  · cases h
    trivial
  · cases h

theorem unknownDid_spoken {r : UdsRequest} {did : Nat} {refusal : Result}
    (h : unknownDid cfg r did = .error refusal) : refusal.Spoken := by
  unfold unknownDid at h
  -- only the policy `nrc` refuses
  split at h
  · cases h
  · cases h
  · cases h
    trivial

theorem readOne_spoken {r : UdsRequest} {s : SessionState} {d : EcuData} {did : Nat}
    {refusal : Result} (h : readOne cfg r s d did = .error refusal) : refusal.Spoken := by
  unfold readOne at h
  -- a DID that is unknown, or not to be read, is one for the policy
  split at h
  · exact unknownDid_spoken h
  split at h
  · exact unknownDid_spoken h
  -- the forced code, then the gates
  split at h
  · cases h
    trivial
  · rename_i hgates
    cases h
    exact checkGates_spoken hgates
  -- a dynamic DID that has no value, or a stored one that was never written
  split at h
  · split at h
    · cases h
      trivial
    · unfold dynamicValue at h
      split at h
      · split at h
        · cases h
        · cases h
          trivial
      · cases h
  · split at h
    · cases h
      trivial
    · cases h

theorem readAll_spoken {r : UdsRequest} {s : SessionState} {d : EcuData} {refusal : Result} :
    ∀ {dids : List Nat}, readAll cfg r s d dids = .error refusal → refusal.Spoken := by
  intro dids
  -- the refusal comes from this DID or from one behind it
  induction dids with
  | nil =>
      intro h
      cases h
  | cons did rest ih =>
      intro h
      unfold readAll at h
      split at h
      · rename_i hone
        cases h
        exact readOne_spoken hone
      · exact ih h
      · split at h
        · rename_i hrest
          cases h
          exact ih hrest
        · cases h

theorem readDataByIdentifier_spoken (r : UdsRequest) (s : SessionState) (d : EcuData) :
    (readDataByIdentifier cfg r s d).2.2.Spoken := by
  unfold readDataByIdentifier
  dsimp only
  split
  · trivial
  split
  -- a refusal on the way, no record at all, or one response of all of them
  · rename_i hall
    exact readAll_spoken hall
  · trivial
  · split
    · trivial
    · exact spoken_positive r _

theorem writeDataByIdentifier_spoken (r : UdsRequest) (s : SessionState) (d : EcuData) :
    (writeDataByIdentifier cfg r s d).2.2.Spoken := by
  unfold writeDataByIdentifier
  dsimp only
  split
  · trivial
  -- an unknown DID is answered by the policy
  split
  · split
    · rename_i hunknown
      exact unknownDid_spoken hunknown
    · trivial
    · exact spoken_positive r _
  -- a known one by its checks, in order, and then by its number
  · split
    · trivial
    split
    · trivial
    · rename_i hgates
      exact checkGates_spoken hgates
    · split
      · trivial
      · exact spoken_positive r _

theorem routineControl_spoken (r : UdsRequest) (s : SessionState) (d : EcuData) :
    (routineControl cfg r s d).2.2.Spoken := by
  unfold routineControl
  dsimp only
  split
  · trivial
  split
  · trivial
  split
  · trivial
  -- the gates, the two checks on the sequence, and the record
  split
  · rename_i hgates
    exact checkGates_spoken hgates
  split
  · trivial
  split
  · trivial
  · exact spoken_positive r _

theorem requestSeed_spoken (sub : Nat) (r : UdsRequest) (s : SessionState) (d : EcuData) :
    (requestSeed sub cfg r s d).2.2.Spoken := by
  unfold requestSeed
  dsimp only
  split
  -- level open already, or a new seed: a positive response either way
  · trivial
  split
  · exact spoken_positive r _
  · exact spoken_positive r _

theorem sendKey_spoken (sub : Nat) (r : UdsRequest) (s : SessionState) (d : EcuData) :
    (sendKey sub cfg r s d).2.2.Spoken := by
  unfold sendKey
  dsimp only
  split
  · trivial
  split
  -- no seed pending, a wrong length, a wrong key
  · trivial
  split
  · split <;> trivial
  · exact spoken_positive r _

theorem coreService_spoken {sid : UInt8} {service : Service}
    (h : coreService cfg sid = some service) (r : UdsRequest) (s : SessionState) (d : EcuData) :
    (service cfg r s d).2.2.Spoken := by
  -- by service; a refusal has three bytes, a positive response its SID
  cases coreService_cases h with
  | diagnosticSessionControl =>
      unfold diagnosticSessionControl
      dsimp only
      split
      · trivial
      split
      · trivial
      · exact spoken_positive r _
  | testerPresent =>
      unfold testerPresent
      split
      · trivial
      split
      · trivial
      · exact spoken_positive r _
  | securityAccess =>
      unfold securityAccess
      dsimp only
      split
      · trivial
      split
      · trivial
      split
      · exact requestSeed_spoken _ r s d
      · exact sendKey_spoken _ r s d
  | readDataByIdentifier => exact readDataByIdentifier_spoken r s d
  | writeDataByIdentifier => exact writeDataByIdentifier_spoken r s d
  | routineControl => exact routineControl_spoken r s d

/-- **No dispatch answers with an empty response.** -/
theorem dispatch_spoken (r : UdsRequest) (st : StateId) (c : EcuCore) :
    (dispatch cfg r st c).2.Spoken := by
  unfold dispatch
  split
  -- a reset answers before it may close the connection
  · unfold ecuReset
    dsimp only
    split
    · trivial
    split
    · trivial
    split
    · exact List.cons_ne_nil _ _
    · exact spoken_positive r _
  split
  -- none, an echo, or serviceNotSupported
  · unfold fallback
    split
    · trivial
    · exact spoken_positive r _
    · trivial
  · rename_i hservice
    exact coreService_spoken hservice r _ _

/-- `resolve_uds` with no empty response in it. -/
structure P2.Spoken (m : P2) : Prop where
  emitted : ∀ response ∈ m.emitted, response ≠ []
  handler : ∀ r, m.handler = some r → r.Spoken

theorem resolveUds_spoken {request : UdsRequest} {r : Result} {response : Bytes} (h : r.Spoken)
    (hr : resolveUds cfg.uds request r = some response) : response ≠ [] := by
  cases r with
  | bytes b =>
      simp only [resolveUds, Option.ite_none_left_eq_some, Option.some.injEq] at hr
      exact hr.2 ▸ h
  | negative nrc sid =>
      simp only [resolveUds, Option.ite_none_left_eq_some, Option.some.injEq] at hr
      exact hr.2 ▸ List.cons_ne_nil _ _
  | abort b =>
      rw [resolveUds, Option.some.injEq] at hr
      exact hr ▸ h
  | noResponse => cases hr
  | suppress => cases hr
  | error => cases hr

theorem P2.Spoken.emit {m : P2} (h : m.Spoken) {response : Bytes} (hr : response ≠ []) :
    ∀ r ∈ m.emitted ++ [response], r ≠ [] := by
  intro r hmem
  -- what was emitted before, or the one more
  rw [List.mem_append, List.mem_singleton] at hmem
  rcases hmem with hmem | rfl
  · exact h.emitted r hmem
  · exact hr

theorem P2.Spoken.step {request : UdsRequest} {m m' : P2} {e : P2Event} (h : m.Spoken)
    (he : ∀ r, e = .finish r → r.Spoken) (hstep : p2Step cfg.uds request m e = some m') :
    m'.Spoken := by
  cases e with
  -- the dispatch hands in its result, which says something
  | finish r =>
      simp only [p2Step, Option.ite_none_right_eq_some, Option.some.injEq] at hstep
      obtain ⟨_, rfl⟩ := hstep
      refine ⟨h.emitted, ?_⟩
      intro r' hr'
      rw [Option.some.injEq] at hr'
      exact hr' ▸ he r rfl
  | window =>
      simp only [p2Step, Option.ite_none_right_eq_some, Option.some.injEq] at hstep
      obtain ⟨_, rfl⟩ := hstep
      exact ⟨h.emitted, h.handler⟩
  -- a promise or the give-up, three bytes either way
  | timeout =>
      simp only [p2Step, Option.ite_none_right_eq_some] at hstep
      obtain ⟨_, hstep⟩ := hstep
      split at hstep
      · cases hstep
        exact ⟨h.emit (List.cons_ne_nil _ _), h.handler⟩
      · cases hstep
        exact ⟨h.emit (List.cons_ne_nil _ _), h.handler⟩
  | sent =>
      simp only [p2Step] at hstep
      split at hstep
      · cases hstep
        exact ⟨h.emitted, h.handler⟩
      · cases hstep
        exact ⟨h.emitted, h.handler⟩
      · cases hstep
  -- what `resolve_uds` makes of a spoken result is not empty
  | resume =>
      simp only [p2Step] at hstep
      split at hstep
      · rename_i r _ hr
        split at hstep
        · rename_i response hresp
          cases hstep
          exact ⟨h.emit (resolveUds_spoken (h.handler r hr) hresp), h.handler⟩
        · cases hstep
          exact ⟨h.emitted, h.handler⟩
      · cases hstep
  | cancel =>
      simp only [p2Step, Option.ite_none_left_eq_some, Option.some.injEq] at hstep
      obtain ⟨_, rfl⟩ := hstep
      exact ⟨h.emitted, h.handler⟩

/-! ## §3. The invariant. -/

/-- The versions a session may still answer in are supported, and what it has
written is outbound. -/
structure Session.WellSpoken (s : Session) : Prop where
  version : s.currentReqVersion ∈ acceptedVersions
  queue : ∀ q ∈ s.udsQueue, q.2 ∈ acceptedVersions
  wire : ∀ raw ∈ s.wire, Outbound raw
  pump : ∀ request version, s.pump = .sending (.enqueue request version) →
    version ∈ acceptedVersions
  worker : ∀ request version st p2, s.worker = .serving request version st p2 →
    version ∈ acceptedVersions ∧ p2.Spoken

def World.WellSpoken (w : World) : Prop := ∀ i, (w.sessions i).WellSpoken

namespace World.WellSpoken

theorem init (cfg : EcuConfig) : (World.init cfg).WellSpoken := by
  intro i
  show Session.WellSpoken {}
  exact ⟨by decide, by simp, by simp, by simp, by simp⟩

theorem set (h : w.WellSpoken) {s : Session} (hs : s.WellSpoken) : (w.set i s).WellSpoken := by
  intro j
  rw [World.set_sessions]
  split
  · exact hs
  · exact h j

/-- Steps outside the sessions do not matter. -/
theorem of_sessions (h : w.WellSpoken) (heq : w'.sessions = w.sessions) : w'.WellSpoken := by
  intro j
  rw [heq]
  exact h j

theorem write (h : w.WellSpoken) {raw : Bytes} (hraw : Outbound raw) :
    (w.write i raw).WellSpoken := by
  refine h.set ⟨(h i).version, (h i).queue, ?_, (h i).pump, (h i).worker⟩
  intro raw' hmem
  rw [List.mem_append, List.mem_singleton] at hmem
  rcases hmem with hmem | rfl
  · exact (h i).wire raw' hmem
  · exact hraw

theorem setPump (h : w.WellSpoken) {pump : Pump}
    (hp : ∀ request version, pump = .sending (.enqueue request version) →
      version ∈ acceptedVersions) : (w.setPump i pump).WellSpoken :=
  h.set ⟨(h i).version, (h i).queue, (h i).wire, hp, (h i).worker⟩

theorem setWorker (h : w.WellSpoken) {worker : Worker}
    (hk : ∀ request version st p2, worker = .serving request version st p2 →
      version ∈ acceptedVersions ∧ p2.Spoken) : (w.setWorker i worker).WellSpoken :=
  h.set ⟨(h i).version, (h i).queue, (h i).wire, (h i).pump, hk⟩

/-- The pump sends a frame in the version of the current request. -/
theorem sendResponse (h : w.WellSpoken) {pt : Nat} {data : Bytes} (hdata : Payload pt data)
    (hlen : data.length < 4294967296) {next : AfterSend}
    (hnext : ∀ request version, next = .enqueue request version → version ∈ acceptedVersions) :
    (w.sendResponse i pt data next).WellSpoken := by
  -- the header bears the version of the request, which was accepted
  refine (h.write ⟨pt, data, _, (h i).version, hdata, hlen, rfl⟩).setPump ?_
  intro request version heq
  cases heq
  exact hnext request version rfl

theorem sendShort (h : w.WellSpoken) {pt : Nat} {data : Bytes} (hdata : Payload pt data)
    (hpt : pt ≠ ptDiagnosticMessage) {next : AfterSend}
    (hnext : ∀ request version, next = .enqueue request version → version ∈ acceptedVersions) :
    (w.sendResponse i pt data next).WellSpoken := by
  have hlen := hdata.length_le hpt
  exact h.sendResponse hdata (by omega) hnext

/-- A header NACK that closes the connection. -/
theorem refuse (h : w.WellSpoken) (code : UInt8) :
    ((w.write i (buildFrame ptHeaderNack [code] ver)).setPump i (.sending .close)).WellSpoken := by
  have hraw : Outbound (buildFrame ptHeaderNack [code] ver) :=
    .short (.headerNack code) (by decide) (by decide)
  exact (h.write hraw).setPump (by simp)

/-! ### Teardown. -/

theorem finalize (h : w.WellSpoken) : (w.finalize i).WellSpoken :=
  h.set ⟨(h i).version, (h i).queue, (h i).wire, (h i).pump, (h i).worker⟩

theorem cancelWorker (h : w.WellSpoken) : (w.cancelWorker i).WellSpoken := by
  refine h.setWorker ?_
  -- a worker that is cancelled serves no request any more
  intro request version st p2 heq
  split at heq
  · split at heq <;> cases heq
  · cases heq
  · cases heq

theorem releaseState (h : w.WellSpoken) : (w.releaseState cfg i).WellSpoken :=
  (h.set (i := i) (s := { w.sessions i with released := true })
    ⟨(h i).version, (h i).queue, (h i).wire, (h i).pump, (h i).worker⟩).of_sessions rfl

theorem unregister (h : w.WellSpoken) : (w.unregister i).WellSpoken := h.of_sessions rfl

theorem evict (h : w.WellSpoken) (answered : Bool) : (w.evict cfg i answered).WellSpoken := by
  have hrel : (((w.finalize i).cancelWorker i).releaseState cfg i).WellSpoken :=
    releaseState (cancelWorker (finalize h))
  exact (unregister (i := i) hrel).of_sessions rfl

theorem endProbe (h : w.WellSpoken) (p : Probe) (alive : Bool) :
    (w.endProbe i j p alive).WellSpoken :=
  (h.set (i := j)
    (s := { w.sessions j with aliveProbePending := false, aliveProbeEvent := none })
    ⟨(h j).version, (h j).queue, (h j).wire, (h j).pump, (h j).worker⟩).of_sessions rfl

theorem takeProbe (h : w.WellSpoken) : (w.takeProbe i j).WellSpoken := h.of_sessions rfl

theorem leaveLoop (h : w.WellSpoken) : (w.leaveLoop i).WellSpoken := by
  unfold World.leaveLoop
  dsimp only
  refine finalize ?_ |>.setPump (by simp)
  -- a probe it awaits ends with it
  split
  · split
    · split
      · exact (h.endProbe _ _).takeProbe
      · exact h.takeProbe
    · exact h
  · exact h

/-! ### Routing activation. -/

theorem respondActivation (h : w.WellSpoken) (src : SA) (code : UInt8) :
    (w.respondActivation cfg i src code).WellSpoken := by
  refine h.sendShort (.routingActivation src _ code) (by decide) ?_
  intro request version heq
  split at heq <;> cases heq

theorem occupy (h : w.WellSpoken) (src : SA) : (w.occupy cfg i src).WellSpoken :=
  (h.set (i := i)
    (s := { w.sessions i with
      testerAddr := some src, activated := true, state := some (w.core.sessionFor cfg src).2 })
    ⟨(h i).version, (h i).queue, (h i).wire, (h i).pump, (h i).worker⟩).of_sessions rfl

theorem checkCapacity (h : w.WellSpoken) (src : SA) : (w.checkCapacity cfg i src).WellSpoken := by
  unfold World.checkCapacity
  split
  · exact h.respondActivation src _
  · rw [commitActivation_eq]
    exact (h.occupy src).respondActivation src _

theorem startProbe (h : w.WellSpoken) : (w.startProbe i j).WellSpoken := by
  have hraw : Outbound (buildFrame ptAliveCheckRequest [] ver) :=
    .short .aliveCheckRequest (by decide) (by decide)
  -- the request goes out on the socket of the owner, not of the prober
  have hs := (h.write (i := j) hraw) j
  rw [World.write, World.set_sessions, if_pos rfl] at hs
  exact (h.set (i := j) (s := { w.sessions j with
      aliveProbePending := true
      aliveProbeEvent := some w.nextEvent
      wire := (w.sessions j).wire ++ [buildFrame ptAliveCheckRequest [] ver]
      awaiting := (w.sessions j).awaiting ++ [i] })
    ⟨hs.version, hs.queue, hs.wire, hs.pump, hs.worker⟩).of_sessions rfl

theorem handleRoutingActivation (h : w.WellSpoken) (src activationType : Nat)
    (override : Option UInt8) :
    (w.handleRoutingActivation cfg i src activationType override).WellSpoken := by
  unfold World.handleRoutingActivation
  dsimp only
  -- by the order of the checks; all but the last end in a response
  split
  · exact h.sendShort (.routingActivation src _ _) (by decide) (by simp)
  split
  · exact h.respondActivation src _
  split
  · exact h.respondActivation src _
  split
  · exact h.respondActivation src _
  split
  · exact h.respondActivation src _
  split
  · exact h.checkCapacity src
  split
  · exact h.checkCapacity src
  -- the address is another socket's, which is probed first
  · exact h.startProbe.setPump (by simp)

theorem resumeActivation (h : w.WellSpoken) (src : SA) (existing : Sid) (alive answered : Bool) :
    (w.resumeActivation cfg i src existing alive answered).WellSpoken := by
  unfold World.resumeActivation
  split
  · exact h.respondActivation src _
  · exact (h.evict answered).checkCapacity src

/-! ### Frames. -/

theorem handleDiagnostic (h : w.WellSpoken) (payload : Bytes) :
    (w.handleDiagnostic cfg i payload).WellSpoken := by
  unfold World.handleDiagnostic
  dsimp only
  split
  · exact h.sendShort (.headerNack _) (by decide) (by simp)
  split
  · exact h.sendShort (.negativeAck _ _ _) (by decide) (by simp)
  split
  · exact h.sendShort (.negativeAck _ _ _) (by decide) (by simp)
  split
  · exact h.sendShort (.negativeAck _ _ _) (by decide) (by simp)
  · refine h.sendShort (.positiveAck _ _ _) (by decide) ?_
    intro request version heq
    cases heq
    exact (h i).version

theorem enqueue (h : w.WellSpoken) (request : UdsRequest) {version : UInt8}
    (hv : version ∈ acceptedVersions) : (w.enqueue cfg i request version).WellSpoken := by
  unfold World.enqueue
  dsimp only
  split
  -- room in the queue: the request waits in its version, which was accepted
  · refine h.set ⟨(h i).version, ?_, (h i).wire, by simp, (h i).worker⟩
    intro q hmem
    rw [List.mem_append, List.mem_singleton] at hmem
    rcases hmem with hmem | rfl
    · exact (h i).queue q hmem
    · exact hv
  -- none: it is refused as busy, behind its Positive ACK
  · exact h.sendResponse (.diagnostic _ _ _ (List.cons_ne_nil _ _))
      (by simp) (by simp)

theorem creditResponse (h : w.WellSpoken) : (w.creditResponse i).WellSpoken := by
  unfold World.creditResponse
  split
  · exact h
  · rename_i rest _
    exact (h.set (i := i) (s := { w.sessions i with awaiting := rest })
      ⟨(h i).version, (h i).queue, (h i).wire, (h i).pump, (h i).worker⟩).of_sessions rfl

theorem handleAliveCheckResponse (h : w.WellSpoken) :
    (w.handleAliveCheckResponse i).WellSpoken := by
  unfold World.handleAliveCheckResponse
  dsimp only
  split
  · exact h.creditResponse.of_sessions rfl
  · exact h.creditResponse

theorem readVersion (h : w.WellSpoken) {version : UInt8} (hv : version ∈ acceptedVersions) :
    (w.set i { w.sessions i with currentReqVersion := version }).WellSpoken :=
  h.set ⟨hv, (h i).queue, (h i).wire, (h i).pump, (h i).worker⟩

theorem readFrame (h : w.WellSpoken) {raw : Bytes} (hread : w.readFrame cfg i raw = some w') :
    w'.WellSpoken := by
  unfold World.readFrame at hread
  split at hread
  · cases hread
  -- longer than the pump reads
  split at hread
  · cases hread
    exact h.refuse _
  -- a whole frame
  split at hread
  · cases hread
    unfold World.handleFrame
    dsimp only
    split
    · exact h.refuse _
    rename_i hvalid
    -- an accepted header carries a supported version
    have hv : raw.headD 0 ∈ acceptedVersions := by
      unfold validateHeader at hvalid
      dsimp only at hvalid
      split at hvalid
      · cases hvalid
      split at hvalid
      · cases hvalid
      · rename_i hcontains
        simpa using hcontains
    have hw := h.readVersion (i := i) hv
    -- by the type of the payload
    split
    · split
      · exact hw.sendShort (.headerNack _) (by decide) (by simp)
      · exact hw.setPump (by simp)
    split
    · exact hw.handleDiagnostic _
    split
    · exact hw.sendShort (.aliveCheckResponse _) (by decide) (by simp)
    split
    · exact hw.handleAliveCheckResponse
    · exact hw.sendShort (.headerNack _) (by decide) (by simp)
  · cases hread

/-! ### The worker. -/

theorem respondUds (h : w.WellSpoken) (request : UdsRequest) {version : UInt8}
    (hv : version ∈ acceptedVersions) {response : Bytes} (hr : response ≠ []) :
    (w.respondUds cfg i request version response).WellSpoken := by
  unfold World.respondUds
  dsimp only
  split
  -- a response the header cannot carry is not written
  · rename_i hlen
    exact h.write ⟨_, _, version, hv, .diagnostic _ _ response hr, hlen, rfl⟩
  · exact h

theorem responses (cfg : EcuConfig) (i : Sid) (request : UdsRequest) {version : UInt8}
    (hv : version ∈ acceptedVersions) :
    ∀ (responses : List Bytes) (w : World), w.WellSpoken → (∀ r ∈ responses, r ≠ []) →
      (responses.foldl (fun w r => w.respondUds cfg i request version r) w).WellSpoken := by
  intro responses
  induction responses with
  | nil =>
      intro w h _
      exact h
  -- one after the other, each in the version of the request
  | cons response responses ih =>
      intro w h hne
      rw [List.foldl_cons]
      exact ih _ (h.respondUds request hv (hne _ List.mem_cons_self))
        (fun r hr => hne r (List.mem_cons_of_mem _ hr))

theorem takeRequest (h : w.WellSpoken) {request : UdsRequest} {version : UInt8}
    {rest : List (UdsRequest × UInt8)} (hq : (w.sessions i).udsQueue = (request, version) :: rest) :
    (w.takeRequest cfg i request version rest).WellSpoken := by
  have hqueue := (h i).queue
  rw [hq] at hqueue
  have hrest : ∀ q ∈ rest, q.2 ∈ acceptedVersions :=
    fun q hmem => hqueue q (List.mem_cons_of_mem _ hmem)
  unfold World.takeRequest
  dsimp only
  split
  -- a fresh call has emitted nothing
  · rename_i st _
    refine (h.set (i := i) (s := { w.sessions i with
      udsQueue := rest, worker := .serving request version st {} })
      ⟨(h i).version, hrest, (h i).wire, (h i).pump, ?_⟩).of_sessions rfl
    intro request' version' st' p2 heq
    cases heq
    exact ⟨hqueue _ List.mem_cons_self, by simp, by simp⟩
  · exact h.set ⟨(h i).version, hrest, (h i).wire, (h i).pump, (h i).worker⟩

theorem advanceWorker (h : w.WellSpoken) (request : UdsRequest) {version : UInt8}
    (hv : version ∈ acceptedVersions) (st : StateId) (p2 : P2) {p2' : P2} (hp2 : p2'.Spoken) :
    (w.advanceWorker cfg i request version st p2 p2').WellSpoken := by
  -- only what this step emitted is written
  have hw := responses cfg i request hv (p2'.emitted.drop p2.emitted.length) w h
    (fun r hr => hp2.emitted r (List.mem_of_mem_drop hr))
  unfold World.advanceWorker
  dsimp only
  -- over: the worker goes idle, and an abort closes the socket
  split
  · split
    · exact (hw.setWorker (by simp)).finalize
    · exact hw.setWorker (by simp)
  · refine hw.setWorker ?_
    intro request' version' st' q heq
    cases heq
    exact ⟨hv, hp2⟩

/-- **Every step keeps the sessions well spoken.** -/
theorem step (w : World) (e : Event) (w' : World) (h : w.WellSpoken)
    (hstep : VirtualEcu.step cfg w e = some w') : w'.WellSpoken := by
  cases step_effect hstep with
  -- the pump: each handler answers in one of the ways above
  | accepted => exact h.of_sessions rfl
  | frameRead i raw w' _ _ hread => exact h.readFrame hread
  | loopEnded i _ _ => exact h.leaveLoop
  | hookReturned i override src activationType _ => exact h.handleRoutingActivation _ _ _
  | sentLoop i _ => exact h.setPump (by simp)
  | sentClose i _ => exact h.leaveLoop
  | sentEnqueue i request version hpump => exact h.enqueue request ((h i).pump _ _ hpump)
  -- probes write no response of their own
  | probeSent i o event slot answered _ _ => exact h.of_sessions rfl
  | probeUnwaited i o event answered _ _ => exact h.endProbe _ _
  | probeSendFailed i o event answered _ => exact h.endProbe _ _
  | probeWoken i o event slot answered _ _ => exact h.endProbe _ _
  | probeTimedOut i o event slot answered _ => exact h.endProbe _ _
  | probeReturned i existing src event alive answered _ _ =>
      exact h.takeProbe.resumeActivation _ _ _ _
  | requestTaken i request version rest _ hqueue => exact h.takeRequest hqueue
  -- the worker
  | dispatched i request version st p2 p2' hworker hp2' =>
      obtain ⟨hv, hp2⟩ := (h i).worker _ _ _ _ hworker
      refine (h.setWorker ?_).of_sessions rfl
      intro request' version' st' q heq
      cases heq
      refine ⟨hv, hp2.step ?_ hp2'⟩
      intro r heq
      cases heq
      exact dispatch_spoken request st w.core
  | dispatchedLast i request st _ => exact (h.setWorker (by simp)).of_sessions rfl
  | resolved i e request version st p2 p2' hworker hevent hp2' =>
      obtain ⟨hv, hp2⟩ := (h i).worker _ _ _ _ hworker
      refine h.advanceWorker _ hv _ _ (hp2.step ?_ hp2')
      -- none of the timer's events carries a result
      rintro r rfl
      exact hevent.elim
  | responderStopped i request version st p2 response _ _ _ => exact h.setWorker (by simp)
  | responderFailed i request version st p2 _ _ => exact h.setWorker (by simp)
  | inactive i _ _ => exact h.finalize
  | s3Expired st _ => exact h.of_sessions rfl
  | supervisorStopped i _ => exact h.cancelWorker.setPump (by simp)
  | workerStopped i _ => exact ((h.setWorker (by simp)).releaseState).setPump (by simp)
  | writerClosed i _ => exact h.unregister.setPump (by simp)

end World.WellSpoken

/-- **Every frame a session writes is outbound**, in every run. -/
theorem outbound_of_run (es : List Event) (w : World)
    (hrun : Transition.exec (step cfg) (World.init cfg) es = some w) (i : Sid) (raw : Bytes)
    (hraw : raw ∈ (w.sessions i).wire) : Outbound raw := by
  have hspoken : w.WellSpoken :=
    Transition.exec_invariant World.WellSpoken World.WellSpoken.step es _ w
      (World.WellSpoken.init cfg) hrun
  exact (hspoken i).wire raw hraw

end DoipPlayground.VirtualEcu
