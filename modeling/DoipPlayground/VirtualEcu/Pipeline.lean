/-
  DoipPlayground.VirtualEcu.Pipeline
  ──────────────────────────────────
  **FROM THE FRAME TO THE RESPONSE** (`_handle_diagnostic`, `_uds_worker`).

  The pump acknowledges a request and queues it, the worker takes it and
  answers.

    • `Deed` — what one step is for the requests of a socket,
    • `Does` — all that it does to the socket; `step_does` says it is all.
-/
import DoipPlayground.VirtualEcu.Ownership

namespace DoipPlayground.VirtualEcu

open Wire

variable {cfg : EcuConfig} {w w' : World} {i j : Sid}

/-! ## §1. Requests and their frames. -/

/-- The request in a Diagnostic Message. -/
def requestOf (cfg : EcuConfig) (raw : Bytes) : UdsRequest where
  raw := (payload raw).drop 4
  sourceAddr := fromBytes ((payload raw).take 2)
  targetAddr := fromBytes (((payload raw).drop 2).take 2)
  functional := fromBytes (((payload raw).drop 2).take 2) == cfg.uds.functionalAddr

/-- What the pump checks before the Positive ACK. -/
structure Admitted (cfg : EcuConfig) (s : Session) (raw : Bytes) : Prop where
  header : validateHeader raw = none
  type : ptype raw = ptDiagnosticMessage
  activated : s.activated = true
  source : s.testerAddr = some (requestOf cfg raw).sourceAddr
  target : (requestOf cfg raw).targetAddr = cfg.doip.ecuLogicalAddr
    ∨ (requestOf cfg raw).targetAddr = cfg.uds.functionalAddr
  nonempty : 1 ≤ (requestOf cfg raw).raw.length
  size : (requestOf cfg raw).raw.length ≤ cfg.doip.maxPayloadBytes

/-- The Positive ACK of a request. -/
def ackFrame (cfg : EcuConfig) (raw : Bytes) : Bytes :=
  buildFrame ptDiagnosticPositiveAck
    (packH cfg.doip.ecuLogicalAddr ++ packH (requestOf cfg raw).sourceAddr ++ [0x00])
    (raw.headD 0)

/-- A UDS response to a request. -/
def udsFrame (cfg : EcuConfig) (request : UdsRequest) (version : UInt8) (response : Bytes) :
    Bytes :=
  buildFrame ptDiagnosticMessage
    (packH cfg.doip.ecuLogicalAddr ++ packH request.sourceAddr ++ response) version

/-- `7F <sid> 21` -/
def busyFrame (cfg : EcuConfig) (request : UdsRequest) (version : UInt8) : Bytes :=
  udsFrame cfg request version (request.negative nrcBusyRepeatRequest)

/-! ## §2. What a step does to one socket. -/

/-- A Positive ACK is being sent. -/
def Pump.Promised : Pump → Prop
  | .sending (.enqueue _ _) => True
  | _ => False

/-- The worker is where it was, or gives up what it does. -/
inductive Worker.Retreats : Worker → Worker → Prop
  | same (k : Worker) : Retreats k k
  | stopped (k : Worker) : Retreats k .stopped
  | idle (request : UdsRequest) (version : UInt8) (st : StateId) (p2 : P2) :
      Retreats (.serving request version st p2) .idle
  | doomed (request : UdsRequest) (version : UInt8) (st : StateId) (p2 : P2)
      (h : p2.handler = none) : Retreats (.serving request version st p2) (.doomed request st)

theorem Worker.Retreats.trans {k k' k'' : Worker} (h : k.Retreats k') (h' : k'.Retreats k'') :
    k.Retreats k'' := by
  cases h with
  | same => exact h'
  | stopped =>
      cases h'
      · exact .stopped _
      · exact .stopped _
  | idle =>
      cases h'
      · exact .idle ..
      · exact .stopped _
  | doomed _ _ _ _ hnone =>
      cases h'
      · exact .doomed _ _ _ _ hnone
      · exact .stopped _

/-- A step that does nothing for the requests of the socket: it may bind the
socket to a tester, write other frames and end the work. -/
structure Aside (s s' : Session) : Prop where
  bound : s.activated = true → s'.activated = true ∧ s'.testerAddr = s.testerAddr
  queue : s'.udsQueue = s.udsQueue
  worker : s.worker.Retreats s'.worker
  pump : s'.pump = s.pump ∧ s'.currentReqVersion = s.currentReqVersion
    ∨ ¬ s'.pump.Promised ∧ (s.pump.Promised ∨ s.pump.Past → s'.pump.Past)
  wire : ∃ frames, s'.wire = s.wire ++ frames ∧ ∀ frame ∈ frames,
    ptype frame ≠ ptDiagnosticMessage ∧ ptype frame ≠ ptDiagnosticPositiveAck
      ∧ ptype frame ≠ ptDiagnosticNegativeAck

/-- The pump answers a frame that is no admitted request, or ignores it. -/
structure Replied (s : Session) (raw : Bytes) (s' : Session) : Prop where
  activated : s'.activated = s.activated
  testerAddr : s'.testerAddr = s.testerAddr
  queue : s'.udsQueue = s.udsQueue
  worker : s'.worker = s.worker
  reading : s.pump = .reading
  pump : ¬ s'.pump.Promised
  wire : ∃ frames, s'.wire = s.wire ++ frames ∧ ∀ frame ∈ frames,
    (frame.headD 0 = raw.headD 0 ∨ ptype frame = ptHeaderNack)
      ∧ ptype frame ≠ ptDiagnosticMessage ∧ ptype frame ≠ ptDiagnosticPositiveAck

/-- The worker writes responses to the request it serves, and may be done. -/
structure Responded (cfg : EcuConfig) (s : Session) (request : UdsRequest) (version : UInt8)
    (st : StateId) (p2 : P2) (s' : Session) : Prop where
  activated : s'.activated = s.activated
  testerAddr : s'.testerAddr = s.testerAddr
  queue : s'.udsQueue = s.udsQueue
  serving : s.worker = .serving request version st p2
  worker : s'.worker = .idle
    ∨ ∃ p2', s'.worker = .serving request version st p2' ∧ p2'.handler = p2.handler
  pump : s'.pump = s.pump
  reqVersion : s'.currentReqVersion = s.currentReqVersion
  wire : ∃ frames, s'.wire = s.wire ++ frames ∧ ∀ frame ∈ frames,
    ∃ response, frame = udsFrame cfg request version response

/-- What one step is for the requests of a socket. -/
inductive Deed where
  | acks (raw : Bytes)
  | replies (raw : Bytes)
  | queues
  | refuses
  | takes
  | dispatches (request : UdsRequest)
  | responds
  | aside
  deriving DecidableEq, Repr

/-- The deed of an event, from the socket before and after it. -/
def Event.deed (i : Sid) (s : Session) (s' : Session) : Event → Deed
  | .frame j raw =>
      if j = i then
        match s'.pump with
        | .sending (.enqueue _ _) => .acks raw
        | _ => .replies raw
      else .aside
  | .sent j =>
      if j = i then
        match s.pump, s'.pump with
        | .sending (.enqueue _ _), .reading => .queues
        | .sending (.enqueue _ _), _ => .refuses
        | _, _ => .aside
      else .aside
  | .takeRequest j => if j = i then .takes else .aside
  | .dispatch j =>
      if j = i then
        match s.worker with
        | .serving request _ _ _ | .doomed request _ => .dispatches request
        | _ => .aside
      else .aside
  | .resolve j _ => if j = i then .responds else .aside
  | _ => .aside

/-- **All that one step does to a socket.** -/
inductive Does (cfg : EcuConfig) (s : Session) : Deed → Session → Prop
  | acks (raw : Bytes) (hpump : s.pump = .reading) (h : Admitted cfg s raw) :
      Does cfg s (.acks raw) { s with
        currentReqVersion := raw.headD 0
        wire := s.wire ++ [ackFrame cfg raw]
        pump := .sending (.enqueue (requestOf cfg raw) (raw.headD 0)) }
  | replies (raw : Bytes) (s' : Session) (h : Replied s raw s') : Does cfg s (.replies raw) s'
  | queues (request : UdsRequest) (version : UInt8)
      (hpump : s.pump = .sending (.enqueue request version))
      (hroom : s.udsQueue.length < udsQueueMaxsize) :
      Does cfg s .queues { s with
        udsQueue := s.udsQueue ++ [(request, version)], pump := .reading }
  | refuses (request : UdsRequest) (version : UInt8)
      (hpump : s.pump = .sending (.enqueue request version)) :
      Does cfg s .refuses { s with
        wire := s.wire ++ [busyFrame cfg request s.currentReqVersion], pump := .sending .loop }
  | takes (request : UdsRequest) (version : UInt8) (rest : List (UdsRequest × UInt8))
      (worker : Worker) (hidle : s.worker = .idle)
      (hqueue : s.udsQueue = (request, version) :: rest)
      (h : worker = .idle ∨ ∃ st, worker = .serving request version st {}) :
      Does cfg s .takes { s with udsQueue := rest, worker := worker }
  | dispatches (request : UdsRequest) (version : UInt8) (st : StateId) (p2 p2' : P2)
      (hserving : s.worker = .serving request version st p2) (hbefore : p2.handler = none)
      (hafter : p2'.handler ≠ none) :
      Does cfg s (.dispatches request) { s with worker := .serving request version st p2' }
  | dispatchesLast (request : UdsRequest) (st : StateId) (hdoomed : s.worker = .doomed request st) :
      Does cfg s (.dispatches request) { s with worker := .stopped }
  | responds (request : UdsRequest) (version : UInt8) (st : StateId) (p2 : P2) (s' : Session)
      (h : Responded cfg s request version st p2 s') : Does cfg s .responds s'
  | aside (s' : Session) (h : Aside s s') : Does cfg s .aside s'

/-! ## §3. Steps that stand aside. -/

namespace Aside

variable {s s' s'' : Session}

/-- Nothing the requests depend on changes. -/
theorem of_eq (hact : s'.activated = s.activated) (haddr : s'.testerAddr = s.testerAddr)
    (hqueue : s'.udsQueue = s.udsQueue) (hworker : s'.worker = s.worker)
    (hpump : s'.pump = s.pump) (hversion : s'.currentReqVersion = s.currentReqVersion)
    (hwire : s'.wire = s.wire) : Aside s s' where
  bound := fun h => ⟨hact.trans h, haddr⟩
  queue := hqueue
  worker := hworker ▸ .same _
  pump := .inl ⟨hpump, hversion⟩
  wire := ⟨[], by simp [hwire], by simp⟩

theorem refl (s : Session) : Aside s s := .of_eq rfl rfl rfl rfl rfl rfl rfl

theorem trans (h : Aside s s') (h' : Aside s' s'') : Aside s s'' where
  bound := by
    intro hact
    obtain ⟨hact', haddr⟩ := h.bound hact
    obtain ⟨hact'', haddr'⟩ := h'.bound hact'
    exact ⟨hact'', haddr'.trans haddr⟩
  queue := h'.queue.trans h.queue
  worker := h.worker.trans h'.worker
  pump := by
    rcases h.pump with ⟨hp, hv⟩ | ⟨hno, hpast⟩
    · rcases h'.pump with ⟨hp', hv'⟩ | h'
      · exact .inl ⟨hp'.trans hp, hv'.trans hv⟩
      · rw [hp] at h'
        exact .inr h'
    · right
      rcases h'.pump with ⟨hp', _⟩ | ⟨hno', hpast'⟩
      · rw [hp']
        exact ⟨hno, hpast⟩
      · exact ⟨hno', fun h => hpast' (.inr (hpast h))⟩
  wire := by
    obtain ⟨frames, hw, hf⟩ := h.wire
    obtain ⟨frames', hw', hf'⟩ := h'.wire
    refine ⟨frames ++ frames', by rw [hw', hw, List.append_assoc], ?_⟩
    intro frame hmem
    rcases List.mem_append.mp hmem with h | h
    · exact hf frame h
    · exact hf' frame h

/-- Only the worker moves, and backwards. -/
theorem retreat {k : Worker} (h : s.worker.Retreats k) : Aside s { s with worker := k } :=
  { refl s with worker := h }

/-- The pump moves, with no ACK in sight. -/
theorem pumps {pump : Pump} (hno : ¬ pump.Promised)
    (h : s.pump.Promised ∨ s.pump.Past → pump.Past) : Aside s { s with pump := pump } :=
  { refl s with pump := .inr ⟨hno, h⟩ }

/-- A write to one socket leaves the others alone. -/
theorem set (w : World) (i j : Sid) (s : Session) (h : j = i → Aside (w.sessions i) s) :
    Aside (w.sessions j) ((w.set i s).sessions j) := by
  rw [World.set_sessions]
  by_cases hj : j = i
  · rw [if_pos hj, hj]
    exact h hj
  · rw [if_neg hj]
    exact refl _

theorem finalize (w : World) (i j : Sid) :
    Aside (w.sessions j) ((w.finalize i).sessions j) :=
  set w i j _ (fun _ => .of_eq rfl rfl rfl rfl rfl rfl rfl)

theorem cancelWorker (w : World) (i j : Sid) :
    Aside (w.sessions j) ((w.cancelWorker i).sessions j) := by
  refine set w i j _ (fun _ => retreat ?_)
  split
  · rename_i request version st p2 hw
    split
    · rename_i hfree
      rw [hw]
      exact .doomed _ _ _ _ hfree.1
    · exact .stopped _
  · rename_i request st hw
    rw [hw]
    exact .same _
  · exact .stopped _

theorem releaseState (cfg : EcuConfig) (w : World) (i j : Sid) :
    Aside (w.sessions j) ((w.releaseState cfg i).sessions j) :=
  set w i j _ (fun _ => .of_eq rfl rfl rfl rfl rfl rfl rfl)

/-- An eviction cancels the worker and leaves the rest of the socket to its
own coroutines. -/
theorem evict (cfg : EcuConfig) (w : World) (i j : Sid) (answered : Bool) :
    Aside (w.sessions j) ((w.evict cfg i answered).sessions j) := by
  have hfin := finalize w i j
  have hcancel := cancelWorker (w.finalize i) i j
  have hrelease := releaseState cfg ((w.finalize i).cancelWorker i) i j
  exact (hfin.trans hcancel).trans hrelease

theorem endProbe (w : World) (i o j : Sid) (p : Probe) (alive : Bool) :
    Aside (w.sessions j) ((w.endProbe i o p alive).sessions j) :=
  set w o j _ (fun _ => .of_eq rfl rfl rfl rfl rfl rfl rfl)

theorem leaveLoop (w : World) (i j : Sid) :
    Aside (w.sessions j) ((w.leaveLoop i).sessions j) := by
  have hlast : ∀ u : World, Aside (w.sessions j) (u.sessions j) →
      Aside (w.sessions j) (((u.finalize i).setPump i .stoppingSupervisor).sessions j) := by
    intro u hu
    refine (hu.trans (finalize u i j)).trans (set _ i j _ (fun _ => pumps ?_ ?_))
    · exact id
    · intro _
      trivial
  unfold World.leaveLoop
  dsimp only
  split
  · split
    · rename_i p _
      split
      · exact hlast _ (endProbe w i _ j p false)
      · exact hlast _ (refl _)
    · exact hlast w (refl _)
  · exact hlast w (refl _)

/-- A frame of another kind is put on the wire. -/
theorem writes {pt : Nat} (hlt : pt < 65536) (hdiag : pt ≠ ptDiagnosticMessage)
    (hack : pt ≠ ptDiagnosticPositiveAck) (hnack : pt ≠ ptDiagnosticNegativeAck)
    (data : Bytes) (version : UInt8) :
    Aside s { s with wire := s.wire ++ [buildFrame pt data version] } := by
  refine { refl s with wire := ⟨[_], rfl, ?_⟩ }
  intro frame hmem
  rw [List.mem_singleton.mp hmem, ptype_buildFrame hlt]
  exact ⟨hdiag, hack, hnack⟩

/-- The request of a probe goes out on the socket of the owner. -/
theorem startProbe (w : World) (i owner j : Sid) :
    Aside (w.sessions j) ((w.startProbe i owner).sessions j) := by
  refine set w owner j _ (fun _ => ?_)
  have hwrite : Aside (w.sessions owner) { w.sessions owner with
      wire := (w.sessions owner).wire ++ [buildFrame ptAliveCheckRequest [] ver] } :=
    writes (by decide) (by decide) (by decide) (by decide) [] ver
  exact hwrite.trans (.of_eq rfl rfl rfl rfl rfl rfl rfl)

end Aside

/-- The pump sends a response. -/
theorem sendResponse_sessions (w : World) (i j : Sid) (pt : Nat) (data : Bytes)
    (next : AfterSend) :
    (w.sendResponse i pt data next).sessions j =
      if j = i then
        { w.sessions i with
          wire := (w.sessions i).wire ++ [buildFrame pt data (w.sessions i).currentReqVersion]
          pump := .sending next }
      else w.sessions j := by
  unfold World.sendResponse World.setPump World.write
  simp only [World.set_sessions, if_pos]
  by_cases hj : j = i
  · simp [hj]
  · simp [hj]

namespace Aside

/-- A pump that is about no request and still in its loop sends something else. -/
theorem sendResponse {pt : Nat} {next : AfterSend} (hlt : pt < 65536)
    (hdiag : pt ≠ ptDiagnosticMessage) (hack : pt ≠ ptDiagnosticPositiveAck)
    (hnack : pt ≠ ptDiagnosticNegativeAck) (hnext : ¬ (Pump.sending next).Promised)
    (hfree : ¬ ((w.sessions i).pump.Promised ∨ (w.sessions i).pump.Past)) (data : Bytes)
    (j : Sid) : Aside (w.sessions j) ((w.sendResponse i pt data next).sessions j) := by
  rw [sendResponse_sessions]
  by_cases hj : j = i
  · rw [if_pos hj, hj]
    have hwrite := writes (s := w.sessions i) hlt hdiag hack hnack data
      (w.sessions i).currentReqVersion
    exact hwrite.trans (pumps hnext (fun h => absurd h hfree))
  · rw [if_neg hj]
    exact refl _

theorem respondActivation (hfree : ¬ ((w.sessions i).pump.Promised ∨ (w.sessions i).pump.Past))
    (src : SA) (code : UInt8) (j : Sid) :
    Aside (w.sessions j) ((w.respondActivation cfg i src code).sessions j) := by
  apply sendResponse (by decide) (by decide) (by decide) (by decide) ?_ hfree
  split <;> exact id

/-- An unbound socket is bound to its tester. -/
theorem occupy (hact : (w.sessions i).activated = false) (src : SA) (j : Sid) :
    Aside (w.sessions j) ((w.occupy cfg i src).sessions j) := by
  refine set w i j _ (fun _ => { refl (w.sessions i) with bound := ?_ })
  intro h
  rw [hact] at h
  cases h

theorem checkCapacity (hact : (w.sessions i).activated = false)
    (hfree : ¬ ((w.sessions i).pump.Promised ∨ (w.sessions i).pump.Past)) (src : SA) (j : Sid) :
    Aside (w.sessions j) ((w.checkCapacity cfg i src).sessions j) := by
  unfold World.checkCapacity
  split
  · exact respondActivation hfree src _ j
  · rw [commitActivation_eq]
    have hpump : ((w.occupy cfg i src).sessions i).pump = (w.sessions i).pump := by
      simp [World.occupy]
    refine (occupy hact src j).trans (respondActivation ?_ src _ j)
    rw [hpump]
    exact hfree

theorem handleRoutingActivation
    (hfree : ¬ ((w.sessions i).pump.Promised ∨ (w.sessions i).pump.Past))
    (src activationType : Nat) (override : Option UInt8) (j : Sid) :
    Aside (w.sessions j)
      ((w.handleRoutingActivation cfg i src activationType override).sessions j) := by
  unfold World.handleRoutingActivation
  dsimp only
  split
  · exact sendResponse (by decide) (by decide) (by decide) (by decide) id hfree _ j
  split
  · exact respondActivation hfree src _ j
  split
  · exact respondActivation hfree src _ j
  split
  · exact respondActivation hfree src _ j
  rename_i hother
  split
  · exact respondActivation hfree src _ j
  rename_i hsame
  -- past the checks on an activated socket it is a fresh one
  have hact : (w.sessions i).activated = false := by
    cases ha : (w.sessions i).activated with
    | false => rfl
    | true => exact absurd ⟨ha, by simpa [ha] using hother⟩ hsame
  split
  · exact checkCapacity hact hfree src j
  · rename_i existing _
    split
    · exact checkCapacity hact hfree src j
    · have hstart := startProbe w i existing j
      refine hstart.trans (set _ i j _ (fun hj => pumps id ?_))
      intro h
      refine absurd ?_ hfree
      have hpump : ((w.startProbe i existing).sessions i).pump = (w.sessions i).pump := by
        unfold World.startProbe
        simp only [World.set_sessions]
        by_cases hi : i = existing
        · rw [if_pos hi, hi]
        · rw [if_neg hi]
      rw [hpump] at h
      exact h

theorem resumeActivation (hact : (w.sessions i).activated = false)
    (hfree : ¬ ((w.sessions i).pump.Promised ∨ (w.sessions i).pump.Past)) (src : SA)
    (existing : Sid) (alive answered : Bool) (j : Sid) :
    Aside (w.sessions j)
      ((w.resumeActivation cfg i src existing alive answered).sessions j) := by
  unfold World.resumeActivation
  split
  · exact respondActivation hfree src _ j
  · refine (evict cfg w existing j answered).trans (checkCapacity ?_ ?_ src j)
    · rw [evict_activated]
      exact hact
    · rw [evict_pump]
      exact hfree

end Aside

/-! ## §4. What the pump does with a frame. -/

/-- The socket once the pump has noted the version of a frame. -/
def World.noteVersion (w : World) (i : Sid) (raw : Bytes) : World :=
  w.set i { w.sessions i with currentReqVersion := raw.headD 0 }

namespace Replied

variable {raw : Bytes}

theorem sendResponse {pt : Nat} {next : AfterSend} (hpump : (w.sessions i).pump = .reading)
    (hlt : pt < 65536) (hdiag : pt ≠ ptDiagnosticMessage) (hack : pt ≠ ptDiagnosticPositiveAck)
    (hnext : ¬ (Pump.sending next).Promised) (data : Bytes) :
    Replied (w.sessions i) raw
      (((w.noteVersion i raw).sendResponse i pt data next).sessions i) := by
  rw [sendResponse_sessions, if_pos rfl]
  unfold World.noteVersion
  simp only [World.set_sessions, if_pos]
  refine ⟨rfl, rfl, rfl, rfl, hpump, hnext, [_], rfl, ?_⟩
  intro frame hmem
  rw [List.mem_singleton.mp hmem, ptype_buildFrame hlt]
  exact ⟨.inl rfl, hdiag, hack⟩

/-- A header that is refused closes the connection. -/
theorem nack (hpump : (w.sessions i).pump = .reading) (code : UInt8) :
    Replied (w.sessions i) raw
      (((w.write i (buildFrame ptHeaderNack [code] ver)).setPump i
        (.sending .close)).sessions i) := by
  unfold World.setPump World.write
  simp only [World.set_sessions, if_pos]
  refine ⟨rfl, rfl, rfl, rfl, hpump, id, [_], rfl, ?_⟩
  intro frame hmem
  rw [List.mem_singleton.mp hmem, ptype_buildFrame (by decide)]
  exact ⟨.inr rfl, by decide, by decide⟩

/-- A frame that moves nothing but the pump. -/
theorem quiet (hpump : (w.sessions i).pump = .reading) {s : Session}
    (hact : s.activated = (w.sessions i).activated)
    (haddr : s.testerAddr = (w.sessions i).testerAddr)
    (hqueue : s.udsQueue = (w.sessions i).udsQueue) (hworker : s.worker = (w.sessions i).worker)
    (hno : ¬ s.pump.Promised) (hwire : s.wire = (w.sessions i).wire) :
    Replied (w.sessions i) raw s :=
  ⟨hact, haddr, hqueue, hworker, hpump, hno, [], by simp [hwire], by simp⟩

end Replied

/-- A Diagnostic Message is acknowledged if it passes the checks, and only then. -/
theorem handleDiagnostic_cases {raw : Bytes} (hpump : (w.sessions i).pump = .reading)
    (hheader : validateHeader raw = none) (htype : ptype raw = ptDiagnosticMessage) :
    Replied (w.sessions i) raw
        (((w.noteVersion i raw).handleDiagnostic cfg i (payload raw)).sessions i)
      ∨ Admitted cfg (w.sessions i) raw
        ∧ ((w.noteVersion i raw).handleDiagnostic cfg i (payload raw)).sessions i
          = { w.sessions i with
              currentReqVersion := raw.headD 0
              wire := (w.sessions i).wire ++ [ackFrame cfg raw]
              pump := .sending (.enqueue (requestOf cfg raw) (raw.headD 0)) } := by
  have hnoted : (w.noteVersion i raw).sessions i
      = { w.sessions i with currentReqVersion := raw.headD 0 } := by
    simp [World.noteVersion]
  unfold World.handleDiagnostic
  dsimp only
  rw [hnoted]
  split
  · exact .inl (.sendResponse hpump (by decide) (by decide) (by decide) id _)
  rename_i hlen
  split
  · exact .inl (.sendResponse hpump (by decide) (by decide) (by decide) id _)
  rename_i hsource
  split
  · exact .inl (.sendResponse hpump (by decide) (by decide) (by decide) id _)
  rename_i htarget
  split
  · exact .inl (.sendResponse hpump (by decide) (by decide) (by decide) id _)
  rename_i hsize
  right
  constructor
  · have hact : (w.sessions i).activated = true := by
      by_cases h : (w.sessions i).activated = true
      · exact h
      · exact absurd (.inl (by simpa using h)) hsource
    refine ⟨hheader, htype, hact, ?_, ?_, ?_, ?_⟩
    · by_cases h : (w.sessions i).testerAddr = some (fromBytes ((payload raw).take 2))
      · exact h
      · exact absurd (.inr h) hsource
    · by_cases h : (requestOf cfg raw).targetAddr = cfg.doip.ecuLogicalAddr
      · exact .inl h
      · right
        by_cases hf : (requestOf cfg raw).targetAddr = cfg.uds.functionalAddr
        · exact hf
        · refine absurd ⟨h, ?_⟩ htarget
          show (_ == _) = false
          exact beq_eq_false_iff_ne.mpr hf
    · show 1 ≤ ((payload raw).drop 4).length
      rw [List.length_drop]
      omega
    · show ((payload raw).drop 4).length ≤ _
      omega
  · rw [sendResponse_sessions, if_pos rfl, hnoted]
    rfl

/-- The pump reads a frame: it acknowledges it, or replies in another way. -/
theorem readFrame_cases {raw : Bytes} (hpump : (w.sessions i).pump = .reading)
    (h : w.readFrame cfg i raw = some w') :
    Replied (w.sessions i) raw (w'.sessions i)
      ∨ Admitted cfg (w.sessions i) raw
        ∧ w'.sessions i = { w.sessions i with
            currentReqVersion := raw.headD 0
            wire := (w.sessions i).wire ++ [ackFrame cfg raw]
            pump := .sending (.enqueue (requestOf cfg raw) (raw.headD 0)) } := by
  unfold World.readFrame at h
  split at h
  · cases h
  split at h
  · cases h
    exact .inl (.nack hpump _)
  split at h
  · cases h
    unfold World.handleFrame
    dsimp only
    split
    · exact .inl (.nack hpump _)
    rename_i hheader
    split
    · split
      · exact .inl (.sendResponse hpump (by decide) (by decide) (by decide) id _)
      · refine .inl (.quiet hpump ?_ ?_ ?_ ?_ ?_ ?_) <;> simp [World.setPump, Pump.Promised]
    split
    · rename_i htype
      exact handleDiagnostic_cases hpump hheader htype
    split
    · exact .inl (.sendResponse hpump (by decide) (by decide) (by decide) id _)
    split
    · left
      have hself : ∀ u : World, (u.creditResponse i).sessions i
          = { u.sessions i with awaiting := ((u.creditResponse i).sessions i).awaiting } := by
        intro u
        unfold World.creditResponse
        split <;> simp
      have hsame : ∀ u : World, (u.handleAliveCheckResponse i).sessions i
          = (u.creditResponse i).sessions i := by
        intro u
        unfold World.handleAliveCheckResponse
        dsimp only
        split <;> rfl
      rw [hsame, hself]
      refine .quiet hpump ?_ ?_ ?_ ?_ ?_ ?_ <;> simp [hpump, Pump.Promised]
    · exact .inl (.sendResponse hpump (by decide) (by decide) (by decide) id _)
  · cases h

/-- Reading a frame concerns no other socket. -/
theorem readFrame_sessions {raw : Bytes} (h : w.readFrame cfg i raw = some w') (hj : j ≠ i) :
    w'.sessions j = w.sessions j := by
  rcases readFrame_spec h with ⟨wire, version, queue, pump, _, rfl⟩ | ⟨version, rfl⟩
  · rw [World.set_sessions, if_neg hj]
  · have hcredit : ∀ u : World, (u.creditResponse i).sessions j = u.sessions j := by
      intro u
      unfold World.creditResponse
      split
      · rfl
      · show (u.set i _).sessions j = _
        rw [World.set_sessions, if_neg hj]
    unfold World.handleAliveCheckResponse
    dsimp only
    have hset := World.set_sessions w i j { w.sessions i with currentReqVersion := version }
    rw [if_neg hj] at hset
    split
    · exact (hcredit _).trans hset
    · exact (hcredit _).trans hset

/-! ## §5. What the worker does. -/

/-- The frames of a responder belong to its request. -/
theorem responses_wire (cfg : EcuConfig) (i : Sid) (request : UdsRequest) (version : UInt8)
    (responses : List Bytes) :
    ∀ w : World, ∃ frames, (∀ frame ∈ frames, ∃ r, frame = udsFrame cfg request version r)
      ∧ responses.foldl (fun w response => w.respondUds cfg i request version response) w
        = w.set i { w.sessions i with wire := (w.sessions i).wire ++ frames } := by
  induction responses with
  | nil =>
      intro w
      refine ⟨[], by simp, ?_⟩
      rw [List.append_nil]
      exact (w.set_self i).symm
  | cons response responses ih =>
      intro w
      rw [List.foldl_cons]
      unfold World.respondUds
      dsimp only
      split
      · obtain ⟨frames, hframes, hw⟩ := ih (w.write i (udsFrame cfg request version response))
        refine ⟨udsFrame cfg request version response :: frames, ?_, hw.trans ?_⟩
        · intro frame hmem
          rcases List.mem_cons.mp hmem with rfl | hmem
          · exact ⟨response, rfl⟩
          · exact hframes frame hmem
        · unfold World.write
          simp
      · exact ih w

theorem advanceWorker_responded {request : UdsRequest} {version : UInt8} {st : StateId}
    {p2 p2' : P2} (h : (w.sessions i).worker = .serving request version st p2)
    (hhandler : p2'.handler = p2.handler) :
    Responded cfg (w.sessions i) request version st p2
      ((w.advanceWorker cfg i request version st p2 p2').sessions i) := by
  obtain ⟨frames, hframes, hwire⟩ := responses_wire cfg i request version
    (p2'.emitted.drop p2.emitted.length) w
  unfold World.advanceWorker World.setWorker World.finalize
  dsimp only
  rw [hwire]
  split
  · split
    · simp only [World.set_sessions, if_pos]
      exact ⟨rfl, rfl, rfl, h, .inl rfl, rfl, rfl, frames, rfl, hframes⟩
    · simp only [World.set_sessions, if_pos]
      exact ⟨rfl, rfl, rfl, h, .inl rfl, rfl, rfl, frames, rfl, hframes⟩
  · simp only [World.set_sessions, if_pos]
    exact ⟨rfl, rfl, rfl, h, .inr ⟨p2', rfl, hhandler⟩, rfl, rfl, frames, rfl, hframes⟩

/-- The responder of one socket concerns no other. -/
theorem advanceWorker_sessions {request : UdsRequest} {version : UInt8} {st : StateId}
    (h : (w.sessions i).worker.state? = some st) (p2 p2' : P2) (hj : j ≠ i) :
    (w.advanceWorker cfg i request version st p2 p2').sessions j = w.sessions j := by
  obtain ⟨wire, worker, finalized, _, _, heq⟩ := advanceWorker_worked h p2 p2'
  rw [heq, World.set_sessions, if_neg hj]

/-- Only the end of the dispatch task gives the handler a result. -/
theorem p2Step_handler {request : UdsRequest} {m m' : P2} {e : P2Event}
    (h : p2Step cfg.uds request m e = some m') (he : ∀ r, e ≠ .finish r) :
    m'.handler = m.handler := by
  cases e with
  | finish r => exact absurd rfl (he r)
  | window =>
      simp only [p2Step, Option.ite_none_right_eq_some, Option.some.injEq] at h
      obtain ⟨_, rfl⟩ := h
      rfl
  | timeout =>
      simp only [p2Step, Option.ite_none_right_eq_some] at h
      obtain ⟨_, h⟩ := h
      split at h <;> cases h <;> rfl
  | sent =>
      simp only [p2Step] at h
      split at h <;> cases h <;> rfl
  | resume =>
      simp only [p2Step] at h
      split at h
      · split at h <;> cases h <;> rfl
      · cases h
  | cancel =>
      simp only [p2Step] at h
      split at h <;> cases h
      rfl

/-! ## §6. Every step is one of these. -/

/-- A reply that is no Positive ACK. -/
theorem deed_replies {s s' : Session} (h : ¬ s'.pump.Promised) (raw : Bytes) :
    (Event.frame i raw).deed i s s' = .replies raw := by
  simp only [Event.deed, if_pos]
  split
  · rename_i hp
    rw [hp] at h
    exact absurd trivial h
  · rfl

/-- A drain that ends no Positive ACK. -/
theorem deed_sent {s s' : Session} (h : j = i → ¬ s.pump.Promised) :
    (Event.sent j).deed i s s' = .aside := by
  simp only [Event.deed]
  split
  · rename_i hj
    split
    · rename_i hp _
      rw [hp] at h
      exact absurd trivial (h hj)
    · rename_i hp _
      rw [hp] at h
      exact absurd trivial (h hj)
    · rfl
  · rfl

/-- The drain of a Positive ACK queues the request or refuses it. -/
theorem enqueue_does {request : UdsRequest} {version : UInt8}
    (hpump : (w.sessions j).pump = .sending (.enqueue request version)) (i : Sid) :
    Does cfg (w.sessions i)
      ((Event.sent j).deed i (w.sessions i) ((w.enqueue cfg j request version).sessions i))
      ((w.enqueue cfg j request version).sessions i) := by
  by_cases hj : i = j
  · subst hj
    unfold World.enqueue
    dsimp only
    split
    · rename_i hroom
      rw [World.set_sessions, if_pos rfl]
      simp only [Event.deed, if_pos, hpump]
      exact .queues request version hpump hroom
    · rw [sendResponse_sessions, if_pos rfl]
      simp only [Event.deed, if_pos, hpump]
      exact .refuses request version hpump
  · have hpumped : Pumped w j (w.enqueue cfg j request version) :=
      enqueue_pumped w j request version
    obtain ⟨wire, ver, queue, pump, _, heq⟩ := hpumped
    rw [heq, World.set_sessions, if_neg hj]
    simp only [Event.deed, if_neg (Ne.symm hj)]
    exact .aside _ (.refl _)

theorem takeRequest_does {request : UdsRequest} {version : UInt8}
    {rest : List (UdsRequest × UInt8)} (hworker : (w.sessions j).worker = .idle)
    (hqueue : (w.sessions j).udsQueue = (request, version) :: rest) (i : Sid) :
    Does cfg (w.sessions i)
      ((Event.takeRequest j).deed i (w.sessions i)
        ((w.takeRequest cfg j request version rest).sessions i))
      ((w.takeRequest cfg j request version rest).sessions i) := by
  have hself : (w.takeRequest cfg j request version rest).sessions i =
      if i = j then { w.sessions j with
        udsQueue := rest
        worker := ((w.takeRequest cfg j request version rest).sessions j).worker }
      else w.sessions i := by
    unfold World.takeRequest
    dsimp only
    split <;> by_cases hj : i = j <;> simp [hj]
  by_cases hj : i = j
  · subst hj
    rw [hself, if_pos rfl]
    simp only [Event.deed, if_pos]
    refine .takes request version rest _ hworker hqueue ?_
    unfold World.takeRequest
    dsimp only
    split
    · rename_i st _
      exact .inr ⟨st, by simp⟩
    · exact .inl (by simp [hworker])
  · rw [hself, if_neg hj]
    simp only [Event.deed, if_neg (Ne.symm hj)]
    exact .aside _ (.refl _)

theorem step_does {e : Event} (hw : Shape w) (h : step cfg w e = some w') (i : Sid) :
    Does cfg (w.sessions i) (e.deed i (w.sessions i) (w'.sessions i)) (w'.sessions i) := by
  have hfree : ∀ {j : Sid} {pump : Pump}, (w.sessions j).pump = pump → ¬ pump.Promised →
      ¬ pump.Past → ¬ ((w.sessions j).pump.Promised ∨ (w.sessions j).pump.Past) := by
    intro j pump hp hno hpast
    rw [hp]
    exact not_or.mpr ⟨hno, hpast⟩
  cases step_effect h with
  | accepted => exact .aside _ (.refl _)
  -- the one branch where an acknowledgement is promised: an admitted diagnostic message
  | frameRead j raw w' _ hpump hread =>
      by_cases hj : i = j
      · subst hj
        rcases readFrame_cases hpump hread with hr | ⟨hadmitted, heq⟩
        · rw [deed_replies hr.pump]
          exact .replies raw _ hr
        · rw [heq]
          simp only [Event.deed, if_pos]
          exact .acks raw hpump hadmitted
      · rw [readFrame_sessions hread hj]
        simp only [Event.deed, if_neg (Ne.symm hj)]
        exact .aside _ (.refl _)
  | loopEnded j _ _ => exact .aside _ (.leaveLoop w j i)
  | hookReturned j override src activationType hpump =>
      -- the pump is at the hook, so it has promised no acknowledgement
      exact .aside _ (.handleRoutingActivation (hfree hpump id id) src activationType override i)
  | sentLoop j hpump =>
      rw [deed_sent (fun hj => by rw [← hj, hpump]; exact id)]
      refine .aside _ (.set w j i _ (fun _ => .pumps id ?_))
      intro hp
      exact absurd hp (hfree hpump id id)
  | sentClose j hpump =>
      rw [deed_sent (fun hj => by rw [← hj, hpump]; exact id)]
      exact .aside _ (.leaveLoop w j i)
  | sentEnqueue j request version hpump => exact enqueue_does hpump i
  -- probes only touch the owner's probe fields
  | probeSent j o event slot answered _ _ => exact .aside _ (.refl _)
  | probeUnwaited j o event answered _ _ => exact .aside _ (.endProbe w j o i _ false)
  | probeSendFailed j o event answered _ => exact .aside _ (.endProbe w j o i _ false)
  | probeWoken j o event slot answered _ _ => exact .aside _ (.endProbe w j o i _ true)
  | probeTimedOut j o event slot answered _ => exact .aside _ (.endProbe w j o i _ false)
  -- a probe is returned to a pump at the activation handler, again with nothing promised
  | probeReturned j existing src event alive answered hpump _ =>
      have hact := (hw.probing j src existing hpump).1
      have htake : ∀ k, ((w.takeProbe j existing).sessions k) = w.sessions k := fun _ => rfl
      exact .aside _ (.resumeActivation (w := w.takeProbe j existing) hact
        (hfree hpump id id) src existing _ _ i)
  | requestTaken j request version rest hworker hqueue => exact takeRequest_does hworker hqueue i
  | dispatched j request version st p2 p2' hworker hp2 =>
      -- the worker of `j` alone moves on
      by_cases hj : i = j
      · subst hj
        simp only [p2Step, Option.ite_none_right_eq_some, Option.some.injEq] at hp2
        obtain ⟨⟨hbefore, _⟩, rfl⟩ := hp2
        unfold World.setWorker
        simp only [World.set_sessions, if_pos, Event.deed, hworker]
        exact .dispatches request version st p2 _ hworker hbefore (by simp)
      · unfold World.setWorker
        simp only [World.set_sessions, if_neg hj, Event.deed, if_neg (Ne.symm hj)]
        exact .aside _ (.refl _)
  -- the same for the last dispatch, which leaves the worker stopped
  | dispatchedLast j request st hworker =>
      by_cases hj : i = j
      · subst hj
        unfold World.setWorker
        simp only [World.set_sessions, if_pos, Event.deed, hworker]
        exact .dispatchesLast request st hworker
      · unfold World.setWorker
        simp only [World.set_sessions, if_neg hj, Event.deed, if_neg (Ne.symm hj)]
        exact .aside _ (.refl _)
  -- a response is the worker's own step and leaves the other sockets alone
  | resolved j e request version st p2 p2' hworker hevent hp2 =>
      by_cases hj : i = j
      · subst hj
        simp only [Event.deed, if_pos]
        refine .responds request version st p2 _
          (advanceWorker_responded hworker (p2Step_handler hp2 ?_))
        rintro r rfl
        exact hevent.elim
      · rw [advanceWorker_sessions (by rw [hworker]; rfl) _ _ hj]
        simp only [Event.deed, if_neg (Ne.symm hj)]
        exact .aside _ (.refl _)
  | responderStopped j request version st p2 response _ _ _ =>
      exact .aside _ (.set w j i _ (fun _ => .retreat (.stopped _)))
  | responderFailed j request version st p2 hworker _ =>
      exact .aside _ (.set w j i _ (fun _ => .retreat (hworker ▸ .idle ..)))
  | inactive j _ _ => exact .aside _ (.finalize w j i)
  | s3Expired st _ => exact .aside _ (.refl _)
  -- teardown drops what is queued; nothing is acknowledged or answered by it
  | supervisorStopped j _ =>
      have hcancel := Aside.cancelWorker w j i
      exact .aside _ (hcancel.trans (.set _ j i _ (fun _ => .pumps id (fun _ => trivial))))
  | workerStopped j _ =>
      have hstop : Aside (w.sessions i) ((w.setWorker j .stopped).sessions i) :=
        .set w j i _ (fun _ => .retreat (.stopped _))
      have hrelease := Aside.releaseState cfg (w.setWorker j .stopped) j i
      exact .aside _ ((hstop.trans hrelease).trans
        (.set _ j i _ (fun _ => .pumps id (fun _ => trivial))))
  | writerClosed j _ => exact .aside _ (.set _ j i _ (fun _ => .pumps id (fun _ => trivial)))

end DoipPlayground.VirtualEcu
