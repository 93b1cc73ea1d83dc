/-
  DoipPlayground.Interop.Turns
  ────────────────────────────
  **ONE REQUEST AT A TIME ON A SOCKET OF THE VIRTUALECU.**

  A client that sends its next request only when the last one is answered
  meets a socket that is either at rest or busy with that one request,
  whatever goes on at the other sockets.  What it writes meanwhile answers
  that request: the last frame is what `resolve_uds` makes of a dispatch of
  it, at the state the ECU was in when the dispatch ran.

    • `heard` — the frames the client gets to see,
    • `Move` — all that a step of the ECU does to an activated socket,
    • `Answer` — what the socket answers to one request,
    • `Turn` — how far it is with it,
    • `Turn.step`, `Resting.reads` — a step does not leave the turn.
-/
import DoipPlayground.VirtualEcu.Pipeline
import DoipPlayground.EdgeNode.EcuClient

namespace DoipPlayground.Interop

open Wire VirtualEcu
open EdgeNode.ECUConnection (isDropped)

variable {cfg : EcuConfig} {w w' : World} {i j : Sid} {s s' : Session}

/-! ## §1. What the client hears. -/

/-- The frames of the socket that the reader of the client passes on. -/
def heard (s : Session) : List Bytes := s.wire.filter fun raw => !isDropped raw

theorem heard_append {more : List Bytes} (h : s'.wire = s.wire ++ more) :
    heard s' = heard s ++ more.filter fun raw => !isDropped raw := by
  unfold heard
  rw [h, List.filter_append]

theorem heard_of_wire (h : s'.wire = s.wire) : heard s' = heard s := by
  unfold heard
  rw [h]

theorem isDropped_buildFrame {pt : Nat} (hlt : pt < 65536) (data : Bytes) (v : UInt8) :
    isDropped (buildFrame pt data v) = (pt == ptHeaderNack || pt == ptAliveCheckRequest) := by
  have htype : EdgeNode.ptype (buildFrame pt data v) = pt := ptype_buildFrame hlt data v
  unfold isDropped
  rw [htype]
  rfl

/-- A frame of a type that is dropped goes unheard. -/
theorem heard_dropped {pt : Nat} (hlt : pt < 65536)
    (hpt : pt = ptHeaderNack ∨ pt = ptAliveCheckRequest) {data : Bytes} {v : UInt8}
    (h : s'.wire = s.wire ++ [buildFrame pt data v]) : heard s' = heard s := by
  have hdropped : isDropped (buildFrame pt data v) = true := by
    rw [isDropped_buildFrame hlt]
    rcases hpt with rfl | rfl <;> rfl
  rw [heard_append h, List.filter_cons_of_neg (by simp [hdropped]), List.filter_nil,
    List.append_nil]

theorem heard_passed {pt : Nat} (hlt : pt < 65536) (hpt : 0x8000 ≤ pt) {data : Bytes} {v : UInt8}
    (h : s'.wire = s.wire ++ [buildFrame pt data v]) :
    heard s' = heard s ++ [buildFrame pt data v] := by
  have hpassed : isDropped (buildFrame pt data v) = false := by
    rw [isDropped_buildFrame hlt]
    simp only [ptHeaderNack, ptAliveCheckRequest, Bool.or_eq_false_iff, beq_eq_false_iff_ne]
    omega
  rw [heard_append h, List.filter_cons_of_pos (by simp [hpassed]), List.filter_nil]

/-! ## §2. What a step does to a socket. -/

/-- Neither an activation nor a probe is under way. -/
def Plain : Pump → Prop
  | .hooking _ _ | .probing _ _ => False
  | _ => True

/-- A step that is about no request: it may end the work. -/
structure Background (s s' : Session) : Prop where
  queue : s'.udsQueue = s.udsQueue
  worker : s.worker.Retreats s'.worker
  pump : s'.pump = s.pump ∨ Plain s'.pump ∧ ¬ s'.pump.Promised
  heard : heard s' = heard s

/-- Why the pump refuses a request with a NACK. -/
inductive NackReason (cfg : EcuConfig) (request : UdsRequest) : UInt8 → Prop
  /-- The socket is not activated, or for another tester. -/
  | source : NackReason cfg request nackInvalidSourceAddress
  | target (haddr : request.targetAddr ≠ cfg.doip.ecuLogicalAddr)
      (hphysical : request.functional = false) :
      NackReason cfg request nackUnknownTargetAddress
  | large (hlen : cfg.doip.maxPayloadBytes < request.raw.length) :
      NackReason cfg request nackMessageTooLarge

/-- A Diagnostic Message is refused with a frame the client hears or not. -/
structure Refused (cfg : EcuConfig) (s : Session) (raw : Bytes) (s' : Session) : Prop where
  queue : s'.udsQueue = s.udsQueue
  worker : s'.worker = s.worker
  pump : Plain s'.pump ∧ ¬ s'.pump.Promised
  heard : heard s' = heard s
    ∨ ∃ code, NackReason cfg (requestOf cfg raw) code
      ∧ heard s' = heard s ++ [buildFrame ptDiagnosticNegativeAck
        (packH cfg.doip.ecuLogicalAddr ++ packH (requestOf cfg raw).sourceAddr ++ [code])
        (raw.headD 0)]

/-- The responses a header can carry, in their frames. -/
def udsFrames (cfg : EcuConfig) (request : UdsRequest) (version : UInt8) (responses : List Bytes) :
    List Bytes :=
  (responses.filter fun response =>
    (packH cfg.doip.ecuLogicalAddr ++ packH request.sourceAddr ++ response).length
      < 4294967296).map (udsFrame cfg request version)

/-- **All that a step does to a socket past its activation**, if the frames it
reads are Diagnostic Messages and Alive Check Responses; `core` is what the
step finds of the ECU. -/
inductive Move (cfg : EcuConfig) (core : EcuCore) (s : Session) (i : Sid) : Event → Session → Prop
  | background (e : Event) (s' : Session)
      (he : ∀ raw, e = .frame i raw → ptype raw ≠ ptDiagnosticMessage) (h : Background s s') :
      Move cfg core s i e s'
  | refused (raw : Bytes) (s' : Session) (htype : ptype raw = ptDiagnosticMessage)
      (h : Refused cfg s raw s') : Move cfg core s i (.frame i raw) s'
  | acked (raw : Bytes) (htype : ptype raw = ptDiagnosticMessage) :
      Move cfg core s i (.frame i raw) { s with
        currentReqVersion := raw.headD 0
        wire := s.wire ++ [ackFrame cfg raw]
        pump := .sending (.enqueue (requestOf cfg raw) (raw.headD 0)) }
  | queued (request : UdsRequest) (version : UInt8)
      (hpump : s.pump = .sending (.enqueue request version)) :
      Move cfg core s i (.sent i) { s with
        udsQueue := s.udsQueue ++ [(request, version)], pump := .reading }
  | busy (request : UdsRequest) (version : UInt8) (s' : Session)
      (hpump : s.pump = .sending (.enqueue request version))
      (hfull : udsQueueMaxsize ≤ s.udsQueue.length) : Move cfg core s i (.sent i) s'
  | took (request : UdsRequest) (version : UInt8) (rest : List (UdsRequest × UInt8))
      (worker : Worker) (hqueue : s.udsQueue = (request, version) :: rest)
      (h : worker = .idle ∨ ∃ st, worker = .serving request version st {}) :
      Move cfg core s i (.takeRequest i) { s with udsQueue := rest, worker := worker }
  | dispatched (request : UdsRequest) (version : UInt8) (st : StateId) (p2 p2' : P2)
      (hserving : s.worker = .serving request version st p2)
      (hp2 : p2Step cfg.uds request p2 (.finish (dispatch cfg request st core).2) = some p2') :
      Move cfg core s i (.dispatch i) { s with worker := .serving request version st p2' }
  | resolved (e : P2Event) (request : UdsRequest) (version : UInt8) (st : StateId) (p2 p2' : P2)
      (hserving : s.worker = .serving request version st p2) (hevent : e.Own)
      (hp2 : p2Step cfg.uds request p2 e = some p2') (s' : Session)
      (hqueue : s'.udsQueue = s.udsQueue) (hpump : s'.pump = s.pump)
      (hworker : s'.worker = if p2'.point = .done then .idle else .serving request version st p2')
      (hwire : s'.wire = s.wire
        ++ udsFrames cfg request version (p2'.emitted.drop p2.emitted.length)) :
      Move cfg core s i (.resolve i e) s'

namespace Background

theorem of_eq (hqueue : s'.udsQueue = s.udsQueue) (hworker : s'.worker = s.worker)
    (hpump : s'.pump = s.pump) (hwire : s'.wire = s.wire) : Background s s' :=
  ⟨hqueue, hworker ▸ .same _, .inl hpump, heard_of_wire hwire⟩

theorem refl (s : Session) : Background s s := .of_eq rfl rfl rfl rfl

theorem trans {s'' : Session} (h : Background s s') (h' : Background s' s'') :
    Background s s'' where
  queue := h'.queue.trans h.queue
  worker := h.worker.trans h'.worker
  pump := by
    rcases h'.pump with heq | hplain
    · rw [heq]
      exact h.pump
    · exact .inr hplain
  heard := h'.heard.trans h.heard

/-- A write to one socket leaves the others alone. -/
theorem set (w : World) (i j : Sid) (s : Session) (h : j = i → Background (w.sessions i) s) :
    Background (w.sessions j) ((w.set i s).sessions j) := by
  rw [World.set_sessions]
  by_cases hj : j = i
  · rw [if_pos hj, hj]
    exact h hj
  · rw [if_neg hj]
    exact refl _

theorem pumps {pump : Pump} (hplain : Plain pump) (hno : ¬ pump.Promised) :
    Background s { s with pump := pump } :=
  ⟨rfl, .same _, .inr ⟨hplain, hno⟩, rfl⟩

theorem finalize (w : World) (i j : Sid) :
    Background (w.sessions j) ((w.finalize i).sessions j) :=
  set w i j _ fun _ => .of_eq rfl rfl rfl rfl

/-- What stands aside without a frame and with its pump where it was. -/
theorem of_aside (h : Aside s s') (hpump : s'.pump = s.pump ∨ Plain s'.pump ∧ ¬ s'.pump.Promised)
    (hwire : s'.wire = s.wire) : Background s s' :=
  ⟨h.queue, h.worker, hpump, heard_of_wire hwire⟩

theorem cancelWorker (w : World) (i j : Sid) :
    Background (w.sessions j) ((w.cancelWorker i).sessions j) := by
  refine of_aside (.cancelWorker w i j) (.inl ?_) ?_
  · unfold World.cancelWorker World.setWorker
    rw [World.set_sessions]
    by_cases hj : j = i
    · rw [if_pos hj, hj]
    · rw [if_neg hj]
  · unfold World.cancelWorker World.setWorker
    rw [World.set_sessions]
    by_cases hj : j = i
    · rw [if_pos hj, hj]
    · rw [if_neg hj]

theorem evict (w : World) (i j : Sid) (answered : Bool) :
    Background (w.sessions j) ((w.evict cfg i answered).sessions j) := by
  have hrelease := set ((w.finalize i).cancelWorker i) i j
    { ((w.finalize i).cancelWorker i).sessions i with released := true }
    fun _ => .of_eq rfl rfl rfl rfl
  exact ((finalize w i j).trans (cancelWorker (w.finalize i) i j)).trans hrelease

theorem endProbe (w : World) (i o j : Sid) (p : Probe) (alive : Bool) :
    Background (w.sessions j) ((w.endProbe i o p alive).sessions j) :=
  set w o j _ fun _ => .of_eq rfl rfl rfl rfl

theorem leaveLoop (w : World) (i j : Sid) :
    Background (w.sessions j) ((w.leaveLoop i).sessions j) := by
  have hlast : ∀ u : World, Background (w.sessions j) (u.sessions j) →
      Background (w.sessions j) (((u.finalize i).setPump i .stoppingSupervisor).sessions j) := by
    intro u hu
    exact (hu.trans (finalize u i j)).trans (set _ i j _ fun _ => .pumps trivial id)
  unfold World.leaveLoop
  dsimp only
  split
  · rename_i src existing _
    split
    · rename_i p _
      split
      · exact hlast _ (endProbe w i existing j p false)
      · exact hlast _ (refl _)
    · exact hlast _ (refl _)
  · exact hlast _ (refl _)

/-- What one pump does concerns no other socket. -/
theorem pumped (h : Pumped w i w') (hj : j ≠ i) : Background (w.sessions j) (w'.sessions j) := by
  obtain ⟨wire, version, queue, pump, _, rfl⟩ := h
  exact set w i j _ fun heq => absurd heq hj

theorem occupied {src : SA} (h : Pumped (w.occupy cfg i src) i w') (hj : j ≠ i) :
    Background (w.sessions j) (w'.sessions j) := by
  have hoccupy : Background (w.sessions j) ((w.occupy cfg i src).sessions j) :=
    set w i j _ fun heq => absurd heq hj
  exact hoccupy.trans (pumped h hj)

/-- The owner that is probed is sent an Alive Check Request. -/
theorem startProbe (w : World) (i owner j : Sid) :
    Background (w.sessions j) ((w.startProbe i owner).sessions j) :=
  set w owner j _ fun _ => ⟨rfl, .same _, .inl rfl, heard_dropped (by decide) (.inr rfl) rfl⟩

end Background

/-! ## §3. The frames a client sends. -/

namespace Refused

variable {raw : Bytes}

/-- A frame of a type that is dropped. -/
theorem unheard {next : AfterSend} {data : Bytes} {v : UInt8} (version : UInt8)
    (hnext : ¬ (Pump.sending next).Promised) :
    Refused cfg s raw { s with
      currentReqVersion := version
      wire := s.wire ++ [buildFrame ptHeaderNack data v]
      pump := .sending next } :=
  ⟨rfl, rfl, ⟨trivial, hnext⟩, .inl (heard_dropped (by decide) (.inl rfl) rfl)⟩

theorem nack {next : AfterSend} {code : UInt8} (hcode : NackReason cfg (requestOf cfg raw) code)
    (hnext : ¬ (Pump.sending next).Promised) :
    Refused cfg s raw { s with
      currentReqVersion := raw.headD 0
      wire := s.wire ++ [buildFrame ptDiagnosticNegativeAck
        (packH cfg.doip.ecuLogicalAddr ++ packH (requestOf cfg raw).sourceAddr ++ [code])
        (raw.headD 0)]
      pump := .sending next } :=
  ⟨rfl, rfl, ⟨trivial, hnext⟩, .inr ⟨code, hcode, heard_passed (by decide) (by decide) rfl⟩⟩

end Refused

/-- The socket with a response of the pump to a frame. -/
theorem noted_sendResponse (w : World) (i : Sid) (raw : Bytes) (pt : Nat) (data : Bytes)
    (next : AfterSend) :
    ((w.noteVersion i raw).sendResponse i pt data next).sessions i
      = { w.sessions i with
          currentReqVersion := raw.headD 0
          wire := (w.sessions i).wire ++ [buildFrame pt data (raw.headD 0)]
          pump := .sending next } := by
  have hnoted : (w.noteVersion i raw).sessions i
      = { w.sessions i with currentReqVersion := raw.headD 0 } := by
    simp [World.noteVersion]
  rw [sendResponse_sessions, if_pos rfl, hnoted]

theorem handleDiagnostic_turn (w : World) (i : Sid) (raw : Bytes) :
    Refused cfg (w.sessions i) raw
        (((w.noteVersion i raw).handleDiagnostic cfg i (payload raw)).sessions i)
      ∨ ((w.noteVersion i raw).handleDiagnostic cfg i (payload raw)).sessions i
        = { w.sessions i with
            currentReqVersion := raw.headD 0
            wire := (w.sessions i).wire ++ [ackFrame cfg raw]
            pump := .sending (.enqueue (requestOf cfg raw) (raw.headD 0)) } := by
  have hversion : ((w.noteVersion i raw).sessions i).currentReqVersion = raw.headD 0 := by
    simp [World.noteVersion]
  unfold World.handleDiagnostic
  dsimp only
  split
  · left
    rw [noted_sendResponse]
    exact .unheard _ id
  split
  · left
    rw [noted_sendResponse]
    exact .nack .source id
  split
  · rename_i htarget
    left
    rw [noted_sendResponse]
    exact .nack (.target htarget.1 htarget.2) id
  split
  · rename_i hlarge
    left
    rw [noted_sendResponse]
    exact .nack (.large hlarge) id
  · right
    rw [noted_sendResponse, hversion]
    rfl

/-- A Header NACK that closes the socket. -/
theorem write_nack (w : World) (i : Sid) (code : UInt8) (raw : Bytes) :
    Refused cfg (w.sessions i) raw
      (((w.write i (buildFrame ptHeaderNack [code] ver)).setPump i
        (.sending .close)).sessions i) := by
  unfold World.setPump World.write
  simp only [World.set_sessions, if_pos]
  exact .unheard (w.sessions i).currentReqVersion id

/-- The pump reads a Diagnostic Message. -/
theorem readFrame_request {raw : Bytes} (htype : ptype raw = ptDiagnosticMessage)
    (h : w.readFrame cfg i raw = some w') :
    Refused cfg (w.sessions i) raw (w'.sessions i)
      ∨ w'.sessions i = { w.sessions i with
          currentReqVersion := raw.headD 0
          wire := (w.sessions i).wire ++ [ackFrame cfg raw]
          pump := .sending (.enqueue (requestOf cfg raw) (raw.headD 0)) } := by
  unfold World.readFrame at h
  split at h
  · cases h
  split at h
  · cases h
    exact .inl (write_nack w i _ raw)
  split at h
  · cases h
    unfold World.handleFrame
    dsimp only
    split
    · exact .inl (write_nack w i _ raw)
    rw [if_neg (by rw [htype]; decide), if_pos htype]
    exact handleDiagnostic_turn w i raw
  · cases h

/-- The pump reads an Alive Check Response. -/
theorem readFrame_alive {raw : Bytes} (htype : ptype raw = ptAliveCheckResponse)
    (h : w.readFrame cfg i raw = some w') : Background (w.sessions i) (w'.sessions i) := by
  have hnack : ∀ code, Background (w.sessions i)
      (((w.write i (buildFrame ptHeaderNack [code] ver)).setPump i
        (.sending .close)).sessions i) := by
    intro code
    unfold World.setPump World.write
    simp only [World.set_sessions, if_pos]
    exact ⟨rfl, .same _, .inr ⟨trivial, id⟩, heard_dropped (by decide) (.inl rfl) rfl⟩
  have hcredit : ∀ u : World, Background (u.sessions i) ((u.creditResponse i).sessions i) := by
    intro u
    unfold World.creditResponse
    split
    · exact .refl _
    · exact .set u i i _ fun _ => .of_eq rfl rfl rfl rfl
  unfold World.readFrame at h
  split at h
  · cases h
  split at h
  · cases h
    exact hnack _
  split at h
  · cases h
    unfold World.handleFrame
    dsimp only
    split
    · exact hnack _
    rw [if_neg (by rw [htype]; decide), if_neg (by rw [htype]; decide),
      if_neg (by rw [htype]; decide), if_pos htype]
    have hnoted : Background (w.sessions i) ((w.noteVersion i raw).sessions i) :=
      .set w i i _ fun _ => .of_eq rfl rfl rfl rfl
    unfold World.handleAliveCheckResponse
    dsimp only
    split
    · exact hnoted.trans (hcredit _)
    · exact hnoted.trans (hcredit _)
  · cases h

/-! ## §4. Any step. -/

/-- The responder writes the responses in their frames. -/
theorem responses_frames (cfg : EcuConfig) (i : Sid) (request : UdsRequest) (version : UInt8)
    (responses : List Bytes) :
    ∀ w : World, responses.foldl (fun w response => w.respondUds cfg i request version response) w
      = w.set i { w.sessions i with
          wire := (w.sessions i).wire ++ udsFrames cfg request version responses } := by
  induction responses with
  | nil =>
      intro w
      show w = w.set i { w.sessions i with wire := (w.sessions i).wire ++ [] }
      rw [List.append_nil]
      exact (w.set_self i).symm
  | cons response responses ih =>
      intro w
      rw [List.foldl_cons, ih]
      unfold World.respondUds udsFrames
      dsimp only
      by_cases hlen : (packH cfg.doip.ecuLogicalAddr ++ packH request.sourceAddr
          ++ response).length < 4294967296
      · rw [if_pos hlen, List.filter_cons_of_pos (by simpa using hlen), List.map_cons]
        unfold World.write
        simp only [World.set_sessions, if_pos, World.set_set, List.append_assoc,
          List.singleton_append]
        rfl
      · rw [if_neg hlen, List.filter_cons_of_neg (by simpa using hlen)]

variable (cfg) in
theorem advanceWorker_self (w : World) (i : Sid) (request : UdsRequest) (version : UInt8)
    (st : StateId) (p2 p2' : P2) :
    ∃ finalized, (w.advanceWorker cfg i request version st p2 p2').sessions i
      = { w.sessions i with
          wire := (w.sessions i).wire
            ++ udsFrames cfg request version (p2'.emitted.drop p2.emitted.length)
          worker := if p2'.point = .done then .idle else .serving request version st p2'
          finalized := finalized } := by
  unfold World.advanceWorker World.setWorker World.finalize
  dsimp only
  rw [responses_frames]
  split
  · split
    · exact ⟨true, by simp⟩
    · exact ⟨(w.sessions i).finalized, by simp⟩
  · exact ⟨(w.sessions i).finalized, by simp⟩

/-- The pump of one socket, in an activation, concerns another one only as
the owner that is probed or evicted. -/
theorem activation_background {src activationType : Nat} {override : Option UInt8} (hj : j ≠ i) :
    Background (w.sessions j)
      ((w.handleRoutingActivation cfg i src activationType override).sessions j) := by
  -- answered, the owner is probed, or the address is taken
  rcases handleRoutingActivation_spec cfg w i src activationType override with
    hp | ⟨existing, _, heq⟩ | ⟨_, _, hp⟩
  · exact .pumped hp hj
  · rw [heq]
    exact (Background.startProbe w i existing j).trans (.set _ i j _ fun h => absurd h hj)
  · exact .occupied hp hj

theorem resumed_background {src : SA} {existing : Sid} {alive answered : Bool} (hj : j ≠ i) :
    Background (w.sessions j)
      ((w.resumeActivation cfg i src existing alive answered).sessions j) := by
  have hevict : Background (w.sessions j) ((w.evict cfg existing answered).sessions j) :=
    .evict w existing j answered
  -- the owner is alive, or evicted; then the table is full, or there is room
  rcases resumeActivation_spec cfg w i src existing alive answered with
    ⟨_, hp⟩ | ⟨_, ⟨_, hp⟩ | ⟨_, hp⟩⟩
  · exact .pumped hp hj
  · exact hevict.trans (.pumped hp hj)
  · exact hevict.trans (.occupied hp hj)

/-- **A step and a socket past its activation.** -/
theorem step_move {e : Event} (h : step cfg w e = some w') (hplain : Plain (w.sessions i).pump)
    (hframe : ∀ raw, e = .frame i raw →
      ptype raw = ptDiagnosticMessage ∨ ptype raw = ptAliveCheckResponse) :
    Move cfg w.core (w.sessions i) i e (w'.sessions i) := by
  have haside : ∀ {e : Event} {s' : Session}, (∀ raw, e ≠ .frame i raw) →
      Background (w.sessions i) s' → Move cfg w.core (w.sessions i) i e s' :=
    fun hne hb => .background _ _ (fun raw heq => absurd heq (hne raw)) hb
  -- only the pump and the worker of the socket itself are more than background
  cases step_effect h with
  | accepted => exact haside (by simp) (.refl _)
  | frameRead j raw w' _ _ hread =>
      by_cases hj : i = j
      · subst hj
        -- by the type of the frame; a Diagnostic Message is acknowledged or refused
        rcases hframe raw rfl with htype | htype
        · rcases readFrame_request htype hread with hr | heq
          · exact .refused raw _ htype hr
          · rw [heq]
            exact .acked raw htype
        · refine .background _ _ ?_ (readFrame_alive htype hread)
          intro raw' heq
          cases heq
          rw [htype]
          decide
      -- another socket's frame does not touch this one
      · rw [readFrame_sessions hread hj]
        exact haside (by simp [Ne.symm hj]) (.refl _)
  | loopEnded j _ _ => exact haside (by simp) (.leaveLoop w j i)
  | hookReturned j override src activationType hpump =>
      -- a socket past its activation decides no other
      have hj : i ≠ j := by
        intro hj
        subst hj
        rw [hpump] at hplain
        exact hplain
      exact haside (by simp) (activation_background hj)
  | sentLoop j hpump =>
      exact haside (by simp) (.set w j i _ fun _ => .pumps trivial id)
  | sentClose j hpump => exact haside (by simp) (.leaveLoop w j i)
  | sentEnqueue j request version hpump =>
      -- behind the Positive ACK the request is queued, or refused as busy
      by_cases hj : i = j
      · subst hj
        unfold World.enqueue
        dsimp only
        split
        · rw [World.set_sessions, if_pos rfl]
          exact .queued request version hpump
        · exact .busy request version _ hpump (by omega)
      · exact haside (by simp) (.pumped (enqueue_pumped w j request version) hj)
  -- probes move events and slots, and neither the pump nor the worker
  | probeSent j o event slot answered _ _ => exact haside (by simp) (.refl _)
  | probeUnwaited j o event answered _ _ => exact haside (by simp) (.endProbe w j o i _ false)
  | probeSendFailed j o event answered _ => exact haside (by simp) (.endProbe w j o i _ false)
  | probeWoken j o event slot answered _ _ => exact haside (by simp) (.endProbe w j o i _ true)
  | probeTimedOut j o event slot answered _ => exact haside (by simp) (.endProbe w j o i _ false)
  | probeReturned j existing src event alive answered hpump _ =>
      have hj : i ≠ j := by
        intro hj
        subst hj
        rw [hpump] at hplain
        exact hplain
      exact haside (by simp) (resumed_background (w := w.takeProbe j existing) hj)
  | requestTaken j request version rest hworker hqueue =>
      -- a worker whose socket has lost its state drops the request
      by_cases hj : i = j
      · subst hj
        unfold World.takeRequest
        dsimp only
        split
        · rename_i st _
          show Move cfg _ _ i _ ((w.set i _).sessions i)
          rw [World.set_sessions, if_pos rfl]
          exact .took request version rest _ hqueue (.inr ⟨st, rfl⟩)
        · rw [World.set_sessions, if_pos rfl]
          exact .took request version rest _ hqueue (.inl hworker)
      · have hother : (w.takeRequest cfg j request version rest).sessions i = w.sessions i := by
          unfold World.takeRequest
          dsimp only
          split <;> simp [hj]
        rw [hother]
        exact haside (by simp) (.refl _)
  | dispatched j request version st p2 p2' hworker hp2 =>
      unfold World.setWorker
      by_cases hj : i = j
      · subst hj
        simp only [World.set_sessions, if_pos]
        exact .dispatched request version st p2 p2' hworker hp2
      · simp only [World.set_sessions, if_neg hj]
        exact haside (by simp) (.refl _)
  -- a cancelled worker stops, and writes nothing
  | dispatchedLast j request st hworker =>
      exact haside (by simp) (.set w j i _ fun _ => ⟨rfl, .stopped _, .inl rfl, rfl⟩)
  -- what the call emits goes on this socket's wire and on no other
  | resolved j e request version st p2 p2' hworker hevent hp2 =>
      by_cases hj : i = j
      · subst hj
        obtain ⟨finalized, heq⟩ := advanceWorker_self cfg w i request version st p2 p2'
        rw [heq]
        exact .resolved e request version st p2 p2' hworker hevent hp2 _ rfl rfl rfl rfl
      · rw [advanceWorker_sessions (by rw [hworker]; rfl) _ _ hj]
        exact haside (by simp) (.refl _)
  -- a responder that raises writes nothing
  | responderStopped j request version st p2 response _ _ _ =>
      exact haside (by simp) (.set w j i _ fun _ => ⟨rfl, .stopped _, .inl rfl, rfl⟩)
  | responderFailed j request version st p2 hworker _ =>
      exact haside (by simp) (.set w j i _ fun _ =>
        ⟨rfl, hworker ▸ .idle request version st p2, .inl rfl, rfl⟩)
  | inactive j _ _ => exact haside (by simp) (.finalize w j i)
  | s3Expired st _ => exact haside (by simp) (.refl _)
  -- the clean-up of a socket
  | supervisorStopped j _ =>
      exact haside (by simp) ((Background.cancelWorker w j i).trans
        (.set _ j i _ fun _ => .pumps trivial id))
  | workerStopped j _ =>
      have hstop : Background (w.sessions i) ((w.setWorker j .stopped).sessions i) :=
        .set w j i _ fun _ => ⟨rfl, .stopped _, .inl rfl, rfl⟩
      have hrelease : Background ((w.setWorker j .stopped).sessions i)
          (((w.setWorker j .stopped).releaseState cfg j).sessions i) :=
        .set _ j i _ fun _ => .of_eq rfl rfl rfl rfl
      exact haside (by simp) ((hstop.trans hrelease).trans
        (.set _ j i _ fun _ => .pumps trivial id))
  | writerClosed j _ =>
      exact haside (by simp) (.set _ j i _ fun _ => .pumps trivial id)

/-! ## §5. A turn. -/

/-- The worker writes nothing more. -/
def Mute : Worker → Prop
  | .serving _ _ _ p2 => p2.point = .sendingLast
  | _ => True

/-- Nothing of a request is left to do. -/
structure Resting (s : Session) : Prop where
  pump : Plain s.pump ∧ ¬ s.pump.Promised
  queue : s.udsQueue = []
  worker : Mute s.worker

/-- The frames `7F <sid> 78`. -/
def pendingFrames (cfg : EcuConfig) (request : UdsRequest) (version : UInt8) (k : Nat) :
    List Bytes :=
  List.replicate k (udsFrame cfg request version (request.negative nrcResponsePending))

/-- A dispatch: the request, the state of its tester, and the core it finds. -/
structure Dispatch where
  request : UdsRequest
  st : StateId
  core : EcuCore

/-- What `resolve_uds` makes of it. -/
def Dispatch.response (cfg : EcuConfig) (d : Dispatch) : Option Bytes :=
  resolveUds cfg.uds d.request (dispatch cfg d.request d.st d.core).2

/-- What a step dispatches at the socket. -/
def dispatches (core : EcuCore) (s : Session) (i : Sid) : Event → List Dispatch
  | .dispatch j =>
      match s.worker with
      | .serving request _ st _ => if j = i then [⟨request, st, core⟩] else []
      | _ => []
  | _ => []

/-- **What a socket answers to one request**, up to any point: silence, a NACK,
or an ACK with some `7F <sid> 78`, and then at most one more response: the
give-up at the cap, or what `resolve_uds` makes of a dispatch of that request. -/
inductive Answer (cfg : EcuConfig) (sent : Bytes) (dispatched : List Dispatch) :
    List Bytes → Prop
  | silence : Answer cfg sent dispatched []
  | nack (code : UInt8) (hcode : NackReason cfg (requestOf cfg sent) code) :
      Answer cfg sent dispatched [buildFrame ptDiagnosticNegativeAck
        (packH cfg.doip.ecuLogicalAddr ++ packH (requestOf cfg sent).sourceAddr ++ [code])
        (sent.headD 0)]
  | pending (k : Nat) : Answer cfg sent dispatched
      (ackFrame cfg sent :: pendingFrames cfg (requestOf cfg sent) (sent.headD 0) k)
  | gaveUp (hcap : cfg.uds.maxResponsePending ≠ 0) : Answer cfg sent dispatched
      (ackFrame cfg sent
        :: pendingFrames cfg (requestOf cfg sent) (sent.headD 0) cfg.uds.maxResponsePending
        ++ [udsFrame cfg (requestOf cfg sent) (sent.headD 0)
          ((requestOf cfg sent).negative nrcGeneralReject)])
  | final (k : Nat) (d : Dispatch) (hmem : d ∈ dispatched)
      (hrequest : d.request = requestOf cfg sent) (response : Bytes)
      (hresponse : d.response cfg = some response) :
      Answer cfg sent dispatched
        (ackFrame cfg sent :: pendingFrames cfg (requestOf cfg sent) (sent.headD 0) k
          ++ [udsFrame cfg (requestOf cfg sent) (sent.headD 0) response])

/-- `resolve_uds` is at work on the request: `k` windows have been answered for,
and the handler's result, if it is there, is that of a dispatch. -/
structure Serving (cfg : EcuConfig) (sent : Bytes) (dispatched : List Dispatch)
    (p2 : P2) (k : Nat) : Prop where
  point : p2.point = .waiting ∨ p2.point = .elapsed ∨ p2.point = .sendingPending
  count : k = p2.pendingSent + if p2.point = .sendingPending then 1 else 0
  cap : WithinCap cfg.uds k
  handler : ∀ r, p2.handler = some r → ∃ d ∈ dispatched, d.request = requestOf cfg sent
    ∧ r = (dispatch cfg d.request d.st d.core).2

/-- **How far a socket is with a request**, and what it has answered. -/
inductive Turn (cfg : EcuConfig) (sent : Bytes) (dispatched : List Dispatch)
    (s : Session) : List Bytes → Prop
  /-- The Positive ACK is being drained. -/
  | acked (hpump : s.pump = .sending (.enqueue (requestOf cfg sent) (sent.headD 0)))
      (hqueue : s.udsQueue = []) (hworker : Mute s.worker) :
      Turn cfg sent dispatched s [ackFrame cfg sent]
  | queued (hpump : Plain s.pump ∧ ¬ s.pump.Promised)
      (hqueue : s.udsQueue = [(requestOf cfg sent, sent.headD 0)]) (hworker : Mute s.worker) :
      Turn cfg sent dispatched s [ackFrame cfg sent]
  | serving (hpump : Plain s.pump ∧ ¬ s.pump.Promised) (hqueue : s.udsQueue = []) (st : StateId)
      (p2 : P2) (hworker : s.worker = .serving (requestOf cfg sent) (sent.headD 0) st p2) (k : Nat)
      (hserving : Serving cfg sent dispatched p2 k) :
      Turn cfg sent dispatched s
        (ackFrame cfg sent :: pendingFrames cfg (requestOf cfg sent) (sent.headD 0) k)
  | settled (hrest : Resting s) (frames : List Bytes)
      (hanswer : Answer cfg sent dispatched frames) : Turn cfg sent dispatched s frames

variable {dispatched dispatched' : List Dispatch} {core : EcuCore}
variable {sent : Bytes} {frames : List Bytes}

theorem Answer.mono (h : Answer cfg sent dispatched frames) (hsub : dispatched ⊆ dispatched') :
    Answer cfg sent dispatched' frames := by
  cases h with
  | silence => exact .silence
  | nack code hcode => exact .nack code hcode
  | pending k => exact .pending k
  | gaveUp hcap => exact .gaveUp hcap
  | final k d hmem hrequest response hresponse =>
      exact .final k d (hsub hmem) hrequest response hresponse

theorem Serving.mono {p2 : P2} {k : Nat} (h : Serving cfg sent dispatched p2 k)
    (hsub : dispatched ⊆ dispatched') : Serving cfg sent dispatched' p2 k := by
  refine ⟨h.point, h.count, h.cap, ?_⟩
  intro r hr
  obtain ⟨d, hmem, hrequest, heq⟩ := h.handler r hr
  exact ⟨d, hsub hmem, hrequest, heq⟩

/-- Nothing that was dispatched is forgotten. -/
theorem Turn.mono (h : Turn cfg sent dispatched s frames) (hsub : dispatched ⊆ dispatched') :
    Turn cfg sent dispatched' s frames := by
  cases h with
  | acked hpump hqueue hworker => exact .acked hpump hqueue hworker
  | queued hpump hqueue hworker => exact .queued hpump hqueue hworker
  | serving hpump hqueue st p2 hworker k hserving =>
      exact .serving hpump hqueue st p2 hworker k (hserving.mono hsub)
  | settled hrest _ hanswer => exact .settled hrest _ (hanswer.mono hsub)

theorem Turn.answer (h : Turn cfg sent dispatched s frames) :
    Answer cfg sent dispatched frames := by
  cases h with
  | acked _ _ _ => exact .pending 0
  | queued _ _ _ => exact .pending 0
  | serving _ _ _ _ _ k _ => exact .pending k
  | settled _ _ hanswer => exact hanswer

/-- The pump is past the activation in every turn. -/
theorem Turn.plain (h : Turn cfg sent dispatched s frames) : Plain s.pump := by
  cases h with
  | acked hpump _ _ =>
      rw [hpump]
      trivial
  | queued hpump _ _ => exact hpump.1
  | serving hpump _ _ _ _ _ _ => exact hpump.1
  | settled hrest _ _ => exact hrest.pump.1

theorem Mute.retreat {k k' : Worker} (h : Mute k) (hretreat : k.Retreats k') : Mute k' := by
  cases hretreat with
  | same => exact h
  | stopped => trivial
  | idle => trivial
  | doomed => trivial

/-- A worker that steps back from its request writes nothing more, unless it
has not moved. -/
theorem retreats_cases {k k' : Worker} (h : k.Retreats k') : k' = k ∨ Mute k' := by
  cases h with
  | same => exact .inl rfl
  | stopped => exact .inr trivial
  | idle => exact .inr trivial
  | doomed => exact .inr trivial

namespace Background

theorem idlePump (h : Background s s') (hpump : Plain s.pump ∧ ¬ s.pump.Promised) :
    Plain s'.pump ∧ ¬ s'.pump.Promised := by
  rcases h.pump with heq | hplain
  · rw [heq]
    exact hpump
  · exact hplain

theorem resting (h : Background s s') (hrest : Resting s) : Resting s' :=
  ⟨h.idlePump hrest.pump, h.queue.trans hrest.queue, hrest.worker.retreat h.worker⟩

theorem turn (h : Background s s') (hturn : Turn cfg sent dispatched s frames) :
    Turn cfg sent dispatched s' frames := by
  cases hturn with
  | acked hpump hqueue hworker =>
      have hmute := hworker.retreat h.worker
      rcases h.pump with heq | hplain
      · exact .acked (heq.trans hpump) (h.queue.trans hqueue) hmute
      · exact .settled ⟨hplain, h.queue.trans hqueue, hmute⟩ _ (.pending 0)
  | queued hpump hqueue hworker =>
      exact .queued (h.idlePump hpump) (h.queue.trans hqueue) (hworker.retreat h.worker)
  | serving hpump hqueue st p2 hworker k hserving =>
      rcases retreats_cases h.worker with heq | hmute
      · exact .serving (h.idlePump hpump) (h.queue.trans hqueue) st p2 (heq.trans hworker) k
          hserving
      · exact .settled ⟨h.idlePump hpump, h.queue.trans hqueue, hmute⟩ _ (.pending k)
  | settled hrest _ hanswer => exact .settled (h.resting hrest) _ hanswer

end Background

/-- The end of a dispatch moves nothing but the handler. -/
theorem finish_point {request : UdsRequest} {p2 p2' : P2} {result : Result}
    (h : p2Step cfg.uds request p2 (.finish result) = some p2') : p2'.point = p2.point := by
  simp only [p2Step, Option.ite_none_right_eq_some, Option.some.injEq] at h
  rw [← h.2]

/-- A worker that is sending its last frame has nothing more to write. -/
theorem resolve_sendingLast {request : UdsRequest} {p2 p2' : P2} {e : P2Event}
    (hpoint : p2.point = .sendingLast) (he : e.Own)
    (h : p2Step cfg.uds request p2 e = some p2') :
    p2'.point = .done ∧ p2'.emitted = p2.emitted := by
  cases e with
  | finish r => exact he.elim
  | window => simp [p2Step, hpoint] at h
  | timeout => simp [p2Step, hpoint] at h
  | sent =>
      simp only [p2Step, hpoint, Option.some.injEq] at h
      subst h
      exact ⟨rfl, rfl⟩
  | resume => simp [p2Step, hpoint] at h
  | cancel => exact he.elim

/-- What a step of `resolve_uds` leads to, after `k` promises. -/
inductive Resolves (cfg : EcuConfig) (sent : Bytes) (dispatched : List Dispatch)
    (p2 : P2) (k : Nat) (p2' : P2) : Prop
  /-- Nothing is written yet. -/
  | waits (h : Serving cfg sent dispatched p2' k) (hem : p2'.emitted = p2.emitted)
  | promises (h : Serving cfg sent dispatched p2' (k + 1))
      (hem : p2'.emitted = p2.emitted ++ [(requestOf cfg sent).negative nrcResponsePending])
  /-- The response is suppressed. -/
  | drops (hpoint : p2'.point = .done) (hem : p2'.emitted = p2.emitted)
  | givesUp (hpoint : p2'.point = .sendingLast) (hcap : cfg.uds.maxResponsePending ≠ 0)
      (hk : k = cfg.uds.maxResponsePending)
      (hem : p2'.emitted = p2.emitted ++ [(requestOf cfg sent).negative nrcGeneralReject])
  | responds (hpoint : p2'.point = .sendingLast) (d : Dispatch) (hmem : d ∈ dispatched)
      (hrequest : d.request = requestOf cfg sent) (response : Bytes)
      (hresponse : d.response cfg = some response)
      (hem : p2'.emitted = p2.emitted ++ [response])

namespace Serving

variable {p2 p2' : P2} {k : Nat}

theorem init (cfg : EcuConfig) (sent : Bytes) (dispatched : List Dispatch) :
    Serving cfg sent dispatched {} 0 :=
  ⟨.inl rfl, rfl, .inr (Nat.zero_le _), fun r hr => by cases hr⟩

/-- A dispatch of the request ends. -/
theorem finish {st : StateId} (h : Serving cfg sent dispatched p2 k)
    (hp2 : p2Step cfg.uds (requestOf cfg sent) p2
      (.finish (dispatch cfg (requestOf cfg sent) st core).2) = some p2') :
    Serving cfg sent (dispatched ++ [⟨requestOf cfg sent, st, core⟩]) p2' k := by
  simp only [p2Step, Option.ite_none_right_eq_some, Option.some.injEq] at hp2
  obtain ⟨_, rfl⟩ := hp2
  refine ⟨h.point, h.count, h.cap, ?_⟩
  intro r hr
  have hr' : (dispatch cfg (requestOf cfg sent) st core).2 = r := Option.some.inj hr
  exact ⟨⟨requestOf cfg sent, st, core⟩, by simp, rfl, hr'.symm⟩

/-- The timer of the window runs. -/
theorem window (h : Serving cfg sent dispatched p2 k)
    (hp2 : p2Step cfg.uds (requestOf cfg sent) p2 .window = some p2') :
    Resolves cfg sent dispatched p2 k p2' := by
  simp only [p2Step, Option.ite_none_right_eq_some, Option.some.injEq] at hp2
  obtain ⟨⟨hpoint, _, _⟩, rfl⟩ := hp2
  refine .waits ⟨.inr (.inl rfl), ?_, h.cap, h.handler⟩ rfl
  have hcount := h.count
  rw [if_neg (by simp [hpoint])] at hcount
  exact hcount

/-- The window has elapsed: one more promise, or the give-up at the cap. -/
theorem timeout (h : Serving cfg sent dispatched p2 k)
    (hp2 : p2Step cfg.uds (requestOf cfg sent) p2 .timeout = some p2') :
    Resolves cfg sent dispatched p2 k p2' := by
  simp only [p2Step, Option.ite_none_right_eq_some] at hp2
  obtain ⟨hpoint, hp2⟩ := hp2
  have hcount : k = p2.pendingSent := by
    have hcount := h.count
    rw [if_neg (by simp [hpoint])] at hcount
    exact hcount
  split at hp2
  · rename_i hgive
    cases hp2
    refine .givesUp rfl hgive.1 ?_ rfl
    have hle := hgive.2
    rcases h.cap with hcap | hcap
    · exact absurd hcap hgive.1
    · omega
  · rename_i hgive
    cases hp2
    refine .promises ⟨.inr (.inr rfl), ?_, ?_, h.handler⟩ rfl
    · show k + 1 = p2.pendingSent + 1
      rw [hcount]
    · by_cases hcap : cfg.uds.maxResponsePending = 0
      · exact .inl hcap
      · right
        omega

/-- The frame being sent is drained. -/
theorem drained (h : Serving cfg sent dispatched p2 k)
    (hp2 : p2Step cfg.uds (requestOf cfg sent) p2 .sent = some p2') :
    Resolves cfg sent dispatched p2 k p2' := by
  rcases h.point with hpoint | hpoint | hpoint
  · simp [p2Step, hpoint] at hp2
  · simp [p2Step, hpoint] at hp2
  · simp only [p2Step, hpoint, Option.some.injEq] at hp2
    subst hp2
    refine .waits ⟨.inl rfl, ?_, h.cap, h.handler⟩ rfl
    have hcount := h.count
    rw [if_pos hpoint] at hcount
    exact hcount

/-- The finished task wakes the waiter. -/
theorem resume (h : Serving cfg sent dispatched p2 k)
    (hp2 : p2Step cfg.uds (requestOf cfg sent) p2 .resume = some p2') :
    Resolves cfg sent dispatched p2 k p2' := by
  simp only [p2Step] at hp2
  -- the handler's result is that of a dispatch, which `final` names
  split at hp2
  · rename_i r _ hr
    obtain ⟨d, hmem, hrequest, heq⟩ := h.handler r hr
    rw [heq, ← hrequest] at hp2
    split at hp2
    · rename_i response hresponse
      cases hp2
      exact .responds rfl d hmem hrequest response hresponse rfl
    · cases hp2
      exact .drops rfl rfl
  · cases hp2

/-- **A step of `resolve_uds` at the request of a turn.** -/
theorem resolve {e : P2Event} (h : Serving cfg sent dispatched p2 k) (he : e.Own)
    (hp2 : p2Step cfg.uds (requestOf cfg sent) p2 e = some p2') :
    Resolves cfg sent dispatched p2 k p2' := by
  cases e with
  | finish r => exact he.elim
  | window => exact h.window hp2
  | timeout => exact h.timeout hp2
  | sent => exact h.drained hp2
  | resume => exact h.resume hp2
  | cancel => exact he.elim

end Serving

/-- A negative response fits into any header. -/
theorem udsFrames_negative (request : UdsRequest) (version nrc : UInt8) :
    udsFrames cfg request version [request.negative nrc]
      = [udsFrame cfg request version (request.negative nrc)] := by
  unfold udsFrames
  rw [List.filter_cons_of_pos (by simp [UdsRequest.negative]), List.filter_nil]
  rfl

/-- A response is written in its frame, or not at all. -/
theorem udsFrames_singleton (cfg : EcuConfig) (request : UdsRequest) (version : UInt8)
    (response : Bytes) :
    udsFrames cfg request version [response] = [udsFrame cfg request version response]
      ∨ udsFrames cfg request version [response] = [] := by
  unfold udsFrames
  by_cases hlen : (packH cfg.doip.ecuLogicalAddr ++ packH request.sourceAddr
      ++ response).length < 4294967296
  · rw [List.filter_cons_of_pos (by simpa using hlen)]
    exact .inl rfl
  · rw [List.filter_cons_of_neg (by simpa using hlen)]
    exact .inr rfl

theorem pendingFrames_succ (request : UdsRequest) (version : UInt8) (k : Nat) :
    pendingFrames cfg request version k
        ++ [udsFrame cfg request version (request.negative nrcResponsePending)]
      = pendingFrames cfg request version (k + 1) := by
  unfold pendingFrames
  rw [List.replicate_succ']

/-- The client hears every response. -/
theorem heard_udsFrames {request : UdsRequest} {version : UInt8} {responses : List Bytes}
    (h : s'.wire = s.wire ++ udsFrames cfg request version responses) :
    heard s' = heard s ++ udsFrames cfg request version responses := by
  rw [heard_append h]
  congr 1
  apply List.filter_eq_self.mpr
  intro frame hframe
  obtain ⟨response, _, rfl⟩ := List.mem_map.mp hframe
  unfold udsFrame
  rw [isDropped_buildFrame (by decide)]
  rfl

/-- The worker of a turn goes on. -/
theorem Turn.resolve {st : StateId} {p2 p2' : P2} {k : Nat}
    (hpump : Plain s'.pump ∧ ¬ s'.pump.Promised) (hqueue : s'.udsQueue = [])
    (h : Resolves cfg sent dispatched p2 k p2')
    (hworker : s'.worker = if p2'.point = .done then .idle
      else .serving (requestOf cfg sent) (sent.headD 0) st p2') :
    Turn cfg sent dispatched s' (ackFrame cfg sent
      :: pendingFrames cfg (requestOf cfg sent) (sent.headD 0) k
      ++ udsFrames cfg (requestOf cfg sent) (sent.headD 0)
          (p2'.emitted.drop p2.emitted.length)) := by
  -- nothing emitted is nothing written
  have hnone : udsFrames cfg (requestOf cfg sent) (sent.headD 0) [] = [] := rfl
  have hserves : ∀ {k : Nat}, Serving cfg sent dispatched p2' k →
      s'.worker = .serving (requestOf cfg sent) (sent.headD 0) st p2' := by
    intro k hserving
    rw [hworker, if_neg]
    rcases hserving.point with hp | hp | hp <;> simp [hp]
  -- behind its last frame the worker is mute
  have hrest : p2'.point = .sendingLast → Resting s' := by
    intro hpoint
    refine ⟨hpump, hqueue, ?_⟩
    rw [hworker, if_neg (by simp [hpoint])]
    exact hpoint
  cases h with
  -- nothing is written, and the call goes on
  | waits hserving hem =>
      rw [hem, List.drop_length, hnone, List.append_nil]
      exact .serving hpump hqueue st p2' (hserves hserving) k hserving
  | promises hserving hem =>
      rw [hem, List.drop_left, udsFrames_negative, List.cons_append, pendingFrames_succ]
      exact .serving hpump hqueue st p2' (hserves hserving) (k + 1) hserving
  | drops hpoint hem =>
      -- the call is over without a word
      rw [hem, List.drop_length, hnone, List.append_nil]
      exact .settled ⟨hpump, hqueue, by rw [hworker, if_pos hpoint]; trivial⟩ _ (.pending k)
  | givesUp hpoint hcap hk hem =>
      rw [hem, List.drop_left, udsFrames_negative, hk]
      exact .settled (hrest hpoint) _ (.gaveUp hcap)
  | responds hpoint d hmem hrequest response hresponse hem =>
      rw [hem, List.drop_left]
      -- written in one frame, or too long for a header
      rcases udsFrames_singleton cfg (requestOf cfg sent) (sent.headD 0) response with hone | hno
      · rw [hone]
        exact .settled (hrest hpoint) _ (.final k d hmem hrequest response hresponse)
      · rw [hno, List.append_nil]
        exact .settled (hrest hpoint) _ (.pending k)

/-- The last frame of a worker is drained. -/
theorem Mute.resolve {request : UdsRequest} {version : UInt8} {st : StateId} {p2 p2' : P2}
    {e : P2Event} (h : Mute s.worker) (hserving : s.worker = .serving request version st p2)
    (hevent : e.Own) (hp2 : p2Step cfg.uds request p2 e = some p2')
    (hworker : s'.worker = if p2'.point = .done then .idle else .serving request version st p2')
    (hwire : s'.wire = s.wire
      ++ udsFrames cfg request version (p2'.emitted.drop p2.emitted.length)) :
    heard s' = heard s ∧ Mute s'.worker := by
  rw [hserving] at h
  obtain ⟨hdone, hem⟩ := resolve_sendingLast h hevent hp2
  rw [hem, List.drop_length] at hwire
  refine ⟨heard_of_wire (hwire.trans (List.append_nil _)), ?_⟩
  rw [hworker, if_pos hdone]
  trivial

/-- A dispatch that ends does not make a worker speak again. -/
theorem Mute.finish {request : UdsRequest} {version : UInt8} {st : StateId} {p2 p2' : P2}
    {result : Result} (h : Mute s.worker) (hserving : s.worker = .serving request version st p2)
    (hp2 : p2Step cfg.uds request p2 (.finish result) = some p2') :
    Mute (.serving request version st p2') := by
  rw [hserving] at h
  exact (finish_point hp2).trans h

/-- **A socket at rest stays so**, while it reads no request. -/
theorem Resting.step {e : Event} (h : Resting s) (hmove : Move cfg core s i e s')
    (he : ∀ raw, e = .frame i raw → ptype raw ≠ ptDiagnosticMessage) :
    heard s' = heard s ∧ Resting s' := by
  cases hmove with
  -- the turn is over: nothing more can come of it
  | background e _ _ hb => exact ⟨hb.heard, hb.resting h⟩
  | refused raw _ htype _ => exact absurd htype (he raw rfl)
  | acked raw htype => exact absurd htype (he raw rfl)
  -- a pump that has nothing to hand over queues nothing
  | queued request version hpump => exact absurd (by rw [hpump]; trivial) h.pump.2
  | busy request version _ hpump _ => exact absurd (by rw [hpump]; trivial) h.pump.2
  | took request version rest worker hqueue _ =>
      have hempty := h.queue
      rw [hqueue] at hempty
      cases hempty
  | dispatched request version st p2 p2' hserving hp2 =>
      exact ⟨rfl, h.pump, h.queue, h.worker.finish hserving hp2⟩
  | resolved e request version st p2 p2' hserving hevent hp2 _ hqueue hpump hworker hwire =>
      have hmute := h.worker.resolve hserving hevent hp2 hworker hwire
      exact ⟨hmute.1, hpump ▸ h.pump, hqueue.trans h.queue, hmute.2⟩

/-- **A step does not leave the turn**, if it reads no further request. -/
theorem Turn.step {e : Event} (h : Turn cfg sent dispatched s frames)
    (hmove : Move cfg core s i e s')
    (he : ∀ raw, e = .frame i raw → ptype raw ≠ ptDiagnosticMessage) :
    ∃ more, heard s' = heard s ++ more
      ∧ Turn cfg sent (dispatched ++ dispatches core s i e) s' (frames ++ more) := by
  have hgoes : ∀ {s' : Session} (more : List Bytes), heard s' = heard s ++ more →
      -- what a step adds to the dispatches takes nothing from the turn
      Turn cfg sent dispatched s' (frames ++ more) →
      ∃ more, heard s' = heard s ++ more
        ∧ Turn cfg sent (dispatched ++ dispatches core s i e) s' (frames ++ more) :=
    fun more hheard hturn => ⟨more, hheard, hturn.mono (List.subset_append_left _ _)⟩
  have hsame : ∀ {s' : Session}, heard s' = heard s → Turn cfg sent dispatched s' frames →
      ∃ more, heard s' = heard s ++ more
        ∧ Turn cfg sent (dispatched ++ dispatches core s i e) s' (frames ++ more) := by
    intro s' hheard hturn
    refine hgoes [] ?_ ?_
    · rw [hheard, List.append_nil]
    · rw [List.append_nil]
      exact hturn
  -- a turn that is over is a socket at rest
  have hkeep : Resting s → heard s' = heard s ∧ Resting s' := fun hrest => hrest.step hmove he
  cases hmove with
  | background e _ _ hb => exact hsame hb.heard (hb.turn h)
  | refused raw _ htype _ => exact absurd htype (he raw rfl)
  | acked raw htype => exact absurd htype (he raw rfl)
  | queued request version hpump =>
      cases h with
      | acked hpump' hqueue hworker =>
          rw [hpump] at hpump'
          cases hpump'
          refine hsame rfl (.queued ⟨trivial, id⟩ ?_ hworker)
          -- a socket whose turn has not begun has an empty queue
          show s.udsQueue ++ _ = _
          rw [hqueue]
          rfl
      | queued hplain _ _ => exact absurd (by rw [hpump]; trivial) hplain.2
      | serving hplain _ _ _ _ _ _ => exact absurd (by rw [hpump]; trivial) hplain.2
      | settled hrest _ hanswer => exact hsame (hkeep hrest).1 (.settled (hkeep hrest).2 _ hanswer)
  | busy request version _ hpump hfull =>
      cases h with
      | acked _ hqueue _ =>
          -- the queue has room for the only request there is
          rw [hqueue] at hfull
          cases hfull
      | queued hplain _ _ => exact absurd (by rw [hpump]; trivial) hplain.2
      | serving hplain _ _ _ _ _ _ => exact absurd (by rw [hpump]; trivial) hplain.2
      | settled hrest _ hanswer => exact hsame (hkeep hrest).1 (.settled (hkeep hrest).2 _ hanswer)
  | took request version rest worker hqueue hw =>
      cases h with
      -- the request is not in the queue before it is handed over
      | acked _ hempty _ =>
          rw [hqueue] at hempty
          cases hempty
      | queued hplain hone _ =>
          rw [hqueue] at hone
          cases hone
          rcases hw with rfl | ⟨st, rfl⟩
          -- without a state the request is dropped, and the turn is over
          · refine hsame rfl (.settled ?_ _ (.pending 0))
            exact { pump := hplain, queue := rfl, worker := trivial }
          · refine hsame rfl ?_
            refine .serving ?_ rfl st {} rfl 0 (.init cfg sent dispatched)
            exact hplain
      | serving _ hempty _ _ _ _ _ =>
          rw [hqueue] at hempty
          cases hempty
      | settled hrest _ hanswer => exact hsame (hkeep hrest).1 (.settled (hkeep hrest).2 _ hanswer)
  | dispatched request version st p2 p2' hserving hp2 =>
      cases h with
      -- the worker is still at the last frame of the turn before
      | acked hpump hqueue hworker =>
          exact hsame rfl (.acked hpump hqueue (hworker.finish hserving hp2))
      | queued hplain hqueue hworker =>
          exact hsame rfl (.queued hplain hqueue (hworker.finish hserving hp2))
      | serving hplain hqueue st' q hworker k hq =>
          rw [hserving] at hworker
          cases hworker
          -- the dispatch of this very request is the one that is recorded
          have hrecord : dispatches core s i (.dispatch i) = [⟨requestOf cfg sent, st, core⟩] := by
            simp [dispatches, hserving]
          refine ⟨[], (List.append_nil _).symm, ?_⟩
          rw [List.append_nil, hrecord]
          refine .serving ?_ ?_ st p2' ?_ k (hq.finish hp2)
          · exact hplain
          · exact hqueue
          · rfl
      | settled hrest _ hanswer => exact hsame (hkeep hrest).1 (.settled (hkeep hrest).2 _ hanswer)
  | resolved e request version st p2 p2' hserving hevent hp2 _ hqueue hpump hworker hwire =>
      have hmute : Mute s.worker → heard s' = heard s ∧ Mute s'.worker :=
        fun hm => hm.resolve hserving hevent hp2 hworker hwire
      cases h with
      -- it drains that frame, and says no more
      | acked hp hq hk =>
          exact hsame (hmute hk).1 (.acked (hpump.trans hp) (hqueue.trans hq) (hmute hk).2)
      | queued hp hq hk =>
          exact hsame (hmute hk).1 (.queued (hpump ▸ hp) (hqueue.trans hq) (hmute hk).2)
      | serving hp hq st' q hk k hturn =>
          rw [hserving] at hk
          cases hk
          -- what the call emits is what the client hears
          exact hgoes _ (heard_udsFrames hwire)
            (.resolve (hpump ▸ hp) (hqueue.trans hq) (hturn.resolve hevent hp2) hworker)
      | settled hrest _ hanswer => exact hsame (hkeep hrest).1 (.settled (hkeep hrest).2 _ hanswer)

/-- **A request opens a turn** of a socket at rest. -/
theorem Resting.reads (h : Resting s) (hmove : Move cfg core s i (.frame i sent) s')
    (htype : ptype sent = ptDiagnosticMessage) :
    ∃ frames, heard s' = heard s ++ frames ∧ Turn cfg sent dispatched s' frames := by
  cases hmove with
  | background _ _ hno _ => exact absurd htype (hno sent rfl)
  | refused _ _ _ hr =>
      have hrest : Resting s' := ⟨hr.pump, hr.queue.trans h.queue, hr.worker ▸ h.worker⟩
      rcases hr.heard with hheard | ⟨code, hcode, hheard⟩
      · exact ⟨[], by rw [hheard, List.append_nil], .settled hrest _ .silence⟩
      · exact ⟨_, hheard, .settled hrest _ (.nack code hcode)⟩
  | acked _ _ =>
      refine ⟨[ackFrame cfg sent], ?_, .acked rfl h.queue h.worker⟩
      exact heard_passed (by decide) (by decide) rfl

end DoipPlayground.Interop
