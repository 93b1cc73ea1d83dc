/-
  DoipPlayground.Interop.Completion
  ─────────────────────────────────
  **AN ANSWER IN TIME COMPLETES THE EXCHANGE**, unless it reads as a promise.

  One exchange whose ECU is a VirtualEcu without plugins: a Positive ACK,
  any number of `7F <sid> 78`, and what the dispatcher finally makes of the
  request.  The ACK and the frame behind it come within the timeout of one
  frame; behind a promise, waits may elapse before the next frame comes.  All
  of it arrives within the budget.

    • `Arrival` — how a frame comes,
    • `Waiting` — the exchange waits for a frame,
    • `step_ack`, `step_pending`, `step_final` — the three kinds of frames,
    • `answer_completes` — when the leg is kept.
-/
import Mathlib.Algebra.GroupWithZero.Nat
import DoipPlayground.EdgeNode.ExchangeOutcome
import DoipPlayground.Interop.FinalResponse
import DoipPlayground.Interop.Turns

namespace DoipPlayground.Interop

open Wire VirtualEcu
open EdgeNode.Outcome (Call Exchange Outgoing)

variable {edge : EdgeNode.Outcome.Config} {x : Call} {e : Exchange} {ecu : EcuConfig}

/-! ## §1. Waiting for a frame. -/

/-- How a frame comes: after waits that elapse, each with how late that was
noticed, and `ticks` into the wait that it ends. -/
structure Arrival where
  waits : List Nat := []
  ticks : Nat
  late : Nat := 0

namespace Arrival

/-- What the exchange sees of it. -/
def events (raw : Bytes) (a : Arrival) : List EdgeNode.Outcome.Event :=
  a.waits.map (.timeout · false) ++ [.frame raw a.ticks a.late]

/-- How long that takes. -/
def span (edge : EdgeNode.Outcome.Config) (a : Arrival) : Nat :=
  (a.waits.map (edge.ecuResponseTimeout + ·)).sum + (a.ticks + a.late)

end Arrival

/-- The frames come one after the other. -/
def arrivals (frames : List Bytes) (as : List Arrival) : List EdgeNode.Outcome.Event :=
  (List.zipWith Arrival.events frames as).flatten

/-- How long that takes. -/
def total (edge : EdgeNode.Outcome.Config) (as : List Arrival) : Nat :=
  (as.map (Arrival.span edge)).sum

theorem arrivals_cons (raw : Bytes) (frames : List Bytes) (a : Arrival) (as : List Arrival) :
    arrivals (raw :: frames) (a :: as) = a.events raw ++ arrivals frames as := by
  unfold arrivals
  rw [List.zipWith_cons_cons, List.flatten_cons]

theorem total_cons (a : Arrival) (as : List Arrival) :
    total edge (a :: as) = a.span edge + total edge as := by
  unfold total
  rw [List.map_cons, List.sum_cons]

/-- The exchange waits, with time left until `deadline`; `promised` says that
it has been sent a promise. -/
structure Waiting (x : Call) (deadline now : Nat) (accepted promised : Bool)
    (written : List Outgoing) (ecuConn : Option EdgeNode.Ecu.ConnId) (e : Exchange) : Prop where
  phase : e.phase = .receiving
  deadline : e.deadline = deadline
  now : e.now = now
  accepted : e.accepted = accepted
  promised : promised = true → e.pendingSeen = true
  written : e.written = written
  ecuConn : e.session.ecuConn = ecuConn
  readOwner : e.session.readOwner = some x.conn

variable {deadline now ticks late : Nat} {accepted promised : Bool} {written : List Outgoing}
  {raw : Bytes} {ecuConn : Option EdgeNode.Ecu.ConnId}

/-- At the head of the loop with time left and no read of another leg. -/
theorem loopHead_waits {d : Exchange}
    (hread : d.session.readOwner = none ∨ d.session.readOwner = some x.conn)
    (hdeadline : d.deadline = deadline) (hnow : d.now = now) (haccepted : d.accepted = accepted)
    (hpromised : promised = true → d.pendingSeen = true)
    (hwritten : d.written = written) (hconn : d.session.ecuConn = ecuConn)
    (htime : now < deadline) :
    Waiting x deadline now accepted promised written ecuConn (d.loopHead x) := by
  unfold EdgeNode.Outcome.Exchange.loopHead
  rw [if_neg (by omega)]
  rcases hread with hread | hread
  · rw [hread]
    exact ⟨rfl, hdeadline, hnow, haccepted, hpromised, hwritten, hconn, rfl⟩
  · rw [hread]
    dsimp only
    rw [if_pos rfl]
    exact ⟨rfl, hdeadline, hnow, haccepted, hpromised, hwritten, hconn, hread⟩

variable (edge) in
/-- A wait that elapses behind a promise. -/
theorem step_wait (h : Waiting x deadline now accepted true written ecuConn e) (late : Nat)
    (htime : now + (edge.ecuResponseTimeout + late) < deadline) :
    ∃ e', EdgeNode.Outcome.step edge x e (.timeout late false) = some e'
      ∧ Waiting x deadline (now + (edge.ecuResponseTimeout + late)) accepted true written ecuConn
        e' := by
  -- there is more left of the budget than this wait
  have hwait : e.wait edge = edge.ecuResponseTimeout := by
    unfold Exchange.wait Exchange.remaining
    rw [h.deadline, h.now]
    omega
  have hstep : EdgeNode.Outcome.step edge x e (.timeout late false)
      = some (((e.elapse (e.wait edge + late)).collect false).loopHead x) := by
    show (if e.phase = .receiving then _ else _) = _
    rw [if_pos h.phase, if_pos (h.promised rfl)]
  refine ⟨_, hstep, loopHead_waits (.inr h.readOwner) h.deadline ?_ h.accepted h.promised h.written
    h.ecuConn htime⟩
  show e.now + (e.wait edge + late) = _
  rw [hwait, h.now]

variable (edge) in
/-- Any number of them. -/
theorem exec_waits (waits : List Nat) :
    ∀ {now : Nat} {e : Exchange}, Waiting x deadline now accepted true written ecuConn e →
      now + (waits.map (edge.ecuResponseTimeout + ·)).sum < deadline →
      ∃ e', Transition.exec (EdgeNode.Outcome.step edge x) e (waits.map (.timeout · false))
          = some e'
        ∧ Waiting x deadline (now + (waits.map (edge.ecuResponseTimeout + ·)).sum) accepted true
          written ecuConn e' := by
  induction waits with
  | nil =>
      intro now e h _
      exact ⟨e, rfl, h⟩
  | cons late waits ih =>
      intro now e h htime
      rw [List.map_cons, List.sum_cons] at htime
      obtain ⟨e', hstep, hwaiting⟩ := step_wait edge h late (by omega)
      obtain ⟨e'', hrest, hdone⟩ := ih hwaiting (by omega)
      refine ⟨e'', Transition.exec_cons_eq_some.mpr ⟨e', hstep, hrest⟩, ?_⟩
      rw [List.map_cons, List.sum_cons, ← Nat.add_assoc]
      exact hdone

/-- The frame comes: in time for its wait, and behind others only if there was
a promise. -/
structure InTime (edge : EdgeNode.Outcome.Config) (promised : Bool) (a : Arrival) : Prop where
  ticks : a.ticks ≤ edge.ecuResponseTimeout
  waits : promised = false → a.waits = []

/-- The waits of an arrival, up to the one that its frame ends. -/
theorem exec_arrival {a : Arrival} (h : Waiting x deadline now accepted promised written ecuConn e)
    (ha : InTime edge promised a) (htime : now + a.span edge < deadline) :
    ∃ e' now', Transition.exec (EdgeNode.Outcome.step edge x) e (a.waits.map (.timeout · false))
        = some e'
      ∧ Waiting x deadline now' accepted promised written ecuConn e'
      ∧ now' + (a.ticks + a.late) = now + a.span edge ∧ a.ticks ≤ e'.wait edge := by
  unfold Arrival.span at htime ⊢
  have hfits : ∀ {now' : Nat} {e' : Exchange},
      Waiting x deadline now' accepted promised written ecuConn e' →
      now' + (a.ticks + a.late) < deadline → a.ticks ≤ e'.wait edge := by
    intro now' e' hwaiting hlt
    have hticks := ha.ticks
    unfold Exchange.wait Exchange.remaining
    rw [hwaiting.deadline, hwaiting.now]
    omega
  cases promised with
  | false =>
      rw [ha.waits rfl] at htime ⊢
      simp only [List.map_nil, List.sum_nil, Nat.zero_add] at htime ⊢
      exact ⟨e, now, rfl, h, rfl, hfits h htime⟩
  | true =>
      obtain ⟨e', hexec, hwaiting⟩ := exec_waits edge a.waits h (by omega)
      exact ⟨e', _, hexec, hwaiting, by omega, hfits hwaiting (by omega)⟩

/-- A step that takes a frame. -/
theorem step_frame (h : Waiting x deadline now accepted promised written ecuConn e) (raw : Bytes)
    (hticks : ticks ≤ e.wait edge) (late : Nat) :
    EdgeNode.Outcome.step edge x e (.frame raw ticks late)
      = some (Exchange.handleEcuFrame x { (e.elapse (ticks + late)).collect true with
          received := e.received ++ [raw] } edge raw) :=
  if_pos ⟨h.phase, hticks⟩

/-- The Positive ACK is relayed. -/
theorem step_ack (h : Waiting x deadline now false promised written ecuConn e)
    (htype : EdgeNode.ptype raw = EdgeNode.ptDiagnosticPositiveAck)
    (hticks : ticks ≤ e.wait edge) (htime : now + (ticks + late) < deadline) :
    ∃ e', EdgeNode.Outcome.step edge x e (.frame raw ticks late) = some e'
      ∧ Waiting x deadline (now + (ticks + late)) true promised (written ++ [.relayed raw]) ecuConn
        e' := by
  have haccepted : ¬ e.accepted = true := by simp [h.accepted]
  refine ⟨_, step_frame h raw hticks late, ?_⟩
  unfold Exchange.handleEcuFrame
  rw [if_pos htype]
  show Waiting _ _ _ _ _ _ _ (if e.accepted = true then _ else _)
  rw [if_neg haccepted]
  have hwritten : e.written ++ [.relayed raw] = written ++ [.relayed raw] := by rw [h.written]
  exact loopHead_waits (.inl rfl) h.deadline (congrArg (· + (ticks + late)) h.now) rfl h.promised
    hwritten h.ecuConn htime

/-- A promise for the request is relayed, and the exchange goes on. -/
theorem step_pending (h : Waiting x deadline now true promised written ecuConn e)
    (hmatch : EdgeNode.Outcome.MatchingPending x raw) (hticks : ticks ≤ e.wait edge)
    (htime : now + (ticks + late) < deadline) :
    ∃ e', EdgeNode.Outcome.step edge x e (.frame raw ticks late) = some e'
      ∧ Waiting x deadline (now + (ticks + late)) true true (written ++ [.relayed raw]) ecuConn
        e' := by
  have htype := EdgeNode.Outcome.ptype_of_pending hmatch.1
  have hmatches := hmatch.responseMatches edge.strictResponseMatching
  have hpending : (EdgeNode.Ecu.isResponsePending raw && x.requestSid.isSome
      && raw[13]? == x.requestSid) = true := by
    rw [hmatch.1, hmatch.2.1, hmatch.2.2]
    simp
  refine ⟨_, step_frame h raw hticks late, ?_⟩
  unfold Exchange.handleEcuFrame
  rw [if_neg (by rw [htype]; decide), if_pos htype, if_neg (by rw [hmatches]; simp)]
  dsimp only
  rw [if_pos hpending]
  have hwritten : e.written ++ [.relayed raw] = written ++ [.relayed raw] := by rw [h.written]
  exact loopHead_waits (.inl rfl) h.deadline (congrArg (· + (ticks + late)) h.now) rfl
    (fun _ => rfl) hwritten h.ecuConn htime

/-- Any other response to the request is relayed.  It completes the exchange
if it does not read as a promise. -/
theorem step_final (h : Waiting x deadline now true promised written ecuConn e)
    (htype : EdgeNode.ptype raw = EdgeNode.ptDiagnosticMessage)
    (hmatches : EdgeNode.Ecu.responseMatches edge.strictResponseMatching raw x.requestSid = true)
    (hticks : ticks ≤ e.wait edge) (htime : now + (ticks + late) < deadline) :
    ∃ e', EdgeNode.Outcome.step edge x e (.frame raw ticks late) = some e'
      ∧ e'.written = written ++ [.relayed raw]
      ∧ (e'.phase = .returned true ↔ EdgeNode.Ecu.isResponsePending raw = false)
      ∧ (e'.phase = .returned true → e'.session.ecuConn = ecuConn) := by
  by_cases hmatch : EdgeNode.Outcome.MatchingPending x raw
  · obtain ⟨e', hstep, hwaiting⟩ := step_pending h hmatch hticks htime
    refine ⟨e', hstep, hwaiting.written, ?_, fun _ => hwaiting.ecuConn⟩
    rw [hwaiting.phase, hmatch.1]
    simp
  · refine ⟨_, step_frame h raw hticks late, ?_⟩
    unfold Exchange.handleEcuFrame
    have hno : ¬ (EdgeNode.Ecu.isResponsePending raw && x.requestSid.isSome
        && raw[13]? == x.requestSid) = true := by
      intro hall
      simp only [Bool.and_eq_true, beq_iff_eq] at hall
      exact hmatch ⟨hall.1.1, hall.1.2, hall.2⟩
    rw [if_neg (by rw [htype]; decide), if_pos htype, if_neg (by rw [hmatches]; simp)]
    dsimp only
    rw [if_neg hno, ← h.written, ← h.ecuConn]
    refine ⟨rfl, ?_, ?_⟩
    · show EdgeNode.Outcome.Phase.returned (!EdgeNode.Ecu.isResponsePending raw) = _ ↔ _
      simp
    · intro hphase
      have hcompleted : (!EdgeNode.Ecu.isResponsePending raw) = true :=
        EdgeNode.Outcome.Phase.returned.inj hphase
      show (if (!EdgeNode.Ecu.isResponsePending raw) = true then _ else _ :
        EdgeNode.Outcome.Session).ecuConn = _
      rw [if_pos hcompleted]
      rfl

/-! ## §2. The whole answer. -/

/-- `sent_bytes[12]` is the SID of the request. -/
theorem requestSid_eq (hne : (requestOf ecu x.sentBytes).raw ≠ []) :
    x.requestSid = some (requestOf ecu x.sentBytes).sid := by
  have hraw : (requestOf ecu x.sentBytes).raw = x.sentBytes.drop 12 := by
    show ((x.sentBytes.drop 8).drop 4) = _
    rw [List.drop_drop]
  have hhead : x.sentBytes[12]? = (requestOf ecu x.sentBytes).raw.head? := by
    rw [hraw, List.head?_drop]
  show x.sentBytes[12]? = _
  rw [hhead]
  unfold UdsRequest.sid
  cases h : (requestOf ecu x.sentBytes).raw with
  | nil => exact absurd h hne
  | cons a rest => rfl

/-- Every `7F <sid> 78` is a promise for the request. -/
theorem matchingPending (hne : (requestOf ecu x.sentBytes).raw ≠ []) (version : UInt8)
    {k : Nat} {frame : Bytes}
    (h : frame ∈ pendingFrames ecu (requestOf ecu x.sentBytes) version k) :
    EdgeNode.Outcome.MatchingPending x frame := by
  rw [List.eq_of_mem_replicate h]
  have hsid := requestSid_eq hne
  refine ⟨?_, by rw [hsid]; rfl, ?_⟩
  · refine (isResponsePending_responseFrame version _).trans ?_
    simp [VirtualEcu.isResponsePending, UdsRequest.negative]
  · exact (responseFrame_getElem? ecu (requestOf ecu x.sentBytes) version _ 1).trans hsid.symm

/-- A frame behind its waits. -/
theorem exec_events {e' e'' : Exchange} {a : Arrival}
    (hwaits : Transition.exec (EdgeNode.Outcome.step edge x) e (a.waits.map (.timeout · false))
      = some e')
    (hframe : EdgeNode.Outcome.step edge x e' (.frame raw a.ticks a.late) = some e'') :
    Transition.exec (EdgeNode.Outcome.step edge x) e (a.events raw) = some e'' :=
  Transition.exec_append_eq_some.mpr
    ⟨e', hwaits, Transition.exec_cons_eq_some.mpr ⟨e'', hframe, rfl⟩⟩

/-- All that come are in time; before the first promise none is behind a wait
that elapsed. -/
def AllInTime (edge : EdgeNode.Outcome.Config) (promised : Bool) (as : List Arrival) : Prop :=
  (∀ a ∈ as, a.ticks ≤ edge.ecuResponseTimeout)
    ∧ (promised = false → ∀ a ∈ as.take 1, a.waits = [])

theorem AllInTime.head {a : Arrival} {as : List Arrival} (h : AllInTime edge promised (a :: as)) :
    InTime edge promised a :=
  ⟨h.1 a (List.mem_cons_self ..), fun hno => h.2 hno a (by simp)⟩

theorem AllInTime.tail {a : Arrival} {as : List Arrival} (h : AllInTime edge promised (a :: as)) :
    AllInTime edge true as :=
  ⟨fun b hb => h.1 b (List.mem_cons_of_mem _ hb), fun hno => by cases hno⟩

variable (edge) in
/-- A run of promises. -/
theorem exec_pendings (frames : List Bytes) :
    ∀ {now : Nat} {promised : Bool} {written : List Outgoing} {e : Exchange} (as rest : List Arrival),
      Waiting x deadline now true promised written ecuConn e →
      (∀ frame ∈ frames, EdgeNode.Outcome.MatchingPending x frame) →
      as.length = frames.length → AllInTime edge promised (as ++ rest) →
      now + total edge as < deadline →
      ∃ e' promised', Transition.exec (EdgeNode.Outcome.step edge x) e (arrivals frames as)
          = some e'
        ∧ Waiting x deadline (now + total edge as) true promised'
          (written ++ frames.map .relayed) ecuConn e'
        ∧ AllInTime edge promised' rest := by
  induction frames with
  | nil =>
      intro now promised written e as rest h _ hlen hin _
      have has : as = [] := List.length_eq_zero_iff.mp hlen
      subst has
      exact ⟨e, promised, rfl, by simpa [total] using h, hin⟩
  | cons frame frames ih =>
      intro now promised written e as rest h hall hlen hin htime
      obtain ⟨a, as, rfl⟩ := List.exists_cons_of_length_eq_add_one hlen
      rw [List.cons_append] at hin
      rw [total_cons] at htime ⊢
      obtain ⟨d, now', hwaits, hwaiting', hnow, hticks⟩ := exec_arrival h hin.head (by omega)
      have hleft : now' + (a.ticks + a.late) < deadline := by omega
      obtain ⟨e', hstep, hwaiting⟩ :=
        step_pending hwaiting' (hall frame (List.mem_cons_self ..)) hticks hleft
      rw [hnow] at hwaiting
      obtain ⟨e'', promised', hrest, hdone, hin'⟩ := ih as rest hwaiting
        (fun f hf => hall f (List.mem_cons_of_mem _ hf)) (Nat.succ.inj hlen) hin.tail (by omega)
      refine ⟨e'', promised', ?_, ?_, hin'⟩
      · rw [arrivals_cons]
        exact Transition.exec_append_eq_some.mpr ⟨e', exec_events hwaits hstep, hrest⟩
      · rw [← Nat.add_assoc]
        simpa using hdone

/-- The frames of a VirtualEcu without plugins for one request, with `k`
promises: the last response is there if the dispatcher has one and the
header can carry it. -/
def answerFrames (ecu : EcuConfig) (sent : Bytes) (st : StateId) (c : EcuCore) (k : Nat) :
    List Bytes :=
  ackFrame ecu sent :: (pendingFrames ecu (requestOf ecu sent) (sent.headD 0) k
    ++ udsFrames ecu (requestOf ecu sent) (sent.headD 0)
        (finalResponse ecu (requestOf ecu sent) st c).toList)

variable (edge x now ticks late) in
/-- The exchange that has sent its request waits for the ECU. -/
theorem step_sent {session : EdgeNode.Outcome.Session}
    (hread : ∀ owner, session.readOwner = some owner → owner = x.conn)
    (htime : ticks + late < edge.ecuPendingMaxWait) :
    ∃ e, EdgeNode.Outcome.step edge x (EdgeNode.Outcome.start edge session now) (.sent ticks late)
        = some e
      ∧ Waiting x (now + edge.ecuPendingMaxWait) (now + (ticks + late)) false false []
        session.ecuConn e := by
  have hleft : ticks ≤ (EdgeNode.Outcome.start edge session now).remaining := by
    show ticks ≤ now + edge.ecuPendingMaxWait - now
    omega
  have hstep : EdgeNode.Outcome.step edge x (EdgeNode.Outcome.start edge session now)
      (.sent ticks late)
      = some (((EdgeNode.Outcome.start edge session now).elapse (ticks + late)).loopHead x) :=
    if_pos ⟨rfl, hleft⟩
  refine ⟨_, hstep, loopHead_waits ?_ rfl rfl rfl (fun hno => by cases hno) rfl rfl (by omega)⟩
  show session.readOwner = none ∨ session.readOwner = some x.conn
  cases howner : session.readOwner with
  | none => exact .inl rfl
  | some owner => exact .inr (congrArg some (hread owner howner))

variable (edge) in
/-- What comes after the promises. -/
theorem exec_last (hne : (requestOf ecu x.sentBytes).raw ≠ []) (st : StateId) (c : EcuCore)
    (h : Waiting x deadline now true promised written ecuConn e) (version : UInt8)
    (as : List Arrival) (hin : AllInTime edge promised as)
    (hlen : as.length = (udsFrames ecu (requestOf ecu x.sentBytes) version
      (finalResponse ecu (requestOf ecu x.sentBytes) st c).toList).length)
    (htime : now + total edge as < deadline) :
    ∃ e', Transition.exec (EdgeNode.Outcome.step edge x) e
        (arrivals (udsFrames ecu (requestOf ecu x.sentBytes) version
          (finalResponse ecu (requestOf ecu x.sentBytes) st c).toList) as) = some e'
      ∧ e'.written = written ++ (udsFrames ecu (requestOf ecu x.sentBytes) version
          (finalResponse ecu (requestOf ecu x.sentBytes) st c).toList).map .relayed
      ∧ (e'.phase = .returned true ↔
        (∃ response, finalResponse ecu (requestOf ecu x.sentBytes) st c = some response
          ∧ udsFrames ecu (requestOf ecu x.sentBytes) version [response] ≠ [])
        ∧ ¬ AnswersPending ecu (requestOf ecu x.sentBytes) (c.states st) c.data)
      ∧ (e'.phase = .returned true → e'.session.ecuConn = ecuConn) := by
  have hwaits : e.phase ≠ .returned true := by
    rw [h.phase]
    simp
  have hnothing : written ++ ([] : List Bytes).map Outgoing.relayed = written :=
    List.append_nil _
  -- no final response: the arrivals are empty and the exchange goes on waiting
  cases hfinal : finalResponse ecu (requestOf ecu x.sentBytes) st c with
  | none =>
      refine ⟨e, rfl, h.written.trans hnothing.symm, iff_of_false hwaits ?_,
        fun hphase => absurd hphase hwaits⟩
      rintro ⟨⟨response, hresponse, _⟩, _⟩
      cases hresponse
  | some response =>
      rw [hfinal] at hlen
      rw [Option.toList_some] at hlen ⊢
      -- a response is one frame, or none when it cannot be framed
      rcases udsFrames_singleton ecu (requestOf ecu x.sentBytes) version response with
        hframes | hframes
      · rw [hframes] at hlen ⊢
        obtain ⟨a, rfl⟩ := List.length_eq_one_iff.mp hlen
        rw [total_cons] at htime
        have hclass := final_response_classified ecu (requestOf ecu x.sentBytes) hne st c
          version response hfinal
        -- both sides read the same request byte
        have hsid : (requestOf ecu x.sentBytes).raw.head? = x.requestSid := by
          rw [requestSid_eq hne]
          unfold UdsRequest.sid
          cases hraw : (requestOf ecu x.sentBytes).raw with
          | nil => exact absurd hraw hne
          | cons a rest => rfl
        have hmatches := hclass.1 edge.strictResponseMatching
        rw [hsid] at hmatches
        -- the frame arrives within the deadline, so the wait has not run out
        obtain ⟨d, now', hexec, hwaiting, hnow, hticks⟩ := exec_arrival h hin.head (by omega)
        have hleft : now' + (a.ticks + a.late) < deadline := by omega
        obtain ⟨e', hstep, hwritten, hphase, hconn⟩ :=
          step_final hwaiting (ptype_buildFrame (by decide) _ _) hmatches hticks hleft
        refine ⟨e', ?_, hwritten, ?_, hconn⟩
        · rw [arrivals_cons]
          exact Transition.exec_append_eq_some.mpr ⟨e', exec_events hexec hstep, rfl⟩
        · rw [hphase, ← hclass.2, Bool.not_eq_true]
          have hcarried : ∃ r, some response = some r
              ∧ udsFrames ecu (requestOf ecu x.sentBytes) version [r] ≠ [] := by
            refine ⟨response, rfl, ?_⟩
            rw [hframes]
            simp
          exact ⟨fun hnot => ⟨hcarried, hnot⟩, fun hboth => hboth.2⟩
      -- nothing is on the wire: as with no response
      · rw [hframes]
        refine ⟨e, rfl, h.written.trans hnothing.symm, iff_of_false hwaits ?_,
          fun hphase => absurd hphase hwaits⟩
        rintro ⟨⟨_, hresponse, hcarried⟩, _⟩
        cases hresponse
        exact hcarried hframes

theorem split_length {as : List Arrival} {a b : Nat} (h : as.length = a + b) :
    ∃ early late, as = early ++ late ∧ early.length = a ∧ late.length = b := by
  refine ⟨as.take a, as.drop a, (List.take_append_drop a as).symm, ?_, ?_⟩
  · rw [List.length_take]
    omega
  · rw [List.length_drop]
    omega

theorem arrivals_append {frames more : List Bytes} {early late : List Arrival}
    (h : early.length = frames.length) :
    arrivals (frames ++ more) (early ++ late) = arrivals frames early ++ arrivals more late := by
  unfold arrivals
  rw [List.zipWith_append h.symm, List.flatten_append]

/-- **An answer in time.**  Whatever the configuration, the request and the
state of the ECU, and however many promises come first: all the frames of
the ECU are relayed in order, and the exchange is completed with its leg
kept if and only if there is a final response that does not read as a
promise itself.  In time is what comes within the timeout of one frame, up
to the first promise, and within the budget; behind a promise, any number of
waits may elapse in between. -/
theorem answer_completes (edge : EdgeNode.Outcome.Config) (ecu : EcuConfig) (x : Call)
    (hne : (requestOf ecu x.sentBytes).raw ≠ []) (st : StateId) (c : EcuCore)
    (session : EdgeNode.Outcome.Session)
    (hread : ∀ owner, session.readOwner = some owner → owner = x.conn)
    (now sendTicks sendLate k : Nat) (as : List Arrival)
    (hlen : as.length = (answerFrames ecu x.sentBytes st c k).length)
    (hticks : ∀ a ∈ as, a.ticks ≤ edge.ecuResponseTimeout)
    (hwaits : ∀ a ∈ as.take 2, a.waits = [])
    (htime : sendTicks + sendLate + total edge as < edge.ecuPendingMaxWait) :
    ∃ e, Transition.exec (EdgeNode.Outcome.step edge x) (EdgeNode.Outcome.start edge session now)
        (.sent sendTicks sendLate :: arrivals (answerFrames ecu x.sentBytes st c k) as) = some e
      ∧ e.written = (answerFrames ecu x.sentBytes st c k).map .relayed
      ∧ (e.phase = .returned true ↔
        (∃ response, finalResponse ecu (requestOf ecu x.sentBytes) st c = some response
          ∧ udsFrames ecu (requestOf ecu x.sentBytes) (x.sentBytes.headD 0) [response] ≠ [])
        ∧ ¬ AnswersPending ecu (requestOf ecu x.sentBytes) (c.states st) c.data)
      ∧ (e.phase = .returned true → e.session.ecuConn = session.ecuConn) := by
  unfold answerFrames at hlen ⊢
  obtain ⟨a, as, rfl⟩ := List.exists_cons_of_length_eq_add_one hlen
  rw [List.length_cons, List.length_cons, Nat.add_right_cancel_iff, List.length_append] at hlen
  rw [total_cons] at htime
  -- the request, and its Positive ACK
  obtain ⟨e₀, hsent, hwaiting₀⟩ := step_sent edge x now sendTicks sendLate hread
    (by omega)
  have hackType : EdgeNode.ptype (ackFrame ecu x.sentBytes) = EdgeNode.ptDiagnosticPositiveAck :=
    ptype_buildFrame (by decide) _ _
  have hack : InTime edge false a :=
    ⟨hticks a (List.mem_cons_self ..), fun _ => hwaits a (by simp)⟩
  obtain ⟨d, now', hnone, hwaiting', hnow, hfits⟩ := exec_arrival hwaiting₀ hack (by omega)
  have hbudget : now' + (a.ticks + a.late) < now + edge.ecuPendingMaxWait := by omega
  obtain ⟨e₁, hstep₁, hwaiting₁⟩ := step_ack hwaiting' hackType hfits hbudget
  rw [hnow] at hwaiting₁
  -- the promises
  obtain ⟨early, late, rfl, hearly, hlate⟩ := split_length hlen
  have hin : AllInTime edge false (early ++ late) := by
    refine ⟨fun b hb => hticks b (List.mem_cons_of_mem _ hb), fun _ b hb => ?_⟩
    exact hwaits b (List.mem_cons_of_mem _ hb)
  have htotal : total edge (early ++ late) = total edge early + total edge late := by
    unfold total
    rw [List.map_append, List.sum_append]
  rw [htotal] at htime
  obtain ⟨e₂, promised, hpendings, hwaiting₂, hleft⟩ := exec_pendings edge
    (pendingFrames ecu (requestOf ecu x.sentBytes) (x.sentBytes.headD 0) k) early late hwaiting₁
    (fun frame hframe => matchingPending hne _ hframe) hearly hin (by omega)
  -- the last response, if there is one
  obtain ⟨e₃, hlast, hwritten, hphase, hconn⟩ := exec_last edge hne st c hwaiting₂
    (x.sentBytes.headD 0) late hleft hlate (by omega)
  refine ⟨e₃, ?_, ?_, hphase, hconn⟩
  · rw [arrivals_cons, arrivals_append hearly]
    refine Transition.exec_cons_eq_some.mpr ⟨e₀, hsent, ?_⟩
    refine Transition.exec_append_eq_some.mpr ⟨e₁, exec_events hnone hstep₁, ?_⟩
    exact Transition.exec_append_eq_some.mpr ⟨e₂, hpendings, hlast⟩
  · rw [hwritten]
    simp

/-- A TesterPresent of tester 0x0E00. -/
def presentCall : Call where
  conn := 0
  sentBytes := diagnosticFrame 0x0E00 [0x3E, 0x00]
  request := diagnosticFrame 0x0E00 [0x3E, 0x00]

/-- The promise comes at once, the answer only after a wait has elapsed. -/
def presentArrivals : List Arrival := [⟨[], 1, 0⟩, ⟨[], 1, 0⟩, ⟨[3], 5, 1⟩]

theorem answer_completes_present :
    ∃ e, Transition.exec (EdgeNode.Outcome.step ⟨true, 2000, 5000⟩ presentCall)
        (EdgeNode.Outcome.start ⟨true, 2000, 5000⟩ { ecuConn := some 0 } 0)
        (.sent 1 0 :: arrivals (answerFrames {} presentCall.sentBytes 0 (EcuCore.init {}) 1)
          presentArrivals) = some e
      ∧ e.written
        = (answerFrames {} presentCall.sentBytes 0 (EcuCore.init {}) 1).map .relayed := by
  obtain ⟨e, hrun, hwritten, _⟩ := answer_completes ⟨true, 2000, 5000⟩ {} presentCall (by decide) 0
    (EcuCore.init {}) { ecuConn := some 0 } (fun _ h => by cases h) 0 1 0 1 presentArrivals
    (by decide) (by decide) (by decide) (by decide)
  exact ⟨e, hrun, hwritten⟩

end DoipPlayground.Interop
