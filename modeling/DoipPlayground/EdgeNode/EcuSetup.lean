/-
  DoipPlayground.EdgeNode.EcuSetup
  ────────────────────────────────
  **SETTING UP A CONNECTION TO AN ECU** (`connect` and `close` of `ecu_client.py`).

  `connect` makes a socket, turns it into a stream, activates the routing
  and starts the background reader.  At each of its awaits the network may
  fail, its caller may cancel it and others may close the connection.  This
  is the plain connection; the branch with a TLS bridge is left out.

    • `Leg` — the connection of `Delivery` with what it owns,
    • `step` — `connect`, its clean-up, the reader, and calls of `close`,
    • `activates` — what the handshake is looking for in the ECU's bytes.
-/
import DoipPlayground.EdgeNode.Delivery

namespace DoipPlayground.EdgeNode.EcuSetup

open Wire

/-! ## §1. The connection and what it owns. -/

abbrev CloseId := Nat

/-- `sock`, the raw socket. -/
inductive Sock where
  | absent
  | held
  | closed
  /-- The stream has taken it. -/
  | transferred
  deriving DecidableEq, Repr

/-- `_writer`, and with it the transport of the stream. -/
inductive Writer where
  | absent
  | open_
  | closed
  deriving DecidableEq, Repr

/-- `_close_failed_setup` -/
inductive Cleanup where
  | created
  /-- `await self._writer.wait_closed()`, for two seconds at most. -/
  | closing
  | done
  deriving DecidableEq, Repr

/-- Where `connect` is suspended.  `left` counts the frames the handshake
may read after this one. -/
inductive Point where
  | notCalled
  /-- `await self._loop.sock_connect(..)` -/
  | connecting
  /-- `await asyncio.open_connection(sock=sock)` -/
  | opening
  /-- The Routing Activation Request is written and drained. -/
  | requesting
  | reading (left : Nat)
  /-- An early Alive Check Response is written and drained. -/
  | answering (left : Nat)
  | cleaning (cleanup : Cleanup)
  | raised
  | returned
  deriving DecidableEq, Repr

/-- Where a call of `close` is suspended. -/
inductive Close where
  | notCalled
  /-- `await self._reader_task` -/
  | joining
  /-- `await self._writer.wait_closed()` -/
  | closing
  | ended
  deriving DecidableEq, Repr

structure Config where
  maxPayloadBytes : Nat
  ecuLogicalAddr : Nat
  deriving DecidableEq, Repr

structure Leg where
  delivery : Delivery := {}
  point : Point := .notCalled
  /-- `_connecting` -/
  connecting : Bool := false
  tester : Nat := 0x0E00
  sock : Sock := .absent
  writer : Writer := .absent
  /-- What nobody has read yet. -/
  stream : Bytes := []
  eof : Bool := false
  /-- The reader task has made its first step. -/
  readerRan : Bool := false
  closes : CloseId → Close := fun _ => .notCalled
  /-- What `connect` has written. -/
  written : List Bytes := []
  /-- Bookkeeping: all the ECU has sent. -/
  received : Bytes := []

/-- How `connect` gets its socket. -/
inductive Preparation where
  /-- `if_nametoindex` raises. -/
  | noInterface
  /-- `socket.socket` raises. -/
  | noSocket
  | made
  deriving DecidableEq, Repr

/-- How an await of `connect` ends. -/
inductive Outcome where
  | returns
  /-- An exception of the network, or `TimeoutError`. -/
  | raises
  /-- `CancelledError` -/
  | cancelled
  deriving DecidableEq, Repr

/-! ## §2. The handshake. -/

/-- `_build_ra_request`; `struct.pack` takes no larger address. -/
def buildRaRequest (srcAddr : Nat) : Option Bytes :=
  if srcAddr < 65536 then some (buildFrame 0x0005 (packH srcAddr ++ [0x00] ++ [0, 0, 0, 0]))
  else none

/-- `_send_alive_check_response` -/
def aliveCheckResponse (testerAddr : Nat) : Bytes :=
  buildFrame ptAliveCheckResponse (packH testerAddr)

/-- What the handshake makes of the bytes of the ECU when it may read `left`
frames: how many Alive Check Requests it answers, and what it leaves to the
background reader.  `none` where it fails, or wants more. -/
def activates (cfg : Config) (tester : Nat) : Nat → Bytes → Option (Nat × Bytes)
  | 0, _ => none
  | left + 1, stream =>
      match readFrame cfg.maxPayloadBytes stream with
      | .error _ => none
      | .ok (raw, rest) =>
          match activationReply tester cfg.ecuLogicalAddr raw with
          | .denied => none
          | .active => some (0, rest)
          | .again =>
              (activates cfg tester left rest).map fun p =>
                (if ptype raw = ptAliveCheckRequest then p.1 + 1 else p.1, p.2)

namespace Leg

variable (s : Leg)

/-- The `except` branch of `connect`, up to its first await. -/
def fail : Leg :=
  { s with
    delivery := s.delivery.markTerminal .setup true
    sock := if s.sock = .held then .closed else s.sock
    point := .cleaning .created }

/-- `connect`, up to its first await. -/
def begin (tester : Nat) (preparation : Preparation) : Leg :=
  let s := { s with connecting := true, tester }
  match preparation with
  | .made => { s with sock := .held, point := .connecting }
  | .noInterface | .noSocket => s.fail

/-- `open_connection` has returned; the request goes out. -/
def attach : Leg :=
  let s := { s with sock := .transferred, writer := .open_ }
  if s.delivery.cause.isSome then s.fail
  else
    let s := { s with delivery := { s.delivery with connected := true } }
    match buildRaRequest s.tester with
    | none => s.fail
    | some raw => { s with written := s.written ++ [raw], point := .requesting }

/-- The next turn of the loop of `_do_routing_activation`. -/
def nextRound : Nat → Leg
  | 0 => s.fail
  | left + 1 => { s with point := .reading left }

/-- An Alive Check Request came before the response; `send` raises on a
terminal connection. -/
def answer (left : Nat) : Leg :=
  if s.delivery.cause.isSome then s.fail
  else { s with written := s.written ++ [aliveCheckResponse s.tester], point := .answering left }

/-- The handshake is through. -/
def finish : Leg :=
  if s.delivery.cause.isSome then s.fail
  else
    { s with delivery := { s.delivery with reader := .reading }, connecting := false
             point := .returned }

/-- A round of `_do_routing_activation`; `none` while the frame is not there. -/
def readReply (cfg : Config) (left : Nat) : Option Leg :=
  match readFrame cfg.maxPayloadBytes s.stream with
  | .error .incomplete => if s.eof then some s.fail else none
  | .error _ => some s.fail
  | .ok (raw, rest) =>
      let s := { s with stream := rest }
      some <| match activationReply s.tester cfg.ecuLogicalAddr raw with
        | .denied => s.fail
        | .active => s.finish
        | .again => if ptype raw = ptAliveCheckRequest then s.answer left else s.nextRound left

/-- `connect` goes on.  While it cleans up it takes no cancellation. -/
def resume (cfg : Config) : Outcome → Option Leg
  | .returns =>
      match s.point with
      | .connecting => some { s with point := .opening }
      | .opening => some s.attach
      | .requesting => some (s.nextRound activationRounds)
      | .reading left => s.readReply cfg left
      | .answering left => some (s.nextRound left)
      | _ => none
  | .raises =>
      match s.point with
      | .connecting | .opening | .requesting | .reading _ | .answering _ => some s.fail
      | _ => none
  | .cancelled =>
      match s.point with
      | .connecting | .opening | .requesting | .reading _ | .answering _ => some s.fail
      | .cleaning _ => some s
      | _ => none

/-- `writer.close()`, if there is one. -/
def closeWriter : Leg :=
  { s with writer := if s.writer = .absent then .absent else .closed }

/-- `_close_failed_setup` and the end of `connect`. -/
def cleanupStep : Option Leg :=
  match s.point with
  | .cleaning .created =>
      some { { s with delivery := s.delivery.close }.closeWriter with
        point := .cleaning (if s.writer = .absent then .done else .closing) }
  | .cleaning .closing => some { s with point := .cleaning .done }
  | .cleaning .done => some { s with connecting := false, point := .raised }
  | _ => none

def setClose (k : CloseId) (close : Close) : Leg :=
  { s with closes := fun j => if j = k then close else s.closes j }

/-- `close`, once no reader runs. -/
def closeStream (k : CloseId) : Leg :=
  s.closeWriter.setClose k (if s.writer = .absent then .ended else .closing)

/-- `close`, up to its first await. -/
def close (k : CloseId) : Leg :=
  let joins := decide s.delivery.Active
  let s := { s with delivery := s.delivery.close }
  if joins then s.setClose k .joining else s.closeStream k

/-- A call of `close` goes on: the reader is done, or the wait for the stream
is over in whatever way. -/
def closeStep (k : CloseId) : Option Leg :=
  match s.closes k with
  | .joining => if s.delivery.Active then none else some (s.closeStream k)
  | .closing => some (s.setClose k .ended)
  | _ => none

/-- What happens to the connection happens to the reader: when that ends, its
`finally` closes the stream, unless it never ran. -/
def readerDoes (cfg : Config) (e : DeliveryEvent) : Option Leg :=
  (s.delivery.step cfg.maxPayloadBytes e).map fun delivery =>
    if delivery.reader = .done ∧ s.readerRan then { s with delivery }.closeWriter
    else { s with delivery }

/-- The reader reads.  The bytes it takes for a frame are one, or none. -/
def readerReads (cfg : Config) : Option Leg :=
  match readFrame cfg.maxPayloadBytes s.stream with
  | .error .incomplete => if s.eof then s.readerDoes cfg .eof else none
  | .error _ => s.readerDoes cfg (.arrive ⟨s.stream, 0⟩)
  | .ok (raw, rest) => { s with stream := rest }.readerDoes cfg (.arrive ⟨raw, 0⟩)

/-- What a call of `recv` does. -/
def receives (cfg : Config) (e : DeliveryEvent) : Option Leg :=
  (s.delivery.step cfg.maxPayloadBytes e).map fun delivery => { s with delivery }

end Leg

/-! ## §3. The steps. -/

inductive Event where
  /-- `connect` is called. -/
  | connect (tester : Nat) (preparation : Preparation)
  | resume (outcome : Outcome)
  | cleanup
  | close (k : CloseId)
  | closeStep (k : CloseId)
  /-- The ECU sends bytes, or no more of them. -/
  | feed (bytes : Bytes)
  | feedEof
  /-- The first step of the reader task. -/
  | readerStarts
  | readerReads
  /-- The reader is back from another await, or its stream has failed it. -/
  | readerProceeds
  | readerFails
  | readerStops
  /-- A call of `recv` starts, runs on or is cancelled. -/
  | recv (r : CallId)
  | recvResumes (r : CallId)
  | recvCancelled (r : CallId)
  deriving DecidableEq, Repr

def step (cfg : Config) (s : Leg) : Event → Option Leg
  | .connect tester preparation =>
      -- a second call raises at once
      if s.delivery.cause.isSome ∨ s.delivery.connected ∨ s.connecting then some s
      else some (s.begin tester preparation)
  | .resume outcome => s.resume cfg outcome
  | .cleanup => s.cleanupStep
  | .close k => if s.closes k = .notCalled then some (s.close k) else none
  | .closeStep k => s.closeStep k
  | .feed bytes =>
      if s.eof then none
      else some { s with stream := s.stream ++ bytes, received := s.received ++ bytes }
  | .feedEof => some { s with eof := true }
  | .readerStarts =>
      if s.delivery.Active ∧ s.delivery.readerCancelled = false then
        some { s with readerRan := true }
      else none
  | .readerReads => if s.readerRan then s.readerReads cfg else none
  | .readerProceeds => s.readerDoes cfg .proceed
  | .readerFails => if s.readerRan then s.readerDoes cfg .transportError else none
  | .readerStops => s.readerDoes cfg .readerStops
  | .recv r => s.receives cfg (.call r)
  | .recvResumes r => s.receives cfg (.resume r)
  | .recvCancelled r => s.receives cfg (.cancelRecv r)

/-! ## §4. What a step can be. -/

/-- The events of the reader task. -/
def Event.Reads : Event → Prop
  | .readerReads | .readerProceeds | .readerFails | .readerStops => True
  | _ => False

/-- What the reader task can do to the connection. -/
def ReaderEvent : DeliveryEvent → Prop
  | .arrive _ | .eof | .transportError | .proceed | .readerStops => True
  | _ => False

/-- The events of the calls of `recv`. -/
def Event.Receives : Event → Prop
  | .recv _ | .recvResumes _ | .recvCancelled _ => True
  | _ => False

/-- And what they can do to it. -/
def ReceiverEvent : DeliveryEvent → Prop
  | .call _ | .resume _ | .cancelRecv _ => True
  | _ => False

/-- **A step that happens**, with the guards it passed. -/
inductive Effect (cfg : Config) (s : Leg) : Event → Leg → Prop where
  | refused (tester : Nat) (preparation : Preparation) :
      Effect cfg s (.connect tester preparation) s
  | begun (tester : Nat) (preparation : Preparation) (hcause : s.delivery.cause = none)
      (hconnected : s.delivery.connected = false) (hconnecting : s.connecting = false) :
      Effect cfg s (.connect tester preparation) (s.begin tester preparation)
  | resumed (outcome : Outcome) (s' : Leg) (hresume : s.resume cfg outcome = some s') :
      Effect cfg s (.resume outcome) s'
  | cleaned (s' : Leg) (hcleanup : s.cleanupStep = some s') : Effect cfg s .cleanup s'
  | closed (k : CloseId) : Effect cfg s (.close k) (s.close k)
  | joined (k : CloseId) (hjoining : s.closes k = .joining) (hdone : ¬ s.delivery.Active) :
      Effect cfg s (.closeStep k) (s.closeStream k)
  | ended (k : CloseId) (hclosing : s.closes k = .closing) :
      Effect cfg s (.closeStep k) (s.setClose k .ended)
  | fed (bytes : Bytes) (hopen : s.eof = false) :
      Effect cfg s (.feed bytes)
        { s with stream := s.stream ++ bytes, received := s.received ++ bytes }
  | fedEof : Effect cfg s .feedEof { s with eof := true }
  | started (hactive : s.delivery.Active) :
      Effect cfg s .readerStarts { s with readerRan := true }
  | reader (e : Event) (rest : Bytes) (d : DeliveryEvent) (s' : Leg) (hevent : e.Reads)
      (hsuffix : rest <:+ s.stream) (hkeeps : s.readerRan = false → rest = s.stream)
      (hreader : ReaderEvent d)
      (hran : s.readerRan = true ∨ d = .proceed ∨ d = .readerStops)
      (hdoes : { s with stream := rest }.readerDoes cfg d = some s') : Effect cfg s e s'
  | receiver (e : Event) (d : DeliveryEvent) (s' : Leg) (hevent : e.Receives)
      (hreceiver : ReceiverEvent d) (hdoes : s.receives cfg d = some s') : Effect cfg s e s'

theorem readFrame_suffix {m : Nat} {stream raw rest : Bytes}
    (h : readFrame m stream = .ok (raw, rest)) : rest <:+ stream := by
  unfold readFrame at h
  split at h
  · cases h
  split at h
  · cases h
  · dsimp only at h
    split at h
    · cases h
    · cases h
      exact List.drop_suffix _ _

variable {cfg : Config} {s s' : Leg}

/-- **A step of the clean-up.** -/
inductive Cleaned (s : Leg) : Leg → Prop where
  | closed (hpoint : s.point = .cleaning .created) :
      Cleaned s { { s with delivery := s.delivery.close }.closeWriter with
        point := .cleaning (if s.writer = .absent then .done else .closing) }
  | waited (hpoint : s.point = .cleaning .closing) : Cleaned s { s with point := .cleaning .done }
  | raised (hpoint : s.point = .cleaning .done) :
      Cleaned s { s with connecting := false, point := .raised }

theorem cleaned_of_cleanupStep (h : s.cleanupStep = some s') : Cleaned s s' := by
  unfold Leg.cleanupStep at h
  split at h <;> cases h <;> rename_i hpoint
  · exact .closed hpoint
  · exact .waited hpoint
  · exact .raised hpoint

/-- What a round of the handshake comes to. -/
inductive Round (cfg : Config) (s : Leg) (left : Nat) : Leg → Prop where
  | ended (hread : readFrame cfg.maxPayloadBytes s.stream = .error .incomplete)
      (heof : s.eof = true) : Round cfg s left s.fail
  | rejected (e : ReadError) (hincomplete : e ≠ .incomplete)
      (hread : readFrame cfg.maxPayloadBytes s.stream = .error e) : Round cfg s left s.fail
  | denied (raw rest : Bytes) (hread : readFrame cfg.maxPayloadBytes s.stream = .ok (raw, rest))
      (hreply : activationReply s.tester cfg.ecuLogicalAddr raw = .denied) :
      Round cfg s left { s with stream := rest }.fail
  | active (raw rest : Bytes) (hread : readFrame cfg.maxPayloadBytes s.stream = .ok (raw, rest))
      (hreply : activationReply s.tester cfg.ecuLogicalAddr raw = .active) :
      Round cfg s left { s with stream := rest }.finish
  | asked (raw rest : Bytes) (hread : readFrame cfg.maxPayloadBytes s.stream = .ok (raw, rest))
      (hreply : activationReply s.tester cfg.ecuLogicalAddr raw = .again)
      (halive : ptype raw = ptAliveCheckRequest) :
      Round cfg s left ({ s with stream := rest }.answer left)
  | ignored (raw rest : Bytes) (hread : readFrame cfg.maxPayloadBytes s.stream = .ok (raw, rest))
      (hreply : activationReply s.tester cfg.ecuLogicalAddr raw = .again)
      (hother : ptype raw ≠ ptAliveCheckRequest) :
      Round cfg s left ({ s with stream := rest }.nextRound left)

theorem round_of_readReply {left : Nat} (h : s.readReply cfg left = some s') :
    Round cfg s left s' := by
  unfold Leg.readReply at h
  split at h
  · rename_i hread
    rw [Option.ite_none_right_eq_some, Option.some.injEq] at h
    obtain ⟨heof, rfl⟩ := h
    exact .ended hread heof
  · rename_i e hincomplete hread
    cases h
    exact .rejected e hincomplete hread
  · rename_i raw rest hread
    rw [Option.some.injEq] at h
    subst h
    split
    · rename_i hreply
      exact .denied raw rest hread hreply
    · rename_i hreply
      exact .active raw rest hread hreply
    · rename_i hreply
      split
      · rename_i halive
        exact .asked raw rest hread hreply halive
      · rename_i hother
        exact .ignored raw rest hread hreply hother

/-- The points of the `try` block of `connect`. -/
def Point.Tries : Point → Prop
  | .connecting | .opening | .requesting | .reading _ | .answering _ => True
  | _ => False

/-- **How `connect` goes on**: an exception or a cancellation in its `try`
block has one outcome, wherever it comes. -/
inductive Resumed (cfg : Config) (s : Leg) : Outcome → Leg → Prop where
  | connected (hpoint : s.point = .connecting) :
      Resumed cfg s .returns { s with point := .opening }
  | opened (hpoint : s.point = .opening) : Resumed cfg s .returns s.attach
  | requested (hpoint : s.point = .requesting) :
      Resumed cfg s .returns (s.nextRound activationRounds)
  | read (left : Nat) (s' : Leg) (hpoint : s.point = .reading left)
      (hround : Round cfg s left s') : Resumed cfg s .returns s'
  | answered (left : Nat) (hpoint : s.point = .answering left) :
      Resumed cfg s .returns (s.nextRound left)
  | failed (outcome : Outcome) (hfails : outcome ≠ .returns) (htries : s.point.Tries) :
      Resumed cfg s outcome s.fail
  | deferred (cleanup : Cleanup) (hpoint : s.point = .cleaning cleanup) :
      Resumed cfg s .cancelled s

theorem resumed_of_resume {outcome : Outcome} (h : s.resume cfg outcome = some s') :
    Resumed cfg s outcome s' := by
  cases outcome with
  | returns =>
      unfold Leg.resume at h
      dsimp only at h
      split at h <;> rename_i hpoint
      · cases h
        exact .connected hpoint
      · cases h
        exact .opened hpoint
      · cases h
        exact .requested hpoint
      · exact .read _ s' hpoint (round_of_readReply h)
      · cases h
        exact .answered _ hpoint
      · cases h
  | raises =>
      unfold Leg.resume at h
      dsimp only at h
      split at h <;> cases h <;> rename_i hpoint <;>
        exact .failed _ (by decide) (by rw [hpoint]; trivial)
  | cancelled =>
      unfold Leg.resume at h
      dsimp only at h
      split at h <;> cases h <;> rename_i hpoint
      case h_6 => exact .deferred _ hpoint
      all_goals exact .failed _ (by decide) (by rw [hpoint]; trivial)

theorem effect_of_read (hran : s.readerRan = true) (hstep : s.readerReads cfg = some s') :
    Effect cfg s .readerReads s' := by
  unfold Leg.readerReads at hstep
  split at hstep
  · rw [Option.ite_none_right_eq_some] at hstep
    exact .reader _ s.stream .eof s' trivial (List.suffix_refl _) (fun _ => rfl) trivial
      (.inl hran) hstep.2
  · exact .reader _ s.stream (.arrive _) s' trivial (List.suffix_refl _) (fun _ => rfl) trivial
      (.inl hran) hstep
  · rename_i raw rest hread
    refine .reader _ rest (.arrive _) s' trivial (readFrame_suffix hread) ?_ trivial (.inl hran)
      hstep
    intro hnot
    rw [hran] at hnot
    cases hnot

theorem effect_of_step {e : Event} (hstep : step cfg s e = some s') : Effect cfg s e s' := by
  cases e with
  | connect tester preparation =>
      unfold step at hstep
      dsimp only at hstep
      split at hstep
      · cases hstep
        exact .refused tester preparation
      · rename_i hguard
        cases hstep
        rw [not_or, not_or, Bool.not_eq_true, Bool.not_eq_true, Bool.not_eq_true,
          Option.isSome_eq_false_iff, Option.isNone_iff_eq_none] at hguard
        obtain ⟨hcause, hconnected, hconnecting⟩ := hguard
        exact .begun tester preparation hcause hconnected hconnecting
  | resume outcome => exact .resumed outcome s' hstep
  | cleanup => exact .cleaned s' hstep
  | close k =>
      unfold step at hstep
      rw [Option.ite_none_right_eq_some, Option.some.injEq] at hstep
      obtain ⟨_, rfl⟩ := hstep
      exact .closed k
  | closeStep k =>
      unfold step Leg.closeStep at hstep
      dsimp only at hstep
      split at hstep
      · rename_i hjoining
        rw [Option.ite_none_left_eq_some, Option.some.injEq] at hstep
        obtain ⟨hdone, rfl⟩ := hstep
        exact .joined k hjoining hdone
      · rename_i hclosing
        cases hstep
        exact .ended k hclosing
      · cases hstep
  | feed bytes =>
      unfold step at hstep
      rw [Option.ite_none_left_eq_some, Option.some.injEq, Bool.not_eq_true] at hstep
      obtain ⟨hopen, rfl⟩ := hstep
      exact .fed bytes hopen
  | feedEof =>
      cases hstep
      exact .fedEof
  | readerStarts =>
      unfold step at hstep
      rw [Option.ite_none_right_eq_some, Option.some.injEq] at hstep
      obtain ⟨⟨hactive, _⟩, rfl⟩ := hstep
      exact .started hactive
  | readerReads =>
      unfold step at hstep
      rw [Option.ite_none_right_eq_some] at hstep
      exact effect_of_read hstep.1 hstep.2
  | readerProceeds =>
      exact .reader _ s.stream .proceed s' trivial (List.suffix_refl _) (fun _ => rfl) trivial
        (.inr (.inl rfl)) hstep
  | readerFails =>
      unfold step at hstep
      rw [Option.ite_none_right_eq_some] at hstep
      exact .reader _ s.stream .transportError s' trivial (List.suffix_refl _) (fun _ => rfl) trivial
        (.inl hstep.1) hstep.2
  | readerStops =>
      exact .reader _ s.stream .readerStops s' trivial (List.suffix_refl _) (fun _ => rfl) trivial
        (.inr (.inr rfl)) hstep
  | recv r => exact .receiver _ (.call r) s' trivial trivial hstep
  | recvResumes r => exact .receiver _ (.resume r) s' trivial trivial hstep
  | recvCancelled r => exact .receiver _ (.cancelRecv r) s' trivial trivial hstep

/-- A step of a receiver, at the connection. -/
theorem receives_eq {d : DeliveryEvent} (hdoes : s.receives cfg d = some s') :
    ∃ delivery, s.delivery.step cfg.maxPayloadBytes d = some delivery
      ∧ s' = { s with delivery } := by
  unfold Leg.receives at hdoes
  obtain ⟨delivery, hdelivery, rfl⟩ := Option.map_eq_some_iff.mp hdoes
  exact ⟨delivery, hdelivery, rfl⟩

/-- And one of the reader, which may close the stream. -/
theorem readerDoes_eq {d : DeliveryEvent} (hdoes : s.readerDoes cfg d = some s') :
    ∃ delivery, s.delivery.step cfg.maxPayloadBytes d = some delivery
      ∧ (s' = { s with delivery } ∨ s' = { s with delivery }.closeWriter
        ∧ delivery.reader = .done) := by
  unfold Leg.readerDoes at hdoes
  obtain ⟨delivery, hdelivery, rfl⟩ := Option.map_eq_some_iff.mp hdoes
  refine ⟨delivery, hdelivery, ?_⟩
  split
  · rename_i hdone
    exact .inr ⟨rfl, hdone.1⟩
  · exact .inl rfl

/-! ## §5. What `connect` does between two awaits. -/

/-- A step of the leg that is neither the call of `connect` nor new bytes:
it writes its request once, and a response only to what it has read. -/
structure Moves (s s' : Leg) : Prop where
  tester : s'.tester = s.tester
  received : s'.received = s.received
  stream : s'.stream <:+ s.stream
  called : s'.point = .notCalled ↔ s.point = .notCalled
  written : s'.written = s.written
    ∨ (s.point = .opening ∧ ∃ raw, buildRaRequest s.tester = some raw
      ∧ s'.written = s.written ++ [raw])
    ∨ s.stream ≠ []

namespace Moves

theorem of_eq (htester : s'.tester = s.tester) (hreceived : s'.received = s.received)
    (hstream : s'.stream = s.stream) (hcalled : s'.point = .notCalled ↔ s.point = .notCalled)
    (hwritten : s'.written = s.written) : Moves s s' :=
  ⟨htester, hreceived, hstream ▸ List.suffix_refl _, hcalled, .inl hwritten⟩

theorem fail (hcalled : s.point ≠ .notCalled) : Moves s s.fail :=
  of_eq rfl rfl rfl (iff_of_false (by simp [Leg.fail]) hcalled) rfl

theorem nextRound (hcalled : s.point ≠ .notCalled) (left : Nat) : Moves s (s.nextRound left) := by
  cases left with
  | zero => exact fail hcalled
  | succ left => exact of_eq rfl rfl rfl (iff_of_false (by simp [Leg.nextRound]) hcalled) rfl

theorem attach (hpoint : s.point = .opening) : Moves s s.attach := by
  have hcalled : s.point ≠ .notCalled := by simp [hpoint]
  unfold Leg.attach
  dsimp only
  split
  · exact of_eq rfl rfl rfl (iff_of_false (by simp [Leg.fail]) hcalled) rfl
  split
  · exact of_eq rfl rfl rfl (iff_of_false (by simp [Leg.fail]) hcalled) rfl
  · rename_i raw hraw
    exact ⟨rfl, rfl, List.suffix_refl _, iff_of_false (by simp) hcalled,
      .inr (.inl ⟨hpoint, raw, hraw, rfl⟩)⟩

/-- A round of the handshake takes a frame off the stream. -/
theorem round (hcalled : s.point ≠ .notCalled) {left : Nat} (h : Round cfg s left s') :
    Moves s s' := by
  have hmoves : ∀ {raw rest : Bytes} {t : Leg},
      readFrame cfg.maxPayloadBytes s.stream = .ok (raw, rest) →
      t.tester = s.tester → t.received = s.received → t.stream = rest → t.point ≠ .notCalled →
      Moves s t := by
    intro raw rest t hread htester hreceived hstream hpoint
    refine ⟨htester, hreceived, ?_, iff_of_false hpoint hcalled, .inr (.inr ?_)⟩
    · rw [hstream]
      exact readFrame_suffix hread
    · intro hnil
      rw [hnil] at hread
      cases hread
  cases h with
  | ended | rejected => exact fail hcalled
  | denied raw rest hread => exact hmoves hread rfl rfl rfl (by simp [Leg.fail])
  | active raw rest hread =>
      unfold Leg.finish
      split
      · exact hmoves hread rfl rfl rfl (by simp [Leg.fail])
      · exact hmoves hread rfl rfl rfl (by simp)
  | asked raw rest hread =>
      unfold Leg.answer
      split
      · exact hmoves hread rfl rfl rfl (by simp [Leg.fail])
      · exact hmoves hread rfl rfl rfl (by simp)
  | ignored raw rest hread =>
      cases left with
      | zero => exact hmoves hread rfl rfl rfl (by simp [Leg.nextRound, Leg.fail])
      | succ left => exact hmoves hread rfl rfl rfl (by simp [Leg.nextRound])

theorem resume {outcome : Outcome} (h : s.resume cfg outcome = some s') : Moves s s' := by
  cases resumed_of_resume h with
  | connected hpoint => exact of_eq rfl rfl rfl (iff_of_false (by simp) (by simp [hpoint])) rfl
  | opened hpoint => exact attach hpoint
  | requested hpoint => exact nextRound (by simp [hpoint]) _
  | read left _ hpoint hround => exact round (by simp [hpoint]) hround
  | answered left hpoint => exact nextRound (by simp [hpoint]) _
  | failed _ _ htries =>
      refine fail fun hpoint => ?_
      rw [hpoint] at htries
      exact htries
  | deferred => exact of_eq rfl rfl rfl .rfl rfl

end Moves

end DoipPlayground.EdgeNode.EcuSetup
