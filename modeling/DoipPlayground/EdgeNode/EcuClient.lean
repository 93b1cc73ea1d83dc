/-
  DoipPlayground.EdgeNode.EcuClient
  ─────────────────────────────────
  **ONE CONNECTION TO ONE ECU** (`ecu_client.py`).

    • `readFrame` — what the EdgeNode takes for a frame of an ECU,
    • `activationReply` — the replies the Routing Activation handshake reads,
    • `ECUConnection` — the background reader, the receive queue with its
      terminal marker, and `close`.

  The ECU's byte stream is a list of frames.  `Emitted.requests` is
  bookkeeping: it says when the ECU emitted the frame, and steers nothing.
-/
import DoipPlayground.Lib.Bytes

namespace DoipPlayground.EdgeNode

open Wire

/-! ## §1. `_read_frame`. -/

def ptHeaderNack : Nat := 0x0000
def ptRoutingActivationResponse : Nat := 0x0006
def ptAliveCheckRequest : Nat := 0x0007
def ptAliveCheckResponse : Nat := 0x0008
def ptDiagnosticMessage : Nat := 0x8001
def ptDiagnosticPositiveAck : Nat := 0x8002
def ptDiagnosticNegativeAck : Nat := 0x8003

/-- `raw[2:4]` -/
def ptype (raw : Bytes) : Nat := fromBytes ((raw.drop 2).take 2)

/-- `payload_len` of a header. -/
def payloadLen (raw : Bytes) : Nat := fromBytes ((raw.drop 4).take 4)

/-- Why `_read_frame` raises. -/
inductive ReadError where
  /-- `IncompleteReadError` -/
  | incomplete
  /-- "invalid DoIP version pattern" -/
  | invalidVersion
  /-- "DoIP payload exceeds configured limit" -/
  | payloadTooLarge
  /-- "unsupported ECU payload type" -/
  | unsupportedType (ptype : Nat)
  /-- "invalid payload length" -/
  | invalidLength (ptype : Nat)
  deriving DecidableEq, Repr

/-- The payload lengths of the types that have a fixed one. -/
def fixedLengths (ptype : Nat) : Option (List Nat) :=
  if ptype = ptHeaderNack then some [1]
  else if ptype = ptRoutingActivationResponse then some [9, 13]
  else if ptype = ptAliveCheckRequest then some [0]
  else if ptype = ptAliveCheckResponse then some [2]
  else if ptype = 0x4002 then some [3, 7]
  else if ptype = 0x4004 then some [1]
  else none

/-- The checks on the eight header bytes; `none` lets the frame pass. -/
def checkHeader (maxPayloadBytes : Nat) (header : Bytes) : Option ReadError :=
  let version := header.headD 0
  let inverse := (header.drop 1).headD 0
  if (version ≠ 0x02 ∧ version ≠ 0x03) ∨ inverse ≠ version ^^^ 0xFF then some .invalidVersion
  else if maxPayloadBytes < payloadLen header then some .payloadTooLarge
  else
    match fixedLengths (ptype header) with
    | some lengths =>
        if lengths.contains (payloadLen header) then none
        else some (.invalidLength (ptype header))
    | none =>
        if ptype header = ptDiagnosticMessage ∨ ptype header = ptDiagnosticPositiveAck
            ∨ ptype header = ptDiagnosticNegativeAck then
          if 5 ≤ payloadLen header then none else some (.invalidLength (ptype header))
        else some (.unsupportedType (ptype header))

/-- `_read_frame`: the next frame of the stream and what is left of it. -/
def readFrame (maxPayloadBytes : Nat) (stream : Bytes) : Except ReadError (Bytes × Bytes) :=
  if stream.length < 8 then .error .incomplete
  else
    match checkHeader maxPayloadBytes (stream.take 8) with
    | some e => .error e
    | none =>
        let n := 8 + payloadLen (stream.take 8)
        if stream.length < n then .error .incomplete else .ok (stream.take n, stream.drop n)

/-- The eight header bytes and as many more as they declare. -/
def IsFrame (raw : Bytes) : Prop := 8 ≤ raw.length ∧ raw.length = 8 + payloadLen raw

instance (raw : Bytes) : Decidable (IsFrame raw) := inferInstanceAs (Decidable (_ ∧ _))

theorem payloadLen_take (raw : Bytes) : payloadLen (raw.take 8) = payloadLen raw := by
  unfold payloadLen
  rw [List.drop_take, List.take_take]
  rfl

/-- Of a stream that starts with a whole frame, just the frame is taken, or
the header check fails. -/
theorem readFrame_append {raw : Bytes} (h : IsFrame raw) (maxPayloadBytes : Nat) (rest : Bytes) :
    readFrame maxPayloadBytes (raw ++ rest) =
      match checkHeader maxPayloadBytes (raw.take 8) with
      | some e => .error e
      | none => .ok (raw, rest) := by
  obtain ⟨h8, hlen⟩ := h
  have htake : (raw ++ rest).take 8 = raw.take 8 := List.take_append_of_le_length h8
  unfold readFrame
  rw [if_neg (by simp; omega), htake]
  cases checkHeader maxPayloadBytes (raw.take 8) with
  | some e => rfl
  | none =>
      show (if (raw ++ rest).length < 8 + payloadLen (raw.take 8) then _ else _) = _
      rw [payloadLen_take raw, ← hlen, if_neg (by simp)]
      simp

/-- `_build_frame`, in the default version. -/
def buildFrame (payloadType : Nat) (payload : Bytes) : Bytes :=
  [0x02, 0xFF ^^^ 0x02] ++ packH payloadType ++ packI payload.length ++ payload

/-! ## §2. The Routing Activation handshake. -/

/-- What a frame read by `_do_routing_activation` leads to. -/
inductive ActivationReply where
  /-- Read on, if a round is left. -/
  | again
  | active
  /-- `RuntimeError` -/
  | denied
  deriving DecidableEq, Repr

/-- How many frames the handshake reads before it gives up. -/
def activationRounds : Nat := 3

/-- One round: an early Alive Check Request is answered, a Header NACK is
ignored, and both use the round up. -/
def activationReply (testerAddr ecuAddr : Nat) (raw : Bytes) : ActivationReply :=
  let payload := raw.drop 8
  if ptype raw = ptHeaderNack ∨ ptype raw = ptAliveCheckRequest then .again
  else if ptype raw ≠ ptRoutingActivationResponse then .denied
  else if payload.length ≠ 9 ∧ payload.length ≠ 13 then .denied
  else if fromBytes (payload.take 2) ≠ testerAddr then .denied
  else if fromBytes ((payload.drop 2).take 2) ≠ ecuAddr then .denied
  else if (payload.drop 4).headD 0 = 0x10 then .active
  else .denied

/-! ## §3. The connection. -/

/-- A frame of the ECU. -/
structure Emitted where
  raw : Bytes
  /-- How many requests had been sent to the ECU when it emitted the frame. -/
  requests : Nat
  deriving DecidableEq, Repr

/-- An item of `_recv_queue`. -/
inductive Queued where
  | frame (f : Emitted)
  /-- `_RECV_TERMINAL` -/
  | terminal
  deriving DecidableEq, Repr

def Queued.frame? : Queued → Option Emitted
  | .frame f => some f
  | .terminal => none

@[simp] theorem Queued.frame?_frame (f : Emitted) : (Queued.frame f).frame? = some f := rfl

@[simp] theorem Queued.frame?_terminal : Queued.terminal.frame? = none := rfl

structure ECUConnection where
  connected : Bool := false
  /-- `_terminal_error` is set. -/
  terminal : Bool := false
  recvQueue : List Queued := []
  /-- `_background_reader` runs. -/
  reading : Bool := false
  /-- The frames in the stream that nobody has read yet. -/
  transit : List Emitted := []
  deriving DecidableEq, Repr

namespace ECUConnection

/-- Publish EOF after the queued frames, or in their place. -/
def markTerminal (c : ECUConnection) (discard : Bool) : ECUConnection :=
  { c with
    connected := false
    terminal := true
    recvQueue :=
      (if discard then [] else c.recvQueue)
        ++ (if c.terminal = false ∨ discard then [.terminal] else []) }

/-- The handshake has succeeded: the background reader starts. -/
def activate (c : ECUConnection) : ECUConnection :=
  { c with connected := true, reading := true }

/-- EOF, an error or a cancellation ends the background reader. -/
def readerEnds (c : ECUConnection) : ECUConnection :=
  { c.markTerminal false with reading := false }

def close (c : ECUConnection) : ECUConnection :=
  { c.markTerminal true with reading := false }

/-- `_background_reader` neither queues nor relays these. -/
def isDropped (raw : Bytes) : Bool := ptype raw == ptHeaderNack || ptype raw == ptAliveCheckRequest

/-- One round of `_background_reader`; `none` while nothing is there to read. -/
def backgroundReader (maxPayloadBytes : Nat) (c : ECUConnection) : Option ECUConnection :=
  match c.reading, c.transit with
  | true, f :: rest =>
      match readFrame maxPayloadBytes f.raw with
      | .error _ => some { c with transit := rest }.readerEnds
      | .ok _ =>
          if isDropped f.raw then some { c with transit := rest }
          else some { c with transit := rest, recvQueue := c.recvQueue ++ [.frame f] }
  | _, _ => none

/-- `recv` gets an item: a frame, or `none` where it raises.  The marker goes
back into the queue. -/
def recv (c : ECUConnection) : Option (ECUConnection × Option Emitted) :=
  if c.connected = false ∧ c.terminal = false then some (c, none)
  else
    match c.recvQueue with
    | [] => none
    | .frame f :: rest => some ({ c with recvQueue := rest }, some f)
    | .terminal :: rest => some ({ c with recvQueue := rest ++ [.terminal] }, none)

/-- The ECU emits a frame. -/
def emit (c : ECUConnection) (f : Emitted) : ECUConnection :=
  { c with transit := c.transit ++ [f] }

/-! ### What is still to be delivered. -/

/-- The frames of the stream the background reader will queue. -/
def deliverable (maxPayloadBytes : Nat) : List Emitted → List Emitted
  | [] => []
  | f :: rest =>
      match readFrame maxPayloadBytes f.raw with
      | .error _ => []
      | .ok _ =>
          if isDropped f.raw then deliverable maxPayloadBytes rest
          else f :: deliverable maxPayloadBytes rest

/-- The frames `recv` has yet to return, oldest first. -/
def undelivered (maxPayloadBytes : Nat) (c : ECUConnection) : List Emitted :=
  c.recvQueue.filterMap Queued.frame?
    ++ (if c.reading then deliverable maxPayloadBytes c.transit else [])

/-- All frames that are on this side of the ECU, oldest first. -/
def stream (c : ECUConnection) : List Emitted := c.recvQueue.filterMap Queued.frame? ++ c.transit

variable {maxPayloadBytes : Nat} {c c' : ECUConnection}

theorem deliverable_sublist (fs : List Emitted) : (deliverable maxPayloadBytes fs).Sublist fs := by
  induction fs with
  | nil => exact .slnil
  | cons f rest ih =>
      unfold deliverable
      split
      · exact List.nil_sublist _
      split
      · exact ih.cons f
      · exact ih.cons_cons f

theorem undelivered_sublist : (c.undelivered maxPayloadBytes).Sublist c.stream := by
  unfold undelivered stream
  split
  · exact (deliverable_sublist c.transit).append_left _
  · exact (List.nil_sublist c.transit).append_left _

/-- A frame emitted now is delivered behind all others, if it is at all. -/
theorem deliverable_append (maxPayloadBytes : Nat) (fs : List Emitted) (f : Emitted) :
    deliverable maxPayloadBytes (fs ++ [f]) = deliverable maxPayloadBytes fs
      ∨ deliverable maxPayloadBytes (fs ++ [f]) = deliverable maxPayloadBytes fs ++ [f] := by
  induction fs with
  | nil =>
      show deliverable maxPayloadBytes [f] = [] ∨ deliverable maxPayloadBytes [f] = [f]
      unfold deliverable
      split
      · exact .inl rfl
      split
      · exact .inl rfl
      · exact .inr rfl
  | cons g fs ih =>
      rw [List.cons_append]
      unfold deliverable
      split
      · exact .inl rfl
      split
      · exact ih
      · rcases ih with ih | ih
        · exact .inl (by rw [ih])
        · exact .inr (by rw [ih, List.cons_append])

theorem emit_undelivered (maxPayloadBytes : Nat) (c : ECUConnection) (f : Emitted) :
    (c.emit f).undelivered maxPayloadBytes = c.undelivered maxPayloadBytes
      ∨ (c.emit f).undelivered maxPayloadBytes = c.undelivered maxPayloadBytes ++ [f] := by
  unfold undelivered emit
  dsimp only
  split
  · rcases deliverable_append maxPayloadBytes c.transit f with h | h
    · exact .inl (by rw [h])
    · exact .inr (by rw [h, List.append_assoc])
  · exact .inl rfl

theorem emit_stream (f : Emitted) : (c.emit f).stream = c.stream ++ [f] := by
  unfold stream emit
  rw [List.append_assoc]

theorem markTerminal_frames :
    (c.markTerminal false).recvQueue.filterMap Queued.frame?
      = c.recvQueue.filterMap Queued.frame? := by
  unfold markTerminal
  simp only [Bool.false_eq_true, if_false, List.filterMap_append, or_false]
  split <;> simp

theorem close_stream_sublist : c.close.stream.Sublist c.stream := by
  have hstream : c.close.stream = c.transit := by
    simp [stream, close, markTerminal]
  rw [hstream]
  exact List.sublist_append_right _ _

/-- The receivers get what is queued, and nothing of what is still in the stream. -/
theorem readerEnds_undelivered :
    (c.readerEnds.undelivered maxPayloadBytes) <+: (c.undelivered maxPayloadBytes) := by
  unfold undelivered readerEnds
  dsimp only
  rw [markTerminal_frames]
  simp

theorem readerEnds_stream : c.readerEnds.stream = c.stream := by
  unfold stream readerEnds
  dsimp only
  rw [markTerminal_frames]
  rfl

/-- The background reader loses nothing that it would have queued. -/
theorem backgroundReader_undelivered (h : c.backgroundReader maxPayloadBytes = some c') :
    c'.undelivered maxPayloadBytes = c.undelivered maxPayloadBytes := by
  unfold backgroundReader at h
  split at h
  · rename_i f rest hreading htransit
    have hc : c.undelivered maxPayloadBytes
        = c.recvQueue.filterMap Queued.frame? ++ deliverable maxPayloadBytes (f :: rest) := by
      unfold undelivered
      rw [hreading, htransit, if_pos rfl]
    rw [hc]
    unfold deliverable
    split at h
    · cases h
      unfold undelivered readerEnds
      dsimp only
      rw [markTerminal_frames]
      simp
    · split at h
      · rename_i hdropped
        cases h
        rw [if_pos hdropped]
        unfold undelivered
        simp [hreading]
      · rename_i hkept
        cases h
        rw [if_neg hkept]
        unfold undelivered
        simp [hreading]
  · cases h

theorem backgroundReader_stream (h : c.backgroundReader maxPayloadBytes = some c') :
    c'.stream.Sublist c.stream := by
  unfold backgroundReader at h
  split at h
  · rename_i f rest hreading htransit
    have hc : c.stream = c.recvQueue.filterMap Queued.frame? ++ f :: rest := by
      unfold stream
      rw [htransit]
    rw [hc]
    have hdrop : (c.recvQueue.filterMap Queued.frame? ++ rest).Sublist
        (c.recvQueue.filterMap Queued.frame? ++ f :: rest) :=
      (List.sublist_cons_self f rest).append_left _
    split at h
    · cases h
      rw [readerEnds_stream]
      exact hdrop
    · split at h
      · cases h
        exact hdrop
      · cases h
        unfold stream
        simp
  · cases h

/-- `recv` returns the oldest frame, and nothing where it raises. -/
theorem recv_undelivered {r : Option Emitted} (h : c.recv = some (c', r)) :
    (∀ maxPayloadBytes,
        c.undelivered maxPayloadBytes = r.toList ++ c'.undelivered maxPayloadBytes)
      ∧ c.stream = r.toList ++ c'.stream := by
  unfold recv at h
  split at h
  · cases h
    exact ⟨fun _ => rfl, rfl⟩
  split at h
  · cases h
  · rename_i f rest hq
    cases h
    simp [undelivered, stream, hq]
  · rename_i rest hq
    cases h
    simp [undelivered, stream, hq, List.filterMap_cons]

end ECUConnection

end DoipPlayground.EdgeNode
