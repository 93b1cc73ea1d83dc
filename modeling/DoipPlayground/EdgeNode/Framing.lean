/-
  DoipPlayground.EdgeNode.Framing
  ───────────────────────────────
  **THE BYTES OF ONE TESTER** (`session.py`: `_read_frame`,
  `_discard_payload` and the loop that calls them).

  Bytes arrive in any pieces and wait in the buffer of the stream reader;
  `readexactly` returns once there are enough of them.  `Point` says where
  the loop is suspended, an `Event` lets it run to its next await.

    • `Grammar` — the messages of a stream, and what becomes of each,
    • `framing_follows_grammar` — the loop does that and nothing else,
    • `framing_settles` — and it does all of it.

  What a handler does with a frame is left open: it returns or raises.
  `Reader.trace` is bookkeeping for statements.
-/
import DoipPlayground.Lib.Drain
import DoipPlayground.EdgeNode.EcuClient

namespace DoipPlayground.EdgeNode.Framing

open Wire

/-! ## §1. The checks on a header. -/

/-- `DOIP_HEADER_LEN` -/
def doipHeaderLen : Nat := 8

/-- `_VALID_VERSIONS` -/
def validVersions : List UInt8 := [0x02, 0x03]

def ptRoutingActivationRequest : Nat := 0x0005
def ptEntityStatusRequest : Nat := 0x4001
def ptPowerModeRequest : Nat := 0x4003

/-- `_TCP_PAYLOAD_LENGTHS`; no list means addresses and at least one byte. -/
def tcpPayloadLengths : List (Nat × Option (List Nat)) :=
  [(ptHeaderNack, some [1]),
    (ptRoutingActivationRequest, some [7, 11]),
    (ptAliveCheckRequest, some [0]),
    (ptAliveCheckResponse, some [2]),
    (ptEntityStatusRequest, some [0]),
    (ptPowerModeRequest, some [0]),
    (ptDiagnosticMessage, none)]

/-- `_TCP_DISCARD_CHUNK_BYTES` -/
def tcpDiscardChunkBytes : Nat := 4096

/-- What `_read_frame` goes on with. -/
inductive HeaderCheck where
  /-- Header NACK, and raise. -/
  | stop (nack : UInt8)
  /-- Header NACK, and `_discard_payload`. -/
  | discard (nack : UInt8)
  /-- Read the payload. -/
  | read
  deriving DecidableEq, Repr

/-- `valid_length` -/
def validLength (lengths : Option (List Nat)) (payloadLen : Nat) : Bool :=
  match lengths with
  | none => decide (5 ≤ payloadLen)
  | some lengths => lengths.contains payloadLen

def checkHeader (maxPayloadBytes : Nat) (header : Bytes) : HeaderCheck :=
  let ver := header.headD 0
  let inv := (header.drop 1).headD 0
  if !validVersions.contains ver || inv != 0xFF ^^^ ver then .stop 0x00
  else
    match tcpPayloadLengths.lookup (ptype header) with
    | none => .discard 0x01
    | some lengths =>
        if maxPayloadBytes < payloadLen header then .discard 0x02
        else if validLength lengths (payloadLen header) then .read
        else .stop 0x04

/-! ## §2. The reader. -/

/-- What happens once a Header NACK is sent. -/
inductive AfterNack where
  | raise
  | discard (payloadLen : Nat)
  deriving DecidableEq, Repr

/-- Where the loop is suspended. -/
inductive Point where
  /-- `await self.reader.readexactly(DOIP_HEADER_LEN)` -/
  | header
  /-- The drain of a Header NACK. -/
  | nacking (next : AfterNack)
  /-- `await self.reader.readexactly(size)` in `discard`. -/
  | discarding (remaining : Nat)
  /-- `await asyncio.sleep(0)` in `discard`. -/
  | yielding (remaining : Nat)
  /-- `await self.reader.readexactly(payload_len)` -/
  | payload (header : Bytes)
  /-- Any await between the return of `_read_frame` and its next call. -/
  | handling (raw : Bytes)
  | ended
  deriving DecidableEq, Repr

/-- What the loop has done. -/
inductive Item where
  /-- `_send_header_nack` -/
  | nack (code : UInt8)
  /-- One read of a rejected body. -/
  | chunk (bytes : Bytes)
  /-- `_read_frame` returned. -/
  | frame (raw : Bytes)
  deriving DecidableEq, Repr

structure Reader where
  /-- Received and not read yet. -/
  buffer : Bytes := []
  /-- `_closing` -/
  closing : Bool := false
  point : Point := .header
  trace : List Item := []
  deriving DecidableEq, Repr

namespace Reader

/-- The head of the loop. -/
def loop (r : Reader) : Reader := { r with point := if r.closing then .ended else .header }

/-- `_send_header_nack` up to its drain; `_send_raw` does not write while closing. -/
def sendHeaderNack (r : Reader) (code : UInt8) (next : AfterNack) : Reader :=
  { r with
    trace := if r.closing then r.trace else r.trace ++ [.nack code]
    point := .nacking next }

/-- The head of the loop in `discard`. -/
def discard (r : Reader) (remaining : Nat) : Reader :=
  if remaining = 0 then r.loop else { r with point := .discarding remaining }

/-- `_read_frame` with the eight header bytes. -/
def onHeader (maxPayloadBytes : Nat) (r : Reader) (header : Bytes) : Reader :=
  match checkHeader maxPayloadBytes header with
  | .stop nack => r.sendHeaderNack nack .raise
  | .discard nack => r.sendHeaderNack nack (.discard (payloadLen header))
  | .read => { r with point := .payload header }

/-- How many bytes the loop waits for. -/
def needs (r : Reader) : Option Nat :=
  match r.point with
  | .header => some doipHeaderLen
  | .discarding remaining => some (min remaining tcpDiscardChunkBytes)
  | .payload header => some (payloadLen header)
  | _ => none

/-- `readexactly` returns these bytes. -/
def onBytes (maxPayloadBytes : Nat) (r : Reader) (bytes : Bytes) : Reader :=
  match r.point with
  | .header => r.onHeader maxPayloadBytes bytes
  | .discarding remaining =>
      { r with trace := r.trace ++ [.chunk bytes], point := .yielding (remaining - bytes.length) }
  | .payload header =>
      { r with
        trace := r.trace ++ [.frame (header ++ bytes)]
        point := .handling (header ++ bytes) }
  | _ => r

theorem discard_closing (r : Reader) (n : Nat) : (r.discard n).closing = r.closing := by
  unfold discard
  split
  · rfl
  · rfl

theorem onBytes_closing (maxPayloadBytes : Nat) (r : Reader) (bytes : Bytes) :
    (r.onBytes maxPayloadBytes bytes).closing = r.closing := by
  unfold onBytes onHeader sendHeaderNack
  split
  · split <;> rfl
  · rfl
  · rfl
  · rfl

end Reader

inductive Event where
  /-- Bytes arrive. -/
  | data (bytes : Bytes)
  /-- `readexactly` returns. -/
  | read
  /-- The Header NACK is drained. -/
  | drained
  /-- `asyncio.sleep(0)` in `discard` returns. -/
  | resumed
  /-- The deadline of a discard passes. -/
  | deadline
  /-- The handler of a frame returns. -/
  | handled
  /-- EOF, a reset, a cancellation or an exception of a handler. -/
  | fail
  /-- Anything sets `_closing`. -/
  | close
  deriving DecidableEq, Repr

/-- Let the loop run to its next await. -/
def step (maxPayloadBytes : Nat) (r : Reader) : Event → Option Reader
  | .data bytes => some { r with buffer := r.buffer ++ bytes }
  | .read =>
      match r.needs with
      | some n =>
          if n ≤ r.buffer.length then
            some (({ r with buffer := r.buffer.drop n }).onBytes maxPayloadBytes (r.buffer.take n))
          else none
      | none => none
  | .drained =>
      match r.point with
      | .nacking .raise => some { r with point := .ended }
      | .nacking (.discard n) => some (r.discard n)
      | _ => none
  | .resumed =>
      match r.point with
      | .yielding remaining => some (r.discard remaining)
      | _ => none
  | .deadline =>
      match r.point with
      | .discarding _ | .yielding _ => some { r with point := .ended }
      | _ => none
  | .handled =>
      match r.point with
      | .handling _ => some r.loop
      | _ => none
  | .fail => if r.point = .ended then none else some { r with point := .ended }
  | .close => some { r with closing := true }

/-- **A step that happens**, with the guards it passed. -/
inductive Effect (maxPayloadBytes : Nat) (r : Reader) : Event → Reader → Prop where
  | arrived (bytes : Bytes) :
      Effect maxPayloadBytes r (.data bytes) { r with buffer := r.buffer ++ bytes }
  | read (n : Nat) (hneeds : r.needs = some n) (hlen : n ≤ r.buffer.length) :
      Effect maxPayloadBytes r .read
        (({ r with buffer := r.buffer.drop n }).onBytes maxPayloadBytes (r.buffer.take n))
  | raised (hpoint : r.point = .nacking .raise) :
      Effect maxPayloadBytes r .drained { r with point := .ended }
  | discards (n : Nat) (hpoint : r.point = .nacking (.discard n)) :
      Effect maxPayloadBytes r .drained (r.discard n)
  | resumed (remaining : Nat) (hpoint : r.point = .yielding remaining) :
      Effect maxPayloadBytes r .resumed (r.discard remaining)
  | overdue (n : Nat) (hpoint : r.point = .discarding n ∨ r.point = .yielding n) :
      Effect maxPayloadBytes r .deadline { r with point := .ended }
  | handled (raw : Bytes) (hpoint : r.point = .handling raw) :
      Effect maxPayloadBytes r .handled r.loop
  | failed (hpoint : r.point ≠ .ended) : Effect maxPayloadBytes r .fail { r with point := .ended }
  | closed : Effect maxPayloadBytes r .close { r with closing := true }

theorem effect_of_step {maxPayloadBytes : Nat} {r r' : Reader} {e : Event}
    (hstep : step maxPayloadBytes r e = some r') : Effect maxPayloadBytes r e r' := by
  cases e <;> unfold step at hstep <;> dsimp only at hstep
  case data bytes =>
    cases hstep
    exact .arrived bytes
  case read =>
    split at hstep
    · rename_i n hneeds
      rw [Option.ite_none_right_eq_some, Option.some.injEq] at hstep
      obtain ⟨hlen, rfl⟩ := hstep
      exact .read n hneeds hlen
    · cases hstep
  case drained =>
    split at hstep <;> cases hstep <;> rename_i hpoint
    · exact .raised hpoint
    · exact .discards _ hpoint
  case resumed =>
    split at hstep <;> cases hstep
    rename_i remaining hpoint
    exact .resumed remaining hpoint
  case deadline =>
    split at hstep <;> cases hstep <;> rename_i hpoint
    · exact .overdue _ (.inl hpoint)
    · exact .overdue _ (.inr hpoint)
  case handled =>
    split at hstep <;> cases hstep
    rename_i raw hpoint
    exact .handled raw hpoint
  case fail =>
    rw [Option.ite_none_left_eq_some, Option.some.injEq] at hstep
    obtain ⟨hpoint, rfl⟩ := hstep
    exact .failed hpoint
  case close =>
    cases hstep
    exact .closed

/-- The bytes that have arrived. -/
def received : List Event → Bytes
  | [] => []
  | .data bytes :: es => bytes ++ received es
  | _ :: es => received es

/-! ## §3. The reference grammar. -/

/-- Version 2 or 3, and its complement. -/
def ValidPattern (header : Bytes) : Prop :=
  (header.headD 0 = 0x02 ∨ header.headD 0 = 0x03)
    ∧ (header.drop 1).headD 0 = 0xFF ^^^ header.headD 0

/-- The payload types of the listener. -/
def Supported (header : Bytes) : Prop :=
  ptype header = 0x0000 ∨ ptype header = 0x0005 ∨ ptype header = 0x0007
    ∨ ptype header = 0x0008 ∨ ptype header = 0x4001 ∨ ptype header = 0x4003
    ∨ ptype header = 0x8001

/-- The declared length is one of the type. -/
def LengthFits (header : Bytes) : Prop :=
  (ptype header = 0x0000 ∧ payloadLen header = 1)
    ∨ (ptype header = 0x0005 ∧ (payloadLen header = 7 ∨ payloadLen header = 11))
    ∨ (ptype header = 0x0007 ∧ payloadLen header = 0)
    ∨ (ptype header = 0x0008 ∧ payloadLen header = 2)
    ∨ (ptype header = 0x4001 ∧ payloadLen header = 0)
    ∨ (ptype header = 0x4003 ∧ payloadLen header = 0)
    ∨ (ptype header = 0x8001 ∧ 5 ≤ payloadLen header)

/-- The header ends the stream, with this NACK. -/
inductive Stops (maxPayloadBytes : Nat) (header : Bytes) : UInt8 → Prop
  | pattern (h : ¬ ValidPattern header) : Stops maxPayloadBytes header 0x00
  | length (h : ValidPattern header) (hs : Supported header)
      (hcap : payloadLen header ≤ maxPayloadBytes) (hl : ¬ LengthFits header) :
      Stops maxPayloadBytes header 0x04

/-- The message is skipped, with this NACK. -/
inductive Skips (maxPayloadBytes : Nat) (header : Bytes) : UInt8 → Prop
  | unsupported (h : ValidPattern header) (hs : ¬ Supported header) :
      Skips maxPayloadBytes header 0x01
  | tooLarge (h : ValidPattern header) (hs : Supported header)
      (hcap : maxPayloadBytes < payloadLen header) : Skips maxPayloadBytes header 0x02

/-- The message is a frame. -/
structure Accepts (maxPayloadBytes : Nat) (header : Bytes) : Prop where
  pattern : ValidPattern header
  supported : Supported header
  cap : payloadLen header ≤ maxPayloadBytes
  length : LengthFits header

/-- Reads of at most 4096 bytes that make up this body. -/
structure Chunked (chunks : List Bytes) (body : Bytes) : Prop where
  total : chunks.flatten = body
  bound : ∀ chunk ∈ chunks, chunk.length ≤ 4096

/-- **The reference grammar**: a stream as messages, and what each of them
leads to.  The last message may be incomplete. -/
inductive Grammar (maxPayloadBytes : Nat) : Bytes → List Item → Prop
  | short {stream : Bytes} (h : stream.length < 8) : Grammar maxPayloadBytes stream []
  | stop {header rest : Bytes} {nack : UInt8} (h8 : header.length = 8)
      (h : Stops maxPayloadBytes header nack) :
      Grammar maxPayloadBytes (header ++ rest) [.nack nack]
  | skip {header body rest : Bytes} {nack : UInt8} {chunks : List Bytes} {items : List Item}
      (h8 : header.length = 8) (h : Skips maxPayloadBytes header nack)
      (hbody : body.length = payloadLen header) (hchunks : Chunked chunks body)
      (hrest : Grammar maxPayloadBytes rest items) :
      Grammar maxPayloadBytes (header ++ body ++ rest)
        (.nack nack :: chunks.map .chunk ++ items)
  | skipping {header body unread : Bytes} {nack : UInt8} {chunks : List Bytes}
      (h8 : header.length = 8) (h : Skips maxPayloadBytes header nack)
      (hbody : (body ++ unread).length < payloadLen header) (hchunks : Chunked chunks body) :
      Grammar maxPayloadBytes (header ++ (body ++ unread)) (.nack nack :: chunks.map .chunk)
  | frame {header body rest : Bytes} {items : List Item} (h8 : header.length = 8)
      (h : Accepts maxPayloadBytes header) (hbody : body.length = payloadLen header)
      (hrest : Grammar maxPayloadBytes rest items) :
      Grammar maxPayloadBytes (header ++ body ++ rest) (.frame (header ++ body) :: items)
  | reading {header body : Bytes} (h8 : header.length = 8) (h : Accepts maxPayloadBytes header)
      (hbody : body.length < payloadLen header) : Grammar maxPayloadBytes (header ++ body) []

/-! ## §4. The checks are those of the grammar. -/

variable {maxPayloadBytes : Nat} {header : Bytes} {nack : UInt8}

theorem lookup_cons_eq {α : Type} (pt pt' : Nat) (a : α) (table : List (Nat × α)) :
    ((pt', a) :: table).lookup pt = if pt = pt' then some a else table.lookup pt := by
  rw [List.lookup_cons]
  by_cases h : pt = pt'
  · rw [if_pos h, beq_iff_eq.mpr h]
  · rw [if_neg h, beq_eq_false_iff_ne.mpr h]

theorem lookup_eq (pt : Nat) : tcpPayloadLengths.lookup pt =
    if pt = 0x0000 then some (some [1])
    else if pt = 0x0005 then some (some [7, 11])
    else if pt = 0x0007 then some (some [0])
    else if pt = 0x0008 then some (some [2])
    else if pt = 0x4001 then some (some [0])
    else if pt = 0x4003 then some (some [0])
    else if pt = 0x8001 then some none
    else none := by
  unfold tcpPayloadLengths ptHeaderNack ptRoutingActivationRequest ptAliveCheckRequest
    ptAliveCheckResponse ptEntityStatusRequest ptPowerModeRequest ptDiagnosticMessage
  simp only [lookup_cons_eq, List.lookup_nil]

theorem supported_of_lookup {lengths : Option (List Nat)}
    (h : tcpPayloadLengths.lookup (ptype header) = some lengths) : Supported header := by
  rw [lookup_eq] at h
  unfold Supported
  by_contra hno
  simp only [not_or] at hno
  obtain ⟨h₁, h₂, h₃, h₄, h₅, h₆, h₇⟩ := hno
  rw [if_neg h₁, if_neg h₂, if_neg h₃, if_neg h₄, if_neg h₅, if_neg h₆, if_neg h₇] at h
  cases h

theorem not_supported_of_lookup (h : tcpPayloadLengths.lookup (ptype header) = none) :
    ¬ Supported header := by
  rw [lookup_eq] at h
  rintro (ht | ht | ht | ht | ht | ht | ht) <;> rw [ht] at h <;> simp at h

/-- The rule of the table is that of the type. -/
theorem lengthFits_iff {lengths : Option (List Nat)}
    (h : tcpPayloadLengths.lookup (ptype header) = some lengths) :
    LengthFits header ↔ validLength lengths (payloadLen header) = true := by
  have hsupported := supported_of_lookup h
  rw [lookup_eq] at h
  unfold LengthFits
  rcases hsupported with ht | ht | ht | ht | ht | ht | ht <;> rw [ht] at h ⊢ <;>
    simp only [Nat.reduceEqDiff, if_true, if_false, Option.some.injEq] at h <;> subst h <;>
    simp [validLength]

theorem checkHeader_pattern :
    (!validVersions.contains (header.headD 0)
      || (header.drop 1).headD 0 != 0xFF ^^^ header.headD 0) = true ↔ ¬ ValidPattern header := by
  unfold ValidPattern validVersions
  rw [Classical.not_and_iff_not_or_not]
  simp

/-- **The checks are made in the order of the grammar.** -/
theorem checkHeader_spec :
    match checkHeader maxPayloadBytes header with
    | .stop nack => Stops maxPayloadBytes header nack
    | .discard nack => Skips maxPayloadBytes header nack
    | .read => Accepts maxPayloadBytes header := by
  unfold checkHeader
  dsimp only
  by_cases hpattern : ValidPattern header
  · rw [if_neg (fun h => checkHeader_pattern.mp h hpattern)]
    cases hlookup : tcpPayloadLengths.lookup (ptype header) with
    | none => exact .unsupported hpattern (not_supported_of_lookup hlookup)
    | some lengths =>
        have hsupported := supported_of_lookup hlookup
        dsimp only
        by_cases hcap : maxPayloadBytes < payloadLen header
        · rw [if_pos hcap]
          exact .tooLarge hpattern hsupported hcap
        rw [if_neg hcap]
        by_cases hfits : LengthFits header
        · rw [if_pos ((lengthFits_iff hlookup).mp hfits)]
          exact ⟨hpattern, hsupported, Nat.not_lt.mp hcap, hfits⟩
        · rw [if_neg (fun h => hfits ((lengthFits_iff hlookup).mpr h))]
          exact .length hpattern hsupported (Nat.not_lt.mp hcap) hfits
  · rw [if_pos (checkHeader_pattern.mpr hpattern)]
    exact .pattern hpattern

/-! ## §5. What a stream leads to, as a function. -/

/-- The reads of a discard for which there are enough bytes. -/
def chunksOf (remaining : Nat) (stream : Bytes) : List Bytes :=
  if remaining = 0 then []
  else
    let size := min remaining tcpDiscardChunkBytes
    if stream.length < size then []
    else stream.take size :: chunksOf (remaining - size) (stream.drop size)
termination_by remaining
decreasing_by
  unfold tcpDiscardChunkBytes
  omega

/-- All that the loop does with this stream. -/
def transcript (maxPayloadBytes : Nat) (stream : Bytes) : List Item :=
  if stream.length < 8 then []
  else
    let n := payloadLen (stream.take 8)
    match checkHeader maxPayloadBytes (stream.take 8) with
    | .stop nack => [.nack nack]
    | .discard nack =>
        .nack nack :: ((chunksOf n (stream.drop 8)).map .chunk
          ++ if (stream.drop 8).length < n then []
            else transcript maxPayloadBytes ((stream.drop 8).drop n))
    | .read =>
        if (stream.drop 8).length < n then []
        else .frame (stream.take 8 ++ (stream.drop 8).take n)
          :: transcript maxPayloadBytes ((stream.drop 8).drop n)
termination_by stream.length
decreasing_by
  all_goals
    simp only [List.length_drop]
    omega

theorem chunksOf_zero (stream : Bytes) : chunksOf 0 stream = [] := by
  rw [chunksOf, if_pos rfl]

/-- The reads of a discard take a part of the stream off, in pieces. -/
theorem chunksOf_spec (remaining : Nat) (stream : Bytes) :
    ∃ unread, (chunksOf remaining stream).flatten ++ unread = stream.take remaining
      ∧ (∀ chunk ∈ chunksOf remaining stream, chunk.length ≤ 4096)
      ∧ (remaining ≤ stream.length → unread = []) := by
  induction remaining, stream using chunksOf.induct with
  | case1 stream =>
      exact ⟨[], by simp [chunksOf_zero], by simp [chunksOf_zero], fun _ => rfl⟩
  | case2 remaining stream hne size hlt =>
      have hnil : chunksOf remaining stream = [] := by
        rw [chunksOf, if_neg hne]
        exact if_pos hlt
      refine ⟨stream.take remaining, by rw [hnil]; rfl, by simp [hnil], fun hle => ?_⟩
      have hmin : size ≤ remaining := Nat.min_le_left _ _
      omega
  | case3 remaining stream hne size hge ih =>
      have hcons : chunksOf remaining stream
          = stream.take size :: chunksOf (remaining - size) (stream.drop size) := by
        rw [chunksOf, if_neg hne]
        exact if_neg hge
      have hmin : size ≤ remaining := Nat.min_le_left _ _
      have hsize : size ≤ 4096 := Nat.min_le_right _ _
      obtain ⟨unread, hflat, hbound, hall⟩ := ih
      refine ⟨unread, ?_, ?_, ?_⟩
      · rw [hcons, List.flatten_cons, List.append_assoc, hflat, ← List.take_add]
        congr 1
        omega
      · rw [hcons]
        intro chunk hmem
        rcases List.mem_cons.mp hmem with rfl | hmem
        · rw [List.length_take]
          omega
        · exact hbound chunk hmem
      · intro hle
        apply hall
        rw [List.length_drop]
        omega

theorem chunksOf_complete {remaining : Nat} {stream : Bytes} (h : remaining ≤ stream.length) :
    Chunked (chunksOf remaining stream) (stream.take remaining) := by
  obtain ⟨unread, hflat, hbound, hall⟩ := chunksOf_spec remaining stream
  rw [hall h, List.append_nil] at hflat
  exact ⟨hflat, hbound⟩

/-- One message of the grammar, and the rest of the stream. -/
theorem grammar_message {header tail : Bytes} (h8 : header.length = 8)
    (ih : ∀ n, Grammar maxPayloadBytes (tail.drop n)
      (transcript maxPayloadBytes (tail.drop n))) :
    Grammar maxPayloadBytes (header ++ tail)
      (match checkHeader maxPayloadBytes header with
        | .stop nack => [.nack nack]
        | .discard nack =>
            .nack nack :: ((chunksOf (payloadLen header) tail).map .chunk
              ++ if tail.length < payloadLen header then []
                else transcript maxPayloadBytes (tail.drop (payloadLen header)))
        | .read =>
            if tail.length < payloadLen header then []
            else .frame (header ++ tail.take (payloadLen header))
              :: transcript maxPayloadBytes (tail.drop (payloadLen header))) := by
  have hspec : match checkHeader maxPayloadBytes header with
    | .stop nack => Stops maxPayloadBytes header nack
    | .discard nack => Skips maxPayloadBytes header nack
    | .read => Accepts maxPayloadBytes header := checkHeader_spec
  have hcut : tail.take (payloadLen header) ++ tail.drop (payloadLen header) = tail :=
    List.take_append_drop _ tail
  cases hcheck : checkHeader maxPayloadBytes header with
  | stop nack =>
      rw [hcheck] at hspec
      exact .stop h8 hspec
  | discard nack =>
      rw [hcheck] at hspec
      dsimp only
      by_cases hlen : tail.length < payloadLen header
      · obtain ⟨unread, hflat, hbound, _⟩ := chunksOf_spec (payloadLen header) tail
        rw [List.take_of_length_le (by omega)] at hflat
        have hskipping := Grammar.skipping h8 hspec (by rw [hflat]; exact hlen) ⟨rfl, hbound⟩
        rw [hflat] at hskipping
        rw [if_pos hlen, List.append_nil]
        exact hskipping
      · have hbody : (tail.take (payloadLen header)).length = payloadLen header := by
          rw [List.length_take]
          omega
        have hskip := Grammar.skip h8 hspec hbody (chunksOf_complete (Nat.not_lt.mp hlen))
          (ih (payloadLen header))
        rw [List.append_assoc, hcut] at hskip
        rw [if_neg hlen]
        exact hskip
  | read =>
      rw [hcheck] at hspec
      dsimp only
      by_cases hlen : tail.length < payloadLen header
      · rw [if_pos hlen]
        exact .reading h8 hspec hlen
      · have hbody : (tail.take (payloadLen header)).length = payloadLen header := by
          rw [List.length_take]
          omega
        have hframe := Grammar.frame h8 hspec hbody (ih (payloadLen header))
        rw [List.append_assoc, hcut] at hframe
        rw [if_neg hlen]
        exact hframe

/-- **What the function says is what the grammar says.** -/
theorem grammar_transcript (maxPayloadBytes : Nat) (stream : Bytes) :
    Grammar maxPayloadBytes stream (transcript maxPayloadBytes stream) := by
  induction hn : stream.length using Nat.strongRecOn generalizing stream with
  | _ n ih =>
      rw [transcript]
      by_cases hshort : stream.length < 8
      · rw [if_pos hshort]
        exact .short hshort
      have h8 : (stream.take 8).length = 8 := by
        rw [List.length_take]
        omega
      have hrest : ∀ k, Grammar maxPayloadBytes ((stream.drop 8).drop k)
          (transcript maxPayloadBytes ((stream.drop 8).drop k)) := by
        intro k
        refine ih ((stream.drop 8).drop k).length ?_ _ rfl
        simp only [List.length_drop]
        omega
      rw [if_neg hshort]
      have hmessage := grammar_message h8 hrest
      rw [List.take_append_drop] at hmessage
      exact hmessage

/-! ## §6. The loop follows the function. -/

/-- All that a discard of so many bytes, and the loop after it, do with this stream. -/
def afterDiscard (maxPayloadBytes remaining : Nat) (stream : Bytes) : List Item :=
  (chunksOf remaining stream).map .chunk
    ++ if stream.length < remaining then []
      else transcript maxPayloadBytes (stream.drop remaining)

/-- All that the loop does from here with what it has not read yet. -/
def continuation (maxPayloadBytes : Nat) (point : Point) (stream : Bytes) : List Item :=
  match point with
  | .header | .handling _ => transcript maxPayloadBytes stream
  | .nacking .raise | .ended => []
  | .nacking (.discard n) | .discarding n | .yielding n => afterDiscard maxPayloadBytes n stream
  | .payload header =>
      if stream.length < payloadLen header then []
      else .frame (header ++ stream.take (payloadLen header))
        :: transcript maxPayloadBytes (stream.drop (payloadLen header))

theorem transcript_short {stream : Bytes} (h : stream.length < 8) :
    transcript maxPayloadBytes stream = [] := by
  rw [transcript, if_pos h]

theorem transcript_header {header : Bytes} (h8 : header.length = 8) (tail : Bytes) :
    transcript maxPayloadBytes (header ++ tail) =
      match checkHeader maxPayloadBytes header with
      | .stop nack => [.nack nack]
      | .discard nack => .nack nack :: afterDiscard maxPayloadBytes (payloadLen header) tail
      | .read => continuation maxPayloadBytes (.payload header) tail := by
  have htake : (header ++ tail).take 8 = header := by
    rw [← h8, List.take_left]
  have hdrop : (header ++ tail).drop 8 = tail := by
    rw [← h8, List.drop_left]
  rw [transcript, if_neg (by rw [List.length_append]; omega), htake, hdrop]
  rfl

theorem afterDiscard_zero (stream : Bytes) :
    afterDiscard maxPayloadBytes 0 stream = transcript maxPayloadBytes stream := by
  unfold afterDiscard
  rw [chunksOf_zero, if_neg (Nat.not_lt_zero _)]
  rfl

theorem afterDiscard_short {remaining : Nat} {stream : Bytes} (h0 : remaining ≠ 0)
    (h : stream.length < min remaining tcpDiscardChunkBytes) :
    afterDiscard maxPayloadBytes remaining stream = [] := by
  unfold afterDiscard
  rw [chunksOf, if_neg h0]
  dsimp only
  rw [if_pos h, if_pos (by omega)]
  rfl

theorem afterDiscard_read {remaining : Nat} {bytes : Bytes} (h0 : remaining ≠ 0)
    (h : bytes.length = min remaining tcpDiscardChunkBytes) (stream : Bytes) :
    afterDiscard maxPayloadBytes remaining (bytes ++ stream)
      = .chunk bytes :: afterDiscard maxPayloadBytes (remaining - bytes.length) stream := by
  have hle : bytes.length ≤ remaining := by
    rw [h]
    exact Nat.min_le_left _ _
  have hdrop : (bytes ++ stream).drop remaining = stream.drop (remaining - bytes.length) := by
    rw [List.drop_append, List.drop_of_length_le hle]
    rfl
  unfold afterDiscard
  rw [chunksOf, if_neg h0]
  dsimp only
  rw [← h, if_neg (by rw [List.length_append]; omega), List.take_left, List.drop_left, hdrop]
  by_cases hlen : stream.length < remaining - bytes.length
  · rw [if_pos hlen, if_pos (by rw [List.length_append]; omega)]
    rfl
  · rw [if_neg hlen, if_neg (by rw [List.length_append]; omega)]
    rfl

theorem received_append (es fs : List Event) :
    received (es ++ fs) = received es ++ received fs := by
  induction es with
  | nil => rfl
  | cons e es ih =>
      cases e with
      | data bytes =>
          show bytes ++ received (es ++ fs) = (bytes ++ received es) ++ received fs
          rw [ih, List.append_assoc]
      | read | drained | resumed | deadline | handled | fail | close => exact ih

/-- What has been done and what is still to be done is what the stream leads
to, whatever is yet to come. -/
structure Follows (maxPayloadBytes : Nat) (stream : Bytes) (r : Reader) : Prop where
  atWork : r.point ≠ .ended → ∀ more, transcript maxPayloadBytes (stream ++ more)
    = r.trace ++ continuation maxPayloadBytes r.point (r.buffer ++ more)
  done : ∀ more, r.trace <+: transcript maxPayloadBytes (stream ++ more)
  remains : ∀ n, r.point = .discarding n → n ≠ 0

namespace Follows

variable {stream : Bytes} {r : Reader}

/-- As long as the loop is at work, it is enough to know what is to be done. -/
theorem of_atWork (h : ∀ more, transcript maxPayloadBytes (stream ++ more)
      = r.trace ++ continuation maxPayloadBytes r.point (r.buffer ++ more))
    (hremains : ∀ n, r.point = .discarding n → n ≠ 0) : Follows maxPayloadBytes stream r :=
  ⟨fun _ => h, fun more => ⟨_, (h more).symm⟩, hremains⟩

/-- The loop may end anywhere. -/
theorem ends (h : Follows maxPayloadBytes stream r) :
    Follows maxPayloadBytes stream { r with point := .ended } :=
  ⟨fun hne => absurd rfl hne, h.done, nofun⟩

theorem data (h : Follows maxPayloadBytes stream r) (bytes : Bytes) :
    Follows maxPayloadBytes (stream ++ bytes) { r with buffer := r.buffer ++ bytes } := by
  refine ⟨fun hne more => ?_, fun more => ?_, h.remains⟩
  · rw [List.append_assoc, List.append_assoc]
    exact h.atWork hne (bytes ++ more)
  · rw [List.append_assoc]
    exact h.done (bytes ++ more)

/-- Back at the head of the loop, or of the discard. -/
theorem discard {n : Nat} (hclosing : r.closing = false) (h : ∀ more,
      transcript maxPayloadBytes (stream ++ more)
        = r.trace ++ afterDiscard maxPayloadBytes n (r.buffer ++ more)) :
    Follows maxPayloadBytes stream (r.discard n) := by
  unfold Reader.discard Reader.loop
  by_cases hn : n = 0
  · rw [if_pos hn, hclosing]
    subst hn
    refine .of_atWork (fun more => ?_) nofun
    rw [h, afterDiscard_zero]
    rfl
  · rw [if_neg hn]
    refine .of_atWork h (fun n' hn' => ?_)
    cases hn'
    exact hn

/-- The eight bytes of a header. -/
theorem onHeader {header : Bytes} (hclosing : r.closing = false) (h8 : header.length = 8)
    (h : ∀ more, transcript maxPayloadBytes (stream ++ more)
        = r.trace ++ transcript maxPayloadBytes (header ++ (r.buffer ++ more))) :
    Follows maxPayloadBytes stream (r.onHeader maxPayloadBytes header) := by
  unfold Reader.onHeader
  cases hcheck : checkHeader maxPayloadBytes header with
  | stop nack =>
      unfold Reader.sendHeaderNack
      dsimp only
      rw [hclosing]
      refine .of_atWork (fun more => ?_) nofun
      rw [h, transcript_header h8, hcheck]
      exact (List.append_nil _).symm
  | discard nack =>
      unfold Reader.sendHeaderNack
      dsimp only
      rw [hclosing]
      refine .of_atWork (fun more => ?_) nofun
      rw [h, transcript_header h8, hcheck]
      exact (List.append_assoc _ [_] _).symm
  | read =>
      refine .of_atWork (fun more => ?_) nofun
      rw [h, transcript_header h8, hcheck]

/-- `readexactly` has returned. -/
theorem read (h : Follows maxPayloadBytes stream r) (hclosing : r.closing = false) {n : Nat}
    (hneeds : r.needs = some n) (hlen : n ≤ r.buffer.length) :
    Follows maxPayloadBytes stream
      (({ r with buffer := r.buffer.drop n }).onBytes maxPayloadBytes (r.buffer.take n)) := by
  have hne : r.point ≠ .ended := by
    intro hended
    rw [Reader.needs, hended] at hneeds
    cases hneeds
  have hcut : ∀ more, r.buffer ++ more = r.buffer.take n ++ (r.buffer.drop n ++ more) := by
    intro more
    rw [← List.append_assoc, List.take_append_drop]
  have htake : (r.buffer.take n).length = n := by
    rw [List.length_take]
    omega
  have hwork := h.atWork hne
  unfold Reader.needs at hneeds
  unfold Reader.onBytes
  cases hpoint : r.point with
  | header =>
      rw [hpoint] at hneeds hwork
      cases hneeds
      dsimp only
      refine onHeader hclosing htake (fun more => ?_)
      rw [hwork, hcut]
      rfl
  | discarding remaining =>
      rw [hpoint] at hneeds hwork
      have hn : min remaining tcpDiscardChunkBytes = n := Option.some.inj hneeds
      dsimp only
      refine .of_atWork (fun more => ?_) nofun
      rw [hwork, hcut]
      show r.trace ++ afterDiscard _ remaining _ = _
      rw [afterDiscard_read (h.remains remaining hpoint) (htake.trans hn.symm)]
      exact (List.append_assoc _ [_] _).symm
  | payload header =>
      rw [hpoint] at hneeds hwork
      have hn : payloadLen header = n := Option.some.inj hneeds
      dsimp only
      refine .of_atWork (fun more => ?_) nofun
      rw [hwork, hcut]
      unfold continuation
      dsimp only
      rw [hn, if_neg (by rw [List.length_append]; omega)]
      have hleft : (r.buffer.take n ++ (r.buffer.drop n ++ more)).take n = r.buffer.take n := by
        rw [List.take_append_of_le_length (by omega), List.take_of_length_le (by omega)]
      have hright : (r.buffer.take n ++ (r.buffer.drop n ++ more)).drop n
          = r.buffer.drop n ++ more := List.drop_left' htake
      rw [hleft, hright]
      exact (List.append_assoc _ [_] _).symm
  | nacking next | yielding remaining | handling raw | ended =>
      rw [hpoint] at hneeds
      cases hneeds

/-- **Every step keeps to the stream.** -/
theorem step {e : Event} {r' : Reader} (hstep : Framing.step maxPayloadBytes r e = some r')
    (h : r.closing = false → Follows maxPayloadBytes stream r) (hclosing : r'.closing = false) :
    Follows maxPayloadBytes (stream ++ received [e]) r' := by
  have hnil : stream ++ [] = stream := List.append_nil stream
  cases effect_of_step hstep with
  | arrived bytes =>
      show Follows maxPayloadBytes (stream ++ (bytes ++ [])) _
      rw [List.append_nil]
      exact (h hclosing).data bytes
  | read n hneeds hlen =>
      show Follows maxPayloadBytes (stream ++ []) _
      rw [hnil]
      rw [Reader.onBytes_closing] at hclosing
      exact (h hclosing).read hclosing hneeds hlen
  | raised | overdue | failed =>
      show Follows maxPayloadBytes (stream ++ []) _
      rw [hnil]
      exact (h hclosing).ends
  | discards n hpoint | resumed n hpoint =>
      show Follows maxPayloadBytes (stream ++ []) _
      rw [hnil]
      rw [Reader.discard_closing] at hclosing
      have hwork := (h hclosing).atWork (by rw [hpoint]; exact nofun)
      rw [hpoint] at hwork
      exact discard hclosing hwork
  | handled raw hpoint =>
      show Follows maxPayloadBytes (stream ++ []) _
      rw [hnil]
      have hwork := (h hclosing).atWork (by rw [hpoint]; exact nofun)
      rw [hpoint] at hwork
      -- the next turn of the loop discards nothing
      have hloop : r.loop = r.discard 0 := rfl
      rw [hloop]
      refine discard hclosing (fun more => ?_)
      rw [hwork, afterDiscard_zero]
      rfl
  | closed => cases hclosing

end Follows

/-- Every run keeps to the stream, while nothing closes the session. -/
theorem run_follows {es : List Event} {r : Reader}
    (h : Transition.exec (step maxPayloadBytes) {} es = some r) (hclosing : r.closing = false) :
    Follows maxPayloadBytes (received es) r := by
  refine Transition.exec_history
    (fun es r => r.closing = false → Follows maxPayloadBytes (received es) r)
    (fun _ => .of_atWork (fun _ => rfl) (fun n hn => by cases hn))
    (fun es r e r' ih hstep hclosing => ?_) es r h hclosing
  rw [received_append]
  exact Follows.step hstep ih hclosing

/-- The loop waits for bytes that have not arrived, or a stop is on its way. -/
def Reader.Waits (r : Reader) : Prop :=
  (∃ n, r.needs = some n ∧ r.buffer.length < n) ∨ r.point = .nacking .raise

/-- Nothing is left to be done. -/
theorem continuation_of_waits {stream : Bytes} {r : Reader} (hf : Follows maxPayloadBytes stream r)
    (h : r.Waits) : r.point ≠ .ended ∧ continuation maxPayloadBytes r.point r.buffer = [] := by
  rcases h with ⟨n, hneeds, hlen⟩ | hpoint
  · unfold Reader.needs at hneeds
    cases hpoint : r.point with
    | header =>
        rw [hpoint] at hneeds
        cases hneeds
        exact ⟨nofun, transcript_short hlen⟩
    | discarding remaining =>
        rw [hpoint] at hneeds
        have hn : min remaining tcpDiscardChunkBytes = n := Option.some.inj hneeds
        exact ⟨nofun,
          afterDiscard_short (hf.remains remaining hpoint) (by rw [hn]; exact hlen)⟩
    | payload header =>
        rw [hpoint] at hneeds
        have hn : payloadLen header = n := Option.some.inj hneeds
        exact ⟨nofun, if_pos (by rw [hn]; exact hlen)⟩
    | nacking next | yielding remaining | handling raw | ended =>
        rw [hpoint] at hneeds
        cases hneeds
  · rw [hpoint]
    exact ⟨nofun, rfl⟩

/-- Where the loop waits, all is done. -/
theorem Follows.trace_of_waits {stream : Bytes} {r : Reader} (h : Follows maxPayloadBytes stream r)
    (hwaits : r.Waits) : r.trace = transcript maxPayloadBytes stream := by
  obtain ⟨hne, hnothing⟩ := continuation_of_waits h hwaits
  have hwork := h.atWork hne []
  rw [List.append_nil, List.append_nil, hnothing, List.append_nil] at hwork
  exact hwork.symm

/-- **What the loop has done is what the grammar says about the bytes that
have arrived**: a part of it, and all of it where the loop waits. -/
theorem framing_follows_grammar (maxPayloadBytes : Nat) (es : List Event) (r : Reader)
    (h : Transition.exec (step maxPayloadBytes) {} es = some r) (hclosing : r.closing = false) :
    ∃ items, Grammar maxPayloadBytes (received es) items ∧ r.trace <+: items
      ∧ (r.Waits → r.trace = items) := by
  have hf := run_follows h hclosing
  refine ⟨_, grammar_transcript maxPayloadBytes (received es), ?_, fun hwaits => ?_⟩
  · have hdone := hf.done []
    rw [List.append_nil] at hdone
    exact hdone
  · exact hf.trace_of_waits hwaits

/-- A message of an unsupported type whose body is itself a message, then
the same message on its own. -/
def embedded : List Event :=
  [.data ([0x02, 0xFD, 0x00, 0x06, 0, 0, 0, 8] ++ [0x02, 0xFD, 0x40, 0x03]),
    .read, .drained,
    .data [0, 0, 0, 0], .read, .resumed,
    .data [0x02, 0xFD, 0x40, 0x03, 0, 0, 0, 0], .read, .read, .handled]

theorem framing_follows_grammar_embedded :
    ∃ r, Transition.exec (step 1) {} embedded = some r
      ∧ r.Waits
      ∧ r.trace = [.nack 0x01, .chunk [0x02, 0xFD, 0x40, 0x03, 0, 0, 0, 0],
          .frame [0x02, 0xFD, 0x40, 0x03, 0, 0, 0, 0]]
      ∧ Grammar 1 (received embedded) r.trace := by
  have hrun : Transition.exec (step 1) {} embedded
      = some ⟨[], false, .header, [.nack 0x01, .chunk [0x02, 0xFD, 0x40, 0x03, 0, 0, 0, 0],
          .frame [0x02, 0xFD, 0x40, 0x03, 0, 0, 0, 0]]⟩ := by decide
  obtain ⟨items, hgrammar, _, hall⟩ := framing_follows_grammar 1 embedded _ hrun rfl
  have hwaits : Reader.Waits ⟨[], false, .header,
      [.nack 0x01, .chunk [0x02, 0xFD, 0x40, 0x03, 0, 0, 0, 0],
        .frame [0x02, 0xFD, 0x40, 0x03, 0, 0, 0, 0]]⟩ := .inl ⟨8, rfl, by decide⟩
  refine ⟨_, hrun, hwaits, rfl, ?_⟩
  rw [hall hwaits]
  exact hgrammar

/-! ## §7. The loop goes on by itself. -/

/-- Nothing has to come from outside for it. -/
def Event.Own : Event → Prop
  | .read | .drained | .resumed | .handled => True
  | .data _ | .deadline | .fail | .close => False

/-- **Progress**: a loop that is at work and does not wait can go on. -/
theorem goes_on {r : Reader} (hne : r.point ≠ .ended) (hwaits : ¬ r.Waits) :
    ∃ e r', Event.Own e ∧ step maxPayloadBytes r e = some r' := by
  have hread : ∀ n, r.needs = some n → ∃ e r', Event.Own e ∧ step maxPayloadBytes r e = some r' := by
    intro n hneeds
    have hlen : n ≤ r.buffer.length := by
      apply Nat.not_lt.mp
      intro hshort
      exact hwaits (.inl ⟨n, hneeds, hshort⟩)
    refine ⟨.read, ({ r with buffer := r.buffer.drop n }).onBytes maxPayloadBytes (r.buffer.take n),
      trivial, ?_⟩
    unfold step
    dsimp only
    rw [hneeds]
    exact if_pos hlen
  cases hpoint : r.point with
  | header | discarding _ | payload _ =>
      apply hread
      unfold Reader.needs
      rw [hpoint]
  | nacking next =>
      cases next with
      | raise => exact absurd (.inr hpoint) hwaits
      | discard n =>
          refine ⟨.drained, r.discard n, trivial, ?_⟩
          unfold step
          rw [hpoint]
  | yielding remaining =>
      refine ⟨.resumed, r.discard remaining, trivial, ?_⟩
      unfold step
      rw [hpoint]
  | handling raw =>
      refine ⟨.handled, r.loop, trivial, ?_⟩
      unfold step
      rw [hpoint]
  | ended => exact absurd hpoint hne

/-- The bytes in the buffer, and how far the loop is from the next read. -/
def Reader.rank (r : Reader) : Nat :=
  3 * r.buffer.length + match r.point with
    | .header | .discarding _ | .ended => 0
    | .yielding _ | .handling _ => 1
    | .payload _ | .nacking _ => 2

theorem Reader.discard_rank (r : Reader) (n : Nat) : (r.discard n).rank = 3 * r.buffer.length := by
  unfold Reader.discard Reader.loop
  split
  · cases r.closing <;> rfl
  · rfl

theorem Reader.onHeader_rank (r : Reader) (header : Bytes) :
    (r.onHeader maxPayloadBytes header).rank = 3 * r.buffer.length + 2 := by
  unfold Reader.onHeader Reader.sendHeaderNack
  split <;> rfl

/-- A read takes bytes, or it is the empty payload of a frame. -/
theorem Reader.onBytes_rank {r : Reader} {n : Nat} (hneeds : r.needs = some n)
    (hremains : ∀ n, r.point = .discarding n → n ≠ 0) (hlen : n ≤ r.buffer.length) :
    (({ r with buffer := r.buffer.drop n }).onBytes maxPayloadBytes (r.buffer.take n)).rank
      < r.rank := by
  have hdrop : (r.buffer.drop n).length = r.buffer.length - n := List.length_drop
  unfold Reader.needs at hneeds
  unfold Reader.onBytes
  cases hpoint : r.point with
  | header =>
      rw [hpoint] at hneeds
      have hn : doipHeaderLen = n := Option.some.inj hneeds
      have h8 : doipHeaderLen = 8 := rfl
      dsimp only
      rw [Reader.onHeader_rank]
      unfold Reader.rank
      rw [hpoint]
      dsimp only
      omega
  | discarding remaining =>
      rw [hpoint] at hneeds
      have hn : min remaining tcpDiscardChunkBytes = n := Option.some.inj hneeds
      have hsome := hremains remaining hpoint
      have hchunk : tcpDiscardChunkBytes = 4096 := rfl
      unfold Reader.rank
      rw [hpoint]
      dsimp only
      omega
  | payload header =>
      unfold Reader.rank
      rw [hpoint]
      dsimp only
      omega
  | nacking next | yielding remaining | handling raw | ended =>
      rw [hpoint] at hneeds
      cases hneeds

/-- At work, or ended with all done. -/
structure Works (maxPayloadBytes : Nat) (stream : Bytes) (r : Reader) : Prop where
  opened : r.closing = false
  follows : Follows maxPayloadBytes stream r
  complete : r.point = .ended → r.trace = transcript maxPayloadBytes stream

theorem Reader.discard_point {r : Reader} (hclosing : r.closing = false) (n : Nat) :
    (r.discard n).point ≠ .ended := by
  unfold Reader.discard Reader.loop
  rw [hclosing]
  split <;> exact nofun

theorem Reader.onBytes_point {r : Reader} (hne : r.point ≠ .ended) (bytes : Bytes) :
    (r.onBytes maxPayloadBytes bytes).point ≠ .ended := by
  unfold Reader.onBytes Reader.onHeader Reader.sendHeaderNack
  split
  · split <;> exact nofun
  · exact nofun
  · exact nofun
  · exact hne

theorem Works.keeps {stream : Bytes} {r r' : Reader} {e : Event}
    (h : Works maxPayloadBytes stream r) (hown : e.Own)
    (hstep : step maxPayloadBytes r e = some r') : Works maxPayloadBytes stream r' := by
  have hnothing : received [e] = [] := by
    cases e <;> first | rfl | cases hown
  have hclosing : r'.closing = false := by
    cases effect_of_step hstep with
    | arrived | overdue | failed | closed => cases hown
    | read => exact (Reader.onBytes_closing _ _ _).trans h.opened
    | discards | resumed => exact (Reader.discard_closing _ _).trans h.opened
    | raised | handled => exact h.opened
  have hfollows := Follows.step hstep (fun _ => h.follows) hclosing
  rw [hnothing, List.append_nil] at hfollows
  refine ⟨hclosing, hfollows, fun hended => ?_⟩
  -- an open loop ends by itself only behind a Header NACK that stops it
  cases effect_of_step hstep with
  | arrived | overdue | failed | closed => cases hown
  | raised hpoint => exact h.follows.trace_of_waits (.inr hpoint)
  | read n hneeds hlen =>
      have hne : r.point ≠ .ended := by
        intro hpoint
        rw [Reader.needs, hpoint] at hneeds
        cases hneeds
      exact absurd hended
        (Reader.onBytes_point (r := { r with buffer := r.buffer.drop n }) hne _)
  | discards n | resumed n => exact absurd hended (Reader.discard_point h.opened n)
  | handled => exact absurd hended (Reader.discard_point h.opened 0)

/-- The loop drains its buffer. -/
theorem drains (maxPayloadBytes : Nat) (stream : Bytes) :
    Transition.Drains (step maxPayloadBytes) (Works maxPayloadBytes stream) Event.Own
      (fun r => r.Waits ∨ r.point = .ended) Reader.rank where
  keeps _ _ _ h hown hstep := h.keeps hown hstep
  lowers r e r' h hown hstep := by
    cases effect_of_step hstep with
    | arrived | overdue | failed | closed => cases hown
    | read n hneeds hlen => exact Reader.onBytes_rank hneeds h.follows.remains hlen
    | raised hpoint =>
        unfold Reader.rank
        rw [hpoint]
        dsimp only
        omega
    | discards n hpoint | resumed n hpoint =>
        rw [Reader.discard_rank]
        unfold Reader.rank
        rw [hpoint]
        dsimp only
        omega
    | handled raw hpoint =>
        show (r.discard 0).rank < r.rank
        rw [Reader.discard_rank]
        unfold Reader.rank
        rw [hpoint]
        dsimp only
        omega
  goes_on r _ hnot := by
    rw [not_or] at hnot
    exact goes_on hnot.2 hnot.1

/-- **The loop does all of it.**  An open loop that is at work can go on
until it has done all that the grammar says about the bytes that have
arrived, and whatever it does by itself, it gets there. -/
theorem framing_settles {es : List Event} {r : Reader}
    (h : Transition.exec (step maxPayloadBytes) {} es = some r) (hclosing : r.closing = false)
    (hne : r.point ≠ .ended) :
    Transition.Inevitable (step maxPayloadBytes) Event.Own
      (fun r' => Grammar maxPayloadBytes (received es) r'.trace) r := by
  have hworks : Works maxPayloadBytes (received es) r :=
    ⟨hclosing, run_follows h hclosing, fun hended => absurd hended hne⟩
  refine ((drains maxPayloadBytes (received es)).inevitable hworks).mono ?_
  intro r' hdone
  obtain ⟨hworks', hpoint⟩ := hdone
  have hall : r'.trace = transcript maxPayloadBytes (received es) := by
    rcases hpoint with hwaits | hended
    · exact hworks'.follows.trace_of_waits hwaits
    · exact hworks'.complete hended
  rw [hall]
  exact grammar_transcript maxPayloadBytes (received es)

/-! ## §8. What the loop hands out. -/

/-- A header that is read on is an accepted one, and what is handed out is a frame. -/
structure Reader.Sound (maxPayloadBytes : Nat) (r : Reader) : Prop where
  payload : ∀ header, r.point = .payload header →
    header.length = 8 ∧ Accepts maxPayloadBytes header
  handling : ∀ raw, r.point = .handling raw →
    IsFrame raw ∧ Accepts maxPayloadBytes (raw.take 8) ∧ .frame raw ∈ r.trace

namespace Reader

variable {r r' : Reader}

/-- Anywhere else there is nothing to say. -/
theorem Sound.of_point (hpayload : ∀ header, r.point ≠ .payload header)
    (hhandling : ∀ raw, r.point ≠ .handling raw) : r.Sound maxPayloadBytes :=
  ⟨fun header h => absurd h (hpayload header), fun raw h => absurd h (hhandling raw)⟩

theorem Sound.loop (r : Reader) : r.loop.Sound maxPayloadBytes := by
  unfold Reader.loop
  cases r.closing with
  | true => exact .of_point nofun nofun
  | false => exact .of_point nofun nofun

theorem Sound.discard (r : Reader) (n : Nat) : (r.discard n).Sound maxPayloadBytes := by
  unfold Reader.discard
  split
  · exact .loop r
  · exact .of_point nofun nofun

theorem Sound.onHeader {header : Bytes} (h8 : header.length = 8) :
    (r.onHeader maxPayloadBytes header).Sound maxPayloadBytes := by
  have hspec : match checkHeader maxPayloadBytes header with
    | .stop nack => Stops maxPayloadBytes header nack
    | .discard nack => Skips maxPayloadBytes header nack
    | .read => Accepts maxPayloadBytes header := checkHeader_spec
  unfold Reader.onHeader
  cases hcheck : checkHeader maxPayloadBytes header with
  | stop nack => exact .of_point nofun nofun
  | discard nack => exact .of_point nofun nofun
  | read =>
      rw [hcheck] at hspec
      refine ⟨fun header' h => ?_, nofun⟩
      cases h
      exact ⟨h8, hspec⟩

/-- A header and as many bytes as it declares. -/
theorem isFrame_append {header body : Bytes} (h8 : header.length = 8)
    (hbody : body.length = payloadLen header) : IsFrame (header ++ body) := by
  have htake : (header ++ body).take 8 = header := by
    rw [← h8, List.take_left]
  have hlen : payloadLen (header ++ body) = payloadLen header := by
    rw [← payloadLen_take, htake]
  unfold IsFrame
  rw [hlen, List.length_append]
  omega

theorem Sound.step {e : Event} (h : r.Sound maxPayloadBytes)
    (hstep : Framing.step maxPayloadBytes r e = some r') : r'.Sound maxPayloadBytes := by
  cases effect_of_step hstep with
  | arrived | closed => exact ⟨h.payload, h.handling⟩
  | read n hneeds hlen =>
      have htake : (r.buffer.take n).length = n := by
        rw [List.length_take]
        omega
      unfold Reader.needs at hneeds
      unfold Reader.onBytes
      cases hpoint : r.point with
      | header =>
          rw [hpoint] at hneeds
          cases hneeds
          exact .onHeader htake
      | discarding remaining => exact .of_point nofun nofun
      | payload header =>
          -- header and body make a frame of the length the header says
          rw [hpoint] at hneeds
          obtain ⟨h8, haccepts⟩ := h.payload header hpoint
          refine ⟨nofun, fun raw hraw => ?_⟩
          cases hraw
          have htake8 : (header ++ r.buffer.take n).take 8 = header := by
            rw [← h8, List.take_left]
          refine ⟨isFrame_append h8 (htake.trans (Option.some.inj hneeds).symm), ?_, ?_⟩
          · rw [htake8]
            exact haccepts
          · exact List.mem_append_right _ (List.mem_singleton.mpr rfl)
      | nacking next | yielding remaining | handling raw | ended =>
          rw [hpoint] at hneeds
          cases hneeds
  | raised | overdue | failed => exact .of_point nofun nofun
  | discards | resumed => exact .discard _ _
  | handled => exact .loop r

/-- What is done stays done. -/
theorem step_trace {e : Event} (hstep : Framing.step maxPayloadBytes r e = some r') :
    r.trace <+: r'.trace := by
  cases effect_of_step hstep with
  | arrived | closed | raised | overdue | failed | handled => exact List.prefix_rfl
  | read =>
      unfold Reader.onBytes Reader.onHeader Reader.sendHeaderNack
      split
      · split <;> dsimp only
        · split
          · exact List.prefix_rfl
          · exact List.prefix_append _ _
        · split
          · exact List.prefix_rfl
          · exact List.prefix_append _ _
        · exact List.prefix_rfl
      · exact List.prefix_append _ _
      · exact List.prefix_append _ _
      · exact List.prefix_rfl
  | discards | resumed =>
      unfold Reader.discard
      split <;> exact List.prefix_rfl

/-- The end is the end. -/
theorem step_ended {e : Event} (h : r.point = .ended)
    (hstep : Framing.step maxPayloadBytes r e = some r') : r'.point = .ended := by
  cases effect_of_step hstep with
  | arrived | closed => exact h
  | read n hneeds =>
      unfold Reader.needs at hneeds
      rw [h] at hneeds
      cases hneeds
  | discards n hpoint | resumed n hpoint | handled n hpoint =>
      rw [h] at hpoint
      cases hpoint
  | raised | overdue | failed => rfl

/-- While a frame is handled, the reader is left alone. -/
theorem step_handling {e : Event} {raw : Bytes} (h : r.point = .handling raw)
    (he : e ≠ .handled) (hstep : Framing.step maxPayloadBytes r e = some r') :
    r'.point = .handling raw ∨ r'.point = .ended := by
  cases effect_of_step hstep with
  | arrived | closed => exact .inl h
  | read n hneeds =>
      unfold Reader.needs at hneeds
      rw [h] at hneeds
      cases hneeds
  | discards n hpoint | resumed n hpoint =>
      rw [h] at hpoint
      cases hpoint
  | handled => exact absurd rfl he
  | raised | overdue | failed => exact .inr rfl

end Reader

end DoipPlayground.EdgeNode.Framing
