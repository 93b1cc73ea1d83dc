/-
  DoipPlayground.EdgeNode.Delivery
  ────────────────────────────────
  **THE RECEIVE QUEUE OF AN ECU CONNECTION** (`ecu_client.py`).

  The background reader queues frames, any number of `recv` calls take
  them, and both may be cancelled at their awaits.  A terminal marker in the
  queue wakes the receivers one after the other: each puts it back.

    • `Delivery.step` — the reader, the receivers, `connect` and `close`,
    • `Delivery.Ok` — frames first, then at most one marker,
    • `delivery` — what every run guarantees,
    • `view` — the same as an `ECUConnection`.
-/
import DoipPlayground.EdgeNode.EcuClient
import DoipPlayground.Lib.AsyncQueue
import DoipPlayground.Lib.Run

namespace DoipPlayground.EdgeNode

open Wire

/-! ## §1. The connection and its receivers. -/

/-- One call of `recv`. -/
abbrev CallId := Nat

/-- `_terminal_error` -/
inductive TerminalCause where
  /-- The setup of the connection failed. -/
  | setup
  /-- `IncompleteReadError` -/
  | eof
  /-- The stream broke, or an Alive Check Response could not be sent. -/
  | transport
  /-- The reader took offence at a frame. -/
  | invalid (e : ReadError)
  | readerCancelled
  | closed
  deriving DecidableEq, Repr

/-- Where `_background_reader` is suspended. -/
inductive ReaderPoint where
  /-- Not started. -/
  | off
  /-- `await self._read_frame()` -/
  | reading
  /-- `await asyncio.sleep(0)` after a Header NACK. -/
  | yielding
  /-- Sending an Alive Check Response. -/
  | responding
  | done
  deriving DecidableEq, Repr

/-- How a call of `recv` ends. -/
inductive RecvEnd where
  | delivered (f : Emitted)
  /-- `ConnectionError` from the terminal error. -/
  | terminal (cause : Option TerminalCause)
  /-- "called before connect()" -/
  | notConnected
  | cancelled
  deriving DecidableEq, Repr

def RecvEnd.frame? : RecvEnd → Option Emitted
  | .delivered f => some f
  | _ => none

structure Delivery where
  connected : Bool := false
  cause : Option TerminalCause := none
  queue : AsyncQueue CallId Queued := {}
  reader : ReaderPoint := .off
  /-- `cancel()` was called on the reader task. -/
  readerCancelled : Bool := false
  /-- An explicit `close()` has begun. -/
  closed : Bool := false
  /-- The frames the reader has queued so far. -/
  arrived : List Emitted := []
  /-- The calls of `recv` that have ended so far. -/
  ended : List (CallId × RecvEnd) := []
  deriving DecidableEq, Repr

inductive DeliveryEvent where
  /-- `connect` has a stream and begins the handshake. -/
  | beginSetup
  | setupFails
  /-- The handshake is through: the reader starts. -/
  | activate
  /-- The reader has read a frame. -/
  | arrive (f : Emitted)
  | eof
  | transportError
  /-- The reader is back from its other awaits. -/
  | proceed
  | cancelReader
  /-- `CancelledError` reaches the reader. -/
  | readerStops
  | call (r : CallId)
  /-- A woken receiver runs. -/
  | resume (r : CallId)
  /-- A waiting receiver is cancelled. -/
  | cancelRecv (r : CallId)
  | close
  deriving DecidableEq, Repr

/-- Why `send` raises. -/
inductive SendError where
  | terminal (cause : TerminalCause)
  /-- "called before connect()" -/
  | notConnected
  deriving DecidableEq, Repr

namespace Delivery

/-- The reader task has been started and is not done. -/
def Active (s : Delivery) : Prop := s.reader ≠ .off ∧ s.reader ≠ .done

instance (s : Delivery) : Decidable s.Active := inferInstanceAs (Decidable (_ ∧ _))

/-- `_mark_terminal` -/
def markTerminal (s : Delivery) (cause : TerminalCause) (discard : Bool) : Delivery :=
  let first := s.cause.isNone
  let queue := if discard then s.queue.clear else s.queue
  { s with
    connected := false
    cause := some (s.cause.getD cause)
    queue := if first || discard then queue.put .terminal else queue }

/-- An exception ends the reader. -/
def readerEnds (s : Delivery) (cause : TerminalCause) : Delivery :=
  { s.markTerminal cause false with reader := .done }

/-- The first checks of `send`. -/
def send (s : Delivery) : Except SendError Unit :=
  match s.cause with
  | some cause => .error (.terminal cause)
  | none => if s.connected then .ok () else .error .notConnected

/-- What a receiver does with an item, if it got one.  There is no await
between taking the marker and putting it back. -/
def received (s : Delivery) (r : CallId) : AsyncQueue CallId Queued × Option Queued → Delivery
  | (queue, none) => { s with queue := queue }
  | (queue, some (.frame f)) =>
      { s with queue := queue, ended := s.ended ++ [(r, .delivered f)] }
  | (queue, some .terminal) =>
      { s with queue := queue.put .terminal, ended := s.ended ++ [(r, .terminal s.cause)] }

/-- One round of `_background_reader`. -/
def frameRead (maxPayloadBytes : Nat) (s : Delivery) (f : Emitted) : Delivery :=
  match readFrame maxPayloadBytes f.raw with
  | .error e => s.readerEnds (.invalid e)
  | .ok _ =>
      if ptype f.raw = ptHeaderNack then { s with reader := .yielding }
      else if ptype f.raw = ptAliveCheckRequest then { s with reader := .responding }
      else { s with queue := s.queue.put (.frame f), arrived := s.arrived ++ [f] }

/-- `close`, up to its first await. -/
def close (s : Delivery) : Delivery :=
  let cancels := decide s.Active
  { s.markTerminal .closed true with
    closed := true, readerCancelled := s.readerCancelled || cancels }

def step (maxPayloadBytes : Nat) (s : Delivery) : DeliveryEvent → Option Delivery
  | .beginSetup =>
      if s.reader = .off ∧ s.cause = none then some { s with connected := true } else none
  | .setupFails => if s.reader = .off then some (s.markTerminal .setup true) else none
  | .activate =>
      if s.reader = .off ∧ s.connected = true ∧ s.cause = none then
        some { s with reader := .reading }
      else none
  | .arrive f =>
      if s.reader = .reading ∧ s.readerCancelled = false then
        some (s.frameRead maxPayloadBytes f)
      else none
  | .eof =>
      if s.reader = .reading ∧ s.readerCancelled = false then some (s.readerEnds .eof) else none
  | .transportError =>
      if (s.reader = .reading ∨ s.reader = .responding) ∧ s.readerCancelled = false then
        some (s.readerEnds .transport)
      else none
  | .proceed =>
      if (s.reader = .yielding ∨ s.reader = .responding) ∧ s.readerCancelled = false then
        some { s with reader := .reading }
      else none
  | .cancelReader => if s.Active then some { s with readerCancelled := true } else none
  | .readerStops =>
      if s.Active ∧ s.readerCancelled = true then some (s.readerEnds .readerCancelled) else none
  | .call r =>
      if r ∈ s.queue.waiting ∨ r ∈ s.ended.map Prod.fst then none
      else if s.connected = false ∧ s.cause = none then
        some { s with ended := s.ended ++ [(r, .notConnected)] }
      else some (s.received r (s.queue.get r))
  | .resume r =>
      if r ∈ s.queue.woken then some (s.received r (s.queue.resume r)) else none
  | .cancelRecv r =>
      if r ∈ s.queue.waiting then
        some { s with queue := s.queue.cancel r, ended := s.ended ++ [(r, .cancelled)] }
      else none
  | .close => some s.close

/-- What `recv` has returned so far. -/
def delivered (s : Delivery) : List Emitted := s.ended.filterMap fun e => e.2.frame?

/-! ## §2. The invariant. -/

/-- The items of the queue: frames, and behind them the marker of a terminal
connection. -/
def itemsOf (frames : List Emitted) (cause : Option TerminalCause) : List Queued :=
  frames.map .frame ++ (if cause.isSome then [.terminal] else [])

/-- What holds in every state, for the frames that are queued. -/
structure Holds (s : Delivery) (frames : List Emitted) : Prop where
  items : s.queue.items = itemsOf frames s.cause
  attended : s.queue.Attended
  inOrder : s.delivered ++ frames <+: s.arrived
  /-- Nothing is lost but by an explicit close. -/
  complete : s.closed = false → s.delivered ++ frames = s.arrived
  closed : s.closed = true → frames = [] ∧ s.cause.isSome = true
  connected : s.connected = true → s.cause = none
  /-- Nothing is read before the setup is done. -/
  off : s.reader = .off → s.arrived = []
  /-- A terminal connection has no reader, or one about to stop. -/
  reading : s.Active → s.readerCancelled = false → s.cause = none
  kept : ∀ f ∈ s.arrived, ECUConnection.isDropped f.raw = false
  /-- Who has seen the terminal error has seen an empty queue. -/
  errors : ∀ r cause, (r, RecvEnd.terminal cause) ∈ s.ended →
    frames = [] ∧ s.cause.isSome = true ∧ cause = s.cause
  /-- No frame is delivered after a terminal error. -/
  order : Transition.Chronicle
    (fun before e => (e.2.frame?).isSome = true → ∀ r cause, (r, RecvEnd.terminal cause) ∉ before)
    s.ended

def Ok (s : Delivery) : Prop := ∃ frames, s.Holds frames

variable {maxPayloadBytes : Nat} {s s' : Delivery} {frames : List Emitted}

theorem itemsOf_some (frames : List Emitted) {cause : Option TerminalCause}
    (h : cause.isSome = true) : itemsOf frames cause = frames.map .frame ++ [.terminal] := by
  unfold itemsOf
  rw [if_pos h]

theorem itemsOf_none (frames : List Emitted) : itemsOf frames none = frames.map .frame :=
  List.append_nil _

theorem ok_init : Ok {} := by
  refine ⟨[], rfl, .inl rfl, List.prefix_refl _, fun _ => rfl, ?_, ?_, fun _ => rfl, ?_, ?_, ?_,
    Transition.Chronicle.nil⟩
  · intro h
    cases h
  · intro h
    cases h
  · intro h
    exact absurd rfl h.1
  · intro f hf
    cases hf
  · intro r cause h
    cases h

/-! ### Marking the connection terminal. -/

theorem markTerminal_queue (h : s.Holds frames) (cause : TerminalCause) (discard : Bool) :
    (s.markTerminal cause discard).queue.items
        = itemsOf (if discard then [] else frames) (s.markTerminal cause discard).cause
      ∧ (s.markTerminal cause discard).queue.Attended := by
  unfold markTerminal
  dsimp only
  rw [itemsOf_some _ (by simp)]
  cases discard with
  | true =>
      simp only [Bool.or_true, if_true]
      refine ⟨?_, h.attended.clear.put _⟩
      rw [AsyncQueue.items_put]
      rfl
  | false =>
      simp only [Bool.or_false, Bool.false_eq_true, if_false]
      cases hcause : s.cause with
      | none =>
          simp only [Option.isNone_none, if_true]
          refine ⟨?_, h.attended.put _⟩
          rw [AsyncQueue.items_put, h.items, hcause, itemsOf_none]
      | some c =>
          simp only [Option.isNone_some, Bool.false_eq_true, if_false]
          refine ⟨?_, h.attended⟩
          rw [h.items, hcause, itemsOf_some _ rfl]

/-- The end of the reader: the frames that are queued stay. -/
theorem readerEnds_holds (h : s.Holds frames) (cause : TerminalCause) :
    (s.readerEnds cause).Holds frames := by
  obtain ⟨hitems, hattended⟩ := markTerminal_queue h cause false
  refine
    { items := hitems, attended := hattended, inOrder := h.inOrder, complete := h.complete
      closed := fun hc => ⟨(h.closed hc).1, rfl⟩, connected := ?_, off := ?_, reading := ?_
      kept := h.kept, errors := ?_, order := h.order }
  · intro hc
    cases hc
  · intro hoff
    cases hoff
  · intro hactive
    exact absurd rfl hactive.2
  · intro r c hmem
    obtain ⟨hnil, hsome, hc⟩ := h.errors r c hmem
    refine ⟨hnil, rfl, ?_⟩
    rw [hc]
    obtain ⟨c', hc'⟩ := Option.isSome_iff_exists.mp hsome
    show s.cause = some (s.cause.getD cause)
    rw [hc']
    rfl

/-- Marking with discard: the frames that are queued are gone. -/
theorem discard_holds (h : s.Holds frames) (cause : TerminalCause) {closed cancelled : Bool}
    (hclosed : closed = false → s.arrived = [] ∧ s.closed = false)
    (hcancelled : s.Active → cancelled = true) :
    ({ s.markTerminal cause true with closed := closed, readerCancelled := cancelled } :
      Delivery).Holds [] := by
  obtain ⟨hitems, hattended⟩ := markTerminal_queue h cause true
  have hprefix : s.delivered <+: s.arrived := (List.prefix_append _ _).trans h.inOrder
  refine
    { items := hitems, attended := hattended, inOrder := ?_, complete := ?_
      closed := fun _ => ⟨rfl, rfl⟩, connected := ?_, off := h.off, reading := ?_
      kept := h.kept, errors := ?_, order := h.order }
  · show s.delivered ++ [] <+: s.arrived
    rw [List.append_nil]
    exact hprefix
  · intro hc
    show s.delivered ++ [] = s.arrived
    have hnone : s.arrived = [] := (hclosed hc).1
    rw [hnone] at hprefix ⊢
    rw [List.append_nil]
    exact List.prefix_nil.mp hprefix
  · intro hc
    cases hc
  · intro hactive hno
    rw [hcancelled hactive] at hno
    cases hno
  · intro r c hmem
    obtain ⟨_, hsome, hc⟩ := h.errors r c hmem
    refine ⟨rfl, rfl, ?_⟩
    rw [hc]
    obtain ⟨c', hc'⟩ := Option.isSome_iff_exists.mp hsome
    show s.cause = some (s.cause.getD cause)
    rw [hc']
    rfl

/-! ### A receiver runs. -/

/-- What a receiver can take from a queue of frames and a marker. -/
theorem itemsOf_eq {cause : Option TerminalCause} {taken : Option Queued} {rest : List Queued}
    (h : itemsOf frames cause = taken.toList ++ rest) :
    (taken = none ∧ rest = itemsOf frames cause)
      ∨ (∃ f frames', taken = some (.frame f) ∧ frames = f :: frames'
          ∧ rest = itemsOf frames' cause)
      ∨ (taken = some .terminal ∧ frames = [] ∧ cause.isSome = true ∧ rest = []) := by
  cases taken with
  | none => exact .inl ⟨rfl, h.symm⟩
  | some item =>
      cases frames with
      | nil =>
          unfold itemsOf at h
          cases hcause : cause with
          | none =>
              rw [hcause] at h
              cases h
          | some c =>
              rw [hcause] at h
              cases h
              exact .inr (.inr ⟨rfl, rfl, rfl, rfl⟩)
      | cons f frames =>
          cases h
          exact .inr (.inl ⟨f, frames, rfl, rfl, rfl⟩)

theorem received_ok (h : s.Holds frames) {r : CallId} {queue : AsyncQueue CallId Queued}
    {taken : Option Queued} (hitems : s.queue.items = taken.toList ++ queue.items)
    (hattended : queue.Attended) : (s.received r (queue, taken)).Ok := by
  rw [h.items] at hitems
  rcases itemsOf_eq hitems with ⟨rfl, hrest⟩ | ⟨f, frames', rfl, rfl, hrest⟩
    | ⟨rfl, rfl, hsome, hrest⟩
  · exact ⟨frames, { h with items := hrest, attended := hattended }⟩
  · -- a frame is taken: nobody can have seen the terminal error yet
    have hnone : ∀ r c, (r, RecvEnd.terminal c) ∉ s.ended := by
      intro r c hmem
      have := (h.errors r c hmem).1
      cases this
    have hdelivered : (s.received r (queue, some (.frame f))).delivered = s.delivered ++ [f] := by
      show (s.ended ++ _).filterMap _ = _
      rw [List.filterMap_append]
      rfl
    have hopen : s.closed = false := by
      cases hc : s.closed with
      | false => rfl
      | true =>
          have := (h.closed hc).1
          cases this
    refine ⟨frames',
      { items := hrest, attended := hattended, inOrder := ?_, complete := ?_, closed := ?_
        connected := h.connected, off := h.off, reading := h.reading, kept := h.kept
        errors := ?_, order := h.order.snoc fun _ => hnone }⟩
    · rw [hdelivered, List.append_assoc]
      exact h.inOrder
    · intro hc
      rw [hdelivered, List.append_assoc]
      exact h.complete hc
    · intro hc
      have hc' : s.closed = true := hc
      rw [hopen] at hc'
      cases hc'
    · intro r' c hmem
      rcases List.mem_append.mp hmem with hmem | hmem
      · exact absurd hmem (hnone r' c)
      · cases List.mem_singleton.mp hmem
  · -- the marker is taken and put back
    have hdelivered : (s.received r (queue, some .terminal)).delivered = s.delivered := by
      show (s.ended ++ _).filterMap _ = _
      rw [List.filterMap_append]
      exact List.append_nil _
    refine ⟨[],
      { items := ?_, attended := hattended.put _, inOrder := ?_, complete := ?_
        closed := h.closed, connected := h.connected, off := h.off, reading := h.reading
        kept := h.kept, errors := ?_, order := h.order.snoc ?_ }⟩
    · show (queue.put .terminal).items = itemsOf [] s.cause
      rw [AsyncQueue.items_put, hrest, itemsOf_some _ hsome]
      rfl
    · rw [hdelivered]
      exact h.inOrder
    · intro hc
      rw [hdelivered]
      exact h.complete hc
    · intro r' c hmem
      refine ⟨rfl, hsome, ?_⟩
      rcases List.mem_append.mp hmem with hmem | hmem
      · exact (h.errors r' c hmem).2.2
      · cases List.mem_singleton.mp hmem
        rfl
    · intro hsome'
      cases hsome'

theorem get_ok (h : s.Ok) (r : CallId) : (s.received r (s.queue.get r)).Ok := by
  obtain ⟨frames, h⟩ := h
  cases hget : s.queue.get r with
  | mk queue taken => exact received_ok h (s.queue.get_items hget) (h.attended.get hget)

theorem resume_ok (h : s.Ok) {r : CallId} (hr : r ∈ s.queue.woken) :
    (s.received r (s.queue.resume r)).Ok := by
  obtain ⟨frames, h⟩ := h
  cases hresume : s.queue.resume r with
  | mk queue taken =>
      exact received_ok h (s.queue.resume_items hresume) (h.attended.resume hr hresume)

/-- A receiver ends without a frame and without the terminal error. -/
theorem Holds.note (h : s.Holds frames) {queue : AsyncQueue CallId Queued}
    (hitems : queue.items = s.queue.items) (hattended : queue.Attended) (r : CallId) {e : RecvEnd}
    (hframe : e.frame? = none) (herror : ∀ cause, e ≠ .terminal cause) :
    ({ s with queue := queue, ended := s.ended ++ [(r, e)] } : Delivery).Holds frames := by
  have hdelivered : ({ s with queue := queue, ended := s.ended ++ [(r, e)] } : Delivery).delivered
      = s.delivered := by
    show (s.ended ++ _).filterMap _ = _
    rw [List.filterMap_append]
    simp [delivered, hframe]
  refine
    { items := hitems.trans h.items, attended := hattended, inOrder := ?_, complete := ?_
      closed := h.closed, connected := h.connected, off := h.off, reading := h.reading
      kept := h.kept, errors := ?_, order := h.order.snoc ?_ }
  · rw [hdelivered]
    exact h.inOrder
  · intro hc
    rw [hdelivered]
    exact h.complete hc
  · intro r' c hmem
    rcases List.mem_append.mp hmem with hmem | hmem
    · exact h.errors r' c hmem
    · cases List.mem_singleton.mp hmem
      exact absurd rfl (herror c)
  · intro hsome
    rw [hframe] at hsome
    cases hsome

/-! ### A step. -/

theorem frameRead_ok (h : s.Ok) (hreading : s.reader = .reading) (hlive : s.readerCancelled = false)
    (f : Emitted) : (s.frameRead maxPayloadBytes f).Ok := by
  obtain ⟨frames, h⟩ := h
  have hactive : s.Active := by
    unfold Active
    rw [hreading]
    simp
  have hcause := h.reading hactive hlive
  unfold frameRead
  split
  · exact ⟨frames, readerEnds_holds h _⟩
  split
  · exact ⟨frames, { h with off := by simp, reading := fun _ _ => hcause }⟩
  split
  · exact ⟨frames, { h with off := by simp, reading := fun _ _ => hcause }⟩
  · rename_i hnack halive
    have hopen : s.closed = false := by
      cases hc : s.closed with
      | false => rfl
      | true =>
          have := (h.closed hc).2
          rw [hcause] at this
          cases this
    have hcomplete := h.complete hopen
    have harrived : s.delivered ++ (frames ++ [f]) = s.arrived ++ [f] := by
      rw [← List.append_assoc, hcomplete]
    refine ⟨frames ++ [f],
      { items := ?_, attended := h.attended.put _, inOrder := ?_, complete := ?_, closed := ?_
        connected := h.connected, off := ?_, reading := h.reading, kept := ?_, errors := ?_
        order := h.order }⟩
    · show (s.queue.put (.frame f)).items = itemsOf (frames ++ [f]) s.cause
      rw [AsyncQueue.items_put, h.items, hcause, itemsOf_none, itemsOf_none, List.map_append]
      rfl
    · show s.delivered ++ (frames ++ [f]) <+: s.arrived ++ [f]
      exact ⟨[], by rw [harrived, List.append_nil]⟩
    · intro _
      exact harrived
    · intro hc
      have hc' : s.closed = true := hc
      rw [hopen] at hc'
      cases hc'
    · intro hoff
      exact absurd (hoff : s.reader = .off) hactive.1
    · intro g hg
      rcases List.mem_append.mp hg with hg | hg
      · exact h.kept g hg
      · obtain rfl := List.mem_singleton.mp hg
        unfold ECUConnection.isDropped
        simp [hnack, halive]
    · intro r c hmem
      have hsome := (h.errors r c hmem).2.1
      rw [hcause] at hsome
      cases hsome

/-- A step that happens, with the guard it passed. -/
inductive Effect (maxPayloadBytes : Nat) (s : Delivery) : DeliveryEvent → Delivery → Prop where
  | setupBegun (hoff : s.reader = .off) (hcause : s.cause = none) :
      Effect maxPayloadBytes s .beginSetup { s with connected := true }
  | setupFailed (hoff : s.reader = .off) :
      Effect maxPayloadBytes s .setupFails (s.markTerminal .setup true)
  | activated (hoff : s.reader = .off) (hconnected : s.connected = true) (hcause : s.cause = none) :
      Effect maxPayloadBytes s .activate { s with reader := .reading }
  | arrived (f : Emitted) (hreading : s.reader = .reading) (hlive : s.readerCancelled = false) :
      Effect maxPayloadBytes s (.arrive f) (s.frameRead maxPayloadBytes f)
  | atEof (hreading : s.reader = .reading) (hlive : s.readerCancelled = false) :
      Effect maxPayloadBytes s .eof (s.readerEnds .eof)
  | broken (hpoint : s.reader = .reading ∨ s.reader = .responding)
      (hlive : s.readerCancelled = false) :
      Effect maxPayloadBytes s .transportError (s.readerEnds .transport)
  | proceeded (hpoint : s.reader = .yielding ∨ s.reader = .responding)
      (hlive : s.readerCancelled = false) :
      Effect maxPayloadBytes s .proceed { s with reader := .reading }
  | readerCancelled (hactive : s.Active) :
      Effect maxPayloadBytes s .cancelReader { s with readerCancelled := true }
  | readerStopped (hactive : s.Active) (hcancelled : s.readerCancelled = true) :
      Effect maxPayloadBytes s .readerStops (s.readerEnds .readerCancelled)
  | refused (r : CallId) (hconnected : s.connected = false) (hcause : s.cause = none) :
      Effect maxPayloadBytes s (.call r) { s with ended := s.ended ++ [(r, .notConnected)] }
  | called (r : CallId) : Effect maxPayloadBytes s (.call r) (s.received r (s.queue.get r))
  | resumed (r : CallId) (hwoken : r ∈ s.queue.woken) :
      Effect maxPayloadBytes s (.resume r) (s.received r (s.queue.resume r))
  | recvCancelled (r : CallId) (hwaiting : r ∈ s.queue.waiting) :
      Effect maxPayloadBytes s (.cancelRecv r)
        { s with queue := s.queue.cancel r, ended := s.ended ++ [(r, .cancelled)] }
  | closed : Effect maxPayloadBytes s .close s.close

theorem effect_of_step {e : DeliveryEvent} (hstep : step maxPayloadBytes s e = some s') :
    Effect maxPayloadBytes s e s' := by
  cases e with
  | beginSetup =>
      simp only [step, Option.ite_none_right_eq_some, Option.some.injEq] at hstep
      obtain ⟨⟨hoff, hcause⟩, rfl⟩ := hstep
      exact .setupBegun hoff hcause
  | setupFails =>
      simp only [step, Option.ite_none_right_eq_some, Option.some.injEq] at hstep
      obtain ⟨hoff, rfl⟩ := hstep
      exact .setupFailed hoff
  | activate =>
      simp only [step, Option.ite_none_right_eq_some, Option.some.injEq] at hstep
      obtain ⟨⟨hoff, hconnected, hcause⟩, rfl⟩ := hstep
      exact .activated hoff hconnected hcause
  | arrive f =>
      simp only [step, Option.ite_none_right_eq_some, Option.some.injEq] at hstep
      obtain ⟨⟨hreading, hlive⟩, rfl⟩ := hstep
      exact .arrived f hreading hlive
  | eof =>
      simp only [step, Option.ite_none_right_eq_some, Option.some.injEq] at hstep
      obtain ⟨⟨hreading, hlive⟩, rfl⟩ := hstep
      exact .atEof hreading hlive
  | transportError =>
      simp only [step, Option.ite_none_right_eq_some, Option.some.injEq] at hstep
      obtain ⟨⟨hpoint, hlive⟩, rfl⟩ := hstep
      exact .broken hpoint hlive
  | proceed =>
      simp only [step, Option.ite_none_right_eq_some, Option.some.injEq] at hstep
      obtain ⟨⟨hpoint, hlive⟩, rfl⟩ := hstep
      exact .proceeded hpoint hlive
  | cancelReader =>
      simp only [step, Option.ite_none_right_eq_some, Option.some.injEq] at hstep
      obtain ⟨hactive, rfl⟩ := hstep
      exact .readerCancelled hactive
  | readerStops =>
      simp only [step, Option.ite_none_right_eq_some, Option.some.injEq] at hstep
      obtain ⟨⟨hactive, hcancelled⟩, rfl⟩ := hstep
      exact .readerStopped hactive hcancelled
  | call r =>
      simp only [step, Option.ite_none_left_eq_some] at hstep
      obtain ⟨_, hstep⟩ := hstep
      split at hstep
      · rename_i hrefused
        rw [Option.some.injEq] at hstep
        subst hstep
        exact .refused r hrefused.1 hrefused.2
      · rw [Option.some.injEq] at hstep
        subst hstep
        exact .called r
  | resume r =>
      simp only [step, Option.ite_none_right_eq_some, Option.some.injEq] at hstep
      obtain ⟨hwoken, rfl⟩ := hstep
      exact .resumed r hwoken
  | cancelRecv r =>
      simp only [step, Option.ite_none_right_eq_some, Option.some.injEq] at hstep
      obtain ⟨hwaiting, rfl⟩ := hstep
      exact .recvCancelled r hwaiting
  | close =>
      simp only [step, Option.some.injEq] at hstep
      subst hstep
      exact .closed

theorem ok_step (h : s.Ok) (e : DeliveryEvent) (hstep : step maxPayloadBytes s e = some s') :
    s'.Ok := by
  obtain ⟨frames, h⟩ := h
  cases effect_of_step hstep with
  | setupBegun _ hcause => exact ⟨frames, { h with connected := fun _ => hcause }⟩
  | setupFailed hoff =>
      exact ⟨[], discard_holds h .setup (fun hc => ⟨h.off hoff, hc⟩)
        (fun hactive => absurd hoff hactive.1)⟩
  | activated _ _ hcause =>
      exact ⟨frames, { h with off := by simp, reading := fun _ _ => hcause }⟩
  | arrived f hreading hlive => exact frameRead_ok ⟨frames, h⟩ hreading hlive f
  | atEof _ _ => exact ⟨frames, readerEnds_holds h _⟩
  | broken _ _ => exact ⟨frames, readerEnds_holds h _⟩
  | readerStopped _ _ => exact ⟨frames, readerEnds_holds h _⟩
  | proceeded hpoint hlive =>
      have hactive : s.Active := by
        unfold Active
        rcases hpoint with hpoint | hpoint <;> rw [hpoint] <;> simp
      exact ⟨frames, { h with off := by simp, reading := fun _ _ => h.reading hactive hlive }⟩
  | readerCancelled _ => exact ⟨frames, { h with reading := by simp }⟩
  | refused r _ _ => exact ⟨frames, h.note rfl h.attended r rfl (by simp)⟩
  | called r => exact get_ok ⟨frames, h⟩ r
  | resumed r hwoken => exact resume_ok ⟨frames, h⟩ hwoken
  | recvCancelled r _ =>
      exact ⟨frames, h.note (s.queue.items_cancel r) (h.attended.cancel r) r rfl (by simp)⟩
  | closed =>
      refine ⟨[], discard_holds h .closed ?_ ?_⟩
      · intro hc
        cases hc
      -- `close` cancels the reader it finds
      · intro hactive
        show (s.readerCancelled || decide s.Active) = true
        rw [decide_eq_true hactive, Bool.or_true]

theorem ok_run (es : List DeliveryEvent)
    (h : Transition.exec (step maxPayloadBytes) {} es = some s) : s.Ok :=
  Transition.exec_invariant Ok (fun _ e _ hs hstep => ok_step hs e hstep) es {} s ok_init h

/-! ## §3. What stays as it is. -/

/-- The first cause is kept, and after an explicit close nothing is
delivered any more. -/
structure Kept (s s' : Delivery) : Prop where
  cause : ∀ cause, s.cause = some cause → s'.cause = some cause
  closed : s.closed = true → s'.closed = true ∧ s'.delivered = s.delivered

theorem Kept.refl (s : Delivery) : Kept s s := ⟨fun _ h => h, fun h => ⟨h, rfl⟩⟩

theorem Kept.trans {s'' : Delivery} (h : Kept s s') (h' : Kept s' s'') : Kept s s'' where
  cause cause hc := h'.cause cause (h.cause cause hc)
  closed hc := by
    obtain ⟨hc', hd⟩ := h.closed hc
    obtain ⟨hc'', hd'⟩ := h'.closed hc'
    exact ⟨hc'', hd'.trans hd⟩

theorem markTerminal_cause (cause first : TerminalCause) (discard : Bool)
    (h : s.cause = some first) : (s.markTerminal cause discard).cause = some first := by
  show some (s.cause.getD cause) = some first
  rw [h]
  rfl

theorem readerEnds_kept (cause : TerminalCause) : Kept s (s.readerEnds cause) :=
  ⟨fun first h => markTerminal_cause cause first false h, fun h => ⟨h, rfl⟩⟩

/-- A call that ends without a frame has delivered nothing. -/
theorem delivered_snoc {r : CallId} {outcome : RecvEnd} (hframe : outcome.frame? = none)
    (hended : s'.ended = s.ended ++ [(r, outcome)]) : s'.delivered = s.delivered := by
  have hnone : [(r, outcome)].filterMap (fun e => e.2.frame?) = [] := by simp [hframe]
  unfold delivered
  rw [hended, List.filterMap_append, hnone, List.append_nil]

theorem received_kept (h : s.Holds frames) {r : CallId} {queue : AsyncQueue CallId Queued}
    {taken : Option Queued} (hitems : s.queue.items = taken.toList ++ queue.items) :
    Kept s (s.received r (queue, taken)) := by
  rw [h.items] at hitems
  rcases itemsOf_eq hitems with ⟨rfl, _⟩ | ⟨f, frames', rfl, hframes, _⟩ | ⟨rfl, _, _, _⟩
  · exact ⟨fun _ h => h, fun h => ⟨h, rfl⟩⟩
  · refine ⟨fun _ h => h, fun hc => ?_⟩
    have hnil := (h.closed hc).1
    rw [hframes] at hnil
    cases hnil
  · exact ⟨fun _ h => h, fun hc => ⟨hc, delivered_snoc rfl rfl⟩⟩

theorem kept_step (h : s.Ok) (e : DeliveryEvent) (hstep : step maxPayloadBytes s e = some s') :
    Kept s s' := by
  obtain ⟨frames, h⟩ := h
  cases effect_of_step hstep with
  | setupBegun _ _ => exact ⟨fun _ h => h, fun h => ⟨h, rfl⟩⟩
  | setupFailed _ =>
      exact ⟨fun first h => markTerminal_cause .setup first true h, fun h => ⟨h, rfl⟩⟩
  | activated _ _ _ => exact ⟨fun _ h => h, fun h => ⟨h, rfl⟩⟩
  | arrived f _ _ =>
      unfold frameRead
      split
      · exact readerEnds_kept _
      split
      · exact ⟨fun _ h => h, fun h => ⟨h, rfl⟩⟩
      split
      · exact ⟨fun _ h => h, fun h => ⟨h, rfl⟩⟩
      · exact ⟨fun _ h => h, fun h => ⟨h, rfl⟩⟩
  | atEof _ _ => exact readerEnds_kept _
  | broken _ _ => exact readerEnds_kept _
  | readerStopped _ _ => exact readerEnds_kept _
  | proceeded _ _ => exact ⟨fun _ h => h, fun h => ⟨h, rfl⟩⟩
  | readerCancelled _ => exact ⟨fun _ h => h, fun h => ⟨h, rfl⟩⟩
  | refused r _ _ => exact ⟨fun _ h => h, fun h => ⟨h, delivered_snoc rfl rfl⟩⟩
  | called r =>
      cases hget : s.queue.get r with
      | mk queue taken => exact received_kept h (s.queue.get_items hget)
  | resumed r _ =>
      cases hresume : s.queue.resume r with
      | mk queue taken => exact received_kept h (s.queue.resume_items hresume)
  | recvCancelled r _ => exact ⟨fun _ h => h, fun h => ⟨h, delivered_snoc rfl rfl⟩⟩
  | closed => exact ⟨fun first h => markTerminal_cause .closed first true h, fun _ => ⟨rfl, rfl⟩⟩

theorem kept_run (h : s.Ok) (es : List DeliveryEvent)
    (hrun : Transition.exec (step maxPayloadBytes) s es = some s') : Kept s s' := by
  have hboth : s'.Ok ∧ Kept s s' :=
    Transition.exec_invariant (fun t => t.Ok ∧ Kept s t)
      (fun t e t' ht hstep => ⟨ok_step ht.1 e hstep, ht.2.trans (kept_step ht.1 e hstep)⟩)
      es s s' ⟨h, .refl s⟩ hrun
  exact hboth.2

/-! ## §4. Every receiver ends. -/

/-- A frame that was queued, or the terminal error. -/
def Answered (cause : TerminalCause) (e : RecvEnd) : Prop :=
  (∃ f, e = .delivered f) ∨ e = .terminal (some cause)

/-- At a terminal connection a receiver that runs ends. -/
theorem received_answered {cause : TerminalCause} (h : s.Holds frames)
    (hcause : s.cause = some cause) {r : CallId} {queue : AsyncQueue CallId Queued}
    {taken : Option Queued}
    (hitems : s.queue.items = taken.toList ++ queue.items)
    (hnone : taken = none → s.queue.items = []) :
    ∃ e, Answered cause e ∧ (frames = [] → e = .terminal (some cause))
      ∧ (s.received r (queue, taken)).ended = s.ended ++ [(r, e)]
      ∧ (s.received r (queue, taken)).cause = some cause
      ∧ taken.isSome = true ∧ (s.received r (queue, taken)).queue.waiting.Perm queue.waiting := by
  have hsome : s.cause.isSome = true := by
    rw [hcause]
    rfl
  have hitems' := hitems
  rw [h.items] at hitems'
  rcases itemsOf_eq hitems' with ⟨rfl, _⟩ | ⟨f, frames', rfl, hframes, _⟩ | ⟨rfl, _, _, _⟩
  · have hnil := hnone rfl
    rw [h.items, itemsOf_some _ hsome] at hnil
    exact absurd hnil (by simp)
  · refine ⟨.delivered f, .inl ⟨f, rfl⟩, ?_, rfl, hcause, rfl, .refl _⟩
    intro hnil
    rw [hframes] at hnil
    cases hnil
  · refine ⟨.terminal (some cause), .inr rfl, fun _ => rfl, ?_, hcause, rfl, queue.waiting_put _⟩
    show s.ended ++ [(r, .terminal s.cause)] = _
    rw [hcause]

theorem resume_answered (limit : Nat) {cause : TerminalCause} (h : s.Ok)
    (hcause : s.cause = some cause) {r : CallId} (hr : r ∈ s.queue.woken) :
    ∃ s' e, step limit s (.resume r) = some s' ∧ Answered cause e
      ∧ s'.ended = s.ended ++ [(r, e)] ∧ s'.cause = some cause
      ∧ (r :: s'.queue.waiting).Perm s.queue.waiting := by
  obtain ⟨frames, h⟩ := h
  cases hresume : s.queue.resume r with
  | mk queue taken =>
      have hnone : taken = none → s.queue.items = [] := by
        rintro rfl
        exact AsyncQueue.get_none { s.queue with woken := s.queue.woken.erase r } hresume
      obtain ⟨e, hanswered, _, hended, hcause', htaken, hwaiting⟩ :=
        received_answered (r := r) h hcause (s.queue.resume_items hresume) hnone
      refine ⟨s.received r (queue, taken), e, ?_, hanswered, hended, hcause', ?_⟩
      · show (if r ∈ s.queue.woken then some (s.received r (s.queue.resume r)) else none) = _
        rw [if_pos hr, hresume]
      · obtain ⟨item, rfl⟩ := Option.isSome_iff_exists.mp htaken
        exact (hwaiting.cons r).trans (s.queue.waiting_resume_some hr hresume)

/-- Whoever waits at a terminal connection comes to an end: one after the
other they are woken and run. -/
theorem drain {cause : TerminalCause} (n : Nat) (h : s.Ok) (hcause : s.cause = some cause)
    (hn : s.queue.waiting.length = n) :
    ∃ (rs : List CallId) (s' : Delivery) (ends : List (CallId × RecvEnd)),
      Transition.exec (step maxPayloadBytes) s (rs.map .resume) = some s'
      ∧ s'.queue.waiting = [] ∧ s'.ended = s.ended ++ ends
      ∧ (ends.map Prod.fst).Perm s.queue.waiting ∧ ∀ e ∈ ends, Answered cause e.2 := by
  induction n generalizing s with
  | zero =>
      have hnil := List.length_eq_zero_iff.mp hn
      exact ⟨[], s, [], rfl, hnil, (List.append_nil _).symm, by rw [hnil]; exact .refl _, by simp⟩
  | succ n ih =>
      have hitems : s.queue.items ≠ [] := by
        obtain ⟨frames, h⟩ := h
        rw [h.items, itemsOf_some _ (by rw [hcause]; rfl)]
        simp
      have hwaiting : s.queue.waiting ≠ [] := by
        intro hnil
        rw [hnil] at hn
        cases hn
      have hattended : s.queue.Attended := by
        obtain ⟨frames, h⟩ := h
        exact h.attended
      obtain ⟨r, rest, hwoken⟩ :=
        List.exists_cons_of_ne_nil (hattended.woken_ne_nil hitems hwaiting)
      obtain ⟨s₁, e, hstep, hanswered, hended, hcause₁, hperm⟩ :=
        resume_answered maxPayloadBytes h hcause
          (show r ∈ s.queue.woken by rw [hwoken]; exact List.mem_cons_self ..)
      have hlength : s₁.queue.waiting.length = n := by
        have := hperm.length_eq
        rw [List.length_cons, hn] at this
        omega
      obtain ⟨rs, s', ends, hrun, hdone, hends, hpermEnds, hall⟩ :=
        ih (ok_step h _ hstep) hcause₁ hlength
      refine ⟨r :: rs, s', (r, e) :: ends, ?_, hdone, ?_, ?_, ?_⟩
      · rw [List.map_cons]
        exact Transition.exec_cons_eq_some.mpr ⟨s₁, hstep, hrun⟩
      · rw [hends, hended, List.append_assoc]
        rfl
      · exact (hpermEnds.cons r).trans hperm
      · intro x hx
        rcases List.mem_cons.mp hx with rfl | hx
        · exact hanswered
        · exact hall x hx

/-! ## §5. The guarantees. -/

/-- What a connection guarantees its receivers. -/
structure Guarantees (maxPayloadBytes : Nat) (s : Delivery) : Prop where
  /-- Frames are delivered once each, in the order of arrival. -/
  inOrder : s.delivered <+: s.arrived
  /-- All of them, before a receiver sees the terminal error, unless an
  explicit close has thrown them away. -/
  complete : s.closed = false → ∀ r cause, (r, RecvEnd.terminal cause) ∈ s.ended →
    s.delivered = s.arrived
  order : Transition.Chronicle
    (fun before e => (e.2.frame?).isSome = true → ∀ r cause, (r, RecvEnd.terminal cause) ∉ before)
    s.ended
  /-- A terminal connection has one marker in its queue, any other none. -/
  marker : s.queue.items.count .terminal = if s.cause.isSome then 1 else 0
  /-- `send` raises the terminal error. -/
  send : ∀ cause, s.cause = some cause → s.send = .error (.terminal cause)
  /-- A `recv` called now ends at once; with no frame left it raises. -/
  future : ∀ cause, s.cause = some cause → ∀ r, r ∉ s.queue.waiting → r ∉ s.ended.map Prod.fst →
    ∃ s' e, step maxPayloadBytes s (.call r) = some s' ∧ s'.ended = s.ended ++ [(r, e)]
      ∧ Answered cause e ∧ (s.queue.items = [.terminal] → e = .terminal (some cause))
  /-- Of those who wait, one has been woken; each that runs ends. -/
  attended : ∀ cause, s.cause = some cause → s.queue.waiting ≠ [] → s.queue.woken ≠ []
  resumed : ∀ cause, s.cause = some cause → ∀ r ∈ s.queue.woken, ∃ s' e,
    step maxPayloadBytes s (.resume r) = some s' ∧ s'.ended = s.ended ++ [(r, e)]
      ∧ Answered cause e ∧ (r :: s'.queue.waiting).Perm s.queue.waiting
  /-- So all of them end. -/
  present : ∀ cause, s.cause = some cause →
    ∃ (rs : List CallId) (s' : Delivery) (ends : List (CallId × RecvEnd)),
      Transition.exec (step maxPayloadBytes) s (rs.map .resume) = some s'
        ∧ s'.queue.waiting = [] ∧ s'.ended = s.ended ++ ends
        ∧ (ends.map Prod.fst).Perm s.queue.waiting ∧ ∀ e ∈ ends, Answered cause e.2
  /-- The error is that of the first cause, for good. -/
  error : ∀ r cause, (r, RecvEnd.terminal cause) ∈ s.ended → s.cause.isSome = true ∧ cause = s.cause
  firstCause : ∀ cause, s.cause = some cause → ∀ es s',
    Transition.exec (step maxPayloadBytes) s es = some s' → s'.cause = some cause
  /-- After an explicit close nothing is delivered any more. -/
  closed : s.closed = true → s.cause.isSome = true ∧ s.queue.items = [.terminal] ∧ ∀ es s',
    Transition.exec (step maxPayloadBytes) s es = some s' → s'.delivered = s.delivered
  /-- Neither Header NACKs nor Alive Check Requests are delivered. -/
  dropped : ∀ f ∈ s.delivered, ptype f.raw ≠ ptHeaderNack ∧ ptype f.raw ≠ ptAliveCheckRequest

theorem count_itemsOf (frames : List Emitted) (cause : Option TerminalCause) :
    (itemsOf frames cause).count .terminal = if cause.isSome then 1 else 0 := by
  have hframes : (frames.map Queued.frame).count .terminal = 0 := by
    rw [List.count_eq_zero]
    simp
  unfold itemsOf
  rw [List.count_append, hframes]
  split <;> rfl

theorem call_answered (limit : Nat) {cause : TerminalCause} (h : s.Holds frames)
    (hcause : s.cause = some cause) {r : CallId} (hwaiting : r ∉ s.queue.waiting)
    (hended : r ∉ s.ended.map Prod.fst) :
    ∃ s' e, step limit s (.call r) = some s' ∧ s'.ended = s.ended ++ [(r, e)]
      ∧ Answered cause e ∧ (frames = [] → e = .terminal (some cause)) := by
  have hterminal : ¬ (s.connected = false ∧ s.cause = none) := by
    rintro ⟨_, hnone⟩
    rw [hcause] at hnone
    cases hnone
  have hfresh : ¬ (r ∈ s.queue.waiting ∨ r ∈ s.ended.map Prod.fst) := by
    rintro (hmem | hmem)
    · exact hwaiting hmem
    · exact hended hmem
  cases hget : s.queue.get r with
  | mk queue taken =>
      have hnone : taken = none → s.queue.items = [] := by
        rintro rfl
        exact s.queue.get_none hget
      obtain ⟨e, hanswered, hempty, hends, _, _, _⟩ :=
        received_answered (r := r) h hcause (s.queue.get_items hget) hnone
      refine ⟨s.received r (queue, taken), e, ?_, hends, hanswered, hempty⟩
      rw [step, if_neg hfresh, if_neg hterminal, hget]

/-- **What every run guarantees**, whatever the reader, the receivers and
the callers of `close` do. -/
theorem delivery (maxPayloadBytes : Nat) (es : List DeliveryEvent) (s : Delivery)
    (h : Transition.exec (step maxPayloadBytes) {} es = some s) :
    Guarantees maxPayloadBytes s := by
  obtain ⟨frames, hholds⟩ := ok_run es h
  have hok : s.Ok := ⟨frames, hholds⟩
  have hframes : ∀ cause, s.cause = some cause →
      s.queue.items = frames.map .frame ++ [.terminal] := by
    intro cause hcause
    rw [hholds.items, itemsOf_some _ (by rw [hcause]; rfl)]
  refine
    { inOrder := (List.prefix_append _ _).trans hholds.inOrder
      complete := ?_, order := hholds.order, marker := ?_, send := ?_, future := ?_
      attended := ?_, resumed := ?_, present := ?_
      error := fun r cause hmem => (hholds.errors r cause hmem).2
      firstCause := fun cause hcause es s' hrun => (kept_run hok es hrun).cause cause hcause
      closed := ?_, dropped := ?_ }
  · intro hopen r cause hmem
    rw [← hholds.complete hopen, (hholds.errors r cause hmem).1, List.append_nil]
  · rw [hholds.items, count_itemsOf]
  · intro cause hcause
    unfold Delivery.send
    rw [hcause]
  · intro cause hcause r hwaiting hended
    obtain ⟨s', e, hstep, hends, hanswered, hempty⟩ :=
      call_answered maxPayloadBytes hholds hcause hwaiting hended
    refine ⟨s', e, hstep, hends, hanswered, fun hitems => hempty ?_⟩
    rw [hframes cause hcause] at hitems
    cases frames with
    | nil => rfl
    | cons f frames => simp at hitems
  · intro cause hcause
    refine hholds.attended.woken_ne_nil ?_
    rw [hframes cause hcause]
    simp
  · intro cause hcause r hr
    obtain ⟨s', e, hstep, hanswered, hends, _, hperm⟩ :=
      resume_answered maxPayloadBytes hok hcause hr
    exact ⟨s', e, hstep, hends, hanswered, hperm⟩
  · intro cause hcause
    exact drain _ hok hcause rfl
  · intro hclosed
    obtain ⟨hnil, hsome⟩ := hholds.closed hclosed
    refine ⟨hsome, ?_, fun es s' hrun => ((kept_run hok es hrun).closed hclosed).2⟩
    rw [hholds.items, itemsOf_some _ hsome, hnil]
    rfl
  · intro f hf
    have hkept := hholds.kept f
      (hholds.inOrder.subset (List.mem_append_left frames hf))
    unfold ECUConnection.isDropped at hkept
    rw [Bool.or_eq_false_iff] at hkept
    exact ⟨by simpa using hkept.1, by simpa using hkept.2⟩

/-- A diagnostic message of the ECU. -/
def answerFrame : Emitted :=
  ⟨[0x02, 0xFD, 0x80, 0x01, 0x00, 0x00, 0x00, 0x06, 0x00, 0x03, 0x0E, 0x80, 0x7E, 0x00], 1⟩

/-- Two receivers wait, a frame comes and then EOF; the second is cancelled
and a third one called. -/
def eofRun : List DeliveryEvent :=
  [.beginSetup, .activate, .call 0, .call 1, .arrive answerFrame, .eof, .resume 0, .cancelRecv 1,
   .call 2]

theorem delivery_eofRun :
    ∃ s, Transition.exec (step 4096) {} eofRun = some s
      ∧ s.ended = [(0, .delivered answerFrame), (1, .cancelled), (2, .terminal (some .eof))]
      ∧ Guarantees 4096 s :=
  ⟨_, rfl, by decide, delivery 4096 eofRun _ rfl⟩

/-! ## §6. The same as an `ECUConnection`. -/

/-- The connection, with the frames that are still in the stream. -/
def view (s : Delivery) (transit : List Emitted) : ECUConnection where
  connected := s.connected
  terminal := s.cause.isSome
  recvQueue := s.queue.items
  reading := decide s.Active && !s.readerCancelled
  transit := transit

theorem markTerminal_view (cause : TerminalCause) (discard : Bool) (fs : List Emitted) :
    (s.markTerminal cause discard).view fs = (s.view fs).markTerminal discard := by
  unfold view markTerminal ECUConnection.markTerminal
  dsimp only
  congr 1
  cases discard with
  | true => simp
  | false => cases s.cause <;> simp

theorem readerEnds_view (cause : TerminalCause) (fs : List Emitted) :
    (s.readerEnds cause).view fs = (s.view fs).readerEnds := by
  unfold ECUConnection.readerEnds
  rw [← markTerminal_view cause]
  rfl

theorem close_view (fs : List Emitted) : s.close.view fs = (s.view fs).close := by
  have hstopped : (decide s.Active && !(s.readerCancelled || decide s.Active)) = false := by
    cases decide s.Active <;> simp
  unfold ECUConnection.close
  rw [← markTerminal_view .closed]
  show ({ (s.markTerminal .closed true).view fs with
    reading := decide s.Active && !(s.readerCancelled || decide s.Active) } : ECUConnection) = _
  rw [hstopped]

/-- A round of the reader is one of `backgroundReader`. -/
theorem frameRead_view (hreading : s.reader = .reading) (hlive : s.readerCancelled = false)
    (f : Emitted) (fs : List Emitted) :
    (s.view (f :: fs)).backgroundReader maxPayloadBytes
      = some ((s.frameRead maxPayloadBytes f).view fs) := by
  have hon : ∀ (t : Delivery) (fs : List Emitted),
      (t.reader = .reading ∨ t.reader = .yielding ∨ t.reader = .responding) →
      t.readerCancelled = false → (t.view fs).reading = true := by
    intro t fs ht hcancelled
    have hactive : t.Active := by
      unfold Active
      rcases ht with ht | ht | ht <;> rw [ht] <;> simp
    show (decide t.Active && !t.readerCancelled) = true
    rw [decide_eq_true hactive, hcancelled]
    rfl
  have hview := hon s (f :: fs) (.inl hreading) hlive
  have htransit : (s.view (f :: fs)).transit = f :: fs := rfl
  unfold ECUConnection.backgroundReader frameRead
  rw [hview, htransit]
  dsimp only
  cases hread : readFrame maxPayloadBytes f.raw with
  | error e =>
      dsimp only
      rw [readerEnds_view]
      rfl
  | ok taken =>
      dsimp only
      by_cases hnack : ptype f.raw = ptHeaderNack
      · have hdropped : ECUConnection.isDropped f.raw = true := by
          simp [ECUConnection.isDropped, hnack]
        rw [if_pos hdropped, if_pos hnack,
          ← hon { s with reader := .yielding } fs (.inr (.inl rfl)) hlive]
        rfl
      by_cases halive : ptype f.raw = ptAliveCheckRequest
      · have hdropped : ECUConnection.isDropped f.raw = true := by
          simp [ECUConnection.isDropped, halive]
        rw [if_pos hdropped, if_neg hnack, if_pos halive,
          ← hon { s with reader := .responding } fs (.inr (.inr rfl)) hlive]
        rfl
      · have hkept : ¬ ECUConnection.isDropped f.raw = true := by
          simp [ECUConnection.isDropped, hnack, halive]
        rw [if_neg hkept, if_neg hnack, if_neg halive, ← hview]
        unfold view
        rw [AsyncQueue.items_put]
        rfl

/-- A receiver that does not have to wait does what `recv` does. -/
theorem received_view {r : CallId} {queue : AsyncQueue CallId Queued} {item : Queued}
    (hitems : s.queue.items = item :: queue.items)
    (hstarted : ¬ (s.connected = false ∧ s.cause = none)) (fs : List Emitted) :
    (s.view fs).recv = some ((s.received r (queue, some item)).view fs, item.frame?) := by
  have hopen : ¬ ((s.view fs).connected = false ∧ (s.view fs).terminal = false) := by
    rintro ⟨hconnected, hterminal⟩
    have hnone : s.cause.isNone = true := Option.isSome_eq_false_iff.mp hterminal
    exact hstarted ⟨hconnected, Option.isNone_iff_eq_none.mp hnone⟩
  have hqueue : (s.view fs).recvQueue = item :: queue.items := hitems
  unfold ECUConnection.recv
  rw [if_neg hopen, hqueue]
  cases item with
  | frame f => rfl
  | terminal =>
      unfold received view
      dsimp only
      rw [AsyncQueue.items_put]
      rfl

end Delivery

end DoipPlayground.EdgeNode
