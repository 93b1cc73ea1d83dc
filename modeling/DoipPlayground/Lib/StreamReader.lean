/-
  DoipPlayground.Lib.StreamReader
  ───────────────────────────────
  **READING A STREAM IN WHOLE PIECES** (`asyncio.StreamReader`).

  A stream arrives in chunks that have nothing to do with the pieces its
  reader asks for.  `readexactly` waits until enough of it is there; where
  the stream ends before, it raises with what was there, which is gone.

    • `readexactly`,
    • `readexactly_enough`, `readexactly_incomplete`, `readexactly_waiting` —
      how the chunks were cut plays no part,
    • `readMany` — a read over and over,
    • `readMany_takes` — a stream of pieces is read back as these pieces.
-/
import Mathlib.Data.List.Basic

/-- What is buffered of a stream, and what has yet to arrive. -/
structure StreamReader (α : Type*) where
  buffer : List α := []
  /-- The chunks to come. -/
  arriving : List (List α) := []
  /-- The sender closes the stream after them. -/
  eof : Bool := true
  deriving DecidableEq, Repr

namespace StreamReader

variable {α β ε ζ : Type*}

/-- Everything that has yet to be read. -/
def stream (r : StreamReader α) : List α := r.buffer ++ r.arriving.flatten

/-- Why a read does not return. -/
inductive Unread (α : Type*) where
  /-- `IncompleteReadError` -/
  | incomplete (part : List α) (expected : Nat)
  /-- The stream is open and nothing more arrives. -/
  | waiting
  deriving DecidableEq, Repr

/-! ## §1. `readexactly`. -/

/-- `while len(buffer) < n: await _wait_for_data()` -/
def fill (n : Nat) : List α → List (List α) → List α × List (List α)
  | buffer, [] => (buffer, [])
  | buffer, chunk :: arriving =>
      if buffer.length < n then fill n (buffer ++ chunk) arriving else (buffer, chunk :: arriving)

def readexactly (n : Nat) (r : StreamReader α) : Except (Unread α) (List α) × StreamReader α :=
  let filled := fill n r.buffer r.arriving
  if filled.1.length < n then
    if r.eof then (.error (.incomplete filled.1 n), { r with buffer := [], arriving := filled.2 })
    else (.error .waiting, { r with buffer := filled.1, arriving := filled.2 })
  else
    (.ok (filled.1.take n), { r with buffer := filled.1.drop n, arriving := filled.2 })

/-- Waiting moves bytes into the buffer and loses none. -/
theorem fill_stream (n : Nat) (arriving : List (List α)) :
    ∀ buffer, (fill n buffer arriving).1 ++ (fill n buffer arriving).2.flatten
      = buffer ++ arriving.flatten := by
  induction arriving with
  | nil => intro buffer; rfl
  | cons chunk arriving ih =>
      intro buffer
      unfold fill
      split
      · rw [ih, List.append_assoc]
        rfl
      · rfl

/-- It ends with too few bytes only when all of them have arrived. -/
theorem fill_short (n : Nat) (arriving : List (List α)) :
    ∀ buffer, (fill n buffer arriving).1.length < n → (fill n buffer arriving).2 = [] := by
  induction arriving with
  | nil => intro buffer _; rfl
  | cons chunk arriving ih =>
      intro buffer hshort
      unfold fill at hshort ⊢
      split
      · rename_i hlt
        rw [if_pos hlt] at hshort
        exact ih _ hshort
      · rename_i hge
        rw [if_neg hge] at hshort
        exact absurd hshort hge

variable {n : Nat} (r : StreamReader α)

theorem fill_length_lt_iff :
    (fill n r.buffer r.arriving).1.length < n ↔ r.stream.length < n := by
  have hstream : _ = r.stream := fill_stream n r.arriving r.buffer
  constructor
  · intro hshort
    rw [fill_short n r.arriving r.buffer hshort, List.flatten_nil, List.append_nil] at hstream
    rw [← hstream]
    exact hshort
  · intro hshort
    rw [← hstream, List.length_append] at hshort
    omega

/-- A stream with enough bytes: they are returned, and the others remain. -/
theorem readexactly_enough (h : n ≤ r.stream.length) :
    ∃ r', r.readexactly n = (.ok (r.stream.take n), r') ∧ r'.stream = r.stream.drop n
      ∧ r'.eof = r.eof := by
  have hfilled : ¬ (fill n r.buffer r.arriving).1.length < n := by
    rw [fill_length_lt_iff]
    omega
  have hstream : _ = r.stream := fill_stream n r.arriving r.buffer
  have hle := Nat.not_lt.mp hfilled
  refine ⟨{ r with
    buffer := (fill n r.buffer r.arriving).1.drop n
    arriving := (fill n r.buffer r.arriving).2 }, ?_, ?_, ?_⟩
  · unfold readexactly
    dsimp only
    rw [if_neg hfilled, ← hstream, List.take_append_of_le_length hle]
  · show List.drop n _ ++ _ = _
    rw [← hstream, List.drop_append_of_le_length hle]
  · rfl

/-- A stream that is closed too early. -/
theorem readexactly_incomplete (h : r.stream.length < n) (heof : r.eof = true) :
    ∃ r', r.readexactly n = (.error (.incomplete r.stream n), r') ∧ r'.stream = []
      ∧ r'.eof = true := by
  have hfilled := r.fill_length_lt_iff.mpr h
  have harriving := fill_short n r.arriving r.buffer hfilled
  have hstream : _ = r.stream := fill_stream n r.arriving r.buffer
  rw [harriving, List.flatten_nil, List.append_nil] at hstream
  refine ⟨{ r with buffer := [], arriving := (fill n r.buffer r.arriving).2 }, ?_, ?_, ?_⟩
  · unfold readexactly
    dsimp only
    rw [if_pos hfilled, if_pos heof, hstream]
  · show ([] : List α) ++ _ = _
    rw [harriving]
    rfl
  · exact heof

/-- A stream that stays open with too few bytes. -/
theorem readexactly_waiting (h : r.stream.length < n) (hopen : r.eof = false) :
    ∃ r', r.readexactly n = (.error .waiting, r') ∧ r'.stream = r.stream ∧ r'.eof = false := by
  have hfilled := r.fill_length_lt_iff.mpr h
  refine ⟨{ r with
    buffer := (fill n r.buffer r.arriving).1
    arriving := (fill n r.buffer r.arriving).2 }, ?_, ?_, ?_⟩
  · unfold readexactly
    dsimp only
    rw [if_pos hfilled, hopen, if_neg (by decide)]
  · exact fill_stream n r.arriving r.buffer
  · exact hopen

/-! ## §2. One read after the other. -/

/-- `n` reads, or as many as succeed: what they return, and the failure. -/
def readMany (read : StreamReader α → Except ε β × StreamReader α) :
    Nat → StreamReader α → List β × Option ε × StreamReader α
  | 0, r => ([], none, r)
  | n + 1, r =>
      match read r with
      | (.error e, r) => ([], some e, r)
      | (.ok b, r) =>
          let more := readMany read n r
          (b :: more.1, more.2)

/-- `read` takes the piece off every stream that starts with it. -/
def Takes (read : StreamReader α → Except ε (List α) × StreamReader α) (piece : List α) : Prop :=
  ∀ r rest, r.stream = piece ++ rest →
    ∃ r', read r = (.ok piece, r') ∧ r'.stream = rest ∧ r'.eof = r.eof

/-- **A stream of pieces is read back as these pieces**, and what follows
them is left alone. -/
theorem readMany_takes {read : StreamReader α → Except ε (List α) × StreamReader α}
    {pieces : List (List α)} (h : ∀ piece ∈ pieces, Takes read piece) (rest : List α) :
    ∀ r, r.stream = pieces.flatten ++ rest →
      ∃ r', readMany read pieces.length r = (pieces, none, r') ∧ r'.stream = rest
        ∧ r'.eof = r.eof := by
  induction pieces with
  | nil =>
      intro r hstream
      exact ⟨r, rfl, hstream, rfl⟩
  | cons piece pieces ih =>
      intro r hstream
      rw [List.flatten_cons, List.append_assoc] at hstream
      obtain ⟨r₁, hread, hstream₁, heof₁⟩ := h piece List.mem_cons_self r _ hstream
      obtain ⟨r₂, hmany, hstream₂, heof₂⟩ :=
        ih (fun p hp => h p (List.mem_cons_of_mem _ hp)) r₁ hstream₁
      refine ⟨r₂, ?_, hstream₂, heof₂.trans heof₁⟩
      rw [List.length_cons]
      unfold readMany
      rw [hread]
      dsimp only
      rw [hmany]

/-- Two reads that differ in the name of their failure. -/
theorem readMany_mapError {read : StreamReader α → Except ε β × StreamReader α}
    {read' : StreamReader α → Except ζ β × StreamReader α} {f : ε → ζ}
    (h : ∀ r, read' r = ((read r).1.mapError f, (read r).2)) (n : Nat) :
    ∀ r, readMany read' n r
      = ((readMany read n r).1, (readMany read n r).2.1.map f, (readMany read n r).2.2) := by
  induction n with
  | zero => intro r; rfl
  | succ n ih =>
      intro r
      unfold readMany
      rw [h r]
      cases read r with
      | mk outcome r' =>
          cases outcome with
          | error e => rfl
          | ok b =>
              dsimp only [Except.mapError]
              rw [ih r']

end StreamReader
