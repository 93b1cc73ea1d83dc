/-
  DoipPlayground.EdgeNode.SocketRegistry
  ──────────────────────────────────────
  **THE SOCKETS A SESSIONREGISTRY COUNTS** (`session_registry.py`).

  `_open_sockets` has one place more than `max_connections`: a tester that
  is being turned away needs a socket to be told so.

    • `SessionRegistry` — at most `max_connections + 1` sockets, by its type,
    • `statusPayload_isSome` — the count always fits in its byte.
-/
import DoipPlayground.EdgeNode.Loader
import DoipPlayground.Lib.Reservations

namespace DoipPlayground.EdgeNode.Sockets

open Wire

/-- The identity of a `StreamWriter`, and of the session that serves it. -/
abbrev Writer := Nat

structure SessionRegistry where
  maxConnections : Nat
  range : 1 ≤ maxConnections ∧ maxConnections ≤ 254
  openSockets : Reservations Writer Writer (maxConnections + 1)

namespace SessionRegistry

/-- `__init__`, which raises for a number out of range. -/
def new (maxConnections : Int) : Option SessionRegistry :=
  if h : 1 ≤ maxConnections ∧ maxConnections ≤ 254 then
    some
      { maxConnections := maxConnections.toNat
        range := by omega
        openSockets := .empty }
  else none

def reserve (r : SessionRegistry) (writer : Writer) : Option SessionRegistry :=
  (r.openSockets.reserve writer).map fun openSockets => { r with openSockets }

/-- `attach`; `none` is the `RuntimeError`. -/
def attach (r : SessionRegistry) (writer session : Writer) : Option SessionRegistry :=
  (r.openSockets.attach writer session).map fun openSockets => { r with openSockets }

def release (r : SessionRegistry) (writer : Writer) : SessionRegistry :=
  { r with openSockets := r.openSockets.release writer }

def openCount (r : SessionRegistry) : Nat := r.openSockets.count

/-- `status_payload`; `bytes` raises for what is no byte. -/
def statusPayload (r : SessionRegistry) (config : Loader.DoIPConfig) : Option Bytes := do
  let nodeType ← Python.byte? config.nodeType
  let maxConnections ← Python.byte? r.maxConnections
  let openCount ← Python.byte? r.openCount
  return [nodeType, maxConnections, openCount]

/-- The socket is counted. -/
def Holds (r : SessionRegistry) (writer : Writer) : Prop := r.openSockets.Held writer

instance Holds.decidable (r : SessionRegistry) (writer : Writer) : Decidable (r.Holds writer) :=
  inferInstanceAs (Decidable (r.openSockets.Held writer))

/-- Every socket that was ever counted. -/
def admitted (r : SessionRegistry) : List Writer := r.openSockets.admitted

/-- What may become of a registry. -/
def Later (r r' : SessionRegistry) : Prop :=
  ∃ openSockets, r' = { r with openSockets } ∧ r.openSockets.Later openSockets

variable {r r' r'' : SessionRegistry} {w v : Writer}

theorem openCount_le (r : SessionRegistry) : r.openCount ≤ r.maxConnections + 1 :=
  r.openSockets.count_le

/-- **The count always fits in its byte.** -/
theorem statusPayload_isSome (r : SessionRegistry) {config : Loader.DoIPConfig}
    (h : config.Checked) : (r.statusPayload config).isSome = true := by
  have hnode := h.nodeType
  have hmax := r.range
  have hcount := r.openCount_le
  obtain ⟨node, hnode⟩ := Option.isSome_iff_exists.mp
    ((Python.byte?_isSome config.nodeType).mpr (by omega))
  obtain ⟨max, hmax⟩ := Option.isSome_iff_exists.mp
    ((Python.byte?_isSome (r.maxConnections : Int)).mpr (by omega))
  obtain ⟨count, hcount⟩ := Option.isSome_iff_exists.mp
    ((Python.byte?_isSome (r.openCount : Int)).mpr (by omega))
  unfold statusPayload
  rw [hnode, hmax, hcount]
  rfl

theorem holds_release : (r.release w).Holds v ↔ v ≠ w ∧ r.Holds v :=
  r.openSockets.held_release w v

/-- A counted socket is not counted again. -/
theorem reserve_held (h : r.Holds w) : r.reserve w = some r := by
  unfold reserve
  rw [Reservations.reserve_held h]
  rfl

theorem attach_held (h : r.Holds w) (session : Writer) :
    r.attach w session = some { r with openSockets := r.openSockets.setOwner w session } := by
  unfold attach
  rw [Reservations.attach_held h]
  rfl

/-- A new socket that is let in. -/
theorem reserve_new (h : ¬ r.Holds w) (hr : r.reserve w = some r') :
    (∀ v, r'.Holds v ↔ v = w ∨ r.Holds v) ∧ r'.admitted = r.admitted ++ [w] := by
  obtain ⟨sockets, hsockets, rfl⟩ := Option.map_eq_some_iff.mp hr
  rcases Reservations.reserve_eq_some hsockets with ⟨hheld, _⟩ | ⟨_, hwho, hadmitted⟩
  · exact absurd hheld h
  · exact ⟨hwho, hadmitted⟩

theorem holds_setOwner (r : SessionRegistry) (w v session : Writer) :
    SessionRegistry.Holds { r with openSockets := r.openSockets.setOwner w session } v
      ↔ r.Holds v := Reservations.held_setOwner r.openSockets w v session

theorem admitted_setOwner (r : SessionRegistry) (w session : Writer) :
    SessionRegistry.admitted { r with openSockets := r.openSockets.setOwner w session }
      = r.admitted := Reservations.admitted_setOwner r.openSockets w session

/-- A new socket whose session is constructed directly. -/
theorem attach_new {session : Writer} (h : ¬ r.Holds w) (hr : r.attach w session = some r') :
    (∀ v, r'.Holds v ↔ v = w ∨ r.Holds v) ∧ r'.admitted = r.admitted ++ [w] := by
  obtain ⟨sockets, hsockets, rfl⟩ := Option.map_eq_some_iff.mp hr
  obtain ⟨reserved, hreserved, rfl⟩ := Option.map_eq_some_iff.mp hsockets
  have hreserve : r.reserve w = some { r with openSockets := reserved } := by
    unfold SessionRegistry.reserve
    rw [hreserved]
    rfl
  obtain ⟨hwho, hadmitted⟩ := reserve_new h hreserve
  refine ⟨?_, (Reservations.admitted_setOwner reserved w session).trans hadmitted⟩
  intro v
  exact (Reservations.held_setOwner reserved w v session).trans (hwho v)

namespace Later

theorem refl (r : SessionRegistry) : r.Later r := ⟨_, rfl, .refl _⟩

theorem trans (h : r.Later r') (h' : r'.Later r'') : r.Later r'' := by
  obtain ⟨sockets, rfl, hsockets⟩ := h
  obtain ⟨sockets', rfl, hsockets'⟩ := h'
  exact ⟨sockets', rfl, hsockets.trans hsockets'⟩

theorem reserve (h : r.reserve w = some r') : r.Later r' := by
  obtain ⟨sockets, hsockets, rfl⟩ := Option.map_eq_some_iff.mp h
  exact ⟨sockets, rfl, .reserve hsockets⟩

theorem attach {session : Writer} (h : r.attach w session = some r') : r.Later r' := by
  obtain ⟨sockets, hsockets, rfl⟩ := Option.map_eq_some_iff.mp h
  exact ⟨sockets, rfl, .attach hsockets⟩

theorem release (r : SessionRegistry) (w : Writer) : r.Later (r.release w) :=
  ⟨_, rfl, .release _ w⟩

theorem not_holds (h : r.Later r') (honce : r'.admitted.Nodup) (hw : w ∈ r.admitted)
    (hreleased : ¬ r.Holds w) : ¬ r'.Holds w := by
  obtain ⟨sockets, rfl, hsockets⟩ := h
  exact hsockets.not_held honce hw hreleased

end Later

end SessionRegistry

end DoipPlayground.EdgeNode.Sockets
