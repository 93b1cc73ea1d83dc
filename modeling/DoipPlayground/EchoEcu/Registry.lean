/-
  DoipPlayground.EchoEcu.Registry
  ───────────────────────────────
  **WHO OWNS A TESTER ADDRESS AT THE ECHO ECU** (`ECUSession`,
  `ECUSessionRegistry`).

  `unregister` removes whatever entry an address has.  An evicted session
  unregisters twice, once in `evict` and once at the end of its `run`; what
  it removes the second time is its successor's entry.

    • `Owned` — `lookup` finds the last session activated for an address, if
      that one is still there, and never one that is gone,
    • `ownedAt_activate`, `ownedAt_retire` — what the two ways to change the
      registry do to an address,
    • `owned_throughout_iff` — the runs in which nothing goes wrong,
    • `takeover_forgets_owner` — an ordinary takeover is not among them.
-/
import DoipPlayground.Lib.Run
import DoipPlayground.Lib.OwnerTable
import DoipPlayground.EchoEcu.Frames

namespace DoipPlayground.EchoEcu

open Wire

abbrev SA := Nat

/-- Sessions in the order of their connections. -/
abbrev SessionId := Nat

/-! ## §1. `ECUSessionRegistry`. -/

abbrev ECUSessionRegistry := OwnerTable SA SessionId

namespace ECUSessionRegistry

def register (r : ECUSessionRegistry) (logicalAddr : SA) (session : SessionId) :
    ECUSessionRegistry := OwnerTable.register r logicalAddr session

/-- `self._sessions.pop(logical_addr, None)`: whoever has the address. -/
def unregister (r : ECUSessionRegistry) (logicalAddr : SA) : ECUSessionRegistry :=
  AList.erase logicalAddr r

theorem lookup_unregister (r : ECUSessionRegistry) (sa sa' : SA) :
    (unregister r sa).lookup sa' = if sa' = sa then none else r.lookup sa' := by
  unfold unregister
  by_cases h : sa' = sa
  · rw [if_pos h, h, AList.lookup_erase]
  · rw [if_neg h, AList.lookup_erase_ne h]

end ECUSessionRegistry

/-! ## §2. Sessions. -/

def ptHeaderNack : Nat := 0x0000
def ptRoutingActRequest : Nat := 0x0005
def ptRoutingActResponse : Nat := 0x0006
def ptAliveCheckResponse : Nat := 0x0008
def ptDiagnosticMessage : Nat := 0x8001

/-- The version and its complement. -/
def validHeader (raw : Bytes) : Bool :=
  let ver := raw.headD 0
  let inv := (raw.drop 1).headD 0
  (ver == 0x02 || ver == 0x03) && inv == 0xFF ^^^ ver

/-- Where a session's task is. -/
inductive Phase where
  /-- `_read_frame` -/
  | reading
  /-- `existing.probe_alive`, for a tester that wants `src`. -/
  | probing (src : SA) (existing : SessionId)
  /-- `_send`; `last` when `_loop` returns after it. -/
  | sending (last : Bool)
  /-- `wait_closed`, in the `finally` of `run`. -/
  | closing
  | ended
  deriving DecidableEq, Repr

/-- `_loop` has not been left. -/
def Phase.Looping : Phase → Prop
  | .reading | .probing .. | .sending _ => True
  | .closing | .ended => False

instance Phase.Looping.decidable (p : Phase) : Decidable p.Looping := by
  cases p <;> unfold Phase.Looping <;> infer_instance

structure ECUSession where
  activated : Bool := false
  testerAddr : Option SA := none
  phase : Phase := .reading
  /-- `evict` has closed the writer. -/
  evicted : Bool := false
  /-- What it has sent. -/
  wire : List Bytes := []
  deriving DecidableEq, Repr

/-- Evicted, or its `run` has returned. -/
def ECUSession.Gone (s : ECUSession) : Prop := s.evicted = true ∨ s.phase = .ended

/-- The sessions of one server, with its registry. -/
structure World where
  opened : Nat := 0
  sessions : SessionId → ECUSession := fun _ => {}
  registry : ECUSessionRegistry := ∅
  /-- The session last activated for an address; nothing reads it. -/
  lastActivated : SA → Option SessionId := fun _ => none

namespace World

def set (w : World) (i : SessionId) (s : ECUSession) : World :=
  { w with sessions := fun j => if j = i then s else w.sessions j }

/-- `self._registry.unregister(self.tester_addr)`, of a session that has one. -/
def unregister (w : World) (i : SessionId) : ECUSessionRegistry :=
  match (w.sessions i).testerAddr with
  | some sa => ECUSessionRegistry.unregister w.registry sa
  | none => w.registry

/-- `evict` -/
def evict (w : World) (i : SessionId) : World :=
  { w.set i { w.sessions i with evicted := true } with registry := w.unregister i }

/-- The last lines of `run`. -/
def cleanUp (w : World) (i : SessionId) : World :=
  { w.set i { w.sessions i with phase := .ended } with registry := w.unregister i }

/-- The session takes the address. -/
def activate (w : World) (i : SessionId) (src : SA) : World :=
  { w.set i { w.sessions i with testerAddr := some src, activated := true } with
    registry := ECUSessionRegistry.register w.registry src i
    lastActivated := fun sa => if sa = src then some i else w.lastActivated sa }

/-- `_send`; a frame that cannot be built is an exception, which ends `_loop`. -/
def send (w : World) (i : SessionId) (raw : Option Bytes) (last : Bool) : World :=
  match raw with
  | some raw =>
      w.set i { w.sessions i with wire := (w.sessions i).wire ++ [raw], phase := .sending last }
  | none => w.set i { w.sessions i with phase := .closing }

/-- The Routing Activation Response with this code. -/
def respond (w : World) (ecuAddr : Nat) (i : SessionId) (src : SA) (code : UInt8) : World :=
  w.send i (do
    let addresses ← packHH src ecuAddr
    build ptRoutingActResponse (addresses ++ [code] ++ [0, 0, 0, 0] ++ [0, 0, 0, 0])) false

/-- `_handle_routing_activation`, up to where it waits. -/
def handleRoutingActivation (w : World) (ecuAddr : Nat) (i : SessionId) (payload : Bytes) :
    World :=
  if payload.length < 7 then w.send i (build ptHeaderNack [0x04]) false
  else
    let src := fromBytes (payload.take 2)
    match w.registry.lookup src with
    | some existing =>
        if existing = i then (w.activate i src).respond ecuAddr i src 0x10
        else w.set i { w.sessions i with phase := .probing src existing }
    | none => (w.activate i src).respond ecuAddr i src 0x10

/-- `_handle_routing_activation`, after `probe_alive`. -/
def probeReturned (w : World) (ecuAddr : Nat) (i : SessionId) (src : SA)
    (existing : SessionId) (alive : Bool) : World :=
  if alive then w.respond ecuAddr i src 0x03
  else ((w.evict existing).activate i src).respond ecuAddr i src 0x10

/-- `_loop` with a frame.  The answers of the other handlers are left out:
they read `activated` and change nothing. -/
def received (w : World) (ecuAddr : Nat) (i : SessionId) (raw : Bytes) : World :=
  if !validHeader raw then w.send i (build ptHeaderNack [0x00]) true
  else if ptype raw = ptRoutingActRequest then w.handleRoutingActivation ecuAddr i (payload raw)
  else if ptype raw = ptAliveCheckResponse then w
  else if ptype raw = ptDiagnosticMessage ∧ (w.sessions i).activated = false then w
  else w.set i { w.sessions i with phase := .sending false }

end World

/-! ## §3. Runs. -/

inductive Event where
  /-- A connection is accepted. -/
  | accepted
  /-- `_read_frame` returns. -/
  | frame (i : SessionId) (raw : Bytes)
  /-- `existing.probe_alive` returns. -/
  | probed (i : SessionId) (alive : Bool)
  /-- `_send` returns. -/
  | sent (i : SessionId)
  /-- An EOF, a reset, an exception or a cancellation ends `_loop`. -/
  | loopEnds (i : SessionId)
  /-- `wait_closed` returns. -/
  | closed (i : SessionId)
  deriving DecidableEq, Repr

def step (ecuAddr : Nat) (w : World) : Event → Option World
  | .accepted => some { w with opened := w.opened + 1 }
  | .frame i raw =>
      if i < w.opened ∧ (w.sessions i).phase = .reading then some (w.received ecuAddr i raw)
      else none
  | .probed i alive =>
      match (w.sessions i).phase with
      | .probing src existing => some (w.probeReturned ecuAddr i src existing alive)
      | _ => none
  | .sent i =>
      match (w.sessions i).phase with
      | .sending last =>
          some (w.set i { w.sessions i with phase := if last then .closing else .reading })
      | _ => none
  | .loopEnds i =>
      if i < w.opened ∧ (w.sessions i).phase.Looping then
        some (w.set i { w.sessions i with phase := .closing })
      else none
  | .closed i => if (w.sessions i).phase = .closing then some (w.cleanUp i) else none

def World.init : World := {}

/-! ## §4. Owners. -/

/-- `lookup` of this address is the session last activated for it, unless
that one is gone, and is no session that is gone. -/
structure OwnedAt (w : World) (sa : SA) : Prop where
  current : ∀ t, w.lastActivated sa = some t → ¬ (w.sessions t).Gone → w.registry.lookup sa = some t
  live : ∀ t, w.registry.lookup sa = some t → ¬ (w.sessions t).Gone

/-- The registry is right about every address. -/
def Owned (w : World) : Prop := ∀ sa, OwnedAt w sa

/-- To remove `s` from the registry is to remove this entry, if the entry
names `s`, and to leave it, if it does not. -/
def OwnEntry (w : World) (s : SessionId) (sa : SA) : Prop :=
  ((w.sessions s).testerAddr = some sa → ∀ t, w.registry.lookup sa = some t → t = s)
    ∧ (w.registry.lookup sa = some s → (w.sessions s).testerAddr = some sa)

/-- The frame makes the session take an address at once: nobody has it, or
the session itself. -/
def TakesAddress (w : World) (i : SessionId) (raw : Bytes) : Prop :=
  validHeader raw = true ∧ ptype raw = ptRoutingActRequest ∧ 7 ≤ (payload raw).length
    ∧ (∀ existing, w.registry.lookup (fromBytes ((payload raw).take 2)) = some existing →
      existing = i)

/-- **The condition on a step**: no evicted session takes an address, and
where a session is removed its entries are, and no others.  The entry of the
address that is about to be taken does not matter. -/
def Tidy (w : World) : Event → Prop
  | .frame i raw =>
      i < w.opened ∧ (w.sessions i).phase = .reading ∧ TakesAddress w i raw →
        (w.sessions i).evicted = false
  | .probed i false =>
      ∀ src existing, (w.sessions i).phase = .probing src existing →
        (w.sessions i).evicted = false ∧ ∀ sa, sa ≠ src → OwnEntry w existing sa
  | .closed i => (w.sessions i).phase = .closing → ∀ sa, OwnEntry w i sa
  | _ => True

/-! ## §5. What a step does to the owners. -/

variable {w w' : World} {i s : SessionId} {sa src : SA}

/-- What `Owned` reads is unchanged. -/
structure Same (w w' : World) : Prop where
  registry : w'.registry = w.registry
  lastActivated : w'.lastActivated = w.lastActivated
  gone : ∀ i, (w'.sessions i).Gone ↔ (w.sessions i).Gone

theorem Same.ownedAt_iff (h : Same w w') : OwnedAt w' sa ↔ OwnedAt w sa := by
  constructor
  · intro ⟨hcurrent, hlive⟩
    constructor
    · intro t hlast hgone
      rw [← h.registry]
      exact hcurrent t (h.lastActivated ▸ hlast) (fun hg => hgone ((h.gone t).mp hg))
    · intro t hlookup hgone
      exact hlive t (h.registry ▸ hlookup) ((h.gone t).mpr hgone)
  · intro ⟨hcurrent, hlive⟩
    constructor
    · intro t hlast hgone
      rw [h.registry]
      exact hcurrent t (h.lastActivated ▸ hlast) (fun hg => hgone ((h.gone t).mpr hg))
    · intro t hlookup hgone
      exact hlive t (h.registry ▸ hlookup) ((h.gone t).mp hgone)

theorem Same.owned_iff (h : Same w w') : Owned w' ↔ Owned w :=
  forall_congr' fun _ => h.ownedAt_iff

/-- A session changes, and neither goes nor comes back. -/
theorem same_set {session : ECUSession} (hevicted : session.evicted = (w.sessions i).evicted)
    (hended : session.phase = .ended ↔ (w.sessions i).phase = .ended) :
    Same w (w.set i session) := by
  refine ⟨rfl, rfl, ?_⟩
  intro j
  unfold World.set ECUSession.Gone
  dsimp only
  by_cases hj : j = i
  · rw [if_pos hj, hj, hevicted, hended]
  · rw [if_neg hj]

theorem same_send {raw : Option Bytes} {last : Bool} (h : (w.sessions i).phase ≠ .ended) :
    Same w (w.send i raw last) := by
  unfold World.send
  cases raw with
  | none => exact same_set rfl (iff_of_false (by simp) h)
  | some raw => exact same_set rfl (iff_of_false (by simp) h)

theorem same_respond {ecuAddr : Nat} {code : UInt8} (h : (w.sessions i).phase ≠ .ended) :
    Same w (w.respond ecuAddr i src code) := same_send h

theorem gone_activate (j : SessionId) :
    ((w.activate i src).sessions j).Gone ↔ (w.sessions j).Gone := by
  show (if j = i then _ else w.sessions j : ECUSession).Gone ↔ _
  by_cases hj : j = i
  · rw [if_pos hj, hj]
    rfl
  · rw [if_neg hj]

/-- To activate a session is right at its address iff it is there, and does
nothing at the others. -/
theorem ownedAt_activate :
    OwnedAt (w.activate i src) sa ↔ if sa = src then ¬ (w.sessions i).Gone else OwnedAt w sa := by
  have hlookup : (w.activate i src).registry.lookup sa
      = if sa = src then some i else w.registry.lookup sa :=
    OwnerTable.lookup_register w.registry src sa i
  have hlast : (w.activate i src).lastActivated sa
      = if sa = src then some i else w.lastActivated sa := rfl
  by_cases hsa : sa = src
  · rw [if_pos hsa] at hlookup hlast ⊢
    constructor
    · intro h hgone
      exact h.live i hlookup ((gone_activate i).mpr hgone)
    · intro hthere
      constructor
      · intro t ht _
        rw [hlookup, ← hlast, ht]
      · intro t ht hgone
        rw [hlookup, Option.some.injEq] at ht
        exact hthere (ht ▸ (gone_activate t).mp hgone)
  · rw [if_neg hsa] at hlookup hlast ⊢
    constructor
    · intro h
      constructor
      · intro t ht hgone
        rw [← hlookup]
        exact h.current t (hlast.trans ht) (fun hg => hgone ((gone_activate t).mp hg))
      · intro t ht hgone
        exact h.live t (hlookup.trans ht) ((gone_activate t).mpr hgone)
    · intro h
      constructor
      · intro t ht hgone
        rw [hlookup]
        exact h.current t (hlast ▸ ht) (fun hg => hgone ((gone_activate t).mpr hg))
      · intro t ht hgone
        exact h.live t (hlookup ▸ ht) ((gone_activate t).mp hgone)

theorem lookup_unregister (w : World) (s : SessionId) (sa : SA) :
    (w.unregister s).lookup sa
      = if (w.sessions s).testerAddr = some sa then none else w.registry.lookup sa := by
  unfold World.unregister
  cases haddr : (w.sessions s).testerAddr with
  | none => rfl
  | some own =>
      show (ECUSessionRegistry.unregister w.registry own).lookup sa = _
      rw [ECUSessionRegistry.lookup_unregister]
      by_cases hsa : sa = own
      · rw [if_pos hsa, if_pos (by rw [hsa])]
      · rw [if_neg hsa, if_neg (fun h => hsa (Option.some.inj h).symm)]

/-- What holds in every run. -/
structure Recorded (w : World) : Prop where
  /-- An entry names the session last activated. -/
  last : ∀ sa t, w.registry.lookup sa = some t → w.lastActivated sa = some t
  /-- Nobody probes itself. -/
  other : ∀ i src existing, (w.sessions i).phase = .probing src existing → existing ≠ i

/-- A session goes, and with it an entry: the address stays right iff the
entry was the session's own. -/
theorem ownedAt_retire (hrecorded : Recorded w) (hregistry : w'.registry = w.unregister s)
    (hlast : w'.lastActivated = w.lastActivated)
    (hgone : ∀ j, (w'.sessions j).Gone ↔ (w.sessions j).Gone ∨ j = s) (h : OwnedAt w sa) :
    OwnedAt w' sa ↔ OwnEntry w s sa := by
  have hlookup : w'.registry.lookup sa
      = if (w.sessions s).testerAddr = some sa then none else w.registry.lookup sa := by
    rw [hregistry, lookup_unregister]
  constructor
  · intro h'
    constructor
    · intro haddr t ht
      by_contra hne
      have hthere : ¬ (w'.sessions t).Gone := by
        intro hg
        rcases (hgone t).mp hg with hg | heq
        · exact h.live t ht hg
        · exact hne heq
      have hfound := h'.current t (by rw [hlast]; exact hrecorded.last sa t ht) hthere
      rw [hlookup, if_pos haddr] at hfound
      cases hfound
    · intro hown
      by_contra haddr
      rw [if_neg haddr] at hlookup
      exact h'.live s (hlookup.trans hown) ((hgone s).mpr (.inr rfl))
  · intro ⟨hothers, hown⟩
    constructor
    · intro t ht hthere
      rw [hlast] at ht
      have hfound := h.current t ht (fun hg => hthere ((hgone t).mpr (.inl hg)))
      have haddr : (w.sessions s).testerAddr ≠ some sa := by
        intro haddr
        exact hthere ((hgone t).mpr (.inr (hothers haddr t hfound)))
      rw [hlookup, if_neg haddr]
      exact hfound
    · intro t ht hg
      by_cases haddr : (w.sessions s).testerAddr = some sa
      · rw [hlookup, if_pos haddr] at ht
        cases ht
      · rw [hlookup, if_neg haddr] at ht
        rcases (hgone t).mp hg with hg | heq
        · exact h.live t ht hg
        · exact haddr (hown (heq ▸ ht))

theorem gone_evict (j : SessionId) :
    ((w.evict s).sessions j).Gone ↔ (w.sessions j).Gone ∨ j = s := by
  show (if j = s then _ else w.sessions j : ECUSession).Gone ↔ _
  by_cases hj : j = s
  · rw [if_pos hj]
    exact iff_of_true (.inl rfl) (.inr hj)
  · rw [if_neg hj]
    exact (or_iff_left hj).symm

theorem gone_cleanUp (j : SessionId) :
    ((w.cleanUp s).sessions j).Gone ↔ (w.sessions j).Gone ∨ j = s := by
  show (if j = s then _ else w.sessions j : ECUSession).Gone ↔ _
  by_cases hj : j = s
  · rw [if_pos hj]
    exact iff_of_true (.inr rfl) (.inr hj)
  · rw [if_neg hj]
    exact (or_iff_left hj).symm

/-- The session takes an address that is free or its own. -/
theorem owned_activate_iff (h : Owned w) :
    Owned (w.activate i src) ↔ ¬ (w.sessions i).Gone := by
  constructor
  · intro h'
    have := ownedAt_activate.mp (h' src)
    rwa [if_pos rfl] at this
  · intro hthere sa
    rw [ownedAt_activate]
    split
    · exact hthere
    · exact h sa

/-- The session evicts the owner and takes its place. -/
theorem owned_replace_iff (hrecorded : Recorded w) (h : Owned w) {existing : SessionId}
    (hne : existing ≠ i) :
    Owned ((w.evict existing).activate i src)
      ↔ ¬ (w.sessions i).Gone ∧ ∀ sa, sa ≠ src → OwnEntry w existing sa := by
  have hi : ((w.evict existing).sessions i).Gone ↔ (w.sessions i).Gone := by
    rw [gone_evict]
    exact or_iff_left hne.symm
  have hentry : ∀ sa, OwnedAt (w.evict existing) sa ↔ OwnEntry w existing sa :=
    fun sa => ownedAt_retire hrecorded rfl rfl gone_evict (h sa)
  constructor
  · intro h'
    constructor
    · have := ownedAt_activate.mp (h' src)
      rwa [if_pos rfl, hi] at this
    · intro sa hsa
      have := ownedAt_activate.mp (h' sa)
      rwa [if_neg hsa, hentry] at this
  · intro ⟨hthere, hown⟩ sa
    rw [ownedAt_activate]
    split
    · rw [hi]
      exact hthere
    · rename_i hsa
      rw [hentry]
      exact hown sa hsa

/-! ## §6. What holds in every run. -/

namespace Recorded

theorem set (h : Recorded w) {session : ECUSession}
    (hphase : ∀ src existing, session.phase = .probing src existing → existing ≠ i) :
    Recorded (w.set i session) := by
  refine ⟨h.last, ?_⟩
  intro j src existing hj
  unfold World.set at hj
  dsimp only at hj
  split at hj
  · rename_i heq
    rw [heq]
    exact hphase src existing hj
  · exact h.other j src existing hj

theorem send (h : Recorded w) {raw : Option Bytes} {last : Bool} :
    Recorded (w.send i raw last) := by
  unfold World.send
  cases raw with
  | none => exact h.set (fun _ _ hp => by cases hp)
  | some raw => exact h.set (fun _ _ hp => by cases hp)

theorem respond (h : Recorded w) {ecuAddr : Nat} {code : UInt8} :
    Recorded (w.respond ecuAddr i src code) := h.send

theorem activate (h : Recorded w) : Recorded (w.activate i src) := by
  constructor
  · intro sa t ht
    have hlookup : (w.activate i src).registry.lookup sa
        = if sa = src then some i else w.registry.lookup sa :=
      OwnerTable.lookup_register w.registry src sa i
    show (if sa = src then some i else w.lastActivated sa) = some t
    rw [hlookup] at ht
    split
    · rename_i hsa
      rwa [if_pos hsa] at ht
    · rename_i hsa
      rw [if_neg hsa] at ht
      exact h.last sa t ht
  · exact (h.set (fun _ existing hp => h.other i _ existing hp) :
      Recorded (w.set i { w.sessions i with testerAddr := some src, activated := true })).other

theorem unregister (h : Recorded w) {t : SessionId}
    (hlookup : (w.unregister s).lookup sa = some t) : w.lastActivated sa = some t := by
  rw [lookup_unregister] at hlookup
  split at hlookup
  · cases hlookup
  · exact h.last sa t hlookup

theorem evict (h : Recorded w) : Recorded (w.evict s) := by
  refine ⟨fun _ _ ht => h.unregister ht, ?_⟩
  exact (h.set (fun _ existing hp => h.other s _ existing hp) :
    Recorded (w.set s { w.sessions s with evicted := true })).other

theorem cleanUp (h : Recorded w) : Recorded (w.cleanUp s) := by
  refine ⟨fun _ _ ht => h.unregister ht, ?_⟩
  exact (h.set (fun _ _ hp => by cases hp) :
    Recorded (w.set s { w.sessions s with phase := .ended })).other

theorem handleRoutingActivation (h : Recorded w) {ecuAddr : Nat} {payload : Bytes} :
    Recorded (w.handleRoutingActivation ecuAddr i payload) := by
  unfold World.handleRoutingActivation
  split
  · exact h.send
  dsimp only
  split
  · split
    · exact h.activate.respond
    · rename_i hne
      refine h.set ?_
      intro src existing hp
      cases hp
      exact hne
  · exact h.activate.respond

theorem received (h : Recorded w) {ecuAddr : Nat} {raw : Bytes} :
    Recorded (w.received ecuAddr i raw) := by
  unfold World.received
  split
  · exact h.send
  split
  · exact h.handleRoutingActivation
  split
  · exact h
  split
  · exact h
  · exact h.set (fun _ _ hp => by cases hp)

theorem probeReturned (h : Recorded w) {ecuAddr : Nat} {existing : SessionId} {alive : Bool} :
    Recorded (w.probeReturned ecuAddr i src existing alive) := by
  unfold World.probeReturned
  split
  · exact h.respond
  · exact h.evict.activate.respond

theorem step (ecuAddr : Nat) (w : World) (e : Event) (w' : World) (h : Recorded w)
    (hstep : EchoEcu.step ecuAddr w e = some w') : Recorded w' := by
  unfold EchoEcu.step at hstep
  split at hstep
  case h_1 =>
    cases hstep
    exact ⟨h.last, h.other⟩
  case h_2 i raw =>
    split at hstep
    · cases hstep
      exact h.received
    · cases hstep
  case h_3 i alive =>
    split at hstep
    · cases hstep
      exact h.probeReturned
    · cases hstep
  case h_4 i =>
    split at hstep
    · rename_i last _
      cases hstep
      refine h.set ?_
      intro src existing hp
      cases last <;> cases hp
    · cases hstep
  case h_5 i =>
    split at hstep
    · cases hstep
      exact h.set (fun _ _ hp => by cases hp)
    · cases hstep
  case h_6 i =>
    split at hstep
    · cases hstep
      exact h.cleanUp
    · cases hstep

end Recorded

theorem recorded_init : Recorded World.init where
  last := by
    intro sa t ht
    cases ht
  other := by
    intro i src existing hp
    cases hp

theorem owned_init : Owned World.init := by
  intro sa
  constructor
  · intro t ht
    cases ht
  · intro t ht
    cases ht

/-! ## §7. Which steps keep it. -/

theorem there_iff (h : (w.sessions i).phase ≠ .ended) :
    ¬ (w.sessions i).Gone ↔ (w.sessions i).evicted = false := by
  unfold ECUSession.Gone
  rw [or_iff_left h, Bool.not_eq_true]

theorem phase_activate : ((w.activate i src).sessions i).phase = (w.sessions i).phase := by
  show (if i = i then _ else w.sessions i : ECUSession).phase = _
  rw [if_pos rfl]

section
variable (ecuAddr : Nat) (hrecorded : Recorded w) (howned : Owned w)
include howned

theorem owned_received_iff {raw : Bytes} (hphase : (w.sessions i).phase = .reading) :
    Owned (w.received ecuAddr i raw)
      ↔ (TakesAddress w i raw → (w.sessions i).evicted = false) := by
  have hrunning : (w.sessions i).phase ≠ .ended := by
    rw [hphase]
    simp
  -- a frame that takes no address changes nobody's, and one that does is granted at once
  have hquiet : ∀ {w' : World}, Same w w' → ¬ TakesAddress w i raw →
      (Owned w' ↔ (TakesAddress w i raw → (w.sessions i).evicted = false)) :=
    fun hsame hnot => iff_of_true (hsame.owned_iff.mpr howned) (fun h => absurd h hnot)
  have htakes : ∀ src, TakesAddress w i raw →
      (Owned ((w.activate i src).respond ecuAddr i src 0x10)
        ↔ (TakesAddress w i raw → (w.sessions i).evicted = false)) := by
    intro src h
    have hrunning' : ((w.activate i src).sessions i).phase ≠ .ended := by
      rw [phase_activate]
      exact hrunning
    rw [(same_respond hrunning').owned_iff, owned_activate_iff howned, there_iff hrunning]
    exact (imp_iff_right h).symm
  unfold World.received
  split
  · rename_i hheader
    refine hquiet (same_send hrunning) fun h => ?_
    rw [h.1] at hheader
    cases hheader
  rename_i hheader
  have hvalid : validHeader raw = true := by simpa using hheader
  split
  · rename_i hpt
    unfold World.handleRoutingActivation
    split
    · rename_i hshort
      exact hquiet (same_send hrunning) (fun h => absurd h.2.2.1 (Nat.not_le.mpr hshort))
    rename_i hlong
    have h7 := Nat.not_lt.mp hlong
    dsimp only
    split
    · rename_i existing hl
      split
      · rename_i heq
        refine htakes _ ⟨hvalid, hpt, h7, ?_⟩
        intro t ht
        rw [hl, Option.some.injEq] at ht
        exact ht ▸ heq
      · rename_i hne
        refine hquiet (same_set rfl (iff_of_false (by simp) hrunning)) ?_
        intro h
        exact hne (h.2.2.2 existing hl)
    -- a free address is granted as well
    · rename_i hl
      refine htakes _ ⟨hvalid, hpt, h7, ?_⟩
      intro t ht
      rw [hl] at ht
      cases ht
  rename_i hpt
  have hnot : ¬ TakesAddress w i raw := fun h => hpt h.2.1
  split
  · exact hquiet ⟨rfl, rfl, fun _ => Iff.rfl⟩ hnot
  split
  · exact hquiet ⟨rfl, rfl, fun _ => Iff.rfl⟩ hnot
  · exact hquiet (same_set rfl (iff_of_false (by simp) hrunning)) hnot

include hrecorded

theorem owned_probeReturned_iff {existing : SessionId} {alive : Bool}
    (hphase : (w.sessions i).phase = .probing src existing) :
    Owned (w.probeReturned ecuAddr i src existing alive)
      ↔ (alive = false → (w.sessions i).evicted = false
        ∧ ∀ sa, sa ≠ src → OwnEntry w existing sa) := by
  have hrunning : (w.sessions i).phase ≠ .ended := by
    rw [hphase]
    simp
  have hne := hrecorded.other i src existing hphase
  cases alive with
  | true => exact iff_of_true ((same_respond hrunning).owned_iff.mpr howned) (fun h => by cases h)
  | false =>
      have hsame : ((w.evict existing).sessions i) = w.sessions i := if_neg hne.symm
      have hrunning' : (((w.evict existing).activate i src).sessions i).phase ≠ .ended := by
        show (if i = i then _ else _ : ECUSession).phase ≠ .ended
        rw [if_pos rfl, hsame]
        exact hrunning
      unfold World.probeReturned
      rw [if_neg (by simp), (same_respond hrunning').owned_iff,
        owned_replace_iff hrecorded howned hne, there_iff hrunning]
      exact (imp_iff_right rfl).symm

/-- A step keeps every address right iff it is tidy. -/
theorem owned_step_iff {e : Event} (hstep : step ecuAddr w e = some w') :
    Owned w' ↔ Tidy w e := by
  unfold step at hstep
  split at hstep
  case h_1 =>
    cases hstep
    have hsame : Same w { w with opened := w.opened + 1 } := ⟨rfl, rfl, fun _ => Iff.rfl⟩
    exact iff_of_true (hsame.owned_iff.mpr howned) trivial
  case h_2 i raw =>
    split at hstep
    · rename_i henabled
      cases hstep
      rw [owned_received_iff ecuAddr howned henabled.2]
      exact ⟨fun h h' => h h'.2.2, fun h h' => h ⟨henabled.1, henabled.2, h'⟩⟩
    · cases hstep
  case h_3 i alive =>
    split at hstep
    · rename_i src existing hphase
      cases hstep
      rw [owned_probeReturned_iff ecuAddr hrecorded howned hphase]
      cases alive with
      | true => exact iff_of_true (fun h => by cases h) trivial
      | false =>
          constructor
          · intro h src' existing' hphase'
            rw [hphase] at hphase'
            cases hphase'
            exact h rfl
          · intro h _
            exact h src existing hphase
    · cases hstep
  case h_4 i =>
    split at hstep
    · rename_i last hphase
      cases hstep
      have hsame : Same w (w.set i { w.sessions i with
          phase := if last then .closing else .reading }) := by
        refine same_set rfl (iff_of_false ?_ ?_)
        · cases last <;> simp
        · rw [hphase]
          simp
      exact iff_of_true (hsame.owned_iff.mpr howned) trivial
    · cases hstep
  case h_5 i =>
    split at hstep
    · rename_i henabled
      cases hstep
      have hsame : Same w (w.set i { w.sessions i with phase := .closing }) := by
        refine same_set rfl (iff_of_false (by simp) ?_)
        intro hended
        rw [hended] at henabled
        exact henabled.2
      exact iff_of_true (hsame.owned_iff.mpr howned) trivial
    · cases hstep
  case h_6 i =>
    split at hstep
    · rename_i hphase
      cases hstep
      have hentry : ∀ sa, OwnedAt (w.cleanUp i) sa ↔ OwnEntry w i sa :=
        fun sa => ownedAt_retire hrecorded rfl rfl gone_cleanUp (howned sa)
      exact (forall_congr' hentry).trans (imp_iff_right hphase).symm
    · cases hstep

end

/-- An event that cannot happen is tidy. -/
theorem tidy_of_disabled (ecuAddr : Nat) {e : Event} (h : step ecuAddr w e = none) : Tidy w e := by
  cases e with
  | frame i raw =>
      intro ⟨hopened, hphase, _⟩
      have henabled : step ecuAddr w (.frame i raw) = _ := if_pos ⟨hopened, hphase⟩
      rw [h] at henabled
      cases henabled
  | probed i alive =>
      cases alive with
      | true => trivial
      | false =>
          intro src existing hphase
          unfold step at h
          dsimp only at h
          rw [hphase] at h
          cases h
  | closed i =>
      intro hphase
      have henabled : step ecuAddr w (.closed i) = _ := if_pos hphase
      rw [h] at henabled
      cases henabled
  | _ => trivial

/-! ## §8. Runs. -/

/-- **The registry is right throughout a run iff every step of it is tidy.** -/
theorem owned_throughout_iff (ecuAddr : Nat) (es : List Event) :
    Transition.Throughout (step ecuAddr) Owned World.init es
      ↔ Transition.Along (step ecuAddr) Tidy World.init es :=
  Transition.throughout_iff_along Recorded (Recorded.step ecuAddr)
    (fun _ _ h => tidy_of_disabled ecuAddr h)
    (fun _ _ _ hrecorded howned hstep => owned_step_iff ecuAddr hrecorded howned hstep)
    es World.init recorded_init owned_init

/-- A Routing Activation Request of the tester 0x0E00. -/
def activationFrame : Bytes := [0x02, 0xFD, 0x00, 0x05, 0, 0, 0, 7, 0x0E, 0x00, 0, 0, 0, 0, 0]

/-- A session whose tester is gone is replaced; then its own `run` ends. -/
def takeover : List Event :=
  [.accepted, .accepted, .frame 0 activationFrame, .sent 0, .frame 1 activationFrame,
    .probed 1 false, .sent 1, .loopEnds 0, .closed 0]

/-- **The evicted session removes its successor**: session 1 was activated
last and is there, and `lookup` finds nobody. -/
theorem takeover_forgets_owner :
    ∃ w, Transition.exec (step 0x0002) World.init takeover = some w
      ∧ w.lastActivated 0x0E00 = some 1 ∧ ¬ (w.sessions 1).Gone
      ∧ w.registry.lookup 0x0E00 = none ∧ ¬ Owned w := by
  have hrun : ((Transition.exec (step 0x0002) World.init takeover).map fun w =>
      (w.lastActivated 0x0E00, (w.sessions 1).evicted, (w.sessions 1).phase,
        w.registry.lookup 0x0E00)) = some (some 1, false, .reading, none) := by decide
  obtain ⟨w, hw, heq⟩ := Option.map_eq_some_iff.mp hrun
  simp only [Prod.mk.injEq] at heq
  obtain ⟨hlast, hevicted, hphase, hlookup⟩ := heq
  have hthere : ¬ (w.sessions 1).Gone := by
    unfold ECUSession.Gone
    rw [hevicted, hphase]
    simp
  refine ⟨w, hw, hlast, hthere, hlookup, ?_⟩
  intro howned
  have hfound := (howned 0x0E00).current 1 hlast hthere
  rw [hlookup] at hfound
  cases hfound

end DoipPlayground.EchoEcu
