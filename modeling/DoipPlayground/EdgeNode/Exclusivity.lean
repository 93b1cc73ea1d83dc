/-
  DoipPlayground.EdgeNode.Exclusivity
  ───────────────────────────────────
  **ONE LIVE SESSION PER TESTER ADDRESS, AND NO MORE THAN FIT.**

  The invariant of the tester side, kept by every step:

    • the registry and the activated, open sessions are the same relation,
    • the registry never holds more than `maxConnections` addresses,
    • a session that is past the activation lock still holds it, and one
      that is past the conflict loop found its address free.

  Evictions and closes take no lock: they only remove entries, which
  every suspended contender tolerates.  Only `commitActivation` adds one,
  and its caller holds the lock of that address.
-/
import DoipPlayground.EdgeNode.Session

namespace DoipPlayground.EdgeNode

/-! ## §1. The invariant. -/

/-- What the suspension point of a session says about the locks and the
registry. -/
def PointOk (w : World) (i : Sid) : Prop :=
  match (w.sessions i).point with
  | .reading | .handling | .ended => ¬ w.locks.Inside i
  | .enteringLock sa =>
      w.locks.Waits sa i
        ∧ ((w.sessions i).activated = true → (w.sessions i).testerLogicalAddr = some sa)
  | .probing sa _ =>
      w.locks.Holds sa i
        ∧ ((w.sessions i).activated = true → (w.sessions i).testerLogicalAddr = some sa)
  | .enteringCapacity sa | .reclaiming sa _ | .drainingProbes sa _ =>
      w.locks.Holds sa i ∧ (w.sessions i).activated = false ∧ w.registry.lookup sa = none
  | .denying | .confirming => True

/-- The invariant, with the point of the session that is running left out. -/
structure InvExcept (cfg : DoIPConfig) (e : Option Sid) (w : World) : Prop where
  locks : w.locks.Inv
  /-- The transport is closed together with the session. -/
  closed : ∀ i, (w.sessions i).transportClosed = (w.sessions i).closing
  /-- Only activated, open sessions are registered, under their address. -/
  owner : ∀ sa i, w.registry.lookup sa = some i →
    (w.sessions i).activated = true ∧ (w.sessions i).testerLogicalAddr = some sa
      ∧ (w.sessions i).closing = false
  /-- Every activated, open session is registered under its address. -/
  live : ∀ i, (w.sessions i).activated = true → (w.sessions i).closing = false →
    ∃ sa, (w.sessions i).testerLogicalAddr = some sa ∧ w.registry.lookup sa = some i
  capacity : SessionRegistry.count w.registry ≤ cfg.maxConnections
  points : ∀ i, e ≠ some i → PointOk w i

/-- The invariant between two steps. -/
abbrev Inv (cfg : DoIPConfig) (w : World) : Prop := InvExcept cfg none w

theorem inv_init (cfg : DoIPConfig) : Inv cfg World.init where
  locks := RefLock.inv_empty
  closed := by simp [World.init]
  owner := by simp [World.init]
  live := by simp [World.init]
  capacity := by simp [World.init, OwnerTable.count]
  points := by simp [World.init, PointOk, RefLock.Table.Inside, RefLock.Table.empty]

variable {cfg : DoIPConfig} {w w' : World} {e : Option Sid} {i j : Sid} {sa : SA}

theorem InvExcept.weaken (h : Inv cfg w) (i : Sid) : InvExcept cfg (some i) w :=
  { h with points := fun j _ => h.points j (by simp) }

/-- The running session has reached a point that is fine. -/
theorem InvExcept.suspend (h : InvExcept cfg (some i) w) (hp : PointOk w i) : Inv cfg w := by
  refine { h with points := fun j _ => ?_ }
  by_cases hj : i = j
  · exact hj ▸ hp
  · exact h.points j (by simpa using hj)

/-! ## §2. Frames: what most steps leave alone. -/

/-- The part of a session the invariant reads, its point apart. -/
structure Core where
  activated : Bool
  addr : Option SA
  closing : Bool
  transport : Bool

def Session.core (s : Session) : Core :=
  ⟨s.activated, s.testerLogicalAddr, s.closing, s.transportClosed⟩

/-- `w'` differs from `w` only in probes, probe bookkeeping, sockets and
the point of the session `e`. -/
structure Frame (e : Option Sid) (w w' : World) : Prop where
  locks : w'.locks = w.locks
  registry : w'.registry = w.registry
  core : ∀ j, (w'.sessions j).core = (w.sessions j).core
  point : ∀ j, e ≠ some j → (w'.sessions j).point = (w.sessions j).point

theorem Frame.activated (h : Frame e w w') (j : Sid) :
    (w'.sessions j).activated = (w.sessions j).activated := congrArg Core.activated (h.core j)

theorem Frame.addr (h : Frame e w w') (j : Sid) :
    (w'.sessions j).testerLogicalAddr = (w.sessions j).testerLogicalAddr :=
  congrArg Core.addr (h.core j)

theorem Frame.closing (h : Frame e w w') (j : Sid) :
    (w'.sessions j).closing = (w.sessions j).closing := congrArg Core.closing (h.core j)

theorem Frame.transport (h : Frame e w w') (j : Sid) :
    (w'.sessions j).transportClosed = (w.sessions j).transportClosed :=
  congrArg Core.transport (h.core j)

theorem Frame.refl (e : Option Sid) (w : World) : Frame e w w :=
  ⟨rfl, rfl, fun _ => rfl, fun _ _ => rfl⟩

theorem Frame.trans {w'' : World} (h : Frame e w w') (h' : Frame e w' w'') : Frame e w w'' where
  locks := h'.locks.trans h.locks
  registry := h'.registry.trans h.registry
  core := fun j => (h'.core j).trans (h.core j)
  point := fun j hj => (h'.point j hj).trans (h.point j hj)

theorem Frame.pointOk (h : Frame e w w') (hj : e ≠ some j) (hp : PointOk w j) :
    PointOk w' j := by
  unfold PointOk at hp ⊢
  rw [h.point j hj, h.locks, h.activated, h.addr, h.registry]
  exact hp

/-- **A frame keeps the invariant.** -/
theorem InvExcept.frame (h : InvExcept cfg e w) (hf : Frame e w w') : InvExcept cfg e w' where
  locks := by rw [hf.locks]; exact h.locks
  closed := by
    intro j
    rw [hf.transport, hf.closing]
    exact h.closed j
  owner := by
    intro sa j hl
    rw [hf.registry] at hl
    rw [hf.activated, hf.addr, hf.closing]
    exact h.owner sa j hl
  live := by
    intro j ha hc
    rw [hf.activated] at ha
    rw [hf.closing] at hc
    rw [hf.addr, hf.registry]
    exact h.live j ha hc
  capacity := by rw [hf.registry]; exact h.capacity
  points := fun j hj => hf.pointOk hj (h.points j hj)

namespace World

@[simp] theorem set_sessions (w : World) (i j : Sid) (s : Session) :
    (w.set i s).sessions j = if j = i then s else w.sessions j := by
  by_cases h : j = i
  · subst h
    simp [set]
  · simp [set, h]

@[simp] theorem set_registry (w : World) (i : Sid) (s : Session) :
    (w.set i s).registry = w.registry := rfl

@[simp] theorem set_locks (w : World) (i : Sid) (s : Session) :
    (w.set i s).locks = w.locks := rfl

end World

/-- Overwriting a session by one with the same core. -/
theorem Frame.set (w : World) (i : Sid) (s : Session) (hs : s.core = (w.sessions i).core)
    (hp : e ≠ some i → s.point = (w.sessions i).point) : Frame e w (w.set i s) where
  locks := rfl
  registry := rfl
  core := by
    intro j
    rw [World.set_sessions]
    split
    · subst j
      exact hs
    · rfl
  point := by
    intro j hj
    rw [World.set_sessions]
    split
    · subst j
      exact hp hj
    · rfl

/-- Only the list of probes, the capacity lock and the bookkeeping of evictions differ. -/
theorem Frame.probes (e : Option Sid) (w : World) (c : Option Sid)
    (ps : Sid → Sid → Option Probe) (ev : List Sid) :
    Frame e w { w with capacityLock := c, probes := ps, evictedLive := ev } :=
  ⟨rfl, rfl, fun _ => rfl, fun _ _ => rfl⟩

theorem Frame.setPoint (w : World) (i : Sid) (p : Point) : Frame (some i) w (w.setPoint i p) :=
  Frame.set w i _ rfl (by simp)

theorem Frame.respond (w : World) (i : Sid) (code : Nat) (p : Point) :
    Frame (some i) w (w.respond i code p) :=
  Frame.set w i _ rfl (by simp)

theorem Session.releaseProbe_core (s : Session) (i : Sid) :
    (s.releaseProbe i).core = s.core ∧ (s.releaseProbe i).point = s.point := by
  unfold Session.releaseProbe
  split
  · exact ⟨rfl, rfl⟩
  · exact ⟨rfl, rfl⟩

theorem Frame.releaseProbes (e : Option Sid) (w : World) (i : Sid) :
    Frame e w (w.releaseProbes i) where
  locks := rfl
  registry := rfl
  core := fun j => ((w.sessions j).releaseProbe_core i).1
  point := fun j _ => ((w.sessions j).releaseProbe_core i).2

theorem Frame.releaseCapacity (e : Option Sid) (w : World) (i : Sid) :
    Frame e w (w.releaseCapacity i) :=
  Frame.probes e w _ w.probes w.evictedLive

theorem Frame.setPhase (e : Option Sid) (w : World) (i o : Sid) (ph : ProbePhase) :
    Frame e w (w.setPhase i o ph) :=
  Frame.probes e w w.capacityLock _ w.evictedLive

theorem Frame.startProbe (e : Option Sid) (w : World) (i o : Sid) :
    Frame e w (w.startProbe i o) :=
  Frame.probes e w w.capacityLock _ w.evictedLive

theorem Frame.probeAliveOnce (e : Option Sid) (w : World) (i o : Sid) :
    Frame e w (w.probeAliveOnce i o) := by
  unfold World.probeAliveOnce
  dsimp only
  split
  · exact Frame.setPhase e w i o _
  · refine Frame.trans ?_ (Frame.setPhase e _ i o _)
    exact Frame.set w o _ rfl (fun _ => rfl)

theorem Frame.endProbe (e : Option Sid) (w : World) (i o : Sid) (alive : Bool) :
    Frame e w (w.endProbe i o alive) := by
  unfold World.endProbe
  refine Frame.trans ?_ (Frame.setPhase e _ i o _)
  exact Frame.set w o _ rfl (fun _ => rfl)

theorem Frame.handleAliveCheckResponse (e : Option Sid) (w : World) (i : Sid) (sa : SA) :
    Frame e w (w.handleAliveCheckResponse i sa) := by
  unfold World.handleAliveCheckResponse
  dsimp only
  split
  · exact Frame.refl e w
  · split
    · exact Frame.set w i _ rfl (fun _ => rfl)
    · exact Frame.refl e w

theorem Frame.receive (e : Option Sid) (w : World) (i : Sid) (f : Inbound) :
    Frame e w (w.receive i f) := by
  unfold World.receive
  dsimp only
  refine Frame.trans ?_ (Frame.probes e _ w.capacityLock _ w.evictedLive)
  exact Frame.set w i _ rfl (fun _ => rfl)

/-- Starting several probes. -/
theorem Frame.startProbes (e : Option Sid) (i : Sid) (owners : List (SA × Sid)) (w : World) :
    Frame e w (owners.foldl (fun w o => w.startProbe i o.2) w) := by
  induction owners generalizing w with
  | nil => exact Frame.refl e w
  | cons o owners ih => exact (Frame.startProbe e w i o.2).trans (ih _)

/-! ## §3. Closing keeps the invariant. -/

/-- Closing `i` touches no other session, and of `i` only the closing flags
and the probe event. -/
theorem scheduleCleanup_sessions (w : World) (i j : Sid) :
    ((w.scheduleCleanup i).sessions j).activated = (w.sessions j).activated
      ∧ ((w.scheduleCleanup i).sessions j).testerLogicalAddr = (w.sessions j).testerLogicalAddr
      ∧ ((w.scheduleCleanup i).sessions j).point = (w.sessions j).point
      ∧ ((w.scheduleCleanup i).sessions j).closing = (decide (j = i) || (w.sessions j).closing)
      ∧ ((w.scheduleCleanup i).sessions j).transportClosed
          = (decide (j = i) || (w.sessions j).transportClosed) := by
  unfold World.scheduleCleanup
  dsimp only
  split
  · rename_i hclosed
    rw [World.set_sessions]
    by_cases hj : j = i
    · subst hj
      simp [hclosed]
    · simp [hj]
  · dsimp only
    rw [World.set_sessions]
    by_cases hj : j = i
    · subst hj
      simp
    · simp [hj]

theorem scheduleCleanup_locks (w : World) (i : Sid) : (w.scheduleCleanup i).locks = w.locks := by
  unfold World.scheduleCleanup
  dsimp only
  split <;> rfl

/-- The registry after `i` was closed: its own entry is gone, the others stay. -/
theorem scheduleCleanup_lookup (h : InvExcept cfg e w) (i : Sid) (sa : SA) (j : Sid) :
    (w.scheduleCleanup i).registry.lookup sa = some j
      ↔ w.registry.lookup sa = some j ∧ j ≠ i := by
  unfold World.scheduleCleanup
  dsimp only
  split
  · rename_i hclosed
    show w.registry.lookup sa = some j ↔ _
    refine ⟨fun hl => ⟨hl, ?_⟩, fun hl => hl.1⟩
    -- a closed session is not registered
    intro hji
    have hopen := (h.owner sa j hl).2.2
    rw [hji, ← h.closed i, hclosed] at hopen
    cases hopen
  · cases haddr : (w.sessions i).testerLogicalAddr with
    | none =>
        show w.registry.lookup sa = some j ↔ _
        refine ⟨fun hl => ⟨hl, ?_⟩, fun hl => hl.1⟩
        intro hji
        have hsa := (h.owner sa j hl).2.1
        rw [hji, haddr] at hsa
        cases hsa
    | some a =>
        show (SessionRegistry.unregister w.registry a i).lookup sa = some j ↔ _
        rw [OwnerTable.lookup_unregister]
        split
        · rename_i hown
          obtain ⟨rfl, hown⟩ := hown
          rw [hown]
          simp only [reduceCtorEq, Option.some.injEq, ne_eq, false_iff, not_and, not_not]
          exact Eq.symm
        · rename_i hown
          refine ⟨fun hl => ⟨hl, ?_⟩, fun hl => hl.1⟩
          intro hji
          subst hji
          have hsa := (h.owner sa j hl).2.1
          rw [haddr, Option.some.injEq] at hsa
          exact hown ⟨hsa.symm, hsa ▸ hl⟩

theorem scheduleCleanup_vacant (h : InvExcept cfg e w) (i : Sid)
    (hv : w.registry.lookup sa = none) : (w.scheduleCleanup i).registry.lookup sa = none := by
  cases hl : (w.scheduleCleanup i).registry.lookup sa with
  | none => rfl
  | some j =>
      rw [((scheduleCleanup_lookup h i sa j).mp hl).1] at hv
      cases hv

theorem scheduleCleanup_count (w : World) (i : Sid) :
    SessionRegistry.count (w.scheduleCleanup i).registry ≤ SessionRegistry.count w.registry := by
  unfold World.scheduleCleanup
  dsimp only
  split
  · exact Nat.le_refl _
  · dsimp only
    split
    · exact OwnerTable.count_unregister_le _ _ _
    · exact Nat.le_refl _

/-- **Closing a session keeps the invariant**, whoever is running. -/
theorem InvExcept.scheduleCleanup (h : InvExcept cfg e w) (i : Sid) :
    InvExcept cfg e (w.scheduleCleanup i) := by
  have hs := scheduleCleanup_sessions w i
  constructor
  · rw [scheduleCleanup_locks]
    exact h.locks
  · intro j
    rw [(hs j).2.2.2.1, (hs j).2.2.2.2, h.closed j]
  · intro sa j hl
    obtain ⟨hl, hj⟩ := (scheduleCleanup_lookup h i sa j).mp hl
    rw [(hs j).1, (hs j).2.1, (hs j).2.2.2.1]
    simpa [hj] using h.owner sa j hl
  · intro j ha hc
    rw [(hs j).1] at ha
    rw [(hs j).2.2.2.1, Bool.or_eq_false_iff, decide_eq_false_iff_not] at hc
    obtain ⟨sa, haddr, hl⟩ := h.live j ha hc.2
    refine ⟨sa, (hs j).2.1.trans haddr, ?_⟩
    exact (scheduleCleanup_lookup h i sa j).mpr ⟨hl, hc.1⟩
  · exact Nat.le_trans (scheduleCleanup_count w i) h.capacity
  · intro j hj
    have hp := h.points j hj
    unfold PointOk at hp ⊢
    rw [(hs j).2.2.1, (hs j).1, (hs j).2.1, scheduleCleanup_locks]
    cases hpt : (w.sessions j).point <;> rw [hpt] at hp
    case enteringCapacity => exact ⟨hp.1, hp.2.1, scheduleCleanup_vacant h i hp.2.2⟩
    case reclaiming => exact ⟨hp.1, hp.2.1, scheduleCleanup_vacant h i hp.2.2⟩
    case drainingProbes => exact ⟨hp.1, hp.2.1, scheduleCleanup_vacant h i hp.2.2⟩
    all_goals exact hp

theorem InvExcept.evict (h : InvExcept cfg e w) (i : Sid) (answered : Bool) :
    InvExcept cfg e (w.evict i answered) :=
  (h.scheduleCleanup i).frame
    (Frame.probes e _ (w.scheduleCleanup i).capacityLock (w.scheduleCleanup i).probes _)

/-- Leaving the activation lock: the others keep their place in it. -/
theorem InvExcept.leave (h : InvExcept cfg (some i) w) :
    InvExcept cfg (some i) { w with locks := w.locks.leave i } := by
  refine { h with locks := h.locks.leave i, points := fun j hj => ?_ }
  have hne : j ≠ i := fun hji => hj (by rw [hji])
  have hother := RefLock.leave_other h.locks hne
  have hp := h.points j hj
  unfold PointOk at hp ⊢
  dsimp only
  rw [hother.inside]
  simp only [hother.holds, hother.waits]
  exact hp

/-- **An exception anywhere in a handler keeps the invariant.** -/
theorem InvExcept.unwind (h : InvExcept cfg (some i) w) : Inv cfg (w.unwind i) := by
  have h₁ : InvExcept cfg (some i) ((w.releaseProbes i).releaseCapacity i) :=
    (h.frame (Frame.releaseProbes _ w i)).frame (Frame.releaseCapacity _ _ i)
  have h₂ := (h₁.leave.scheduleCleanup i).frame (Frame.setPoint _ i .ended)
  refine h₂.suspend ?_
  unfold PointOk World.setPoint
  simp only [World.set_sessions, if_pos, World.set_locks, scheduleCleanup_locks]
  exact RefLock.leave_outside h₁.locks i

/-! ## §4. Routing activation keeps the invariant. -/

/-- Suspending in the send of a response. -/
theorem InvExcept.respond (h : InvExcept cfg (some i) w) (code : Nat) {p : Point}
    (hp : p = .denying ∨ p = .confirming) : Inv cfg (w.respond i code p) := by
  refine (h.frame (Frame.respond w i code p)).suspend ?_
  unfold PointOk World.respond
  simp only [World.set_sessions, if_pos]
  rcases hp with rfl | rfl
  · trivial
  · trivial

/-- **Committing an activation** for an address the session holds the lock
of: either the entry is its own already, or the address is free, the
session new and there is room. -/
theorem InvExcept.commitActivation (h : InvExcept cfg (some i) w) (hlock : w.locks.Holds sa i)
    (hown : w.registry.lookup sa = some i
      ∨ (w.registry.lookup sa = none ∧ (w.sessions i).activated = false
          ∧ SessionRegistry.count w.registry < cfg.maxConnections)) :
    Inv cfg (w.commitActivation i sa) := by
  unfold World.commitActivation
  dsimp only
  -- a session closed in the meantime only unwinds
  split
  · exact h.unwind
  rename_i hopen
  rw [Bool.not_eq_true] at hopen
  -- no other session is registered under `sa`
  have hfree : ∀ j, j ≠ i → w.registry.lookup sa ≠ some j := by
    intro j hj hl
    rcases hown with hown | ⟨hown, _⟩ <;> rw [hown] at hl
    · exact hj (Option.some.inj hl).symm
    · cases hl
  refine InvExcept.respond ?_ 0x10 (.inr rfl)
  constructor
  -- the fields in the order of the invariant; only the entry of `sa` and the session `i` changed
  · exact h.locks
  · intro j
    have := h.closed j
    simp only [World.set_sessions]
    split
    · subst j
      exact this
    · exact this
  -- who owns an address is activated with it: `i` by the commit, the others as before
  · intro sa' j hl
    dsimp only at hl
    rw [OwnerTable.lookup_register] at hl
    simp only [World.set_sessions]
    split at hl
    · subst sa'
      rw [Option.some.injEq] at hl
      subst hl
      simpa using hopen
    · rename_i hsa
      have ho := h.owner sa' j hl
      -- `i` itself has no other address: it is new or registered under `sa`
      have hj : j ≠ i := by
        intro hji
        subst hji
        rcases hown with hown | ⟨_, hnew, _⟩
        · have := (h.owner sa j hown).2.1
          rw [ho.2.1, Option.some.injEq] at this
          exact hsa this
        · rw [hnew] at ho
          cases ho.1
      rw [if_neg hj]
      exact ho
  -- an activated session that is not closing is in the registry under its address
  · intro j ha hc
    simp only [World.set_sessions] at ha hc ⊢
    by_cases hj : j = i
    · subst hj
      exact ⟨sa, by simp, by rw [OwnerTable.lookup_register, if_pos rfl]⟩
    · rw [if_neg hj] at ha hc ⊢
      obtain ⟨sa', haddr, hl⟩ := h.live j ha hc
      refine ⟨sa', haddr, ?_⟩
      rw [OwnerTable.lookup_register, if_neg]
      · exact hl
      · intro hsa
        exact hfree j hj (hsa ▸ hl)
  -- an address that was `i`'s already adds no entry, a new one takes the room that was checked
  · show OwnerTable.count (OwnerTable.register w.registry sa i) ≤ _
    rcases hown with hown | ⟨_, _, hroom⟩
    · rw [OwnerTable.count_register_self hown]
      exact h.capacity
    · have := OwnerTable.count_register_le w.registry sa i
      exact Nat.le_trans this hroom
  · intro j hj
    have hne : j ≠ i := fun hji => hj (by rw [hji])
    have hp := h.points j hj
    unfold PointOk at hp ⊢
    simp only [World.set_sessions, if_neg hne, World.set_locks]
    -- a contender that found its address free holds another lock than `i`
    have hvacant : ∀ sa', w.locks.Holds sa' j → w.registry.lookup sa' = none →
        (SessionRegistry.register w.registry sa i).lookup sa' = none := by
      intro sa' hholds hl
      rw [OwnerTable.lookup_register, if_neg]
      · exact hl
      · intro hsa
        exact hne (RefLock.mutual_exclusion h.locks (hsa ▸ hholds) hlock)
    cases hpt : (w.sessions j).point <;> rw [hpt] at hp
    -- the points at which a session relies on its address being vacant
    case enteringCapacity => exact ⟨hp.1, hp.2.1, hvacant _ hp.1 hp.2.2⟩
    case reclaiming => exact ⟨hp.1, hp.2.1, hvacant _ hp.1 hp.2.2⟩
    case drainingProbes => exact ⟨hp.1, hp.2.1, hvacant _ hp.1 hp.2.2⟩
    all_goals exact hp

theorem InvExcept.recheckCapacity (h : InvExcept cfg (some i) w) (hlock : w.locks.Holds sa i)
    (hnew : (w.sessions i).activated = false) (hfree : w.registry.lookup sa = none) :
    Inv cfg (w.recheckCapacity cfg i sa) := by
  unfold World.recheckCapacity
  split
  · exact h.respond 0x01 (.inl rfl)
  · rename_i hroom
    exact h.commitActivation hlock (.inr ⟨hfree, hnew, by omega⟩)

theorem InvExcept.checkCapacity (h : InvExcept cfg (some i) w) (hlock : w.locks.Holds sa i)
    (haddr : (w.sessions i).activated = true → (w.sessions i).testerLogicalAddr = some sa)
    (hopen : (w.sessions i).closing = false)
    (hown : w.registry.lookup sa = none ∨ w.registry.lookup sa = some i) :
    Inv cfg (w.checkCapacity cfg i sa) := by
  unfold World.checkCapacity
  split
  · -- re-activation: an open activated session is the registered one
    rename_i hact
    obtain ⟨sa', hsa', hl⟩ := h.live i hact hopen
    rw [haddr hact, Option.some.injEq] at hsa'
    exact h.commitActivation hlock (.inl (hsa' ▸ hl))
  · rename_i hnew
    rw [Bool.not_eq_true] at hnew
    have hfree : w.registry.lookup sa = none := by
      rcases hown with hfree | hself
      · exact hfree
      · have := (h.owner sa i hself).1
        rw [hnew] at this
        cases this
    split
    · refine (h.frame (Frame.setPoint w i _)).suspend ?_
      unfold PointOk World.setPoint
      simpa only [World.set_sessions, if_pos, World.set_locks, World.set_registry]
        using ⟨hlock, hnew, hfree⟩
    · exact h.commitActivation hlock (.inr ⟨hfree, hnew, by omega⟩)

theorem InvExcept.activateWithConflictCheck (h : InvExcept cfg (some i) w)
    (hlock : w.locks.Holds sa i)
    (haddr : (w.sessions i).activated = true → (w.sessions i).testerLogicalAddr = some sa) :
    Inv cfg (w.activateWithConflictCheck cfg i sa) := by
  unfold World.activateWithConflictCheck
  split
  · exact h.unwind
  rename_i hopen
  rw [Bool.not_eq_true] at hopen
  split
  · rename_i hnone
    exact h.checkCapacity hlock haddr hopen (.inl hnone)
  · rename_i existing hsome
    split
    · rename_i hself
      exact h.checkCapacity hlock haddr hopen (.inr (hself ▸ hsome))
    · have hf := (Frame.startProbe (some i) w i existing).trans
        (Frame.setPoint _ i (.probing sa existing))
      refine (h.frame hf).suspend ?_
      unfold PointOk World.setPoint
      simpa only [World.set_sessions, if_pos] using ⟨hlock, haddr⟩

theorem InvExcept.resumeConflictCheck (h : InvExcept cfg (some i) w)
    (hlock : w.locks.Holds sa i)
    (haddr : (w.sessions i).activated = true → (w.sessions i).testerLogicalAddr = some sa)
    (existing : Sid) (alive answered : Bool) :
    Inv cfg (w.resumeConflictCheck cfg i sa existing alive answered) := by
  unfold World.resumeConflictCheck
  split
  · exact h.unwind
  split
  · exact h.activateWithConflictCheck hlock haddr
  split
  · exact h.respond 0x03 (.inl rfl)
  · have hs := scheduleCleanup_sessions w existing i
    refine (h.evict existing answered).activateWithConflictCheck ?_ ?_
    · show (w.scheduleCleanup existing).locks.Holds sa i
      rw [scheduleCleanup_locks]
      exact hlock
    · intro hact
      exact hs.2.1.trans (haddr (hs.1.symm.trans hact))

theorem InvExcept.reclaimCapacity (h : InvExcept cfg (some i) w) (hlock : w.locks.Holds sa i)
    (hnew : (w.sessions i).activated = false) (hfree : w.registry.lookup sa = none) :
    Inv cfg (w.reclaimCapacity cfg i sa) := by
  unfold World.reclaimCapacity
  split
  · exact h.unwind
  split
  · exact (h.frame (Frame.releaseCapacity _ w i)).recheckCapacity hlock hnew hfree
  · have hprobes := Frame.startProbes (some i) i (SessionRegistry.registeredSessions w.registry) w
    refine (h.frame (hprobes.trans (Frame.setPoint _ i _))).suspend ?_
    unfold PointOk World.setPoint
    simp only [World.set_sessions, if_pos, World.set_locks, World.set_registry]
    rw [hprobes.locks, hprobes.registry, hprobes.activated]
    exact ⟨hlock, hnew, hfree⟩

/-- What a contender that found `sa` free and waits for capacity relies on. -/
structure Candidate (cfg : DoIPConfig) (i : Sid) (sa : SA) (w : World) : Prop where
  inv : InvExcept cfg (some i) w
  holds : w.locks.Holds sa i
  fresh : (w.sessions i).activated = false
  vacant : w.registry.lookup sa = none

theorem Candidate.reclaimOwner (h : Candidate cfg i sa w) (o : SA × Sid) :
    Candidate cfg i sa (w.reclaimOwner i o) := by
  unfold World.reclaimOwner
  split
  · rename_i p hp
    split
    · constructor
      · exact h.inv.evict o.2 p.answered
      · show (w.scheduleCleanup o.2).locks.Holds sa i
        rw [scheduleCleanup_locks]
        exact h.holds
      · exact (scheduleCleanup_sessions w o.2 i).1.trans h.fresh
      · exact scheduleCleanup_vacant h.inv o.2 h.vacant
    · exact h
  · exact h

theorem Candidate.reclaimOwners (owners : List (SA × Sid)) (h : Candidate cfg i sa w) :
    Candidate cfg i sa (owners.foldl (World.reclaimOwner i) w) := by
  induction owners generalizing w with
  | nil => exact h
  | cons o owners ih => exact ih (h.reclaimOwner o)

theorem InvExcept.handleRoutingActivation (h : InvExcept cfg (some i) w)
    (hout : ¬ w.locks.Inside i) (src : SA) (activationType : Nat) :
    Inv cfg (w.handleRoutingActivation cfg i src activationType) := by
  unfold World.handleRoutingActivation
  dsimp only
  split
  · exact h.respond 0x02 (.inl rfl)
  rename_i hsame
  split
  · exact h.respond 0x00 (.inl rfl)
  split
  · exact h.respond 0x06 (.inl rfl)
  have hothers : InvExcept cfg (some i) { w with locks := w.locks.enter src i } := by
    refine { h with locks := h.locks.enter src hout, points := fun j hj => ?_ }
    have hother := RefLock.enter_other w.locks src (c := i) (d := j) (fun hji => hj (by rw [hji]))
    have hp := h.points j hj
    unfold PointOk at hp ⊢
    dsimp only
    rw [hother.inside]
    simp only [hother.holds, hother.waits]
    exact hp
  refine (hothers.frame (Frame.setPoint _ i (.enteringLock src))).suspend ?_
  unfold PointOk World.setPoint
  simp only [World.set_sessions, if_pos, World.set_locks]
  refine ⟨RefLock.enter_waits _ _ _, fun hact => ?_⟩
  by_contra hne
  exact hsame ⟨hact, hne⟩

theorem InvExcept.dispatch (h : InvExcept cfg (some i) w) (hpt : (w.sessions i).point = .reading)
    (hout : ¬ w.locks.Inside i) (f : Inbound) : Inv cfg (w.dispatch cfg i f) := by
  unfold World.dispatch
  split
  · exact h.unwind
  cases f with
  | routingActivation src ty => exact h.handleRoutingActivation hout src ty
  | aliveCheckResponse sa =>
      have hf := Frame.handleAliveCheckResponse none w i sa
      refine (h.frame (Frame.handleAliveCheckResponse (some i) w i sa)).suspend ?_
      unfold PointOk
      rw [hf.point i (by simp), hpt, hf.locks]
      exact hout
  | request =>
      refine (h.frame (Frame.setPoint w i .handling)).suspend ?_
      unfold PointOk World.setPoint
      simpa only [World.set_sessions, if_pos, World.set_locks] using hout
  | invalid => exact h.unwind

/-! ## §5. Every step and every run. -/

theorem InvExcept.acquire {t : RefLock.Table SA Sid} (h : InvExcept cfg (some i) w)
    (hacq : w.locks.acquire i = some t) : InvExcept cfg (some i) { w with locks := t } := by
  refine { h with locks := h.locks.acquire hacq, points := fun j hj => ?_ }
  have hother := RefLock.acquire_other (d := j) hacq (fun hji => hj (by rw [hji]))
  have hp := h.points j hj
  unfold PointOk at hp ⊢
  dsimp only
  rw [hother.inside]
  simp only [hother.holds, hother.waits]
  exact hp

/-! What the invariant says at each point, when its session resumes. -/

theorem Inv.outside (h : Inv cfg w)
    (hpoint : (w.sessions i).point = .reading ∨ (w.sessions i).point = .handling) :
    ¬ w.locks.Inside i := by
  have hp := h.points i (by simp)
  unfold PointOk at hp
  rcases hpoint with hpoint | hpoint
  · rw [hpoint] at hp
    exact hp
  · rw [hpoint] at hp
    exact hp

theorem Inv.entering (h : Inv cfg w) (hpoint : (w.sessions i).point = .enteringLock sa) :
    w.locks.Waits sa i
      ∧ ((w.sessions i).activated = true → (w.sessions i).testerLogicalAddr = some sa) := by
  have hp := h.points i (by simp)
  unfold PointOk at hp
  rw [hpoint] at hp
  exact hp

theorem Inv.probing {existing : Sid} (h : Inv cfg w)
    (hpoint : (w.sessions i).point = .probing sa existing) :
    w.locks.Holds sa i
      ∧ ((w.sessions i).activated = true → (w.sessions i).testerLogicalAddr = some sa) := by
  have hp := h.points i (by simp)
  unfold PointOk at hp
  rw [hpoint] at hp
  exact hp

theorem Inv.candidate (h : Inv cfg w)
    (hpoint : (w.sessions i).point = .enteringCapacity sa
      ∨ (∃ owners, (w.sessions i).point = .reclaiming sa owners)
      ∨ ∃ failed, (w.sessions i).point = .drainingProbes sa failed) :
    Candidate cfg i sa w := by
  have hp := h.points i (by simp)
  unfold PointOk at hp
  rcases hpoint with hpoint | ⟨owners, hpoint⟩ | ⟨failed, hpoint⟩
  · rw [hpoint] at hp
    exact ⟨h.weaken i, hp.1, hp.2.1, hp.2.2⟩
  · rw [hpoint] at hp
    exact ⟨h.weaken i, hp.1, hp.2.1, hp.2.2⟩
  · rw [hpoint] at hp
    exact ⟨h.weaken i, hp.1, hp.2.1, hp.2.2⟩

/-- A session outside the locks goes back to its loop. -/
theorem InvExcept.goReading (h : InvExcept cfg (some i) w) (hout : ¬ w.locks.Inside i) :
    Inv cfg (w.setPoint i .reading) := by
  refine (h.frame (Frame.setPoint w i .reading)).suspend ?_
  unfold PointOk World.setPoint
  simpa only [World.set_sessions, if_pos, World.set_locks] using hout

/-- A contender for capacity waits for its cancelled probes. -/
theorem Candidate.drain (h : Candidate cfg i sa w) (failed : Bool) :
    Inv cfg (w.setPoint i (.drainingProbes sa failed)) := by
  refine (h.inv.frame (Frame.setPoint w i _)).suspend ?_
  unfold PointOk World.setPoint
  simpa only [World.set_sessions, if_pos, World.set_locks, World.set_registry]
    using ⟨h.holds, h.fresh, h.vacant⟩

/-- **Every step keeps the invariant.** -/
theorem inv_step (ev : Event) (h : Inv cfg w) (hstep : step cfg w ev = some w') : Inv cfg w' := by
  cases step_effect hstep with
  | received i f => exact h.frame (Frame.receive none w i f)
  | read i f rest hpoint _ =>
      have hf : Frame (some i) w (w.set i { w.sessions i with inbox := rest }) :=
        Frame.set w i _ rfl (fun _ => rfl)
      refine ((h.weaken i).frame hf).dispatch ?_ (h.outside (.inl hpoint)) f
      simpa using hpoint
  | handled i hpoint => exact (h.weaken i).goReading (h.outside (.inr hpoint))
  | failed i => exact (h.weaken i).unwind
  | lockAcquired i sa locks hpoint hacquire =>
      obtain ⟨hwaits, haddr⟩ := h.entering hpoint
      exact ((h.weaken i).acquire hacquire).activateWithConflictCheck
        (RefLock.acquire_holds h.locks hwaits hacquire) haddr
  -- the body of a probe runs outside the locks of its prober
  | probeStarted i o p _ _ _ => exact h.frame (Frame.probeAliveOnce none w i o)
  | probeSent i o p _ _ => exact h.frame (Frame.setPhase none w i o .waiting)
  | probeSendFailed i o p _ _ => exact h.frame (Frame.endProbe none w i o false)
  | probeWoken i o p _ _ _ => exact h.frame (Frame.endProbe none w i o _)
  | probeTimedOut i o p _ _ => exact h.frame (Frame.endProbe none w i o false)
  | probeReturned i existing sa alive answered hpoint _ =>
      obtain ⟨hholds, haddr⟩ := h.probing hpoint
      have hf := Frame.releaseProbes (some i) w i
      refine ((h.weaken i).frame hf).resumeConflictCheck hholds ?_ existing _ _
      rw [hf.activated, hf.addr]
      exact haddr
  | capacityAcquired i sa hpoint =>
      have hcand := h.candidate (.inl hpoint)
      have hframe := hcand.inv.frame (Frame.probes _ w (some i) w.probes w.evictedLive)
      exact hframe.reclaimCapacity hcand.holds hcand.fresh hcand.vacant
  | reclaimAborted i sa owners hpoint =>
      exact (h.candidate (.inr (.inl ⟨owners, hpoint⟩))).drain true
  | reclaimed i sa owners hpoint =>
      exact ((h.candidate (.inr (.inl ⟨owners, hpoint⟩))).reclaimOwners owners).drain false
  | reclaimFailed i sa _ =>
      have hf := (Frame.releaseProbes (some i) w i).trans (Frame.releaseCapacity _ _ i)
      exact ((h.weaken i).frame hf).unwind
  | probesDrained i sa hpoint =>
      have hcand := h.candidate (.inr (.inr ⟨false, hpoint⟩))
      have hf := (Frame.releaseProbes (some i) w i).trans (Frame.releaseCapacity _ _ i)
      refine (hcand.inv.frame hf).recheckCapacity hcand.holds ?_ hcand.vacant
      rw [hf.activated]
      exact hcand.fresh
  | sentLast i => exact (h.weaken i).unwind
  | confirmed i _ => exact (h.weaken i).leave.goReading (RefLock.leave_outside h.locks i)
  | cancelled i => exact (h.weaken i).unwind
  | reclaimCancelled i sa owners hpoint =>
      exact (h.candidate (.inr (.inl ⟨owners, hpoint⟩))).drain true
  | closed i => exact h.scheduleCleanup i

theorem inv_run (es : List Event) (h : Transition.exec (step cfg) World.init es = some w) :
    Inv cfg w :=
  Transition.exec_invariant (Inv cfg) (fun _ ev _ => inv_step ev) es World.init w (inv_init cfg) h

/-! ## §6. Exclusivity and capacity. -/

/-- Session `i` is activated for `sa` and not closing. -/
def World.Live (w : World) (i : Sid) (sa : SA) : Prop :=
  (w.sessions i).activated = true ∧ (w.sessions i).testerLogicalAddr = some sa
    ∧ (w.sessions i).closing = false

/-- What the registry promises at any time. -/
structure Exclusive (cfg : DoIPConfig) (w : World) : Prop where
  /-- At most one live session per address. -/
  unique : ∀ sa i j, w.Live i sa → w.Live j sa → i = j
  /-- `lookup` is exactly that session. -/
  lookup : ∀ sa i, w.Live i sa → w.registry.lookup sa = some i
  /-- Every entry is a live session of that address. -/
  registered : ∀ sa i, w.registry.lookup sa = some i → w.Live i sa
  /-- An activated session that is not closing is live for some address. -/
  addressed : ∀ i, (w.sessions i).activated = true → (w.sessions i).closing = false →
    ∃ sa, w.Live i sa
  capacity : SessionRegistry.count w.registry ≤ cfg.maxConnections

theorem InvExcept.exclusive (h : Inv cfg w) : Exclusive cfg w := by
  have hlookup : ∀ sa i, w.Live i sa → w.registry.lookup sa = some i := by
    intro sa i hlive
    obtain ⟨sa', haddr, hl⟩ := h.live i hlive.1 hlive.2.2
    rw [hlive.2.1, Option.some.injEq] at haddr
    exact haddr ▸ hl
  constructor
  · intro sa i j hi hj
    have := hlookup sa i hi
    rw [hlookup sa j hj, Option.some.injEq] at this
    exact this.symm
  · exact hlookup
  · exact h.owner
  · intro i hact hopen
    obtain ⟨sa, haddr, _⟩ := h.live i hact hopen
    exact ⟨sa, hact, haddr, hopen⟩
  · exact h.capacity

/-- **Exclusivity and capacity**, at the end of every interleaving. -/
theorem exclusive_of_run (cfg : DoIPConfig) (es : List Event) (w : World)
    (h : Transition.exec (step cfg) World.init es = some w) : Exclusive cfg w :=
  (inv_run es h).exclusive

/-- Two testers of one address and a single slot: the second one evicts the
silent first one. -/
def evictionRun : List Event :=
  [.receive 0 (.routingActivation 0x0E00 0x00), .read 0, .lockAcquired 0, .sent 0,
   .receive 1 (.routingActivation 0x0E00 0x00), .read 1, .lockAcquired 1,
   .probeStarted 1 0, .probeSent 1 0, .probeTimeout 1 0, .probeReturned 1, .sent 1]

def evictionCfg : DoIPConfig := ⟨(0x0E00, 0x0E7F), [], 1⟩

theorem exclusive_after_eviction :
    ∃ w, Transition.exec (step evictionCfg) World.init evictionRun = some w
      ∧ w.registry.lookup 0x0E00 = some 1 ∧ Exclusive evictionCfg w := by
  have hrun : ((Transition.exec (step evictionCfg) World.init evictionRun).map
      (fun w => w.registry.lookup 0x0E00)) = some (some 1) := by decide
  obtain ⟨w, hw, hl⟩ := Option.map_eq_some_iff.mp hrun
  exact ⟨w, hw, hl, exclusive_of_run evictionCfg evictionRun w hw⟩

end DoipPlayground.EdgeNode
