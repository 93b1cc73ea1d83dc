/-
  DoipPlayground.VirtualEcu.Finalized
  ───────────────────────────────────
  **A FINALIZED CONNECTION AND THE ADDRESS IT WAS ASKING FOR.**

  `_handle_routing_activation` waits for the hooks and for the probe of an
  owner.  Meanwhile a timer or another finalization may close its socket;
  nobody tells the handler, which reads `_finalized` nowhere.

    • `Unpromoted` — a step neither activates a socket nor enters it,
    • `TakesAtOnce`, `Evicts` — the two ways for a handler to get on after
      it has waited,
    • `finalized_never_takes_iff` — the runs in which no finalized socket
      does so,
    • `finalized_evicts` — a run in which one does.
-/
import DoipPlayground.VirtualEcu.Ownership

namespace DoipPlayground.VirtualEcu

open Wire

variable {cfg : EcuConfig} {w w' w'' : World} {i j : Sid} {src : SA}

/-! ## §1. Steps that promote nobody. -/

/-- The socket is not activated and not entered into the registry. -/
structure Unpromoted (w w' : World) (j : Sid) : Prop where
  activated : (w'.sessions j).activated = true → (w.sessions j).activated = true
  entered : ∀ sa, w'.registry.lookup sa = some j → w.registry.lookup sa = some j

namespace Unpromoted

theorem trans (h : Unpromoted w w' j) (h' : Unpromoted w' w'' j) : Unpromoted w w'' j :=
  ⟨fun hact => h.activated (h'.activated hact), fun sa hl => h.entered sa (h'.entered sa hl)⟩

theorem quiet (h : Quiet w w') (j : Sid) : Unpromoted w w' j := by
  constructor
  · intro hact
    rw [← h.activated j]
    exact hact
  · intro sa hl
    rw [← h.registry]
    exact hl

theorem core (w : World) (c : EcuCore) (j : Sid) : Unpromoted w { w with core := c } j :=
  ⟨id, fun _ => id⟩

theorem unregister (w : World) (i j : Sid) : Unpromoted w (w.unregister i) j := by
  refine ⟨id, ?_⟩
  intro sa hl
  rw [unregister_lookup] at hl
  split at hl
  · cases hl
  · exact hl

theorem evict (cfg : EcuConfig) (w : World) (i j : Sid) (answered : Bool) :
    Unpromoted w (w.evict cfg i answered) j := by
  constructor
  · intro hact
    rw [evict_activated] at hact
    exact hact
  · intro sa hl
    rw [evict_registry] at hl
    exact (unregister w i j).entered sa hl

theorem releaseState (cfg : EcuConfig) (w : World) (i j : Sid) :
    Unpromoted w (w.releaseState cfg i) j := by
  refine ⟨?_, fun _ => id⟩
  intro hact
  unfold World.releaseState at hact
  simp only [World.set_sessions] at hact
  split at hact
  · rename_i hj
    rw [hj]
    exact hact
  · exact hact

/-- Another socket takes an address. -/
theorem occupy (cfg : EcuConfig) (w : World) (src : SA) (hne : j ≠ i) :
    Unpromoted w (w.occupy cfg i src) j := by
  constructor
  · intro hact
    unfold World.occupy at hact
    simp only [World.set_sessions] at hact
    rw [if_neg hne] at hact
    exact hact
  · intro sa hl
    have hlookup : (w.occupy cfg i src).registry.lookup sa
        = if sa = src then some i else w.registry.lookup sa :=
      OwnerTable.lookup_register w.registry src sa i
    rw [hlookup] at hl
    split at hl
    · exact absurd (Option.some.inj hl).symm hne
    · exact hl

theorem pumped (h : Pumped w i w') (j : Sid) : Unpromoted w w' j := by
  obtain ⟨wire, version, queue, pump, _, rfl⟩ := h
  refine ⟨?_, fun _ => id⟩
  intro hact
  rw [World.set_sessions] at hact
  split at hact
  · rename_i hj
    rw [hj]
    exact hact
  · exact hact

theorem startProbe (w : World) (i existing j : Sid) (pump : Pump) :
    Unpromoted w ((w.startProbe i existing).setPump i pump) j := by
  refine ⟨?_, fun _ => id⟩
  intro hact
  unfold World.setPump World.startProbe at hact
  simp only [World.set_sessions] at hact
  split at hact
  · rename_i hj
    subst hj
    split at hact
    · rename_i hj
      rw [hj]
      exact hact
    · exact hact
  · split at hact
    · rename_i hj
      rw [hj]
      exact hact
    · exact hact

/-- Only its own handler promotes a socket. -/
theorem step {e : Event} (hshape : Shape w) (h : VirtualEcu.step cfg w e = some w')
    (hhook : ∀ override, e ≠ .hookReturned j override) (hprobe : e ≠ .probeReturned j) :
    Unpromoted w w' j := by
  cases step_change hshape h with
  | quiet h => exact quiet h j
  | accepted => exact ⟨id, fun _ => id⟩
  | @occupied i src activationType override _ hpump hfresh hfree h =>
      have hne : j ≠ i := fun heq => hhook override (heq ▸ rfl)
      exact (quiet (hshape.hooking_reads hpump) j).trans ((occupy cfg _ src hne).trans (quiet h j))
  | evicted hpump hprobe hfull h =>
      exact (quiet (Quiet.takeProbe w _ _) j).trans ((evict cfg _ _ j _).trans (quiet h j))
  | @replaced i src existing ev answered _ hpump hprobed hroom h =>
      have hne : j ≠ i := fun heq => hprobe (heq ▸ rfl)
      exact (quiet (Quiet.takeProbe w i existing) j).trans
        ((evict cfg _ existing j answered).trans
          ((quiet (hshape.prober_reads cfg hpump answered) j).trans
            ((occupy cfg _ src hne).trans (quiet h j))))
  | requested hst h => exact (core w _ j).trans (quiet h j)
  | dispatched hst h => exact (core w _ j).trans (quiet h j)
  | expired harmed => exact core w _ j
  | released hpump h => exact (releaseState cfg w _ j).trans (quiet h j)
  | unregistered hpump h => exact (unregister w _ j).trans (quiet h j)

end Unpromoted

/-! ## §2. A handler gets on. -/

/-- When the hooks return, everything is fine with the request and nobody
else has the address. -/
def TakesAtOnce (cfg : EcuConfig) (w : World) (i : Sid) (src activationType : Nat)
    (override : Option UInt8) : Prop :=
  override.filter (fun code => code != 0x10) = none
    ∧ (cfg.doip.testerAddrRange.1 ≤ src ∧ src ≤ cfg.doip.testerAddrRange.2)
    ∧ (activationType = 0x00 ∨ activationType = 0x01)
    ∧ (w.sessions i).activated = false
    ∧ (∀ existing, w.registry.lookup src = some existing → existing = i)
    ∧ SessionRegistry.len w.registry < cfg.doip.maxConcurrentSessions

theorem checkCapacity_room (h : SessionRegistry.len w.registry < cfg.doip.maxConcurrentSessions) :
    w.checkCapacity cfg i src = w.commitActivation cfg i src := if_neg (by omega)

theorem handle_takesAtOnce {activationType : Nat} {override : Option UInt8}
    (h : TakesAtOnce cfg w i src activationType override) :
    w.handleRoutingActivation cfg i src activationType override
      = w.commitActivation cfg i src := by
  obtain ⟨hover, hrange, htype, hfresh, hfree, hroom⟩ := h
  unfold World.handleRoutingActivation
  dsimp only
  rw [hover]
  dsimp only
  rw [if_neg (by simpa using hrange), if_neg (by omega), if_neg (by simp [hfresh]),
    if_neg (by simp [hfresh])]
  split
  · exact checkCapacity_room hroom
  · rename_i existing hl
    rw [if_pos (hfree existing hl)]
    exact checkCapacity_room hroom

/-- Otherwise it refuses, or confirms what is so already, or asks the owner. -/
theorem handle_unpromoted {activationType : Nat} {override : Option UInt8}
    (h : ¬ TakesAtOnce cfg w i src activationType override) (j : Sid) :
    Unpromoted w (w.handleRoutingActivation cfg i src activationType override) j := by
  unfold World.handleRoutingActivation
  dsimp only
  split
  · exact .pumped (sendResponse_pumped w i _ _ _) j
  rename_i hover
  split
  · exact .pumped (respondActivation_pumped w i src _) j
  rename_i hrange
  split
  · exact .pumped (respondActivation_pumped w i src _) j
  rename_i htype
  split
  · exact .pumped (respondActivation_pumped w i src _) j
  rename_i hother
  split
  · exact .pumped (respondActivation_pumped w i src _) j
  rename_i hsame
  have hfresh : (w.sessions i).activated = false := by
    cases hact : (w.sessions i).activated with
    | false => rfl
    | true => exact absurd ⟨hact, by simpa [hact] using hother⟩ hsame
  have hcheck : (∀ existing, w.registry.lookup src = some existing → existing = i) →
      Unpromoted w (w.checkCapacity cfg i src) j := by
    intro hfree
    rcases checkCapacity_spec cfg w i src with ⟨_, hpumped⟩ | ⟨hroom, _⟩
    · exact .pumped hpumped j
    · exact absurd ⟨hover, by omega, by omega, hfresh, hfree, hroom⟩ h
  split
  · rename_i hl
    refine hcheck fun existing hexisting => ?_
    rw [hl] at hexisting
    cases hexisting
  · rename_i existing hl
    split
    · rename_i heq
      refine hcheck fun existing' hexisting => ?_
      rw [hl, Option.some.injEq] at hexisting
      exact hexisting ▸ heq
    · exact .startProbe w i existing j _

/-- In this step `i` picks up a failed probe, and evicts the owner. -/
def Evicts (w : World) (e : Event) (i : Sid) : Prop :=
  ∃ src existing ev answered, e = .probeReturned i ∧ (w.sessions i).pump = .probing src existing
    ∧ w.probes i existing = some ⟨ev, .done false, answered⟩

/-! ## §3. Which steps keep finalized sockets out. -/

/-- No finalized socket evicts another one, is activated or is entered. -/
def NeverTakes (w : World) (e : Event) (w' : World) : Prop :=
  ∀ i, (w.sessions i).finalized = true → ¬ Evicts w e i ∧ Unpromoted w w' i

/-- **The condition on a step**: a handler that gets on to take the address,
or to evict its owner, has not been finalized meanwhile. -/
def StillOpen (cfg : EcuConfig) (w : World) : Event → Prop
  | .hookReturned i override =>
      ∀ src activationType, (w.sessions i).pump = .hooking src activationType →
        TakesAtOnce cfg w i src activationType override → (w.sessions i).finalized = false
  | .probeReturned i => Evicts w (.probeReturned i) i → (w.sessions i).finalized = false
  | _ => True

theorem stillOpen_of_disabled {e : Event} (h : step cfg w e = none) : StillOpen cfg w e := by
  cases e with
  | hookReturned i override =>
      intro src activationType hpump
      simp [step, hpump] at h
  | probeReturned i =>
      intro hev
      obtain ⟨src, existing, ev, answered, _, hpump, hprobe⟩ := hev
      simp [step, hpump, hprobe] at h
  | _ => trivial

/-- What the hooks lead to. -/
theorem hookReturned_iff {override : Option UInt8} (hshape : Shape w)
    (h : step cfg w (.hookReturned i override) = some w') :
    NeverTakes w (.hookReturned i override) w' ↔ StillOpen cfg w (.hookReturned i override) := by
  have hevicts : ∀ j, ¬ Evicts w (.hookReturned i override) j := by
    intro j hev
    obtain ⟨src, existing, ev, answered, he, _⟩ := hev
    cases he
  constructor
  · intro hnever src activationType hpump htakes
    cases hfin : (w.sessions i).finalized with
    | false => rfl
    | true =>
        simp only [step, hpump, Option.some.injEq] at h
        rw [handle_takesAtOnce htakes, commitActivation_eq] at h
        have hact : (w'.sessions i).activated = true := by
          obtain ⟨wire, version, queue, pump, _, heq⟩ :=
            respondActivation_pumped (w.occupy cfg i src) i src 0x10
          rw [← h, heq, World.set_sessions, if_pos rfl]
          unfold World.occupy
          simp
        have := (hnever i hfin).2.activated hact
        rw [htakes.2.2.2.1] at this
        cases this
  · intro hopen j hfin
    refine ⟨hevicts j, ?_⟩
    by_cases hj : j = i
    · subst hj
      simp only [step] at h
      split at h
      · rename_i src activationType hpump
        cases h
        refine handle_unpromoted ?_ j
        intro htakes
        rw [hopen src activationType hpump htakes] at hfin
        cases hfin
      · cases h
    · refine Unpromoted.step hshape h ?_ (by simp)
      intro override' heq
      cases heq
      exact hj rfl

/-- What the probe leads to. -/
theorem probeReturned_iff (hshape : Shape w) (h : step cfg w (.probeReturned i) = some w') :
    NeverTakes w (.probeReturned i) w' ↔ StillOpen cfg w (.probeReturned i) := by
  constructor
  · intro hnever hevicts
    cases hfin : (w.sessions i).finalized with
    | false => rfl
    | true => exact absurd hevicts (hnever i hfin).1
  · intro hopen j hfin
    by_cases hj : j = i
    · subst hj
      have hnot : ¬ Evicts w (.probeReturned j) j := by
        intro hevicts
        rw [hopen hevicts] at hfin
        cases hfin
      refine ⟨hnot, ?_⟩
      simp only [step] at h
      split at h
      · rename_i src existing hpump
        split at h
        · rename_i ev alive answered hprobe
          cases h
          cases alive with
          | true =>
              exact (Unpromoted.quiet (Quiet.takeProbe w j existing) j).trans
                (.pumped (respondActivation_pumped _ j src _) j)
          | false => exact absurd ⟨src, existing, ev, answered, rfl, hpump, hprobe⟩ hnot
        · cases h
      · cases h
    · constructor
      · intro hev
        obtain ⟨src, existing, ev, answered, he, _⟩ := hev
        cases he
        exact hj rfl
      · refine Unpromoted.step hshape h (by simp) ?_
        intro heq
        cases heq
        exact hj rfl

/-- A step keeps finalized sockets out iff its handler is still open. -/
theorem neverTakes_iff {e : Event} (hshape : Shape w) (h : step cfg w e = some w') :
    NeverTakes w e w' ↔ StillOpen cfg w e := by
  by_cases hhook : ∃ i override, e = .hookReturned i override
  · obtain ⟨i, override, rfl⟩ := hhook
    exact hookReturned_iff hshape h
  by_cases hprobe : ∃ i, e = .probeReturned i
  · obtain ⟨i, rfl⟩ := hprobe
    exact probeReturned_iff hshape h
  · refine iff_of_true ?_ ?_
    · intro i _
      constructor
      · intro hev
        obtain ⟨_, _, _, _, he, _⟩ := hev
        exact hprobe ⟨i, he⟩
      · exact Unpromoted.step hshape h (fun override he => hhook ⟨i, override, he⟩)
          (fun he => hprobe ⟨i, he⟩)
    · unfold StillOpen
      split
      · exact absurd ⟨_, _, rfl⟩ hhook
      · exact absurd ⟨_, rfl⟩ hprobe
      · trivial

/-! ## §4. Runs. -/

/-- **Finalized sockets keep out**, in every step of a run, iff no handler
gets on after its socket was finalized. -/
theorem finalized_never_takes_iff (cfg : EcuConfig) (es : List Event) :
    Transition.EveryStep (step cfg) NeverTakes (World.init cfg) es
      ↔ Transition.Along (step cfg) (StillOpen cfg) (World.init cfg) es := by
  apply Transition.everyStep_iff_along Shape
  · intro w e w' hshape h
    exact hshape.step h
  · intro w e h
    exact stillOpen_of_disabled h
  · intro w e w' hshape h
    exact neverTakes_iff hshape h
  · exact shape_init cfg

/-- Socket 1 asks for the address of socket 0; while it waits for the probe,
its own inactivity timer elapses. -/
def overtaken : List Event :=
  asks 0 0x0E00 ++ [.sent 0] ++ asks 1 0x0E00
    ++ [.probeSent 1 0, .inactivity 1, .probeTimeout 1 0]

/-- **A finalized socket evicts an owner and takes its address.** -/
theorem finalized_evicts :
    ∃ w w', Transition.exec (step {}) (World.init {}) overtaken = some w
      ∧ step {} w (.probeReturned 1) = some w'
      ∧ (w.sessions 1).finalized = true ∧ (w.sessions 1).activated = false
      ∧ (w.sessions 0).finalized = false ∧ (w'.sessions 0).finalized = true
      ∧ (w'.sessions 1).activated = true ∧ w'.registry.lookup 0x0E00 = some 1
      ∧ ¬ NeverTakes w (.probeReturned 1) w' := by
  have hrun : ((Transition.exec (step {}) (World.init {}) overtaken).bind fun w =>
      (step {} w (.probeReturned 1)).map fun w' =>
        [(w.sessions 1).finalized, !(w.sessions 1).activated, !(w.sessions 0).finalized,
          (w'.sessions 0).finalized, (w'.sessions 1).activated,
          w'.registry.lookup 0x0E00 == some 1])
      = some [true, true, true, true, true, true] := by decide
  obtain ⟨w, hw, hstep⟩ := Option.bind_eq_some_iff.mp hrun
  obtain ⟨w', hw', heq⟩ := Option.map_eq_some_iff.mp hstep
  simp only [List.cons.injEq, Bool.not_eq_true', beq_iff_eq, and_true] at heq
  obtain ⟨hfin, hfresh, hlive, hevicted, hact, hl⟩ := heq
  refine ⟨w, w', hw, hw', hfin, hfresh, hlive, hevicted, hact, hl, ?_⟩
  intro hnever
  have := (hnever 1 hfin).2.activated hact
  rw [hfresh] at this
  cases this

end DoipPlayground.VirtualEcu
