/-
  DoipPlayground.VirtualEcu.Exclusivity
  ─────────────────────────────────────
  **ONE LIVE SOCKET PER TESTER ADDRESS.**

  A Routing Activation that finds an owner probes it, and evicts it when
  the probe fails.  Nothing looks at the registry again before the address
  is taken.

    • `KeepsOwner` — whoever holds the address after a failed probe is the
      probed owner,
    • `sa_exclusive_of_run` — with it, every run is exclusive,
    • `contenders_share_address` — without it, two contenders that probed
      the same dead owner both end up activated.
-/
import DoipPlayground.VirtualEcu.Ownership

namespace DoipPlayground.VirtualEcu

open Wire

variable {cfg : EcuConfig} {w w' : World} {i j : Sid}

/-! ## §1. Live sockets. -/

/-- At most one live socket for each tester, and `lookup` is that socket. -/
structure SaExclusive (w : World) : Prop where
  unique : ∀ sa i j, w.Live i sa → w.Live j sa → i = j
  lookup : ∀ sa i, w.Live i sa → w.registry.lookup sa = some i
  /-- An activated socket that is not finalized is live for some tester. -/
  addressed : ∀ i, (w.sessions i).activated = true → (w.sessions i).finalized = false →
    ∃ sa, w.Live i sa

/-- When a failed probe of `existing` is picked up, the address is free or
its holder is `existing`, unless the holder is finalized or all sockets are
in use. -/
def OwnerIs (cfg : EcuConfig) (w : World) (src : SA) (existing : Sid) : Prop :=
  match w.registry.lookup src with
  | some owner => owner = existing ∨ (w.sessions owner).finalized = true
      ∨ cfg.doip.maxConcurrentSessions ≤ SessionRegistry.len w.registry
  | none => True

instance OwnerIs.decidable (cfg : EcuConfig) (w : World) (src : SA) (existing : Sid) :
    Decidable (OwnerIs cfg w src existing) := by
  unfold OwnerIs
  rcases w.registry.lookup src <;> infer_instance

/-- The condition on the steps of a run. -/
def KeepsOwner (cfg : EcuConfig) (w : World) : Event → Prop
  | .probeReturned i =>
      match (w.sessions i).pump with
      | .probing src existing =>
          (w.probes i existing).map Probe.phase = some (.done false) → OwnerIs cfg w src existing
      | _ => True
  | _ => True

instance KeepsOwner.decidable (cfg : EcuConfig) (w : World) (e : Event) :
    Decidable (KeepsOwner cfg w e) := by
  unfold KeepsOwner
  rcases e <;> dsimp only <;> try infer_instance
  rcases (w.sessions _).pump <;> infer_instance

/-! ## §2. The registry knows every live socket. -/

/-- Every live socket is registered under its address. -/
def Registered (w : World) : Prop := ∀ sa i, w.Live i sa → w.registry.lookup sa = some i

namespace Registered

theorem quiet (hw : Registered w) (h : Quiet w w') : Registered w' := by
  intro sa j hlive
  rw [h.registry]
  exact hw sa j (h.live hlive)

/-- A finalized socket leaves the registry. -/
theorem unregister (hw : Registered w) (hfin : (w.sessions i).finalized = true) :
    Registered (w.unregister i) := by
  intro sa j hlive
  have hl := hw sa j hlive
  have hne : j ≠ i := by
    rintro rfl
    exact absurd (hfin.symm.trans hlive.2.2) (by simp)
  rw [unregister_lookup, if_neg ?_]
  · exact hl
  · rintro ⟨_, hi⟩
    rw [hl, Option.some.injEq] at hi
    exact hne hi

theorem evict (cfg : EcuConfig) (hw : Registered w) (i : Sid) (answered : Bool) :
    Registered (w.evict cfg i answered) := by
  have hquiet := Quiet.stopWork w i
  have hfin : (((w.finalize i).cancelWorker i).sessions i).finalized = true :=
    (Quiet.cancelWorker _ i).finalized i (by simp [World.finalize])
  have hrel : Registered (((w.finalize i).cancelWorker i).releaseState cfg i) := by
    intro sa j hlive
    refine (hw.quiet hquiet) sa j ?_
    unfold World.Live World.releaseState at hlive
    simp only [World.set_sessions] at hlive
    split at hlive
    · rename_i hj
      exact hj ▸ hlive
    · exact hlive
  refine (hrel.unregister ?_).quiet (Quiet.probes _ _ _ _ _)
  simpa [World.releaseState] using hfin

/-- An address is taken that no live socket has. -/
theorem occupy (hw : Registered w) {src : SA} (hfree : ∀ j, j ≠ i → ¬ w.Live j src) :
    Registered (w.occupy cfg i src) := by
  intro sa j hlive
  show (SessionRegistry.register w.registry src i).lookup sa = some j
  rw [SessionRegistry.register, OwnerTable.lookup_register]
  unfold World.Live World.occupy at hlive
  simp only [World.set_sessions] at hlive
  by_cases hj : j = i
  · rw [if_pos hj] at hlive
    have hsa : sa = src := (Option.some.inj hlive.2.1).symm
    rw [if_pos hsa, hj]
  · rw [if_neg hj] at hlive
    have hne : sa ≠ src := fun heq => hfree j hj (heq ▸ hlive)
    rw [if_neg hne]
    exact hw sa j hlive

/-- The step lemma: what the condition is needed for is the case `replaced`. -/
theorem step {e : Event} (hshape : Shape w) (hw : Registered w) (hok : KeepsOwner cfg w e)
    (h : VirtualEcu.step cfg w e = some w') : Registered w' := by
  cases step_change hshape h with
  | quiet h => exact hw.quiet h
  | accepted => exact hw
  | @occupied i src activationType override _ hpump hfresh hfree h =>
      have hread := hw.quiet (hshape.hooking_reads hpump)
      refine (hread.occupy ?_).quiet h
      intro j hj hlive
      have hl : w.registry.lookup src = some j := hread src j hlive
      rcases hfree with hnone | hself
      · rw [hnone] at hl
        cases hl
      · rw [hself, Option.some.injEq] at hl
        exact hj hl.symm
  | @evicted i src existing ev answered _ hpump hprobe hfull h =>
      exact ((hw.quiet (Quiet.takeProbe w i existing)).evict cfg existing answered).quiet h
  | @replaced i src existing ev answered _ hpump hprobe hroom h =>
      have hevict := (hw.quiet (Quiet.takeProbe w i existing)).evict cfg existing answered
      have hread := hshape.prober_reads cfg hpump answered
      refine ((hevict.quiet hread).occupy ?_).quiet h
      intro j hj hlive
      -- `j` was live before, so it is the owner the condition speaks of
      obtain ⟨hne, hlive⟩ := (evict_live _ _ _ _ _).mp (hread.live hlive)
      have hl := hw src j hlive
      simp only [KeepsOwner, hpump, hprobe, Option.map_some, forall_const, OwnerIs, hl] at hok
      rcases hok with heq | hfin | hfull
      · exact hne heq
      · exact absurd (hfin.symm.trans hlive.2.2) (by simp)
      · -- the eviction frees no slot: the evicted socket is not registered
        have hother : w.registry.lookup src ≠ some existing := by
          rw [hl, ne_eq, Option.some.injEq]
          exact hne
        have hsame : ((w.takeProbe i existing).unregister existing).registry = w.registry :=
          unregister_replaced (hshape.probing i src existing hpump).2 hother
        rw [evict_registry, hsame] at hroom
        exact absurd hroom (Nat.not_lt.mpr hfull)
  | requested hst h =>
      intro sa j hlive
      rw [h.registry]
      exact hw sa j (h.live hlive)
  | dispatched hst h =>
      intro sa j hlive
      rw [h.registry]
      exact hw sa j (h.live hlive)
  | expired harmed => exact hw
  | @released i _ hpump h =>
      refine Registered.quiet ?_ h
      intro sa j hlive
      refine hw sa j ?_
      unfold World.Live World.releaseState at hlive
      simp only [World.set_sessions] at hlive
      split at hlive
      · rename_i hj
        exact hj ▸ hlive
      · exact hlive
  | @unregistered i _ hpump h =>
      exact (hw.unregister (hshape.past i (by rw [hpump]; trivial))).quiet h

end Registered

/-! ## §3. Runs. -/

theorem Registered.exclusive (hshape : Shape w) (hw : Registered w) : SaExclusive w := by
  constructor
  · intro sa i j hi hj
    have hl := hw sa i hi
    rw [hw sa j hj, Option.some.injEq] at hl
    exact hl.symm
  · exact hw
  · intro i hact hfin
    obtain ⟨sa, st, haddr, _⟩ := hshape.bound i hact
    exact ⟨sa, hact, haddr, hfin⟩

/-- **Exclusivity** at the end of every run whose failed probes find their
owner in place. -/
theorem sa_exclusive_of_run (cfg : EcuConfig) (es : List Event) (w : World)
    (hal : Transition.Along (step cfg) (KeepsOwner cfg) (World.init cfg) es)
    (h : Transition.exec (step cfg) (World.init cfg) es = some w) : SaExclusive w := by
  have hboth : Shape w ∧ Registered w := by
    refine Transition.exec_invariant_along (fun w => Shape w ∧ Registered w) ?_ es
      (World.init cfg) w ⟨shape_init cfg, ?_⟩ hal h
    · intro u e u' hu hok hstep
      exact ⟨Shape.step hu.1 hstep, Registered.step hu.1 hu.2 hok hstep⟩
    · intro sa i hlive
      cases hlive.1
  exact hboth.2.exclusive hboth.1

/-- A socket whose tester is gone, and a contender that takes its place. -/
def takeover : List Event :=
  asks 0 0x0E00 ++ [.sent 0] ++ asks 1 0x0E00
    ++ [.probeSent 1 0, .probeTimeout 1 0, .probeReturned 1, .sent 1]

set_option maxRecDepth 4000 in
theorem sa_exclusive_after_takeover :
    ∃ w, Transition.exec (step {}) (World.init {}) takeover = some w
      ∧ w.registry.lookup 0x0E00 = some 1 ∧ SaExclusive w := by
  have hrun : ((Transition.exec (step {}) (World.init {}) takeover).map
      (fun w => w.registry.lookup 0x0E00)) = some (some 1) := by decide
  obtain ⟨w, hw, hl⟩ := Option.map_eq_some_iff.mp hrun
  exact ⟨w, hw, hl, sa_exclusive_of_run {} takeover w (by decide) hw⟩

/-- The same socket with two contenders: both probe it, and when both
probes have failed the second one overwrites the first. -/
def contenders : List Event :=
  asks 0 0x0E00 ++ [.sent 0] ++ asks 1 0x0E00 ++ asks 2 0x0E00
    ++ [.probeSent 1 0, .probeSent 2 0, .probeTimeout 1 0, .probeTimeout 2 0,
        .probeReturned 1, .probeReturned 2]

/-- Sockets 1 and 2 are both activated for the same tester. -/
theorem contenders_share_address :
    ¬ ∀ (cfg : EcuConfig) (es : List Event) (w : World), cfg.Accepted →
      Transition.exec (step cfg) (World.init cfg) es = some w → SaExclusive w := by
  intro hall
  have hrun : ((Transition.exec (step {}) (World.init {}) contenders).map (fun w =>
      [(w.sessions 1).activated, (w.sessions 2).activated, !(w.sessions 1).finalized,
        !(w.sessions 2).finalized, (w.sessions 1).testerAddr == some 0x0E00,
        (w.sessions 2).testerAddr == some 0x0E00]))
      = some [true, true, true, true, true, true] := by decide
  obtain ⟨w, hw, hboth⟩ := Option.map_eq_some_iff.mp hrun
  simp only [List.cons.injEq, Bool.not_eq_true', beq_iff_eq, and_true] at hboth
  obtain ⟨hact1, hact2, hfin1, hfin2, haddr1, haddr2⟩ := hboth
  have hone := (hall {} contenders w EcuConfig.accepted_default hw).unique 0x0E00 1 2
    ⟨hact1, haddr1, hfin1⟩ ⟨hact2, haddr2, hfin2⟩
  cases hone

end DoipPlayground.VirtualEcu
