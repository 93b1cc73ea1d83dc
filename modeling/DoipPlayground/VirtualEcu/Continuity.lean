/-
  DoipPlayground.VirtualEcu.Continuity
  ────────────────────────────────────
  **THE STATE OF A TESTER SURVIVES A RECONNECT** (`session_for`,
  `maybe_drop_session_state`).

  The table names the state object that the next socket of a tester gets.
  An entry is deleted when a socket ends, by an eviction, by the S3 timer
  and by a reset; none of these looks for other sockets.

    • `EntryKept` — an entry that is not tidy survives every step but its
      own expiry and the requests served with it,
    • `Held` — the sockets of a tester hold its entry, as long as no entry
      is deleted under a socket that holds it,
    • `state_continuity` — both, over runs,
    • `expiry_orphans_state` — an S3 expiry deletes it under a live socket.
-/
import DoipPlayground.VirtualEcu.ResetRevocation
import DoipPlayground.VirtualEcu.Exclusivity

namespace DoipPlayground.VirtualEcu

open Wire

variable {cfg : EcuConfig} {w w' : World} {i j : Sid} {sa : SA} {st : StateId}

/-! ## §1. An entry that is not tidy. -/

/-- The entry of `sa` is still `st`, with the same rights. -/
structure EntryKept (c c' : EcuCore) (sa : SA) (st : StateId) : Prop where
  entry : c'.sessionStates sa = some st
  rights : (c'.states st).rights = (c.states st).rights

namespace EntryKept

variable {c c' c'' : EcuCore}

theorem refl (hl : c.sessionStates sa = some st) : EntryKept c c sa st := ⟨hl, rfl⟩

theorem trans (h : EntryKept c c' sa st) (h' : EntryKept c' c'' sa st) : EntryKept c c'' sa st :=
  ⟨h'.entry, h'.rights.trans h.rights⟩

theorem tidy_iff (h : EntryKept c c' sa st) :
    (c'.states st).Tidy cfg ↔ (c.states st).Tidy cfg := by
  rw [tidy_iff_rights, tidy_iff_rights, h.rights]

/-- Another state changes, or this one without its rights. -/
theorem setState (hl : c.sessionStates sa = some st) {st' : StateId} {s : SessionState}
    (h : st = st' → s.rights = (c.states st).rights) : EntryKept c (c.setState st' s) sa st where
  entry := hl
  rights := by
    rw [EcuCore.setState_states]
    split
    · rename_i heq
      exact h heq
    · rfl

theorem maybeDrop (hl : c.sessionStates sa = some st) (hn : ¬ (c.states st).Tidy cfg)
    (testerAddr : Option SA) (st' : StateId) :
    EntryKept c (c.maybeDropSessionState cfg testerAddr st') sa st where
  entry := by
    rw [EcuCore.maybeDrop_sessionStates, if_neg ?_]
    · exact hl
    · intro hd
      obtain ⟨_, hentry, htidy⟩ := EcuCore.dropped_eq_some.mp hd
      rw [hl, Option.some.injEq] at hentry
      exact hn (hentry ▸ htidy)
  rights := by
    rcases EcuCore.maybeDrop_states cfg c testerAddr st' st with h | ⟨rfl, htidy, _⟩
    · rw [h]
    · exact absurd htidy hn

/-- A socket gives its state back. -/
theorem releaseState (hl : w.core.sessionStates sa = some st)
    (hn : ¬ (w.core.states st).Tidy cfg) (i : Sid) :
    EntryKept w.core (w.releaseState cfg i).core sa st where
  entry := (releaseState_entry hl i).resolve_right (fun h => hn h.2.2)
  rights := by
    rcases releaseState_states cfg w i st with h | ⟨htidy, _⟩
    · rw [h]
    · exact absurd htidy hn

/-- The timer of another state fires. -/
theorem s3Expiry (hl : c.sessionStates sa = some st) (hn : ¬ (c.states st).Tidy cfg)
    {st' : StateId} (hne : st ≠ st') : EntryKept c (c.s3Expiry cfg st') sa st := by
  have hset := EntryKept.setState (s := (c.states st').reset cfg) hl (fun h => absurd h hne)
  exact hset.trans (EntryKept.maybeDrop hset.entry (hset.tidy_iff.not.mpr hn) _ st')

/-- A request is served with another state. -/
theorem dispatch (hdrop : cfg.uds.resetDropsConnection = false)
    (hl : c.sessionStates sa = some st) (request : UdsRequest) {st' : StateId} (hne : st ≠ st') :
    EntryKept c (VirtualEcu.dispatch cfg request st' c).1 sa st := by
  have heffect := dispatch_effect cfg request st' c
  generalize (VirtualEcu.dispatch cfg request st' c).1 = c' at heffect ⊢
  cases heffect with
  | served s d h =>
      have hset := EntryKept.setState (s := s) hl (fun h => absurd h hne)
      exact ⟨hset.entry, hset.rights⟩
  | reset d _ _ =>
      have hset := EntryKept.setState (s := (c.states st').reset cfg) hl (fun h => absurd h hne)
      exact ⟨hset.entry, hset.rights⟩
  | dropped d _ hon =>
      rw [hdrop] at hon
      cases hon

/-- The entry is what the next socket of the tester gets. -/
theorem sessionFor (cfg : EcuConfig) (hl : c.sessionStates sa = some st)
    (hlt : st < c.nextState) (src : SA) :
    EntryKept c (c.sessionFor cfg src).1 sa st
      ∧ (src = sa → (c.sessionFor cfg src).2 = st) := by
  have hspec := EcuCore.sessionFor_spec cfg c src
  have hsame : src = sa → (c.sessionFor cfg src).2 = st := by
    rintro rfl
    rcases hspec.origin with ⟨hentry, _⟩ | ⟨hnone, _⟩
    · rw [hl, Option.some.injEq] at hentry
      exact hentry.symm
    · rw [hl] at hnone
      cases hnone
  refine ⟨⟨?_, by rw [hspec.states st hlt]⟩, hsame⟩
  by_cases hsa : sa = src
  · rw [hsa, hspec.entry, hsame hsa.symm]
  · rw [hspec.others sa hsa]
    exact hl

end EntryKept

/-! ## §2. The entry through one step. -/

/-- Neither the timer of `st` fires nor a request is served with it. -/
def Resting (st : StateId) (w : World) : Event → Prop
  | .s3Expiry st' => st ≠ st'
  | .dispatch i => (w.sessions i).worker.state? ≠ some st
  | _ => True

/-- The entry is kept, and whoever takes the address gets it. -/
structure Carried (w w' : World) (sa : SA) (st : StateId) : Prop where
  kept : EntryKept w.core w'.core sa st
  obtained : ∀ k, (w.sessions k).testerAddr ≠ some sa → (w'.sessions k).testerAddr = some sa →
    (w'.sessions k).state = some st

namespace Carried

/-- No socket takes an address. -/
theorem of_holders (hkept : EntryKept w.core w'.core sa st)
    (hsame : ∀ k, (w'.sessions k).testerAddr = (w.sessions k).testerAddr) :
    Carried w w' sa st :=
  ⟨hkept, fun k hbefore hafter => absurd ((hsame k).symm.trans hafter) hbefore⟩

/-- One socket takes an address. -/
theorem occupy (cfg : EcuConfig) (hshape : Shape w) (hl : w.core.sessionStates sa = some st)
    (i : Sid) (src : SA) : Carried w (w.occupy cfg i src) sa st := by
  obtain ⟨hkept, hsame⟩ :=
    EntryKept.sessionFor cfg hl (hshape.table sa st hl).1 src
  refine ⟨hkept, ?_⟩
  intro k hbefore hafter
  unfold World.occupy at hafter ⊢
  simp only [World.set_sessions] at hafter ⊢
  by_cases hk : k = i
  · rw [if_pos hk] at hafter ⊢
    rw [hsame (Option.some.inj hafter)]
  · rw [if_neg hk] at hafter
    exact absurd hafter hbefore

/-- A step behind one in which no socket takes an address. -/
theorem behind {w'' : World} (h : Carried w w' sa st)
    (hsame : ∀ k, (w'.sessions k).testerAddr = (w.sessions k).testerAddr)
    (h' : Carried w' w'' sa st) : Carried w w'' sa st :=
  ⟨h.kept.trans h'.kept, fun k hbefore => h'.obtained k (by rw [hsame]; exact hbefore)⟩

theorem quiet (hl : w.core.sessionStates sa = some st) (h : Quiet w w') : Carried w w' sa st :=
  of_holders (by rw [h.core]; exact EntryKept.refl hl) h.testerAddr

/-- Nothing changes hands behind a change. -/
theorem andQuiet {w'' : World} (h : Carried w w' sa st) (hq : Quiet w' w'') :
    Carried w w'' sa st := by
  refine ⟨h.kept.trans (quiet h.kept.entry hq).kept, ?_⟩
  intro k hbefore hafter
  rw [hq.testerAddr] at hafter
  rw [hq.state]
  exact h.obtained k hbefore hafter

theorem evict (hl : w.core.sessionStates sa = some st) (hn : ¬ (w.core.states st).Tidy cfg)
    (i : Sid) (answered : Bool) : Carried w (w.evict cfg i answered) sa st := by
  refine of_holders ?_ (fun k => evict_testerAddr w i k answered)
  rw [evict_core]
  exact EntryKept.releaseState hl hn i

/-- **An entry that is not tidy is carried through every step** but the
expiry of its timer and the requests served with it. -/
theorem step {e : Event} (hdrop : cfg.uds.resetDropsConnection = false) (hshape : Shape w)
    (hl : w.core.sessionStates sa = some st) (hn : ¬ (w.core.states st).Tidy cfg)
    (hrest : Resting st w e) (h : VirtualEcu.step cfg w e = some w') : Carried w w' sa st := by
  cases step_change hshape h with
  | quiet h => exact quiet hl h
  | accepted => exact of_holders (EntryKept.refl hl) (fun _ => rfl)
  | @occupied i src activationType override _ hpump hfresh hfree h =>
      have hread := hshape.hooking_reads hpump
      have hoccupy := occupy cfg (hshape.quiet hread) hl i src
      exact ((quiet hl hread).behind hread.testerAddr hoccupy).andQuiet h
  | @evicted i src existing ev answered _ hpump hprobe hfull h =>
      have htake := quiet hl (Quiet.takeProbe w i existing)
      have hevict := evict (w := w.takeProbe i existing) hl hn existing answered
      exact (htake.behind (fun _ => rfl) hevict).andQuiet h
  | @replaced i src existing ev answered _ hpump hprobe hroom h =>
      have hevict := evict (w := w.takeProbe i existing) hl hn existing answered
      have hread := hshape.prober_reads cfg hpump answered
      have hshape' := (hshape.probed_evict cfg hpump answered).quiet hread
      have hoccupy := occupy cfg hshape' hevict.kept.entry i src
      have hmid := (quiet hevict.kept.entry hread).behind hread.testerAddr hoccupy
      have hlast := hevict.behind (fun k => evict_testerAddr _ existing k answered) hmid
      exact ((quiet hl (Quiet.takeProbe w i existing)).behind (fun _ => rfl) hlast).andQuiet h
  | @requested i st' _ hst h =>
      have hset : EntryKept w.core
          (w.core.setState st' ((w.core.states st').refreshS3 cfg)) sa st :=
        EntryKept.setState hl (fun heq => by rw [refreshS3_rights, heq])
      exact of_holders (h.core ▸ hset) h.testerAddr
  | @dispatched i st' request _ hst h =>
      have hne : st ≠ st' := by
        rintro rfl
        exact hrest hst
      exact of_holders (h.core ▸ EntryKept.dispatch hdrop hl request hne) h.testerAddr
  | expired harmed => exact of_holders (EntryKept.s3Expiry hl hn hrest) (fun _ => rfl)
  | @released i _ hpump h =>
      have hrel : Carried w (w.releaseState cfg i) sa st :=
        of_holders (EntryKept.releaseState hl hn i)
          (fun k => (Stays.releaseState w i k).testerAddr)
      exact hrel.andQuiet h
  | unregistered hpump h =>
      exact of_holders (by rw [h.core]; exact EntryKept.refl hl) h.testerAddr

end Carried

/-! ## §3. The sockets of a tester hold its entry. -/

/-- The state whose entry the end of socket `i` deletes. -/
def World.dropsState (cfg : EcuConfig) (w : World) (i : Sid) : Option StateId :=
  (w.sessions i).state.filter
    (fun st => (w.core.dropped cfg (w.sessions i).testerAddr st).isSome)

/-- No other socket that still has its state holds the one whose entry goes. -/
def EndsAlone (cfg : EcuConfig) (w : World) (i : Sid) : Prop :=
  match w.dropsState cfg i with
  | some st => ∀ j < w.opened, j ≠ i → (w.sessions j).released = false →
      (w.sessions j).state ≠ some st
  | none => True

/-- The condition on the steps of a run: no entry is deleted under a socket
that holds it, and no request is served for a tester without a socket. -/
def Unshared (cfg : EcuConfig) (w : World) : Event → Prop
  | .probeReturned i =>
      match (w.sessions i).pump with
      | .probing _ existing =>
          (w.probes i existing).map Probe.phase = some (.done false) → EndsAlone cfg w existing
      | _ => True
  | .workerStopped i => EndsAlone cfg w i
  | .s3Expiry st =>
      (w.core.states st).testerAddr.bind w.core.sessionStates = some st →
        ∀ j < w.opened, (w.sessions j).released = false → (w.sessions j).state ≠ some st
  | .dispatch i =>
      ∃ j < w.opened, (w.sessions j).released = false
        ∧ (w.sessions j).state = (w.sessions i).worker.state?
  | _ => True

instance EndsAlone.decidable (cfg : EcuConfig) (w : World) (i : Sid) :
    Decidable (EndsAlone cfg w i) := by
  unfold EndsAlone
  rcases w.dropsState cfg i <;> infer_instance

instance Unshared.decidable (cfg : EcuConfig) (w : World) (e : Event) :
    Decidable (Unshared cfg w e) := by
  unfold Unshared
  rcases e <;> dsimp only <;> try infer_instance
  rcases (w.sessions _).pump <;> infer_instance

/-- A socket that has not given its state back holds the entry of its tester. -/
def Held (w : World) : Prop :=
  ∀ i sa st, (w.sessions i).released = false → (w.sessions i).testerAddr = some sa →
    (w.sessions i).state = some st → w.core.sessionStates sa = some st

theorem dropsState_eq_some :
    w.dropsState cfg i = some st
      ↔ (w.sessions i).state = some st
        ∧ ∃ sa, w.core.dropped cfg (w.sessions i).testerAddr st = some sa := by
  unfold World.dropsState
  rw [Option.filter_eq_some_iff, Option.isSome_iff_exists]

theorem EndsAlone.quiet (halone : EndsAlone cfg w i) (h : Quiet w w') : EndsAlone cfg w' i := by
  unfold EndsAlone World.dropsState at halone ⊢
  rw [h.core, h.state, h.testerAddr, h.opened]
  simp only [h.released, h.state]
  exact halone

/-- A socket with a state has been accepted. -/
theorem Shape.accepted (hw : Shape w) (hst : (w.sessions i).state = some st) : i < w.opened :=
  hw.opened i (.inr (hw.activated_of_state hst))

namespace Held

/-- Nothing but the core changes, and every entry that is held stays. -/
theorem of_entries (hw : Held w) (hholder : ∀ j, (w'.sessions j).holder = (w.sessions j).holder)
    (hentry : ∀ i sa st, (w.sessions i).released = false → (w.sessions i).testerAddr = some sa →
      (w.sessions i).state = some st → w.core.sessionStates sa = some st →
      w'.core.sessionStates sa = some st) : Held w' := by
  intro i sa st hrel haddr hst
  have hsame := hholder i
  unfold Session.holder at hsame
  rw [Holder.mk.injEq] at hsame
  obtain ⟨_, haddr', hst', hrel'⟩ := hsame
  rw [haddr'] at haddr
  rw [hst'] at hst
  rw [hrel'] at hrel
  exact hentry i sa st hrel haddr hst (hw i sa st hrel haddr hst)

theorem quiet (hw : Held w) (h : Quiet w w') : Held w' :=
  hw.of_entries h.holder (fun _ _ _ _ _ _ hl => by rw [h.core]; exact hl)

theorem releaseState (hw : Held w) (hshape : Shape w) (halone : EndsAlone cfg w i) :
    Held (w.releaseState cfg i) := by
  intro j sa st hrel haddr hst
  have hne : j ≠ i := by
    rintro rfl
    unfold World.releaseState at hrel
    simp at hrel
  have hstays : (w.releaseState cfg i).sessions j = w.sessions j := by
    unfold World.releaseState
    simp [hne]
  rw [hstays] at hrel haddr hst
  have hl := hw j sa st hrel haddr hst
  refine (releaseState_entry hl i).resolve_right ?_
  rintro ⟨haddr', hst', htidy⟩
  unfold EndsAlone at halone
  rw [dropsState_eq_some.mpr
    ⟨hst', sa, EcuCore.dropped_eq_some.mpr ⟨haddr', hl, htidy⟩⟩] at halone
  exact halone j (hshape.accepted hst) hne hrel hst

theorem evict (hw : Held w) (hshape : Shape w) (halone : EndsAlone cfg w i) (answered : Bool) :
    Held (w.evict cfg i answered) := by
  have hquiet := Quiet.stopWork w i
  exact (hw.quiet hquiet).releaseState (hshape.quiet hquiet) (halone.quiet hquiet)

theorem occupy (hw : Held w) (hshape : Shape w) (i : Sid) (src : SA) :
    Held (w.occupy cfg i src) := by
  intro j sa st hrel haddr hst
  unfold World.occupy at hrel haddr hst
  simp only [World.set_sessions] at hrel haddr hst
  show (w.core.sessionFor cfg src).1.sessionStates sa = some st
  by_cases hj : j = i
  · rw [if_pos hj] at haddr hst
    rw [← Option.some.inj haddr, ← hst]
    exact (EcuCore.sessionFor_spec cfg w.core src).entry
  · rw [if_neg hj] at hrel haddr hst
    have hl := hw j sa st hrel haddr hst
    exact (EntryKept.sessionFor cfg hl (hshape.table sa st hl).1 src).1.entry

/-- The step lemma: the condition is needed wherever an entry is deleted. -/
theorem step {e : Event} (hdrop : cfg.uds.resetDropsConnection = false) (hshape : Shape w)
    (hw : Held w) (hok : Unshared cfg w e) (h : VirtualEcu.step cfg w e = some w') : Held w' := by
  cases step_change hshape h with
  | quiet h => exact hw.quiet h
  | accepted => exact hw
  | @occupied i src activationType override _ hpump hfresh hfree h =>
      have hread := hshape.hooking_reads hpump
      exact ((hw.quiet hread).occupy (hshape.quiet hread) i src).quiet h
  | @evicted i src existing ev answered _ hpump hprobe hfull h =>
      simp only [Unshared, hpump, hprobe, Option.map_some, forall_const] at hok
      have htake := Quiet.takeProbe w i existing
      exact ((hw.quiet htake).evict (hshape.quiet htake) (hok.quiet htake) answered).quiet h
  | @replaced i src existing ev answered _ hpump hprobe hroom h =>
      simp only [Unshared, hpump, hprobe, Option.map_some, forall_const] at hok
      have htake := Quiet.takeProbe w i existing
      have hevict := (hw.quiet htake).evict (hshape.quiet htake) (hok.quiet htake) answered
      have hread := hshape.prober_reads cfg hpump answered
      have hshape' := (hshape.probed_evict cfg hpump answered).quiet hread
      exact ((hevict.quiet hread).occupy hshape' i src).quiet h
  | requested hst h =>
      exact hw.of_entries h.holder (fun _ _ _ _ _ _ hl => by rw [h.core]; exact hl)
  | dispatched hst h =>
      refine hw.of_entries h.holder (fun _ _ _ _ _ _ hl => ?_)
      rw [h.core, dispatch_sessionStates hdrop]
      exact hl
  | @expired st harmed =>
      intro i sa st' hrel haddr hst
      have hl := hw i sa st' hrel haddr hst
      have htester := (hshape.table sa st' hl).2
      have hne : st ≠ st' := by
        rintro rfl
        refine hok ?_ i (hshape.accepted hst) hrel hst
        rw [htester]
        exact hl
      exact EcuCore.s3Expiry_entry hl hne.symm
  | @released i _ hpump h => exact (hw.releaseState hshape hok).quiet h
  | unregistered hpump h =>
      exact hw.of_entries h.holder (fun _ _ _ _ _ _ hl => by rw [h.core]; exact hl)

end Held

/-! ## §4. Runs. -/

/-- The tester of `st` is away: its timer does not fire, and no socket takes
its address. -/
def Away (cfg : EcuConfig) (sa : SA) (st : StateId) (w : World) (e : Event) : Prop :=
  e ≠ .s3Expiry st ∧ ∀ w', step cfg w e = some w' → ∀ k,
    (w'.sessions k).testerAddr = some sa → (w.sessions k).testerAddr = some sa

/-- What a tester may rely on across its connections. -/
structure Continuity (cfg : EcuConfig) (w : World) : Prop where
  /-- The table names the state that the live socket of a tester holds. -/
  held : ∀ i sa, w.Live i sa →
    ∃ st, (w.sessions i).state = some st ∧ w.core.sessionStates sa = some st
  /-- The step in which a socket ends leaves its state in the table, unless
  it is tidy; a socket that takes its place gets it. -/
  ends : ∀ i sa st e w', (w.sessions i).testerAddr = some sa → (w.sessions i).state = some st →
    (w.sessions i).released = false → ¬ (w.core.states st).Tidy cfg →
    step cfg w e = some w' → (w'.sessions i).released = true → Carried w w' sa st
  /-- Once all its sockets have ended, the next one gets it. -/
  reconnects : ∀ sa st, w.core.sessionStates sa = some st → ¬ (w.core.states st).Tidy cfg →
    (∀ i, (w.sessions i).state = some st → (w.sessions i).released = true) →
    ∀ es v e v',
      Transition.Along (step cfg) (fun w e => Unshared cfg w e ∧ Away cfg sa st w e) w es →
      Transition.exec (step cfg) w es = some v → Unshared cfg v e → e ≠ .s3Expiry st →
      step cfg v e = some v' →
      EntryKept w.core v'.core sa st
        ∧ ∀ k, (v.sessions k).testerAddr ≠ some sa → (v'.sessions k).testerAddr = some sa →
          (v'.sessions k).state = some st

/-- All sockets that held `st` have ended. -/
def Ended (w : World) (st : StateId) : Prop :=
  ∀ i, (w.sessions i).state = some st → (w.sessions i).released = true

/-- Without a socket no request is served with the state. -/
theorem Ended.resting {e : Event} (hended : Ended w st)
    (hok : Unshared cfg w e) (hs3 : e ≠ .s3Expiry st) : Resting st w e := by
  unfold Resting
  split
  · rintro rfl
    exact hs3 rfl
  · rename_i i
    intro hst
    obtain ⟨j, _, hrel, hj⟩ := hok
    rw [hst] at hj
    rw [hended j hj] at hrel
    cases hrel
  · trivial

/-- As long as the tester is away, no new socket holds the state. -/
theorem Ended.step {e : Event} (hshape : Shape w) (hended : Ended w st)
    (hl' : w'.core.sessionStates sa = some st)
    (haway : Away cfg sa st w e) (h : step cfg w e = some w') : Ended w' st := by
  intro k hk
  have hshape' := Shape.step hshape h
  -- a socket that holds `st` is one of the tester
  have haddr' : (w'.sessions k).testerAddr = some sa := by
    obtain ⟨sa', st', haddr, hst, _, htester⟩ := hshape'.bound k (hshape'.activated_of_state hk)
    rw [hk, Option.some.injEq] at hst
    rw [← hst, (hshape'.table sa st hl').2] at htester
    rw [haddr, ← htester]
  have hact := hshape.activated_of_testerAddr (haway.2 w' h k haddr')
  have hstays := Stays.step hshape h hact
  exact hstays.released (hended k (hstays.state ▸ hk))

theorem Held.continuity (hdrop : cfg.uds.resetDropsConnection = false) (hshape : Shape w)
    (hw : Held w) : Continuity cfg w where
  held := by
    intro i sa hlive
    obtain ⟨hact, haddr, hfin⟩ := hlive
    obtain ⟨sa', st, haddr', hst, _⟩ := hshape.bound i hact
    rw [haddr, Option.some.injEq] at haddr'
    subst haddr'
    have hrel : (w.sessions i).released = false := by
      cases hrel : (w.sessions i).released with
      | false => rfl
      | true =>
          rw [(hshape.released i hrel).1] at hfin
          cases hfin
    exact ⟨st, hst, hw i sa st hrel haddr hst⟩
  ends := by
    intro i sa st e w' haddr hst hrel hn h hrel'
    have hl := hw i sa st hrel haddr hst
    refine Carried.step hdrop hshape hl hn ?_ h
    -- neither the timer nor a dispatch ends a socket
    have hsame : (w'.sessions i).released = (w.sessions i).released → False := by
      intro hsame
      rw [hrel', hrel] at hsame
      cases hsame
    unfold Resting
    split
    · cases step_change hshape h with
      | quiet h => exact (hsame (h.released i)).elim
      | expired _ => exact (hsame rfl).elim
    · cases step_change hshape h with
      | quiet h => exact (hsame (h.released i)).elim
      | dispatched _ h => exact (hsame (h.released i)).elim
    · trivial
  reconnects := by
    intro sa st hl hn hended es v e v' hal hexec hok hs3 h
    have hinv : Shape v ∧ Ended v st ∧ EntryKept w.core v.core sa st := by
      refine Transition.exec_invariant_along
        (fun v => Shape v ∧ Ended v st ∧ EntryKept w.core v.core sa st) ?_ es w v
        ⟨hshape, hended, EntryKept.refl hl⟩ hal hexec
      intro u e u' ⟨hu, hend, hkept⟩ ⟨hok, haway⟩ hstep
      have hrest := hend.resting hok haway.1
      have hcarried := Carried.step hdrop hu hkept.entry (hkept.tidy_iff.not.mpr hn) hrest hstep
      exact ⟨Shape.step hu hstep,
        hend.step hu hcarried.kept.entry haway hstep,
        hkept.trans hcarried.kept⟩
    obtain ⟨hv, hend, hkept⟩ := hinv
    have hcarried := Carried.step hdrop hv hkept.entry (hkept.tidy_iff.not.mpr hn)
      (hend.resting hok hs3) h
    exact ⟨hkept.trans hcarried.kept, hcarried.obtained⟩

/-- **Continuity**, in every run in which no entry is deleted under a socket
that holds it. -/
theorem state_continuity (cfg : EcuConfig) (hdrop : cfg.uds.resetDropsConnection = false)
    (es : List Event) (w : World)
    (hal : Transition.Along (step cfg) (Unshared cfg) (World.init cfg) es)
    (h : Transition.exec (step cfg) (World.init cfg) es = some w) : Continuity cfg w := by
  have hboth : Shape w ∧ Held w := by
    refine Transition.exec_invariant_along (fun w => Shape w ∧ Held w) ?_ es
      (World.init cfg) w ⟨shape_init cfg, ?_⟩ hal h
    · intro u e u' hu hok hstep
      exact ⟨Shape.step hu.1 hstep, Held.step hdrop hu.1 hu.2 hok hstep⟩
    · intro i sa st _ haddr
      cases haddr
  exact hboth.2.continuity hdrop hboth.1

/-- A tester in an extended session reconnects. -/
def reconnect : List Event :=
  asks 0 0x0E00 ++ [.sent 0] ++ requests 0 0x0E00 [0x10, 0x03] ++ closes 0 ++ asks 1 0x0E00

set_option maxRecDepth 8000 in
theorem state_continuity_reconnect :
    ∃ w, Transition.exec (step {}) (World.init {}) reconnect = some w
      ∧ (w.sessions 1).state = some 0 ∧ Continuity {} w := by
  have hrun : ((Transition.exec (step {}) (World.init {}) reconnect).map
      (fun w => (w.sessions 1).state)) = some (some 0) := by decide
  obtain ⟨w, hw, hst⟩ := Option.map_eq_some_iff.mp hrun
  exact ⟨w, hw, hst, state_continuity {} rfl reconnect w (by decide) hw⟩

/-- The S3 timer fires while the tester is still connected, and it enters
the extended session again. -/
def idleTester : List Event :=
  asks 0 0x0E00 ++ [.sent 0] ++ requests 0 0x0E00 [0x10, 0x03] ++ [.s3Expiry 0]
    ++ requests 0 0x0E00 [0x10, 0x03]

set_option maxRecDepth 8000 in
/-- The live socket holds a state that the table does not name any more. -/
theorem expiry_orphans_state :
    ¬ ∀ (cfg : EcuConfig) (es : List Event) (w : World), cfg.Accepted → 0 < cfg.uds.s3ServerMs →
      cfg.uds.resetDropsConnection = false →
      Transition.exec (step cfg) (World.init cfg) es = some w → Continuity cfg w := by
  intro hall
  have hrun : ((Transition.exec (step {}) (World.init {}) idleTester).map (fun w =>
      ((w.sessions 0).activated, (w.sessions 0).finalized, (w.sessions 0).testerAddr,
        w.core.sessionStates 0x0E00))) = some (true, false, some 0x0E00, none) := by decide
  obtain ⟨w, hw, hend⟩ := Option.map_eq_some_iff.mp hrun
  rw [Prod.mk.injEq, Prod.mk.injEq, Prod.mk.injEq] at hend
  obtain ⟨hact, hfin, haddr, hnone⟩ := hend
  obtain ⟨st, _, hl⟩ := (hall {} idleTester w EcuConfig.accepted_default (by decide) rfl hw).held
    0 0x0E00 ⟨hact, haddr, hfin⟩
  rw [hnone] at hl
  cases hl

end DoipPlayground.VirtualEcu
