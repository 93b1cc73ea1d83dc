/-
  DoipPlayground.VirtualEcu.AliveProbe
  ────────────────────────────────────
  **A SOCKET THAT ANSWERS ITS PROBES IS NOT EVICTED** (`probe_alive`).

  Every call of `probe_alive` puts its event into one slot of the probed
  socket and clears the slot when it returns.

    • `Slots` — as long as the calls on a socket do not overlap, the slot
      holds the event of the call that is under way,
    • `answered_probe_alive` — every answered call then returns True,
    • `answered_call_wakes` — and does return,
    • `overlapping_probes_evict` — two overlapping calls lose an answer.
-/
import DoipPlayground.VirtualEcu.Exclusivity

namespace DoipPlayground.VirtualEcu

open Wire

variable {cfg : EcuConfig} {w w' : World} {i j o : Sid}

/-! ## §1. The conditions. -/

/-- The timer of a call does not run out once its event is set, and sending
the request does not fail once its response was read. -/
def ProbePrompt (w : World) : Event → Prop
  | .probeTimeout i o =>
      match (w.probes i o).map Probe.phase with
      | some (.waiting event) => w.events event = false
      | _ => True
  | .probeSendFailed i o => (w.probes i o).map Probe.answered ≠ some true
  | _ => True

/-- A Routing Activation probes an owner only while no other call of
`probe_alive` is under way on it. -/
def ProbesApart (cfg : EcuConfig) (w : World) : Event → Prop
  | .hookReturned i override =>
      match (w.sessions i).pump with
      | .hooking src activationType =>
          (w.probeTarget cfg i src activationType override).map
            (fun existing => (w.sessions existing).aliveProbePending) ≠ some true
      | _ => True
  | _ => True

instance ProbePrompt.decidable (w : World) (e : Event) : Decidable (ProbePrompt w e) := by
  unfold ProbePrompt
  rcases e <;> dsimp only <;> try infer_instance
  rcases (w.probes _ _).map Probe.phase with _ | _ | _ | _ <;> infer_instance

instance ProbesApart.decidable (cfg : EcuConfig) (w : World) (e : Event) :
    Decidable (ProbesApart cfg w e) := by
  unfold ProbesApart
  rcases e <;> dsimp only <;> try infer_instance
  rcases (w.sessions _).pump <;> infer_instance

/-- What a tester that answers its probes may rely on. -/
structure ProbesSound (w : World) : Prop where
  /-- A call whose response was read while it was under way returned True. -/
  alive : ∀ i o p a, w.probes i o = some p → p.answered = true → p.phase = .done a → a = true
  /-- No socket was evicted on a call whose response was read. -/
  kept : w.evictedAnswered = []

/-! ## §2. The slot of a probed socket. -/

structure Slots (w : World) : Prop where
  created : ∀ i o p, w.probes i o = some p → p.inFlight = true → p.event < w.nextEvent
  slot : ∀ i o p, w.probes i o = some p → p.inFlight = true →
    (w.sessions o).aliveProbePending = true ∧ (w.sessions o).aliveProbeEvent = some p.event
  /-- The event a call waits for is its own. -/
  waiting : ∀ i o p event, w.probes i o = some p → p.phase = .waiting event → event = p.event
  /-- One call at a time on each socket. -/
  single : ∀ i j o p q, w.probes i o = some p → w.probes j o = some q →
    p.inFlight = true → q.inFlight = true → i = j
  answered : ∀ i o p, w.probes i o = some p → p.inFlight = true → p.answered = true →
    w.events p.event = true
  done : ∀ i o p a, w.probes i o = some p → p.answered = true → p.phase = .done a → a = true
  kept : w.evictedAnswered = []

theorem slots_init (cfg : EcuConfig) : Slots (World.init cfg) := by
  constructor <;> simp [World.init]

/-- `w'` differs from `w` in no probe, no event and no slot. -/
structure ProbeFrame (w w' : World) : Prop where
  probes : w'.probes = w.probes
  events : w'.events = w.events
  nextEvent : w'.nextEvent = w.nextEvent
  evictedAnswered : w'.evictedAnswered = w.evictedAnswered
  pending : ∀ j, (w'.sessions j).aliveProbePending = (w.sessions j).aliveProbePending
  slot : ∀ j, (w'.sessions j).aliveProbeEvent = (w.sessions j).aliveProbeEvent

namespace ProbeFrame

theorem trans {w'' : World} (h : ProbeFrame w w') (h' : ProbeFrame w' w'') : ProbeFrame w w'' where
  probes := h'.probes.trans h.probes
  events := h'.events.trans h.events
  nextEvent := h'.nextEvent.trans h.nextEvent
  evictedAnswered := h'.evictedAnswered.trans h.evictedAnswered
  pending := fun j => (h'.pending j).trans (h.pending j)
  slot := fun j => (h'.slot j).trans (h.slot j)

/-- One session differs, but not in its slot. -/
theorem set (w : World) (i : Sid) (s : Session)
    (hpending : s.aliveProbePending = (w.sessions i).aliveProbePending)
    (hslot : s.aliveProbeEvent = (w.sessions i).aliveProbeEvent) : ProbeFrame w (w.set i s) where
  probes := rfl
  events := rfl
  nextEvent := rfl
  evictedAnswered := rfl
  pending := by
    intro j
    rw [World.set_sessions]
    split
    · subst j
      exact hpending
    · rfl
  slot := by
    intro j
    rw [World.set_sessions]
    split
    · subst j
      exact hslot
    · rfl

theorem rest (w : World) (opened : Nat) (registry : SessionRegistry) (core : EcuCore) :
    ProbeFrame w { w with opened := opened, registry := registry, core := core } :=
  ⟨rfl, rfl, rfl, rfl, fun _ => rfl, fun _ => rfl⟩

theorem setCore (w : World) (i : Sid) (s : Session) (core : EcuCore)
    (hpending : s.aliveProbePending = (w.sessions i).aliveProbePending)
    (hslot : s.aliveProbeEvent = (w.sessions i).aliveProbeEvent) :
    ProbeFrame w { w.set i s with core := core } :=
  (ProbeFrame.set w i s hpending hslot).trans (ProbeFrame.rest _ w.opened w.registry core)

theorem pumped (h : Pumped w i w') : ProbeFrame w w' := by
  obtain ⟨wire, version, queue, pump, _, rfl⟩ := h
  exact ProbeFrame.set w i _ rfl rfl

theorem worked (h : Worked w i w') : ProbeFrame w w' := by
  obtain ⟨wire, worker, finalized, _, _, rfl⟩ := h
  exact ProbeFrame.set w i _ rfl rfl

theorem releaseState (cfg : EcuConfig) (w : World) (i : Sid) :
    ProbeFrame w (w.releaseState cfg i) :=
  ProbeFrame.setCore w i _ _ rfl rfl

theorem unregister (w : World) (i : Sid) : ProbeFrame w (w.unregister i) :=
  ProbeFrame.rest w w.opened _ w.core

theorem occupy (w : World) (i : Sid) (src : SA) : ProbeFrame w (w.occupy cfg i src) :=
  (ProbeFrame.set w i { w.sessions i with
    testerAddr := some src, activated := true, state := some (w.core.sessionFor cfg src).2 }
    rfl rfl).trans (ProbeFrame.rest _ w.opened _ _)

/-- An eviction after a call that was not answered. -/
theorem evict (cfg : EcuConfig) (w : World) (i : Sid) : ProbeFrame w (w.evict cfg i false) := by
  have hclose : ProbeFrame w ((w.finalize i).cancelWorker i) :=
    (ProbeFrame.set w i { w.sessions i with finalized := true } rfl rfl).trans
      (ProbeFrame.set _ i _ rfl rfl)
  exact (hclose.trans (releaseState cfg _ i)).trans (unregister _ i)

end ProbeFrame

namespace Slots

theorem frame (hw : Slots w) (h : ProbeFrame w w') : Slots w' := by
  constructor
  · rw [h.probes, h.nextEvent]
    exact hw.created
  · simp only [h.probes, h.pending, h.slot]
    exact hw.slot
  · rw [h.probes]
    exact hw.waiting
  · rw [h.probes]
    exact hw.single
  · rw [h.probes, h.events]
    exact hw.answered
  · rw [h.probes]
    exact hw.done
  · rw [h.evictedAnswered]
    exact hw.kept

/-- The result of a call is forgotten. -/
theorem takeProbe (hw : Slots w) (i o : Sid) : Slots (w.takeProbe i o) := by
  have hold : ∀ {j o' p}, (w.takeProbe i o).probes j o' = some p → w.probes j o' = some p := by
    intro j o' p hp
    unfold World.takeProbe at hp
    dsimp only at hp
    split at hp
    · cases hp
    · exact hp
  constructor
  · exact fun j o' p hp => hw.created j o' p (hold hp)
  · exact fun j o' p hp => hw.slot j o' p (hold hp)
  · exact fun j o' p event hp => hw.waiting j o' p event (hold hp)
  · exact fun j k o' p q hp hq => hw.single j k o' p q (hold hp) (hold hq)
  · exact fun j o' p hp => hw.answered j o' p (hold hp)
  · exact fun j o' p a hp => hw.done j o' p a (hold hp)
  · exact hw.kept

/-- A call begins while no other is under way. -/
theorem startProbe (hw : Slots w) (hfree : (w.sessions o).aliveProbePending = false) (i : Sid) :
    Slots (w.startProbe i o) := by
  have hidle : ∀ j q, w.probes j o = some q → q.inFlight = true → False := by
    intro j q hq hin
    have hpending := (hw.slot j o q hq hin).1
    rw [hfree] at hpending
    cases hpending
  -- the new call, or one that was there before
  have hcases : ∀ {j o' p}, (w.startProbe i o).probes j o' = some p →
      (j = i ∧ o' = o ∧ p = ⟨w.nextEvent, .sending, false⟩)
        ∨ (¬ (j = i ∧ o' = o) ∧ w.probes j o' = some p) := by
    intro j o' p hp
    unfold World.startProbe at hp
    dsimp only at hp
    split at hp
    · rename_i heq
      exact .inl ⟨heq.1, heq.2, (Option.some.inj hp).symm⟩
    · rename_i hne
      exact .inr ⟨hne, hp⟩
  have hother : ∀ {j o' p}, w.probes j o' = some p → p.inFlight = true → o' ≠ o := by
    rintro j o' p hp hin rfl
    exact hidle j p hp hin
  constructor
  · intro j o' p hp hin
    show p.event < w.nextEvent + 1
    rcases hcases hp with ⟨_, _, rfl⟩ | ⟨_, hp⟩
    · exact Nat.lt_succ_self _
    · exact Nat.lt_succ_of_lt (hw.created j o' p hp hin)
  · intro j o' p hp hin
    unfold World.startProbe
    simp only [World.set_sessions]
    rcases hcases hp with ⟨_, rfl, rfl⟩ | ⟨_, hp⟩
    · simp
    · rw [if_neg (hother hp hin)]
      exact hw.slot j o' p hp hin
  · intro j o' p event hp hph
    rcases hcases hp with ⟨_, _, rfl⟩ | ⟨_, hp⟩
    · cases hph
    · exact hw.waiting j o' p event hp hph
  · intro j k o' p q hp hq hinp hinq
    rcases hcases hp with ⟨hj, ho, _⟩ | ⟨_, hp'⟩
    · rcases hcases hq with ⟨hk, _, _⟩ | ⟨_, hq'⟩
      · rw [hj, hk]
      · exact (hidle k q (ho ▸ hq') hinq).elim
    · rcases hcases hq with ⟨_, ho, _⟩ | ⟨_, hq'⟩
      · exact (hidle j p (ho ▸ hp') hinp).elim
      · exact hw.single j k o' p q hp' hq' hinp hinq
  · intro j o' p hp hin hans
    rcases hcases hp with ⟨_, _, rfl⟩ | ⟨_, hp⟩
    · cases hans
    · unfold World.startProbe
      dsimp only
      rw [Function.update_of_ne (Nat.ne_of_lt (hw.created j o' p hp hin))]
      exact hw.answered j o' p hp hin hans
  · intro j o' p a hp hans hph
    rcases hcases hp with ⟨_, _, rfl⟩ | ⟨_, hp⟩
    · cases hans
    · exact hw.done j o' p a hp hans hph
  · exact hw.kept

/-- The request of a call is out: it waits for the event in the slot. -/
theorem probeSent (hw : Slots w) {p : Probe} (hp : w.probes i o = some p) (hin : p.inFlight = true)
    {slot : EventId} (hslot : (w.sessions o).aliveProbeEvent = some slot) :
    Slots { w with
      probes := fun j o' =>
        if j = i ∧ o' = o then some ⟨p.event, .waiting slot, p.answered⟩ else w.probes j o' } := by
  have hown : slot = p.event := by
    rw [(hw.slot i o p hp hin).2] at hslot
    exact (Option.some.inj hslot).symm
  have hcases : ∀ {j o' q},
      (if j = i ∧ o' = o then some (⟨p.event, .waiting slot, p.answered⟩ : Probe)
        else w.probes j o') = some q →
      ∃ q', w.probes j o' = some q' ∧ q.event = q'.event ∧ q.answered = q'.answered
        ∧ (q.inFlight = true → q'.inFlight = true)
        ∧ (q = q' ∨ q.phase = .waiting q'.event) := by
    intro j o' q hq
    split at hq
    · rename_i heq
      obtain ⟨rfl, rfl⟩ := heq
      cases hq
      exact ⟨p, hp, rfl, rfl, fun _ => hin, .inr (by rw [hown])⟩
    · exact ⟨q, hq, rfl, rfl, id, .inl rfl⟩
  constructor
  · intro j o' q hq hinq
    obtain ⟨q', hq', hev, _, hin', _⟩ := hcases hq
    rw [hev]
    exact hw.created j o' q' hq' (hin' hinq)
  · intro j o' q hq hinq
    obtain ⟨q', hq', hev, _, hin', _⟩ := hcases hq
    rw [hev]
    exact hw.slot j o' q' hq' (hin' hinq)
  · intro j o' q event hq hph
    obtain ⟨q', hq', hev, _, _, rfl | hwait⟩ := hcases hq
    · exact hw.waiting j o' q event hq' hph
    · rw [hph, ProbePhase.waiting.injEq] at hwait
      rw [hwait, hev]
  · intro j k o' q r hq hr hinq hinr
    obtain ⟨q', hq', _, _, hin', _⟩ := hcases hq
    obtain ⟨r', hr', _, _, hin'', _⟩ := hcases hr
    exact hw.single j k o' q' r' hq' hr' (hin' hinq) (hin'' hinr)
  · intro j o' q hq hinq hans
    obtain ⟨q', hq', hev, hans', hin', _⟩ := hcases hq
    dsimp only
    rw [hev]
    exact hw.answered j o' q' hq' (hin' hinq) (hans'.symm.trans hans)
  · intro j o' q a hq hans hph
    obtain ⟨q', hq', _, _, _, rfl | hwait⟩ := hcases hq
    · exact hw.done j o' q a hq' hans hph
    · rw [hph] at hwait
      cases hwait
  · exact hw.kept

/-- The slot of `o` is cleared, and no call is under way there any more. -/
theorem clear (hw : Slots w) (hevents : w'.events = w.events) (hnext : w'.nextEvent = w.nextEvent)
    (hkept : w'.evictedAnswered = w.evictedAnswered)
    (hothers : ∀ j, j ≠ o →
      (w'.sessions j).aliveProbePending = (w.sessions j).aliveProbePending
        ∧ (w'.sessions j).aliveProbeEvent = (w.sessions j).aliveProbeEvent)
    (hlive : ∀ {j o' q}, w'.probes j o' = some q → q.inFlight = true →
      w.probes j o' = some q ∧ o' ≠ o)
    (hdone : ∀ {j o' q a}, w'.probes j o' = some q → q.answered = true → q.phase = .done a →
      a = true) : Slots w' := by
  constructor
  · intro j o' q hq hin
    rw [hnext]
    exact hw.created j o' q (hlive hq hin).1 hin
  · intro j o' q hq hin
    obtain ⟨hq, hne⟩ := hlive hq hin
    rw [(hothers o' hne).1, (hothers o' hne).2]
    exact hw.slot j o' q hq hin
  · intro j o' q event hq hph
    have hin : q.inFlight = true := by
      unfold Probe.inFlight
      rw [hph]
    exact hw.waiting j o' q event (hlive hq hin).1 hph
  · intro j k o' q r hq hr hinq hinr
    exact hw.single j k o' q r (hlive hq hinq).1 (hlive hr hinr).1 hinq hinr
  · intro j o' q hq hin hans
    rw [hevents]
    exact hw.answered j o' q (hlive hq hin).1 hin hans
  · exact fun j o' q a => hdone
  · exact hkept.trans hw.kept

/-- Whoever is under way when a call on `o` has returned is so on another socket. -/
theorem elsewhere (hw : Slots w) {p : Probe} (hp : w.probes i o = some p)
    (hin : p.inFlight = true) {k o' : Sid} {q : Probe} (hne : ¬ (k = i ∧ o' = o))
    (hq : w.probes k o' = some q) (hinq : q.inFlight = true) : o' ≠ o := by
  intro ho
  rw [ho] at hq hne
  exact hne ⟨hw.single k i o q p hq hp hinq hin, rfl⟩

/-- A call returns, True if its response was read. -/
theorem endProbe (hw : Slots w) {p : Probe} (hp : w.probes i o = some p)
    (hin : p.inFlight = true) {alive : Bool} (hans : p.answered = true → alive = true) :
    Slots (w.endProbe i o p alive) := by
  refine hw.clear (o := o) rfl rfl rfl ?_ ?_ ?_
  · intro j hj
    unfold World.endProbe
    simp [hj]
  · intro j o' q hq hinq
    unfold World.endProbe at hq
    dsimp only at hq
    split at hq
    · cases hq
      cases hinq
    · rename_i hne
      exact ⟨hq, hw.elsewhere hp hin hne hq hinq⟩
  · intro j o' q a hq hansq hph
    unfold World.endProbe at hq
    dsimp only at hq
    split at hq
    · cases hq
      cases hph
      exact hans hansq
    · exact hw.done j o' q a hq hansq hph

/-- The prober is cancelled, and the call with it. -/
theorem cancelProbe (hw : Slots w) {p : Probe} (hp : w.probes i o = some p)
    (hin : p.inFlight = true) : Slots ((w.endProbe i o p false).takeProbe i o) := by
  have hold : ∀ {j o' q}, ((w.endProbe i o p false).takeProbe i o).probes j o' = some q →
      ¬ (j = i ∧ o' = o) ∧ w.probes j o' = some q := by
    intro j o' q hq
    unfold World.takeProbe World.endProbe at hq
    dsimp only at hq
    split at hq
    · cases hq
    · rename_i hne
      exact ⟨hne, hq⟩
  refine hw.clear (o := o) rfl rfl rfl ?_ ?_ ?_
  · intro j hj
    unfold World.takeProbe World.endProbe
    simp [hj]
  · intro j o' q hq hinq
    obtain ⟨hne, hq⟩ := hold hq
    exact ⟨hq, hw.elsewhere hp hin hne hq hinq⟩
  · intro j o' q a hq
    exact hw.done j o' q a (hold hq).2

theorem leaveLoop (hw : Slots w) (i : Sid) : Slots (w.leaveLoop i) := by
  have hlast : ∀ u : World, Slots u → Slots ((u.finalize i).setPump i .stoppingSupervisor) := by
    intro u hu
    exact hu.frame ((ProbeFrame.set u i { u.sessions i with finalized := true } rfl rfl).trans
      (ProbeFrame.set _ i _ rfl rfl))
  unfold World.leaveLoop
  dsimp only
  split
  · split
    · rename_i p hp
      split
      · rename_i hin
        exact hlast _ (hw.cancelProbe hp hin)
      · exact hlast _ (hw.takeProbe i _)
    · exact hlast w hw
  · exact hlast w hw

/-- Only a call on `i` that is under way is credited with the response. -/
theorem creditResponse_probes {i j o : Sid} {q : Probe}
    (h : (w.creditResponse i).probes j o = some q) :
    ∃ q', w.probes j o = some q' ∧ q.event = q'.event ∧ q.phase = q'.phase
      ∧ (q.answered = true → q'.answered = true ∨ o = i ∧ q'.inFlight = true) := by
  unfold World.creditResponse at h
  split at h
  · exact ⟨q, h, rfl, rfl, .inl⟩
  · dsimp only at h
    split at h
    · rename_i heq
      obtain ⟨q', hq', rfl⟩ := Option.map_eq_some_iff.mp h
      refine ⟨q', by rw [heq.1, heq.2]; exact hq', ?_⟩
      split
      · rename_i hin
        exact ⟨rfl, rfl, fun _ => .inr ⟨heq.2, hin⟩⟩
      · exact ⟨rfl, rfl, .inl⟩
    · exact ⟨q, h, rfl, rfl, .inl⟩

theorem creditResponse_sessions (w : World) (i j : Sid) :
    ∃ awaiting, (w.creditResponse i).sessions j = { w.sessions j with awaiting := awaiting } := by
  unfold World.creditResponse
  split
  · exact ⟨_, rfl⟩
  · simp only [World.set_sessions]
    split
    · rename_i hj
      exact ⟨_, by rw [hj]⟩
    · exact ⟨_, rfl⟩

/-- What reading a response does: nothing to the slots, and the event in
the slot of `i` is set. -/
structure Heard (w : World) (i : Sid) (w' : World) : Prop where
  probes : w'.probes = (w.creditResponse i).probes
  nextEvent : w'.nextEvent = w.nextEvent
  evictedAnswered : w'.evictedAnswered = w.evictedAnswered
  sessions : ∀ j, (w'.sessions j).aliveProbePending = (w.sessions j).aliveProbePending
    ∧ (w'.sessions j).aliveProbeEvent = (w.sessions j).aliveProbeEvent
  events : ∀ event, w.events event = true → w'.events event = true
  slot : ∀ event, (w.sessions i).aliveProbePending = true →
    (w.sessions i).aliveProbeEvent = some event → w'.events event = true

theorem handleAliveCheckResponse_heard (w : World) (i : Sid) :
    Heard w i (w.handleAliveCheckResponse i) := by
  have hsessions : ∀ j, ((w.creditResponse i).sessions j).aliveProbePending
        = (w.sessions j).aliveProbePending
      ∧ ((w.creditResponse i).sessions j).aliveProbeEvent = (w.sessions j).aliveProbeEvent := by
    intro j
    obtain ⟨awaiting, hs⟩ := creditResponse_sessions w i j
    rw [hs]
    exact ⟨rfl, rfl⟩
  have hcredit : (w.creditResponse i).events = w.events
      ∧ (w.creditResponse i).nextEvent = w.nextEvent
      ∧ (w.creditResponse i).evictedAnswered = w.evictedAnswered := by
    unfold World.creditResponse
    split <;> exact ⟨rfl, rfl, rfl⟩
  unfold World.handleAliveCheckResponse
  dsimp only
  split
  · rename_i event hpending hslot
    refine ⟨rfl, hcredit.2.1, hcredit.2.2, hsessions, ?_, ?_⟩
    · intro event' h
      show Function.update w.events event true event' = true
      rw [Function.update_apply]
      split
      · rfl
      · exact h
    · intro event' _ h
      rw [hslot, Option.some.injEq] at h
      subst h
      exact Function.update_self ..
  · rename_i hnone
    refine ⟨rfl, hcredit.2.1, hcredit.2.2, hsessions, ?_, ?_⟩
    · intro event h
      rw [hcredit.1]
      exact h
    · intro event hpending hslot
      exact (hnone event hpending hslot).elim

/-- The pump reads a response: the call it answers owns the slot it sets. -/
theorem heard (hw : Slots w) (h : Heard w i w') : Slots w' := by
  have hold : ∀ {j o q}, w'.probes j o = some q →
      ∃ q', w.probes j o = some q' ∧ q.event = q'.event ∧ q.phase = q'.phase
        ∧ q.inFlight = q'.inFlight
        ∧ (q.answered = true → q'.answered = true ∨ o = i ∧ q'.inFlight = true) := by
    intro j o q hq
    rw [h.probes] at hq
    obtain ⟨q', hq', hev, hph, hans⟩ := creditResponse_probes hq
    refine ⟨q', hq', hev, hph, ?_, hans⟩
    unfold Probe.inFlight
    rw [hph]
  constructor
  · intro j o q hq hin
    obtain ⟨q', hq', hev, _, hin', _⟩ := hold hq
    rw [hev, h.nextEvent]
    exact hw.created j o q' hq' (hin' ▸ hin)
  · intro j o q hq hin
    obtain ⟨q', hq', hev, _, hin', _⟩ := hold hq
    rw [hev, (h.sessions o).1, (h.sessions o).2]
    exact hw.slot j o q' hq' (hin' ▸ hin)
  · intro j o q event hq hph
    obtain ⟨q', hq', hev, hph', _, _⟩ := hold hq
    rw [hev]
    exact hw.waiting j o q' event hq' (hph' ▸ hph)
  · intro j k o q r hq hr hinq hinr
    obtain ⟨q', hq', _, _, hinq', _⟩ := hold hq
    obtain ⟨r', hr', _, _, hinr', _⟩ := hold hr
    exact hw.single j k o q' r' hq' hr' (hinq' ▸ hinq) (hinr' ▸ hinr)
  · intro j o q hq hin hans
    obtain ⟨q', hq', hev, _, hin', hans'⟩ := hold hq
    rw [hev]
    rcases hans' hans with hans' | ⟨rfl, _⟩
    · exact h.events _ (hw.answered j o q' hq' (hin' ▸ hin) hans')
    · obtain ⟨hpending, hslot⟩ := hw.slot j o q' hq' (hin' ▸ hin)
      exact h.slot _ hpending hslot
  · intro j o q a hq hans hph
    obtain ⟨q', hq', _, hph', _, hans'⟩ := hold hq
    rw [hph] at hph'
    rcases hans' hans with hans' | ⟨_, hin⟩
    · exact hw.done j o q' a hq' hans' hph'.symm
    · -- a call that has returned is credited with nothing
      unfold Probe.inFlight at hin
      rw [← hph'] at hin
      cases hin
  · exact h.evictedAnswered.trans hw.kept

/-- The step lemma: the conditions are needed where a call begins, and where
one returns False. -/
theorem step {e : Event} (hw : Slots w) (hprompt : ProbePrompt w e) (hapart : ProbesApart cfg w e)
    (h : VirtualEcu.step cfg w e = some w') : Slots w' := by
  cases step_effect h with
  | accepted => exact hw.frame (ProbeFrame.rest w _ w.registry w.core)
  | frameRead i raw w' _ _ hread =>
      rcases readFrame_spec hread with hp | ⟨version, rfl⟩
      · exact hw.frame (.pumped hp)
      · have hset := ProbeFrame.set w i { w.sessions i with currentReqVersion := version } rfl rfl
        exact (hw.frame hset).heard (handleAliveCheckResponse_heard _ i)
  | loopEnded i _ _ => exact hw.leaveLoop i
  | hookReturned i override src activationType hpump =>
      rcases handleRoutingActivation_spec cfg w i src activationType override with
        hp | ⟨existing, ht, heq⟩ | ⟨_, _, hp⟩
      · exact hw.frame (.pumped hp)
      · simp only [ProbesApart, hpump, ht, Option.map_some, ne_eq, Option.some.injEq,
          Bool.not_eq_true] at hapart
        rw [heq]
        exact (hw.startProbe hapart i).frame (ProbeFrame.set _ i _ rfl rfl)
      · exact hw.frame ((ProbeFrame.occupy w i src).trans (.pumped hp))
  | sentLoop i _ => exact hw.frame (ProbeFrame.set w i _ rfl rfl)
  | sentClose i _ => exact hw.leaveLoop i
  | sentEnqueue i request version _ => exact hw.frame (.pumped (enqueue_pumped w i _ _))
  | probeSent i o event slot answered hprobe hslot => exact hw.probeSent hprobe rfl hslot
  | probeUnwaited i o event answered hprobe hslot =>
      -- a call that is sending has its event in the slot
      rw [(hw.slot i o _ hprobe rfl).2] at hslot
      cases hslot
  | probeSendFailed i o event answered hprobe =>
      refine hw.endProbe hprobe rfl (fun hans => ?_)
      simp only [ProbePrompt, hprobe, Option.map_some, ne_eq, Option.some.injEq] at hprompt
      exact absurd hans hprompt
  | probeWoken i o event slot answered hprobe _ => exact hw.endProbe hprobe rfl (fun _ => rfl)
  | probeTimedOut i o event slot answered hprobe =>
      refine hw.endProbe hprobe rfl (fun hans => ?_)
      -- an answered call has its event set, so its timer comes too late
      have hset := hw.answered i o _ hprobe rfl hans
      have hown := hw.waiting i o _ slot hprobe rfl
      simp only [ProbePrompt, hprobe, Option.map_some] at hprompt
      rw [hown, hset] at hprompt
      cases hprompt
  | probeReturned i existing src event alive answered hpump hprobe =>
      have htake := hw.takeProbe i existing
      rcases resumeActivation_spec cfg (w.takeProbe i existing) i src existing alive
        answered with ⟨_, hp'⟩ | ⟨rfl, hp'⟩
      · exact htake.frame (.pumped hp')
      · have hans : answered = false := by
          cases answered with
          | false => rfl
          | true => exact (hw.done i existing _ false hprobe rfl rfl).symm
        subst hans
        have hevict := htake.frame (ProbeFrame.evict cfg _ existing)
        rcases hp' with ⟨_, hp'⟩ | ⟨_, hp'⟩
        · exact hevict.frame (.pumped hp')
        · exact hevict.frame ((ProbeFrame.occupy _ i src).trans (.pumped hp'))
  | requestTaken i request version rest _ _ =>
      unfold World.takeRequest
      dsimp only
      split
      · exact hw.frame (ProbeFrame.setCore w i _ _ rfl rfl)
      · exact hw.frame (ProbeFrame.set w i _ rfl rfl)
  | dispatched i request version st p2 p2' _ _ =>
      exact hw.frame (ProbeFrame.setCore w i _ _ rfl rfl)
  | dispatchedLast i request st _ => exact hw.frame (ProbeFrame.setCore w i _ _ rfl rfl)
  | resolved i e request version st p2 p2' hworker _ _ =>
      exact hw.frame (.worked (advanceWorker_worked (by rw [hworker]; rfl) _ p2'))
  | responderStopped i request version st p2 response _ _ _ =>
      exact hw.frame (ProbeFrame.set w i _ rfl rfl)
  | responderFailed i request version st p2 _ _ => exact hw.frame (ProbeFrame.set w i _ rfl rfl)
  | inactive i _ _ => exact hw.frame (ProbeFrame.set w i _ rfl rfl)
  | s3Expired st _ => exact hw.frame (ProbeFrame.rest w w.opened w.registry _)
  | supervisorStopped i _ =>
      have hcancel : ProbeFrame w (w.cancelWorker i) := ProbeFrame.set w i _ rfl rfl
      exact hw.frame (hcancel.trans (ProbeFrame.set _ i _ rfl rfl))
  | workerStopped i _ =>
      have hstop : ProbeFrame w (w.setWorker i .stopped) := ProbeFrame.set w i _ rfl rfl
      exact hw.frame ((hstop.trans (ProbeFrame.releaseState cfg _ i)).trans
        (ProbeFrame.set _ i _ rfl rfl))
  | writerClosed i _ =>
      exact hw.frame ((ProbeFrame.unregister w i).trans (ProbeFrame.set _ i _ rfl rfl))

/-- A call that waits and is answered can return, and then returns True. -/
theorem woken (hw : Slots w) {p : Probe} {event : EventId} (hp : w.probes i o = some p)
    (hanswered : p.answered = true) (hphase : p.phase = .waiting event) :
    VirtualEcu.step cfg w (.probeWoken i o) = some (w.endProbe i o p true) := by
  obtain ⟨own, phase, answered⟩ := p
  obtain rfl : phase = .waiting event := hphase
  -- it waits for its own event, which the answer has set
  have hown : event = own := hw.waiting i o _ event hp rfl
  have hset : w.events own = true := hw.answered i o _ hp rfl hanswered
  unfold VirtualEcu.step
  dsimp only
  rw [hp]
  dsimp only
  rw [hown, if_pos hset]

end Slots

/-! ## §3. Runs. -/

theorem slots_run {es : List Event}
    (hal : Transition.Along (step cfg) (fun w e => ProbePrompt w e ∧ ProbesApart cfg w e)
      (World.init cfg) es)
    (h : Transition.exec (step cfg) (World.init cfg) es = some w) : Slots w :=
  Transition.exec_invariant_along Slots
    (fun _ _ _ hu hok hstep => Slots.step hu hok.1 hok.2 hstep) es (World.init cfg) w
    (slots_init cfg) hal h

/-- A call whose answer was read while it waits does return: its event is set,
and that is all it waits for. -/
theorem answered_call_wakes {es : List Event}
    (hal : Transition.Along (step cfg) (fun w e => ProbePrompt w e ∧ ProbesApart cfg w e)
      (World.init cfg) es)
    (h : Transition.exec (step cfg) (World.init cfg) es = some w)
    {p : Probe} {event : EventId} (hp : w.probes i o = some p) (hanswered : p.answered = true)
    (hphase : p.phase = .waiting event) :
    ∃ w', step cfg w (.probeWoken i o) = some w'
      ∧ (w'.probes i o).map Probe.phase = some (.done true) := by
  refine ⟨_, (slots_run hal h).woken hp hanswered hphase, ?_⟩
  show Option.map Probe.phase (if i = i ∧ o = o then _ else _) = _
  rw [if_pos ⟨rfl, rfl⟩]
  rfl

/-- **Answered calls return True**, in every run in which the calls on one
socket do not overlap. -/
theorem answered_probe_alive (cfg : EcuConfig) (es : List Event) (w : World)
    (hal : Transition.Along (step cfg) (fun w e => ProbePrompt w e ∧ ProbesApart cfg w e)
      (World.init cfg) es)
    (h : Transition.exec (step cfg) (World.init cfg) es = some w) : ProbesSound w := by
  have hslots : Slots w := slots_run hal h
  exact ⟨hslots.done, hslots.kept⟩

/-- The tester on socket 0 answers an Alive Check Request. -/
def aliveAnswer : Event :=
  .frame 0 (buildFrame ptAliveCheckResponse (packH 0x0E00) ver)

/-- Two contenders, one after the other. -/
def probesInTurn : List Event :=
  asks 0 0x0E00 ++ [.sent 0]
    ++ asks 1 0x0E00 ++ [.probeSent 1 0, aliveAnswer, .probeWoken 1 0, .probeReturned 1]
    ++ asks 2 0x0E00 ++ [.probeSent 2 0, aliveAnswer, .probeWoken 2 0]

set_option maxRecDepth 8000 in
theorem answered_probe_alive_in_turn :
    ∃ w, Transition.exec (step {}) (World.init {}) probesInTurn = some w
      ∧ (w.probes 2 0).map Probe.answered = some true ∧ ProbesSound w := by
  have hrun : ((Transition.exec (step {}) (World.init {}) probesInTurn).map
      (fun w => (w.probes 2 0).map Probe.answered)) = some (some true) := by decide
  obtain ⟨w, hw, hans⟩ := Option.map_eq_some_iff.mp hrun
  exact ⟨w, hw, hans, answered_probe_alive {} probesInTurn w (by decide) hw⟩

/-- Two contenders at once: the second call overwrites the slot, takes the
answer to the first and clears the slot before the second answer is read. -/
def overlappingProbes : List Event :=
  asks 0 0x0E00 ++ [.sent 0] ++ asks 1 0x0E00 ++ [.probeSent 1 0]
    ++ asks 2 0x0E00 ++ [.probeSent 2 0, aliveAnswer, .probeWoken 2 0, aliveAnswer,
        .probeTimeout 1 0, .probeReturned 1]

set_option maxRecDepth 8000 in
/-- Both requests are answered in time, and the socket is evicted. -/
theorem overlapping_probes_evict :
    ¬ ∀ (cfg : EcuConfig) (es : List Event) (w : World), cfg.Accepted →
      Transition.Along (step cfg) ProbePrompt (World.init cfg) es →
      Transition.exec (step cfg) (World.init cfg) es = some w → ProbesSound w := by
  intro hall
  have hrun : ((Transition.exec (step {}) (World.init {}) overlappingProbes).map
      World.evictedAnswered) = some [0] := by decide
  obtain ⟨w, hw, hev⟩ := Option.map_eq_some_iff.mp hrun
  have hkept := (hall {} overlappingProbes w EcuConfig.accepted_default (by decide) hw).kept
  rw [hev] at hkept
  cases hkept

end DoipPlayground.VirtualEcu
