/-
  DoipPlayground.VirtualEcu.Ownership
  ───────────────────────────────────
  **WHO HOLDS WHICH ADDRESS AND WHICH STATE.**

  Of everything a step does, little concerns the ownership of addresses and
  session states:

    • `Quiet` — nothing changes hands,
    • `Change` — what else one step can do; `step_change` says it is all,
    • `Shape` — what holds in every run, whatever the schedule.
-/
import DoipPlayground.VirtualEcu.Steps

namespace DoipPlayground.VirtualEcu

open Wire

variable {cfg : EcuConfig} {w w' : World} {i j : Sid}

/-! ## §1. Steps in which nothing changes hands. -/

/-- What a session holds. -/
structure Holder where
  activated : Bool
  testerAddr : Option SA
  state : Option StateId
  released : Bool

def Session.holder (s : Session) : Holder := ⟨s.activated, s.testerAddr, s.state, s.released⟩

/-- Socket `i` is activated for `sa` and not finalized. -/
def World.Live (w : World) (i : Sid) (sa : SA) : Prop :=
  (w.sessions i).activated = true ∧ (w.sessions i).testerAddr = some sa
    ∧ (w.sessions i).finalized = false

/-- Where the pump of `j` may go: past the loop it is finalized and does not
come back, and it only probes the owner of an address for a socket that has
none. -/
def PumpOk (w w' : World) (j : Sid) : Prop :=
  j < w.opened ∧ ((w.sessions j).pump.Past → (w'.sessions j).pump.Past) ∧
  match (w'.sessions j).pump with
  | .reading | .hooking _ _ | .sending _ => True
  | .probing src existing =>
      (w.sessions j).activated = false ∧ w.registry.lookup src = some existing
  | .stoppingSupervisor | .stoppingWorker | .closingWriter | .ended =>
      (w'.sessions j).finalized = true

/-- No address and no state changes hands. -/
structure Quiet (w w' : World) : Prop where
  opened : w'.opened = w.opened
  registry : w'.registry = w.registry
  core : w'.core = w.core
  holder : ∀ j, (w'.sessions j).holder = (w.sessions j).holder
  finalized : ∀ j, (w.sessions j).finalized = true → (w'.sessions j).finalized = true
  pump : ∀ j, (w'.sessions j).pump = (w.sessions j).pump ∨ PumpOk w w' j
  worker : ∀ j st, (w'.sessions j).worker.state? = some st →
    (w.sessions j).worker.state? = some st ∨ (w.sessions j).state = some st

namespace Quiet

theorem activated (h : Quiet w w') (j : Sid) :
    (w'.sessions j).activated = (w.sessions j).activated := congrArg Holder.activated (h.holder j)

theorem testerAddr (h : Quiet w w') (j : Sid) :
    (w'.sessions j).testerAddr = (w.sessions j).testerAddr :=
  congrArg Holder.testerAddr (h.holder j)

theorem state (h : Quiet w w') (j : Sid) :
    (w'.sessions j).state = (w.sessions j).state := congrArg Holder.state (h.holder j)

theorem released (h : Quiet w w') (j : Sid) :
    (w'.sessions j).released = (w.sessions j).released := congrArg Holder.released (h.holder j)

/-- No socket comes to life. -/
theorem live {sa : SA} (h : Quiet w w') (hlive : w'.Live j sa) : w.Live j sa := by
  obtain ⟨hact, haddr, hfin⟩ := hlive
  refine ⟨h.activated j ▸ hact, h.testerAddr j ▸ haddr, ?_⟩
  cases hf : (w.sessions j).finalized with
  | false => rfl
  | true => exact (h.finalized j hf).symm.trans hfin

/-- One session differs, in nothing that is held. -/
theorem set (w : World) (i : Sid) (s : Session) (hs : s.holder = (w.sessions i).holder)
    (hfin : (w.sessions i).finalized = true → s.finalized = true)
    (hpump : s.pump = (w.sessions i).pump ∨ PumpOk w (w.set i s) i)
    (hworker : ∀ st, s.worker.state? = some st →
      (w.sessions i).worker.state? = some st ∨ (w.sessions i).state = some st) :
    Quiet w (w.set i s) where
  opened := rfl
  registry := rfl
  core := rfl
  holder := by
    intro j
    rw [World.set_sessions]
    split
    · subst j
      exact hs
    · rfl
  finalized := by
    intro j hj
    rw [World.set_sessions]
    split
    · subst j
      exact hfin hj
    · exact hj
  pump := by
    intro j
    by_cases hj : j = i
    · subst j
      rcases hpump with hp | hp
      · exact .inl (by simpa using hp)
      · exact .inr hp
    · exact .inl (by simp [hj])
  worker := by
    intro j st hst
    rw [World.set_sessions] at hst
    split at hst
    · subst j
      exact hworker st hst
    · exact .inl hst

/-- Only the probes and their bookkeeping differ. -/
theorem probes (w : World) (events : EventId → Bool) (next : EventId)
    (ps : Sid → Sid → Option Probe) (ev : List Sid) :
    Quiet w { w with
      events := events, nextEvent := next, probes := ps, evictedAnswered := ev } where
  opened := rfl
  registry := rfl
  core := rfl
  holder := fun _ => rfl
  finalized := fun _ => id
  pump := fun _ => .inl rfl
  worker := fun _ _ => .inl

theorem trans {w'' : World} (h : Quiet w w') (h' : Quiet w' w'') : Quiet w w'' where
  opened := h'.opened.trans h.opened
  registry := h'.registry.trans h.registry
  core := h'.core.trans h.core
  holder := fun j => (h'.holder j).trans (h.holder j)
  finalized := fun j hj => h'.finalized j (h.finalized j hj)
  pump := by
    intro j
    rcases h'.pump j with hp' | ⟨hopen', hpast', hp'⟩
    · rcases h.pump j with hp | ⟨hopen, hpast, hp⟩
      · exact .inl (hp'.trans hp)
      · refine .inr ⟨hopen, ?_, ?_⟩
        · rw [hp']
          exact hpast
        · rw [hp']
          split at hp <;> simp_all [h'.finalized j]
    · refine .inr ⟨h.opened ▸ hopen', ?_, ?_⟩
      · intro hj
        rcases h.pump j with hp | ⟨_, hpast, _⟩
        · exact hpast' (hp ▸ hj)
        · exact hpast' (hpast hj)
      · rw [h.registry, h.activated] at hp'
        exact hp'
  worker := by
    intro j st hst
    rcases h'.worker j st hst with hst | hst
    · exact h.worker j st hst
    · exact .inr (h.state j ▸ hst)

theorem pumped (h : Pumped w i w') (hopen : i < w.opened)
    (hin : ¬ (w.sessions i).pump.Past) : Quiet w w' := by
  obtain ⟨wire, version, queue, pump, hcalm, rfl⟩ := h
  refine Quiet.set w i _ rfl id (.inr ⟨hopen, fun h => absurd h hin, ?_⟩) (fun _ => .inl)
  simp only [World.set_sessions, if_pos]
  cases pump <;> trivial

theorem worked (h : Worked w i w') : Quiet w w' := by
  obtain ⟨wire, worker, finalized, hst, hfin, rfl⟩ := h
  exact Quiet.set w i _ rfl hfin (.inl rfl) (fun st h => .inl (hst st h))

theorem finalize (w : World) (i : Sid) : Quiet w (w.finalize i) :=
  Quiet.set w i _ rfl (fun _ => rfl) (.inl rfl) (fun _ => .inl)

theorem cancelWorker (w : World) (i : Sid) : Quiet w (w.cancelWorker i) := by
  refine Quiet.set w i _ rfl id (.inl rfl) ?_
  intro st hst
  left
  dsimp only at hst
  split at hst
  · rename_i request version st' p2 hw
    split at hst
    · rw [hw]
      exact hst
    · cases hst
  · rename_i request st' hw
    rw [hw]
    exact hst
  · cases hst

/-- How an eviction begins. -/
theorem stopWork (w : World) (i : Sid) : Quiet w ((w.finalize i).cancelWorker i) :=
  (Quiet.finalize w i).trans (Quiet.cancelWorker _ i)

/-- A pump in the loop stays in the loop. -/
theorem setReading (w : World) (i : Sid) (hopen : i < w.opened)
    (hin : ¬ (w.sessions i).pump.Past) : Quiet w (w.setPump i .reading) :=
  Quiet.pumped (setPump_pumped w i .reading trivial) hopen hin

/-- A finalized pump moves on through its `finally`. -/
theorem setPump (w : World) (i : Sid) {pump : Pump} (hpast : pump.Past)
    (hfin : (w.sessions i).finalized = true) (hopen : i < w.opened) :
    Quiet w (w.setPump i pump) := by
  refine Quiet.set w i _ rfl id (.inr ⟨hopen, ?_, ?_⟩) (fun _ => .inl)
  · simpa only [World.set_sessions, if_pos] using fun _ => hpast
  · simp only [World.set_sessions, if_pos]
    cases pump <;> first | exact hfin | exact hpast.elim

theorem takeProbe (w : World) (i o : Sid) : Quiet w (w.takeProbe i o) :=
  Quiet.probes w w.events w.nextEvent _ w.evictedAnswered

theorem endProbe (w : World) (i o : Sid) (p : Probe) (alive : Bool) :
    Quiet w (w.endProbe i o p alive) := by
  have hset := Quiet.set w o
    { w.sessions o with aliveProbePending := false, aliveProbeEvent := none } rfl id (.inl rfl)
    (fun _ => .inl)
  exact hset.trans (Quiet.probes _ w.events w.nextEvent _ w.evictedAnswered)

theorem leaveLoop (w : World) (i : Sid) (hopen : i < w.opened) : Quiet w (w.leaveLoop i) := by
  have hlast : ∀ u : World, Quiet w u → Quiet w ((u.finalize i).setPump i .stoppingSupervisor) := by
    intro u hu
    refine hu.trans ((Quiet.finalize u i).trans (Quiet.setPump _ i trivial ?_ ?_))
    · simp [World.finalize]
    · exact hu.opened ▸ hopen
  have hself : Quiet w w := Quiet.probes w w.events w.nextEvent w.probes w.evictedAnswered
  unfold World.leaveLoop
  dsimp only
  split
  · split
    · split
      · exact hlast _ ((Quiet.endProbe w i _ _ false).trans (Quiet.takeProbe _ i _))
      · exact hlast _ (Quiet.takeProbe w i _)
    · exact hlast w hself
  · exact hlast w hself

/-- A probe is started for a socket that has no address yet. -/
theorem startProbe (w : World) {i existing : Sid} {src : SA}
    (hact : (w.sessions i).activated = false) (hl : w.registry.lookup src = some existing)
    (hopen : i < w.opened) (hin : ¬ (w.sessions i).pump.Past) :
    Quiet w ((w.startProbe i existing).setPump i (.probing src existing)) := by
  have hset := Quiet.set w existing
    { w.sessions existing with
      aliveProbePending := true
      aliveProbeEvent := some w.nextEvent
      wire := (w.sessions existing).wire ++ [buildFrame ptAliveCheckRequest [] ver]
      awaiting := (w.sessions existing).awaiting ++ [i] } rfl id (.inl rfl) (fun _ => .inl)
  have hprobe : Quiet w (w.startProbe i existing) :=
    hset.trans (Quiet.probes _ _ _ _ w.evictedAnswered)
  have hpump : ((w.startProbe i existing).sessions i).pump = (w.sessions i).pump := by
    unfold World.startProbe
    simp only [World.set_sessions]
    split
    · rename_i hi
      rw [hi]
    · rfl
  refine hprobe.trans (Quiet.set _ i _ rfl id (.inr ⟨?_, ?_, ?_⟩) (fun _ => .inl))
  · exact hprobe.opened ▸ hopen
  · intro hpast
    exact absurd (hpump ▸ hpast) hin
  · simp only [World.set_sessions, if_pos]
    rw [hprobe.activated, hprobe.registry]
    exact ⟨hact, hl⟩

theorem creditResponse (w : World) (i : Sid) : Quiet w (w.creditResponse i) := by
  unfold World.creditResponse
  split
  · exact Quiet.probes w w.events w.nextEvent w.probes w.evictedAnswered
  · rename_i j rest _
    have hset := Quiet.set w i { w.sessions i with awaiting := rest } rfl id (.inl rfl)
      (fun _ => .inl)
    exact hset.trans (Quiet.probes _ w.events w.nextEvent _ w.evictedAnswered)

theorem handleAliveCheckResponse (w : World) (i : Sid) :
    Quiet w (w.handleAliveCheckResponse i) := by
  have hcredit := Quiet.creditResponse w i
  unfold World.handleAliveCheckResponse
  dsimp only
  split
  · exact hcredit.trans (Quiet.probes _ _ _ _ _)
  · exact hcredit

end Quiet

/-! ## §2. The shape of a world. -/

/-- What holds in every run. -/
structure Shape (w : World) : Prop where
  /-- Only accepted sockets do anything. -/
  opened : ∀ i, (w.sessions i).pump ≠ .reading ∨ (w.sessions i).activated = true → i < w.opened
  past : ∀ i, (w.sessions i).pump.Past → (w.sessions i).finalized = true
  /-- A prober has no address, and probes a socket that has the one it wants. -/
  probing : ∀ i src existing, (w.sessions i).pump = .probing src existing →
    (w.sessions i).activated = false ∧ (w.sessions existing).testerAddr = some src
  registered : ∀ sa i, w.registry.lookup sa = some i →
    (w.sessions i).activated = true ∧ (w.sessions i).testerAddr = some sa
  /-- An activated socket holds a state of its tester. -/
  bound : ∀ i, (w.sessions i).activated = true → ∃ sa st, (w.sessions i).testerAddr = some sa
    ∧ (w.sessions i).state = some st ∧ st < w.core.nextState
    ∧ (w.core.states st).testerAddr = some sa
  free : ∀ i, (w.sessions i).activated = false →
    (w.sessions i).testerAddr = none ∧ (w.sessions i).state = none
  /-- The worker serves with the state of its socket. -/
  worker : ∀ i st, (w.sessions i).worker.state? = some st → (w.sessions i).state = some st
  table : ∀ sa st, w.core.sessionStates sa = some st →
    st < w.core.nextState ∧ (w.core.states st).testerAddr = some sa
  /-- Only finalized sockets give their state back, and none that could still
  take an address. -/
  released : ∀ i, (w.sessions i).released = true → (w.sessions i).finalized = true
    ∧ ((w.sessions i).activated = true ∨ (w.sessions i).pump.Past)

theorem shape_init (cfg : EcuConfig) : Shape (World.init cfg) where
  opened := by simp [World.init]
  past := by simp [World.init, Pump.Past]
  probing := by simp [World.init]
  registered := by simp [World.init]
  bound := by simp [World.init]
  free := by simp [World.init]
  worker := by simp [World.init, Worker.state?]
  table := by simp [World.init, EcuCore.init]
  released := by simp [World.init]

/-! ## §3. What else a step can do. -/

/-- The change of hands in one step, with the event that makes it. -/
inductive Change (cfg : EcuConfig) (w : World) : Event → World → Prop
  | quiet {e : Event} {w' : World} (h : Quiet w w') : Change cfg w e w'
  | accepted : Change cfg w .accept { w with opened := w.opened + 1 }
  /-- A fresh socket takes a free address; its pump is back in the loop. -/
  | occupied {i : Sid} {src activationType : Nat} {override : Option UInt8} {w' : World}
      (hpump : (w.sessions i).pump = .hooking src activationType)
      (hfresh : (w.sessions i).activated = false)
      (hfree : w.registry.lookup src = none ∨ w.registry.lookup src = some i)
      (h : Quiet ((w.setPump i .reading).occupy cfg i src) w') :
      Change cfg w (.hookReturned i override) w'
  /-- The owner did not answer: it is evicted, and the prober refused. -/
  | evicted {i : Sid} {src : SA} {existing : Sid} {ev : EventId} {answered : Bool} {w' : World}
      (hpump : (w.sessions i).pump = .probing src existing)
      (hprobe : w.probes i existing = some ⟨ev, .done false, answered⟩)
      (hfull : cfg.doip.maxConcurrentSessions
        ≤ SessionRegistry.len ((w.takeProbe i existing).evict cfg existing answered).registry)
      (h : Quiet ((w.takeProbe i existing).evict cfg existing answered) w') :
      Change cfg w (.probeReturned i) w'
  /-- The owner did not answer: the prober takes its place. -/
  | replaced {i : Sid} {src : SA} {existing : Sid} {ev : EventId} {answered : Bool} {w' : World}
      (hpump : (w.sessions i).pump = .probing src existing)
      (hprobe : w.probes i existing = some ⟨ev, .done false, answered⟩)
      (hroom : SessionRegistry.len ((w.takeProbe i existing).evict cfg existing answered).registry
        < cfg.doip.maxConcurrentSessions)
      (h : Quiet ((((w.takeProbe i existing).evict cfg existing answered).setPump i
        .reading).occupy cfg i src) w') :
      Change cfg w (.probeReturned i) w'
  /-- A request restarts the S3 timer of the state it is served with. -/
  | requested {i : Sid} {st : StateId} {w' : World} (hst : (w.sessions i).state = some st)
      (h : Quiet { w with core := w.core.setState st ((w.core.states st).refreshS3 cfg) } w') :
      Change cfg w (.takeRequest i) w'
  | dispatched {i : Sid} {st : StateId} {request : UdsRequest} {w' : World}
      (hst : (w.sessions i).worker.state? = some st)
      (h : Quiet { w with core := (dispatch cfg request st w.core).1 } w') :
      Change cfg w (.dispatch i) w'
  | expired {st : StateId} (harmed : (w.core.states st).s3Armed = true) :
      Change cfg w (.s3Expiry st) { w with core := w.core.s3Expiry cfg st }
  /-- A socket gives its state back. -/
  | released {i : Sid} {w' : World} (hpump : (w.sessions i).pump = .stoppingWorker)
      (h : Quiet (w.releaseState cfg i) w') : Change cfg w (.workerStopped i) w'
  | unregistered {i : Sid} {w' : World} (hpump : (w.sessions i).pump = .closingWriter)
      (h : Quiet (w.unregister i) w') : Change cfg w (.writerClosed i) w'

/-- The pump may as well return to the loop before its socket takes the address. -/
theorem Pumped.occupy {src : SA} (h : Pumped (w.occupy cfg i src) i w') :
    Pumped ((w.setPump i .reading).occupy cfg i src) i w' := by
  obtain ⟨wire, version, queue, pump, hcalm, rfl⟩ := h
  refine ⟨wire, version, queue, pump, hcalm, ?_⟩
  unfold World.occupy World.setPump World.set
  simp [Function.update_idem]

/-- What an eviction does to the sockets. -/
theorem evict_sessions (cfg : EcuConfig) (w : World) (i j : Sid) (answered : Bool) :
    ∃ worker, (w.evict cfg i answered).sessions j =
      if j = i then
        { w.sessions i with finalized := true, released := true, worker := worker }
      else w.sessions j := by
  unfold World.evict World.unregister World.releaseState World.cancelWorker World.setWorker
    World.finalize
  simp only [World.set_sessions, World.set_set, if_pos]
  split
  · exact ⟨_, rfl⟩
  · exact ⟨.idle, rfl⟩

/-- A closing socket takes nothing but its own entry out of the registry. -/
theorem unregister_lookup (w : World) (i : Sid) (sa : SA) :
    (w.unregister i).registry.lookup sa
      = if (w.sessions i).testerAddr = some sa ∧ w.registry.lookup sa = some i then none
        else w.registry.lookup sa := by
  unfold World.unregister
  dsimp only
  split
  · rename_i sa' haddr
    rw [SessionRegistry.unregister, OwnerTable.lookup_unregister]
    by_cases hsa : sa = sa'
    · subst hsa
      simp [haddr]
    · simp [haddr, hsa, Ne.symm hsa]
  · rename_i haddr
    simp [haddr]

/-- Nothing to take out: another socket has replaced the entry. -/
theorem unregister_replaced {sa : SA} (haddr : (w.sessions i).testerAddr = some sa)
    (hl : w.registry.lookup sa ≠ some i) : (w.unregister i).registry = w.registry := by
  unfold World.unregister SessionRegistry.unregister OwnerTable.unregister
  dsimp only
  rw [haddr]
  exact if_neg hl

theorem evict_live (w : World) (i j : Sid) (answered : Bool) (sa : SA) :
    (w.evict cfg i answered).Live j sa ↔ j ≠ i ∧ w.Live j sa := by
  obtain ⟨worker, h⟩ := evict_sessions cfg w i j answered
  unfold World.Live
  rw [h]
  by_cases hj : j = i
  · simp [hj]
  · simp [hj]

theorem evict_core (w : World) (i : Sid) (answered : Bool) :
    (w.evict cfg i answered).core = (w.releaseState cfg i).core := by
  unfold World.evict World.unregister World.releaseState World.cancelWorker World.setWorker
    World.finalize
  simp

/-- A socket's end deletes at most the entry of its own state, when that is tidy. -/
theorem releaseState_entry {sa : SA} {st : StateId} (hl : w.core.sessionStates sa = some st)
    (i : Sid) :
    (w.releaseState cfg i).core.sessionStates sa = some st
      ∨ (w.sessions i).testerAddr = some sa ∧ (w.sessions i).state = some st
        ∧ (w.core.states st).Tidy cfg := by
  unfold World.releaseState
  dsimp only
  split
  · rename_i st' hst
    rw [EcuCore.maybeDrop_sessionStates]
    split
    · rename_i hd
      obtain ⟨haddr, hentry, htidy⟩ := EcuCore.dropped_eq_some.mp hd
      rw [hl, Option.some.injEq] at hentry
      subst hentry
      exact .inr ⟨haddr, hst, htidy⟩
    · exact .inl hl
  · exact .inl hl

/-- It leaves every state that is not tidy alone. -/
theorem releaseState_states (cfg : EcuConfig) (w : World) (i : Sid) (st : StateId) :
    (w.releaseState cfg i).core.states st = w.core.states st
      ∨ (w.core.states st).Tidy cfg
        ∧ (w.releaseState cfg i).core.states st = (w.core.states st).cancelS3 := by
  unfold World.releaseState
  dsimp only
  split
  · rename_i st' hst
    rcases EcuCore.maybeDrop_states cfg w.core (w.sessions i).testerAddr st' st with
      h | ⟨rfl, htidy, h⟩
    · exact .inl h
    · exact .inr ⟨htidy, h⟩
  · exact .inl rfl

theorem evict_registry (w : World) (i : Sid) (answered : Bool) :
    (w.evict cfg i answered).registry = (w.unregister i).registry := by
  unfold World.evict World.unregister World.releaseState World.cancelWorker World.setWorker
    World.finalize
  simp

theorem evict_pump (w : World) (i j : Sid) (answered : Bool) :
    ((w.evict cfg i answered).sessions j).pump = (w.sessions j).pump := by
  obtain ⟨worker, h⟩ := evict_sessions cfg w i j answered
  rw [h]
  split
  · rename_i hj
    rw [hj]
  · rfl

theorem evict_testerAddr (w : World) (i j : Sid) (answered : Bool) :
    ((w.evict cfg i answered).sessions j).testerAddr = (w.sessions j).testerAddr := by
  obtain ⟨worker, h⟩ := evict_sessions cfg w i j answered
  rw [h]
  split
  · rename_i hj
    rw [hj]
  · rfl

theorem evict_activated (w : World) (i j : Sid) (answered : Bool) :
    ((w.evict cfg i answered).sessions j).activated = (w.sessions j).activated := by
  obtain ⟨worker, h⟩ := evict_sessions cfg w i j answered
  rw [h]
  split
  · rename_i hj
    rw [hj]
  · rfl

/-- **Every step is one of these changes.** -/
theorem step_change {e : Event} (hw : Shape w) (h : step cfg w e = some w') :
    Change cfg w e w' := by
  cases step_effect h with
  | accepted => exact .accepted
  -- a frame either moves its own pump or is the answer to a probe, which only sets an event
  | frameRead i raw w' hopen hpump hread =>
      rcases readFrame_spec hread with hp | ⟨version, rfl⟩
      · exact .quiet (.pumped hp hopen (by simp [hpump, Pump.Past]))
      · have hset := Quiet.set w i { w.sessions i with currentReqVersion := version } rfl id
          (.inl rfl) (fun _ => .inl)
        exact .quiet (hset.trans (Quiet.handleAliveCheckResponse _ i))
  | loopEnded i hopen _ => exact .quiet (Quiet.leaveLoop w i hopen)
  | hookReturned i override src activationType hpump =>
      have hopen : i < w.opened := hw.opened i (.inl (by simp [hpump]))
      have hin : ¬ (w.sessions i).pump.Past := by simp [hpump, Pump.Past]
      -- refused, sent to probe the owner, or let in at once: one disjunct for each end of the
      -- handler
      rcases handleRoutingActivation_spec cfg w i src activationType override with
        hp | ⟨existing, ht, heq⟩ | ⟨hact, hl, hp⟩
      · exact .quiet (.pumped hp hopen hin)
      · obtain ⟨hact, hl, _⟩ := probeTarget_eq_some ht
        rw [heq]
        exact .quiet (Quiet.startProbe w hact hl hopen hin)
      · refine .occupied hpump hact hl (.pumped hp.occupy hopen ?_)
        simp [World.occupy, World.setPump, Pump.Past]
  | sentLoop i hpump =>
      exact .quiet (.pumped (setPump_pumped w i .reading trivial)
        (hw.opened i (.inl (by simp [hpump]))) (by simp [hpump, Pump.Past]))
  | sentClose i hpump =>
      exact .quiet (Quiet.leaveLoop w i (hw.opened i (.inl (by simp [hpump]))))
  | sentEnqueue i request version hpump =>
      exact .quiet (.pumped (enqueue_pumped w i _ _)
        (hw.opened i (.inl (by simp [hpump]))) (by simp [hpump, Pump.Past]))
  | probeSent i o event slot answered _ _ =>
      exact .quiet (Quiet.probes w w.events w.nextEvent _ w.evictedAnswered)
  | probeUnwaited i o event answered _ _ => exact .quiet (Quiet.endProbe w i o _ false)
  | probeSendFailed i o event answered _ => exact .quiet (Quiet.endProbe w i o _ false)
  | probeWoken i o event slot answered _ _ => exact .quiet (Quiet.endProbe w i o _ true)
  | probeTimedOut i o event slot answered _ => exact .quiet (Quiet.endProbe w i o _ false)
  | probeReturned i existing src event alive answered hpump hprobe =>
      have htake := Quiet.takeProbe w i existing
      have hopen : i < w.opened := hw.opened i (.inl (by simp [hpump]))
      have hin : ¬ (w.sessions i).pump.Past := by simp [hpump, Pump.Past]
      -- after a probe: refused as the owner lives, refused as the table is full, or let in
      rcases resumeActivation_spec cfg (w.takeProbe i existing) i src existing alive
        answered with ⟨_, hp⟩ | ⟨rfl, ⟨hfull, hp⟩ | ⟨hroom, hp⟩⟩
      · exact .quiet (htake.trans (.pumped hp hopen hin))
      · refine .evicted hpump hprobe hfull (.pumped hp hopen ?_)
        rw [evict_pump]
        exact hin
      · refine .replaced hpump hprobe hroom (.pumped hp.occupy hopen ?_)
        simp [World.occupy, World.setPump, Pump.Past]
  -- without session state the request is dropped; with it the worker starts serving
  | requestTaken i request version rest hworker hqueue =>
      unfold World.takeRequest
      dsimp only
      split
      · rename_i st hst
        refine .requested hst (Quiet.set _ i _ rfl id (.inl rfl) ?_)
        intro st' hst'
        exact .inr (hst.trans hst')
      · exact .quiet (Quiet.set w i _ rfl id (.inl rfl) (fun _ => .inl))
  | dispatched i request version st p2 p2' hworker _ =>
      -- the worker keeps the state it serves, so no state changes hands
      have hserving : (w.sessions i).worker.state? = some st := by rw [hworker]; rfl
      have hquiet : Quiet { w with core := (dispatch cfg request st w.core).1 }
          { w.setWorker i (.serving request version st p2') with
            core := (dispatch cfg request st w.core).1 } := by
        refine Quiet.set _ i _ rfl id (.inl rfl) ?_
        intro st' hst'
        exact .inl (by rw [hworker]; exact hst')
      exact .dispatched hserving hquiet
  | dispatchedLast i request st hworker =>
      have hserving : (w.sessions i).worker.state? = some st := by rw [hworker]; rfl
      have hquiet : Quiet { w with core := (dispatch cfg request st w.core).1 }
          { w.setWorker i .stopped with core := (dispatch cfg request st w.core).1 } :=
        Quiet.set _ i _ rfl id (.inl rfl) (by simp [Worker.state?])
      exact .dispatched hserving hquiet
  | resolved i e request version st p2 p2' hworker _ _ =>
      -- a response moves the worker and its own queue only
      exact .quiet (.worked (advanceWorker_worked (by rw [hworker]; rfl) _ p2'))
  | responderStopped i request version st p2 response _ _ _ =>
      exact .quiet (Quiet.set w i _ rfl id (.inl rfl) (by simp [Worker.state?]))
  | responderFailed i request version st p2 _ _ =>
      exact .quiet (Quiet.set w i _ rfl id (.inl rfl) (by simp [Worker.state?]))
  | inactive i _ _ => exact .quiet (Quiet.finalize w i)
  | s3Expired st harmed => exact .expired harmed
  | supervisorStopped i hpump =>
      have hfin := hw.past i (by rw [hpump]; trivial)
      have hcancel := Quiet.cancelWorker w i
      -- a socket past its loop is finalized
      exact .quiet (hcancel.trans (Quiet.setPump _ i trivial (hcancel.finalized i hfin)
        (hw.opened i (.inl (by simp [hpump])))))
  | workerStopped i hpump =>
      have hfin := hw.past i (by rw [hpump]; trivial)
      have hlast : ((w.setWorker i .stopped).releaseState cfg i).setPump i .closingWriter
          = (w.releaseState cfg i).set i { (w.releaseState cfg i).sessions i with
              worker := .stopped, pump := .closingWriter } := by
        unfold World.releaseState World.setWorker World.setPump World.set
        simp [Function.update_idem]
      refine .released hpump ?_
      -- the stop of the worker and the move of the pump may as well come last
      rw [hlast]
      refine Quiet.set _ i _ rfl id (.inr ⟨?_, ?_, ?_⟩) (by simp [Worker.state?])
      · exact hw.opened i (.inl (by simp [hpump]))
      · simp [Pump.Past]
      · simpa [World.releaseState] using hfin
  | writerClosed i hpump =>
      have hfin := hw.past i (by rw [hpump]; trivial)
      exact .unregistered hpump
        (Quiet.setPump _ i trivial hfin (hw.opened i (.inl (by simp [hpump]))))

/-! ## §4. Every run keeps the shape. -/

namespace Shape

theorem quiet (hw : Shape w) (h : Quiet w w') : Shape w' where
  opened := by
    intro i hi
    rw [h.opened]
    rcases hi with hi | hi
    · rcases h.pump i with hp | ⟨hopen, _⟩
      · exact hw.opened i (.inl (hp ▸ hi))
      · exact hopen
    · exact hw.opened i (.inr (h.activated i ▸ hi))
  past := by
    intro i hi
    rcases h.pump i with hp | ⟨_, _, hp⟩
    · exact h.finalized i (hw.past i (hp ▸ hi))
    · split at hp
      all_goals
        first
        | exact hp
        | rename_i hp'
          rw [hp'] at hi
          exact hi.elim
  probing := by
    intro i src existing hi
    rw [h.activated, h.testerAddr]
    rcases h.pump i with hp | ⟨_, _, hp⟩
    · exact hw.probing i src existing (hp ▸ hi)
    -- a probe that has just started has looked its owner up in the registry
    · rw [hi] at hp
      exact ⟨hp.1, (hw.registered src existing hp.2).2⟩
  registered := by
    intro sa i hl
    rw [h.registry] at hl
    rw [h.activated, h.testerAddr]
    exact hw.registered sa i hl
  bound := by
    intro i hi
    rw [h.activated] at hi
    rw [h.testerAddr, h.state, h.core]
    exact hw.bound i hi
  free := by
    intro i hi
    rw [h.activated] at hi
    rw [h.testerAddr, h.state]
    exact hw.free i hi
  worker := by
    intro i st hst
    rw [h.state]
    exact (h.worker i st hst).elim (hw.worker i st) id
  table := by
    intro sa st hl
    rw [h.core] at hl ⊢
    exact hw.table sa st hl
  released := by
    intro i hi
    rw [h.released] at hi
    obtain ⟨hfin, hact⟩ := hw.released i hi
    refine ⟨h.finalized i hfin, ?_⟩
    rw [h.activated]
    rcases hact with hact | hpast
    · exact .inl hact
    · rcases h.pump i with hp | ⟨_, hstay, _⟩
      · exact .inr (hp ▸ hpast)
      · exact .inr (hstay hpast)

/-- The core changes, but states keep their tester and the table only loses. -/
theorem core {c : EcuCore} (hw : Shape w) (h : EcuCore.Shrinks w.core c) :
    Shape { w with core := c } where
  opened := hw.opened
  past := hw.past
  probing := hw.probing
  registered := hw.registered
  bound := by
    intro i hi
    dsimp only
    simp only [h.nextState, h.testerAddr]
    exact hw.bound i hi
  free := hw.free
  worker := hw.worker
  table := by
    intro sa st hl
    dsimp only at hl ⊢
    rw [h.nextState, h.testerAddr]
    exact hw.table sa st (h.table sa st hl)
  released := hw.released

theorem releaseState (hw : Shape w) (hfin : (w.sessions i).finalized = true)
    (hold : (w.sessions i).activated = true ∨ (w.sessions i).pump.Past) :
    Shape (w.releaseState cfg i) := by
  have hmark : Shape (w.set i { w.sessions i with released := true }) := by
    constructor <;> simp only [World.set_sessions, World.set_registry, World.set_core,
      World.set_opened]
    · intro j hj
      exact hw.opened j (by split at hj <;> simp_all)
    · intro j hj
      have := hw.past j (by split at hj <;> simp_all)
      split <;> simp_all
    · intro j src existing hj
      have := hw.probing j src existing (by split at hj <;> simp_all)
      split <;> split <;> simp_all
    · intro sa j hl
      have := hw.registered sa j hl
      split <;> simp_all
    · intro j hj
      have := hw.bound j (by split at hj <;> simp_all)
      split <;> simp_all
    · intro j hj
      have := hw.free j (by split at hj <;> simp_all)
      split <;> simp_all
    · intro j st hj
      have := hw.worker j st (by split at hj <;> simp_all)
      split <;> simp_all
    · exact hw.table
    · intro j hj
      split
      · exact ⟨hfin, hold⟩
      · rename_i hne
        rw [if_neg hne] at hj
        exact hw.released j hj
  refine hmark.core ?_
  split
  · exact EcuCore.Shrinks.maybeDrop cfg _ _ _
  · exact EcuCore.Shrinks.refl _

theorem unregister (hw : Shape w) (i : Sid) : Shape (w.unregister i) := by
  refine { hw with registered := ?_, probing := hw.probing }
  intro sa j hl
  refine hw.registered sa j ?_
  unfold World.unregister at hl
  dsimp only at hl
  split at hl
  · rw [SessionRegistry.unregister, OwnerTable.lookup_unregister] at hl
    split at hl
    · cases hl
    · exact hl
  · exact hl

theorem evict (cfg : EcuConfig) (hw : Shape w) (hact : (w.sessions i).activated = true)
    (answered : Bool) : Shape (w.evict cfg i answered) := by
  have hquiet := Quiet.stopWork w i
  have hfin : (((w.finalize i).cancelWorker i).sessions i).finalized = true :=
    (Quiet.cancelWorker _ i).finalized i (by simp [World.finalize])
  have hrel : Shape (((w.finalize i).cancelWorker i).releaseState cfg i) :=
    (hw.quiet hquiet).releaseState hfin (.inl (hquiet.activated i ▸ hact))
  exact (hrel.unregister i).quiet (Quiet.probes _ _ _ _ _)

/-- Only an activated socket has a state. -/
theorem activated_of_state {st : StateId} (hw : Shape w) (hst : (w.sessions i).state = some st) :
    (w.sessions i).activated = true := by
  cases hact : (w.sessions i).activated with
  | true => rfl
  | false =>
      rw [(hw.free i hact).2] at hst
      cases hst

/-- Only an activated socket has an address. -/
theorem activated_of_testerAddr {sa : SA} (hw : Shape w)
    (haddr : (w.sessions i).testerAddr = some sa) : (w.sessions i).activated = true := by
  cases hact : (w.sessions i).activated with
  | true => rfl
  | false =>
      rw [(hw.free i hact).1] at haddr
      cases haddr

/-- The sockets not yet accepted are not activated. -/
theorem unused_of_opened (hw : Shape w) (hopen : w.opened ≤ i) :
    (w.sessions i).activated = false := by
  cases hact : (w.sessions i).activated with
  | false => rfl
  | true => exact absurd (hw.opened i (.inr hact)) (Nat.not_lt.mpr hopen)

/-- A socket in the loop without an address has nothing to give back. -/
theorem unreleased (hw : Shape w) (hact : (w.sessions i).activated = false)
    (hin : ¬ (w.sessions i).pump.Past) : (w.sessions i).released = false := by
  cases hrel : (w.sessions i).released with
  | false => rfl
  | true =>
      rcases (hw.released i hrel).2 with h | h
      · rw [hact] at h
        cases h
      · exact absurd h hin

/-- A socket that takes a free address has its pump back in the loop. -/
theorem hooking_reads {src activationType : Nat} (hw : Shape w)
    (hpump : (w.sessions i).pump = .hooking src activationType) :
    Quiet w (w.setPump i .reading) :=
  Quiet.setReading w i (hw.opened i (.inl (by simp [hpump]))) (by simp [hpump, Pump.Past])

section
variable {src : SA} {existing : Sid} (cfg : EcuConfig) (hw : Shape w)
  (hpump : (w.sessions i).pump = .probing src existing) (answered : Bool)
include hw hpump

/-- The owner that a prober found is evicted. -/
theorem probed_evict : Shape ((w.takeProbe i existing).evict cfg existing answered) :=
  (hw.quiet (Quiet.takeProbe w i existing)).evict cfg
    (hw.activated_of_testerAddr (hw.probing i src existing hpump).2) answered

/-- Behind the eviction the prober's pump is back in the loop. -/
theorem prober_reads : Quiet ((w.takeProbe i existing).evict cfg existing answered)
    (((w.takeProbe i existing).evict cfg existing answered).setPump i .reading) := by
  refine Quiet.setReading _ i (hw.opened i (.inl (by simp [hpump]))) ?_
  rw [evict_pump]
  exact hpump ▸ id

/-- The eviction of the owner does not give the prober an address. -/
theorem prober_fresh :
    (((w.takeProbe i existing).evict cfg existing answered).sessions i).activated = false := by
  rw [evict_activated]
  exact (hw.probing i src existing hpump).1

end

/-- A fresh socket takes an address. -/
theorem occupy (hw : Shape w) (hact : (w.sessions i).activated = false) (hopen : i < w.opened)
    (hpump : (w.sessions i).pump = .reading) (src : SA) : Shape (w.occupy cfg i src) := by
  have hfree := hw.free i hact
  have hspec := EcuCore.sessionFor_spec cfg w.core src
  have hfresh : (w.core.sessionFor cfg src).2 < (w.core.sessionFor cfg src).1.nextState
      ∧ ((w.core.sessionFor cfg src).1.states (w.core.sessionFor cfg src).2).testerAddr
        = some src := by
    rcases hspec.origin with ⟨hentry, hcore⟩ | ⟨_, hst, hnext, htester⟩
    · rw [hcore]
      exact hw.table src _ hentry
    · exact ⟨by rw [hst, hnext]; exact Nat.lt_succ_self _, htester⟩
  constructor <;> simp only [World.occupy, World.set_sessions, World.set_opened]
  -- each part at the socket itself, where it is new, and at the others, where it is as before
  · intro j hj
    by_cases hij : j = i
    · exact hij ▸ hopen
    · exact hw.opened j (by simpa [hij] using hj)
  · intro j hj
    by_cases hij : j = i
    · simp [hij, hpump, Pump.Past] at hj
    · simpa [hij] using hw.past j (by simpa [hij] using hj)
  · intro j src' existing hj
    by_cases hij : j = i
    · simp [hij, hpump] at hj
    · have hp := hw.probing j src' existing (by simpa [hij] using hj)
      refine ⟨by simpa [hij] using hp.1, ?_⟩
      split
      · rename_i he
        rw [he, hfree.1] at hp
        cases hp.2
      · exact hp.2
  · intro sa j hl
    rw [SessionRegistry.register, OwnerTable.lookup_register] at hl
    split at hl
    · rename_i hsa
      -- the address is the socket's own now
      cases hl
      simp [hsa]
    · have hr := hw.registered sa j hl
      have hij : j ≠ i := by
        rintro rfl
        rw [hact] at hr
        cases hr.1
      simpa [hij] using hr
  · intro j hj
    by_cases hij : j = i
    · exact ⟨src, _, by simp [hij], by simp [hij], hfresh⟩
    -- a socket bound before keeps its state: the table only grows
    · obtain ⟨sa, st, haddr, hst, hlt, htester⟩ := hw.bound j (by simpa [hij] using hj)
      refine ⟨sa, st, by simpa [hij] using haddr, by simpa [hij] using hst, ?_⟩
      rw [hspec.states st hlt]
      exact ⟨Nat.lt_of_lt_of_le hlt hspec.grows, htester⟩
  · intro j hj
    by_cases hij : j = i
    · simp [hij] at hj
    · simpa [hij] using hw.free j (by simpa [hij] using hj)
  · intro j st hst
    by_cases hij : j = i
    · have hw' := hw.worker i st (by simpa [hij] using hst)
      -- a fresh socket has served nothing
      rw [hfree.2] at hw'
      cases hw'
    · simpa [hij] using hw.worker j st (by simpa [hij] using hst)
  · intro sa st hl
    by_cases hsa : sa = src
    · subst hsa
      rw [hspec.entry, Option.some.injEq] at hl
      exact hl ▸ hfresh
    · rw [hspec.others sa hsa] at hl
      obtain ⟨hlt, htester⟩ := hw.table sa st hl
      rw [hspec.states st hlt]
      exact ⟨Nat.lt_of_lt_of_le hlt hspec.grows, htester⟩
  · intro j hj
    by_cases hij : j = i
    · have hr := hw.released i (by simpa [hij] using hj)
      exact ⟨by simpa [hij] using hr.1, .inl (by simp [hij])⟩
    · simpa [hij] using hw.released j (by simpa [hij] using hj)

theorem step {e : Event} (hw : Shape w) (h : VirtualEcu.step cfg w e = some w') : Shape w' := by
  cases step_change hw h with
  | quiet h => exact hw.quiet h
  | accepted =>
      refine { hw with opened := fun i hi => Nat.lt_succ_of_lt (hw.opened i hi) }
  | @occupied i src activationType override _ hpump hfresh hfree h =>
      have hopen := hw.opened i (.inl (by simp [hpump]))
      have hread := hw.hooking_reads hpump
      refine ((hw.quiet hread).occupy ?_ hopen ?_ src).quiet h
      · exact (hread.activated i).trans hfresh
      · simp [World.setPump]
  | @evicted i src existing ev answered _ hpump hprobe hfull h =>
      exact (hw.probed_evict cfg hpump answered).quiet h
  | @replaced i src existing ev answered _ hpump hprobe hroom h =>
      have hopen := hw.opened i (.inl (by simp [hpump]))
      have hread := hw.prober_reads cfg hpump answered
      refine (((hw.probed_evict cfg hpump answered).quiet hread).occupy ?_ hopen ?_ src).quiet h
      · exact (hread.activated i).trans (hw.prober_fresh cfg hpump answered)
      · simp [World.setPump]
  | @requested i st _ hst h =>
      have hrefresh : ((w.core.states st).refreshS3 cfg).testerAddr
          = (w.core.states st).testerAddr := by
        obtain ⟨armed, heq⟩ := SessionState.refreshS3_eq cfg (w.core.states st)
        rw [heq]
      exact (hw.core (EcuCore.Shrinks.setState _ st hrefresh)).quiet h
  | @dispatched i st request _ hst h => exact (hw.core (dispatch_shrinks _ _ _)).quiet h
  | expired harmed => exact hw.core (EcuCore.Shrinks.s3Expiry _ _)
  | @released i _ hpump h =>
      have hpast : (w.sessions i).pump.Past := by rw [hpump]; trivial
      exact (hw.releaseState (hw.past i hpast) (.inr hpast)).quiet h
  | unregistered hpump h => exact (hw.unregister _).quiet h

end Shape

/-- What a socket keeps once it is activated. -/
structure Stays (s s' : Session) : Prop where
  activated : s'.activated = s.activated
  testerAddr : s'.testerAddr = s.testerAddr
  state : s'.state = s.state
  released : s.released = true → s'.released = true

namespace Stays

theorem refl (s : Session) : Stays s s := ⟨rfl, rfl, rfl, id⟩

theorem trans {s s' s'' : Session} (h : Stays s s') (h' : Stays s' s'') : Stays s s'' :=
  ⟨h'.activated.trans h.activated, h'.testerAddr.trans h.testerAddr, h'.state.trans h.state,
    fun hr => h'.released (h.released hr)⟩

theorem quiet (h : Quiet w w') (j : Sid) : Stays (w.sessions j) (w'.sessions j) :=
  ⟨h.activated j, h.testerAddr j, h.state j, fun hr => (h.released j).trans hr⟩

theorem evict (w : World) (i j : Sid) (answered : Bool) :
    Stays (w.sessions j) ((w.evict cfg i answered).sessions j) := by
  obtain ⟨worker, h⟩ := evict_sessions cfg w i j answered
  rw [h]
  split
  · rename_i hj
    rw [hj]
    exact ⟨rfl, rfl, rfl, fun _ => rfl⟩
  · exact refl _

theorem occupy (w : World) {i j : Sid} (hne : j ≠ i) (src : SA) :
    Stays (w.sessions j) ((w.occupy cfg i src).sessions j) := by
  unfold World.occupy
  simp only [World.set_sessions, if_neg hne]
  exact refl _

theorem releaseState (w : World) (i j : Sid) :
    Stays (w.sessions j) ((w.releaseState cfg i).sessions j) := by
  unfold World.releaseState
  simp only [World.set_sessions]
  split
  · rename_i hj
    rw [hj]
    exact ⟨rfl, rfl, rfl, fun _ => rfl⟩
  · exact refl _

/-- Every step leaves an activated socket its address and its state. -/
theorem step {e : Event} (hw : Shape w) (h : VirtualEcu.step cfg w e = some w')
    (hact : (w.sessions j).activated = true) : Stays (w.sessions j) (w'.sessions j) := by
  cases step_change hw h with
  | quiet h => exact quiet h j
  | accepted => exact refl _
  | @occupied i src activationType override _ hpump hfresh hfree h =>
      have hne : j ≠ i := by
        rintro rfl
        rw [hfresh] at hact
        cases hact
      exact ((quiet (hw.hooking_reads hpump) j).trans (occupy _ hne src)).trans (quiet h j)
  | @evicted i src existing ev answered _ hpump hprobe hfull h =>
      exact (evict (w.takeProbe i existing) existing j answered).trans (quiet h j)
  | @replaced i src existing ev answered _ hpump hprobe hroom h =>
      have hne : j ≠ i := by
        rintro rfl
        rw [(hw.probing j src existing hpump).1] at hact
        cases hact
      have hevict : Stays (w.sessions j)
          (((w.takeProbe i existing).evict cfg existing answered).sessions j) :=
        evict (w.takeProbe i existing) existing j answered
      have hread := quiet (hw.prober_reads cfg hpump answered) j
      exact ((hevict.trans hread).trans (occupy _ hne src)).trans (quiet h j)
  | requested hst h => exact quiet h j
  | dispatched hst h => exact quiet h j
  | expired harmed => exact refl _
  | @released i _ hpump h => exact (releaseState w i j).trans (quiet h j)
  | unregistered hpump h => exact quiet h j

end Stays

/-- The shape holds at the end of every run. -/
theorem shape_run (es : List Event)
    (h : Transition.exec (step cfg) (World.init cfg) es = some w) : Shape w :=
  Transition.exec_invariant Shape (fun _ _ _ hw hstep => Shape.step hw hstep) es _ w
    (shape_init cfg) h

end DoipPlayground.VirtualEcu
