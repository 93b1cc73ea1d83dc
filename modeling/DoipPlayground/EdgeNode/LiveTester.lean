/-
  DoipPlayground.EdgeNode.LiveTester
  ──────────────────────────────────
  **WHAT AN ANSWERED ALIVE CHECK IS WORTH.**

  A probe is answered when the owner's tester puts an Alive Check Response
  with the registered address on the owner's socket while the probe is
  out.  Only the owner's session loop can see it there, and that loop also
  awaits whole diagnostic exchanges.  Even where it reads, the answer and the
  timer can become ready in one turn of the event loop, and then the timer
  may be first.

    • `OwnerListening` — no answer is left unheard when the timer fires,
    • `live_tester_kept` — then an answered probe returns True, nobody is
      evicted on it and the contender is denied,
    • `busy_owner_evicted` — an owner whose loop is inside an exchange is
      evicted although its tester answered.
-/
import DoipPlayground.EdgeNode.Exclusivity

namespace DoipPlayground.EdgeNode

/-! ## §1. Conditions on a schedule. -/

/-- When a probe's timer fires, its event is not set, and no Alive Check
Response with the registered address lies unread on the owner's socket, unless
the owner is closing; and no send of a request raises after its answer came.
A loop that is held in an exchange reads nothing, and one that has just set
the event may still be behind the timer. -/
def OwnerListening (w : World) : Event → Prop
  | .probeTimeout _ o =>
      (w.sessions o).closing = true
        ∨ (w.sessions o).aliveProbeEvent ≠ some true
          ∧ ∀ f ∈ (w.sessions o).inbox, (w.sessions o).answers f = false
  | .probeSendFailed i o => (w.probes i o).map Probe.answered ≠ some true
  | _ => True

/-- No probe times out while its event is set or while the owner's loop has a
frame to read.  This is more than the event loop does: where the socket and
the timer become ready in one turn, it may run the timer first. -/
def Prompt (w : World) : Event → Prop
  | .probeTimeout _ o =>
      (w.sessions o).aliveProbeEvent ≠ some true
        ∧ ¬ ((w.sessions o).point = .reading ∧ (w.sessions o).inbox ≠ [])
  | _ => True

instance Prompt.decidable (w : World) (e : Event) : Decidable (Prompt w e) := by
  rcases e <;> (unfold Prompt; infer_instance)

instance OwnerListening.decidable (w : World) (e : Event) : Decidable (OwnerListening w e) := by
  rcases e <;> (unfold OwnerListening; infer_instance)

/-- What a tester that answers its probes may rely on. -/
structure LiveTesterKept (cfg : DoIPConfig) (w : World) : Prop where
  /-- An answered probe returned True, unless its owner is closing by now. -/
  alive : ∀ i o p a, w.probes i o = some p → p.answered = true → p.phase = .done a →
    a = true ∨ (w.sessions o).closing = true
  /-- No owner was evicted on an answered probe. -/
  kept : w.evictedLive = []
  /-- The contender is denied with code 0x03 and the owner stays. -/
  denied : ∀ i sa o p a, (w.sessions i).point = .probing sa o → w.probes i o = some p →
    p.answered = true → p.phase = .done a → w.registry.lookup sa = some o →
    (w.sessions i).closing = false →
    ∃ w', step cfg w (.probeReturned i) = some w'
      ∧ (w'.sessions i).responses = (w.sessions i).responses ++ [0x03]
      ∧ (w'.sessions i).point = .denying
      ∧ w'.registry = w.registry ∧ (w'.sessions o).closing = false

/-! ## §2. The invariant: where an answer is. -/

/-- An answer is in the owner's inbox, or it set the event, or the owner is
closing. -/
structure Heard (w : World) : Prop where
  /-- A probe whose request is out owns the lock and the event. -/
  body : ∀ i o p, w.probes i o = some p → p.inBody = true →
    (w.sessions o).aliveProbeLock = some i ∧ (w.sessions o).aliveProbePending = true
      ∧ (w.sessions o).aliveProbeEvent.isSome = true ∧ (w.sessions o).activated = true
  queued : ∀ i o p, w.probes i o = some p → p.phase = .queued → p.answered = false
  heard : ∀ i o p, w.probes i o = some p → p.inBody = true → p.answered = true →
    (w.sessions o).closing = true ∨ (w.sessions o).aliveProbeEvent = some true
      ∨ ∃ f ∈ (w.sessions o).inbox, (w.sessions o).answers f = true
  done : ∀ i o p a, w.probes i o = some p → p.answered = true → p.phase = .done a →
    a = true ∨ (w.sessions o).closing = true
  kept : w.evictedLive = []

theorem heard_init : Heard World.init := by
  constructor <;> simp [World.init]

variable {cfg : DoIPConfig} {w w' : World} {i o : Sid} {sa : SA}

/-- The changes of a session that lose no answer. -/
structure Session.Keeps (s s' : Session) : Prop where
  lock : s'.aliveProbeLock = s.aliveProbeLock
  pending : s'.aliveProbePending = s.aliveProbePending
  event : s'.aliveProbeEvent = s.aliveProbeEvent
    ∨ s'.aliveProbeEvent = s.aliveProbeEvent.map (fun _ => true)
  active : s.activated = true → s'.activated = true ∧ s'.testerLogicalAddr = s.testerLogicalAddr
  inbox : s'.inbox = s.inbox
  closing : s.closing = true → s'.closing = true

/-- Steps that lose no answer: at most they queue new probes. -/
structure Quiet (w w' : World) : Prop where
  probes : ∀ i o p, w'.probes i o = some p → w.probes i o = some p ∨ p = ⟨.queued, false⟩
  session : ∀ o, (w.sessions o).Keeps (w'.sessions o)
  kept : w'.evictedLive = w.evictedLive

theorem Session.Keeps.refl (s : Session) : s.Keeps s :=
  ⟨rfl, rfl, .inl rfl, fun h => ⟨h, rfl⟩, rfl, id⟩

theorem Heard.quiet (h : Heard w) (hq : Quiet w w') : Heard w' := by
  constructor
  · intro i o p hp hb
    rcases hq.probes i o p hp with hp | rfl
    · obtain ⟨hl, hpend, he, ha⟩ := h.body i o p hp hb
      have hk := hq.session o
      refine ⟨hk.lock.trans hl, hk.pending.trans hpend, ?_, (hk.active ha).1⟩
      rcases hk.event with hev | hev
      · rw [hev]; exact he
      · rw [hev, Option.isSome_map]; exact he
    · cases hb
  · intro i o p hp hph
    rcases hq.probes i o p hp with hp | rfl
    · exact h.queued i o p hp hph
    · rfl
  · intro i o p hp hb hans
    rcases hq.probes i o p hp with hp | rfl
    · have hk := hq.session o
      have hact := (h.body i o p hp hb).2.2.2
      rcases h.heard i o p hp hb hans with hc | he | ⟨f, hf, hfa⟩
      · exact .inl (hk.closing hc)
      · refine .inr (.inl ?_)
        rcases hk.event with hev | hev
        · exact hev.trans he
        · rw [hev, he]
          rfl
      · refine .inr (.inr ⟨f, hk.inbox ▸ hf, ?_⟩)
        unfold Session.answers at hfa ⊢
        rw [(hk.active hact).2]
        exact hfa
    · cases hans
  · intro i o p a hp hans hph
    rcases hq.probes i o p hp with hp | rfl
    · rcases h.done i o p a hp hans hph with ha | hc
      · exact .inl ha
      · exact .inr ((hq.session o).closing hc)
    · cases hans
  · rw [hq.kept]
    exact h.kept

/-! ## §3. Quiet steps. -/

theorem Quiet.set (w : World) (i : Sid) (s : Session) (hs : (w.sessions i).Keeps s) :
    Quiet w (w.set i s) where
  probes := fun _ _ _ hp => .inl hp
  session := by
    intro o
    rw [World.set_sessions]
    split
    · subst o
      exact hs
    · exact Session.Keeps.refl _
  kept := rfl

/-- Locks, registry and capacity are not read by any probe. -/
theorem Quiet.rest (w : World) (r : SessionRegistry) (l : RefLock.Table SA Sid)
    (c : Option Sid) : Quiet w { w with registry := r, locks := l, capacityLock := c } :=
  ⟨fun _ _ _ hp => .inl hp, fun _ => Session.Keeps.refl _, rfl⟩

theorem Heard.setPoint (h : Heard w) (i : Sid) (p : Point) : Heard (w.setPoint i p) :=
  h.quiet (Quiet.set w i _ ⟨rfl, rfl, .inl rfl, fun h => ⟨h, rfl⟩, rfl, id⟩)

theorem Heard.respond (h : Heard w) (i : Sid) (code : Nat) (p : Point) :
    Heard (w.respond i code p) :=
  h.quiet (Quiet.set w i _ ⟨rfl, rfl, .inl rfl, fun h => ⟨h, rfl⟩, rfl, id⟩)

theorem Heard.releaseCapacity (h : Heard w) (i : Sid) : Heard (w.releaseCapacity i) :=
  h.quiet (Quiet.rest w w.registry w.locks _)

theorem Heard.scheduleCleanup (h : Heard w) (i : Sid) : Heard (w.scheduleCleanup i) := by
  unfold World.scheduleCleanup
  dsimp only
  split
  · exact h.quiet (Quiet.set w i _ ⟨rfl, rfl, .inl rfl, fun h => ⟨h, rfl⟩, rfl, fun _ => rfl⟩)
  · have h' := h.quiet (Quiet.set w i { w.sessions i with
        closing := true
        transportClosed := true
        aliveProbeEvent := (w.sessions i).aliveProbeEvent.map (fun _ => true) }
      ⟨rfl, rfl, .inr rfl, fun h => ⟨h, rfl⟩, rfl, fun _ => rfl⟩)
    exact h'.quiet (Quiet.rest _ _ _ _)

theorem Heard.startProbe (h : Heard w) (i o : Sid) : Heard (w.startProbe i o) := by
  refine h.quiet ⟨?_, fun _ => Session.Keeps.refl _, rfl⟩
  intro i' o' p hp
  unfold World.startProbe World.setProbe at hp
  dsimp only at hp
  split at hp
  · rw [Option.some.injEq] at hp
    exact .inr hp.symm
  · exact .inl hp

theorem Heard.startProbes (i : Sid) (owners : List (SA × Sid)) (h : Heard w) :
    Heard (owners.foldl (fun w o => w.startProbe i o.2) w) := by
  induction owners generalizing w with
  | nil => exact h
  | cons o owners ih => exact ih (h.startProbe i o.2)

/-- Releasing the probes of `i`: a probe that stays is of another prober,
so the lock it holds is not released. -/
theorem Heard.releaseProbes (h : Heard w) (i : Sid) : Heard (w.releaseProbes i) := by
  have hold : ∀ j o p, (w.releaseProbes i).probes j o = some p →
      j ≠ i ∧ w.probes j o = some p := by
    intro j o p hp
    unfold World.releaseProbes at hp
    dsimp only at hp
    by_cases hj : j = i
    · subst hj
      rw [Function.update_self] at hp
      cases hp
    · rw [Function.update_of_ne hj] at hp
      exact ⟨hj, hp⟩
  have hsame : ∀ j o p, j ≠ i → w.probes j o = some p → p.inBody = true →
      (w.releaseProbes i).sessions o = w.sessions o := by
    intro j o p hj hp hb
    show (w.sessions o).releaseProbe i = w.sessions o
    unfold Session.releaseProbe
    rw [if_neg]
    rw [(h.body j o p hp hb).1, Option.some.injEq]
    exact hj
  have hclosing : ∀ o, ((w.releaseProbes i).sessions o).closing = (w.sessions o).closing :=
    (Frame.releaseProbes none w i).closing
  constructor
  · intro j o p hp hb
    obtain ⟨hj, hp⟩ := hold j o p hp
    rw [hsame j o p hj hp hb]
    exact h.body j o p hp hb
  · intro j o p hp hph
    exact h.queued j o p (hold j o p hp).2 hph
  · intro j o p hp hb hans
    obtain ⟨hj, hp⟩ := hold j o p hp
    rw [hsame j o p hj hp hb]
    exact h.heard j o p hp hb hans
  · intro j o p a hp hans hph
    rw [hclosing]
    exact h.done j o p a (hold j o p hp).2 hans hph
  · exact h.kept

theorem Heard.unwind (h : Heard w) (i : Sid) : Heard (w.unwind i) := by
  have h₁ := (h.releaseProbes i).releaseCapacity i
  refine (Heard.scheduleCleanup ?_ i).setPoint i .ended
  exact h₁.quiet (Quiet.rest _ _ _ _)

/-- Evicting loses no live tester when the probe that led to it was not
answered, or its owner is closing anyway. -/
theorem Heard.evict (h : Heard w) {answered : Bool}
    (hok : answered = true → (w.sessions o).closing = true) : Heard (w.evict o answered) := by
  have hev : (w.evict o answered).evictedLive = w.evictedLive := by
    unfold World.evict
    dsimp only
    rw [if_neg]
    cases answered with
    | false => simp
    | true => simp [hok rfl]
  have h' := h.scheduleCleanup o
  exact { body := h'.body, queued := h'.queued, heard := h'.heard, done := h'.done,
          kept := hev.trans h.kept }

/-! ## §4. Routing activation. -/

/-- A session that is activated keeps its address. -/
def Own (w : World) (i : Sid) (sa : SA) : Prop :=
  (w.sessions i).activated = true → (w.sessions i).testerLogicalAddr = some sa

theorem Heard.commitActivation (h : Heard w) (hown : Own w i sa) :
    Heard (w.commitActivation i sa) := by
  unfold World.commitActivation
  dsimp only
  split
  · exact h.unwind i
  · refine Heard.respond ?_ i 0x10 .confirming
    have h' := h.quiet (Quiet.set w i
      { w.sessions i with testerLogicalAddr := some sa, activated := true }
      ⟨rfl, rfl, .inl rfl, fun ha => ⟨rfl, (hown ha).symm⟩, rfl, id⟩)
    exact h'.quiet (Quiet.rest _ _ _ _)

theorem Heard.recheckCapacity (h : Heard w) (hown : Own w i sa) :
    Heard (w.recheckCapacity cfg i sa) := by
  unfold World.recheckCapacity
  split
  · exact h.respond i 0x01 .denying
  · exact h.commitActivation hown

theorem Heard.checkCapacity (h : Heard w) (hown : Own w i sa) :
    Heard (w.checkCapacity cfg i sa) := by
  unfold World.checkCapacity
  split
  · exact h.commitActivation hown
  · split
    · exact h.setPoint i _
    · exact h.commitActivation hown

theorem Heard.activateWithConflictCheck (h : Heard w) (hown : Own w i sa) :
    Heard (w.activateWithConflictCheck cfg i sa) := by
  unfold World.activateWithConflictCheck
  split
  · exact h.unwind i
  split
  · exact h.checkCapacity hown
  · split
    · exact h.checkCapacity hown
    · exact (h.startProbe i _).setPoint i _

theorem Heard.resumeConflictCheck (h : Heard w) (hown : Own w i sa) {alive answered : Bool}
    (hok : answered = true → alive = true ∨ (w.sessions o).closing = true) :
    Heard (w.resumeConflictCheck cfg i sa o alive answered) := by
  unfold World.resumeConflictCheck
  split
  · exact h.unwind i
  split
  · exact h.activateWithConflictCheck hown
  split
  · exact h.respond i 0x03 .denying
  · rename_i hdead
    have hevict : answered = true → (w.sessions o).closing = true := by
      intro hans
      exact (hok hans).resolve_left hdead
    refine (h.evict hevict).activateWithConflictCheck ?_
    have hs := scheduleCleanup_sessions w o i
    intro hact
    exact hs.2.1.trans (hown (hs.1.symm.trans hact))

theorem Heard.reclaimCapacity (h : Heard w) (hown : Own w i sa) :
    Heard (w.reclaimCapacity cfg i sa) := by
  unfold World.reclaimCapacity
  split
  · exact h.unwind i
  split
  · exact (h.releaseCapacity i).recheckCapacity hown
  · exact (Heard.startProbes i _ h).setPoint i _

theorem Heard.reclaimOwner (h : Heard w) (i : Sid) (o : SA × Sid) :
    Heard (w.reclaimOwner i o) := by
  unfold World.reclaimOwner
  split
  · rename_i p hp
    split
    · rename_i hdead
      refine h.evict (fun hans => ?_)
      exact (h.done i o.2 p false hp hans hdead.1).resolve_left (by simp)
    · exact h
  · exact h

theorem Heard.reclaimOwners (i : Sid) (owners : List (SA × Sid)) (h : Heard w) :
    Heard (owners.foldl (World.reclaimOwner i) w) := by
  induction owners generalizing w with
  | nil => exact h
  | cons o owners ih => exact ih (h.reclaimOwner i o)

theorem Heard.handleRoutingActivation (h : Heard w) (i : Sid) (src : SA) (ty : Nat) :
    Heard (w.handleRoutingActivation cfg i src ty) := by
  unfold World.handleRoutingActivation
  dsimp only
  split
  · exact h.respond i 0x02 .denying
  split
  · exact h.respond i 0x00 .denying
  split
  · exact h.respond i 0x06 .denying
  · exact (h.quiet (Quiet.rest w w.registry (w.locks.enter src i) w.capacityLock)).setPoint i _

/-! ## §5. The probe and the socket. -/

/-- A frame arrives: only an answer to a request that is out counts, and it
is in the inbox now. -/
theorem Heard.receive (h : Heard w) (i : Sid) (f : Inbound) : Heard (w.receive i f) := by
  have hold : ∀ j o p, (w.receive i f).probes j o = some p →
      ∃ q, w.probes j o = some q ∧ p.phase = q.phase
        ∧ (p.answered = true → q.answered = true
            ∨ (o = i ∧ q.inBody = true ∧ (w.sessions i).answers f = true)) := by
    -- a frame may answer a probe of its socket, and changes nothing else about it
    intro j o p hp
    obtain ⟨q, hq, rfl⟩ := Option.map_eq_some_iff.mp hp
    refine ⟨q, hq, ?_, ?_⟩
    · split <;> rfl
    · split
      · rename_i hans
        simp only [Bool.and_eq_true, beq_iff_eq] at hans
        exact fun _ => .inr ⟨hans.1.1, hans.1.2, hans.2⟩
      · exact .inl
  have hbody : ∀ {p q : Probe}, p.phase = q.phase → p.inBody = q.inBody := by
    intro p q hpq
    unfold Probe.inBody
    rw [hpq]
  have hsess : ∀ o, (w.receive i f).sessions o
      = if o = i then { w.sessions i with inbox := (w.sessions i).inbox ++ [f] }
        else w.sessions o := fun o => World.set_sessions w i o _
  constructor
  · intro j o p hp hb
    obtain ⟨q, hq, hph, _⟩ := hold j o p hp
    have := h.body j o q hq (hbody hph ▸ hb)
    rw [hsess]
    split
    · subst o
      exact this
    · exact this
  · intro j o p hp hph
    obtain ⟨q, hq, hphase, hans⟩ := hold j o p hp
    rw [hphase] at hph
    rw [Bool.eq_false_iff]
    intro hp'
    rcases hans hp' with hqa | ⟨_, hqb, _⟩
    · rw [h.queued j o q hq hph] at hqa
      cases hqa
    · unfold Probe.inBody at hqb
      rw [hph] at hqb
      cases hqb
  · intro j o p hp hb hpa
    obtain ⟨q, hq, hph, hans⟩ := hold j o p hp
    rw [hsess]
    rcases hans hpa with hqa | ⟨rfl, _, hf⟩
    · have := h.heard j o q hq (hbody hph ▸ hb) hqa
      split
      · subst o
        rcases this with hc | he | ⟨g, hg, hga⟩
        · exact .inl hc
        · exact .inr (.inl he)
        · exact .inr (.inr ⟨g, List.mem_append_left _ hg, hga⟩)
      · exact this
    · rw [if_pos rfl]
      -- answered by this very frame, which the loop has still to read
      exact .inr (.inr ⟨f, by simp, hf⟩)
  · intro j o p a hp hpa hph
    obtain ⟨q, hq, hphase, hans⟩ := hold j o p hp
    rw [hphase] at hph
    rcases hans hpa with hqa | ⟨_, hqb, _⟩
    · have := h.done j o q a hq hqa hph
      rw [hsess]
      split
      · subst o
        exact this
      · exact this
    · unfold Probe.inBody at hqb
      rw [hph] at hqb
      cases hqb
  · exact h.kept

/-- Taking a frame that answers no probe off the socket. -/
theorem Heard.pop {f : Inbound} {rest : List Inbound} (h : Heard w)
    (hin : (w.sessions i).inbox = f :: rest)
    (hskip : (w.sessions i).closing = true ∨ (w.sessions i).answers f = false) :
    Heard (w.set i { w.sessions i with inbox := rest }) := by
  constructor
  · intro j o p hp hb
    have := h.body j o p hp hb
    rw [World.set_sessions]
    split
    · subst o
      exact this
    · exact this
  · exact h.queued
  · intro j o p hp hb hans
    have := h.heard j o p hp hb hans
    rw [World.set_sessions]
    split
    · subst o
      rcases this with hc | he | ⟨g, hg, hga⟩
      · exact .inl hc
      · exact .inr (.inl he)
      · rcases hskip with hc | hskip
        · exact .inl hc
        · refine .inr (.inr ⟨g, ?_, hga⟩)
          rw [hin] at hg
          rcases List.mem_cons.mp hg with rfl | hg
          · rw [hskip] at hga
            cases hga
          · exact hg
    · exact this
  · intro j o p a hp hans hph
    have := h.done j o p a hp hans hph
    rw [World.set_sessions]
    split
    · subst o
      exact this
    · exact this
  · exact h.kept

/-- The loop reads an answer: the event of the probe that is out is set. -/
theorem Heard.answer {f : Inbound} {rest : List Inbound} (h : Heard w)
    (hopen : (w.sessions i).closing = false) (hans : (w.sessions i).answers f = true)
    {sa : SA} (hf : f = .aliveCheckResponse sa) :
    Heard ((w.set i { w.sessions i with inbox := rest }).handleAliveCheckResponse i sa) := by
  subst hf
  have haddr : (w.sessions i).testerLogicalAddr = some sa := by simpa [Session.answers] using hans
  -- every probe of `i` whose request is out finds the event set
  have hset : ∀ j p, w.probes j i = some p → p.inBody = true →
      (((w.set i { w.sessions i with inbox := rest }).handleAliveCheckResponse i sa).sessions i)
        = { w.sessions i with inbox := rest, aliveProbeEvent := some true } := by
    intro j p hp hb
    obtain ⟨_, hpend, hev, hact⟩ := h.body j i p hp hb
    unfold World.handleAliveCheckResponse
    simp [hact, hopen, haddr, hpend, hev]
  -- an answer touches its own session and no probe
  have hother : ∀ o, o ≠ i →
      ((w.set i { w.sessions i with inbox := rest }).handleAliveCheckResponse i sa).sessions o
        = w.sessions o := by
    intro o ho
    unfold World.handleAliveCheckResponse
    dsimp only
    split
    · rw [World.set_sessions, if_neg ho]
    · split
      · rw [World.set_sessions, if_neg ho, World.set_sessions, if_neg ho]
      · rw [World.set_sessions, if_neg ho]
  have hprobes :
      ((w.set i { w.sessions i with inbox := rest }).handleAliveCheckResponse i sa).probes
        = w.probes := by
    unfold World.handleAliveCheckResponse
    dsimp only
    split
    · rfl
    · split <;> rfl
  have hkept : ((w.set i { w.sessions i with inbox := rest }).handleAliveCheckResponse i
      sa).evictedLive = w.evictedLive := by
    unfold World.handleAliveCheckResponse
    dsimp only
    split
    · rfl
    · split <;> rfl
  have hclosing := (Frame.handleAliveCheckResponse none
    (w.set i { w.sessions i with inbox := rest }) i sa).closing
  constructor
  -- the probes of `i` see the event set, the others their old session
  · intro j o p hp hb
    rw [hprobes] at hp
    by_cases ho : o = i
    · subst ho
      rw [hset j p hp hb]
      have := h.body j o p hp hb
      exact ⟨this.1, this.2.1, rfl, this.2.2.2⟩
    · rw [hother o ho]
      exact h.body j o p hp hb
  · intro j o p hp hph
    rw [hprobes] at hp
    exact h.queued j o p hp hph
  -- what was answered is now heard: the event is set
  · intro j o p hp hb hpa
    rw [hprobes] at hp
    by_cases ho : o = i
    · subst ho
      rw [hset j p hp hb]
      exact .inr (.inl rfl)
    · rw [hother o ho]
      exact h.heard j o p hp hb hpa
  · intro j o p a hp hpa hph
    rw [hprobes] at hp
    rw [hclosing, World.set_sessions]
    have := h.done j o p a hp hpa hph
    split
    · subst o
      exact this
    · exact this
  · exact hkept.trans h.kept

theorem Heard.dispatch {f : Inbound} {rest : List Inbound} (h : Heard w)
    (hin : (w.sessions i).inbox = f :: rest) :
    Heard ((w.set i { w.sessions i with inbox := rest }).dispatch cfg i f) := by
  unfold World.dispatch
  split
  · rename_i hc
    simp only [World.set_sessions, if_pos] at hc
    exact (h.pop hin (.inl hc)).unwind i
  rename_i hopen
  simp only [World.set_sessions, if_pos, Bool.not_eq_true] at hopen
  cases hans : (w.sessions i).answers f with
  | true =>
      cases f with
      | aliveCheckResponse sa => exact h.answer hopen hans rfl
      | _ => cases hans
  | false =>
      have h' := h.pop hin (.inr hans)
      cases f with
      | routingActivation src ty => exact h'.handleRoutingActivation i src ty
      | aliveCheckResponse sa =>
          -- a response with another address is ignored
          have haddr : (w.sessions i).testerLogicalAddr ≠ some sa := by
            simpa [Session.answers] using hans
          have hskip : (w.set i { w.sessions i with inbox := rest }).handleAliveCheckResponse i sa
              = w.set i { w.sessions i with inbox := rest } := by
            unfold World.handleAliveCheckResponse
            simp [haddr]
          show Heard ((w.set i { w.sessions i with inbox := rest }).handleAliveCheckResponse i sa)
          rw [hskip]
          exact h'
      | request => exact h'.setPoint i .handling
      | invalid => exact h'.unwind i

/-- Moving one probe to another phase, with its owner's session overwritten
by `s`: what the new phase has to satisfy, and the other probes of that
owner. -/
theorem Heard.movePhase {p : Probe} {s : Session} (h : Heard w) (ph : ProbePhase)
    (hp : w.probes i o = some p) (hq : ph ≠ .queued)
    (hc : s.closing = (w.sessions o).closing)
    (hmine : Probe.inBody ⟨ph, p.answered⟩ = true →
      s.aliveProbeLock = some i ∧ s.aliveProbePending = true ∧ s.aliveProbeEvent.isSome = true
        ∧ s.activated = true ∧ (p.answered = true → s.closing = true
            ∨ s.aliveProbeEvent = some true ∨ ∃ f ∈ s.inbox, s.answers f = true))
    (hdone : ∀ a, ph = .done a → p.answered = true → a = true ∨ s.closing = true)
    (hothers : s = w.sessions o
      ∨ ∀ j q, j ≠ i → w.probes j o = some q → q.inBody = false) :
    Heard ((w.set o s).setPhase i o ph) := by
  have hcell : ∀ j o' q, ((w.set o s).setPhase i o ph).probes j o' = some q →
      (j = i ∧ o' = o ∧ q = ⟨ph, p.answered⟩) ∨ (¬ (j = i ∧ o' = o) ∧ w.probes j o' = some q) := by
    intro j o' q hq
    unfold World.setPhase World.setProbe at hq
    dsimp only at hq
    split at hq
    · rename_i hij
      have hcell : (w.set o s).probes i o = some p := hp
      rw [hcell, Option.map_some, Option.some.injEq] at hq
      exact .inl ⟨hij.1, hij.2, hq.symm⟩
    · rename_i hij
      exact .inr ⟨hij, hq⟩
  have hsess : ∀ o', ((w.set o s).setPhase i o ph).sessions o'
      = if o' = o then s else w.sessions o' := fun o' => World.set_sessions w o o' s
  -- a probe in its body other than the one that moves sees its session unchanged
  have hkeep : ∀ j o' q, ¬ (j = i ∧ o' = o) → w.probes j o' = some q → q.inBody = true →
      (if o' = o then s else w.sessions o') = w.sessions o' := by
    intro j o' q hij hq hb
    split
    · subst o'
      rcases hothers with hs | hs
      · exact hs
      · rw [hs j q (fun hj => hij ⟨hj, rfl⟩) hq] at hb
        cases hb
    · rfl
  constructor
  · intro j o' q hq hb
    rw [hsess]
    rcases hcell j o' q hq with ⟨rfl, rfl, rfl⟩ | ⟨hij, hq⟩
    · rw [if_pos rfl]
      obtain ⟨h1, h2, h3, h4, _⟩ := hmine hb
      exact ⟨h1, h2, h3, h4⟩
    · rw [hkeep j o' q hij hq hb]
      exact h.body j o' q hq hb
  · intro j o' q hq hph
    rcases hcell j o' q hq with ⟨rfl, rfl, rfl⟩ | ⟨hij, hq⟩
    · contradiction
    · exact h.queued j o' q hq hph
  · intro j o' q hq hb hans
    rw [hsess]
    rcases hcell j o' q hq with ⟨rfl, rfl, rfl⟩ | ⟨hij, hq⟩
    · rw [if_pos rfl]
      exact (hmine hb).2.2.2.2 hans
    · rw [hkeep j o' q hij hq hb]
      exact h.heard j o' q hq hb hans
  · intro j o' q a hq hans hph
    rw [hsess]
    rcases hcell j o' q hq with ⟨rfl, rfl, rfl⟩ | ⟨hij, hq⟩
    · rw [if_pos rfl]
      exact hdone a hph hans
    · have := h.done j o' q a hq hans hph
      split
      · subst o'
        rw [hc]
        exact this
      · exact this
  · exact h.kept

/-- A probe ends: it held the lock, so no other request of its owner is out. -/
theorem Heard.endProbe {p : Probe} {alive : Bool} (h : Heard w) (hp : w.probes i o = some p)
    (hb : p.inBody = true)
    (hok : p.answered = true → alive = true ∨ (w.sessions o).closing = true) :
    Heard (w.endProbe i o alive) := by
  unfold World.endProbe
  refine h.movePhase (.done alive) hp (by simp) rfl ?_ ?_ (.inr ?_)
  · intro hb'
    cases hb'
  · intro a ha hans
    rw [ProbePhase.done.injEq] at ha
    exact ha ▸ hok hans
  · intro j q hj hq
    rw [Bool.eq_false_iff]
    intro hqb
    have hlock := (h.body j o q hq hqb).1
    rw [(h.body i o p hp hb).1, Option.some.injEq] at hlock
    exact hj hlock.symm

/-- A queued probe gets the free lock. -/
theorem Heard.probeAliveOnce {p : Probe} (h : Heard w) (hp : w.probes i o = some p)
    (hph : p.phase = .queued) (hfree : (w.sessions o).aliveProbeLock = none) :
    Heard (w.probeAliveOnce i o) := by
  have hquiet : p.answered = false := h.queued i o p hp hph
  have hsame : w.set o (w.sessions o) = w := by
    unfold World.set
    rw [Function.update_eq_self]
  unfold World.probeAliveOnce
  dsimp only
  split
  · rw [← hsame]
    refine h.movePhase (.done false) hp (by simp) rfl ?_ ?_ (.inl rfl)
    · intro hb
      cases hb
    · intro a _ hans
      rw [hquiet] at hans
      cases hans
  · rename_i hready
    simp only [Bool.or_eq_true, Bool.not_eq_true', Option.isNone_iff_eq_none, not_or] at hready
    refine h.movePhase .sending hp (by simp) rfl ?_ ?_ (.inr ?_)
    · intro _
      refine ⟨rfl, rfl, rfl, by simpa using hready.1.2, fun hans => ?_⟩
      rw [hquiet] at hans
      cases hans
    · intro a ha
      cases ha
    · intro j q _ hq
      rw [Bool.eq_false_iff]
      intro hqb
      have hlock := (h.body j o q hq hqb).1
      rw [hfree] at hlock
      cases hlock

theorem Heard.probeSent {p : Probe} (h : Heard w) (hp : w.probes i o = some p)
    (hph : p.phase = .sending) : Heard (w.setPhase i o .waiting) := by
  have hb : p.inBody = true := by
    unfold Probe.inBody
    rw [hph]
    rfl
  have hsame : w.set o (w.sessions o) = w := by
    unfold World.set
    rw [Function.update_eq_self]
  rw [← hsame]
  refine h.movePhase .waiting hp (by simp) rfl ?_ ?_ (.inl rfl)
  · intro _
    obtain ⟨h1, h2, h3, h4⟩ := h.body i o p hp hb
    exact ⟨h1, h2, h3, h4, h.heard i o p hp hb⟩
  · intro a ha
    cases ha

/-! ## §6. Every step and every run. -/

/-- **Every step that leaves no answer unheard keeps the answers.** -/
theorem heard_step (e : Event) (hinv : Inv cfg w) (h : Heard w) (hlisten : OwnerListening w e)
    (hstep : step cfg w e = some w') : Heard w' := by
  cases step_effect hstep with
  | received i f => exact h.receive i f
  | read i f rest _ hinbox => exact h.dispatch hinbox
  | handled i _ => exact h.setPoint i .reading
  | failed i => exact h.unwind i
  | lockAcquired i sa locks hpoint _ =>
      have h' := h.quiet (Quiet.rest w w.registry locks w.capacityLock)
      exact h'.activateWithConflictCheck (hinv.entering hpoint).2
  | probeStarted i o p hprobe hphase hfree => exact h.probeAliveOnce hprobe hphase hfree
  | probeSent i o p hprobe hphase => exact h.probeSent hprobe hphase
  | probeSendFailed i o p hprobe hphase =>
      refine h.endProbe hprobe (by simp [Probe.inBody, hphase]) (fun hans => ?_)
      exact absurd (by rw [hprobe, Option.map_some, hans]) hlisten
  | probeWoken i o p hprobe hphase _ =>
      refine h.endProbe hprobe (by simp [Probe.inBody, hphase]) (fun _ => ?_)
      cases (w.sessions o).closing <;> simp
  | probeTimedOut i o p hprobe hphase =>
      have hb : p.inBody = true := by simp [Probe.inBody, hphase]
      refine h.endProbe hprobe hb (fun hans => ?_)
      -- an answer is neither unread nor already read, so the owner is closing
      rcases hlisten with hc | ⟨hunset, hunread⟩
      · exact .inr hc
      · rcases h.heard i o p hprobe hb hans with hc | hev | ⟨f, hf, hfa⟩
        · exact .inr hc
        · exact absurd hev hunset
        · rw [hunread f hf] at hfa
          cases hfa
  | probeReturned i existing sa alive answered hpoint hprobe =>
      have hf := Frame.releaseProbes none w i
      refine (h.releaseProbes i).resumeConflictCheck ?_ ?_
      · unfold Own
        rw [hf.activated, hf.addr]
        exact (hinv.probing hpoint).2
      · intro hans
        rw [hf.closing]
        exact h.done i existing _ alive hprobe hans rfl
  | capacityAcquired i sa hpoint =>
      refine (h.quiet (Quiet.rest w w.registry w.locks (some i))).reclaimCapacity ?_
      intro hact
      exact absurd hact (by simp [(hinv.candidate (.inl hpoint)).fresh])
  | reclaimAborted i sa owners _ => exact h.setPoint i _
  | reclaimed i sa owners _ => exact (Heard.reclaimOwners i _ h).setPoint i _
  | reclaimFailed i sa _ => exact ((h.releaseProbes i).releaseCapacity i).unwind i
  | probesDrained i sa hpoint =>
      refine ((h.releaseProbes i).releaseCapacity i).recheckCapacity ?_
      intro hact
      have hf := (Frame.releaseProbes none w i).activated i
      rw [(hinv.candidate (.inr (.inr ⟨false, hpoint⟩))).fresh] at hf
      exact absurd (hact.symm.trans hf) (by simp)
  | sentLast i => exact h.unwind i
  | confirmed i _ =>
      exact (h.quiet (Quiet.rest w w.registry (w.locks.leave i) w.capacityLock)).setPoint i _
  | cancelled i => exact h.unwind i
  | reclaimCancelled i sa owners _ => exact h.setPoint i _
  | closed i => exact h.scheduleCleanup i

/-- The contender whose answered probe returned is denied. -/
theorem Heard.denied {p : Probe} {a : Bool} (hinv : Inv cfg w) (h : Heard w)
    (hpt : (w.sessions i).point = .probing sa o) (hp : w.probes i o = some p)
    (hans : p.answered = true) (hph : p.phase = .done a) (hown : w.registry.lookup sa = some o)
    (hopen : (w.sessions i).closing = false) :
    ∃ w', step cfg w (.probeReturned i) = some w'
      ∧ (w'.sessions i).responses = (w.sessions i).responses ++ [0x03]
      ∧ (w'.sessions i).point = .denying
      ∧ w'.registry = w.registry ∧ (w'.sessions o).closing = false := by
  have hlive := (hinv.owner sa o hown).2.2
  have ha : a = true := (h.done i o p a hp hans hph).resolve_right (by simp [hlive])
  have hf := Frame.releaseProbes none w i
  obtain ⟨ph, answered⟩ := p
  dsimp only at hph
  subst hph ha
  have hresume : step cfg w (.probeReturned i)
      = some ((w.releaseProbes i).respond i 0x03 .denying) := by
    simp only [step, hpt, hp]
    unfold World.resumeConflictCheck
    rw [if_neg (by rw [hf.closing, hopen]; simp), if_neg (by rw [hf.registry]; simp [hown]),
      if_pos rfl]
  have hfr := hf.closing
  refine ⟨_, hresume, ?_, ?_, rfl, ?_⟩
  · unfold World.respond
    have hresp : ((w.releaseProbes i).sessions i).responses = (w.sessions i).responses := by
      show ((w.sessions i).releaseProbe i).responses = _
      unfold Session.releaseProbe
      split <;> rfl
    simp [hfr, hopen, hresp]
  · simp [World.respond]
  · have := (Frame.respond (w.releaseProbes i) i 0x03 .denying).closing o
    rw [this, hfr]
    exact hlive

/-- **An answered probe keeps its owner**, in every run in which no answer is
left unheard when a probe's timer fires. -/
theorem live_tester_kept (cfg : DoIPConfig) (es : List Event) (w : World)
    (hal : Transition.Along (step cfg) OwnerListening World.init es)
    (h : Transition.exec (step cfg) World.init es = some w) : LiveTesterKept cfg w := by
  have hboth : Inv cfg w ∧ Heard w := by
    refine Transition.exec_invariant_along (fun w => Inv cfg w ∧ Heard w) ?_ es
      World.init w ⟨inv_init cfg, heard_init⟩ hal h
    intro s e s' hs hok hstep
    exact ⟨inv_step e hs.1 hstep, heard_step e hs.1 hs.2 hok hstep⟩
  obtain ⟨hinv, hheard⟩ := hboth
  constructor
  · exact hheard.done
  · exact hheard.kept
  · intro i sa o p a hpt hp hans hph hown hopen
    exact hheard.denied hinv hpt hp hans hph hown hopen

/-! ## §7. A tester whose loop listens, and one whose loop is busy. -/

def testCfg : DoIPConfig := ⟨(0x0E00, 0x0E7F), [], 4⟩

/-- The owner activates and a contender probes it. -/
def contest : List Event :=
  [.receive 1 (.routingActivation 0x0E00 0x00), .read 1, .lockAcquired 1,
   .probeStarted 1 0, .probeSent 1 0, .receive 0 (.aliveCheckResponse 0x0E00)]

def activation : List Event :=
  [.receive 0 (.routingActivation 0x0E00 0x00), .read 0, .lockAcquired 0, .sent 0]

/-- The owner's loop reads the answer in time. -/
def listeningRun : List Event :=
  activation ++ contest ++ [.read 0, .probeWoken 1 0, .probeReturned 1, .sent 1]

theorem live_tester_kept_listening :
    ∃ w, Transition.exec (step testCfg) World.init listeningRun = some w
      ∧ w.registry.lookup 0x0E00 = some 0 ∧ LiveTesterKept testCfg w := by
  have hrun : ((Transition.exec (step testCfg) World.init listeningRun).map
      (fun w => w.registry.lookup 0x0E00)) = some (some 0) := by decide
  obtain ⟨w, hw, hl⟩ := Option.map_eq_some_iff.mp hrun
  exact ⟨w, hw, hl, live_tester_kept testCfg listeningRun w (by decide) hw⟩

/-- The owner's loop is inside a diagnostic exchange while its tester answers. -/
def busyRun : List Event :=
  activation ++ [.receive 0 .request, .read 0] ++ contest
    ++ [.probeTimeout 1 0, .probeReturned 1, .sent 1]

/-- Even a prompt event loop does not protect a tester that answers. -/
theorem busy_owner_evicted :
    ¬ ∀ (cfg : DoIPConfig) (es : List Event) (w : World),
      Transition.Along (step cfg) Prompt World.init es →
      Transition.exec (step cfg) World.init es = some w → LiveTesterKept cfg w := by
  intro hall
  have hrun : ((Transition.exec (step testCfg) World.init busyRun).map World.evictedLive)
      = some [0] := by decide
  obtain ⟨w, hw, hev⟩ := Option.map_eq_some_iff.mp hrun
  have := (hall testCfg busyRun w (by decide) hw).kept
  rw [hev] at this
  cases this

end DoipPlayground.EdgeNode
