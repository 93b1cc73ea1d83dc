/-
  DoipPlayground.EdgeNode.TaskOwnership
  ─────────────────────────────────────
  **WHO HOLDS A TASK OR A CONNECTION.**

  A live task is in the set that the clean-up will take its snapshot of,
  or in the snapshot; an established connection has its close, or is
  cached, or is drained by a retirement, or is in the snapshot of the
  cache.  Which of these is still possible depends on the phase.

    • `InvExcept` — the invariant, with one connection left out that is
      passing from one holder to the next,
    • `InvExcept.scheduleCleanup` — the start of the clean-up,
    • `InvExcept.closeEcuOnce` — the connection left out is closed, once.
-/
import DoipPlayground.EdgeNode.Quiescence

namespace DoipPlayground.EdgeNode.Teardown

open Wire

variable {cfg : Config} {me : Sid} {s s' s'' : Session}

/-! ## §1. Who holds what. -/

/-- What the clean-up waits for. -/
@[simp] def Cleanup.snapshot : Cleanup → List Nat
  | .timers l | .connects l | .reads l | .conns l | .retirements l | .closes l => l
  | .absent | .scheduled | .writer | .done => []

/-- The tasks of one set, which the clean-up joins in its phase `k`. -/
structure Held (k : Nat) (phase : Cleanup) (tasks : Tasks Nat) (held : List Nat) : Prop where
  covered : tasks.Covered (· ∈ held)
  snapshot : phase.rank = k → ∀ t ∈ held, t ∈ phase.snapshot
  gone : k < phase.rank → held = []

namespace Held

variable {k : Nat} {phase phase' : Cleanup} {tasks : Tasks Nat} {held : List Nat} {t : Nat}

/-- Before the phase new tasks are welcome. -/
theorem start (h : Held k phase tasks held) (hlt : phase.rank < k) :
    Held k phase (tasks.start t) (t :: held) where
  covered := h.covered.start (fun _ hu => List.mem_cons_of_mem t hu) List.mem_cons_self
  snapshot := by omega
  gone := by omega

theorem cancel (h : Held k phase tasks held) {l : List Nat} :
    Held k phase (tasks.cancel l) held :=
  { h with covered := h.covered.cancel }

/-- A task that has ended is taken out of the set. -/
theorem finish (h : Held k phase tasks held) :
    Held k phase (tasks.settle t) (held.filter (· ≠ t)) where
  covered := h.covered.settle (fun u hne hu => List.mem_filter.mpr ⟨hu, by simpa using hne⟩)
  snapshot := fun hk u hu => h.snapshot hk u (List.mem_of_mem_filter hu)
  gone := by
    intro hk
    rw [h.gone hk]
    rfl

theorem before (h : Held k phase tasks held) (hlt : phase'.rank < k) :
    Held k phase' tasks held where
  covered := h.covered
  snapshot := by omega
  gone := by omega

/-- The phase begins with a snapshot of the set. -/
theorem enter (h : Held k phase tasks held) (hk : phase'.rank = k)
    (hsnapshot : phase'.snapshot = held) : Held k phase' tasks held where
  covered := h.covered
  snapshot := by
    intro _ u hu
    exact hsnapshot.symm ▸ hu
  gone := by omega

/-- The phase ends when its snapshot is joined, and the set is cleared. -/
theorem leave (h : Held k phase tasks held) (hk : phase.rank = k)
    (hjoined : tasks.Joined phase.snapshot) (hgt : k < phase'.rank) :
    Held k phase' tasks [] where
  covered := by
    intro u hu
    exact absurd hu (h.covered.idle (h.snapshot hk) hjoined u)
  snapshot := by omega
  gone := fun _ => rfl

theorem after (h : Held k phase tasks held) (hgt : k < phase.rank) (hgt' : k < phase'.rank) :
    Held k phase' tasks held where
  covered := h.covered
  snapshot := by omega
  gone := fun _ => h.gone hgt

/-- Past the phase no task of the set is live. -/
theorem idle (h : Held k phase tasks held) (hgt : k < phase.rank) (u : Nat) : ¬ tasks.Live u := by
  intro hu
  have hmem := h.covered u hu
  rw [h.gone hgt] at hmem
  exact absurd hmem (by simp)

end Held

/-- The flags and the registry. -/
structure Shut (me : Sid) (closing transportClosed : Bool) (phase : Cleanup) (activated : Bool)
    (addr : Option SA) (registry : SessionRegistry) (openSockets : List Sid) : Prop where
  transport : transportClosed = closing
  scheduled : closing = true ↔ 0 < phase.rank
  registered : ∀ sa, registry.lookup sa = some me →
    closing = false ∧ activated = true ∧ addr = some sa
  reserved : me ∈ openSockets → closing = false

/-- The retirement `r` waits for the read `t` it has taken from `c`. -/
def Drains (retirements : Tasks Tid) (retirement : Tid → Retirement) (r : Tid) (c : ConnId)
    (t : Tid) : Prop :=
  retirements.Live r ∧ retirement r = .draining c t

/-- The reads of the ECUs. -/
structure ReadsHeld (phase : Cleanup) (reads : Tasks Tid)
    (ecuReads : OwnerTable Target (Tid × ConnId)) (retirements : Tasks Tid)
    (retirement : Tid → Retirement) : Prop where
  covered : reads.Covered (fun t =>
    (∃ target c, ecuReads.lookup target = some (t, c))
      ∨ ∃ r c, Drains retirements retirement r c t)
  snapshot : phase.rank = 4 →
    ∀ target t c, ecuReads.lookup target = some (t, c) → t ∈ phase.snapshot
  gone : 4 < phase.rank → ∀ target, ecuReads.lookup target = none

/-- The retirements, and those of them that wait for a read. -/
structure RetirementsHeld (phase : Cleanup) (retirements : Tasks Tid)
    (retirement : Tid → Retirement) (held : List Tid) (legs : ConnId → Leg) : Prop where
  covered : retirements.Covered (· ∈ held)
  established : ∀ r, retirements.Live r → (legs (retirement r).conn).established = true
  snapshot : phase.rank = 6 →
    ∀ r c t, Drains retirements retirement r c t → r ∈ phase.snapshot
  gone : 6 < phase.rank → ∀ r c t, ¬ Drains retirements retirement r c t

/-- The cache has established connections only, and is emptied once. -/
structure CacheHeld (phase : Cleanup) (ecuConns : OwnerTable Target ConnId)
    (legs : ConnId → Leg) : Prop where
  established : ∀ target c, ecuConns.lookup target = some c → (legs c).established = true
  snapshot : phase.rank = 5 → ∀ c ∈ phase.snapshot, (legs c).established = true
  gone : 4 < phase.rank → ∀ target, ecuConns.lookup target = none

/-- A connection and the task of `connect_owned`. -/
structure LegOk (status : TaskStatus) (leg : Leg) : Prop where
  fresh : status = .unused → leg.opened = false ∧ leg.established = false
  /-- A set-up that came to nothing has closed what it had opened. -/
  settled : leg.opened = true → leg.established = false →
    (status = .running ∨ status = .cancelling) ∨ leg.closed = true
  created : leg.setup = .created → leg.opened = false
  closing : leg.setup = .closing → leg.established = true
  conn : leg.outcome = some .conn → leg.established = true

/-- A connection and the task that closes it. -/
structure CloseOk (status : TaskStatus) (leg : Leg) : Prop where
  established : status ≠ .unused → leg.established = true
  closed : status = .done → leg.closed = true
  calls : leg.closeCalls = if status = .unused then 0 else 1

/-- Every established connection but `e` has its close, or someone who will
start it. -/
structure ConnsHeld (e : Option ConnId) (phase : Cleanup) (closes : Tasks ConnId)
    (keys : List ConnId) (legs : ConnId → Leg) (ecuConns : OwnerTable Target ConnId)
    (retirements : Tasks Tid) (retirement : Tid → Retirement) : Prop where
  keys : ∀ c, closes c ≠ .unused → c ∈ keys
  owned : ∀ c, e ≠ some c → (legs c).established = true → closes c ≠ .unused
    ∨ (∃ target, ecuConns.lookup target = some c)
    ∨ (∃ r t, Drains retirements retirement r c t)
    ∨ (phase.rank = 5 ∧ c ∈ phase.snapshot)
  snapshot : phase.rank = 7 → ∀ c, (legs c).established = true → c ∈ phase.snapshot
  gone : 7 < phase.rank → ∀ c, (legs c).established = true → closes c = .done

/-- The connection of the exchange that `run` is in. -/
def Point.conn : Point → Option ConnId
  | .exchanging _ c | .receiving _ c _ => some c
  | _ => none

/-- What `run` waits for, and what it holds. -/
structure RunOk (run : Point) (connects : Tasks ConnId) (legs : ConnId → Leg)
    (ecuConns : OwnerTable Target ConnId) (retirements : Tasks Tid)
    (retirement : Tid → Retirement) : Prop where
  /-- One connect at a time, for an address that has no connection. -/
  setup : ∀ c, connects.Live c →
    (∃ replay cancelled, run = .connecting (legs c).target replay c cancelled)
      ∧ ecuConns.lookup (legs c).target = none
  held : ∀ c, run.conn = some c → (legs c).established = true
  /-- A retirement before a new connect makes room for it. -/
  stale : ∀ target replay r cancelled, run = .retiringStale target replay r cancelled →
    ecuConns.lookup target = none ∨ ∃ c, retirements.Live r
      ∧ retirement r = .created target c ∧ ecuConns.lookup target = some c

/-- The invariant, with the connection left out that is being handed over. -/
structure InvExcept (me : Sid) (e : Option ConnId) (s : Session) : Prop where
  shut : Shut me s.closing s.transportClosed s.cleanup s.activated s.testerLogicalAddr s.registry
    s.openSockets
  timers : Held 2 s.cleanup s.timers s.timerTasks
  connects : Held 3 s.cleanup s.connects s.connectTasks
  reads : ReadsHeld s.cleanup s.reads s.ecuReads s.retirements s.retirement
  legs : ∀ c, LegOk (s.connects c) (s.legs c)
  closes : ∀ c, CloseOk (s.closes c) (s.legs c)
  cache : CacheHeld s.cleanup s.ecuConns s.legs
  retirements : RetirementsHeld s.cleanup s.retirements s.retirement s.retirementTasks s.legs
  conns : ConnsHeld e s.cleanup s.closes s.ecuCloseTasks s.legs s.ecuConns s.retirements
    s.retirement
  run : RunOk s.run s.connects s.legs s.ecuConns s.retirements s.retirement
  callers : ∀ k cancelled, s.callers k = .returned cancelled → s.cleanup = .done

/-- The invariant between two steps. -/
abbrev Inv (me : Sid) (s : Session) : Prop := InvExcept me none s

theorem inv_init (me : Sid) : Inv me (Session.init me) where
  shut := by constructor <;> simp [Session.init, Cleanup.rank]
  timers := by constructor <;> simp [Session.init, Cleanup.rank, Tasks.Covered, Tasks.Live]
  connects := by constructor <;> simp [Session.init, Cleanup.rank, Tasks.Covered, Tasks.Live]
  reads := by constructor <;> simp [Session.init, Cleanup.rank, Tasks.Covered, Tasks.Live]
  legs := by
    intro c
    constructor <;> simp [Session.init]
  closes := by
    intro c
    constructor <;> simp [Session.init]
  cache := by constructor <;> simp [Session.init, Cleanup.rank]
  retirements := by
    constructor <;> simp [Session.init, Cleanup.rank, Tasks.Covered, Tasks.Live, Drains]
  conns := by constructor <;> simp [Session.init, Cleanup.rank]
  run := by constructor <;> simp [Session.init, Point.conn, Tasks.Live]
  callers := by simp [Session.init]

namespace InvExcept

variable {e : Option ConnId} {c : ConnId} {r t : Tid} {target : Target} {leg : Leg}

theorem weaken (h : Inv me s) (e : Option ConnId) : InvExcept me e s :=
  { h with conns := { h.conns with owned := fun c _ => h.conns.owned c (by simp) } }

/-- Nothing is scheduled before `_closing` is set. -/
theorem rank_eq_zero (h : InvExcept me e s) (hc : s.closing ≠ true) : s.cleanup.rank = 0 := by
  have := mt h.shut.scheduled.mpr hc
  omega

/-! ### `run` and the timers. -/

/-- Only where `run` waits for it can a connect be live. -/
theorem idle (h : InvExcept me e s)
    (hrun : ∀ target replay c cancelled, s.run = .connecting target replay c cancelled →
      s.connects c = .done) (c : ConnId) : ¬ s.connects.Live c := by
  intro hlive
  obtain ⟨⟨replay, cancelled, hr⟩, -⟩ := h.run.setup c hlive
  exact Tasks.not_live_of_done (hrun _ replay c cancelled hr) hlive

theorem setRun (h : InvExcept me e s) {p : Point} (hidle : ∀ c, ¬ s.connects.Live c)
    (hheld : ∀ c, p.conn = some c → (s.legs c).established = true)
    (hstale : ∀ target replay r cancelled, p ≠ .retiringStale target replay r cancelled) :
    InvExcept me e { s with run := p } :=
  { h with
    run := ⟨fun c hc => absurd hc (hidle c), hheld,
      fun target replay r cancelled hp => absurd hp (hstale target replay r cancelled)⟩ }

/-- `run` goes on with the loop. -/
theorem serve (h : InvExcept me e s) (hidle : ∀ c, ¬ s.connects.Live c) :
    InvExcept me e { s with run := .serving } :=
  h.setRun hidle (by simp [Point.conn]) (by simp)

theorem cancelTimers (h : InvExcept me e s) (l : List Tid) :
    InvExcept me e { s with timers := s.timers.cancel l } :=
  { h with timers := h.timers.cancel }

theorem newTimer (h : InvExcept me e s) (hc : s.closing ≠ true) (t : Tid) :
    InvExcept me e (s.newTimer t) :=
  { h with timers := h.timers.start (by rw [h.rank_eq_zero hc]; decide) }

theorem timerEnded (h : InvExcept me e s) (t : Tid) : InvExcept me e (s.timerEnded t) :=
  { h with timers := h.timers.finish }

end InvExcept

/-! ## §2. The start of the clean-up. -/

section
variable {e : Option ConnId} {phase phase' : Cleanup} {reads retirements : Tasks Tid}
variable {ecuReads : OwnerTable Target (Tid × ConnId)} {retirement : Tid → Retirement}
variable {held keys : List Nat} {legs : ConnId → Leg} {ecuConns : OwnerTable Target ConnId}
variable {closes : Tasks ConnId}

/-! A phase that has not come asks for nothing. -/

theorem ReadsHeld.before (h : ReadsHeld phase reads ecuReads retirements retirement)
    (hlt : phase'.rank < 4) : ReadsHeld phase' reads ecuReads retirements retirement where
  covered := h.covered
  snapshot := by omega
  gone := by omega

theorem RetirementsHeld.before (h : RetirementsHeld phase retirements retirement held legs)
    (hlt : phase'.rank < 6) : RetirementsHeld phase' retirements retirement held legs where
  covered := h.covered
  established := h.established
  snapshot := by omega
  gone := by omega

theorem CacheHeld.before (h : CacheHeld phase ecuConns legs) (hlt : phase'.rank < 5) :
    CacheHeld phase' ecuConns legs where
  established := h.established
  snapshot := by omega
  gone := by omega

theorem ConnsHeld.before
    (h : ConnsHeld e phase closes keys legs ecuConns retirements retirement)
    (hlt : phase.rank < 5) (hlt' : phase'.rank < 7) :
    ConnsHeld e phase' closes keys legs ecuConns retirements retirement where
  keys := h.keys
  owned := by
    intro c hne hest
    rcases h.owned c hne hest with hclose | hcached | hdrains | ⟨hrank, -⟩
    · exact .inl hclose
    · exact .inr (.inl hcached)
    · exact .inr (.inr (.inl hdrains))
    · omega
  snapshot := by omega
  gone := by omega

end

theorem Cleanup.schedule_eq (phase : Cleanup) :
    phase.schedule = phase ∨ (phase = .absent ∧ phase.schedule = .scheduled) := by
  cases phase with
  | absent => exact .inr ⟨rfl, rfl⟩
  | _ => exact .inl rfl

/-- The socket and the address are given up with the transport. -/
theorem Shut.close {phase : Cleanup} {registry : SessionRegistry} {openSockets : List Sid}
    {closing activated : Bool} {addr : Option SA} {phase' : Cleanup}
    (h : Shut me closing false phase activated addr registry openSockets)
    (hrank : 0 < phase'.rank) :
    Shut me true true phase' activated addr (Session.unregisterAddr registry me addr)
      (openSockets.filter (· ≠ me)) where
  transport := rfl
  scheduled := iff_of_true rfl hrank
  registered := by
    intro sa hsa
    exfalso
    cases addr with
    | none => exact absurd (h.registered sa hsa).2.2 (by simp)
    | some addr =>
        simp only [Session.unregisterAddr, OwnerTable.lookup_unregister] at hsa
        split at hsa
        case isTrue => cases hsa
        case isFalse hnot =>
          obtain ⟨-, -, haddr⟩ := h.registered sa hsa
          cases haddr
          exact hnot ⟨rfl, hsa⟩
  reserved := by
    intro hmem
    exact absurd (List.mem_filter.mp hmem).2 (by simp)

/-- Closing the transport, on the way into any phase of the clean-up. -/
theorem InvExcept.closeTransport {e : Option ConnId} (h : InvExcept me e s) (phase' : Cleanup)
    (hrank : 0 < phase'.rank) :
    let u := { s with closing := true }.closeTransportAndRegistry me
    Shut me u.closing u.transportClosed phase' u.activated u.testerLogicalAddr u.registry
      u.openSockets := by
  intro u
  have hshut := h.shut
  by_cases hclosed : s.transportClosed = true
  · have hu : u = { s with closing := true } := if_pos hclosed
    have hc : s.closing = true := hshut.transport ▸ hclosed
    rw [hu]
    refine ⟨hclosed, iff_of_true rfl hrank, ?_, ?_⟩
    · intro sa hsa
      exact absurd (hshut.registered sa hsa).1 (by simp [hc])
    · intro hmem
      exact absurd (hshut.reserved hmem) (by simp [hc])
  · have hu : u = _ := if_neg hclosed
    rw [hu]
    rw [Bool.eq_false_iff.mpr hclosed] at hshut
    exact hshut.close hrank

namespace InvExcept

variable {e : Option ConnId}

theorem scheduleCleanup (h : InvExcept me e s) : InvExcept me e (s.scheduleCleanup me) := by
  have hrank : 0 < s.cleanup.schedule.rank := by
    cases s.cleanup <;> simp [Cleanup.schedule]
  have hshut : Shut me (s.scheduleCleanup me).closing (s.scheduleCleanup me).transportClosed
      s.cleanup.schedule (s.scheduleCleanup me).activated
      (s.scheduleCleanup me).testerLogicalAddr (s.scheduleCleanup me).registry
      (s.scheduleCleanup me).openSockets := h.closeTransport _ hrank
  obtain ⟨l, sockets, registry, heq⟩ := scheduleCleanup_eq s me
  rw [heq] at hshut ⊢
  rcases s.cleanup.schedule_eq with hsame | ⟨habsent, hscheduled⟩
  · rw [hsame] at hshut ⊢
    exact { h with shut := hshut, timers := h.timers.cancel }
  · rw [hscheduled] at hshut ⊢
    have hzero : s.cleanup.rank = 0 := by rw [habsent]; rfl
    exact { h with
      shut := hshut
      timers := (h.timers.before (by simp)).cancel
      connects := h.connects.before (by simp)
      reads := h.reads.before (by simp)
      cache := h.cache.before (by simp)
      retirements := h.retirements.before (by simp)
      conns := h.conns.before (by omega) (by simp)
      callers := fun k cancelled hk => by
        rw [h.callers k cancelled hk] at habsent
        cases habsent }

theorem leaveLoop (h : InvExcept me e s) (hidle : ∀ c, ¬ s.connects.Live c) :
    InvExcept me e (s.leaveLoop me) := by
  have hconnects : (s.scheduleCleanup me).connects = s.connects := by
    obtain ⟨l, sockets, registry, heq⟩ := scheduleCleanup_eq s me
    rw [heq]
  exact h.scheduleCleanup.setRun (hconnects ▸ hidle) (by simp [Point.conn]) (by simp)

end InvExcept

/-! ## §3. Connections change hands. -/

@[simp] theorem legs_setLeg (s : Session) (c d : ConnId) (leg : Leg) :
    (s.setLeg c leg).legs d = if d = c then leg else s.legs d :=
  Function.update_apply s.legs c leg d

/-- What is the same of the one leg is the same of all. -/
theorem setLeg_same {α : Type} (s : Session) (c : ConnId) (leg : Leg) (f : Leg → α)
    (h : f leg = f (s.legs c)) (d : ConnId) : f ((s.setLeg c leg).legs d) = f (s.legs d) := by
  rw [legs_setLeg]
  split
  · subst d
    exact h
  · rfl

section
variable {e : Option ConnId} {phase : Cleanup} {retirements : Tasks Tid} {connects : Tasks ConnId}
variable {retirement : Tid → Retirement} {held keys : List Nat} {legs legs' : ConnId → Leg}
variable {ecuConns : OwnerTable Target ConnId} {closes : Tasks ConnId} {run : Point} {c : ConnId}

theorem RetirementsHeld.mono (h : RetirementsHeld phase retirements retirement held legs)
    (hest : ∀ c, (legs c).established = true → (legs' c).established = true) :
    RetirementsHeld phase retirements retirement held legs' :=
  { h with established := fun r hr => hest _ (h.established r hr) }

theorem CacheHeld.mono (h : CacheHeld phase ecuConns legs)
    (hest : ∀ c, (legs c).established = true → (legs' c).established = true) :
    CacheHeld phase ecuConns legs' :=
  { h with
    established := fun target c hc => hest c (h.established target c hc)
    snapshot := fun hrank c hc => hest c (h.snapshot hrank c hc) }

theorem RunOk.mono (h : RunOk run connects legs ecuConns retirements retirement)
    (hest : ∀ c, (legs c).established = true → (legs' c).established = true)
    (htarget : ∀ c, connects.Live c → (legs' c).target = (legs c).target) :
    RunOk run connects legs' ecuConns retirements retirement :=
  { h with
    setup := fun c hc => by
      rw [htarget c hc]
      exact h.setup c hc
    held := fun c hc => hest c (h.held c hc) }

/-- No leg becomes established. -/
theorem ConnsHeld.relabel
    (h : ConnsHeld e phase closes keys legs ecuConns retirements retirement)
    (hest : ∀ c, (legs' c).established = true → (legs c).established = true) :
    ConnsHeld e phase closes keys legs' ecuConns retirements retirement where
  keys := h.keys
  owned := fun c hne hc => h.owned c hne (hest c hc)
  snapshot := fun hrank c hc => h.snapshot hrank c (hest c hc)
  gone := fun hrank c hc => h.gone hrank c (hest c hc)

/-- While connects are welcome a leg may become established, and is then
in nobody's hands. -/
theorem ConnsHeld.establish
    (h : ConnsHeld e phase closes keys legs ecuConns retirements retirement)
    (he : e = none ∨ e = some c) (hrank : phase.rank < 7)
    (hest : ∀ d, d ≠ c → (legs' d).established = true → (legs d).established = true) :
    ConnsHeld (some c) phase closes keys legs' ecuConns retirements retirement where
  keys := h.keys
  owned := by
    intro d hne hd
    have hdc : d ≠ c := fun hdc => hne (by rw [hdc])
    refine h.owned d ?_ (hest d hdc hd)
    rcases he with rfl | rfl
    · simp
    · exact hne
  snapshot := by omega
  gone := by omega

/-- The close of the connection in nobody's hands is started. -/
theorem ConnsHeld.close
    (h : ConnsHeld (some c) phase closes keys legs ecuConns retirements retirement)
    (hest : (legs c).established = true) (hunused : closes c = .unused) :
    ConnsHeld none phase (closes.start c) (c :: keys) legs ecuConns retirements retirement where
  keys := by
    intro d hd
    by_cases hdc : d = c
    · exact hdc ▸ List.mem_cons_self
    · refine List.mem_cons_of_mem c (h.keys d (fun hd' => ?_))
      exact hd (Tasks.start_eq_unused.mpr ⟨hdc, hd'⟩)
  owned := by
    intro d _ hd
    by_cases hdc : d = c
    · exact .inl (fun hd' => (Tasks.start_eq_unused.mp hd').1 hdc)
    · have hne : some c ≠ some d := fun hcd => hdc (Option.some.inj hcd).symm
      refine (h.owned d hne hd).imp_left ?_
      exact fun hused hd' => hused (Tasks.start_eq_unused.mp hd').2
  snapshot := h.snapshot
  gone := by
    intro hrank
    have hdone := h.gone hrank c hest
    rw [hunused] at hdone
    cases hdone

/-- Somebody takes the connection that was in nobody's hands. -/
theorem ConnsHeld.taken
    (h : ConnsHeld (some c) phase closes keys legs ecuConns retirements retirement)
    (hc : closes c ≠ .unused ∨ (∃ target, ecuConns.lookup target = some c)
      ∨ (∃ r t, Drains retirements retirement r c t)) :
    ConnsHeld none phase closes keys legs ecuConns retirements retirement :=
  { h with
    owned := by
      intro d _ hd
      by_cases hdc : d = c
      · subst d
        exact hc.imp_right (fun hc => hc.imp_right .inl)
      · exact h.owned d (fun hcd => hdc (Option.some.inj hcd).symm) hd }

/-- The connection in nobody's hands is cached for an address that has
none. -/
theorem ConnsHeld.cache
    (h : ConnsHeld (some c) phase closes keys legs ecuConns retirements retirement)
    {target : Target} (hnone : ecuConns.lookup target = none) :
    ConnsHeld none phase closes keys legs (OwnerTable.register ecuConns target c) retirements
      retirement := by
  have hkept : ConnsHeld (some c) phase closes keys legs (OwnerTable.register ecuConns target c)
      retirements retirement :=
    { h with
      owned := by
        intro d hne hd
        refine (h.owned d hne hd).imp_right (fun hown => hown.imp_left ?_)
        rintro ⟨target', hcached⟩
        refine ⟨target', ?_⟩
        rw [OwnerTable.lookup_register, if_neg ?_]
        · exact hcached
        · rintro rfl
          rw [hnone] at hcached
          cases hcached }
  refine hkept.taken (.inr (.inl ⟨target, ?_⟩))
  rw [OwnerTable.lookup_register, if_pos rfl]

end

namespace InvExcept

variable {e : Option ConnId} {c : ConnId} {leg : Leg}

/-- A leg changes in what only its own tasks look at. -/
theorem setLeg (h : InvExcept me e s) (hleg : LegOk (s.connects c) leg)
    (hclose : CloseOk (s.closes c) leg) (hest : leg.established = (s.legs c).established)
    (htarget : leg.target = (s.legs c).target) : InvExcept me e (s.setLeg c leg) := by
  have hsame := setLeg_same s c leg Leg.established hest
  have hmono : ∀ d, (s.legs d).established = true →
      ((s.setLeg c leg).legs d).established = true := fun d hd => (hsame d).trans hd
  exact { h with
    legs := by
      intro d
      rw [legs_setLeg]
      split
      · subst d
        exact hleg
      · exact h.legs d
    closes := by
      intro d
      rw [legs_setLeg]
      split
      · subst d
        exact hclose
      · exact h.closes d
    cache := h.cache.mono hmono
    retirements := h.retirements.mono hmono
    conns := h.conns.relabel (fun d hd => (hsame d).symm.trans hd)
    run := h.run.mono hmono (fun d _ => setLeg_same s c leg Leg.target htarget d) }

/-- **One close for each connection**: the first who asks starts it, the
others join it. -/
theorem closeEcuOnce (h : InvExcept me (some c) s) (hest : (s.legs c).established = true) :
    Inv me (s.closeEcuOnce c) := by
  unfold Session.closeEcuOnce
  split
  case isTrue hunused =>
    have hsame := setLeg_same s c { s.legs c with closeCalls := (s.legs c).closeCalls + 1 }
      Leg.established rfl
    have htarget := setLeg_same s c { s.legs c with closeCalls := (s.legs c).closeCalls + 1 }
      Leg.target rfl
    have hmono := fun d (hd : (s.legs d).established = true) => (hsame d).trans hd
    exact { h with
      legs := by
        intro d
        show LegOk (s.connects d) ((s.setLeg c _).legs d)
        rw [legs_setLeg]
        split
        · subst d
          have hc := h.legs c
          exact ⟨hc.fresh, hc.settled, hc.created, hc.closing, hc.conn⟩
        · exact h.legs d
      closes := by
        intro d
        show CloseOk (s.closes.start c d) ((s.setLeg c _).legs d)
        rw [legs_setLeg]
        split
        · subst d
          refine ⟨fun _ => hest, by simp, ?_⟩
          rw [if_neg (by simp)]
          show (s.legs c).closeCalls + 1 = 1
          rw [(h.closes c).calls, if_pos hunused]
        · rw [Tasks.start_of_ne (by assumption)]
          exact h.closes d
      cache := h.cache.mono hmono
      retirements := h.retirements.mono hmono
      conns := (h.conns.close hest hunused).relabel (fun d hd => (hsame d).symm.trans hd)
      run := h.run.mono hmono (fun d _ => htarget d) }
  case isFalse hused => exact { h with conns := h.conns.taken (.inl hused) }

/-- The close of a connection has ended. -/
theorem closeEnded (h : InvExcept me e s) (hlive : s.closes.Live c) :
    InvExcept me e (s.closeEnded c) := by
  have hused := Tasks.Live.ne_unused hlive
  have hest := (h.closes c).established hused
  have hsame := setLeg_same s c { s.legs c with connected := false, closed := true }
    Leg.established rfl
  have htarget := setLeg_same s c { s.legs c with connected := false, closed := true }
    Leg.target rfl
  have hmono := fun d (hd : (s.legs d).established = true) => (hsame d).trans hd
  exact { h with
    legs := by
      intro d
      show LegOk (s.connects d) ((s.setLeg c _).legs d)
      rw [legs_setLeg]
      split
      · subst d
        have hc := h.legs c
        exact ⟨hc.fresh, fun _ _ => .inr rfl, hc.created, hc.closing, hc.conn⟩
      · exact h.legs d
    closes := by
      intro d
      show CloseOk (s.closes.settle c d) ((s.setLeg c _).legs d)
      rw [legs_setLeg]
      split
      · subst d
        refine ⟨fun _ => hest, fun _ => rfl, ?_⟩
        rw [if_neg (by simp)]
        show (s.legs c).closeCalls = 1
        rw [(h.closes c).calls, if_neg hused]
      · rw [Tasks.settle_of_ne (by assumption)]
        exact h.closes d
    cache := h.cache.mono hmono
    retirements := h.retirements.mono hmono
    conns :=
      { keys := fun d hd => h.conns.keys d (fun hd' => by
          rcases eq_or_ne d c with rfl | hne
          · exact hused hd'
          · exact hd (Tasks.settle_eq_unused.mpr ⟨hne, hd'⟩))
        owned := fun d hne hd => (h.conns.owned d hne ((hsame d).symm.trans hd)).imp_left
          (fun hd' hsettled => hd' (Tasks.settle_eq_unused.mp hsettled).2)
        snapshot := fun hrank d hd => h.conns.snapshot hrank d ((hsame d).symm.trans hd)
        gone := fun hrank d hd => Tasks.settle_eq_done.mpr
          (.inr (h.conns.gone hrank d ((hsame d).symm.trans hd))) }
    run := h.run.mono hmono (fun d _ => htarget d) }

end InvExcept

end DoipPlayground.EdgeNode.Teardown
