/-
  DoipPlayground.VirtualEcu.Supervision
  ─────────────────────────────────────
  **THE INACTIVITY TIMERS, AGAINST A CLOCK** (`session.py`, `_supervise`).

  In `VirtualEcu.Session` an inactivity timer may elapse at any time.  Here
  every socket has its deadlines and its supervisor, and time passes: the
  supervisor sleeps until the deadline it saw last, while the pump, the
  worker and the probes of other sockets put the deadline off under it.

    • `exec_world` — a timed run is a run of the untimed connections,
    • `Supervised` — what the deadlines of a live socket are, and that its
      supervisor is covered,
    • `Ledger` — which steps the bookkeeping of a socket goes back to,
    • `supervise_closes_iff` — the supervisor closes a socket when it wakes
      iff the socket has been silent for as long as its timer says,
    • `silent_closed` — and a socket that has been silent so long is closed
      by the next two turns of its supervisor at the latest.

  Time is in milliseconds, and the arithmetic is exact.  A cancelled
  supervisor stays where it is: it acts on no socket that is finalized.
-/
import DoipPlayground.Lib.Watchdog
import DoipPlayground.VirtualEcu.Ownership

namespace DoipPlayground.VirtualEcu.Supervision

open Watchdog

/-! ## §1. Timers. -/

inductive Timer where
  | initial | general
  deriving DecidableEq, Repr

/-- In the order in which `_supervise` looks at them. -/
def timers : List Timer := [.initial, .general]

theorem mem_timers (timer : Timer) : timer ∈ timers := by
  cases timer <;> decide

structure Timeouts where
  initialInactivityMs : Int := 2000
  generalInactivityMs : Int := 300000
  deriving DecidableEq, Repr

/-- A deadline, unless the timeout is 0 or less and the timer disabled. -/
def armed (now timeout : Int) : Option Int :=
  if 0 < timeout then some (now + timeout) else none

theorem armed_eq_some {now timeout d : Int} :
    armed now timeout = some d ↔ 0 < timeout ∧ d = now + timeout := by
  unfold armed
  split <;> simp_all [eq_comm]

/-- Where `_supervise` is. -/
inductive Supervisor where
  /-- Created, and not run yet. -/
  | starting
  /-- `await ...self._kick_event.wait()`, with or without a timeout. -/
  | asleep
  /-- Returned. -/
  | gone
  deriving DecidableEq, Repr

/-- The timers of one socket.  `openedAt` and `lastTraffic` steer nothing. -/
structure Clock where
  /-- `_initial_deadline`, `_general_deadline` and `_kick_event`. -/
  watch : Watch Timer Int
  supervisor : Supervisor
  openedAt : Int
  /-- When the socket last read or wrote, or was activated. -/
  lastTraffic : Int

namespace Clock

def setDeadline (c : Clock) (timer : Timer) (deadline : Option Int) : Clock :=
  { c with watch := { c.watch with deadline := Function.update c.watch.deadline timer deadline } }

/-- Note that bytes have gone one way or the other. -/
def touch (now : Int) (c : Clock) : Clock :=
  { c with lastTraffic := now }

/-- `self._kick_event.set()` -/
def set (c : Clock) : Clock :=
  { c with watch := c.watch.kick }

/-- `run`, up to the frame loop. -/
def start (timeouts : Timeouts) (now : Int) : Clock where
  watch :=
    { deadline := Function.update (fun _ => none) .initial
        (armed now timeouts.initialInactivityMs)
      kicked := false
      wake := none }
  supervisor := .starting
  openedAt := now
  lastTraffic := now

/-- Reset the general inactivity timer (any data sent or received). -/
def bumpGeneral (timeouts : Timeouts) (now : Int) (s : Session) (c : Clock) : Clock :=
  if s.activated = true ∧ s.finalized = false ∧ 0 < timeouts.generalInactivityMs then
    c.setDeadline .general (some (now + timeouts.generalInactivityMs))
  else c

/-- Wake the supervisor so it recomputes against a changed deadline. -/
def kick (s : Session) (c : Clock) : Clock :=
  if s.finalized = false then c.set else c

/-- Routing Activation: the initial timer stops, the general timer starts. -/
def armGeneral (timeouts : Timeouts) (now : Int) (s : Session) (c : Clock) : Clock :=
  let c := c.setDeadline .initial none
  let c :=
    if 0 < timeouts.generalInactivityMs then
      c.setDeadline .general (some (now + timeouts.generalInactivityMs))
    else c
  c.kick s

/-- Top of the loop of `_supervise`, up to its `await`. -/
def loopHead (s : Session) (c : Clock) : Clock :=
  if s.finalized then { c with supervisor := .gone }
  else { c with supervisor := .asleep, watch := c.watch.rest timers }

end Clock

/-! ## §2. Timed connections. -/

/-- The pump of `i` has read a frame. -/
def received (e : VirtualEcu.Event) (i : Sid) : Bool :=
  match e with
  | .frame j _ => decide (j = i)
  | _ => false

/-- The session is activated in a step from `s` to `s'`. -/
def activates (s s' : Session) : Bool :=
  !s.activated && s'.activated

/-- The session has sent a frame. -/
def sends (s s' : Session) : Bool :=
  decide (s.wire.length < s'.wire.length)

/-- The step makes the socket active, or bytes go one way or the other. -/
def traffic (e : VirtualEcu.Event) (i : Sid) (s s' : Session) : Bool :=
  received e i || activates s s' || sends s s'

/-- What the code does to the timers of `i` in a step from `s` to `s'`: a
frame is read before it is handled, an activation arms the timer before it
is confirmed, and `_send` resets the timer before it writes. -/
def Clock.observe (timeouts : Timeouts) (now : Int) (e : VirtualEcu.Event) (i : Sid)
    (s s' : Session) (c : Clock) : Clock :=
  let c := if traffic e i s s' then c.touch now else c
  let c := if received e i then c.bumpGeneral timeouts now s else c
  let c := if activates s s' then c.armGeneral timeouts now s else c
  if sends s s' then c.bumpGeneral timeouts now { s with activated := s'.activated } else c

structure Timed where
  world : World
  now : Int
  clocks : Sid → Clock

def Timed.init (cfg : EcuConfig) (timeouts : Timeouts) (now : Int) : Timed where
  world := World.init cfg
  now := now
  clocks := fun _ => Clock.start timeouts now

inductive Event where
  | tick (ms : Nat)
  /-- Anything but the elapse of an inactivity timer. -/
  | world (e : VirtualEcu.Event)
  /-- The supervisor of `i` runs to its next await: for the first time or
  kicked, or because the timeout of its `wait_for` is over. -/
  | supervise (i : Sid) (timedOut : Bool)
  deriving DecidableEq, Repr

namespace Timed

def setClock (t : Timed) (i : Sid) (c : Clock) : Timed :=
  { t with clocks := Function.update t.clocks i c }

@[simp] theorem setClock_world (t : Timed) (i : Sid) (c : Clock) :
    (t.setClock i c).world = t.world := rfl

@[simp] theorem setClock_self (t : Timed) (i : Sid) (c : Clock) :
    (t.setClock i c).clocks i = c := by simp [setClock]

theorem setClock_other {i j : Sid} (hj : j ≠ i) (t : Timed) (c : Clock) :
    (t.setClock i c).clocks j = t.clocks j := by simp [setClock, hj]

/-- The connections have moved to `w'`. -/
def advance (timeouts : Timeouts) (t : Timed) (e : VirtualEcu.Event) (w' : World) : Timed :=
  { t with
    world := w'
    clocks := fun i =>
      if e = .accept ∧ i = t.world.opened then Clock.start timeouts t.now
      else (t.clocks i).observe timeouts t.now e i (t.world.sessions i) (w'.sessions i) }

/-- The timeout of the supervisor is over.  It may come early, or for a
deadline that has been put off. -/
def superviseTimeout (t : Timed) (i : Sid) : Timed :=
  let c := t.clocks i
  if (t.world.sessions i).finalized then t.setClock i { c with supervisor := .gone }
  else
    match c.watch.elapsed timers t.now with
    | some _ =>
        { t with world := t.world.finalize i }.setClock i { c with supervisor := .gone }
    | none => t.setClock i (c.loopHead (t.world.sessions i))

/-- `none` where the supervisor has no reason to run. -/
def supervise (t : Timed) (i : Sid) (timedOut : Bool) : Option Timed :=
  let c := t.clocks i
  let again := t.setClock i (c.loopHead (t.world.sessions i))
  match c.supervisor, timedOut with
  | .starting, false => some again
  | .asleep, false => if c.watch.kicked then some again else none
  | .asleep, true => if c.watch.wake.isSome then some (t.superviseTimeout i) else none
  | _, _ => none

end Timed

def step (cfg : EcuConfig) (timeouts : Timeouts) (t : Timed) : Event → Option Timed
  | .tick ms => some { t with now := t.now + ms }
  | .world (.inactivity _) => none
  | .world e => (VirtualEcu.step cfg t.world e).map (t.advance timeouts e)
  | .supervise i timedOut => if i < t.world.opened then t.supervise i timedOut else none

variable {cfg : EcuConfig} {timeouts : Timeouts} {t t' : Timed} {w w' : World} {i j : Sid}
  {s s' : Session} {c : Clock} {now : Int}

/-! ## §3. A timed run is a run. -/

/-- Nothing happens to the connections, or a step of theirs. -/
theorem step_world {e : Event} (h : step cfg timeouts t e = some t') :
    t'.world = t.world ∨ ∃ e', VirtualEcu.step cfg t.world e' = some t'.world := by
  cases e with
  | tick ms =>
      cases h
      exact .inl rfl
  | world e =>
      have hmoves : (VirtualEcu.step cfg t.world e).map (t.advance timeouts e) = some t' := by
        cases e <;> first | exact h | cases h
      obtain ⟨w', hw', rfl⟩ := Option.map_eq_some_iff.mp hmoves
      exact .inr ⟨e, hw'⟩
  | supervise i timedOut =>
      simp only [step, Option.ite_none_right_eq_some] at h
      obtain ⟨hopen, h⟩ := h
      unfold Timed.supervise at h
      dsimp only at h
      split at h
      · cases h
        exact .inl rfl
      · rw [Option.ite_none_right_eq_some] at h
        cases h.2
        exact .inl rfl
      · rw [Option.ite_none_right_eq_some] at h
        cases h.2
        unfold Timed.superviseTimeout
        dsimp only
        split
        · exact .inl rfl
        · rename_i hlive
          split
          · right
            refine ⟨.inactivity i, ?_⟩
            exact if_pos ⟨hopen, Bool.eq_false_iff.mpr hlive⟩
          · exact .inl rfl
      · cases h

/-- What the supervisors do, the connections can do without a clock. -/
theorem world_run (es : List Event) (h : Transition.exec (step cfg timeouts) t es = some t') :
    ∃ ws, Transition.exec (VirtualEcu.step cfg) t.world ws = some t'.world := by
  induction es generalizing t with
  | nil =>
      cases h
      exact ⟨[], rfl⟩
  | cons e es ih =>
      obtain ⟨u, hu, hrest⟩ := Transition.exec_cons_eq_some.mp h
      obtain ⟨ws, hws⟩ := ih hrest
      rcases step_world hu with heq | ⟨e', he'⟩
      · exact ⟨ws, heq ▸ hws⟩
      · exact ⟨e' :: ws, Transition.exec_cons_eq_some.mpr ⟨u.world, he', hws⟩⟩

/-- No step takes a finalization back. -/
theorem finalized_stays {e : VirtualEcu.Event} (hw : Shape w)
    (h : VirtualEcu.step cfg w e = some w') (hfin : (w.sessions i).finalized = true) :
    (w'.sessions i).finalized = true := by
  have hevict : ∀ (w : World) (o : Sid) (answered : Bool), (w.sessions i).finalized = true →
      ((w.evict cfg o answered).sessions i).finalized = true := by
    intro w o answered hfin
    obtain ⟨worker, heq⟩ := evict_sessions cfg w o i answered
    rw [heq]
    split
    · rfl
    · exact hfin
  have hoccupy : ∀ (w : World) (o : Sid) (src : SA), (w.sessions i).finalized = true →
      ((w.occupy cfg o src).sessions i).finalized = true := by
    intro w o src hfin
    unfold World.occupy
    simp only [World.set_sessions]
    split
    · rename_i ho
      exact ho ▸ hfin
    · exact hfin
  cases step_change hw h with
  | quiet h => exact h.finalized i hfin
  | accepted => exact hfin
  | @occupied o src activationType override _ hpump hfresh hfree h =>
      exact h.finalized i (hoccupy _ o src ((hw.hooking_reads hpump).finalized i hfin))
  | @evicted o src existing ev answered _ hpump hprobe hfull h =>
      exact h.finalized i (hevict _ existing answered hfin)
  | @replaced o src existing ev answered _ hpump hprobe hroom h =>
      apply h.finalized i
      apply hoccupy
      exact (hw.prober_reads cfg hpump answered).finalized i (hevict _ existing answered hfin)
  | requested hst h => exact h.finalized i hfin
  | dispatched hst h => exact h.finalized i hfin
  | expired harmed => exact hfin
  | @released o _ hpump h =>
      apply h.finalized i
      unfold World.releaseState
      simp only [World.set_sessions]
      split
      · rename_i ho
        exact ho ▸ hfin
      · exact hfin
  | unregistered hpump h => exact h.finalized i hfin

/-! ## §4. The clock of a live socket. -/

/-- The deadlines are those of the phase the socket is in, and the
supervisor is there and covered. -/
structure Supervised (timeouts : Timeouts) (now : Int) (s : Session) (c : Clock) : Prop where
  initial : c.watch.deadline .initial
    = if s.activated then none else armed c.openedAt timeouts.initialInactivityMs
  general : c.watch.deadline .general
    = if s.activated then armed c.lastTraffic timeouts.generalInactivityMs else none
  lastTraffic : c.lastTraffic ≤ now
  alive : c.supervisor ≠ .gone
  covered : c.supervisor = .asleep → c.watch.Covered

theorem start_supervised (timeouts : Timeouts) (now : Int) (hfresh : s.activated = false) :
    Supervised timeouts now s (Clock.start timeouts now) where
  initial := by simp [Clock.start, hfresh]
  general := by simp [Clock.start, hfresh]
  lastTraffic := Int.le_refl now
  alive := by simp [Clock.start]
  covered := by simp [Clock.start]

theorem Supervised.congr (h : Supervised timeouts now s c) (hact : s'.activated = s.activated) :
    Supervised timeouts now s' c where
  initial := by
    rw [hact]
    exact h.initial
  general := by
    rw [hact]
    exact h.general
  lastTraffic := h.lastTraffic
  alive := h.alive
  covered := h.covered

/-- Before the activation nothing depends on the traffic. -/
theorem Supervised.touch (h : Supervised timeouts now s c) (hact : s.activated = false) :
    Supervised timeouts now s (c.touch now) where
  initial := h.initial
  general := by
    rw [hact]
    exact h.general.trans (by rw [hact]; rfl)
  lastTraffic := Int.le_refl now
  alive := h.alive
  covered := h.covered

/-- The general timer, started again: no kick, for no deadline comes forward. -/
theorem Supervised.bump (h : Supervised timeouts now s c) (hact : s.activated = true)
    (hact' : s'.activated = true) :
    Supervised timeouts now s'
      ((c.touch now).setDeadline .general (armed now timeouts.generalInactivityMs)) where
  initial := by
    rw [if_pos hact']
    exact h.initial.trans (if_pos hact)
  general := by
    rw [if_pos hact']
    rfl
  lastTraffic := Int.le_refl now
  alive := h.alive
  covered := by
    intro hasleep
    refine (h.covered hasleep).later ?_ rfl rfl
    intro timer d hd
    cases timer with
    | initial => exact ⟨d, hd, le_refl d⟩
    | general =>
        have hd' : armed now timeouts.generalInactivityMs = some d := hd
        obtain ⟨hpos, rfl⟩ := armed_eq_some.mp hd'
        refine ⟨c.lastTraffic + timeouts.generalInactivityMs, ?_, ?_⟩
        · rw [h.general, if_pos hact]
          exact armed_eq_some.mpr ⟨hpos, rfl⟩
        · have := h.lastTraffic
          omega

/-- The initial timer is disarmed, the general one armed, and the supervisor
kicked. -/
theorem Supervised.activate (h : Supervised timeouts now s c) (hact' : s'.activated = true) :
    Supervised timeouts now s'
      (((c.touch now).setDeadline .initial none).setDeadline .general
        (armed now timeouts.generalInactivityMs)).set where
  initial := by
    rw [if_pos hact']
    rfl
  general := by
    rw [if_pos hact']
    rfl
  lastTraffic := Int.le_refl now
  alive := h.alive
  covered := fun _ => .inl rfl


namespace Clock

theorem setDeadline_self {timer : Timer} {d : Option Int} (h : c.watch.deadline timer = d) :
    c.setDeadline timer d = c := by
  subst h
  simp [setDeadline]

theorem bumpGeneral_idle (hact : s.activated = false) (c : Clock) :
    c.bumpGeneral timeouts now s = c :=
  if_neg (by simp [hact])

theorem bumpGeneral_live (hact : s.activated = true) (hlive : s.finalized = false)
    (hoff : ¬ 0 < timeouts.generalInactivityMs → c.watch.deadline .general = none) :
    c.bumpGeneral timeouts now s
      = c.setDeadline .general (armed now timeouts.generalInactivityMs) := by
  unfold bumpGeneral armed
  by_cases hpos : 0 < timeouts.generalInactivityMs
  · rw [if_pos ⟨hact, hlive, hpos⟩, if_pos hpos]
  · rw [if_neg (fun h => hpos h.2.2), if_neg hpos, setDeadline_self (hoff hpos)]

theorem armGeneral_live (hlive : s.finalized = false)
    (hoff : c.watch.deadline .general = none) :
    c.armGeneral timeouts now s
      = ((c.setDeadline .initial none).setDeadline .general
          (armed now timeouts.generalInactivityMs)).set := by
  unfold armGeneral armed kick
  by_cases hpos : 0 < timeouts.generalInactivityMs
  · simp only [if_pos hpos, if_pos hlive]
  · have hoff' : (c.setDeadline .initial none).watch.deadline .general = none := hoff
    simp only [if_neg hpos, if_pos hlive, setDeadline_self hoff']

end Clock

theorem Supervised.off (h : Supervised timeouts now s c) (hact : s.activated = true)
    (hoff : ¬ 0 < timeouts.generalInactivityMs) : c.watch.deadline .general = none := by
  rw [h.general, if_pos hact]
  exact if_neg hoff

/-- The second reset within a step changes nothing. -/
theorem Supervised.bump_again (h : Supervised timeouts now s' c) (hact' : s'.activated = true)
    (hnow : c.lastTraffic = now) : c.bumpGeneral timeouts now s = c := by
  unfold Clock.bumpGeneral
  split
  · rename_i hpos
    apply Clock.setDeadline_self
    rw [h.general, if_pos hact', hnow]
    exact armed_eq_some.mpr ⟨hpos.2.2, rfl⟩
  · rfl

/-- **What a step does to the timers keeps the clock of a live socket.** -/
theorem Supervised.observe (h : Supervised timeouts now s c) (e : VirtualEcu.Event)
    (hlive : s.finalized = false) (hstays : s.activated = true → s'.activated = true) :
    Supervised timeouts now s' (c.observe timeouts now e i s s') := by
  -- an activated socket sleeps towards its general timer
  cases hact : s.activated with
  | true =>
      have hact' := hstays hact
      have hactivates : activates s s' = false := by simp [activates, hact]
      have hsame : { s with activated := s'.activated } = s := by rw [hact', ← hact]
      unfold Clock.observe
      simp only [traffic, hactivates, hsame, Bool.or_false, Bool.false_eq_true, if_false]
      have hbump : ∀ c' : Clock,
          (¬ 0 < timeouts.generalInactivityMs → c'.watch.deadline .general = none) →
          c'.bumpGeneral timeouts now s
            = c'.setDeadline .general (armed now timeouts.generalInactivityMs) :=
        fun c' hoff => Clock.bumpGeneral_live hact hlive hoff
      cases received e i with
      | true =>
          simp only [Bool.true_or, if_true]
          -- a frame received puts the timer off, and an answer does it once more
          rw [hbump (c.touch now) (h.off hact)]
          have hafter := h.bump hact hact'
          rw [hafter.bump_again hact' rfl, ite_self]
          exact hafter
      | false =>
          cases sends s s' with
          | true =>
              simp only [Bool.false_or, if_true, Bool.false_eq_true, if_false]
              rw [hbump (c.touch now) (h.off hact)]
              exact h.bump hact hact'
          | false =>
              simp only [Bool.false_or, Bool.false_eq_true, if_false]
              -- no traffic: the clock is as it was
              exact h.congr (hact'.trans hact.symm)
  -- before the activation it sleeps towards the initial one
  | false =>
      have hoff : c.watch.deadline .general = none := by
        rw [h.general, hact]
        rfl
      unfold Clock.observe
      cases hact' : s'.activated with
      -- the step activates it
      | true =>
          have hactivates : activates s s' = true := by simp [activates, hact, hact']
          simp only [traffic, hactivates, Bool.or_true, Bool.true_or, if_true,
            Clock.bumpGeneral_idle hact, ite_self]
          rw [Clock.armGeneral_live (c := c.touch now) hlive hoff]
          -- the activation has just started the timer, so its own response changes nothing
          have hafter := Supervised.activate h hact'
          cases sends s s' with
          | false => exact hafter
          | true =>
              rw [if_pos rfl, Supervised.bump_again hafter hact' rfl]
              exact hafter
      | false =>
          have hactivates : activates s s' = false := by simp [activates, hact']
          have hidle : ({ s with activated := false } : Session).activated = false := rfl
          -- before the activation the general timer is not there to be put off
          simp only [hactivates, Clock.bumpGeneral_idle hact, Clock.bumpGeneral_idle hidle,
            ite_self, Bool.false_eq_true, if_false]
          have hsame : s'.activated = s.activated := hact'.trans hact.symm
          split
          -- a frame of a socket that is not active is noted, and steers nothing
          · exact (h.touch hact).congr hsame
          · exact h.congr hsame

/-! ## §5. Runs. -/

theorem Supervised.tick (h : Supervised timeouts now s c) {now' : Int} (hle : now ≤ now') :
    Supervised timeouts now' s c :=
  { h with lastTraffic := h.lastTraffic.trans hle }

/-- The supervisor of a live socket lies down again. -/
theorem Supervised.rest (h : Supervised timeouts now s c) (hlive : s.finalized = false) :
    Supervised timeouts now s (c.loopHead s) := by
  unfold Clock.loopHead
  rw [if_neg (by simp [hlive])]
  exact { h with
    alive := by simp
    covered := fun _ => Watch.rest_covered mem_timers c.watch }

/-- What holds in every timed run. -/
structure Kept (timeouts : Timeouts) (t : Timed) : Prop where
  shape : Shape t.world
  supervised : ∀ i, i < t.world.opened → (t.world.sessions i).finalized = false →
    Supervised timeouts t.now (t.world.sessions i) (t.clocks i)

theorem kept_init (cfg : EcuConfig) (timeouts : Timeouts) (now : Int) :
    Kept timeouts (Timed.init cfg timeouts now) where
  shape := shape_init cfg
  supervised := fun i hopen => absurd hopen (Nat.not_lt_zero i)

/-- Only `accept` opens a socket. -/
theorem opened_eq {e : VirtualEcu.Event} (hw : Shape w) (h : VirtualEcu.step cfg w e = some w')
    (he : e ≠ .accept) : w'.opened = w.opened := by
  cases step_change hw h with
  | quiet h => exact h.opened
  | accepted => exact absurd rfl he
  | occupied hpump hfresh hfree h => exact h.opened
  | evicted hpump hprobe hfull h => exact h.opened
  | replaced hpump hprobe hroom h => exact h.opened
  | requested hst h => exact h.opened
  | dispatched hst h => exact h.opened
  | expired harmed => rfl
  | released hpump h => exact h.opened
  | unregistered hpump h => exact h.opened

theorem finalize_self (w : World) (i : Sid) :
    ((w.finalize i).sessions i).finalized = true := by
  unfold World.finalize
  rw [World.set_sessions, if_pos rfl]

theorem finalize_other (w : World) (hj : j ≠ i) :
    (w.finalize i).sessions j = w.sessions j := by
  unfold World.finalize
  rw [World.set_sessions, if_neg hj]

/-- What a turn of the supervisor of `i` does: it lies down, it returns, or
it closes the socket. -/
inductive Turned (t : Timed) (i : Sid) : Bool → Timed → Prop where
  | again (timedOut : Bool)
      (hwhy : timedOut = false → (t.clocks i).supervisor = .starting
        ∨ (t.clocks i).watch.kicked = true)
      (hearly : timedOut = true → (t.clocks i).watch.elapsed timers t.now = none) :
      Turned t i timedOut (t.setClock i ((t.clocks i).loopHead (t.world.sessions i)))
  | returned (hfin : (t.world.sessions i).finalized = true) :
      Turned t i true (t.setClock i { t.clocks i with supervisor := .gone })
  | closed (hlive : (t.world.sessions i).finalized = false) (timer : Timer)
      (helapsed : (t.clocks i).watch.elapsed timers t.now = some timer) :
      Turned t i true ({ t with world := t.world.finalize i }.setClock i
        { t.clocks i with supervisor := .gone })

theorem supervise_turned {timedOut : Bool} (h : t.supervise i timedOut = some t') :
    Turned t i timedOut t' := by
  -- the first turn, a kick, or the end of a timeout
  unfold Timed.supervise at h
  dsimp only at h
  split at h
  · rename_i hstarting
    cases h
    exact .again false (fun _ => .inl hstarting) (fun h => absurd h (by decide))
  · rw [Option.ite_none_right_eq_some] at h
    obtain ⟨hkicked, h⟩ := h
    cases h
    exact .again false (fun _ => .inr hkicked) (fun h => absurd h (by decide))
  · rw [Option.ite_none_right_eq_some] at h
    cases h.2
    unfold Timed.superviseTimeout
    dsimp only
    split
    -- the socket was closed while the supervisor slept
    · rename_i hfin
      exact .returned hfin
    · rename_i hlive
      -- a deadline has been reached, or it was put off meanwhile
      split
      · rename_i timer helapsed
        exact .closed (Bool.eq_false_iff.mpr hlive) timer helapsed
      · rename_i helapsed
        exact .again true (fun h => absurd h (by decide)) (fun _ => helapsed)
  · cases h

/-- A live socket is new, or it was live before the step. -/
theorem live_before {e : VirtualEcu.Event} (hw : Shape w) (h : VirtualEcu.step cfg w e = some w')
    (hopen : i < w'.opened) (hlive : (w'.sessions i).finalized = false) :
    (e = .accept ∧ i = w.opened) ∧ (w'.sessions i).activated = false
      ∨ ¬ (e = .accept ∧ i = w.opened) ∧ i < w.opened ∧ (w.sessions i).finalized = false := by
  by_cases hnew : e = .accept ∧ i = w.opened
  -- a new socket belongs to nobody yet
  · refine .inl ⟨hnew, ?_⟩
    obtain ⟨rfl, rfl⟩ := hnew
    cases h
    rw [← Bool.not_eq_true]
    exact fun hact => absurd (hw.opened _ (.inr hact)) (Nat.lt_irrefl _)
  · refine .inr ⟨hnew, ?_, ?_⟩
    · by_cases he : e = .accept
      · subst he
        cases h
        exact lt_of_le_of_ne (Nat.lt_succ_iff.mp hopen) fun hi => hnew ⟨rfl, hi⟩
      · rw [opened_eq hw h he] at hopen
        exact hopen
    -- no step makes a closed socket live again
    · rw [← Bool.not_eq_true] at hlive ⊢
      exact fun hfin => hlive (finalized_stays hw h hfin)

/-- **Every step keeps the live sockets supervised.** -/
theorem Kept.step {e : Event} (h : Kept timeouts t)
    (hstep : Supervision.step cfg timeouts t e = some t') : Kept timeouts t' := by
  cases e with
  | tick ms =>
      cases hstep
      exact ⟨h.shape, fun i hopen hlive => (h.supervised i hopen hlive).tick (by dsimp only; omega)⟩
  | world e =>
      have hmoves : (VirtualEcu.step cfg t.world e).map (t.advance timeouts e) = some t' := by
        cases e <;> first | exact hstep | cases hstep
      obtain ⟨w', hw', rfl⟩ := Option.map_eq_some_iff.mp hmoves
      refine ⟨h.shape.step hw', ?_⟩
      intro i hopen hlive'
      dsimp only [Timed.advance] at hopen hlive' ⊢
      rcases live_before h.shape hw' hopen hlive' with ⟨hnew, hfresh⟩ | ⟨hold, hopen', hlive⟩
      -- the clock of a new socket starts with it
      · rw [if_pos hnew]
        exact start_supervised timeouts t.now hfresh
      · rw [if_neg hold]
        exact (h.supervised i hopen' hlive).observe e hlive fun hact =>
          (Stays.step h.shape hw' hact).activated.trans hact
  | supervise i timedOut =>
      simp only [Supervision.step, Option.ite_none_right_eq_some] at hstep
      obtain ⟨hopen, hturn⟩ := hstep
      cases supervise_turned hturn with
      -- it lies down over the deadlines as they are
      | again _ _ _ =>
          refine ⟨h.shape, ?_⟩
          intro j hj hlive
          by_cases hji : j = i
          · subst hji
            rw [Timed.setClock_self]
            exact (h.supervised j hj hlive).rest hlive
          · rw [Timed.setClock_other hji]
            exact h.supervised j hj hlive
      | returned hfin =>
          -- its own socket is closed, and no other clock has moved
          refine ⟨h.shape, ?_⟩
          intro j hj hlive
          have hji : j ≠ i := by
            intro hji
            subst hji
            exact absurd (hlive.symm.trans hfin) (by decide)
          rw [Timed.setClock_other hji]
          exact h.supervised j hj hlive
      | closed hlive timer helapsed =>
          have hquiet : Quiet t.world (t.world.finalize i) := .finalize t.world i
          -- closing one socket leaves the others alone
          refine ⟨h.shape.quiet hquiet, ?_⟩
          intro j hj hlive'
          have hji : j ≠ i := by
            intro hji
            subst hji
            rw [Timed.setClock_world, finalize_self] at hlive'
            exact absurd hlive' (by decide)
          rw [Timed.setClock_other hji, Timed.setClock_world, finalize_other _ hji] at *
          exact h.supervised j hj hlive'

theorem kept_run {now : Int} (es : List Event)
    (h : Transition.exec (step cfg timeouts) (Timed.init cfg timeouts now) es = some t) :
    Kept timeouts t :=
  Transition.exec_invariant (Kept timeouts) (fun _ _ _ h hstep => h.step hstep) es _ t
    (kept_init cfg timeouts now) h

/-! ## §6. What the bookkeeping goes back to. -/

/-- A step that makes `i` active, or in which bytes of `i` go one way or the
other. -/
def Traffic (i : Sid) (t : Timed) (e : Event) (t' : Timed) : Prop :=
  ∃ e', e = .world e' ∧ traffic e' i (t.world.sessions i) (t'.world.sessions i) = true

/-- The step in which `i` is accepted. -/
def Accepts (i : Sid) (t : Timed) (e : Event) : Prop :=
  e = .world .accept ∧ t.world.opened = i

/-- Every traffic of `i` in the run lies at or before `since`. -/
def QuietSince (cfg : EcuConfig) (timeouts : Timeouts) (start : Timed) (es : List Event) (i : Sid)
    (since : Int) : Prop :=
  Transition.EveryStep (step cfg timeouts) (fun u e u' => Traffic i u e u' → u.now ≤ since)
    start es

/-- `i` was accepted at or before `since`, if it was in this run. -/
def OpenSince (cfg : EcuConfig) (timeouts : Timeouts) (start : Timed) (es : List Event) (i : Sid)
    (since : Int) : Prop :=
  Transition.EveryStep (step cfg timeouts) (fun u e _ => Accepts i u e → u.now ≤ since) start es

namespace Clock

theorem bumpGeneral_book (c : Clock) :
    (c.bumpGeneral timeouts now s).openedAt = c.openedAt
      ∧ (c.bumpGeneral timeouts now s).lastTraffic = c.lastTraffic := by
  unfold bumpGeneral
  split <;> exact ⟨rfl, rfl⟩

theorem armGeneral_book (c : Clock) :
    (c.armGeneral timeouts now s).openedAt = c.openedAt
      ∧ (c.armGeneral timeouts now s).lastTraffic = c.lastTraffic := by
  unfold armGeneral kick
  dsimp only
  split <;> split <;> exact ⟨rfl, rfl⟩

variable (timeouts now i s s') in
theorem observe_book (e : VirtualEcu.Event) (c : Clock) :
    (c.observe timeouts now e i s s').openedAt = c.openedAt
      ∧ (c.observe timeouts now e i s s').lastTraffic
        = if traffic e i s s' then now else c.lastTraffic := by
  have htouch : (if traffic e i s s' then c.touch now else c).openedAt = c.openedAt
      ∧ (if traffic e i s s' then c.touch now else c).lastTraffic
        = if traffic e i s s' then now else c.lastTraffic := by
    split <;> exact ⟨rfl, rfl⟩
  unfold observe
  dsimp only
  generalize (if traffic e i s s' then c.touch now else c) = c₁ at htouch ⊢
  rw [← htouch.1, ← htouch.2]
  split <;> split <;> split <;> simp [bumpGeneral_book, armGeneral_book]

theorem loopHead_book (c : Clock) :
    (c.loopHead s).openedAt = c.openedAt ∧ (c.loopHead s).lastTraffic = c.lastTraffic := by
  unfold loopHead
  split <;> exact ⟨rfl, rfl⟩

end Clock

/-- A turn of a supervisor leaves the bookkeeping alone. -/
theorem Turned.book {timedOut : Bool} (h : Turned t i timedOut t') (j : Sid) :
    t'.now = t.now ∧ t'.world.opened = t.world.opened
      ∧ (t'.world.sessions j).activated = (t.world.sessions j).activated
      ∧ (t'.clocks j).openedAt = (t.clocks j).openedAt
      ∧ (t'.clocks j).lastTraffic = (t.clocks j).lastTraffic := by
  cases h with
  | again _ _ _ =>
      refine ⟨rfl, rfl, rfl, ?_⟩
      by_cases hj : j = i
      · subst hj
        rw [Timed.setClock_self]
        exact Clock.loopHead_book _
      · rw [Timed.setClock_other hj]
        exact ⟨rfl, rfl⟩
  | returned _ =>
      refine ⟨rfl, rfl, rfl, ?_⟩
      by_cases hj : j = i
      · subst hj
        rw [Timed.setClock_self]
        exact ⟨rfl, rfl⟩
      · rw [Timed.setClock_other hj]
        exact ⟨rfl, rfl⟩
  | closed _ _ _ =>
      refine ⟨rfl, rfl, (Quiet.finalize t.world i).activated j, ?_⟩
      by_cases hj : j = i
      · subst hj
        rw [Timed.setClock_self]
        exact ⟨rfl, rfl⟩
      · rw [Timed.setClock_other hj]
        exact ⟨rfl, rfl⟩

/-- It changes no deadline, and revives no socket. -/
theorem Turned.deadline {timedOut : Bool} (h : Turned t i timedOut t') (j : Sid) :
    (t'.clocks j).watch.deadline = (t.clocks j).watch.deadline
      ∧ ((t'.world.sessions j).finalized = false → (t.world.sessions j).finalized = false) := by
  by_cases hj : j = i
  · subst hj
    cases h with
    | again _ _ _ =>
        rw [Timed.setClock_self]
        refine ⟨?_, id⟩
        unfold Clock.loopHead
        split <;> rfl
    | returned _ =>
        rw [Timed.setClock_self]
        exact ⟨rfl, id⟩
    | closed hlive _ _ =>
        rw [Timed.setClock_self]
        exact ⟨rfl, fun _ => hlive⟩
  · cases h with
    | again _ _ _ =>
        rw [Timed.setClock_other hj]
        exact ⟨rfl, id⟩
    | returned _ =>
        rw [Timed.setClock_other hj]
        exact ⟨rfl, id⟩
    | closed _ _ _ =>
        rw [Timed.setClock_other hj, Timed.setClock_world, finalize_other _ hj]
        exact ⟨rfl, id⟩

/-- The times of the bookkeeping are those of steps of the run. -/
structure Ledger (cfg : EcuConfig) (timeouts : Timeouts) (start : Timed) (es : List Event)
    (t : Timed) (i : Sid) : Prop where
  now : (t.clocks i).lastTraffic ≤ t.now
  earlier : ∀ since, (t.clocks i).lastTraffic ≤ since →
    QuietSince cfg timeouts start es i since
  traffic : (t.world.sessions i).activated = true → ∀ since,
    (QuietSince cfg timeouts start es i since ↔ (t.clocks i).lastTraffic ≤ since)
  unopened : t.world.opened ≤ i → ∀ since, OpenSince cfg timeouts start es i since
  opened : i < t.world.opened → ∀ since,
    (OpenSince cfg timeouts start es i since ↔ (t.clocks i).openedAt ≤ since)

/-- A step that is no step of the connections enters nothing. -/
theorem Ledger.pass {start : Timed} {es : List Event} {e : Event}
    (h : Ledger cfg timeouts start es t i)
    (ht : Transition.exec (step cfg timeouts) start es = some t)
    (hstep : step cfg timeouts t e = some t') (he : ∀ e', e ≠ .world e') (hnow : t.now ≤ t'.now)
    (hopened : t'.world.opened = t.world.opened)
    (hactivated : (t'.world.sessions i).activated = (t.world.sessions i).activated)
    (hopenedAt : (t'.clocks i).openedAt = (t.clocks i).openedAt)
    (hlast : (t'.clocks i).lastTraffic = (t.clocks i).lastTraffic) :
    Ledger cfg timeouts start (es ++ [e]) t' i := by
  have hquiet : ∀ since, QuietSince cfg timeouts start (es ++ [e]) i since
      ↔ QuietSince cfg timeouts start es i since := by
    intro since
    apply (Transition.everyStep_snoc ht hstep).trans
    apply and_iff_left
    rintro ⟨e', heq, _⟩
    exact absurd heq (he e')
  have hopen : ∀ since, OpenSince cfg timeouts start (es ++ [e]) i since
      ↔ OpenSince cfg timeouts start es i since := by
    intro since
    apply (Transition.everyStep_snoc ht hstep).trans
    exact and_iff_left fun heq => absurd heq.1 (he _)
  constructor
  · exact hlast ▸ h.now.trans hnow
  · intro since hle
    exact (hquiet since).mpr (h.earlier since (hlast ▸ hle))
  · intro hact since
    rw [hquiet, hlast]
    exact h.traffic (hactivated ▸ hact) since
  · intro hle since
    exact (hopen since).mpr (h.unopened (hopened ▸ hle) since)
  · intro hlt since
    rw [hopen, hopenedAt]
    exact h.opened (hopened ▸ hlt) since

/-- A step of the connections enters what it does. -/
theorem Ledger.advance {start : Timed} {es : List Event} {e : VirtualEcu.Event}
    (h : Ledger cfg timeouts start es t i) (hkept : Kept timeouts t)
    (ht : Transition.exec (step cfg timeouts) start es = some t)
    (hstep : step cfg timeouts t (.world e) = some t')
    (hmoves : VirtualEcu.step cfg t.world e = some w') (ht' : t' = t.advance timeouts e w') :
    Ledger cfg timeouts start (es ++ [.world e]) t' i := by
  subst ht'
  -- both histories grow by the one step, so a bound on them splits into the old part and this
  -- step
  have hquiet : ∀ since, QuietSince cfg timeouts start (es ++ [.world e]) i since
      ↔ QuietSince cfg timeouts start es i since
        ∧ (Supervision.traffic e i (t.world.sessions i) (w'.sessions i) = true →
          t.now ≤ since) := by
    intro since
    apply (Transition.everyStep_snoc ht hstep).trans
    apply and_congr_right
    intro _
    constructor
    · intro hold htraffic
      exact hold ⟨e, rfl, htraffic⟩
    · rintro hold ⟨e', heq, htraffic⟩
      cases heq
      exact hold htraffic
  -- the same for the histories of openings
  have hopen : ∀ since, OpenSince cfg timeouts start (es ++ [.world e]) i since
      ↔ OpenSince cfg timeouts start es i since
        ∧ (e = .accept ∧ i = t.world.opened → t.now ≤ since) := by
    intro since
    apply (Transition.everyStep_snoc ht hstep).trans
    apply and_congr_right
    intro _
    constructor
    · rintro hold ⟨rfl, hi⟩
      exact hold ⟨rfl, hi.symm⟩
    · rintro hold ⟨heq, hi⟩
      cases heq
      exact hold ⟨rfl, hi.symm⟩
  by_cases hnew : e = .accept ∧ i = t.world.opened
  · -- a new socket: nothing before it is its traffic that counts
    have hclock : (t.advance timeouts e w').clocks i = Clock.start timeouts t.now := if_pos hnew
    have hnot : ¬ (w'.sessions i).activated = true := by
      obtain ⟨rfl, rfl⟩ := hnew
      cases hmoves
      exact fun hact => absurd (hkept.shape.opened _ (.inr hact)) (Nat.lt_irrefl _)
    -- the bounds in the order of the structure: last traffic, what came earlier, traffic, opened
    constructor
    · rw [hclock]
      exact Int.le_refl t.now
    · intro since hle
      rw [hclock] at hle
      exact (hquiet since).mpr ⟨h.earlier since (h.now.trans hle), fun _ => hle⟩
    · exact fun hact => absurd hact hnot
    · intro hle
      obtain ⟨rfl, rfl⟩ := hnew
      cases hmoves
      exact absurd hle (Nat.not_succ_le_self _)
    · intro _ since
      rw [hclock, hopen]
      constructor
      · exact fun hboth => hboth.2 hnew
      · exact fun hle => ⟨h.unopened (hnew.2 ▸ Nat.le_refl _) since, fun _ => hle⟩
  · have hclock : (t.advance timeouts e w').clocks i
        = (t.clocks i).observe timeouts t.now e i (t.world.sessions i) (w'.sessions i) :=
      if_neg hnew
    obtain ⟨hopenedAt, hlast⟩ := Clock.observe_book timeouts i
      (t.world.sessions i) (w'.sessions i) t.now e (t.clocks i)
    -- a socket that is there already: the clock has noted the traffic, and nothing else
    rw [← hclock] at hopenedAt hlast
    -- only an accept moves the count of opened sockets, and this one is about another socket
    have hopened : w'.opened ≤ i ↔ t.world.opened ≤ i := by
      by_cases he : e = .accept
      · subst he
        cases hmoves
        have hne : i ≠ t.world.opened := fun hi => hnew ⟨rfl, hi⟩
        exact ⟨Nat.le_of_succ_le, fun hle => Nat.lt_of_le_of_ne hle (Ne.symm hne)⟩
      · rw [opened_eq hkept.shape hmoves he]
    -- the earlier bound is lowered only where the step is traffic, and then to the present
    have hearlier : ∀ since, ((t.advance timeouts e w').clocks i).lastTraffic ≤ since →
        QuietSince cfg timeouts start (es ++ [.world e]) i since := by
      intro since hle
      rw [hlast] at hle
      rw [hquiet]
      split at hle
      · exact ⟨h.earlier since (h.now.trans hle), fun _ => hle⟩
      · rename_i hidle
        exact ⟨h.earlier since hle, fun htraffic => absurd htraffic hidle⟩
    -- the bounds again: each follows from the old one, whether or not the step is traffic
    constructor
    · rw [hlast]
      split
      · exact Int.le_refl t.now
      · exact h.now
    · exact hearlier
    · intro hact since
      refine ⟨?_, hearlier since⟩
      intro hboth
      obtain ⟨hbefore, hthis⟩ := (hquiet since).mp hboth
      rw [hlast]
      split
      · rename_i htraffic
        exact hthis htraffic
      · -- no activation in this step: the socket was active before
        rename_i hidle
        have hactive : (t.world.sessions i).activated = true := by
          rw [← Bool.not_eq_false]
          intro hfresh
          apply hidle
          have hact' : (w'.sessions i).activated = true := hact
          simp [Supervision.traffic, activates, hfresh, hact']
        exact (h.traffic hactive since).mp hbefore
    · intro hle since
      exact (hopen since).mpr ⟨h.unopened (hopened.mp hle) since, fun h => absurd h hnew⟩
    · intro hlt since
      have hlt' : i < t.world.opened := by
        rw [← Nat.not_le] at hlt ⊢
        exact fun hle => hlt (hopened.mpr hle)
      rw [hopen, hopenedAt, and_iff_left fun h => absurd h hnew]
      exact h.opened hlt' since

/-- The bookkeeping of every socket goes back to the run. -/
theorem ledger_run {now : Int} (es : List Event)
    (h : Transition.exec (step cfg timeouts) (Timed.init cfg timeouts now) es = some t) :
    Ledger cfg timeouts (Timed.init cfg timeouts now) es t i := by
  refine (Transition.exec_history
    (fun es t => Transition.exec (step cfg timeouts) (Timed.init cfg timeouts now) es = some t
      ∧ Ledger cfg timeouts (Timed.init cfg timeouts now) es t i) ⟨rfl, ?_⟩ ?_ es t h).2
  · have hnothing : ∀ R : Timed → Event → Timed → Prop,
        Transition.EveryStep (step cfg timeouts) R (Timed.init cfg timeouts now) [] := by
      intro R before e after u u' hsplit
      exact absurd hsplit.symm (by simp)
    exact {
      now := Int.le_refl now
      earlier := fun _ _ => hnothing _
      traffic := fun hact => absurd hact Bool.false_ne_true
      unopened := fun _ _ => hnothing _
      opened := fun hlt => absurd hlt (Nat.not_lt_zero i) }
  · rintro es t e t' ⟨ht, hledger⟩ hstep
    refine ⟨Transition.exec_snoc ht hstep, ?_⟩
    cases e with
    | tick ms =>
        have htick : { t with now := t.now + ms } = t' := Option.some.inj hstep
        subst htick
        exact hledger.pass ht hstep (by simp) (by dsimp only; omega) rfl rfl rfl rfl
    | world e =>
        have hmoves : (VirtualEcu.step cfg t.world e).map (t.advance timeouts e) = some t' := by
          cases e <;> first | exact hstep | cases hstep
        obtain ⟨w', hw', ht'⟩ := Option.map_eq_some_iff.mp hmoves
        exact hledger.advance (kept_run es ht) ht hstep hw' ht'.symm
    | supervise j timedOut =>
        have hturn := hstep
        simp only [step, Option.ite_none_right_eq_some] at hturn
        obtain ⟨hnow, hopened, hact, hopenedAt, hlast⟩ := (supervise_turned hturn.2).book i
        exact hledger.pass ht hstep (by simp) (by omega) hopened hact hopenedAt hlast

/-! ## §7. Inactivity. -/

/-- At `now` the socket had been silent for as long as its timer says: since
it was accepted, while it is not activated, and else since the last traffic. -/
def Silent (cfg : EcuConfig) (timeouts : Timeouts) (start : Timed) (es : List Event) (t : Timed)
    (i : Sid) (now : Int) : Prop :=
  if (t.world.sessions i).activated then
    0 < timeouts.generalInactivityMs
      ∧ QuietSince cfg timeouts start es i (now - timeouts.generalInactivityMs)
  else
    0 < timeouts.initialInactivityMs
      ∧ OpenSince cfg timeouts start es i (now - timeouts.initialInactivityMs)

/-- A timer of the socket has reached its deadline. -/
def Elapsed (c : Clock) (now : Int) : Prop :=
  ∃ timer d, c.watch.deadline timer = some d ∧ d ≤ now

/-- What a live socket sleeps towards in its phase. -/
theorem Supervised.deadline (h : Supervised timeouts now s c) {timer : Timer} {d : Int}
    (hd : c.watch.deadline timer = some d) :
    s.activated = true ∧ timer = .general ∧ 0 < timeouts.generalInactivityMs
        ∧ d = c.lastTraffic + timeouts.generalInactivityMs
      ∨ s.activated = false ∧ timer = .initial ∧ 0 < timeouts.initialInactivityMs
        ∧ d = c.openedAt + timeouts.initialInactivityMs := by
  have hinitial := h.initial
  have hgeneral := h.general
  cases timer with
  | initial =>
      cases hact : s.activated with
      | true => simp [hact, hd] at hinitial
      | false =>
          rw [hact] at hinitial
          obtain ⟨hpos, rfl⟩ := armed_eq_some.mp (hinitial.symm.trans hd)
          exact .inr ⟨rfl, rfl, hpos, rfl⟩
  | general =>
      cases hact : s.activated with
      | true =>
          rw [hact] at hgeneral
          obtain ⟨hpos, rfl⟩ := armed_eq_some.mp (hgeneral.symm.trans hd)
          exact .inl ⟨rfl, rfl, hpos, rfl⟩
      | false => simp [hact, hd] at hgeneral

/-- A socket is silent iff the timer of its phase has elapsed. -/
theorem silent_iff {start : Timed} {es : List Event}
    (hledger : Ledger cfg timeouts start es t i)
    (hclock : Supervised timeouts t.now (t.world.sessions i) (t.clocks i))
    (hopen : i < t.world.opened) :
    Silent cfg timeouts start es t i now ↔ Elapsed (t.clocks i) now := by
  unfold Silent
  constructor
  · intro hsilent
    split at hsilent
    · rename_i hact
      obtain ⟨hpos, hquiet⟩ := hsilent
      have hle := (hledger.traffic hact _).mp hquiet
      refine ⟨.general, (t.clocks i).lastTraffic + timeouts.generalInactivityMs, ?_, by omega⟩
      rw [hclock.general, if_pos hact]
      exact armed_eq_some.mpr ⟨hpos, rfl⟩
    · rename_i hfresh
      obtain ⟨hpos, hquiet⟩ := hsilent
      have hle := (hledger.opened hopen _).mp hquiet
      refine ⟨.initial, (t.clocks i).openedAt + timeouts.initialInactivityMs, ?_, by omega⟩
      rw [hclock.initial, if_neg hfresh]
      exact armed_eq_some.mpr ⟨hpos, rfl⟩
  · rintro ⟨timer, d, hd, hle⟩
    rcases hclock.deadline hd with ⟨hact, _, hpos, rfl⟩ | ⟨hfresh, _, hpos, rfl⟩
    · rw [if_pos hact, hledger.traffic hact]
      exact ⟨hpos, by omega⟩
    · rw [if_neg (by simp [hfresh]), hledger.opened hopen]
      exact ⟨hpos, by omega⟩

/-- The timeout of a live socket's supervisor finds an elapsed timer or none. -/
theorem closes_iff {timedOut : Bool} (hlive : (t.world.sessions i).finalized = false)
    (h : Turned t i timedOut t') :
    (t'.world.sessions i).finalized = true
      ↔ timedOut = true ∧ Elapsed (t.clocks i) t.now := by
  cases h with
  | again _ hwhy hearly =>
      rw [Timed.setClock_world, hlive]
      refine iff_of_false (by decide) ?_
      rintro ⟨htimedOut, timer, d, hd, hle⟩
      have hsome := Watch.elapsed_isSome (mem_timers timer) hd hle
      rw [hearly htimedOut] at hsome
      cases hsome
  | returned hfin => exact absurd (hlive.symm.trans hfin) (by decide)
  | closed _ timer helapsed =>
      rw [Timed.setClock_world, finalize_self]
      obtain ⟨d, hd, hle⟩ := Watch.elapsed_eq_some helapsed
      exact iff_of_true rfl ⟨rfl, timer, d, hd, hle⟩

/-- **A turn of the supervisor closes a live socket iff it comes from the
timeout and the socket has been silent for as long as its timer says**, in
every run of the connections, their tasks and the clock. -/
theorem supervise_closes_iff (cfg : EcuConfig) (timeouts : Timeouts) (now : Int)
    (es : List Event) (t t' : Timed) (i : Sid) (timedOut : Bool)
    (hrun : Transition.exec (step cfg timeouts) (Timed.init cfg timeouts now) es = some t)
    (hlive : (t.world.sessions i).finalized = false)
    (hturn : step cfg timeouts t (.supervise i timedOut) = some t') :
    (t'.world.sessions i).finalized = true
      ↔ timedOut = true ∧ Silent cfg timeouts (Timed.init cfg timeouts now) es t i t.now := by
  simp only [step, Option.ite_none_right_eq_some] at hturn
  obtain ⟨hopen, hturn⟩ := hturn
  rw [closes_iff hlive (supervise_turned hturn),
    silent_iff (ledger_run es hrun) ((kept_run es hrun).supervised i hopen hlive) hopen]

/-- The supervisor of `i` has a reason to run. -/
def Due (t : Timed) (i : Sid) : Prop :=
  (t.clocks i).supervisor = .starting
    ∨ (t.clocks i).supervisor = .asleep
      ∧ ((t.clocks i).watch.kicked = true ∨ ∃ d, (t.clocks i).watch.wake = some d ∧ d ≤ t.now)

/-- The supervisor does not sleep through a deadline. -/
theorem Supervised.due (h : Supervised timeouts t.now (t.world.sessions i) (t.clocks i))
    (helapsed : Elapsed (t.clocks i) t.now) : Due t i := by
  obtain ⟨timer, d, hd, hle⟩ := helapsed
  cases hsupervisor : (t.clocks i).supervisor with
  | starting => exact .inl hsupervisor
  | asleep => exact .inr ⟨hsupervisor, (h.covered hsupervisor).due hd hle⟩
  | gone => exact absurd hsupervisor h.alive

/-- A supervisor that is due can run, unless it only has the timeout to go by. -/
theorem due_turn (hopen : i < t.world.opened) (h : Due t i) :
    ∃ timedOut t', step cfg timeouts t (.supervise i timedOut) = some t' := by
  have hstep : ∀ b, step cfg timeouts t (.supervise i b) = t.supervise i b :=
    fun _ => if_pos hopen
  rcases h with hstarting | ⟨hasleep, hkicked | ⟨d, hwake, _⟩⟩
  · refine ⟨false, t.setClock i ((t.clocks i).loopHead (t.world.sessions i)),
      (hstep false).trans ?_⟩
    unfold Timed.supervise
    dsimp only
    rw [hstarting]
  · refine ⟨false, t.setClock i ((t.clocks i).loopHead (t.world.sessions i)),
      (hstep false).trans ?_⟩
    unfold Timed.supervise
    dsimp only
    rw [hasleep]
    exact if_pos hkicked
  · refine ⟨true, t.superviseTimeout i, (hstep true).trans ?_⟩
    unfold Timed.supervise
    dsimp only
    rw [hasleep]
    exact if_pos (by rw [hwake]; rfl)

/-- The supervisor that lies down over an elapsed timer wakes at once, and
closes the socket. -/
theorem again_closes (hopen : i < t.world.opened)
    (hlive : (t.world.sessions i).finalized = false) (helapsed : Elapsed (t.clocks i) t.now)
    (ht' : t' = t.setClock i ((t.clocks i).loopHead (t.world.sessions i))) :
    ∃ t'', step cfg timeouts t' (.supervise i true) = some t''
      ∧ (t''.world.sessions i).finalized = true := by
  subst ht'
  obtain ⟨timer, d, hd, hle⟩ := helapsed
  have hclock : (t.clocks i).loopHead (t.world.sessions i)
      = { t.clocks i with supervisor := .asleep, watch := (t.clocks i).watch.rest timers } :=
    if_neg (by simp [hlive])
  rw [hclock]
  obtain ⟨wake, hwake, _⟩ := Watch.least_le (mem_timers timer) hd
  have hturn : (t.setClock i { t.clocks i with
      supervisor := .asleep, watch := (t.clocks i).watch.rest timers }).supervise i true
      = some ((t.setClock i { t.clocks i with
          supervisor := .asleep,
          watch := (t.clocks i).watch.rest timers }).superviseTimeout i) := by
    unfold Timed.supervise
    rw [Timed.setClock_self]
    exact if_pos (by rw [Watch.rest, hwake]; rfl)
  refine ⟨_, (if_pos hopen).trans hturn, ?_⟩
  rw [closes_iff (by rw [Timed.setClock_world]; exact hlive) (supervise_turned hturn)]
  refine ⟨rfl, timer, d, ?_, hle⟩
  rw [Timed.setClock_self]
  exact hd

/-- A tester activates socket 0 and says nothing more. -/
def fallsSilent : List Event :=
  (asks 0 0x0E00 ++ [VirtualEcu.Event.sent 0]).map .world ++ [.supervise 0 false, .tick 300000]

theorem fallsSilent_run :
    ∃ t t', Transition.exec (step {} {}) (Timed.init {} {} 0) fallsSilent = some t
      ∧ step {} {} t (.supervise 0 true) = some t' ∧ 0 < t.world.opened
      ∧ (t.world.sessions 0).finalized = false ∧ (t'.world.sessions 0).finalized = true := by
  have hrun : ((Transition.exec (step {} {}) (Timed.init {} {} 0) fallsSilent).bind fun t =>
      (step {} {} t (.supervise 0 true)).map fun t' =>
        [decide (0 < t.world.opened), !(t.world.sessions 0).finalized,
          (t'.world.sessions 0).finalized])
      = some [true, true, true] := by decide
  obtain ⟨t, ht, hstep⟩ := Option.bind_eq_some_iff.mp hrun
  obtain ⟨t', ht', heq⟩ := Option.map_eq_some_iff.mp hstep
  simp only [List.cons.injEq, Bool.not_eq_true', decide_eq_true_eq, and_true] at heq
  exact ⟨t, t', ht, ht', heq.1, heq.2.1, heq.2.2⟩

theorem supervise_closes_idle :
    ∃ t, Transition.exec (step {} {}) (Timed.init {} {} 0) fallsSilent = some t
      ∧ Silent {} {} (Timed.init {} {} 0) fallsSilent t 0 t.now := by
  obtain ⟨t, t', ht, ht', _, hlive, hclosed⟩ := fallsSilent_run
  exact ⟨t, ht, ((supervise_closes_iff {} {} 0 fallsSilent t t' 0 true ht hlive ht').mp hclosed).2⟩

/-- **A silent socket is closed**: its supervisor is due, and the first or the
second turn it takes closes the socket. -/
theorem silent_closed (cfg : EcuConfig) (timeouts : Timeouts) (now : Int) (es : List Event)
    (t : Timed) (i : Sid)
    (hrun : Transition.exec (step cfg timeouts) (Timed.init cfg timeouts now) es = some t)
    (hopen : i < t.world.opened) (hlive : (t.world.sessions i).finalized = false)
    (hsilent : Silent cfg timeouts (Timed.init cfg timeouts now) es t i t.now) :
    Due t i
      ∧ (∃ timedOut t', step cfg timeouts t (.supervise i timedOut) = some t')
      ∧ ∀ timedOut t', step cfg timeouts t (.supervise i timedOut) = some t' →
          (t'.world.sessions i).finalized = true
            ∨ ∃ t'', step cfg timeouts t' (.supervise i true) = some t''
                ∧ (t''.world.sessions i).finalized = true := by
  have hclock := (kept_run es hrun).supervised i hopen hlive
  have helapsed := (silent_iff (ledger_run es hrun) hclock hopen).mp hsilent
  have hdue := hclock.due helapsed
  refine ⟨hdue, due_turn hopen hdue, ?_⟩
  intro timedOut t' hturn
  simp only [step, Option.ite_none_right_eq_some] at hturn
  have hturned := supervise_turned hturn.2
  cases timedOut with
  | true =>
      left
      exact (closes_iff hlive hturned).mpr ⟨rfl, helapsed⟩
  | false =>
      right
      cases hturned with
      | again _ _ _ => exact again_closes hopen hlive helapsed rfl

theorem silent_closed_idle :
    ∃ t, Transition.exec (step {} {}) (Timed.init {} {} 0) fallsSilent = some t ∧ Due t 0 := by
  obtain ⟨t, t', ht, ht', hopen, hlive, hclosed⟩ := fallsSilent_run
  have hturned : Turned t 0 true t' := supervise_turned ((if_pos hopen).symm.trans ht')
  have hsilent := (silent_iff (ledger_run fallsSilent ht)
    ((kept_run fallsSilent ht).supervised 0 hopen hlive) hopen).mpr
    ((closes_iff hlive hturned).mp hclosed).2
  exact ⟨t, ht, (silent_closed {} {} 0 fallsSilent t 0 ht hopen hlive hsilent).1⟩

/-! ## §8. Without delay. -/

/-- Time passes, a millisecond at a time, only when no supervisor of a live
socket has anything to do. -/
def Punctual (t : Timed) (e : Event) : Prop :=
  ∀ ms, e = .tick ms → ms ≤ 1 ∧
    ∀ i, i < t.world.opened → (t.world.sessions i).finalized = false → ¬ Due t i

instance (t : Timed) (i : Sid) : Decidable (Due t i) := by
  unfold Due
  have : Decidable (∃ d, (t.clocks i).watch.wake = some d ∧ d ≤ t.now) :=
    Option.decidableExistsMem (p := fun d => d ≤ t.now) (t.clocks i).watch.wake
  infer_instance

instance (t : Timed) : ∀ e, Decidable (Punctual t e)
  | .tick ms =>
      decidable_of_iff (ms ≤ 1 ∧
        ∀ i, i < t.world.opened → (t.world.sessions i).finalized = false → ¬ Due t i) (by
        constructor
        · intro h ms' heq
          cases heq
          exact h
        · intro h
          exact h ms rfl)
  | .world _ => .isTrue (by intro _ heq; cases heq)
  | .supervise _ _ => .isTrue (by intro _ heq; cases heq)

/-- The deadlines of a live socket are still to come. -/
def InTime (t : Timed) : Prop :=
  ∀ i, i < t.world.opened → (t.world.sessions i).finalized = false →
    ¬ Elapsed (t.clocks i) (t.now - 1)

theorem inTime_step {e : Event} (hkept : Kept timeouts t) (h : InTime t) (hok : Punctual t e)
    (hstep : step cfg timeouts t e = some t') : InTime t' := by
  have hkept' := hkept.step hstep
  intro i hopen' hlive'
  rintro ⟨timer, d, hd, hle⟩
  have hphase := (hkept'.supervised i hopen' hlive').deadline hd
  cases e with
  | tick ms =>
      cases hstep
      obtain ⟨hms, hidle⟩ := hok ms rfl
      -- time does not pass while a supervisor is due
      have hnot : ¬ Elapsed (t.clocks i) t.now := fun helapsed =>
        hidle i hopen' hlive' ((hkept.supervised i hopen' hlive').due helapsed)
      apply hnot
      refine ⟨timer, d, hd, ?_⟩
      dsimp only at hle
      omega
  | world e =>
      have hmoves : (VirtualEcu.step cfg t.world e).map (t.advance timeouts e) = some t' := by
        cases e <;> first | exact hstep | cases hstep
      obtain ⟨w', hw', rfl⟩ := Option.map_eq_some_iff.mp hmoves
      rcases live_before hkept.shape hw' hopen' hlive' with ⟨hnew, hfresh⟩ | ⟨hold, hopen, hlive⟩
      · -- the timer of a new socket starts now
        have hclock : (t.advance timeouts e w').clocks i = Clock.start timeouts t.now :=
          if_pos hnew
        rw [hclock] at hphase
        rcases hphase with ⟨_, _, hpos, rfl⟩ | ⟨_, _, hpos, rfl⟩
        · have hle' : t.now + timeouts.generalInactivityMs ≤ t.now - 1 := hle
          omega
        · have hle' : t.now + timeouts.initialInactivityMs ≤ t.now - 1 := hle
          omega
      · have hclock : (t.advance timeouts e w').clocks i
            = (t.clocks i).observe timeouts t.now e i (t.world.sessions i) (w'.sessions i) :=
          if_neg hold
        obtain ⟨hopenedAt, hlast⟩ := Clock.observe_book timeouts i
          (t.world.sessions i) (w'.sessions i) t.now e (t.clocks i)
        have hbefore := hkept.supervised i hopen hlive
        rw [hclock, hopenedAt, hlast] at hphase
        have hle' : d ≤ t.now - 1 := hle
        rcases hphase with ⟨hact', _, hpos, rfl⟩ | ⟨hact', _, hpos, rfl⟩
        · split at hle'
          · omega
          · rename_i hidle
            have hact : (t.world.sessions i).activated = true := by
              rw [← Bool.not_eq_false]
              intro hfresh
              apply hidle
              have hactive : (w'.sessions i).activated = true := hact'
              simp [traffic, activates, hfresh, hactive]
            -- no traffic in this step, so the deadline is the old one
            apply h i hopen hlive
            refine ⟨.general, _, ?_, hle'⟩
            rw [hbefore.general, if_pos hact]
            exact armed_eq_some.mpr ⟨hpos, rfl⟩
        · have hact : (t.world.sessions i).activated = false := by
            rw [← Bool.not_eq_true] at hact' ⊢
            exact fun hact => hact' ((Stays.step hkept.shape hw' hact).activated.trans hact)
          apply h i hopen hlive
          refine ⟨.initial, _, ?_, hle'⟩
          rw [hbefore.initial, if_neg (by simp [hact])]
          exact armed_eq_some.mpr ⟨hpos, rfl⟩
  | supervise j timedOut =>
      simp only [step, Option.ite_none_right_eq_some] at hstep
      have hturned := supervise_turned hstep.2
      obtain ⟨hnow, hopened, _⟩ := hturned.book i
      obtain ⟨hdeadline, hlive⟩ := hturned.deadline i
      rw [hdeadline] at hd
      rw [hnow] at hle
      exact h i (hopened ▸ hopen') (hlive hlive') ⟨timer, d, hd, hle⟩

/-- **No socket outstays its timer**: where time waits for the supervisors, a
live socket has at no time been silent for longer than its timer says. -/
theorem closed_on_time (cfg : EcuConfig) (timeouts : Timeouts) (now : Int) (es : List Event)
    (t : Timed) (i : Sid)
    (hrun : Transition.exec (step cfg timeouts) (Timed.init cfg timeouts now) es = some t)
    (hpunctual : Transition.Along (step cfg timeouts) Punctual (Timed.init cfg timeouts now) es)
    (hopen : i < t.world.opened) (hlive : (t.world.sessions i).finalized = false) :
    ¬ Silent cfg timeouts (Timed.init cfg timeouts now) es t i (t.now - 1) := by
  have hkept := kept_run es hrun
  rw [silent_iff (ledger_run es hrun) (hkept.supervised i hopen hlive) hopen]
  refine (Transition.exec_invariant_along (fun t => Kept timeouts t ∧ InTime t) ?_ es _ t
    ⟨kept_init cfg timeouts now, ?_⟩ hpunctual hrun).2 i hopen hlive
  · rintro t e t' ⟨hkept, hin⟩ hok hstep
    exact ⟨hkept.step hstep, inTime_step hkept hin hok hstep⟩
  · intro j hj
    exact absurd hj (Nat.not_lt_zero j)

/-- The same within a few milliseconds, up to the deadline of the general
timer: no supervisor oversleeps. -/
def soonSilent : List Event :=
  [.world .accept, .supervise 0 false, .tick 1]
    ++ ((asks 0 0x0E00).tail ++ [VirtualEcu.Event.sent 0]).map .world
    ++ [.supervise 0 false, .tick 1, .tick 1, .tick 1]

theorem closed_on_time_deadline :
    ∃ t, Transition.exec (step {} ⟨2, 3⟩) (Timed.init {} ⟨2, 3⟩ 0) soonSilent = some t
      ∧ Silent {} ⟨2, 3⟩ (Timed.init {} ⟨2, 3⟩ 0) soonSilent t 0 t.now
      ∧ ¬ Silent {} ⟨2, 3⟩ (Timed.init {} ⟨2, 3⟩ 0) soonSilent t 0 (t.now - 1) := by
  have hrun : (Transition.exec (step {} ⟨2, 3⟩) (Timed.init {} ⟨2, 3⟩ 0) soonSilent).map (fun t =>
      (decide (0 < t.world.opened), (t.world.sessions 0).finalized, t.now,
        (t.clocks 0).watch.deadline .general)) = some (true, false, 4, some 4) := by decide
  obtain ⟨t, ht, heq⟩ := Option.map_eq_some_iff.mp hrun
  simp only [Prod.mk.injEq, decide_eq_true_eq] at heq
  obtain ⟨hopen, hlive, hnow, hdeadline⟩ := heq
  have hsupervised := (kept_run soonSilent ht).supervised 0 hopen hlive
  refine ⟨t, ht, (silent_iff (ledger_run soonSilent ht) hsupervised hopen).mpr ?_,
    closed_on_time {} ⟨2, 3⟩ 0 soonSilent t 0 ht (by decide) hopen hlive⟩
  exact ⟨.general, 4, hdeadline, hnow.ge⟩

end DoipPlayground.VirtualEcu.Supervision
