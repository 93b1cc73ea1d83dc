/-
  DoipPlayground.EdgeNode.Inactivity
  ──────────────────────────────────
  **THE INACTIVITY TIMERS OF A SESSION, AGAINST THE CLOCK.**

  A session of the EdgeNode is closed by the initial timer if it reads no
  request for an activation, and by the general one if it is activated and
  reads nothing.  Each timer is a task of its own that sleeps; the session
  loop cancels it and starts the next one.  Silence is that of the session:
  a frame that waits on the socket while the loop is held in an exchange does
  not break it.

    • `step` — the session loop as far as the timers see it, and the clock,
    • `Inv` — which timers are armed at each point of the loop, and until when,
    • `inactivity_closes_silent` — when a timer runs out, nothing had been read,
    • `silent_session_closed` — and no session hears nothing for longer.

  The timers, the start of the clean-up and its steps are those of
  `SessionTasks`; the legs to the ECUs have no timer and are left out.
-/
import DoipPlayground.EdgeNode.Teardown

namespace DoipPlayground.EdgeNode.Teardown.Inactivity

open Transition

/-! ## §1. The loop and the clock. -/

/-- Section `timers` of the configuration, in ticks. -/
structure Timeouts where
  /-- `t_tcp_initial_inactivity_s` -/
  initial : Nat
  /-- `t_tcp_general_inactivity_s` -/
  general : Nat

/-- Where the session loop is. -/
inductive Loop where
  /-- In `_read_frame`, or in a handler but the next two. -/
  | reading
  /-- A Routing Activation Request is being decided: its locks, its probes, a
  refusal on its way out. -/
  | activating
  /-- `await self._send_routing_activation_response(0x10, src_addr)` -/
  | confirming
  deriving DecidableEq, Repr

structure Timed where
  session : Session
  loop : Loop := .reading
  now : Nat := 0
  /-- Until when a timer task sleeps. -/
  deadline : Tid → Nat := fun _ => 0

def Timed.init (me : Sid) : Timed where
  session := Session.init me

inductive Event where
  | tick (ticks : Nat)
  /-- `run()` is called. -/
  | run (x : Tid)
  /-- A frame was read and not rejected; `request` when it is a Routing
  Activation Request. -/
  | frame (request : Bool) (x : Tid)
  /-- The tester is registered. -/
  | commit (sa : SA)
  | confirmed (x : Tid)
  /-- The loop ends or raises. -/
  | ends
  /-- The sleep of a timer is over, or it was cancelled. -/
  | expired (x : Tid)
  | cancelled (x : Tid)
  | evict
  | caller (k : Nat) (e : Session.CallerEvent)
  | cleanup
  deriving DecidableEq, Repr

namespace Timed

variable (t : Timed)

/-- The timer task `x` lies down. -/
def sleep (x : Tid) (ticks : Nat) (s : Session) : Timed :=
  { t with session := s, deadline := Function.update t.deadline x (t.now + ticks) }

/-- A frame of an activated tester puts its timer off. -/
def heard (timeouts : Timeouts) (x : Tid) : Option Timed :=
  if t.session.activated then
    if t.session.timers x = .unused then
      some (t.sleep x timeouts.general (t.session.resetInactivityTimer x))
    else none
  else some t

/-- `_dispatch`: a request stops the initial timer, if the session is open. -/
def dispatch (request : Bool) : Timed :=
  if request ∧ t.session.closing = false then
    { t with session := t.session.cancelInitialTimer, loop := .activating }
  else t

end Timed

def step (timeouts : Timeouts) (me : Sid) (t : Timed) : Event → Option Timed
  | .tick ticks => some { t with now := t.now + ticks }
  | .run x =>
      if t.session.run ≠ .notStarted then none
      else if t.session.closing then some { t with session := t.session.leaveLoop me }
      else if t.session.timers x = .unused then
        some (t.sleep x timeouts.initial { t.session.startInitialTimer x with run := .serving })
      else none
  | .frame request x =>
      if t.session.run = .serving ∧ t.loop = .reading then
        (t.heard timeouts x).map (Timed.dispatch · request)
      else none
  | .commit sa =>
      -- another address was turned away at the head of the handler
      if t.loop = .activating ∧ t.session.closing = false
          ∧ (t.session.activated → t.session.testerLogicalAddr = some sa) then
        some { t with session := t.session.activate me sa, loop := .confirming }
      else none
  | .confirmed x =>
      if t.loop = .confirming ∧ t.session.closing = false ∧ t.session.timers x = .unused then
        some { t.sleep x timeouts.general (t.session.resetInactivityTimer x) with
          loop := .reading }
      else none
  | .ends =>
      if t.session.run = .serving then
        some { t with session := t.session.leaveLoop me, loop := .reading }
      else none
  | .expired x =>
      if t.session.timers x = .running ∧ t.deadline x ≤ t.now then
        some { t with session := (t.session.scheduleCleanup me).timerEnded x }
      else none
  | .cancelled x =>
      if t.session.timers x = .cancelling then
        some { t with session := t.session.timerEnded x }
      else none
  | .evict => some { t with session := t.session.scheduleCleanup me }
  | .caller k e => (t.session.callerStep me k e).map fun s => { t with session := s }
  | .cleanup => (t.session.cleanupStep me).map fun s => { t with session := s }

/-- **A step that happens**, with the guards it passed. -/
inductive Effect (timeouts : Timeouts) (me : Sid) (t : Timed) : Event → Timed → Prop where
  | ticked (ticks : Nat) : Effect timeouts me t (.tick ticks) { t with now := t.now + ticks }
  | refused (x : Tid) (hnot : t.session.run = .notStarted) (hclosing : t.session.closing = true) :
      Effect timeouts me t (.run x) { t with session := t.session.leaveLoop me }
  | started (x : Tid) (hnot : t.session.run = .notStarted) (hopen : t.session.closing = false)
      (hfresh : t.session.timers x = .unused) :
      Effect timeouts me t (.run x)
        (t.sleep x timeouts.initial { t.session.startInitialTimer x with run := .serving })
  | received (request : Bool) (x : Tid) (u : Timed) (hserving : t.session.run = .serving)
      (hreading : t.loop = .reading) (hheard : t.heard timeouts x = some u) :
      Effect timeouts me t (.frame request x) (u.dispatch request)
  | committed (sa : SA) (hloop : t.loop = .activating) (hopen : t.session.closing = false)
      (haddr : t.session.activated → t.session.testerLogicalAddr = some sa) :
      Effect timeouts me t (.commit sa)
        { t with session := t.session.activate me sa, loop := .confirming }
  | confirmed (x : Tid) (hloop : t.loop = .confirming) (hfresh : t.session.timers x = .unused) :
      Effect timeouts me t (.confirmed x)
        { t.sleep x timeouts.general (t.session.resetInactivityTimer x) with loop := .reading }
  | ended (hserving : t.session.run = .serving) :
      Effect timeouts me t .ends { t with session := t.session.leaveLoop me, loop := .reading }
  | expired (x : Tid) (hrunning : t.session.timers x = .running) (hdue : t.deadline x ≤ t.now) :
      Effect timeouts me t (.expired x)
        { t with session := (t.session.scheduleCleanup me).timerEnded x }
  | cancelled (x : Tid) (hcancelling : t.session.timers x = .cancelling) :
      Effect timeouts me t (.cancelled x) { t with session := t.session.timerEnded x }
  | evicted : Effect timeouts me t .evict { t with session := t.session.scheduleCleanup me }
  | called (k : Nat) (e : Session.CallerEvent) (s : Session)
      (hcaller : t.session.callerStep me k e = some s) :
      Effect timeouts me t (.caller k e) { t with session := s }
  | cleaned (s : Session) (hcleanup : t.session.cleanupStep me = some s) :
      Effect timeouts me t .cleanup { t with session := s }

theorem effect_of_step {timeouts : Timeouts} {me : Sid} {t t' : Timed} {e : Event}
    (hstep : step timeouts me t e = some t') : Effect timeouts me t e t' := by
  cases e <;> unfold step at hstep <;> dsimp only at hstep
  case tick ticks =>
    cases hstep
    exact .ticked ticks
  case run x =>
    rw [Option.ite_none_left_eq_some, not_not] at hstep
    obtain ⟨hnot, hstep⟩ := hstep
    split at hstep
    · rename_i hclosing
      cases hstep
      exact .refused x hnot hclosing
    · rename_i hopen
      rw [Option.ite_none_right_eq_some, Option.some.injEq] at hstep
      obtain ⟨hfresh, rfl⟩ := hstep
      rw [Bool.not_eq_true] at hopen
      exact .started x hnot hopen hfresh
  case frame request x =>
    rw [Option.ite_none_right_eq_some] at hstep
    obtain ⟨⟨hserving, hreading⟩, hstep⟩ := hstep
    obtain ⟨u, hu, rfl⟩ := Option.map_eq_some_iff.mp hstep
    exact .received request x u hserving hreading hu
  case evict =>
    cases hstep
    exact .evicted
  case caller k ce =>
    obtain ⟨s, hs, rfl⟩ := Option.map_eq_some_iff.mp hstep
    exact .called k ce s hs
  case cleanup =>
    obtain ⟨s, hs, rfl⟩ := Option.map_eq_some_iff.mp hstep
    exact .cleaned s hs
  all_goals
    rw [Option.ite_none_right_eq_some, Option.some.injEq] at hstep
    obtain ⟨hguard, rfl⟩ := hstep
  case commit sa => exact .committed sa hguard.1 hguard.2.1 hguard.2.2
  case confirmed x => exact .confirmed x hguard.1 hguard.2.2
  case ends => exact .ended hguard
  case expired x => exact .expired x hguard.1 hguard.2
  case cancelled x => exact .cancelled x hguard

/-! ## §2. What was read of the tester. -/

/-- A Routing Activation Request was read and not rejected. -/
def Event.Asks : Event → Prop
  | .frame request _ => request = true
  | _ => False

instance : (e : Event) → Decidable e.Asks
  | .frame request _ => inferInstanceAs (Decidable (request = true))
  | .tick _ | .run _ | .commit _ | .confirmed _ => inferInstanceAs (Decidable False)
  | .ends | .expired _ | .cancelled _ => inferInstanceAs (Decidable False)
  | .evict | .caller _ _ | .cleanup => inferInstanceAs (Decidable False)

/-- How long nothing has been read after the event, if it was so long before. -/
def quietFor (ticks : Nat) : Event → Nat
  | .tick more => ticks + more
  | .frame _ _ | .confirmed _ => 0
  | _ => ticks

/-- The time since a frame was last read and not rejected, or since the tester
was told of its activation. -/
def silence (es : List Event) : Nat := es.foldl quietFor 0

def upFor (ticks : Nat) : Event → Nat
  | .tick more => ticks + more
  | .run _ => 0
  | _ => ticks

/-- The time since `run()` was called. -/
def uptime (es : List Event) : Nat := es.foldl upFor 0

theorem silence_snoc (es : List Event) (e : Event) :
    silence (es ++ [e]) = quietFor (silence es) e := by
  unfold silence
  rw [List.foldl_append]
  rfl

theorem uptime_snoc (es : List Event) (e : Event) : uptime (es ++ [e]) = upFor (uptime es) e := by
  unfold uptime
  rw [List.foldl_append]
  rfl

/-! ## §3. Which timers are armed. -/

variable {timeouts : Timeouts} {me : Sid} {es : List Event} {e : Event} {t t' : Timed} {x : Tid}

theorem unasked_snoc (hold : ∀ e ∈ es, ¬ e.Asks) (he : ¬ e.Asks) : ∀ e' ∈ es ++ [e], ¬ e'.Asks := by
  intro e' he'
  rcases List.mem_append.mp he' with hmem | hnew
  · exact hold e' hmem
  · rw [List.mem_singleton.mp hnew]
    exact he

/-- The timer sleeps, and nobody has cancelled it. -/
def Timed.Armed (t : Timed) (x : Tid) : Prop := t.session.timers x = .running

instance (t : Timed) (x : Tid) : Decidable (t.Armed x) :=
  inferInstanceAs (Decidable (t.session.timers x = .running))

/-- The initial timer of a tester that has not asked yet. -/
structure Initial (timeouts : Timeouts) (es : List Event) (t : Timed) (x : Tid) : Prop where
  task : t.session.initialTimerTask = some x
  fresh : t.session.activated = false
  loop : t.loop = .reading
  deadline : t.deadline x + uptime es = t.now + timeouts.initial
  unasked : ∀ e ∈ es, ¬ e.Asks

/-- The general timer of an activated one. -/
structure General (timeouts : Timeouts) (es : List Event) (t : Timed) (x : Tid) : Prop where
  task : t.session.inactivityTask = some x
  activated : t.session.activated = true
  deadline : t.deadline x + silence es = t.now + timeouts.general

structure Inv (timeouts : Timeouts) (es : List Event) (t : Timed) : Prop where
  transport : t.session.transportClosed = t.session.closing
  shut : t.session.closing = true → ∀ x, ¬ t.Armed x
  unset : t.session.activated = false → t.session.inactivityTask = none
  early : t.session.run = .notStarted →
    t.session.activated = false ∧ t.loop = .reading ∧ t.session.initialTimerTask = none
      ∧ ∀ e ∈ es, ¬ e.Asks
  /-- A request has stopped the initial timer. -/
  asked : t.loop ≠ .reading ∨ t.session.activated = true → t.session.initialTimerTask = none
  committed : t.loop = .confirming → t.session.activated = true
  armed : ∀ x, t.Armed x → Initial timeouts es t x ∨ General timeouts es t x
  /-- A session without a timer is deciding or confirming an activation. -/
  watched : t.session.closing = false → t.session.run ≠ .notStarted → t.loop ≠ .confirming →
    (t.loop = .activating → t.session.activated = true) → ∃ x, t.Armed x

namespace Inv

theorem unique (h : Inv timeouts es t) {x y : Tid} (hx : t.Armed x) (hy : t.Armed y) : x = y := by
  rcases h.armed x hx with hx | hx <;> rcases h.armed y hy with hy | hy
  · exact Option.some.inj (hx.task.symm.trans hy.task)
  · have hfresh := hx.fresh
    rw [hy.activated] at hfresh
    cases hfresh
  · have hfresh := hy.fresh
    rw [hx.activated] at hfresh
    cases hfresh
  · exact Option.some.inj (hx.task.symm.trans hy.task)

/-- Closing the transport leaves no timer. -/
theorem idle (h : Inv timeouts es t) (me : Sid) (x : Tid) :
    (t.session.scheduleCleanup me).timers x ≠ .running := by
  unfold Session.scheduleCleanup Session.closeTransportAndRegistry
  dsimp only
  split
  · rename_i hclosed
    exact h.shut (h.transport.symm.trans hclosed) x
  · intro hrunning
    obtain ⟨hnot, harmed⟩ := Tasks.cancel_eq_running.mp hrunning
    rcases h.armed x harmed with hx | hx
    · exact hnot (by simp [hx.task])
    · exact hnot (by simp [hx.task])

/-- Nothing is asked of a session that is closing. -/
theorem closes (h : Inv timeouts es t) (he : ¬ e.Asks) {s : Session} {loop : Loop}
    (hclosing : s.closing = true) (htransport : s.transportClosed = true)
    (hidle : ∀ x, s.timers x ≠ .running) (hactivated : s.activated = t.session.activated)
    (hinactivity : s.inactivityTask = t.session.inactivityTask)
    (hinitial : s.initialTimerTask = t.session.initialTimerTask)
    (hrun : s.run = .notStarted → t.session.run = .notStarted)
    (hloop : loop = t.loop ∨ loop = .reading) :
    Inv timeouts (es ++ [e]) { t with session := s, loop } where
  transport := htransport.trans hclosing.symm
  shut := fun _ => hidle
  unset hfresh := hinactivity.trans (h.unset (hactivated.symm.trans hfresh))
  early hnot := by
    obtain ⟨hfresh, hreading, hnone, hasks⟩ := h.early (hrun hnot)
    refine ⟨hactivated.trans hfresh, ?_, hinitial.trans hnone, unasked_snoc hasks he⟩
    rcases hloop with heq | heq
    · exact heq.trans hreading
    · exact heq
  asked hloop' := by
    refine hinitial.trans (h.asked ?_)
    rcases hloop' with hne | hyes
    · rcases hloop with heq | heq
      · exact .inl fun hreading => hne (heq.trans hreading)
      · exact absurd heq hne
    · exact .inr (hactivated.symm.trans hyes)
  committed hconfirming := by
    rcases hloop with heq | heq
    · exact hactivated.trans (h.committed (heq.symm.trans hconfirming))
    · rw [heq] at hconfirming
      cases hconfirming
  armed x hx := absurd hx (hidle x)
  watched hopen := by
    rw [show s.closing = true from hclosing] at hopen
    cases hopen

/-- What `_schedule_cleanup` leaves behind. -/
theorem scheduled (h : Inv timeouts es t) (he : ¬ e.Asks) (me : Sid) :
    Inv timeouts (es ++ [e]) { t with session := t.session.scheduleCleanup me } := by
  have hidle := h.idle me
  obtain ⟨l, sockets, registry, heq⟩ := scheduleCleanup_eq t.session me
  rw [heq] at hidle ⊢
  exact h.closes he rfl rfl hidle rfl rfl rfl id (.inl rfl)

/-- A step that the timers do not notice. -/
theorem beside (h : Inv timeouts es t) (he : ¬ e.Asks)
    (hquiet : quietFor (silence es) e = silence es) (hup : upFor (uptime es) e = uptime es)
    {s : Session}
    (htimers : ∀ x, s.timers x = .running ↔ t.session.timers x = .running)
    (hclosing : s.closing = t.session.closing)
    (htransport : s.transportClosed = t.session.transportClosed)
    (hactivated : s.activated = t.session.activated)
    (hinactivity : s.inactivityTask = t.session.inactivityTask)
    (hinitial : s.initialTimerTask = t.session.initialTimerTask)
    (hrun : s.run = .notStarted ↔ t.session.run = .notStarted) :
    Inv timeouts (es ++ [e]) { t with session := s } := by
  refine ⟨?_, ?_, ?_, ?_, ?_, ?_, ?_, ?_⟩
  · exact htransport.trans (h.transport.trans hclosing.symm)
  · intro hclosed x hx
    exact h.shut (hclosing.symm.trans hclosed) x ((htimers x).mp hx)
  · intro hfresh
    exact hinactivity.trans (h.unset (hactivated.symm.trans hfresh))
  · intro hnot
    obtain ⟨hfresh, hreading, hnone, hold⟩ := h.early (hrun.mp hnot)
    exact ⟨hactivated.trans hfresh, hreading, hinitial.trans hnone, unasked_snoc hold he⟩
  · intro hask
    exact hinitial.trans (h.asked (hask.imp id (hactivated.symm.trans ·)))
  · intro hconfirming
    exact hactivated.trans (h.committed hconfirming)
  · intro x hx
    rcases h.armed x ((htimers x).mp hx) with hi | hg
    · refine .inl ⟨hinitial.trans hi.task, hactivated.trans hi.fresh, hi.loop, ?_,
        unasked_snoc hi.unasked he⟩
      rw [uptime_snoc, hup]
      exact hi.deadline
    · refine .inr ⟨hinactivity.trans hg.task, hactivated.trans hg.activated, ?_⟩
      rw [silence_snoc, hquiet]
      exact hg.deadline
  · intro hopen hstarted hloop hactivating
    obtain ⟨x, hx⟩ := h.watched (hclosing.symm.trans hopen) (fun hnot => hstarted (hrun.mpr hnot))
      hloop (fun heq => hactivated.symm.trans (hactivating heq))
    exact ⟨x, (htimers x).mpr hx⟩

/-- Time passes. -/
theorem tick (h : Inv timeouts es t) (ticks : Nat) :
    Inv timeouts (es ++ [.tick ticks]) { t with now := t.now + ticks } where
  transport := h.transport
  shut := h.shut
  unset := h.unset
  early hnot := by
    obtain ⟨hfresh, hreading, hnone, hasks⟩ := h.early hnot
    exact ⟨hfresh, hreading, hnone, unasked_snoc hasks id⟩
  asked := h.asked
  committed := h.committed
  armed x hx := by
    rcases h.armed x hx with hi | hg
    · refine .inl ⟨hi.task, hi.fresh, hi.loop, ?_, unasked_snoc hi.unasked id⟩
      have hd := hi.deadline
      rw [uptime_snoc]
      show t.deadline x + (uptime es + ticks) = t.now + ticks + timeouts.initial
      omega
    · refine .inr ⟨hg.task, hg.activated, ?_⟩
      have hd := hg.deadline
      rw [silence_snoc]
      show t.deadline x + (silence es + ticks) = t.now + ticks + timeouts.general
      omega
  watched := h.watched

/-- `run()` starts the initial timer. -/
theorem start (h : Inv timeouts es t) (hnot : t.session.run = .notStarted)
    (hopen : t.session.closing = false) (x : Tid) :
    Inv timeouts (es ++ [.run x])
      (t.sleep x timeouts.initial { t.session.startInitialTimer x with run := .serving }) := by
  obtain ⟨hfresh, hreading, hnone, hasks⟩ := h.early hnot
  have hstart : t.session.startInitialTimer x
      = { t.session.newTimer x with initialTimerTask := some x } := by
    unfold Session.startInitialTimer
    rw [hopen]
    rfl
  have hself : ∀ y, t.Armed y → False := by
    intro y hy
    rcases h.armed y hy with hi | hg
    · rw [hi.task] at hnone
      cases hnone
    · rw [hg.activated] at hfresh
      cases hfresh
  rw [hstart]
  refine ⟨h.transport, ?_, h.unset, ?_, ?_, ?_, ?_, ?_⟩
  · intro hclosed
    exact absurd (hopen.symm.trans hclosed) (by simp)
  · intro hnot'
    cases hnot'
  · intro hask
    rcases hask with hne | hyes
    · exact absurd hreading hne
    · rw [show t.session.activated = true from hyes] at hfresh
      cases hfresh
  · exact h.committed
  · intro y hy
    obtain rfl : y = x := by
      rcases Tasks.start_eq_running.mp hy with heq | hold
      · exact heq
      · exact (hself y hold).elim
    refine .inl ⟨rfl, hfresh, hreading, ?_, unasked_snoc hasks id⟩
    rw [uptime_snoc]
    show Function.update t.deadline y (t.now + timeouts.initial) y + 0 = t.now + timeouts.initial
    rw [Function.update_self]
    rfl
  · intro _ _ _ _
    exact ⟨x, Tasks.start_eq_running.mpr (.inl rfl)⟩

/-- `_reset_inactivity_timer` for an activated tester: the timer it starts is
the only one. -/
theorem reset (h : Inv timeouts es t) (hactivated : t.session.activated = true) (x : Tid)
    (hquiet : quietFor (silence es) e = 0) (loop : Loop) :
    Inv timeouts (es ++ [e])
      { t.sleep x timeouts.general (t.session.resetInactivityTimer x) with loop } := by
  have hnone : t.session.initialTimerTask = none := h.asked (.inr hactivated)
  have hall : ∀ y, t.Armed y → t.session.inactivityTask = some y := by
    intro y hy
    rcases h.armed y hy with hi | hg
    · rw [hi.task] at hnone
      cases hnone
    · exact hg.task
  have hstarted : t.session.run ≠ .notStarted := by
    intro hnot
    rw [(h.early hnot).1] at hactivated
    cases hactivated
  have hstopped : ∀ y,
      ¬ (t.session.timers.cancel t.session.inactivityTask.toList) y = .running := by
    intro y hy
    obtain ⟨hne, hrunning⟩ := Tasks.cancel_eq_running.mp hy
    exact hne (by simp [hall y hrunning])
  by_cases hclosing : t.session.closing = true
  · have hreset : t.session.resetInactivityTimer x
        = { t.session with timers := t.session.timers.cancel t.session.inactivityTask.toList } :=
      if_pos hclosing
    rw [hreset]
    exact ⟨h.transport, fun _ => hstopped, fun hf => absurd (hactivated.symm.trans hf) (by simp),
      fun hnot => absurd hnot hstarted, fun _ => hnone, fun _ => hactivated,
      fun y hy => absurd hy (hstopped y), fun hopen => absurd (hclosing.symm.trans hopen) (by simp)⟩
  · have hreset : t.session.resetInactivityTimer x
        = { Session.newTimer { t.session with
              timers := t.session.timers.cancel t.session.inactivityTask.toList } x with
            inactivityTask := some x } :=
      if_neg hclosing
    rw [hreset]
    refine ⟨h.transport, fun hclosed => absurd hclosed hclosing,
      fun hf => absurd (hactivated.symm.trans hf) (by simp), fun hnot => absurd hnot hstarted,
      fun _ => hnone, fun _ => hactivated, fun y hy => ?_, fun _ _ _ _ => ?_⟩
    · obtain rfl : y = x := by
        rcases Tasks.start_eq_running.mp hy with heq | hold
        · exact heq
        · exact absurd hold (hstopped y)
      refine .inr ⟨rfl, hactivated, ?_⟩
      rw [silence_snoc, hquiet]
      show Function.update t.deadline y (t.now + timeouts.general) y + 0 = _
      rw [Function.update_self]
      rfl
    · exact ⟨x, Tasks.start_eq_running.mpr (.inl rfl)⟩

/-- A frame that asks for no activation, of a tester that has none. -/
theorem ignored (h : Inv timeouts es t) (hfresh : t.session.activated = false)
    (hstarted : t.session.run ≠ .notStarted) (x : Tid) :
    Inv timeouts (es ++ [.frame false x]) t where
  transport := h.transport
  shut := h.shut
  unset := h.unset
  early hnot := absurd hnot hstarted
  asked := h.asked
  committed := h.committed
  armed y hy := by
    rcases h.armed y hy with hi | hg
    · refine .inl ⟨hi.task, hi.fresh, hi.loop, ?_, unasked_snoc hi.unasked Bool.false_ne_true⟩
      rw [uptime_snoc]
      exact hi.deadline
    · exact absurd (hg.activated.symm.trans hfresh) (by simp)
  watched := h.watched

/-- A request that comes too late. -/
theorem late (h : Inv timeouts es t) (hclosing : t.session.closing = true)
    (hstarted : t.session.run ≠ .notStarted) (e : Event) : Inv timeouts (es ++ [e]) t where
  transport := h.transport
  shut := h.shut
  unset := h.unset
  early hnot := absurd hnot hstarted
  asked := h.asked
  committed := h.committed
  armed y hy := absurd hy (h.shut hclosing y)
  watched hopen := absurd (hclosing.symm.trans hopen) (by simp)

/-- A request for an activation stops the initial timer. -/
theorem request (h : Inv timeouts es t) (hfresh : t.session.activated = false)
    (hstarted : t.session.run ≠ .notStarted) (hopen : t.session.closing = false) (e : Event) :
    Inv timeouts (es ++ [e])
      { t with session := t.session.cancelInitialTimer, loop := .activating } := by
  have hstopped : ∀ y,
      ¬ (t.session.timers.cancel t.session.initialTimerTask.toList) y = .running := by
    intro y hy
    obtain ⟨hne, hrunning⟩ := Tasks.cancel_eq_running.mp hy
    rcases h.armed y hrunning with hi | hg
    · exact hne (by simp [hi.task])
    · exact absurd (hg.activated.symm.trans hfresh) (by simp)
  exact ⟨h.transport, fun hclosed => absurd (hopen.symm.trans hclosed) (by simp), h.unset,
    fun hnot => absurd hnot hstarted, fun _ => rfl, fun hc => (by cases hc),
    fun y hy => absurd hy (hstopped y),
    fun _ _ _ hyes => absurd (hfresh.symm.trans (hyes rfl)) (by simp)⟩

/-- A request of an activated tester: it has no initial timer any more. -/
theorem repeated (h : Inv timeouts es t) (hactivated : t.session.activated = true)
    (hreading : t.loop = .reading) :
    Inv timeouts es { t with session := t.session.cancelInitialTimer, loop := .activating } := by
  have hnone : t.session.initialTimerTask = none := h.asked (.inr hactivated)
  have hsame : t.session.cancelInitialTimer = t.session := by
    unfold Session.cancelInitialTimer
    rw [hnone, Option.toList_none, Tasks.cancel_nil]
    rw [← hnone]
  have hstarted : t.session.run ≠ .notStarted := by
    intro hnot
    exact absurd (hactivated.symm.trans (h.early hnot).1) (by simp)
  rw [hsame]
  refine ⟨h.transport, h.shut, h.unset, fun hnot => absurd hnot hstarted, fun _ => hnone,
    fun _ => hactivated, fun y hy => ?_, fun hopen _ _ _ => ?_⟩
  · rcases h.armed y hy with hi | hg
    · exact absurd (hactivated.symm.trans hi.fresh) (by simp)
    · exact .inr ⟨hg.task, hg.activated, hg.deadline⟩
  · exact h.watched hopen hstarted (by simp [hreading]) fun _ => hactivated

/-- A frame. -/
theorem frame (h : Inv timeouts es t) (hserving : t.session.run = .serving)
    (hreading : t.loop = .reading) (request : Bool) (x : Tid) {u : Timed}
    (hheard : t.heard timeouts x = some u) :
    Inv timeouts (es ++ [.frame request x]) (u.dispatch request) := by
  have hstarted : t.session.run ≠ .notStarted := by simp [hserving]
  unfold Timed.heard at hheard
  split at hheard
  · rename_i hactivated
    rw [Option.ite_none_right_eq_some, Option.some.injEq] at hheard
    obtain ⟨_, rfl⟩ := hheard
    have hreset : Inv timeouts (es ++ [.frame request x])
        (t.sleep x timeouts.general (t.session.resetInactivityTimer x)) :=
      h.reset hactivated x rfl t.loop
    have hstill : (t.session.resetInactivityTimer x).activated = true := by
      unfold Session.resetInactivityTimer
      dsimp only
      split <;> exact hactivated
    unfold Timed.dispatch
    split
    · exact hreset.repeated hstill hreading
    · exact hreset
  · rename_i hfresh
    rw [Bool.not_eq_true] at hfresh
    cases hheard
    unfold Timed.dispatch
    split
    · rename_i hasks
      exact h.request hfresh hstarted hasks.2 _
    · rename_i hasks
      cases request with
      | false => exact h.ignored hfresh hstarted x
      | true =>
          have hclosing : t.session.closing = true := by simpa using hasks
          exact h.late hclosing hstarted _

/-- The activation is committed. -/
theorem commit (h : Inv timeouts es t) {sa : SA} (hloop : t.loop = .activating)
    (hopen : t.session.closing = false)
    (haddr : t.session.activated → t.session.testerLogicalAddr = some sa) (me : Sid) :
    Inv timeouts (es ++ [.commit sa])
      { t with session := t.session.activate me sa, loop := .confirming } := by
  have hactivate : t.session.activate me sa
      = { t.session with
          testerLogicalAddr := some sa
          activated := true
          registry := SessionRegistry.register t.session.registry sa me } := by
    refine if_neg ?_
    rintro (hclosed | ⟨hyes, hother⟩)
    · exact absurd (hopen.symm.trans hclosed) (by simp)
    · exact hother (haddr hyes)
  have hstarted : t.session.run ≠ .notStarted := by
    intro hnot
    exact absurd (hloop.symm.trans (h.early hnot).2.1) (by simp)
  rw [hactivate]
  refine ⟨h.transport, h.shut, fun hf => (by cases hf), fun hnot => absurd hnot hstarted,
    fun _ => h.asked (.inl (by simp [hloop])), fun _ => rfl, fun y hy => ?_,
    fun _ _ hne _ => absurd rfl hne⟩
  rcases h.armed y hy with hi | hg
  · exact absurd (hloop.symm.trans hi.loop) (by simp)
  · refine .inr ⟨hg.task, rfl, ?_⟩
    rw [silence_snoc]
    exact hg.deadline

/-- A step of the clean-up. -/
theorem cleanup (h : Inv timeouts es t) {s : Session} (hstep : t.session.cleanupStep me = some s) :
    Inv timeouts (es ++ [.cleanup]) { t with session := s } := by
  cases cleaned_of_cleanupStep hstep with
  | scheduled u _ hclosed =>
      -- the transport is closed first, if nobody has done it before
      have hidle := h.idle me
      obtain ⟨l, sockets, registry, heq⟩ :=
        closeTransportAndRegistry_eq { t.session with closing := true } me
      unfold Session.scheduleCleanup at hidle
      dsimp only at hidle
      rw [heq] at hidle
      rw [hclosed, heq]
      exact h.closes id rfl rfl (fun x hx => hidle x (Tasks.cancel_eq_running.mp hx).2) rfl rfl rfl
        id (.inl rfl)
  | timers | connects | reads | conns | retirements | closes | writer =>
      exact h.beside id rfl rfl (fun _ => .rfl) rfl rfl rfl rfl rfl .rfl

/-- A step of a call of `close()`. -/
theorem caller (h : Inv timeouts es t) {k : Nat} {ce : Session.CallerEvent} {s : Session}
    (hstep : t.session.callerStep me k ce = some s) :
    Inv timeouts (es ++ [.caller k ce]) { t with session := s } := by
  cases called_of_callerStep hstep with
  | begun =>
      have hidle := h.idle me
      obtain ⟨l, sockets, registry, heq⟩ := scheduleCleanup_eq t.session me
      rw [heq] at hidle ⊢
      exact h.closes id rfl rfl hidle rfl rfl rfl id (.inl rfl)
  | cancelled | returned => exact h.beside id rfl rfl (fun _ => .rfl) rfl rfl rfl rfl rfl .rfl

/-- The loop is left. -/
theorem left (h : Inv timeouts es t) (he : ¬ e.Asks) (me : Sid) {loop : Loop}
    (hloop : loop = t.loop ∨ loop = .reading) :
    Inv timeouts (es ++ [e]) { t with session := t.session.leaveLoop me, loop } := by
  have hidle := h.idle me
  unfold Session.leaveLoop
  obtain ⟨l, sockets, registry, heq⟩ := scheduleCleanup_eq t.session me
  rw [heq] at hidle ⊢
  exact h.closes he rfl rfl hidle rfl rfl rfl (fun hrun => by cases hrun) hloop

/-- A timer has run out. -/
theorem expired (h : Inv timeouts es t) (me : Sid) (x : Tid) :
    Inv timeouts (es ++ [.expired x])
      { t with session := (t.session.scheduleCleanup me).timerEnded x } := by
  have hidle := h.idle me
  obtain ⟨l, sockets, registry, heq⟩ := scheduleCleanup_eq t.session me
  rw [heq] at hidle ⊢
  exact h.closes id rfl rfl (fun y hy => hidle y (Tasks.settle_eq_running.mp hy).2) rfl rfl rfl id
    (.inl rfl)

/-- A timer that was cancelled is through. -/
theorem cancelled (h : Inv timeouts es t) (hcancelling : t.session.timers x = .cancelling) :
    Inv timeouts (es ++ [.cancelled x]) { t with session := t.session.timerEnded x } := by
  refine h.beside id rfl rfl (fun y => ?_) rfl rfl rfl rfl rfl .rfl
  refine Tasks.settle_eq_running.trans ⟨And.right, fun hy => ⟨?_, hy⟩⟩
  rintro rfl
  rw [hcancelling] at hy
  cases hy

/-- **A step keeps the invariant.** -/
theorem step (h : Inv timeouts es t) (e : Event) (hstep : step timeouts me t e = some t') :
    Inv timeouts (es ++ [e]) t' := by
  cases effect_of_step hstep with
  | ticked ticks => exact h.tick ticks
  | refused x _ _ => exact h.left id me (.inl rfl)
  | started x hnot hopen _ => exact h.start hnot hopen x
  | received request x u hserving hreading hu => exact h.frame hserving hreading request x hu
  | committed sa hloop hopen haddr => exact h.commit hloop hopen haddr me
  | confirmed x hloop _ => exact h.reset (h.committed hloop) x rfl .reading
  | ended _ => exact h.left id me (.inr rfl)
  | expired x _ _ => exact h.expired me x
  | cancelled x hcancelling => exact h.cancelled hcancelling
  | evicted => exact h.scheduled id me
  | called k ce s hs => exact h.caller hs
  | cleaned s hs => exact h.cleanup hs

end Inv

theorem inv_init (timeouts : Timeouts) (me : Sid) : Inv timeouts [] (Timed.init me) where
  transport := rfl
  shut h := by cases h
  unset _ := rfl
  early _ := ⟨rfl, rfl, rfl, fun _ h => by cases h⟩
  asked _ := rfl
  committed h := by cases h
  armed _ h := by cases h
  watched _ h := absurd rfl h

theorem inv_run (es : List Event) (h : exec (step timeouts me) (Timed.init me) es = some t) :
    Inv timeouts es t :=
  exec_history (Inv timeouts) (inv_init timeouts me) (fun _ _ e _ hinv hstep => hinv.step e hstep)
    es t h

/-! ## §4. A timer that runs out. -/

/-- An activation is under way, and the session has no timer for it. -/
def Timed.Deciding (t : Timed) : Prop :=
  t.loop = .confirming ∨ t.loop = .activating ∧ t.session.activated = false

instance (t : Timed) : Decidable t.Deciding := inferInstanceAs (Decidable (_ ∨ _ ∧ _))

theorem Inv.armed_of_open (h : Inv timeouts es t) (hopen : t.session.closing = false)
    (hstarted : t.session.run ≠ .notStarted) (hdeciding : ¬ t.Deciding) : ∃ x, t.Armed x := by
  refine h.watched hopen hstarted (fun hloop => hdeciding (.inl hloop)) fun hloop => ?_
  rw [← Bool.not_eq_false]
  exact fun hfresh => hdeciding (.inr ⟨hloop, hfresh⟩)

/-- The timer of a session that is served sleeps from the last word of its
tester on. -/
theorem Inv.due (h : Inv timeouts es t) (hx : t.Armed x) (hdue : t.deadline x ≤ t.now) :
    t.session.activated = true ∧ timeouts.general ≤ silence es
      ∨ t.session.activated = false ∧ timeouts.initial ≤ uptime es ∧ ∀ e ∈ es, ¬ e.Asks := by
  rcases h.armed x hx with hi | hg
  · have hd := hi.deadline
    exact .inr ⟨hi.fresh, by omega, hi.unasked⟩
  · have hd := hg.deadline
    exact .inl ⟨hg.activated, by omega⟩

/-- The timers are those of the whole session. -/
theorem session_step (cfg : Teardown.Config) (hstep : step timeouts me t e = some t') :
    ∃ ss, exec (Teardown.step cfg me) t.session ss = some t'.session := by
  cases effect_of_step hstep with
  | ticked => exact ⟨[], rfl⟩
  | refused x hnot hclosing =>
      refine ⟨[.run (.start x)], exec_cons_eq_some.mpr ⟨_, ?_, rfl⟩⟩
      show t.session.runStep cfg me (.start x) = _
      unfold Session.runStep
      rw [hnot]
      exact if_pos hclosing
  | started x hnot hopen hfresh =>
      refine ⟨[.run (.start x)], exec_cons_eq_some.mpr ⟨_, ?_, rfl⟩⟩
      show t.session.runStep cfg me (.start x) = _
      unfold Session.runStep
      rw [hnot]
      exact (if_neg (by simp [hopen])).trans (if_pos hfresh)
  | received request x u _ _ hu =>
      have hheard : ∃ ss, exec (Teardown.step cfg me) t.session ss = some u.session := by
        unfold Timed.heard at hu
        split at hu
        · rw [Option.ite_none_right_eq_some, Option.some.injEq] at hu
          obtain ⟨hfresh, rfl⟩ := hu
          exact ⟨[.resetInactivityTimer x], exec_cons_eq_some.mpr ⟨_, if_pos hfresh, rfl⟩⟩
        · cases hu
          exact ⟨[], rfl⟩
      obtain ⟨ss, hss⟩ := hheard
      unfold Timed.dispatch
      split
      · exact ⟨ss ++ [.cancelInitialTimer], exec_snoc hss rfl⟩
      · exact ⟨ss, hss⟩
  | committed sa => exact ⟨[.activate sa], rfl⟩
  | confirmed x _ hfresh =>
      exact ⟨[.resetInactivityTimer x], exec_cons_eq_some.mpr ⟨_, if_pos hfresh, rfl⟩⟩
  | ended hserving =>
      refine ⟨[.run .ends], exec_cons_eq_some.mpr ⟨_, ?_, rfl⟩⟩
      show t.session.runStep cfg me .ends = _
      unfold Session.runStep
      rw [hserving]
  | expired x hrunning _ =>
      exact ⟨[.timerExpired x], exec_cons_eq_some.mpr ⟨_, if_pos hrunning, rfl⟩⟩
  | cancelled x hcancelling =>
      exact ⟨[.timerCancelled x], exec_cons_eq_some.mpr ⟨_, if_pos hcancelling, rfl⟩⟩
  | evicted => exact ⟨[.evict], rfl⟩
  | called k ce s hs => exact ⟨[.caller k ce], exec_cons_eq_some.mpr ⟨s, hs, rfl⟩⟩
  | cleaned s hs => exact ⟨[.cleanup], exec_cons_eq_some.mpr ⟨s, hs, rfl⟩⟩

theorem session_run (cfg : Teardown.Config) (es : List Event)
    (h : exec (step timeouts me) (Timed.init me) es = some t) :
    ∃ ss, exec (Teardown.step cfg me) (Session.init me) ss = some t.session := by
  refine exec_invariant
    (fun t => ∃ ss, exec (Teardown.step cfg me) (Session.init me) ss = some t.session) ?_
    es _ t ⟨[], rfl⟩ h
  intro t e t' hold hstep
  obtain ⟨ss, hss⟩ := hold
  obtain ⟨more, hmore⟩ := session_step cfg hstep
  exact ⟨ss ++ more, exec_append_eq_some.mpr ⟨t.session, hss, hmore⟩⟩

/-- **A session is closed for inactivity only if it has read nothing.**  In
every interleaving of the session loop, its timers, evictions, calls of
`close` and the clean-up there is never more than one armed timer, none once
the session is closing, and always one in an open session, but while a first
activation is decided or an activation confirmed.  When a timer runs out, the
session is activated and has read no frame but rejected ones for the whole
general time, or it is not and has read no request for an activation in the
whole initial time.  The session does what it does among all its tasks. -/
theorem inactivity_closes_silent (timeouts : Timeouts) (me : Sid) (es : List Event) (t : Timed)
    (hrun : exec (step timeouts me) (Timed.init me) es = some t) :
    (∀ x y, t.Armed x → t.Armed y → x = y)
      ∧ (t.session.closing = true → ∀ x, ¬ t.Armed x)
      ∧ (t.session.closing = false → t.session.run ≠ .notStarted → ¬ t.Deciding → ∃ x, t.Armed x)
      ∧ (∀ x t', step timeouts me t (.expired x) = some t' → t'.session.closing = true
          ∧ (t.session.activated = true ∧ timeouts.general ≤ silence es
            ∨ t.session.activated = false ∧ timeouts.initial ≤ uptime es ∧ ∀ e ∈ es, ¬ e.Asks))
      ∧ ∀ cfg, ∃ ss, exec (Teardown.step cfg me) (Session.init me) ss = some t.session := by
  have hinv : Inv timeouts es t := inv_run es hrun
  refine ⟨fun x y => hinv.unique, hinv.shut, hinv.armed_of_open, fun x t' hstep => ?_,
    fun cfg => session_run cfg es hrun⟩
  cases effect_of_step hstep with
  | expired x hx hdue =>
      refine ⟨?_, hinv.due hx hdue⟩
      obtain ⟨l, sockets, registry, heq⟩ := scheduleCleanup_eq t.session me
      rw [heq]
      rfl

/-- Activated, one more frame read, and none from then on. -/
def fallsSilent : List Event :=
  [.run 0, .tick 1, .frame true 1, .cancelled 0, .commit 0x0E00, .confirmed 1, .tick 3,
   .frame false 2, .cancelled 1, .tick 5]

theorem inactivity_closes_silent_expired :
    ∃ t t', exec (step ⟨2, 5⟩ 0) (Timed.init 0) fallsSilent = some t
      ∧ step ⟨2, 5⟩ 0 t (.expired 2) = some t' ∧ t'.session.closing = true
      ∧ t.session.activated = true := by
  have hrun : ((exec (step ⟨2, 5⟩ 0) (Timed.init 0) fallsSilent).bind fun t =>
      (step ⟨2, 5⟩ 0 t (.expired 2)).map fun _ => t.session.activated) = some true := by decide
  obtain ⟨t, ht, heq⟩ := Option.bind_eq_some_iff.mp hrun
  obtain ⟨t', ht', hactivated⟩ := Option.map_eq_some_iff.mp heq
  obtain ⟨_, _, _, hexpired, _⟩ := inactivity_closes_silent ⟨2, 5⟩ 0 fallsSilent t ht
  exact ⟨t, t', ht, ht', (hexpired 2 t' ht').1, hactivated⟩

/-! ## §5. A clock that waits for the timers. -/

/-- The event loop has no delay: time does not pass an armed timer by. -/
def Punctual (t : Timed) : Event → Prop
  | .tick ticks => ∀ x ∈ t.session.initialTimerTask.toList ++ t.session.inactivityTask.toList,
      t.Armed x → t.now + ticks ≤ t.deadline x
  | _ => True

instance (t : Timed) : (e : Event) → Decidable (Punctual t e)
  | .tick ticks => inferInstanceAs (Decidable
      (∀ x ∈ t.session.initialTimerTask.toList ++ t.session.inactivityTask.toList,
        t.Armed x → t.now + ticks ≤ t.deadline x))
  | .run _ | .frame _ _ | .commit _ | .confirmed _ => inferInstanceAs (Decidable True)
  | .ends | .expired _ | .cancelled _ => inferInstanceAs (Decidable True)
  | .evict | .caller _ _ | .cleanup => inferInstanceAs (Decidable True)

/-- No armed timer is overslept. -/
def InTime (t : Timed) : Prop := ∀ x, t.Armed x → t.now ≤ t.deadline x

/-- A session that starts no timer is as punctual as it was. -/
theorem InTime.fewer (h : InTime t) {s : Session} {loop : Loop}
    (hfewer : ∀ x, s.timers x = .running → t.session.timers x = .running) :
    InTime { t with session := s, loop } :=
  fun x hx => h x (hfewer x hx)

/-- And so is one that starts a timer now. -/
theorem InTime.sleep (h : InTime t) {s : Session} {ticks : Nat} {loop : Loop} (x : Tid)
    (hnew : ∀ y, s.timers y = .running → y = x ∨ t.session.timers y = .running) :
    InTime { t.sleep x ticks s with loop } := by
  intro y hy
  show t.now ≤ Function.update t.deadline x (t.now + ticks) y
  by_cases heq : y = x
  · rw [heq, Function.update_self]
    omega
  · rw [Function.update_of_ne heq]
    rcases hnew y hy with hself | hold
    · exact absurd hself heq
    · exact h y hold

theorem scheduleCleanup_running {s : Session} (h : (s.scheduleCleanup me).timers x = .running) :
    s.timers x = .running := by
  obtain ⟨l, sockets, registry, heq⟩ := scheduleCleanup_eq s me
  rw [heq] at h
  exact (Tasks.cancel_eq_running.mp h).2

theorem resetInactivityTimer_running {s : Session} {y : Tid}
    (h : (s.resetInactivityTimer x).timers y = .running) : y = x ∨ s.timers y = .running := by
  unfold Session.resetInactivityTimer at h
  dsimp only at h
  split at h
  · exact .inr (Tasks.cancel_eq_running.mp h).2
  · rcases Tasks.start_eq_running.mp h with heq | hold
    · exact .inl heq
    · exact .inr (Tasks.cancel_eq_running.mp hold).2

theorem startInitialTimer_running {s : Session} {y : Tid}
    (h : (s.startInitialTimer x).timers y = .running) : y = x ∨ s.timers y = .running := by
  unfold Session.startInitialTimer at h
  split at h
  · exact .inr h
  · exact Tasks.start_eq_running.mp h

theorem cleanupStep_running {s s' : Session} (hstep : s.cleanupStep me = some s')
    (h : s'.timers x = .running) : s.timers x = .running := by
  cases cleaned_of_cleanupStep hstep with
  | scheduled u _ hclosed =>
      obtain ⟨l, sockets, registry, heq⟩ :=
        closeTransportAndRegistry_eq { s with closing := true } me
      rw [hclosed, heq] at h
      exact (Tasks.cancel_eq_running.mp (Tasks.cancel_eq_running.mp h).2).2
  | timers | connects | reads | conns | retirements | closes | writer => exact h

theorem callerStep_running {s s' : Session} {k : Nat} {ce : Session.CallerEvent}
    (hstep : s.callerStep me k ce = some s') (h : s'.timers x = .running) :
    s.timers x = .running := by
  cases called_of_callerStep hstep with
  | begun => exact scheduleCleanup_running h
  | cancelled | returned => exact h

theorem inTime_step (hinv : Inv timeouts es t) (h : InTime t) (hok : Punctual t e)
    (hstep : step timeouts me t e = some t') : InTime t' := by
  cases effect_of_step hstep with
  | ticked ticks =>
      intro x hx
      refine hok x ?_ hx
      rcases hinv.armed x hx with hi | hg
      · simp [hi.task]
      · simp [hg.task]
  | refused | ended | evicted => exact h.fewer fun y hy => scheduleCleanup_running hy
  | started x => exact h.sleep x fun y hy => startInitialTimer_running hy
  | received request x u _ _ hu =>
      have hheard : InTime u := by
        unfold Timed.heard at hu
        split at hu
        · rw [Option.ite_none_right_eq_some, Option.some.injEq] at hu
          obtain ⟨_, rfl⟩ := hu
          exact h.sleep x fun y hy => resetInactivityTimer_running hy
        · cases hu
          exact h
      unfold Timed.dispatch
      split
      · exact hheard.fewer fun y hy => (Tasks.cancel_eq_running.mp hy).2
      · exact hheard
  | committed sa =>
      refine h.fewer fun y hy => ?_
      unfold Session.activate at hy
      split at hy <;> exact hy
  | confirmed x => exact h.sleep x fun y hy => resetInactivityTimer_running hy
  | expired x =>
      exact h.fewer fun y hy => scheduleCleanup_running (Tasks.settle_eq_running.mp hy).2
  | cancelled x => exact h.fewer fun y hy => (Tasks.settle_eq_running.mp hy).2
  | called k ce s hs => exact h.fewer fun y hy => callerStep_running hs hy
  | cleaned s hs => exact h.fewer fun y hy => cleanupStep_running hs hy

/-- **No session outstays its timer**: where time waits for the timers, an
open session whose activation is not just under way has read its last frame
at most the general time ago when it is activated, and has been open for at
most the initial time when it is not.  When that time is over its timer can
run out. -/
theorem silent_session_closed (timeouts : Timeouts) (me : Sid) (es : List Event) (t : Timed)
    (hrun : exec (step timeouts me) (Timed.init me) es = some t)
    (hpunctual : Along (step timeouts me) Punctual (Timed.init me) es)
    (hopen : t.session.closing = false) (hstarted : t.session.run ≠ .notStarted)
    (hdeciding : ¬ t.Deciding) :
    (t.session.activated = true → silence es ≤ timeouts.general
        ∧ (silence es = timeouts.general → ∃ x, (step timeouts me t (.expired x)).isSome = true))
      ∧ (t.session.activated = false → uptime es ≤ timeouts.initial
        ∧ (uptime es = timeouts.initial →
          ∃ x, (step timeouts me t (.expired x)).isSome = true)) := by
  have hinv : Inv timeouts es t := inv_run es hrun
  have hin : InTime t := by
    refine (exec_invariant_along (fun t => (∃ es, Inv timeouts es t) ∧ InTime t) ?_ es _ t
      ⟨⟨[], inv_init timeouts me⟩, fun x hx => by cases hx⟩ hpunctual hrun).2
    intro t e t' hold hok hstep
    obtain ⟨⟨es, hes⟩, hin⟩ := hold
    exact ⟨⟨es ++ [e], hes.step e hstep⟩, inTime_step hes hin hok hstep⟩
  obtain ⟨x, hx⟩ := hinv.armed_of_open hopen hstarted hdeciding
  have hle := hin x hx
  have hexpires : t.deadline x ≤ t.now → ∃ x, (step timeouts me t (.expired x)).isSome = true := by
    intro hdue
    have hstep : step timeouts me t (.expired x) = some _ := if_pos ⟨hx, hdue⟩
    exact ⟨x, by rw [hstep]; rfl⟩
  rcases hinv.armed x hx with hi | hg
  · have hd := hi.deadline
    refine ⟨fun hyes => ?_, fun _ => ⟨by omega, fun heq => hexpires (by omega)⟩⟩
    exact absurd (hyes.symm.trans hi.fresh) (by simp)
  · have hd := hg.deadline
    refine ⟨fun _ => ⟨by omega, fun heq => hexpires (by omega)⟩, fun hno => ?_⟩
    exact absurd (hno.symm.trans hg.activated) (by simp)

theorem silent_session_closed_fallsSilent :
    ∃ t, exec (step ⟨2, 5⟩ 0) (Timed.init 0) fallsSilent = some t ∧ silence fallsSilent = 5
      ∧ ∃ x, (step ⟨2, 5⟩ 0 t (.expired x)).isSome = true := by
  have hrun : (exec (step ⟨2, 5⟩ 0) (Timed.init 0) fallsSilent).map
      (fun t => (t.session.closing, t.session.activated, decide (t.session.run = .notStarted),
        decide t.Deciding)) = some (false, true, false, false) := by decide
  obtain ⟨t, ht, heq⟩ := Option.map_eq_some_iff.mp hrun
  simp only [Prod.mk.injEq, decide_eq_false_iff_not] at heq
  obtain ⟨hopen, hactivated, hstarted, hdeciding⟩ := heq
  have hsilent : silence fallsSilent = 5 := rfl
  have hclosed :=
    silent_session_closed ⟨2, 5⟩ 0 fallsSilent t ht (by decide) hopen hstarted hdeciding
  exact ⟨t, ht, hsilent, (hclosed.1 hactivated).2 hsilent⟩

end DoipPlayground.EdgeNode.Teardown.Inactivity
