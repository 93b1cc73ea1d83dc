/-
  DoipPlayground.EdgeNode.Draining
  ────────────────────────────────
  **A STOPPING SERVER STOPS.**

  `rank` counts the phases of the clean-up that are left, and within one
  what the startup task, the listeners, the calls and the handlers have
  still to do.

    • `own_lowers` — every step the server takes by itself lowers the rank,
    • `cleanup_goes_on` — the clean-up can go on, or what it waits for can,
    • `stop_completes` — so it ends, whatever the order of the steps.

  Two waits of the clean-up are the library's, and taken to return: the
  listeners' `wait_closed`, and the `shutdown(wait=True)` of the executor,
  which is part of a step.
-/
import Mathlib.Data.Prod.Lex
import DoipPlayground.EdgeNode.Shutdown
import DoipPlayground.Lib.Drain

namespace DoipPlayground.EdgeNode.Lifecycle

open Sockets (Writer Server Handler Setup)

variable {t t' : Server} {cfg : Config} {s s' : DoIPServer}

/-! ## §1. What is left to do. -/

/-- What happens in a server that is left alone. -/
def Own : Event → Prop
  | .resumeStart | .startup _ | .endServing _ | .stopReturns | .cleanup => True
  | .socket e => OwnSocket e
  | .start | .cancelStart | .stop | .datagram .. | .reply _ => False

/-- Every call has returned. -/
def Finished (s : DoIPServer) : Prop :=
  s.cleanup = .done ∧ (s.start = .absent ∨ s.start = .returned) ∧ s.stops = 0

def Startup.left (count : Nat) : Startup → Nat
  | .absent | .done _ => 0
  | .announcing sent => count - sent + 1
  | .endpoint => count + 2
  | .binding .tls => count + 3
  | .binding .plain => count + 4
  | .created => count + 5

def Start.left : Start → Nat
  | .absent | .returned => 0
  | .stopping => 1
  | .serving => 2
  | .starting => 3

/-- The listeners that are served. -/
def served (ts : Tasks Port) : Nat :=
  (if Tasks.Live ts .plain then 1 else 0) + (if Tasks.Live ts .tls then 1 else 0)

/-- What there is still to do in a phase of the clean-up. -/
def pending (cfg : Config) (s : DoIPServer) : Nat :=
  s.startup.left cfg.announceCount + served s.serving + s.start.left + s.stops + work s.sockets
    + s.cancelling.length

/-- First the phases that are left, then what is left in this one. -/
def rank (cfg : Config) (s : DoIPServer) : ℕ ×ₗ ℕ := toLex (s.cleanup.left, pending cfg s)

theorem rank_lt_of_left (h : s'.cleanup.left < s.cleanup.left) : rank cfg s' < rank cfg s :=
  Prod.Lex.toLex_lt_toLex.mpr (.inl h)

theorem rank_lt_of_pending (hsame : s'.cleanup = s.cleanup) (h : pending cfg s' < pending cfg s) :
    rank cfg s' < rank cfg s :=
  Prod.Lex.toLex_lt_toLex.mpr (.inr ⟨congrArg Cleanup.left hsame, h⟩)

theorem left_closeSessions (s : DoIPServer) : s.closeSessions.cleanup.left ≤ 1 := by
  unfold DoIPServer.closeSessions
  split
  · exact Nat.zero_le 1
  · exact Nat.le_refl 1

theorem left_cancelTasks (s : DoIPServer) : s.cancelTasks.cleanup.left ≤ 2 := by
  unfold DoIPServer.cancelTasks
  dsimp only
  split
  · exact Nat.le_succ_of_le (left_closeSessions _)
  · exact Nat.le_refl 2

theorem left_cancelServing (s : DoIPServer) : s.cancelServing.cleanup.left ≤ 4 := by
  unfold DoIPServer.cancelServing
  split
  · exact Nat.le_succ 3
  · exact Nat.le_refl 4

/-- A turn of the clean-up leaves a phase behind. -/
theorem Cleans.left (h : Cleans s s') : s'.cleanup.left < s.cleanup.left := by
  cases h with
  | unstarted hphase _ =>
      have hafter := left_cancelServing s
      show _ < s.cleanup.left
      rw [hphase]
      exact Nat.lt_of_le_of_lt hafter (show 4 < 6 by omega)
  | waits _ hphase _ =>
      rw [hphase]
      show 5 < 6
      omega
  | startupOver _ hphase _ =>
      rw [hphase]
      exact Nat.lt_of_le_of_lt (left_cancelServing s) (show 4 < 5 by omega)
  | servingOver snapshot hphase _ =>
      rw [hphase]
      show 3 < 4
      omega
  | listenersClosed hphase =>
      rw [hphase]
      exact Nat.lt_of_le_of_lt (left_cancelTasks s) (show 2 < 3 by omega)
  | tasksOver snapshot hphase _ =>
      rw [hphase]
      exact Nat.lt_of_le_of_lt (left_closeSessions s) (show 1 < 2 by omega)
  | sessionsOver snapshot hphase =>
      rw [hphase]
      show 0 < 1
      omega

/-- A turn of the startup task gets it further. -/
theorem Starts.left (h : Starts cfg s s') :
    s'.startup.left cfg.announceCount < s.startup.left cfg.announceCount := by
  have hlive : 0 < s.startup.left cfg.announceCount := by
    obtain ⟨habsent, hdone⟩ := h.live
    cases hstartup : s.startup with
    | absent => exact absurd hstartup habsent
    | done ok => exact absurd hstartup (hdone ok)
    | binding port => cases port <;> simp [Startup.left]
    | _ => simp [Startup.left]
  cases h with
  | first hstartup =>
      rw [hstartup]
      show cfg.announceCount + 4 < cfg.announceCount + 5
      omega
  | failed _ _ => exact hlive
  | bound port hstartup =>
      rw [hstartup]
      cases port with
      | plain =>
          show cfg.announceCount + 3 < cfg.announceCount + 4
          omega
      | tls =>
          show cfg.announceCount + 2 < cfg.announceCount + 3
          omega
  | abandoned port left _ =>
      unfold DoIPServer.abandon
      split <;> exact hlive
  | opened protocol hstartup =>
      rw [hstartup]
      show cfg.announceCount - 0 + 1 < cfg.announceCount + 2
      omega
  | announced sent hstartup =>
      unfold DoIPServer.announce
      split
      · rename_i hmore
        rw [hstartup]
        show (if sent + 1 < cfg.announceCount then Startup.announcing (sent + 1)
          else .done true).left cfg.announceCount < cfg.announceCount - sent + 1
        split
        · show cfg.announceCount - (sent + 1) + 1 < cfg.announceCount - sent + 1
          omega
        · show 0 < cfg.announceCount - sent + 1
          omega
      · exact hlive
  | broken sent _ => exact hlive

/-- It touches nothing that others have still to do. -/
theorem Starts.same (h : Starts cfg s s') : s'.cleanup = s.cleanup ∧ s'.serving = s.serving
    ∧ s'.start = s.start ∧ s'.stops = s.stops ∧ s'.sockets = s.sockets
    ∧ s'.cancelling = s.cancelling := by
  cases h with
  | abandoned port left _ =>
      unfold DoIPServer.abandon
      split <;> exact ⟨rfl, rfl, rfl, rfl, rfl, rfl⟩
  | announced sent _ =>
      unfold DoIPServer.announce
      split <;> exact ⟨rfl, rfl, rfl, rfl, rfl, rfl⟩
  | _ => exact ⟨rfl, rfl, rfl, rfl, rfl, rfl⟩

theorem Starts.lowers (h : Starts cfg s s') : rank cfg s' < rank cfg s := by
  obtain ⟨hcleanup, hserving, hstart, hstops, hsockets, hcancelling⟩ := h.same
  have hleft := h.left
  apply rank_lt_of_pending hcleanup
  unfold pending
  rw [hserving, hstart, hstops, hsockets, hcancelling]
  omega

theorem served_settle {ts : Tasks Port} {port : Port} (hlive : Tasks.Live ts port) :
    served (ts.settle port) < served ts := by
  unfold served
  cases port with
  | plain =>
      have hplain : ¬ Tasks.Live (ts.settle .plain) .plain := by simp
      have htls : Tasks.Live (ts.settle .plain) .tls ↔ Tasks.Live ts .tls := by simp
      rw [if_neg hplain, if_pos hlive]
      simp only [htls]
      omega
  | tls =>
      have htls : ¬ Tasks.Live (ts.settle .tls) .tls := by simp
      have hplain : Tasks.Live (ts.settle .tls) .plain ↔ Tasks.Live ts .plain := by simp
      rw [if_neg htls, if_pos hlive]
      simp only [hplain]
      omega

theorem endServing_eq {port : Port} (h : s.endServing port = some s') :
    Tasks.Live s.serving port
      ∧ ∃ listening, s' = { s with serving := s.serving.settle port, listening } := by
  unfold DoIPServer.endServing at h
  split at h
  · rename_i hrunning
    cases h
    exact ⟨.inl hrunning, _, rfl⟩
  · rename_i hcancelling
    cases h
    exact ⟨.inr hcancelling, _, rfl⟩
  · cases h

theorem endServing_lowers {port : Port} (h : s.endServing port = some s') :
    rank cfg s' < rank cfg s := by
  obtain ⟨hlive, listening, rfl⟩ := endServing_eq h
  have hless := served_settle hlive
  refine rank_lt_of_pending rfl ?_
  show s.startup.left cfg.announceCount + served (s.serving.settle port) + s.start.left + s.stops
    + work s.sockets + s.cancelling.length < pending cfg s
  unfold pending
  omega

/-- `start` goes on, in a server that is closing. -/
theorem resumeStart_lowers (h : Inv s) (hclosing : s.sockets.closing = true)
    (hstep : s.resumeStart = some s') : rank cfg s' < rank cfg s := by
  have hstop : ∀ {start : Start}, start.left < s.start.left →
      rank cfg { s.stop with start } < rank cfg s := by
    intro start hless
    have hsame : s.stop.cleanup = s.cleanup := if_neg (h.closing.mp hclosing)
    refine rank_lt_of_pending hsame ?_
    show s.startup.left cfg.announceCount + served s.serving + start.left + s.stops
      + work s.sockets + s.cancelling.length < pending cfg s
    unfold pending
    omega
  unfold DoIPServer.resumeStart at hstep
  split at hstep
  · rename_i hstarting
    split at hstep
    · split at hstep
      · rename_i hopen
        rw [hclosing] at hopen
        exact absurd hopen.2.2 (by simp)
      · cases hstep
        exact hstop (by rw [hstarting]; decide)
    · cases hstep
  · rename_i hserving
    obtain ⟨_, hstep⟩ := Option.ite_none_right_eq_some.mp hstep
    cases hstep
    exact hstop (by rw [hserving]; decide)
  · rename_i hstopping
    obtain ⟨_, hstep⟩ := Option.ite_none_right_eq_some.mp hstep
    cases hstep
    refine rank_lt_of_pending rfl ?_
    show s.startup.left cfg.announceCount + served s.serving + 0 + s.stops
      + work s.sockets + s.cancelling.length < pending cfg s
    have hone : s.start.left = 1 := by rw [hstopping]; rfl
    unfold pending
    omega
  · cases hstep

theorem socket_lowers {e : Server.Event} (h : Inv s) (hclosing : s.sockets.closing = true)
    (hown : OwnSocket e) (hstep : s.socketStep e = some s') : rank cfg s' < rank cfg s := by
  obtain ⟨t', cancelling, _, hturn, rfl, hasked, hlisted⟩ := socketStep_eq hstep
  refine rank_lt_of_pending rfl ?_
  show s.startup.left cfg.announceCount + served s.serving + s.start.left + s.stops
    + work t' + cancelling.length < pending cfg s
  unfold pending
  have hlength : cancelling.length ≤ s.cancelling.length := by
    rcases hasked with ⟨_, rfl⟩ | ⟨w, _, _, rfl⟩
    · exact Nat.le_refl _
    · exact List.length_erase_le
  rcases (hturn.winds_up h.flowing hclosing).2 hown hlisted with hless | ⟨hsame, w, hcancel⟩
  · omega
  · -- only the request to cancel is gone
    have hshorter : cancelling.length < s.cancelling.length := by
      rcases hasked with ⟨hnot, _⟩ | ⟨v, _, hmem, rfl⟩
      · exact absurd hcancel (hnot w)
      · have hpos := List.length_pos_of_mem hmem
        rw [List.length_erase_of_mem hmem]
        omega
    rw [hsame]
    omega

/-- **Every own step gets the server further.** -/
theorem own_lowers {e : Event} (h : Inv s) (hclosing : s.sockets.closing = true) (hown : Own e)
    (hstep : step cfg s e = some s') : rank cfg s' < rank cfg s := by
  cases e with
  | resumeStart => exact resumeStart_lowers h hclosing hstep
  | startup outcome => exact (starts_of_step hstep).lowers
  | endServing port => exact endServing_lowers hstep
  | stopReturns =>
      obtain ⟨⟨hpos, _⟩, hstep⟩ := Option.ite_none_right_eq_some.mp hstep
      cases hstep
      refine rank_lt_of_pending rfl ?_
      show s.startup.left cfg.announceCount + served s.serving + s.start.left + (s.stops - 1)
        + work s.sockets + s.cancelling.length < pending cfg s
      unfold pending
      omega
  | cleanup => exact rank_lt_of_left (cleans_of_step hstep).left
  | socket e => exact socket_lowers h hclosing hown hstep
  | start => exact hown.elim
  | cancelStart => exact hown.elim
  | stop => exact hown.elim
  | datagram data address => exact hown.elim
  | reply id => exact hown.elim

/-- A server that is closing stays so. -/
theorem own_closing {e : Event} (h : Inv s) (hclosing : s.sockets.closing = true) (hown : Own e)
    (hstep : step cfg s e = some s') : s'.sockets.closing = true := by
  have hless : toLex (s'.cleanup.left, pending cfg s') < toLex (s.cleanup.left, pending cfg s) :=
    own_lowers h hclosing hown hstep
  have hleft := Cleanup.left_lt (h.closing.mp hclosing)
  rw [(h.step hstep).closing]
  intro habsent
  rw [Prod.Lex.toLex_lt_toLex, habsent] at hless
  have hseven : Cleanup.absent.left = 7 := rfl
  omega

/-! ## §2. Something can always be done. -/

/-- A turn of the startup task is always possible. -/
theorem startup_goes_on (habsent : s.startup ≠ .absent) (hlive : ∀ ok, s.startup ≠ .done ok) :
    ∃ outcome s', s.startupStep cfg outcome = some s' := by
  by_cases hcancelling : s.startupCancelling = true
  · have hallowed : s.startupCancelling = true
        ↔ ∃ left, Outcome.cancelled false = .cancelled left :=
      iff_of_true hcancelling ⟨false, rfl⟩
    refine ⟨.cancelled false, ?_⟩
    unfold DoIPServer.startupStep
    rw [if_pos hallowed]
    cases hstartup : s.startup with
    | absent => exact absurd hstartup habsent
    | done ok => exact absurd hstartup (hlive ok)
    | created => exact ⟨_, rfl⟩
    | binding port => exact ⟨_, rfl⟩
    | endpoint => exact ⟨_, rfl⟩
    | announcing sent => exact ⟨_, rfl⟩
  · have hallowed : s.startupCancelling = true ↔ ∃ left, Outcome.returns = .cancelled left :=
      iff_of_false hcancelling (by simp)
    refine ⟨.returns, ?_⟩
    unfold DoIPServer.startupStep
    rw [if_pos hallowed]
    cases hstartup : s.startup with
    | absent => exact absurd hstartup habsent
    | done ok => exact absurd hstartup (hlive ok)
    | created => exact ⟨_, rfl⟩
    | binding port => exact ⟨_, rfl⟩
    | endpoint =>
        dsimp only
        split <;> exact ⟨_, rfl⟩
    | announcing sent => exact ⟨_, rfl⟩

theorem endServing_goes_on {port : Port} (h : Tasks.Live s.serving port) :
    ∃ s', s.endServing port = some s' := by
  unfold DoIPServer.endServing
  rcases h with hrunning | hcancelling
  · rw [hrunning]
    exact ⟨_, rfl⟩
  · rw [hcancelling]
    exact ⟨_, rfl⟩

/-- An own step of the sockets is one of the server. -/
theorem socketStep_of_step {e : Server.Event} {t' : Server} (h : s.sockets.step e = some t')
    (hown : OwnSocket e) (hstart : ∀ w setup raises, e = .start w setup raises → w ∉ s.cancelling)
    (hcancel : ∀ w, e = .cancel w → w ∈ s.cancelling)
    (hfinished : ∀ w, e = .finished w → w ∈ s.sockets.connectionWriters) :
    ∃ s', s.socketStep e = some s' := by
  have hmap : ∃ s', (s.sockets.step e).map (fun sockets => { s with sockets }) = some s' :=
    ⟨_, by rw [h]; rfl⟩
  cases e with
  | accept w => exact hown.elim
  | construct w => exact hown.elim
  | expire w => exact hown.elim
  | evict w => exact hown.elim
  | close w => exact hown.elim
  | stop => exact hown.elim
  | leaveLoop w => exact hmap
  | cleanupEnds w => exact hmap
  | resume w raises => exact hmap
  | closed w => exact hmap
  | start w setup raises =>
      obtain ⟨s', hs'⟩ := hmap
      exact ⟨s', (if_neg (hstart w setup raises rfl)).trans hs'⟩
  | cancel w =>
      refine ⟨{ s with sockets := t', cancelling := s.cancelling.erase w },
        (if_pos (hcancel w rfl)).trans ?_⟩
      rw [h]
      rfl
  | finished w =>
      obtain ⟨s', hs'⟩ := hmap
      exact ⟨s', (if_pos (hfinished w rfl)).trans hs'⟩

/-- A listed socket has a step of its own, if one in its loop was asked to cancel. -/
theorem socket_goes_on {w : Writer} (h : Inv s) (hlisted : w ∈ s.sockets.connectionWriters)
    (hasked : s.sockets.handlers w = .running → w ∈ s.cancelling) :
    ∃ e s', OwnSocket e ∧ s.socketStep e = some s' := by
  have hflow := h.flowing.flow w
  cases hhandler : s.sockets.handlers w with
  | absent => exact absurd hhandler (hflow.present hlisted)
  | created =>
      by_cases hmem : w ∈ s.cancelling
      · have hstep : s.sockets.step (.cancel w) = some (s.sockets.setHandler w .ended) := by
          simp only [Server.step, hhandler]
        obtain ⟨s', hs'⟩ := socketStep_of_step hstep trivial (by simp)
          (by rintro v hv; cases hv; exact hmem) (by simp)
        exact ⟨.cancel w, s', trivial, hs'⟩
      · have hstep : s.sockets.step (.start w .tlsFailed true)
            = some (s.sockets.handleConnection w .tlsFailed true) := if_pos hhandler
        obtain ⟨s', hs'⟩ := socketStep_of_step hstep trivial
          (by rintro v _ _ hv; cases hv; exact hmem) (by simp) (by simp)
        exact ⟨.start w .tlsFailed true, s', trivial, hs'⟩
  | running =>
      obtain ⟨session, hsession⟩ := Option.ne_none_iff_exists'.mp (hflow.running hhandler)
      have hstep : s.sockets.step (.cancel w)
          = some ((s.sockets.scheduleCleanup w session).setHandler w .cleaning) := by
        simp only [Server.step, Server.endSession, hhandler, hsession]
        rfl
      obtain ⟨s', hs'⟩ := socketStep_of_step hstep trivial (by simp)
        (by rintro v hv; cases hv; exact hasked hhandler) (by simp)
      exact ⟨.cancel w, s', trivial, hs'⟩
  | cleaning =>
      obtain ⟨session, hsession, hcleanup⟩ := hflow.cleaning hhandler
      cases hphase : session.cleanup with
      | absent => exact absurd hphase hcleanup
      | live =>
          have hstep : s.sockets.step (.cleanupEnds w)
              = some (s.sockets.setSession w { session with cleanup := .done }) := by
            simp only [Server.step, hsession, hphase, if_true]
          obtain ⟨s', hs'⟩ := socketStep_of_step hstep trivial (by simp) (by simp) (by simp)
          exact ⟨.cleanupEnds w, s', trivial, hs'⟩
      | done =>
          have hstep : s.sockets.step (.resume w true)
              = some ((s.sockets.scheduleCleanup w session).finish w true) := by
            simp only [Server.step, hhandler, hsession, hphase, if_true]
          obtain ⟨s', hs'⟩ := socketStep_of_step hstep trivial (by simp) (by simp) (by simp)
          exact ⟨.resume w true, s', trivial, hs'⟩
  | closing =>
      have hstep : s.sockets.step (.closed w) = some (s.sockets.setHandler w .ended) :=
        if_pos hhandler
      obtain ⟨s', hs'⟩ := socketStep_of_step hstep trivial (by simp) (by simp) (by simp)
      exact ⟨.closed w, s', trivial, hs'⟩
  | ended =>
      have hstep : s.sockets.step (.finished w)
          = some { s.sockets with connectionWriters := s.sockets.connectionWriters.erase w } :=
        if_pos hhandler
      obtain ⟨s', hs'⟩ := socketStep_of_step hstep trivial (by simp) (by simp)
        (by rintro v hv; cases hv; exact hlisted)
      exact ⟨.finished w, s', trivial, hs'⟩

/-- **The clean-up is never stuck**: it can go on, or what it waits for can. -/
theorem cleanup_goes_on (h : Inv s) (hclosing : s.cleanup ≠ .absent) (hdone : s.cleanup ≠ .done) :
    ∃ e s', Own e ∧ step cfg s e = some s' := by
  have hcleanup : ∀ {s'}, s.cleanupStep = some s' → ∃ e s', Own e ∧ step cfg s e = some s' :=
    fun hstep => ⟨.cleanup, _, trivial, hstep⟩
  cases hphase : s.cleanup with
  | absent => exact absurd hphase hclosing
  | done => exact absurd hphase hdone
  | created =>
      cases hstartup : s.startup <;>
        exact hcleanup (by unfold DoIPServer.cleanupStep; rw [hphase, hstartup])
  | joiningStartup =>
      by_cases hdone : ∃ ok, s.startup = .done ok
      · obtain ⟨ok, hstartup⟩ := hdone
        exact hcleanup (by unfold DoIPServer.cleanupStep; rw [hphase, hstartup])
      · obtain ⟨outcome, s', hstep⟩ : ∃ outcome s', s.startupStep cfg outcome = some s' :=
          startup_goes_on (h.waited hphase) (fun ok hok => hdone ⟨ok, hok⟩)
        exact ⟨.startup outcome, s', trivial, hstep⟩
  | joiningServe snapshot =>
      by_cases hjoined : s.serving.Joined snapshot
      · exact hcleanup (by unfold DoIPServer.cleanupStep; rw [hphase]; exact if_pos hjoined)
      · -- one that is not done was started, so it lives
        obtain ⟨p, hmem, hlive⟩ : ∃ p ∈ snapshot, s.serving p ≠ .done := by
          simpa [Tasks.Joined] using hjoined
        have hused := h.used p (.inr ⟨snapshot, hphase, hmem⟩)
        have hlive : Tasks.Live s.serving p := by
          unfold Tasks.Live
          cases hserving : s.serving p <;> simp_all
        obtain ⟨s', hstep⟩ := endServing_goes_on hlive
        exact ⟨.endServing p, s', trivial, hstep⟩
  | closingListeners => exact hcleanup (by unfold DoIPServer.cleanupStep; rw [hphase])
  | joiningTasks snapshot =>
      by_cases hover : ∀ w ∈ snapshot, w ∉ s.sockets.connectionWriters
      · exact hcleanup (by unfold DoIPServer.cleanupStep; rw [hphase]; exact if_pos hover)
      · obtain ⟨w, _, hlisted⟩ : ∃ w ∈ snapshot, w ∈ s.sockets.connectionWriters := by
          simpa using hover
        obtain ⟨e, s', hown, hstep⟩ :=
          socket_goes_on h hlisted (h.joining snapshot hphase w hlisted).2
        exact ⟨.socket e, s', hown, hstep⟩
  | closingSessions snapshot =>
      have hleft : s.cleanup.left = 1 := by rw [hphase]; rfl
      have hover : ∀ w ∈ snapshot, ∀ session, s.sockets.sessions w = some session →
          session.cleanup = .done := fun w _ => h.sessionsOver (by omega) w
      exact hcleanup (by unfold DoIPServer.cleanupStep; rw [hphase]; exact if_pos hover)

/-! ## §3. The end. -/

/-- A server that is left alone finishes its clean-up, and with it every call. -/
theorem drains (cfg : Config) :
    Transition.Drains (step cfg) (fun s => Inv s ∧ s.sockets.closing = true) Own Finished
      (rank cfg) where
  keeps := by
    rintro s e s' ⟨h, hclosing⟩ hown hstep
    exact ⟨h.step hstep, own_closing h hclosing hown hstep⟩
  lowers := by
    rintro s e s' ⟨h, hclosing⟩ hown hstep
    exact own_lowers h hclosing hown hstep
  goes_on := by
    rintro s ⟨h, hclosing⟩ hunfinished
    by_cases hdone : s.cleanup = .done
    · have hleft : s.cleanup.left = 0 := by rw [hdone]; rfl
      by_cases hstops : s.stops = 0
      · -- only the call of `start` can be left
        cases hstart : s.start with
        | absent => exact absurd ⟨hdone, .inl hstart, hstops⟩ hunfinished
        | returned => exact absurd ⟨hdone, .inr hstart, hstops⟩ hunfinished
        | starting =>
            rcases h.startupOver (by omega) with habsent | ⟨ok, hstartup⟩
            · exact absurd habsent (h.begun (by simp [hstart]))
            · have hnot : ¬ (ok = true ∧ s.startCancelled = false ∧ s.sockets.closing = false) := by
                simp [hclosing]
              refine ⟨.resumeStart, { s.stop with start := .stopping }, trivial, ?_⟩
              show s.resumeStart = _
              unfold DoIPServer.resumeStart
              rw [hstart, hstartup]
              exact if_neg hnot
        | serving =>
            have hplain : s.serving .plain = .done := by
              have hlive := h.not_live (by omega) .plain
              have hused := h.served hstart
              unfold Tasks.Live at hlive
              cases hserving : s.serving .plain <;> simp_all
            refine ⟨.resumeStart, { s.stop with start := .stopping }, trivial, ?_⟩
            show s.resumeStart = _
            unfold DoIPServer.resumeStart
            rw [hstart]
            exact if_pos (.inl hplain)
        | stopping =>
            refine ⟨.resumeStart, { s with start := .returned }, trivial, ?_⟩
            show s.resumeStart = _
            unfold DoIPServer.resumeStart
            rw [hstart]
            exact if_pos hdone
      · exact ⟨.stopReturns, _, trivial, if_pos ⟨by omega, hdone⟩⟩
    · exact cleanup_goes_on h (h.closing.mp hclosing) hdone

/-- **A stopping server stops**: wherever it is when it is stopped, it can
finish without anybody's help, it is stuck nowhere before, and it cannot go
on forever.  This takes it that the listeners' `wait_closed` and the
executor's `shutdown(wait=True)` return. -/
theorem stop_completes (cfg : Config) (s₀ s : DoIPServer) (hnew : DoIPServer.new cfg = some s₀)
    (es : List Event) (hrun : Transition.exec (step cfg) s₀ es = some s)
    (hclosing : s.sockets.closing = true) :
    (∃ es' t, (∀ e ∈ es', Own e) ∧ Transition.exec (step cfg) s es' = some t ∧ Finished t
        ∧ Released t)
      ∧ ((∀ e, Own e → step cfg s e = none) → Finished s ∧ Released s)
      ∧ ∀ states : ℕ → DoIPServer, states 0 = s →
          ¬ ∀ n, ∃ e, Own e ∧ step cfg (states n) e = some (states (n + 1)) := by
  have hinv := inv_run hnew hrun
  refine ⟨?_, ?_, ?_⟩
  · obtain ⟨es', t, hown, ht, hfinished⟩ := (drains cfg).reaches_done ⟨hinv, hclosing⟩
    refine ⟨es', t, hown, ht, hfinished, Inv.done ?_ hfinished.1⟩
    exact inv_run hnew (Transition.exec_append_eq_some.mpr ⟨s, hrun, ht⟩)
  · intro hstuck
    have hfinished := (drains cfg).done_of_stuck ⟨hinv, hclosing⟩ hstuck
    exact ⟨hfinished, hinv.done hfinished.1⟩
  · intro states hfirst
    exact (drains cfg).finite states (hfirst ▸ ⟨hinv, hclosing⟩)

/-- A stop while the second listener is being opened. -/
def stopsEarly : List Event := [.start, .startup .returns, .startup .returns, .stop]

theorem stop_completes_early :
    ∃ s₀ s, DoIPServer.new oneAnnouncement = some s₀
      ∧ Transition.exec (step oneAnnouncement) s₀ stopsEarly = some s
      ∧ ∃ es t, Transition.exec (step oneAnnouncement) s es = some t ∧ Released t := by
  have hrun : ((DoIPServer.new oneAnnouncement).bind fun s₀ =>
      (Transition.exec (step oneAnnouncement) s₀ stopsEarly).map fun s => s.sockets.closing)
      = some true := by decide
  obtain ⟨s₀, hnew, hrest⟩ := Option.bind_eq_some_iff.mp hrun
  obtain ⟨s, hs, hclosing⟩ := Option.map_eq_some_iff.mp hrest
  obtain ⟨⟨es, t, _, ht, _, hreleased⟩, _⟩ :=
    stop_completes oneAnnouncement s₀ s hnew stopsEarly hs hclosing
  exact ⟨s₀, s, hnew, hs, es, t, ht, hreleased⟩

end DoipPlayground.EdgeNode.Lifecycle
