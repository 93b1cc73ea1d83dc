/-
  DoipPlayground.EdgeNode.Handlers
  ────────────────────────────────
  **THE CONNECTION HANDLERS OF A SERVER THAT CLOSES.**

  A handler that has gone past its session has waited for the clean-up of
  it.  Once the server is closing no handler starts a session, and each of
  its own steps leaves less to do.

    • `Flow` — what the handler of a socket owes to its session,
    • `Turn` — a step of the sockets, read off the event,
    • `Flowing.turn` — every step keeps handlers and sessions in order,
    • `Turn.winds_up` — and in a closing server it only winds them up.
-/
import Mathlib.Algebra.GroupWithZero.Nat
import Mathlib.Algebra.Order.BigOperators.Group.List
import Mathlib.Algebra.Order.Group.Nat
import DoipPlayground.EdgeNode.Server

namespace DoipPlayground.EdgeNode.Lifecycle

open Sockets (Writer Server Handler Setup)

/-! ## §1. Handlers and their sessions. -/

/-- A handler that is not over is listed; one that has gone past its session
has waited for the clean-up of it. -/
structure Flow (listed : Prop) (handler : Handler) (session : Option Sockets.Session) : Prop where
  tracked : handler = .absent ∨ handler = .ended ∨ listed
  present : listed → handler ≠ .absent
  fresh : handler = .absent ∨ handler = .created → session = none
  running : handler = .running → session ≠ none
  cleaning : handler = .cleaning → ∃ ending, session = some ending ∧ ending.cleanup ≠ .absent
  pastSession : handler = .closing ∨ handler = .ended →
    ∀ ending, session = some ending → ending.cleanup = .done

structure Flowing (t : Server) : Prop where
  flow : ∀ w, Flow (w ∈ t.connectionWriters) (t.handlers w) (t.sessions w)
  once : t.connectionWriters.Nodup

variable {t t' : Server} {w : Writer}

namespace Flow

variable {listed : Prop} {handler : Handler} {session : Option Sockets.Session}

theorem mem (h : Flow listed handler session) (habsent : handler ≠ .absent)
    (hended : handler ≠ .ended) : listed :=
  (h.tracked.resolve_left habsent).resolve_left hended

theorem created (h : listed) : Flow listed .created none where
  tracked := .inr (.inr h)
  present := fun _ h => by cases h
  fresh := fun _ => rfl
  running := fun h => by cases h
  cleaning := fun h => by cases h
  pastSession := fun _ _ h => by cases h

theorem ran (h : listed) (open_ : Sockets.Session) : Flow listed .running (some open_) where
  tracked := .inr (.inr h)
  present := fun _ h => by cases h
  fresh := fun h => by rcases h with h | h <;> cases h
  running := fun _ h => by cases h
  cleaning := fun h => by cases h
  pastSession := fun h => by rcases h with h | h <;> cases h

theorem cleaned (h : listed) {ending : Sockets.Session} (hcleanup : ending.cleanup ≠ .absent) :
    Flow listed .cleaning (some ending) where
  tracked := .inr (.inr h)
  present := fun _ h => by cases h
  fresh := fun h => by rcases h with h | h <;> cases h
  running := fun h => by cases h
  cleaning := fun _ => ⟨ending, rfl, hcleanup⟩
  pastSession := fun h => by rcases h with h | h <;> cases h

/-- A handler behind its session. -/
theorem left (htracked : handler = .ended ∨ listed)
    (hhandler : handler = .closing ∨ handler = .ended)
    (hover : ∀ ending, session = some ending → ending.cleanup = .done) :
    Flow listed handler session where
  tracked := .inr htracked
  present := fun _ => by rcases hhandler with rfl | rfl <;> decide
  fresh := fun h => by rcases hhandler with rfl | rfl <;> simp at h
  running := fun h => by rcases hhandler with rfl | rfl <;> cases h
  cleaning := fun h => by rcases hhandler with rfl | rfl <;> cases h
  pastSession := fun _ => hover

/-- The session is replaced by one whose clean-up is as far. -/
theorem ends {open_ ending : Sockets.Session} (h : Flow listed handler (some open_))
    (hcleanup : ending.cleanup ≠ .absent)
    (hdone : open_.cleanup = .done → ending.cleanup = .done) :
    Flow listed handler (some ending) where
  tracked := h.tracked
  present := h.present
  fresh := fun hfresh => absurd (h.fresh hfresh) (by simp)
  running := fun _ => by simp
  cleaning := fun _ => ⟨ending, rfl, hcleanup⟩
  pastSession := by
    intro hover e he
    cases he
    exact hdone (h.pastSession hover _ rfl)

end Flow

/-- Nothing changes but the handler and the session of `w`, and who is counted. -/
structure Only (w : Writer) (t t' : Server) : Prop where
  handlers : ∀ v, v ≠ w → t'.handlers v = t.handlers v
  sessions : ∀ v, v ≠ w → t'.sessions v = t.sessions v
  writers : t'.connectionWriters = t.connectionWriters
  closing : t'.closing = t.closing

namespace Only

theorem trans {t'' : Server} (h : Only w t t') (h' : Only w t' t'') : Only w t t'' where
  handlers v hv := (h'.handlers v hv).trans (h.handlers v hv)
  sessions v hv := (h'.sessions v hv).trans (h.sessions v hv)
  writers := h'.writers.trans h.writers
  closing := h'.closing.trans h.closing

theorem registry (t : Server) (w : Writer) (registry : Sockets.SessionRegistry) :
    Only w t { t with registry } := ⟨fun _ _ => rfl, fun _ _ => rfl, rfl, rfl⟩

theorem setHandler (t : Server) (w : Writer) (handler : Handler) :
    Only w t (t.setHandler w handler) :=
  ⟨fun _ hv => Function.update_of_ne hv _ _, fun _ _ => rfl, rfl, rfl⟩

theorem setSession (t : Server) (w : Writer) (session : Sockets.Session) :
    Only w t (t.setSession w session) :=
  ⟨fun _ _ => rfl, fun _ hv => Function.update_of_ne hv _ _, rfl, rfl⟩

theorem scheduleCleanup (t : Server) (w : Writer) (session : Sockets.Session) :
    Only w t (t.scheduleCleanup w session) := by
  refine trans ?_ (setSession _ w _)
  unfold Server.closeTransportAndRegistry
  split
  · exact registry t w _
  · exact (setSession t w _).trans (registry _ w _)

theorem finish (t : Server) (w : Writer) (raises : Bool) : Only w t (t.finish w raises) :=
  (registry t w _).trans (setHandler _ w _)

end Only

theorem Flowing.only (h : Flowing t) (honly : Only w t t')
    (hself : Flow (w ∈ t.connectionWriters) (t'.handlers w) (t'.sessions w)) : Flowing t' := by
  refine ⟨?_, honly.writers ▸ h.once⟩
  intro v
  rw [honly.writers]
  by_cases hv : v = w
  · subst hv
    exact hself
  · rw [honly.handlers v hv, honly.sessions v hv]
    exact h.flow v

/-- The session behind the start of its clean-up. -/
theorem scheduleCleanup_session (t : Server) (w : Writer) (session : Sockets.Session) :
    ∃ ending, (t.scheduleCleanup w session).sessions w = some ending
      ∧ ending.cleanup ≠ .absent ∧ (session.cleanup = .done → ending.cleanup = .done)
      ∧ (ending.cleanup = .live ↔ session.cleanup ≠ .done) := by
  refine ⟨_, Server.sessions_setSession _ w _, ?_, ?_, ?_⟩
  all_goals dsimp only; cases session.cleanup <;> simp

/-- **What a step of the sockets of a server can be**, by its event. -/
inductive Turn (t : Server) : Server.Event → Server → Prop where
  | accepted (w : Writer) (hhandler : t.handlers w = .absent) (hnone : t.sessions w = none) :
      Turn t (.accept w) (t.acceptConnection w)
  | started (w : Writer) (setup : Setup) (raises : Bool) (hhandler : t.handlers w = .created) :
      Turn t (.start w setup raises) (t.handleConnection w setup raises)
  | loopLeft (w : Writer) (session : Sockets.Session) (hhandler : t.handlers w = .running)
      (hsession : t.sessions w = some session) :
      Turn t (.leaveLoop w) ((t.scheduleCleanup w session).setHandler w .cleaning)
  | sessionEnds (e : Server.Event) (w : Writer) (session : Sockets.Session)
      (houter : e = .expire w ∨ e = .evict w ∨ e = .close w)
      (hsession : t.sessions w = some session) : Turn t e (t.scheduleCleanup w session)
  | cleaned (w : Writer) (session : Sockets.Session) (hsession : t.sessions w = some session)
      (hlive : session.cleanup = .live) :
      Turn t (.cleanupEnds w) (t.setSession w { session with cleanup := .done })
  | resumed (w : Writer) (session : Sockets.Session) (raises : Bool)
      (hhandler : t.handlers w = .cleaning)
      (hsession : t.sessions w = some session) (hdone : session.cleanup = .done) :
      Turn t (.resume w raises) ((t.scheduleCleanup w session).finish w raises)
  | closed (w : Writer) (hhandler : t.handlers w = .closing) :
      Turn t (.closed w) (t.setHandler w .ended)
  | neverRan (w : Writer) (hhandler : t.handlers w = .created) :
      Turn t (.cancel w) (t.setHandler w .ended)
  | cancelled (w : Writer) (session : Sockets.Session) (hhandler : t.handlers w = .running)
      (hsession : t.sessions w = some session) :
      Turn t (.cancel w) ((t.scheduleCleanup w session).setHandler w .cleaning)
  | remembered (w : Writer) (hhandler : t.handlers w = .cleaning) : Turn t (.cancel w) t
  | cutShort (w : Writer) (hhandler : t.handlers w = .closing) :
      Turn t (.cancel w) (t.setHandler w .ended)
  | finished (w : Writer) (hhandler : t.handlers w = .ended) :
      Turn t (.finished w) { t with connectionWriters := t.connectionWriters.erase w }

theorem turn_of_step {e : Server.Event} (hconstruct : ∀ w, e ≠ .construct w) (hstop : e ≠ .stop)
    (h : t.step e = some t') : Turn t e t' := by
  cases e with
  | accept w =>
      obtain ⟨⟨hhandler, hnone⟩, h⟩ := Option.ite_none_right_eq_some.mp h
      cases h
      exact .accepted w hhandler hnone
  | start w setup raises =>
      obtain ⟨hhandler, h⟩ := Option.ite_none_right_eq_some.mp h
      cases h
      exact .started w setup raises hhandler
  | construct w => exact absurd rfl (hconstruct w)
  -- the loop ends in the clean-up of its session
  | leaveLoop w =>
      obtain ⟨hhandler, h⟩ := Option.ite_none_right_eq_some.mp h
      obtain ⟨ended, hended, rfl⟩ := Option.map_eq_some_iff.mp h
      obtain ⟨session, hsession, rfl⟩ := Option.map_eq_some_iff.mp hended
      exact .loopLeft w session hhandler hsession
  | expire w =>
      obtain ⟨session, hsession, rfl⟩ := Option.map_eq_some_iff.mp h
      exact .sessionEnds _ w session (.inl rfl) hsession
  | evict w =>
      obtain ⟨session, hsession, rfl⟩ := Option.map_eq_some_iff.mp h
      exact .sessionEnds _ w session (.inr (.inl rfl)) hsession
  | close w =>
      obtain ⟨session, hsession, rfl⟩ := Option.map_eq_some_iff.mp h
      exact .sessionEnds _ w session (.inr (.inr rfl)) hsession
  | cleanupEnds w =>
      simp only [Server.step] at h
      split at h
      · rename_i session hsession
        obtain ⟨hlive, h⟩ := Option.ite_none_right_eq_some.mp h
        cases h
        exact .cleaned w session hsession hlive
      · cases h
  -- the handler resumes only when its clean-up is done
  | resume w raises =>
      simp only [Server.step] at h
      split at h
      · rename_i session hhandler hsession
        obtain ⟨hdone, h⟩ := Option.ite_none_right_eq_some.mp h
        cases h
        exact .resumed w session raises hhandler hsession hdone
      · cases h
  | closed w =>
      obtain ⟨hhandler, h⟩ := Option.ite_none_right_eq_some.mp h
      cases h
      exact .closed w hhandler
  -- a cancellation arrives before the first step, in the loop, past the loop or at the last wait
  | cancel w =>
      simp only [Server.step] at h
      split at h
      · rename_i hhandler
        cases h
        exact .neverRan w hhandler
      · rename_i hhandler
        obtain ⟨ended, hended, rfl⟩ := Option.map_eq_some_iff.mp h
        obtain ⟨session, hsession, rfl⟩ := Option.map_eq_some_iff.mp hended
        exact .cancelled w session hhandler hsession
      · rename_i hhandler
        cases h
        exact .remembered w hhandler
      · rename_i hhandler
        cases h
        exact .cutShort w hhandler
      · cases h
  | finished w =>
      obtain ⟨hhandler, h⟩ := Option.ite_none_right_eq_some.mp h
      cases h
      exact .finished w hhandler
  | stop => exact absurd rfl hstop

/-- The handler ends, or waits for its writer. -/
theorem finish_flow (hlisted : w ∈ t.connectionWriters)
    (hover : ∀ ending, t.sessions w = some ending → ending.cleanup = .done) (raises : Bool) :
    Flow (w ∈ t.connectionWriters) ((t.finish w raises).handlers w)
      ((t.finish w raises).sessions w) := by
  unfold Server.finish
  rw [Server.handlers_setHandler]
  refine .left (.inr hlisted) ?_ hover
  cases raises
  · exact .inl rfl
  · exact .inr rfl

/-- The first step of a handler behind its reservation. -/
theorem Flowing.runConnection {registry : Sockets.SessionRegistry} (h : Flowing t)
    (hlisted : w ∈ t.connectionWriters) (hnone : t.sessions w = none) (setup : Setup)
    (raises : Bool) :
    Only w t ({ t with registry }.runConnection w setup raises)
      ∧ Flowing ({ t with registry }.runConnection w setup raises) := by
  have honly := Only.registry t w registry
  have hover : ∀ ending, t.sessions w = some ending → ending.cleanup = .done := by
    intro ending hending
    rw [hnone] at hending
    cases hending
  have hfinish : Only w t (Server.finish { t with registry } w raises)
      ∧ Flowing (Server.finish { t with registry } w raises) := by
    have hall := honly.trans (Only.finish { t with registry } w raises)
    exact ⟨hall, h.only hall (finish_flow (t := { t with registry }) hlisted hover raises)⟩
  unfold Server.runConnection
  split
  · exact hfinish
  · exact hfinish
  · exact hfinish
  · rename_i loops
    split
    · exact hfinish
    · rename_i attached hattach
      have hall := honly.trans (Only.registry _ w attached)
      dsimp only at hall ⊢
      split
      · have hran := (hall.trans (Only.setSession _ w {})).trans (Only.setHandler _ w .running)
        refine ⟨hran, h.only hran ?_⟩
        rw [Server.handlers_setHandler, Server.sessions_setHandler, Server.sessions_setSession]
        exact .ran hlisted _
      · have hended := (hall.trans (Only.scheduleCleanup _ w {})).trans
          (Only.setHandler _ w .cleaning)
        refine ⟨hended, h.only hended ?_⟩
        obtain ⟨ending, hending, hcleanup, _⟩ :=
          scheduleCleanup_session { t with registry := attached } w {}
        rw [Server.handlers_setHandler, Server.sessions_setHandler, hending]
        exact .cleaned hlisted hcleanup

theorem Flowing.handleConnection (h : Flowing t) (hhandler : t.handlers w = .created)
    (setup : Setup) (raises : Bool) :
    Only w t (t.handleConnection w setup raises) ∧ Flowing (t.handleConnection w setup raises) := by
  have hnone : t.sessions w = none := (h.flow w).fresh (.inr hhandler)
  have hlisted : w ∈ t.connectionWriters :=
    (h.flow w).mem (by rw [hhandler]; decide) (by rw [hhandler]; decide)
  unfold Server.handleConnection
  split
  · have honly : Only w t ((t.release w).setHandler w .ended) := Only.finish t w true
    refine ⟨honly, h.only honly ?_⟩
    exact finish_flow hlisted (by rw [hnone]; simp) true
  · split
    · have honly := Only.setHandler t w .ended
      refine ⟨honly, h.only honly ?_⟩
      rw [Server.handlers_setHandler, Server.sessions_setHandler, hnone]
      exact .left (.inl rfl) (.inr rfl) (by simp)
    · exact h.runConnection hlisted hnone setup raises

theorem Flowing.acceptConnection (h : Flowing t) (hhandler : t.handlers w = .absent)
    (hnone : t.sessions w = none) : Flowing (t.acceptConnection w) := by
  unfold Server.acceptConnection
  split
  · refine h.only (Only.setHandler t w .ended) ?_
    rw [Server.handlers_setHandler, Server.sessions_setHandler, hnone]
    exact .left (.inl rfl) (.inr rfl) (by simp)
  · have hnew : w ∉ t.connectionWriters := fun hmem => (h.flow w).present hmem hhandler
    constructor
    · intro v
      show Flow (v ∈ t.connectionWriters ++ [w]) (Function.update t.handlers w .created v)
        (t.sessions v)
      by_cases hv : v = w
      · subst hv
        rw [Function.update_self, hnone]
        exact .created (by simp)
      · rw [Function.update_of_ne hv]
        have hmem : v ∈ t.connectionWriters ++ [w] ↔ v ∈ t.connectionWriters := by simp [hv]
        rw [propext hmem]
        exact h.flow v
    · show (t.connectionWriters ++ [w]).Nodup
      rw [← List.concat_eq_append]
      exact List.Nodup.concat hnew h.once

/-- The handlers that are over are no longer listed when their callback has run. -/
theorem Flowing.finished (h : Flowing t) (hhandler : t.handlers w = .ended) :
    Flowing { t with connectionWriters := t.connectionWriters.erase w } := by
  constructor
  · intro v
    show Flow (v ∈ t.connectionWriters.erase w) (t.handlers v) (t.sessions v)
    by_cases hv : v = w
    · subst hv
      exact .left (.inl hhandler) (.inr hhandler) ((h.flow v).pastSession (.inr hhandler))
    · rw [propext (List.mem_erase_of_ne hv)]
      exact h.flow v
  · exact h.once.erase w

/-- A session ends; the handler goes on as `handler`. -/
theorem Flowing.scheduleCleanup (h : Flowing t) {session : Sockets.Session}
    (hsession : t.sessions w = some session) : Flowing (t.scheduleCleanup w session) := by
  obtain ⟨ending, hending, hcleanup, hdone, _⟩ := scheduleCleanup_session t w session
  refine h.only (Only.scheduleCleanup t w session) ?_
  have hold := h.flow w
  rw [hsession] at hold
  rw [hending, Server.handlers_scheduleCleanup]
  exact hold.ends hcleanup hdone

/-- The loop of a session is left. -/
theorem Flowing.leaveLoop (h : Flowing t) (hhandler : t.handlers w = .running)
    (session : Sockets.Session) :
    Flowing ((t.scheduleCleanup w session).setHandler w .cleaning) := by
  obtain ⟨ending, hending, hcleanup, _⟩ := scheduleCleanup_session t w session
  refine h.only ((Only.scheduleCleanup t w session).trans (Only.setHandler _ w .cleaning)) ?_
  rw [Server.handlers_setHandler, Server.sessions_setHandler, hending]
  refine .cleaned ?_ hcleanup
  exact (h.flow w).mem (by rw [hhandler]; decide) (by rw [hhandler]; decide)

/-- **Every step keeps handlers and sessions in order.** -/
theorem Flowing.turn {e : Server.Event} (h : Flowing t) (hturn : Turn t e t') : Flowing t' := by
  cases hturn with
  | accepted w hhandler hnone => exact h.acceptConnection hhandler hnone
  | started w setup raises hhandler => exact (h.handleConnection hhandler setup raises).2
  | loopLeft w session hhandler hsession => exact h.leaveLoop hhandler session
  | sessionEnds _ w session _ hsession => exact h.scheduleCleanup hsession
  | cleaned w session hsession hlive =>
      refine h.only (Only.setSession t w _) ?_
      have hold := h.flow w
      rw [hsession] at hold
      rw [Server.handlers_setSession, Server.sessions_setSession]
      exact hold.ends (by simp) (fun _ => rfl)
  | resumed w session raises hhandler hsession hdone =>
      obtain ⟨ending, hending, _, hkept, _⟩ := scheduleCleanup_session t w session
      have honly := Only.scheduleCleanup t w session
      refine h.only (honly.trans (Only.finish _ w raises)) ?_
      rw [← honly.writers]
      refine finish_flow ?_ ?_ raises
      · rw [honly.writers]
        exact (h.flow w).mem (by rw [hhandler]; decide) (by rw [hhandler]; decide)
      · intro e he
        rw [hending, Option.some.injEq] at he
        exact he ▸ hkept hdone
  | closed w hhandler =>
      refine h.only (Only.setHandler t w .ended) ?_
      rw [Server.handlers_setHandler, Server.sessions_setHandler]
      exact .left (.inl rfl) (.inr rfl) ((h.flow w).pastSession (.inl hhandler))
  | neverRan w hhandler =>
      refine h.only (Only.setHandler t w .ended) ?_
      rw [Server.handlers_setHandler, Server.sessions_setHandler, (h.flow w).fresh (.inr hhandler)]
      exact .left (.inl rfl) (.inr rfl) (by simp)
  | cancelled w session hhandler hsession => exact h.leaveLoop hhandler session
  | remembered w _ => exact h
  | cutShort w hhandler =>
      refine h.only (Only.setHandler t w .ended) ?_
      rw [Server.handlers_setHandler, Server.sessions_setHandler]
      exact .left (.inl rfl) (.inr rfl) ((h.flow w).pastSession (.inl hhandler))
  | finished w hhandler => exact h.finished hhandler

theorem Turn.closing {e : Server.Event} (hturn : Turn t e t') (h : Flowing t) :
    t'.closing = t.closing := by
  cases hturn with
  | accepted w _ _ =>
      unfold Server.acceptConnection
      split <;> rfl
  | started w setup raises hhandler => exact (h.handleConnection hhandler setup raises).1.closing
  | loopLeft w session _ _ => exact (Only.scheduleCleanup t w session).closing
  | sessionEnds _ w session _ _ => exact (Only.scheduleCleanup t w session).closing
  | cleaned w session _ _ => rfl
  | resumed w session raises _ _ _ => exact (Only.scheduleCleanup t w session).closing
  | closed w _ => rfl
  | neverRan w _ => rfl
  | cancelled w session _ _ => exact (Only.scheduleCleanup t w session).closing
  | remembered w _ => rfl
  | cutShort w _ => rfl
  | finished w _ => rfl

/-! ## §2. A server that is closing. -/

/-- No connection task is new, and no session is in its loop that was not. -/
structure Calm (t t' : Server) : Prop where
  writers : ∀ v ∈ t'.connectionWriters, v ∈ t.connectionWriters
  running : ∀ v, t'.handlers v = .running → t.handlers v = .running

theorem Only.calm (h : Only w t t') (hself : t'.handlers w ≠ .running) : Calm t t' := by
  refine ⟨fun v hv => h.writers ▸ hv, ?_⟩
  intro v hv
  by_cases hvw : v = w
  · subst hvw
    exact absurd hv hself
  · rw [← h.handlers v hvw]
    exact hv

theorem handleConnection_closing (hclosing : t.closing = true) (w : Writer) (setup : Setup)
    (raises : Bool) : t.handleConnection w setup raises = (t.release w).setHandler w .ended :=
  if_pos hclosing

/-- How much a handler has still to do. -/
def handlerWork : Handler → Nat
  | .absent => 0
  | .created => 10
  | .running => 8
  | .cleaning => 6
  | .closing => 4
  | .ended => 2

/-- And its session. -/
def sessionWork : Option Sockets.Session → Nat
  | some session => if session.cleanup = .done then 0 else 1
  | none => 0

def weight (t : Server) (w : Writer) : Nat :=
  handlerWork (t.handlers w) + sessionWork (t.sessions w)

/-- How much the connection tasks have still to do. -/
def work (t : Server) : Nat := (t.connectionWriters.map (weight t)).sum

theorem sessionWork_le (session : Option Sockets.Session) : sessionWork session ≤ 1 := by
  unfold sessionWork
  split
  · split <;> omega
  · omega

theorem work_only (h : Only w t t') (hlisted : w ∈ t.connectionWriters)
    (hless : weight t' w < weight t w) : work t' < work t := by
  unfold work
  rw [h.writers]
  apply List.sum_lt_sum
  · intro v _
    by_cases hv : v = w
    · subst hv
      exact Nat.le_of_lt hless
    · unfold weight
      rw [h.handlers v hv, h.sessions v hv]
  · exact ⟨w, hlisted, hless⟩

theorem work_finished (hlisted : w ∈ t.connectionWriters) (hhandler : t.handlers w = .ended) :
    work { t with connectionWriters := t.connectionWriters.erase w } < work t := by
  have hsum : weight t w + ((t.connectionWriters.erase w).map (weight t)).sum = work t :=
    List.sum_map_erase (weight t) hlisted
  have hpos : 0 < weight t w := by
    unfold weight
    rw [hhandler]
    simp only [handlerWork]
    omega
  show ((t.connectionWriters.erase w).map (weight t)).sum < work t
  omega

/-- A handler that goes on. -/
theorem winds_up_at {handler handler' : Handler} (honly : Only w t t')
    (hlisted : w ∈ t.connectionWriters) (hbefore : t.handlers w = handler)
    (hafter : t'.handlers w = handler') (hrun : handler' ≠ .running)
    (hless : handlerWork handler' + 1 < handlerWork handler) :
    Calm t t' ∧ work t' < work t := by
  refine ⟨honly.calm (hafter ▸ hrun), work_only honly hlisted ?_⟩
  have hsession := sessionWork_le (t'.sessions w)
  unfold weight
  rw [hbefore, hafter]
  omega

/-- What happens in a server without anything coming from outside. -/
def OwnSocket : Server.Event → Prop
  | .start .. | .leaveLoop _ | .cleanupEnds _ | .resume .. | .closed _ | .cancel _
  | .finished _ => True
  | .accept _ | .construct _ | .expire _ | .evict _ | .close _ | .stop => False

/-- **A closing server only winds up its sockets.** -/
theorem Turn.winds_up {e : Server.Event} (hturn : Turn t e t') (h : Flowing t)
    (hclosing : t.closing = true) :
    Calm t t' ∧ (OwnSocket e → (∀ w, e = .finished w → w ∈ t.connectionWriters) →
      work t' < work t ∨ t' = t ∧ ∃ w, e = .cancel w) := by
  -- a handler that is neither absent nor ended is on the list
  have hmem : ∀ {w handler}, t.handlers w = handler → handler ≠ .absent → handler ≠ .ended →
      w ∈ t.connectionWriters := by
    intro w handler hhandler habsent hended
    exact (h.flow w).mem (hhandler ▸ habsent) (hhandler ▸ hended)
  cases hturn with
  | accepted w _ _ =>
      -- a connection that comes in now is turned away at once
      unfold Server.acceptConnection
      rw [if_pos hclosing]
      refine ⟨(Only.setHandler t w .ended).calm ?_, fun hown => hown.elim⟩
      rw [Server.handlers_setHandler]
      decide
  -- a handler that starts while the server closes leaves at once
  | started w setup raises hhandler =>
      have honly : Only w t ((t.release w).setHandler w .ended) := Only.finish t w true
      rw [handleConnection_closing hclosing]
      obtain ⟨hcalm, hless⟩ := winds_up_at honly (hmem hhandler (by decide) (by decide)) hhandler
        (Server.handlers_setHandler _ w .ended) (by decide) (by decide)
      exact ⟨hcalm, fun _ _ => .inl hless⟩
  -- the loop is left, so one stage less is before the handler
  | loopLeft w session hhandler _ =>
      have honly := (Only.scheduleCleanup t w session).trans (Only.setHandler _ w .cleaning)
      obtain ⟨hcalm, hless⟩ := winds_up_at honly (hmem hhandler (by decide) (by decide)) hhandler
        (Server.handlers_setHandler _ w .cleaning) (by decide) (by decide)
      exact ⟨hcalm, fun _ _ => .inl hless⟩
  | sessionEnds _ w session houter _ =>
      constructor
      · have honly := Only.scheduleCleanup t w session
        refine ⟨fun v hv => honly.writers ▸ hv, ?_⟩
        rw [Server.handlers_scheduleCleanup]
        exact fun _ => id
      -- what ends a session from outside is no step of its own
      · rcases houter with rfl | rfl | rfl <;> exact fun hown => hown.elim
  | cleaned w session hsession hlive =>
      have honly := Only.setSession t w { session with cleanup := .done }
      refine ⟨⟨fun _ => id, fun _ => id⟩, fun _ _ => .inl (work_only honly ?_ ?_)⟩
      · -- the clean-up is live, so the handler is in the session
        have hold := h.flow w
        rw [hsession] at hold
        apply hold.mem
        · intro habsent
          cases hold.fresh (.inl habsent)
        · intro hended
          have hdone := hold.pastSession (.inr hended) session rfl
          rw [hlive] at hdone
          cases hdone
      · unfold weight
        rw [Server.handlers_setSession, Server.sessions_setSession, hsession]
        simp [sessionWork, hlive]
  -- past the clean-up, an exception ends the handler and a return goes on to the writer
  | resumed w session raises hhandler _ _ =>
      have honly := (Only.scheduleCleanup t w session).trans (Only.finish _ w raises)
      have hlate : (if raises then Handler.ended else .closing) ≠ .running
          ∧ handlerWork (if raises then Handler.ended else .closing) + 1
            < handlerWork .cleaning := by
        cases raises <;> decide
      obtain ⟨hcalm, hless⟩ := winds_up_at honly (hmem hhandler (by decide) (by decide)) hhandler
        (Server.handlers_setHandler _ w _) hlate.1 hlate.2
      exact ⟨hcalm, fun _ _ => .inl hless⟩
  | closed w hhandler =>
      obtain ⟨hcalm, hless⟩ := winds_up_at (Only.setHandler t w .ended)
        (hmem hhandler (by decide) (by decide)) hhandler (Server.handlers_setHandler t w .ended)
        (by decide) (by decide)
      exact ⟨hcalm, fun _ _ => .inl hless⟩
  | neverRan w hhandler =>
      -- a task that is cancelled before its first step does nothing
      obtain ⟨hcalm, hless⟩ := winds_up_at (Only.setHandler t w .ended)
        (hmem hhandler (by decide) (by decide)) hhandler (Server.handlers_setHandler t w .ended)
        (by decide) (by decide)
      exact ⟨hcalm, fun _ _ => .inl hless⟩
  -- a cancelled handler in its loop goes to its clean-up like one that left it
  | cancelled w session hhandler _ =>
      have honly := (Only.scheduleCleanup t w session).trans (Only.setHandler _ w .cleaning)
      obtain ⟨hcalm, hless⟩ := winds_up_at honly (hmem hhandler (by decide) (by decide)) hhandler
        (Server.handlers_setHandler _ w .cleaning) (by decide) (by decide)
      exact ⟨hcalm, fun _ _ => .inl hless⟩
  -- the one step that does no work: a handler past its loop is cancelled once more
  | remembered w _ => exact ⟨⟨fun _ => id, fun _ => id⟩, fun _ _ => .inr ⟨rfl, w, rfl⟩⟩
  | cutShort w hhandler =>
      -- the wait for the stream is cancelled, and the handler ends with it
      obtain ⟨hcalm, hless⟩ := winds_up_at (Only.setHandler t w .ended)
        (hmem hhandler (by decide) (by decide)) hhandler (Server.handlers_setHandler t w .ended)
        (by decide) (by decide)
      exact ⟨hcalm, fun _ _ => .inl hless⟩
  -- the list gives the writer up, which is the last of its work
  | finished w hhandler =>
      refine ⟨⟨fun v => List.mem_of_mem_erase, fun _ => id⟩, fun _ hlisted => .inl ?_⟩
      exact work_finished (hlisted w rfl) hhandler

/-- A handler that was cancelled is not in its loop. -/
theorem Turn.not_running (hturn : Turn t (.cancel w) t') : t'.handlers w ≠ .running := by
  cases hturn with
  | sessionEnds _ _ _ houter _ => rcases houter with h | h | h <;> cases h
  | neverRan _ _ =>
      rw [Server.handlers_setHandler]
      decide
  | cancelled _ _ _ _ =>
      rw [Server.handlers_setHandler]
      decide
  | remembered _ hhandler =>
      rw [hhandler]
      decide
  | cutShort _ _ =>
      rw [Server.handlers_setHandler]
      decide

end DoipPlayground.EdgeNode.Lifecycle
