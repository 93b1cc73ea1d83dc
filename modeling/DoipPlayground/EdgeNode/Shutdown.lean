/-
  DoipPlayground.EdgeNode.Shutdown
  ────────────────────────────────
  **WHAT A STOPPED SERVER LEAVES BEHIND.**

  `Cleanup.left` counts the phases the clean-up has still before it.  What
  a phase has joined or closed stays so in all later ones.

    • `Inv` — what each phase of the clean-up has behind it,
    • `Starts`, `Cleans` — the turns of the startup task and of the clean-up,
    • `Inv.step` — every step keeps the invariant,
    • `stop_releases` — nothing is left when `stop` or `start` has returned.
-/
import DoipPlayground.EdgeNode.Handlers
import DoipPlayground.EdgeNode.Lifecycle

namespace DoipPlayground.EdgeNode.Lifecycle

open Sockets (Writer Server Handler Setup)
open UdpAnnouncer (UdpProtocol)

/-! ## §1. The invariant. -/

/-- What each phase of the clean-up has behind it, and what the calls and
tasks rely on. -/
structure Inv (s : DoIPServer) : Prop where
  ok : s.sockets.Ok
  flowing : Flowing s.sockets
  closing : s.sockets.closing = true ↔ s.cleanup ≠ .absent
  idle : s.started = false → s.start = .absent ∧ s.startup = .absent
  begun : s.start ≠ .absent → s.startup ≠ .absent
  stopping : s.start = .stopping → s.cleanup ≠ .absent
  returned : s.start = .returned ∨ s.stopped = true → s.cleanup = .done
  waited : s.cleanup = .joiningStartup → s.startup ≠ .absent
  startupOver : s.cleanup.left ≤ 4 → s.startup = .absent ∨ ∃ ok, s.startup = .done ok
  /-- The first listener is recorded before anything comes behind it. -/
  bound : (s.startup = .binding .tls ∨ s.startup = .endpoint
    ∨ (∃ sent, s.startup = .announcing sent) ∨ s.startup = .done true) →
    4 ≤ s.cleanup.left → .plain ∈ s.listeners
  recorded : ∀ p, s.listening p = true → p ∈ s.listeners ∨ p ∈ s.strays
  unlistened : s.cleanup.left ≤ 3 → s.listeners = []
  held : s.serving.Covered fun p =>
    p ∈ s.serveTasks ∨ ∃ snapshot, s.cleanup = .joiningServe snapshot ∧ p ∈ snapshot
  unserved : s.cleanup.left ≤ 4 → s.serveTasks = []
  used : ∀ p, (p ∈ s.serveTasks ∨ ∃ snapshot, s.cleanup = .joiningServe snapshot ∧ p ∈ snapshot)
    → s.serving p ≠ .unused
  served : s.start = .serving → s.serving .plain ≠ .unused
  announcing : s.udpAnnouncer.started = false → s.udpAnnouncer.Closed
  silent : s.cleanup.left ≤ 2 → s.udpAnnouncer.started = false
  /-- Who is in its loop will be cancelled. -/
  joining : ∀ snapshot, s.cleanup = .joiningTasks snapshot → ∀ w ∈ s.sockets.connectionWriters,
    w ∈ snapshot ∧ (s.sockets.handlers w = .running → w ∈ s.cancelling)
  untasked : s.cleanup.left ≤ 1 → s.sockets.connectionWriters = []
  released : s.cleanup = .done → s.executorShutdown = true ∧ s.sinksClosed = true

variable {t t' : Server} {cfg : Config} {s s' : DoIPServer}

theorem Cleanup.left_lt {c : Cleanup} (h : c ≠ .absent) : c.left < 7 := by
  cases c <;> simp_all [Cleanup.left]

theorem inv_new (h : DoIPServer.new cfg = some s) : Inv s := by
  obtain ⟨sockets, hnew, rfl⟩ := Option.map_eq_some_iff.mp h
  have hok := Server.ok_new hnew
  obtain ⟨registry, _, rfl⟩ := Option.map_eq_some_iff.mp hnew
  refine ⟨hok, ⟨?_, List.nodup_nil⟩, by simp, fun _ => ⟨rfl, rfl⟩, fun h => absurd rfl h,
    by simp, by simp, by simp, by simp [Cleanup.left], by simp, by simp, by simp [Cleanup.left], ?_,
    fun _ => rfl, by simp, by simp, ?_, by simp [Cleanup.left], by simp, fun _ => rfl, by simp⟩
  · intro w
    exact ⟨.inl rfl, by simp, fun _ => rfl, by simp, by simp, by simp⟩
  · intro p hp
    rcases hp with hp | hp <;> cases hp
  · intro _ p hp
    cases hp

/-- The sockets of a server move; nothing else does but who is asked to cancel. -/
theorem socketStep_eq {e : Server.Event} (h : s.socketStep e = some s') :
    ∃ t' cancelling, s.sockets.step e = some t' ∧ Turn s.sockets e t'
      ∧ s' = { s with sockets := t', cancelling }
      ∧ ((∀ w, e ≠ .cancel w) ∧ cancelling = s.cancelling
        ∨ ∃ w, e = .cancel w ∧ w ∈ s.cancelling ∧ cancelling = s.cancelling.erase w)
      ∧ ∀ w, e = .finished w → w ∈ s.sockets.connectionWriters := by
  have hplain : ∀ {e : Server.Event}, (∀ w, e ≠ .construct w) → e ≠ .stop → (∀ w, e ≠ .cancel w) →
      (∀ w, e = .finished w → w ∈ s.sockets.connectionWriters) →
      (s.sockets.step e).map (fun sockets => { s with sockets }) = some s' →
      ∃ t' cancelling, s.sockets.step e = some t' ∧ Turn s.sockets e t'
        ∧ s' = { s with sockets := t', cancelling }
        ∧ ((∀ w, e ≠ .cancel w) ∧ cancelling = s.cancelling
          ∨ ∃ w, e = .cancel w ∧ w ∈ s.cancelling ∧ cancelling = s.cancelling.erase w)
        ∧ ∀ w, e = .finished w → w ∈ s.sockets.connectionWriters := by
    intro e hconstruct hstop hcancel hfinished h
    obtain ⟨t', ht', rfl⟩ := Option.map_eq_some_iff.mp h
    exact ⟨t', _, ht', turn_of_step hconstruct hstop ht', rfl, .inl ⟨hcancel, rfl⟩, hfinished⟩
  cases e with
  | construct w => cases h
  | stop => cases h
  | start w setup raises =>
      obtain ⟨_, h⟩ := Option.ite_none_left_eq_some.mp h
      exact hplain (by simp) (by simp) (by simp) (by simp) h
  | cancel w =>
      obtain ⟨hasked, h⟩ := Option.ite_none_right_eq_some.mp h
      obtain ⟨t', ht', rfl⟩ := Option.map_eq_some_iff.mp h
      exact ⟨t', _, ht', turn_of_step (by simp) (by simp) ht', rfl,
        .inr ⟨w, rfl, hasked, rfl⟩, by simp⟩
  | finished w =>
      obtain ⟨hlisted, h⟩ := Option.ite_none_right_eq_some.mp h
      refine hplain (by simp) (by simp) (by simp) ?_ h
      intro v hv
      cases hv
      exact hlisted
  | accept w => exact hplain (by simp) (by simp) (by simp) (by simp) h
  | leaveLoop w => exact hplain (by simp) (by simp) (by simp) (by simp) h
  | expire w => exact hplain (by simp) (by simp) (by simp) (by simp) h
  | evict w => exact hplain (by simp) (by simp) (by simp) (by simp) h
  | close w => exact hplain (by simp) (by simp) (by simp) (by simp) h
  | cleanupEnds w => exact hplain (by simp) (by simp) (by simp) (by simp) h
  | resume w raises => exact hplain (by simp) (by simp) (by simp) (by simp) h
  | closed w => exact hplain (by simp) (by simp) (by simp) (by simp) h

/-- The sockets of a server take a step. -/
theorem Inv.socket {e : Server.Event} (h : Inv s) (hstep : s.socketStep e = some s') : Inv s' := by
  obtain ⟨t', cancelling, ht', hturn, rfl, hasked, _⟩ := socketStep_eq hstep
  have hcalm : s.cleanup ≠ .absent → Calm s.sockets t' := fun hclosing =>
    (hturn.winds_up h.flowing (h.closing.mpr hclosing)).1
  refine { h with
    ok := h.ok.effect (Server.effect_of_step ht')
    flowing := h.flowing.turn hturn
    closing := ?_, joining := ?_, untasked := ?_ }
  · rw [← h.closing]
    exact hturn.closing h.flowing ▸ Iff.rfl
  · intro snapshot hjoining w hw
    have hcalm := hcalm (by rw [hjoining]; simp)
    obtain ⟨hmem, hrunning⟩ := h.joining snapshot hjoining w (hcalm.writers w hw)
    refine ⟨hmem, ?_⟩
    intro hrun
    have hmember := hrunning (hcalm.running w hrun)
    rcases hasked with ⟨_, rfl⟩ | ⟨v, rfl, _, rfl⟩
    · exact hmember
    · have hne : w ≠ v := by
        intro heq
        subst heq
        exact hturn.not_running hrun
      exact (List.mem_erase_of_ne hne).mpr hmember
  · intro hleft
    have hcalm := hcalm (by intro heq; rw [heq] at hleft; simp [Cleanup.left] at hleft)
    apply List.eq_nil_iff_forall_not_mem.mpr
    intro w hw
    have hold := hcalm.writers w hw
    rw [h.untasked hleft] at hold
    cases hold

/-- Before the first stop the clean-up has everything before it. -/
theorem Inv.left_of_open (h : Inv s) (hopen : s.sockets.closing = false) : s.cleanup.left = 7 := by
  have habsent : s.cleanup = .absent := by
    apply Classical.byContradiction
    intro hne
    rw [h.closing.mpr hne] at hopen
    cases hopen
  rw [habsent]
  rfl

theorem Inv.callStart (h : Inv s) : Inv s.callStart := by
  unfold DoIPServer.callStart
  split
  · exact h
  · rename_i hfirst
    rw [not_or, Bool.not_eq_true, Bool.not_eq_true] at hfirst
    have hleft := h.left_of_open hfirst.2
    refine { h with
      idle := fun hnew => by cases hnew
      begun := fun _ hnew => by cases hnew
      stopping := fun hnew => by cases hnew
      returned := ?_, waited := fun _ hnew => by cases hnew
      startupOver := ?_, bound := ?_, served := fun hnew => by cases hnew }
    · rintro (hnew | hstopped)
      · cases hnew
      · exact h.returned (.inr hstopped)
    · show s.cleanup.left ≤ 4 → _
      omega
    · rintro (hnew | hnew | ⟨_, hnew⟩ | hnew) <;> cases hnew

theorem Inv.cancelStart (h : Inv s) (hstep : s.cancelStart = some s') : Inv s' := by
  unfold DoIPServer.cancelStart at hstep
  split at hstep
  · split at hstep
    · cases hstep
      exact { h with }
    · cases hstep
      exact { h with }
  · cases hstep
    refine { h with held := h.held.cancel, used := ?_, served := ?_ }
    · intro p hp
      rw [ne_eq, Tasks.cancel_eq_unused]
      exact h.used p hp
    · intro hserving
      rw [ne_eq, Tasks.cancel_eq_unused]
      exact h.served hserving
  · cases hstep
    exact { h with }
  · cases hstep

theorem Inv.stop (h : Inv s) : Inv s.stop := by
  have hflowing : Flowing s.sockets.stop := ⟨h.flowing.flow, h.flowing.once⟩
  unfold DoIPServer.stop
  by_cases habsent : s.cleanup = .absent
  · rw [if_pos habsent]
    have hleft : s.cleanup.left = 7 := by rw [habsent]; rfl
    have hold : ∀ {P : Prop}, (s.cleanup.left ≤ 4 → P) → (Cleanup.created.left ≤ 4 → P) := by
      intro P _ h4
      simp [Cleanup.left] at h4
    refine { h with
      ok := h.ok.stop, flowing := hflowing
      closing := iff_of_true rfl (by simp), stopping := fun _ => by simp
      returned := ?_, waited := fun hnew => by cases hnew
      startupOver := hold h.startupOver, bound := ?_
      unlistened := fun hsmall => by simp [Cleanup.left] at hsmall
      held := ?_, unserved := hold h.unserved, used := ?_
      silent := fun hsmall => by simp [Cleanup.left] at hsmall
      joining := fun _ hnew => by cases hnew
      untasked := fun hsmall => by simp [Cleanup.left] at hsmall
      released := fun hnew => by cases hnew }
    · intro hreturned
      have hdone := h.returned hreturned
      rw [habsent] at hdone
      cases hdone
    · intro hbound _
      exact h.bound hbound (by omega)
    · refine h.held.mono ?_
      rintro p _ (hp | ⟨snapshot, hsnapshot, _⟩)
      · exact .inl hp
      · rw [habsent] at hsnapshot
        cases hsnapshot
    · rintro p (hp | ⟨snapshot, hsnapshot, _⟩)
      · exact h.used p (.inl hp)
      · cases hsnapshot
  · rw [if_neg habsent]
    exact { h with ok := h.ok.stop, flowing := hflowing, closing := iff_of_true rfl habsent }

/-- `start` ends in `stop`. -/
theorem Inv.stopStart (h : Inv s) (hstart : s.start ≠ .absent) :
    Inv { s.stop with start := .stopping } := by
  have hstop := h.stop
  have hclosing : s.stop.cleanup ≠ .absent := hstop.closing.mp rfl
  refine { hstop with
    idle := ?_, begun := fun _ => h.begun hstart, stopping := fun _ => hclosing
    returned := ?_, served := fun hnew => by cases hnew }
  · intro hidle
    exact absurd (h.idle hidle).1 hstart
  · rintro (hnew | hstopped)
    · cases hnew
    · exact hstop.returned (.inr hstopped)

theorem foldl_start_eq_unused (ports : List Port) (ts : Tasks Port) (p : Port) :
    ports.foldl Tasks.start ts p = .unused ↔ p ∉ ports ∧ ts p = .unused := by
  induction ports generalizing ts with
  | nil => simp
  | cons q ports ih =>
      rw [List.foldl_cons, ih, Tasks.start_eq_unused, List.mem_cons, not_or]
      tauto

theorem live_foldl_start (ports : List Port) (ts : Tasks Port) (p : Port) :
    Tasks.Live (ports.foldl Tasks.start ts) p ↔ p ∈ ports ∨ Tasks.Live ts p := by
  induction ports generalizing ts with
  | nil => simp
  | cons q ports ih =>
      rw [List.foldl_cons, ih, Tasks.live_start, List.mem_cons]
      tauto

theorem Inv.serve (h : Inv s) (hok : s.startup = .done true) (hstart : s.start ≠ .absent)
    (hopen : s.sockets.closing = false) : Inv s.serve := by
  have hleft := h.left_of_open hopen
  have hplain : Port.plain ∈ s.listeners := h.bound (.inr (.inr (.inr hok))) (by omega)
  refine { h with
    idle := ?_, begun := fun _ => h.begun hstart, stopping := fun hnew => by cases hnew
    returned := ?_, held := ?_, unserved := ?_, used := ?_, served := ?_ }
  · intro hidle
    exact absurd (h.idle hidle).1 hstart
  · rintro (hnew | hstopped)
    · cases hnew
    · exact h.returned (.inr hstopped)
  · intro p hp
    rcases (live_foldl_start _ _ p).mp hp with hnew | hold
    · exact .inl (List.mem_append_right _ hnew)
    · rcases h.held p hold with hmem | hsnapshot
      · exact .inl (List.mem_append_left _ hmem)
      · exact .inr hsnapshot
  · show s.cleanup.left ≤ 4 → _
    omega
  · intro p hp hunused
    obtain ⟨hnot, hold⟩ := (foldl_start_eq_unused _ _ p).mp hunused
    rcases hp with hmem | hsnapshot
    · rcases List.mem_append.mp hmem with htask | hlistener
      · exact h.used p (.inl htask) hold
      · exact hnot hlistener
    · exact h.used p (.inr hsnapshot) hold
  · intro _ hunused
    exact ((foldl_start_eq_unused _ _ Port.plain).mp hunused).1 hplain

theorem Inv.resumeStart (h : Inv s) (hstep : s.resumeStart = some s') : Inv s' := by
  unfold DoIPServer.resumeStart at hstep
  split at hstep
  · rename_i hstarting
    have hstart : s.start ≠ .absent := by simp [hstarting]
    split at hstep
    · rename_i ok hdone
      split at hstep
      · rename_i hgoes
        obtain ⟨rfl, _, hopen⟩ := hgoes
        cases hstep
        exact h.serve hdone hstart hopen
      · cases hstep
        exact h.stopStart hstart
    · cases hstep
  · rename_i hserving
    obtain ⟨_, hstep⟩ := Option.ite_none_right_eq_some.mp hstep
    cases hstep
    exact h.stopStart (by simp [hserving])
  · rename_i hstopping
    obtain ⟨hdone, hstep⟩ := Option.ite_none_right_eq_some.mp hstep
    cases hstep
    have hstart : s.start ≠ .absent := by simp [hstopping]
    refine { h with
      idle := ?_, begun := fun _ => h.begun hstart, stopping := fun hnew => by cases hnew
      returned := fun _ => hdone, served := fun hnew => by cases hnew }
    intro hidle
    exact absurd (h.idle hidle).1 hstart
  · cases hstep

theorem Inv.endServing {port : Port} (h : Inv s) (hstep : s.endServing port = some s') :
    Inv s' := by
  have hused : ∀ {p : Port}, s.serving p ≠ .unused → s.serving.settle port p ≠ .unused := by
    intro p hp hunused
    exact hp (Tasks.settle_eq_unused.mp hunused).2
  have hheld : (s.serving.settle port).Covered fun p =>
      p ∈ s.serveTasks ∨ ∃ snapshot, s.cleanup = .joiningServe snapshot ∧ p ∈ snapshot :=
    h.held.settle fun _ _ => id
  unfold DoIPServer.endServing at hstep
  split at hstep
  · cases hstep
    exact { h with
      held := hheld, used := fun p hp => hused (h.used p hp)
      served := fun hserving => hused (h.served hserving) }
  · cases hstep
    refine { h with
      recorded := ?_, held := hheld, used := fun p hp => hused (h.used p hp)
      served := fun hserving => hused (h.served hserving) }
    intro p hp
    have hlistening : (if p = port then false else s.listening p) = true := hp
    split at hlistening
    · cases hlistening
    · exact h.recorded p hlistening
  · cases hstep

theorem send_closed {p : UdpProtocol} (h : p.transport = none) (cause payload : Wire.Bytes)
    (payloadType : Nat) : p.send cause payloadType payload = p := by
  unfold UdpProtocol.send
  rw [h]

theorem dispatch_closed {p : UdpProtocol} (h : p.transport = none) (data : Wire.Bytes)
    (payloadType : Nat) (registry : Sockets.SessionRegistry) :
    p.dispatch data payloadType registry = p := by
  have hbuilt : ∀ kind payload, p.sendBuilt data kind payload = p := by
    intro kind payload
    unfold UdpProtocol.sendBuilt
    split
    · exact send_closed h _ _ _
    · rfl
  unfold UdpProtocol.dispatch
  rw [hbuilt, hbuilt]
  have hscheduled : p.scheduleDiscovery data = p := by
    unfold UdpProtocol.scheduleDiscovery
    rw [h]
  rw [hscheduled]
  simp only [ite_self]

/-- A closed endpoint does nothing with a datagram. -/
theorem datagramReceived_closed {p : UdpProtocol} (h : p.transport = none) (data : Wire.Bytes)
    (address : Option Nat) (registry : Sockets.SessionRegistry) :
    p.datagramReceived data address registry = p := by
  have hreject : ∀ code, p.reject data code = p := fun code => send_closed h _ _ _
  unfold UdpProtocol.datagramReceived
  dsimp only
  rw [hreject, hreject, hreject, hreject]
  split
  · rfl
  split
  · rfl
  split
  · rfl
  split
  · rfl
  split
  · rfl
  · exact dispatch_closed h _ _ _

theorem reply_closed {p : UdpProtocol} (h : p.pendingResponses = []) (id : Nat) :
    p.reply id = p := by
  unfold UdpProtocol.reply
  rw [h]
  rfl

/-- The endpoint takes a datagram or a timer; a closed one does nothing. -/
theorem Inv.udp {f : UdpProtocol → UdpProtocol} (h : Inv s)
    (hf : ∀ p, p.transport = none → p.pendingResponses = [] → f p = p)
    (hstep : s.udpStep f = some s') : Inv s' := by
  obtain ⟨protocol, hprotocol, rfl⟩ := Option.map_eq_some_iff.mp hstep
  refine { h with announcing := ?_ }
  intro hstopped q hq
  cases hq
  obtain ⟨htransport, hpending⟩ := h.announcing hstopped protocol hprotocol
  rw [hf protocol htransport hpending]
  exact ⟨htransport, hpending⟩

theorem stop_closed {a : UDPAnnouncer} (h : a.started = false → a.Closed) : a.stop.Closed := by
  unfold UDPAnnouncer.stop
  split
  · intro p hp
    obtain ⟨q, _, rfl⟩ := Option.map_eq_some_iff.mp hp
    exact ⟨rfl, rfl⟩
  · rename_i hstopped
    exact h (Bool.eq_false_iff.mpr hstopped)

theorem stop_started (a : UDPAnnouncer) : a.stop.started = false := by
  unfold UDPAnnouncer.stop
  split
  · rfl
  · rename_i hstopped
    exact Bool.eq_false_iff.mpr hstopped

/-! ### The startup task. -/

/-- While the startup task is not over, the clean-up waits for it. -/
theorem Inv.left_of_startup (h : Inv s) (habsent : s.startup ≠ .absent)
    (hdone : ∀ ok, s.startup ≠ .done ok) : 5 ≤ s.cleanup.left := by
  apply Classical.byContradiction
  intro hsmall
  rcases h.startupOver (by omega) with hstartup | ⟨ok, hstartup⟩
  · exact habsent hstartup
  · exact hdone ok hstartup

/-- The startup task goes on: a later phase with the same listeners. -/
theorem Inv.setStartup {startup : Startup} (h : Inv s) (habsent : s.startup ≠ .absent)
    (hleft : 5 ≤ s.cleanup.left) (hnew : startup ≠ .absent)
    (hbound : (startup = .binding .tls ∨ startup = .endpoint
      ∨ (∃ sent, startup = .announcing sent) ∨ startup = .done true) → .plain ∈ s.listeners) :
    Inv { s with startup } := by
  refine { h with
    idle := ?_, begun := fun _ => hnew, waited := fun _ => hnew, startupOver := ?_
    bound := fun hphase _ => hbound hphase }
  · intro hidle
    exact absurd (h.idle hidle).2 habsent
  · show s.cleanup.left ≤ 4 → _
    omega

/-- It ends without a result. -/
theorem Inv.failStartup (h : Inv s) (habsent : s.startup ≠ .absent)
    (hleft : 5 ≤ s.cleanup.left) : Inv (s.endStartup false) :=
  h.setStartup habsent hleft (by simp) (by simp)

theorem Inv.record {port : Port} (h : Inv s) (hstartup : s.startup = .binding port)
    (hleft : 5 ≤ s.cleanup.left) : Inv (s.record port) := by
  have habsent : s.startup ≠ .absent := by simp [hstartup]
  have hplain : .plain ∈ s.listeners ++ [port] := by
    cases port with
    | plain => simp
    | tls => exact List.mem_append_left _ (h.bound (.inl hstartup) (by omega))
  have hnext : (s.record port).startup ≠ .absent := by cases port <;> simp [DoIPServer.record]
  refine { h with
    idle := ?_, begun := fun _ => hnext, waited := fun _ => hnext
    startupOver := ?_, bound := fun _ _ => hplain
    recorded := ?_, unlistened := ?_ }
  · intro hidle
    exact absurd (h.idle hidle).2 habsent
  · show s.cleanup.left ≤ 4 → _
    omega
  · intro p hp
    have hlistening : (if p = port then true else s.listening p) = true := hp
    split at hlistening
    · rename_i heq
      exact .inl (by simp [DoIPServer.record, heq])
    · rcases h.recorded p hlistening with hmem | hstray
      · exact .inl (List.mem_append_left _ hmem)
      · exact .inr hstray
  · show s.cleanup.left ≤ 3 → _
    omega

theorem Inv.abandon (h : Inv s) (habsent : s.startup ≠ .absent) (hleft : 5 ≤ s.cleanup.left)
    (port : Port) (left : Bool) : Inv (s.abandon port left) := by
  unfold DoIPServer.abandon
  split
  · refine { h.failStartup habsent hleft with recorded := ?_ }
    intro p hp
    have hlistening : (if p = port then true else s.listening p) = true := hp
    split at hlistening
    · rename_i heq
      exact .inr (by simp [heq])
    · rcases h.recorded p hlistening with hmem | hstray
      · exact .inl hmem
      · exact .inr (List.mem_append_left _ hstray)
  · exact h.failStartup habsent hleft

theorem Inv.failAnnouncing (h : Inv s) (habsent : s.startup ≠ .absent)
    (hleft : 5 ≤ s.cleanup.left) : Inv s.failAnnouncing :=
  { h.failStartup habsent hleft with
    announcing := fun _ => stop_closed h.announcing
    silent := fun _ => stop_started _ }

/-- **What a turn of the startup task can be.** -/
inductive Starts (cfg : Config) (s : DoIPServer) : DoIPServer → Prop where
  | first (hstartup : s.startup = .created) : Starts cfg s { s with startup := .binding .plain }
  | failed (habsent : s.startup ≠ .absent) (hlive : ∀ ok, s.startup ≠ .done ok) :
      Starts cfg s (s.endStartup false)
  | bound (port : Port) (hstartup : s.startup = .binding port) : Starts cfg s (s.record port)
  | abandoned (port : Port) (left : Bool) (hstartup : s.startup = .binding port) :
      Starts cfg s (s.abandon port left)
  | opened (protocol : UdpProtocol) (hstartup : s.startup = .endpoint) :
      Starts cfg s (s.openEndpoint protocol)
  | announced (sent : Nat) (hstartup : s.startup = .announcing sent) :
      Starts cfg s (s.announce cfg.announceCount sent)
  | broken (sent : Nat) (hstartup : s.startup = .announcing sent) : Starts cfg s s.failAnnouncing

theorem starts_of_step {outcome : Outcome} (h : s.startupStep cfg outcome = some s') :
    Starts cfg s s' := by
  obtain ⟨_, h⟩ := Option.ite_none_right_eq_some.mp h
  cases hstartup : s.startup with
  | absent =>
      rw [hstartup] at h
      cases h
  | done ok =>
      rw [hstartup] at h
      cases h
  | created =>
      rw [hstartup] at h
      cases outcome with
      | returns =>
          cases h
          exact .first hstartup
      | raises => cases h
      | cancelled left =>
          cases h
          exact .failed (by simp [hstartup]) (by simp [hstartup])
  | binding port =>
      rw [hstartup] at h
      cases outcome with
      | returns =>
          cases h
          exact .bound port hstartup
      | raises =>
          cases h
          exact .failed (by simp [hstartup]) (by simp [hstartup])
      | cancelled left =>
          cases h
          exact .abandoned port left hstartup
  | endpoint =>
      rw [hstartup] at h
      have hfailed : Starts cfg s (s.endStartup false) :=
        .failed (by simp [hstartup]) (by simp [hstartup])
      cases outcome with
      | returns =>
          dsimp only at h
          split at h
          · rename_i protocol _
            cases h
            exact .opened protocol hstartup
          · cases h
            exact hfailed
      | raises =>
          cases h
          exact hfailed
      | cancelled left =>
          cases h
          exact hfailed
  | announcing sent =>
      rw [hstartup] at h
      cases outcome with
      | returns =>
          cases h
          exact .announced sent hstartup
      | raises =>
          cases h
          exact .broken sent hstartup
      | cancelled left =>
          cases h
          exact .broken sent hstartup

theorem announce_same (a : UDPAnnouncer) :
    a.announce.started = a.started ∧ a.announce.protocol = a.protocol := by
  unfold UDPAnnouncer.announce
  split <;> exact ⟨rfl, rfl⟩

theorem Starts.live (h : Starts cfg s s') :
    s.startup ≠ .absent ∧ ∀ ok, s.startup ≠ .done ok := by
  cases h with
  | failed habsent hlive => exact ⟨habsent, hlive⟩
  | first hstartup => simp [hstartup]
  | bound _ hstartup => simp [hstartup]
  | abandoned _ _ hstartup => simp [hstartup]
  | opened _ hstartup => simp [hstartup]
  | announced _ hstartup => simp [hstartup]
  | broken _ hstartup => simp [hstartup]

theorem Inv.starts (h : Inv s) (hstarts : Starts cfg s s') : Inv s' := by
  obtain ⟨habsent, hlive⟩ := hstarts.live
  have hleft := h.left_of_startup habsent hlive
  cases hstarts with
  | first _ => exact h.setStartup habsent hleft (by simp) (by simp)
  | failed _ _ => exact h.failStartup habsent hleft
  | bound port hstartup => exact h.record hstartup hleft
  | abandoned port left _ => exact h.abandon habsent hleft port left
  | opened protocol hstartup =>
      have hplain := h.bound (.inr (.inl hstartup)) (by omega)
      have hnext : Inv { s with startup := .announcing 0 } :=
        h.setStartup habsent hleft (by simp) (fun _ => hplain)
      refine { hnext with
        announcing := fun hnew => by cases hnew
        silent := ?_ }
      show s.cleanup.left ≤ 2 → _
      omega
  | announced sent hstartup =>
      have hplain := h.bound (.inr (.inr (.inl ⟨sent, hstartup⟩))) (by omega)
      unfold DoIPServer.announce
      split
      · obtain ⟨hstarted, hprotocol⟩ := announce_same s.udpAnnouncer
        have hnext : Inv { s with startup :=
            if sent + 1 < cfg.announceCount then .announcing (sent + 1) else .done true } :=
          h.setStartup habsent hleft (by split <;> simp) (fun _ => hplain)
        refine { hnext with announcing := ?_, silent := ?_ }
        · intro hstopped p hp
          exact h.announcing (hstarted ▸ hstopped) p (hprotocol ▸ hp)
        · intro hsmall
          exact hstarted.trans (h.silent hsmall)
      · exact h.setStartup habsent hleft (by simp) (fun _ => hplain)
  | broken _ _ => exact h.failAnnouncing habsent hleft

/-! ### The clean-up. -/

/-- Behind the serving tasks none of them lives. -/
theorem Inv.not_live (h : Inv s) (hleft : s.cleanup.left ≤ 3) (p : Port) :
    ¬ Tasks.Live s.serving p := by
  intro hlive
  rcases h.held p hlive with hmem | ⟨snapshot, hsnapshot, _⟩
  · rw [h.unserved (by omega)] at hmem
    cases hmem
  · rw [hsnapshot] at hleft
    simp [Cleanup.left] at hleft

theorem Inv.release (h : Inv s) (hleft : s.cleanup.left ≤ 3)
    (hsilent : s.udpAnnouncer.started = false) (hwriters : s.sockets.connectionWriters = []) :
    Inv s.release := by
  have hclosing : s.sockets.closing = true := by
    rw [h.closing]
    intro habsent
    rw [habsent] at hleft
    simp [Cleanup.left] at hleft
  exact { h with
    closing := iff_of_true hclosing (by simp [DoIPServer.release])
    stopping := fun _ => by simp [DoIPServer.release]
    returned := fun _ => rfl
    waited := fun hnew => by cases hnew
    startupOver := fun _ => h.startupOver (by omega)
    bound := fun _ hsmall => by simp [DoIPServer.release, Cleanup.left] at hsmall
    unlistened := fun _ => h.unlistened hleft
    held := fun p hlive => absurd hlive (h.not_live hleft p)
    unserved := fun _ => h.unserved (by omega)
    used := by
      rintro p (hmem | ⟨snapshot, hsnapshot, _⟩)
      · exact h.used p (.inl hmem)
      · cases hsnapshot
    silent := fun _ => hsilent
    joining := fun _ hnew => by cases hnew
    untasked := fun _ => hwriters
    released := fun _ => ⟨rfl, rfl⟩ }

/-- Without connection tasks there are no sessions to close. -/
theorem closeSessions_eq (hwriters : s.sockets.connectionWriters = []) :
    s.closeSessions = s.release := by
  have hnone : s.sessions = [] := by
    unfold DoIPServer.sessions
    rw [hwriters]
    rfl
  unfold DoIPServer.closeSessions
  rw [hnone]

theorem Inv.cancelTasks (h : Inv s) (hphase : s.cleanup = .closingListeners) :
    Inv s.cancelTasks := by
  have hstopped : Inv { s with udpAnnouncer := s.udpAnnouncer.stop } :=
    { h with
      announcing := fun _ => stop_closed h.announcing
      silent := fun _ => stop_started _ }
  have hleft : s.cleanup.left ≤ 3 := by rw [hphase]; decide
  unfold DoIPServer.cancelTasks
  dsimp only
  split
  · rename_i hnone
    rw [closeSessions_eq]
    · exact hstopped.release hleft (stop_started _) hnone
    · exact hnone
  · rename_i w ws hsome
    refine { hstopped with
      closing := ?_, stopping := fun _ => by simp, returned := ?_
      waited := fun hnew => by cases hnew
      startupOver := fun _ => h.startupOver (by omega)
      bound := fun _ hsmall => by simp [Cleanup.left] at hsmall
      unlistened := fun _ => h.unlistened hleft
      held := fun p hlive => absurd hlive (h.not_live hleft p)
      unserved := fun _ => h.unserved (by omega)
      used := ?_, silent := fun _ => stop_started _, joining := ?_
      untasked := fun hsmall => by simp [Cleanup.left] at hsmall
      released := fun hnew => by cases hnew }
    · exact iff_of_true (h.closing.mpr (by simp [hphase])) (by simp)
    · intro hreturned
      have hdone := h.returned hreturned
      rw [hphase] at hdone
      cases hdone
    · rintro p (hmem | ⟨snapshot, hsnapshot, _⟩)
      · exact h.used p (.inl hmem)
      · cases hsnapshot
    · intro snapshot hsnapshot v hv
      cases hsnapshot
      have hmem : v ∈ w :: ws := hsome ▸ hv
      exact ⟨hmem, fun _ => List.mem_append_right _ hmem⟩

theorem Inv.closeListeners (h : Inv s) (hleft : 4 ≤ s.cleanup.left)
    (hclosing : s.cleanup ≠ .absent) (hover : s.startup = .absent ∨ ∃ ok, s.startup = .done ok)
    (hserved : s.serveTasks = []) (hlive : ∀ p, ¬ Tasks.Live s.serving p) :
    Inv s.closeListeners := by
  refine { h with
    closing := ?_, stopping := fun _ => by simp [DoIPServer.closeListeners], returned := ?_
    waited := fun hnew => by cases hnew
    startupOver := fun _ => hover
    bound := fun _ hsmall => by simp [DoIPServer.closeListeners, Cleanup.left] at hsmall
    recorded := ?_, unlistened := fun _ => rfl
    held := fun p hp => absurd hp (hlive p), unserved := fun _ => hserved, used := ?_
    silent := fun hsmall => by simp [DoIPServer.closeListeners, Cleanup.left] at hsmall
    joining := fun _ hnew => by cases hnew
    untasked := fun hsmall => by simp [DoIPServer.closeListeners, Cleanup.left] at hsmall
    released := fun hnew => by cases hnew }
  · exact iff_of_true (h.closing.mpr hclosing) (by simp [DoIPServer.closeListeners])
  · intro hreturned
    have hdone := h.returned hreturned
    rw [hdone] at hleft
    simp [Cleanup.left] at hleft
  · intro p hp
    have hlistening : (if p ∈ s.listeners then false else s.listening p) = true := hp
    split at hlistening
    · cases hlistening
    · rename_i hnot
      exact .inr ((h.recorded p hlistening).resolve_left hnot)
  · rintro p (hmem | ⟨snapshot, hsnapshot, _⟩)
    · exact h.used p (.inl hmem)
    · cases hsnapshot

theorem Inv.cancelServing (h : Inv s) (hphase : s.cleanup = .created ∨ s.cleanup = .joiningStartup)
    (hover : s.startup = .absent ∨ ∃ ok, s.startup = .done ok) : Inv s.cancelServing := by
  have hclosing : s.cleanup ≠ .absent := by rcases hphase with hphase | hphase <;> simp [hphase]
  have hleft : 5 ≤ s.cleanup.left := by
    rcases hphase with hphase | hphase <;> rw [hphase] <;> decide
  have hheld : ∀ p, Tasks.Live s.serving p → p ∈ s.serveTasks := by
    intro p hlive
    rcases h.held p hlive with hmem | ⟨snapshot, hsnapshot, _⟩
    · exact hmem
    · rw [hsnapshot] at hleft
      simp [Cleanup.left] at hleft
  unfold DoIPServer.cancelServing
  split
  · rename_i hnone
    refine h.closeListeners (by omega) hclosing hover hnone ?_
    intro p hlive
    have hmem := hheld p hlive
    rw [hnone] at hmem
    cases hmem
  · rename_i q qs hsome
    refine { h with
      closing := ?_, stopping := fun _ => by simp, returned := ?_
      waited := fun hnew => by cases hnew
      startupOver := fun _ => hover, bound := fun hbound _ => h.bound hbound (by omega)
      unlistened := fun hsmall => by simp [Cleanup.left] at hsmall
      held := ?_, unserved := fun _ => rfl, used := ?_, served := ?_
      silent := fun hsmall => by simp [Cleanup.left] at hsmall
      joining := fun _ hnew => by cases hnew
      untasked := fun hsmall => by simp [Cleanup.left] at hsmall
      released := fun hnew => by cases hnew }
    · exact iff_of_true (h.closing.mpr hclosing) (by simp)
    · intro hreturned
      have hdone := h.returned hreturned
      rw [hdone] at hleft
      simp [Cleanup.left] at hleft
    · intro p hp
      have hmem := hheld p (Tasks.live_cancel.mp hp)
      exact .inr ⟨q :: qs, rfl, hsome ▸ hmem⟩
    · intro p hp hunused
      have hold := Tasks.cancel_eq_unused.mp hunused
      rcases hp with hmem | ⟨snapshot, hsnapshot, hmem⟩
      · cases hmem
      · cases hsnapshot
        exact h.used p (.inl (hsome ▸ hmem)) hold
    · intro hserving hunused
      exact h.served hserving (Tasks.cancel_eq_unused.mp hunused)

/-- The clean-up waits for the startup task. -/
theorem Inv.joinStartup (h : Inv s) (hphase : s.cleanup = .created)
    (hstartup : s.startup ≠ .absent) (startupCancelling : Bool) :
    Inv { s with startupCancelling, cleanup := .joiningStartup } := by
  have hleft : s.cleanup.left = 6 := by rw [hphase]; rfl
  refine { h with
    closing := ?_, stopping := fun _ => by simp, returned := ?_
    waited := fun _ => hstartup
    startupOver := fun hsmall => by simp [Cleanup.left] at hsmall
    bound := fun hbound _ => h.bound hbound (by omega)
    unlistened := fun hsmall => by simp [Cleanup.left] at hsmall
    held := ?_, unserved := fun hsmall => by simp [Cleanup.left] at hsmall, used := ?_
    silent := fun hsmall => by simp [Cleanup.left] at hsmall
    joining := fun _ hnew => by cases hnew
    untasked := fun hsmall => by simp [Cleanup.left] at hsmall
    released := fun hnew => by cases hnew }
  · exact iff_of_true (h.closing.mpr (by simp [hphase])) (by simp)
  · intro hreturned
    have hdone := h.returned hreturned
    rw [hphase] at hdone
    cases hdone
  · refine h.held.mono ?_
    rintro p _ (hmem | ⟨snapshot, hsnapshot, _⟩)
    · exact .inl hmem
    · rw [hphase] at hsnapshot
      cases hsnapshot
  · rintro p (hmem | ⟨snapshot, hsnapshot, _⟩)
    · exact h.used p (.inl hmem)
    · cases hsnapshot

/-- **What a turn of the clean-up can be.** -/
inductive Cleans (s : DoIPServer) : DoIPServer → Prop where
  | unstarted (hphase : s.cleanup = .created) (hstartup : s.startup = .absent) :
      Cleans s s.cancelServing
  | waits (startupCancelling : Bool) (hphase : s.cleanup = .created)
      (hstartup : s.startup ≠ .absent) :
      Cleans s { s with startupCancelling, cleanup := .joiningStartup }
  | startupOver (ok : Bool) (hphase : s.cleanup = .joiningStartup)
      (hstartup : s.startup = .done ok) : Cleans s s.cancelServing
  | servingOver (snapshot : List Port) (hphase : s.cleanup = .joiningServe snapshot)
      (hjoined : s.serving.Joined snapshot) : Cleans s s.closeListeners
  | listenersClosed (hphase : s.cleanup = .closingListeners) : Cleans s s.cancelTasks
  | tasksOver (snapshot : List Writer) (hphase : s.cleanup = .joiningTasks snapshot)
      (hover : ∀ w ∈ snapshot, w ∉ s.sockets.connectionWriters) : Cleans s s.closeSessions
  | sessionsOver (snapshot : List Writer) (hphase : s.cleanup = .closingSessions snapshot) :
      Cleans s s.release

theorem cleans_of_step (h : s.cleanupStep = some s') : Cleans s s' := by
  unfold DoIPServer.cleanupStep at h
  split at h
  · rename_i hphase
    split at h
    · rename_i hstartup
      cases h
      exact .unstarted hphase hstartup
    · rename_i hstartup
      cases h
      exact .waits s.startupCancelling hphase (by simp [hstartup])
    · rename_i habsent _
      cases h
      exact .waits true hphase habsent
  · rename_i hphase
    split at h
    · rename_i ok hstartup
      cases h
      exact .startupOver ok hphase hstartup
    · cases h
  · rename_i snapshot hphase
    obtain ⟨hjoined, h⟩ := Option.ite_none_right_eq_some.mp h
    cases h
    exact .servingOver snapshot hphase hjoined
  · rename_i hphase
    cases h
    exact .listenersClosed hphase
  · rename_i snapshot hphase
    obtain ⟨hover, h⟩ := Option.ite_none_right_eq_some.mp h
    cases h
    exact .tasksOver snapshot hphase hover
  · rename_i snapshot hphase
    obtain ⟨_, h⟩ := Option.ite_none_right_eq_some.mp h
    cases h
    exact .sessionsOver snapshot hphase
  · cases h
  · cases h

/-- Once its tasks are joined, no connection task is left. -/
theorem Inv.tasksOver (h : Inv s) {snapshot : List Writer}
    (hphase : s.cleanup = .joiningTasks snapshot)
    (hover : ∀ w ∈ snapshot, w ∉ s.sockets.connectionWriters) :
    s.sockets.connectionWriters = [] := by
  apply List.eq_nil_iff_forall_not_mem.mpr
  intro w hw
  exact hover w (h.joining snapshot hphase w hw).1 hw

theorem Inv.cleans (h : Inv s) (hcleans : Cleans s s') : Inv s' := by
  cases hcleans with
  | unstarted hphase hstartup => exact h.cancelServing (.inl hphase) (.inl hstartup)
  | waits startupCancelling hphase hstartup =>
      exact h.joinStartup hphase hstartup startupCancelling
  | startupOver ok hphase hstartup => exact h.cancelServing (.inr hphase) (.inr ⟨ok, hstartup⟩)
  | servingOver snapshot hphase hjoined =>
      have hleft : s.cleanup.left = 4 := by rw [hphase]; rfl
      refine h.closeListeners (by omega) (by simp [hphase]) (h.startupOver (by omega))
        (h.unserved (by omega)) ?_
      intro p hlive
      rcases h.held p hlive with hmem | ⟨snapshot', hsame, hmem⟩
      · rw [h.unserved (by omega)] at hmem
        cases hmem
      · rw [hphase] at hsame
        cases hsame
        exact Tasks.not_live_of_done (hjoined p hmem) hlive
  | listenersClosed hphase => exact h.cancelTasks hphase
  | tasksOver snapshot hphase hover =>
      have hleft : s.cleanup.left = 2 := by rw [hphase]; rfl
      have hnone := h.tasksOver hphase hover
      rw [closeSessions_eq hnone]
      exact h.release (by omega) (h.silent (by omega)) hnone
  | sessionsOver snapshot hphase =>
      have hleft : s.cleanup.left = 1 := by rw [hphase]; rfl
      exact h.release (by omega) (h.silent (by omega)) (h.untasked (by omega))

/-- **Every step keeps the invariant.** -/
theorem Inv.step {e : Event} (h : Inv s) (hstep : step cfg s e = some s') : Inv s' := by
  cases e with
  | start =>
      cases hstep
      exact h.callStart
  | cancelStart => exact h.cancelStart hstep
  | resumeStart => exact h.resumeStart hstep
  | startup outcome => exact h.starts (starts_of_step hstep)
  | endServing port => exact h.endServing hstep
  | stop =>
      cases hstep
      exact { h.stop with }
  | stopReturns =>
      obtain ⟨⟨_, hdone⟩, hstep⟩ := Option.ite_none_right_eq_some.mp hstep
      cases hstep
      exact { h with returned := fun _ => hdone }
  | cleanup => exact h.cleans (cleans_of_step hstep)
  | socket e => exact h.socket hstep
  | datagram data address =>
      exact h.udp (fun p hp _ => datagramReceived_closed hp data address _) hstep
  | reply id => exact h.udp (fun p _ hp => reply_closed hp id) hstep

theorem inv_run {s₀ : DoIPServer} {es : List Event} (hnew : DoIPServer.new cfg = some s₀)
    (h : Transition.exec (step cfg) s₀ es = some s) : Inv s :=
  Transition.exec_invariant Inv (fun _ _ _ hs hstep => hs.step hstep) es s₀ s (inv_new hnew) h

/-! ## §2. What is left. -/

/-- Nothing the server has started, opened or borrowed is left; a socket that
listens is one that a cancelled `start_server` has left behind. -/
structure Released (s : DoIPServer) : Prop where
  startup : s.startup = .absent ∨ ∃ ok, s.startup = .done ok
  listeners : s.listeners = [] ∧ ∀ p, s.listening p = true → p ∈ s.strays
  serving : ∀ p, ¬ Tasks.Live s.serving p
  announcer : s.udpAnnouncer.started = false ∧ s.udpAnnouncer.Closed
  tasks : s.sockets.connectionWriters = []
    ∧ ∀ w, s.sockets.handlers w = .absent ∨ s.sockets.handlers w = .ended
  sessions : ∀ w session, s.sockets.sessions w = some session → session.cleanup = .done
  sockets : ∀ w, ¬ s.sockets.Holds w
  shared : s.executorShutdown = true ∧ s.sinksClosed = true

/-- Behind the connection tasks no handler is left. -/
theorem Inv.handlersOver (h : Inv s) (hleft : s.cleanup.left ≤ 1) (w : Writer) :
    s.sockets.handlers w = .absent ∨ s.sockets.handlers w = .ended := by
  rcases (h.flowing.flow w).tracked with habsent | hended | hlisted
  · exact .inl habsent
  · exact .inr hended
  · rw [h.untasked hleft] at hlisted
    cases hlisted

/-- And no session. -/
theorem Inv.sessionsOver (h : Inv s) (hleft : s.cleanup.left ≤ 1) (w : Writer)
    (session : Sockets.Session) (hsession : s.sockets.sessions w = some session) :
    session.cleanup = .done := by
  rcases h.handlersOver hleft w with habsent | hended
  · rw [(h.flowing.flow w).fresh (.inl habsent)] at hsession
    cases hsession
  · exact (h.flowing.flow w).pastSession (.inr hended) session hsession

theorem Inv.done (h : Inv s) (hdone : s.cleanup = .done) : Released s := by
  have hleft : s.cleanup.left = 0 := by rw [hdone]; rfl
  have hsessions := h.sessionsOver (by omega)
  have hlisteners := h.unlistened (by omega)
  refine ⟨h.startupOver (by omega), ⟨hlisteners, ?_⟩, h.not_live (by omega),
    ⟨h.silent (by omega), h.announcing (h.silent (by omega))⟩,
    ⟨h.untasked (by omega), h.handlersOver (by omega)⟩, hsessions, ?_, h.released hdone⟩
  · intro p hp
    rcases h.recorded p hp with hmem | hstray
    · rw [hlisteners] at hmem
      cases hmem
    · exact hstray
  · intro w hheld
    obtain ⟨session, hsession, hopen, _⟩ := (h.ok.sound w).held hheld
    exact h.ok.not_holds_of_closed hsession ((h.ok.sound w).cleanup session hsession
      (by rw [hsessions w session hsession]; decide)) hheld

/-- **A stopped server has released everything**: in every interleaving of
its startup, its calls, its connections and its datagrams, nothing is left
once `start` or a call of `stop` has returned. -/
theorem stop_releases (cfg : Config) (s₀ s : DoIPServer) (hnew : DoIPServer.new cfg = some s₀)
    (es : List Event) (hrun : Transition.exec (step cfg) s₀ es = some s)
    (hreturned : s.start = .returned ∨ s.stopped = true) : Released s := by
  have hinv := inv_run hnew hrun
  exact hinv.done (hinv.returned hreturned)

/-- Two places, and one announcement. -/
def oneAnnouncement : Config where
  doip :=
    { vin := "EDGENODE000000001", eid := "0123456789AB", gid := "0123456789ab", nodeType := 0
      nodeLogicalAddr := 0x1234, powerMode := 1, maxPayloadBytes := 4096
      testerAddrRange := (0x0E00, 0x0FFF), testerAddrList := [], maxConnections := 2 }
  announceCount := 1

/-- A server that has announced itself serves a tester until it is cancelled. -/
def servesOne : List Event :=
  [.start, .startup .returns, .startup .returns, .startup .returns, .startup .returns,
   .startup .returns, .resumeStart, .socket (.accept 0),
   .socket (.start 0 (.constructed true) false), .cancelStart, .endServing .plain,
   .endServing .tls, .resumeStart, .cleanup, .cleanup, .cleanup, .cleanup, .socket (.cancel 0),
   .socket (.cleanupEnds 0), .socket (.resume 0 true), .socket (.finished 0), .cleanup,
   .resumeStart]

theorem stop_releases_servesOne :
    ∃ s₀ s, DoIPServer.new oneAnnouncement = some s₀
      ∧ Transition.exec (step oneAnnouncement) s₀ servesOne = some s
      ∧ s.udpAnnouncer.announced = 1 ∧ Released s := by
  have hrun : ((DoIPServer.new oneAnnouncement).bind fun s₀ =>
      (Transition.exec (step oneAnnouncement) s₀ servesOne).map fun s =>
        (s.start, s.udpAnnouncer.announced)) = some (.returned, 1) := by decide
  obtain ⟨s₀, hnew, hrest⟩ := Option.bind_eq_some_iff.mp hrun
  obtain ⟨s, hs, heq⟩ := Option.map_eq_some_iff.mp hrest
  obtain ⟨hreturned, hannounced⟩ := Prod.mk.inj heq
  exact ⟨s₀, s, hnew, hs, hannounced,
    stop_releases oneAnnouncement s₀ s hnew servesOne hs (.inl hreturned)⟩

end DoipPlayground.EdgeNode.Lifecycle
