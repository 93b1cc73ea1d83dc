/-
  DoipPlayground.EdgeNode.Teardown
  ────────────────────────────────
  **A SESSION THAT CLOSES LEAVES NOTHING BEHIND.**

  Each phase of the clean-up joins one snapshot and thereby empties one
  set; what was not in the snapshot is held by a later phase.

    • `InvExcept.cleanupStep` — the phases in turn,
    • `run_inv`, `Inv.tornDown` — every run keeps the invariant, and with
      the clean-up done nothing is left,
    • `teardown` — a closing session starts nothing and leaves nothing.
-/
import DoipPlayground.EdgeNode.TaskSteps

namespace DoipPlayground.EdgeNode.Teardown

open Wire

variable {cfg : Config} {me : Sid} {s s' s'' : Session}

/-! ## §1. The phases of the clean-up. -/

section
variable {phase phase' : Cleanup} {reads retirements : Tasks Tid} {closes : Tasks ConnId}
variable {ecuReads : OwnerTable Target (Tid × ConnId)} {retirement : Tid → Retirement}
variable {held keys : List Nat} {legs : ConnId → Leg} {ecuConns : OwnerTable Target ConnId}
variable {closing transportClosed activated : Bool} {addr : Option SA}
variable {registry : SessionRegistry} {openSockets : List Sid}

theorem Shut.next
    (h : Shut me closing transportClosed phase activated addr registry openSockets)
    (hrank : 0 < phase.rank) (hrank' : 0 < phase'.rank) :
    Shut me closing transportClosed phase' activated addr registry openSockets :=
  { h with scheduled := iff_of_true (h.scheduled.mpr hrank) hrank' }

theorem ReadsHeld.enter (h : ReadsHeld phase reads ecuReads retirements retirement)
    (hrank : phase'.rank = 4)
    (hsnapshot : phase'.snapshot = (OwnerTable.owners ecuReads).map (fun read => read.1)) :
    ReadsHeld phase' reads ecuReads retirements retirement where
  covered := h.covered
  snapshot := by
    intro _ target t c hread
    rw [hsnapshot]
    exact List.mem_map_of_mem (f := fun read => read.1)
      (OwnerTable.mem_owners.mpr ⟨target, hread⟩)
  gone := by omega

/-- The reads of the snapshot are done; a retirement drains any other. -/
theorem ReadsHeld.leave (h : ReadsHeld phase reads ecuReads retirements retirement)
    (hrank : phase.rank = 4) (hjoined : reads.Joined phase.snapshot) (hgt : 4 < phase'.rank) :
    ReadsHeld phase' reads ∅ retirements retirement where
  covered := by
    refine h.covered.mono (fun t ht hheld => hheld.imp_left ?_)
    rintro ⟨target, c, hread⟩
    exact absurd ht (Tasks.not_live_of_done (hjoined t (h.snapshot hrank target t c hread)))
  snapshot := by omega
  gone := fun _ target => AList.lookup_empty target

theorem ReadsHeld.after (h : ReadsHeld phase reads ecuReads retirements retirement)
    (hgt : 4 < phase.rank) (hgt' : 4 < phase'.rank) :
    ReadsHeld phase' reads ecuReads retirements retirement where
  covered := h.covered
  snapshot := by omega
  gone := fun _ => h.gone hgt

theorem CacheHeld.leave (h : CacheHeld phase ecuConns legs)
    (hsnapshot : phase'.snapshot = OwnerTable.owners ecuConns) : CacheHeld phase' ∅ legs where
  established := fun target c hc => by simp at hc
  snapshot := by
    intro _ c hc
    rw [hsnapshot] at hc
    obtain ⟨target, hcached⟩ := OwnerTable.mem_owners.mp hc
    exact h.established target c hcached
  gone := fun _ target => AList.lookup_empty target

theorem CacheHeld.after (h : CacheHeld phase ecuConns legs) (hgt : 4 < phase.rank)
    (hgt' : 5 < phase'.rank) : CacheHeld phase' ecuConns legs where
  established := h.established
  snapshot := by omega
  gone := fun _ => h.gone hgt

/-- Every retirement that drains a read is in the snapshot: none begins to
now that the reads are gone. -/
theorem RetirementsHeld.enter (h : RetirementsHeld phase retirements retirement held legs)
    (hrank : phase'.rank = 6) (hsnapshot : phase'.snapshot = held) :
    RetirementsHeld phase' retirements retirement held legs where
  covered := h.covered
  established := h.established
  snapshot := by
    intro _ r c t hd
    -- live ones are held, and the snapshot is all that is held
    rw [hsnapshot]
    exact h.covered r hd.1
  gone := by omega

theorem RetirementsHeld.leave (h : RetirementsHeld phase retirements retirement held legs)
    (hrank : phase.rank = 6) (hjoined : retirements.Joined phase.snapshot)
    (hgt : 6 < phase'.rank) : RetirementsHeld phase' retirements retirement held legs where
  covered := h.covered
  established := h.established
  snapshot := by omega
  gone := by
    intro _ r c t hd
    exact Tasks.not_live_of_done (hjoined r (h.snapshot hrank r c t hd)) hd.1

theorem RetirementsHeld.after (h : RetirementsHeld phase retirements retirement held legs)
    (hgt : 6 < phase.rank) (hgt' : 6 < phase'.rank) :
    RetirementsHeld phase' retirements retirement held legs where
  covered := h.covered
  established := h.established
  snapshot := by omega
  gone := fun _ => h.gone hgt

/-- The cache is taken over by the snapshot. -/
theorem ConnsHeld.takeCache
    (h : ConnsHeld none phase closes keys legs ecuConns retirements retirement)
    (hrank : phase.rank = 4) (hrank' : phase'.rank = 5)
    (hsnapshot : phase'.snapshot = OwnerTable.owners ecuConns) :
    ConnsHeld none phase' closes keys legs ∅ retirements retirement where
  keys := h.keys
  owned := by
    intro c hne hc
    -- what the cache answered for, the snapshot answers for
    rcases h.owned c hne hc with hclose | ⟨target, hcached⟩ | hdrains | ⟨hrank, -⟩
    · exact .inl hclose
    · refine .inr (.inr (.inr ⟨hrank', ?_⟩))
      rw [hsnapshot]
      exact OwnerTable.mem_owners.mpr ⟨target, hcached⟩
    · exact .inr (.inr (.inl hdrains))
    · omega
  snapshot := by omega
  gone := by omega

/-- The connections of the snapshot are closed. -/
theorem ConnsHeld.closedCache
    (h : ConnsHeld none phase closes keys legs ecuConns retirements retirement)
    (hjoined : closes.Joined phase.snapshot) (hrank' : phase'.rank = 6) :
    ConnsHeld none phase' closes keys legs ecuConns retirements retirement where
  keys := h.keys
  owned := by
    intro c hne hc
    rcases h.owned c hne hc with hclose | hcached | hdrains | ⟨-, hmem⟩
    · exact .inl hclose
    · exact .inr (.inl hcached)
    · exact .inr (.inr (.inl hdrains))
    -- a joined close is one that has been started
    · exact .inl (by simp [hjoined c hmem])
  snapshot := by omega
  gone := by omega

/-- With the cache and the reads gone every established connection has its
close. -/
theorem ConnsHeld.allClosing
    (h : ConnsHeld none phase closes keys legs ecuConns retirements retirement)
    (hrank : phase.rank = 6) (hrank' : phase'.rank = 7) (hsnapshot : phase'.snapshot = keys)
    (hcache : ∀ target, ecuConns.lookup target = none)
    (hdrains : ∀ r c t, ¬ Drains retirements retirement r c t) :
    ConnsHeld none phase' closes keys legs ecuConns retirements retirement := by
  have hused : ∀ c, (legs c).established = true → closes c ≠ .unused := by
    intro c hc
    -- of its four ways to be answered for, only the first is left
    rcases h.owned c (by simp) hc with
      hclose | ⟨target, hcached⟩ | ⟨r, t, hd⟩ | ⟨hrank, -⟩
    · exact hclose
    · rw [hcache target] at hcached
      cases hcached
    · exact absurd hd (hdrains r c t)
    · omega
  exact {
    keys := h.keys
    owned := fun c _ hc => .inl (hused c hc)
    snapshot := fun _ c hc => hsnapshot ▸ h.keys c (hused c hc)
    gone := by omega }

/-- The closes are done. -/
theorem ConnsHeld.allClosed
    (h : ConnsHeld none phase closes keys legs ecuConns retirements retirement)
    (hrank : phase.rank = 7) (hjoined : closes.Joined phase.snapshot) (hgt : 7 < phase'.rank) :
    ConnsHeld none phase' closes keys legs ecuConns retirements retirement where
  keys := h.keys
  owned := fun c _ hc => .inl (by simp [hjoined c (h.snapshot hrank c hc)])
  snapshot := by omega
  gone := fun _ c hc => hjoined c (h.snapshot hrank c hc)

theorem ConnsHeld.after
    (h : ConnsHeld none phase closes keys legs ecuConns retirements retirement)
    (hgt : 7 < phase.rank) (hgt' : 7 < phase'.rank) :
    ConnsHeld none phase' closes keys legs ecuConns retirements retirement where
  keys := h.keys
  owned := fun c _ hc => .inl (by simp [h.gone hgt c hc])
  snapshot := by omega
  gone := fun _ => h.gone hgt

end

namespace InvExcept

/-- Nobody has returned from a clean-up that is not done. -/
theorem not_returned {e : Option ConnId} (h : InvExcept me e s) (hne : s.cleanup ≠ .done)
    (phase' : Cleanup) (k : Nat) (cancelled : Bool) (hk : s.callers k = .returned cancelled) :
    phase' = .done :=
  absurd (h.callers k cancelled hk) hne

/-- One step of the clean-up. -/
theorem cleanupStep (h : Inv me s) (hstep : s.cleanupStep me = some s') : Inv me s' := by
  cases cleaned_of_cleanupStep hstep with
  | scheduled u hphase hclosed =>
      -- the transport and the registry go first, then the timers are cancelled
      subst hclosed
      have hrank : s.cleanup.rank = 1 := by rw [hphase]; rfl
      have hret := h.not_returned (by simp [hphase])
      have hshut := h.closeTransport (.timers s.timerTasks) (by simp)
      obtain ⟨l, sockets, registry, heq⟩ :=
        closeTransportAndRegistry_eq { s with closing := true } me
      simp only [heq] at hshut ⊢
      exact {
        shut := hshut
        timers := (h.timers.enter rfl rfl).cancel.cancel
        connects := h.connects.before (by simp)
        reads := h.reads.before (by simp)
        legs := h.legs
        closes := h.closes
        cache := h.cache.before (by simp)
        retirements := h.retirements.before (by simp)
        conns := h.conns.before (by omega) (by simp)
        run := h.run
        callers := hret _ }
  | timers snapshot hphase hjoined =>
      -- the timers are gone, and the connects are cancelled
      have hrank : s.cleanup.rank = 2 := by rw [hphase]; rfl
      have hret := h.not_returned (by simp [hphase])
      exact { h with
        shut := h.shut.next (by omega) (by simp)
        timers := h.timers.leave hrank (by rw [hphase]; exact hjoined) (by simp)
        connects := (h.connects.enter rfl rfl).cancel
        reads := h.reads.before (by simp)
        -- a cancelled set-up is live until it has ended
        legs := by
          intro c
          have hc := h.legs c
          refine ⟨fun hs => hc.fresh (Tasks.cancel_eq_unused.mp hs), fun ho hn => ?_, hc.created,
            hc.closing, hc.conn⟩
          exact (hc.settled ho hn).imp_left Tasks.live_cancel.mpr
        cache := h.cache.before (by simp)
        retirements := h.retirements.before (by simp)
        conns := h.conns.before (by omega) (by simp)
        run := { h.run with setup := fun c hc => h.run.setup c (Tasks.live_cancel.mp hc) }
        callers := hret _ }
  | connects snapshot hphase hjoined =>
      -- no leg is being set up any more, and the reads are cancelled
      have hrank : s.cleanup.rank = 3 := by rw [hphase]; rfl
      have hret := h.not_returned (by simp [hphase])
      have hreads : ReadsHeld (.reads ((OwnerTable.owners s.ecuReads).map (fun read => read.1)))
          s.reads s.ecuReads s.retirements s.retirement := h.reads.enter rfl rfl
      exact { h with
        shut := h.shut.next (by omega) (by simp)
        timers := h.timers.after (by omega) (by simp)
        connects := h.connects.leave hrank (by rw [hphase]; exact hjoined) (by simp)
        reads := { hreads with covered := hreads.covered.cancel }
        cache := h.cache.before (by simp)
        retirements := h.retirements.before (by simp)
        conns := h.conns.before (by omega) (by simp)
        callers := hret _ }
  | reads snapshot hphase hjoined =>
      -- the reads are gone: what is in the cache now is all there will be
      have hrank : s.cleanup.rank = 4 := by rw [hphase]; rfl
      have hret := h.not_returned (by simp [hphase])
      have hconnects := h.connects.idle (by omega)
      exact { h with
        shut := h.shut.next (by omega) (by simp)
        timers := h.timers.after (by omega) (by simp)
        connects := h.connects.after (by omega) (by simp)
        reads := h.reads.leave hrank (by rw [hphase]; exact hjoined) (by simp)
        cache := h.cache.leave rfl
        retirements := h.retirements.before (by simp)
        conns := h.conns.takeCache hrank rfl rfl
        run :=
          { h.run with
            setup := fun c hc => absurd hc (hconnects c)
            stale := fun target _ _ _ _ => .inl (AList.lookup_empty target) }
        callers := hret _ }
  | conns snapshot hphase hjoined =>
      -- the connections of the cache are closed
      have hrank : s.cleanup.rank = 5 := by rw [hphase]; rfl
      have hret := h.not_returned (by simp [hphase])
      exact { h with
        shut := h.shut.next (by omega) (by simp)
        timers := h.timers.after (by omega) (by simp)
        connects := h.connects.after (by omega) (by simp)
        reads := h.reads.after (by omega) (by simp)
        cache := h.cache.after (by omega) (by simp)
        retirements := h.retirements.enter rfl rfl
        conns := h.conns.closedCache (by rw [hphase]; exact hjoined) rfl
        callers := hret _ }
  | retirements snapshot hphase hjoined =>
      -- nobody is left to hold a connection, so each one has its close
      have hrank : s.cleanup.rank = 6 := by rw [hphase]; rfl
      have hret := h.not_returned (by simp [hphase])
      have hleave : RetirementsHeld (.closes s.ecuCloseTasks) s.retirements s.retirement
          s.retirementTasks s.legs :=
        h.retirements.leave hrank (by rw [hphase]; exact hjoined) (by simp)
      exact { h with
        shut := h.shut.next (by omega) (by simp)
        timers := h.timers.after (by omega) (by simp)
        connects := h.connects.after (by omega) (by simp)
        reads := h.reads.after (by omega) (by simp)
        cache := h.cache.after (by omega) (by simp)
        retirements := hleave
        conns := h.conns.allClosing hrank rfl rfl (h.cache.gone (by omega)) (hleave.gone (by simp))
        callers := hret _ }
  | closes snapshot hphase hjoined =>
      -- and the closes are done
      have hrank : s.cleanup.rank = 7 := by rw [hphase]; rfl
      have hret := h.not_returned (by simp [hphase])
      exact { h with
        shut := h.shut.next (by omega) (by simp)
        timers := h.timers.after (by omega) (by simp)
        connects := h.connects.after (by omega) (by simp)
        reads := h.reads.after (by omega) (by simp)
        cache := h.cache.after (by omega) (by simp)
        retirements := h.retirements.after (by omega) (by simp)
        conns := h.conns.allClosed hrank (by rw [hphase]; exact hjoined) (by simp)
        callers := hret _ }
  | writer hphase =>
      -- the writer is closed, or its close has failed
      have hrank : s.cleanup.rank = 8 := by rw [hphase]; rfl
      exact { h with
        shut := h.shut.next (by omega) (by simp)
        timers := h.timers.after (by omega) (by simp)
        connects := h.connects.after (by omega) (by simp)
        reads := h.reads.after (by omega) (by simp)
        cache := h.cache.after (by omega) (by simp)
        retirements := h.retirements.after (by omega) (by simp)
        conns := h.conns.after (by omega) (by simp)
        callers := fun _ _ _ => rfl }

/-- The clean-up closes a connection of its snapshot. -/
theorem cleanupClose {c : ConnId} (h : Inv me s) (hstep : s.cleanupClose c = some s') :
    Inv me s' := by
  unfold Session.cleanupClose at hstep
  split at hstep
  case h_1 snapshot hphase =>
    split at hstep <;> cases hstep
    rename_i hmem
    -- the snapshot was taken of the cache, which has established legs only
    refine (h.weaken (some c)).closeEcuOnce (h.cache.snapshot ?_ c ?_)
    · rw [hphase]
      rfl
    · rw [hphase]
      exact hmem
  case h_2 => cases hstep

/-! ## §2. Callers and the registry. -/

theorem callerStep {k : Nat} {ev : Session.CallerEvent} (h : Inv me s)
    (hstep : s.callerStep me k ev = some s') : Inv me s' := by
  have hset : ∀ {u : Session} {caller : Caller}, Inv me u →
      (∀ cancelled, caller = .returned cancelled → u.cleanup = .done) →
      Inv me { u with callers := Function.update u.callers k caller } := by
    intro u caller hu hdone
    refine { hu with callers := ?_ }
    intro k' cancelled hk
    by_cases hkk : k' = k
    · subst k'
      exact hdone cancelled (by simpa using hk)
    · exact hu.callers k' cancelled ((Function.update_of_ne hkk _ _).symm.trans hk)
  cases called_of_callerStep hstep with
  -- the first caller schedules the clean-up; a caller returns when it is done
  | begun =>
      have hcallers : (s.scheduleCleanup me).callers = s.callers := by
        obtain ⟨l, sockets, registry, heq⟩ := scheduleCleanup_eq s me
        rw [heq]
      exact hcallers ▸ hset h.scheduleCleanup (by simp)
  | cancelled => exact hset h (by simp)
  | returned _ hdone => exact hset h (fun _ _ => hdone)

/-- Others change their own entries only. -/
theorem registryStep {ev : Session.RegistryEvent} (h : Inv me s)
    (hstep : s.registryStep cfg me ev = some s') : Inv me s' := by
  cases ev with
  | register sa j =>
      simp only [Session.registryStep] at hstep
      split at hstep <;> cases hstep
      rename_i hj
      -- another session's address: ours is as it was
      refine { h with shut := { h.shut with registered := ?_ } }
      intro sa' hsa
      rw [OwnerTable.lookup_register] at hsa
      split at hsa
      · exact absurd (Option.some.inj hsa) hj
      · exact h.shut.registered sa' hsa
  | unregister sa j =>
      simp only [Session.registryStep] at hstep
      split at hstep <;> cases hstep
      refine { h with shut := { h.shut with registered := ?_ } }
      intro sa' hsa
      rw [OwnerTable.lookup_unregister] at hsa
      split at hsa
      · cases hsa
      · exact h.shut.registered sa' hsa
  | reserve j =>
      simp only [Session.registryStep] at hstep
      split at hstep
      · cases hstep
      · rename_i hj
        split at hstep <;> cases hstep
        -- the reservation of another socket
        · exact h
        · refine { h with shut := { h.shut with reserved := ?_ } }
          intro hmem
          rcases List.mem_cons.mp hmem with hme | hmem
          · exact absurd hme.symm hj
          · exact h.shut.reserved hmem
  | release j =>
      cases hstep
      refine { h with shut := { h.shut with reserved := ?_ } }
      intro hmem
      exact h.shut.reserved (List.mem_of_mem_filter hmem)

/-- Only an open session registers, under one address. -/
theorem activate (h : Inv me s) (sa : SA) : Inv me (s.activate me sa) := by
  unfold Session.activate
  split
  case isTrue => exact h
  case isFalse hopen =>
    -- closed, or registered under another address: nothing happens
    obtain ⟨hopen, haddr⟩ := not_or.mp hopen
    refine { h with shut := { h.shut with registered := ?_ } }
    intro sa' hsa
    refine ⟨by simpa using hopen, rfl, ?_⟩
    show some sa = some sa'
    rw [OwnerTable.lookup_register] at hsa
    split at hsa
    · subst sa'
      rfl
    · obtain ⟨-, hactivated, hsa'⟩ := h.shut.registered sa' hsa
      by_contra hne
      exact haddr ⟨hactivated, fun heq => hne (heq.symm.trans hsa')⟩

end InvExcept

/-! ## §3. Every run. -/

/-- **One step keeps the invariant.** -/
theorem step_inv {ev : Event} (h : Inv me s) (hstep : step cfg me s ev = some s') :
    Inv me s' := by
  cases ev with
  | run ev => exact h.runStep hstep
  | setup c ev => exact h.setupStep hstep
  | retire r => exact h.retireStep hstep
  | readEnded t =>
      simp only [step] at hstep
      split at hstep <;> cases hstep
      -- a read that has ended needs no cover
      exact { h with
        reads := { h.reads with covered := h.reads.covered.settle (fun _ _ hu => hu) } }
  | timerExpired t =>
      simp only [step] at hstep
      split at hstep <;> cases hstep
      -- a timer that runs out schedules the clean-up
      exact h.scheduleCleanup.timerEnded t
  | timerCancelled t =>
      simp only [step] at hstep
      split at hstep <;> cases hstep
      exact h.timerEnded t
  | closeEnded c =>
      simp only [step] at hstep
      split at hstep <;> cases hstep
      exact h.closeEnded (by assumption)
  | terminated c =>
      -- the leg drops, and stays in whoever's hands it is
      cases hstep
      have hl := h.legs c
      have hcl := h.closes c
      exact h.setLeg ⟨hl.fresh, hl.settled, hl.created, hl.closing, hl.conn⟩
        ⟨hcl.established, hcl.closed, hcl.calls⟩ rfl rfl
  | cleanup => exact h.cleanupStep hstep
  | cleanupClose c => exact h.cleanupClose hstep
  | sendRaw data =>
      cases hstep
      -- a closing session writes nothing
      unfold Session.sendRaw
      split
      · exact h
      · exact { h with }
  | resetInactivityTimer t =>
      simp only [step] at hstep
      split at hstep <;> cases hstep
      unfold Session.resetInactivityTimer
      dsimp only
      split
      · exact h.cancelTimers _
      · rename_i hopen
        exact { (h.cancelTimers s.inactivityTask.toList).newTimer hopen t with }
  | cancelInitialTimer =>
      cases hstep
      exact { h.cancelTimers s.initialTimerTask.toList with }
  | activate sa =>
      cases hstep
      exact h.activate sa
  | evict =>
      cases hstep
      exact h.scheduleCleanup
  | caller k ev => exact h.callerStep hstep
  | registry ev => exact h.registryStep hstep

/-- Nothing is left of the session. -/
structure TornDown (me : Sid) (s : Session) : Prop where
  closed : ∀ c, (s.legs c).opened = true → (s.legs c).closed = true
  timers : ∀ t, ¬ s.timers.Live t
  connects : ∀ c, ¬ s.connects.Live c
  reads : ∀ t, ¬ s.reads.Live t
  reservation : me ∉ s.openSockets
  registration : ∀ sa, s.registry.lookup sa ≠ some me

theorem Inv.tornDown (h : Inv me s) (hdone : s.cleanup = .done) : TornDown me s := by
  have hrank : s.cleanup.rank = 9 := by rw [hdone]; rfl
  have hclosing : s.closing = true := h.shut.scheduled.mpr (by omega)
  have hconnects := h.connects.idle (by omega)
  exact {
    closed := by
      intro c hopened
      by_cases hest : (s.legs c).established = true
      · exact (h.closes c).closed (h.conns.gone (by omega) c hest)
      · refine ((h.legs c).settled hopened (by simpa using hest)).resolve_left ?_
        exact hconnects c
    timers := h.timers.idle (by omega)
    connects := hconnects
    reads := by
      intro t ht
      rcases h.reads.covered t ht with ⟨target, c, hread⟩ | ⟨r, c, hdrains⟩
      · rw [h.reads.gone (by omega) target] at hread
        cases hread
      · exact h.retirements.gone (by omega) r c t hdrains
    reservation := by
      intro hmem
      rw [h.shut.reserved hmem] at hclosing
      cases hclosing
    registration := by
      intro sa hsa
      rw [(h.shut.registered sa hsa).1] at hclosing
      cases hclosing }

theorem run_inv {es : List Event} (h : Transition.exec (step cfg me) (.init me) es = some s) :
    Inv me s :=
  Transition.exec_invariant (Inv me) (fun _ _ _ hi hstep => step_inv hi hstep) es (.init me) s
    (inv_init me) h

/-- From a closing session on, every run is quiet. -/
theorem run_quiet (hc : s.closing = true) {es : List Event}
    (h : Transition.exec (step cfg me) s es = some s') : Quiet s s' :=
  (Transition.exec_invariant (fun u => Quiet s u)
    (fun _ _ _ hq hstep => hq.trans (step_quiet (hq.closing hc) hstep)) es s s' (.refl s) h)

/-- A call of `close()`, cancelled or not, returns to a session of which
nothing is left. -/
theorem close_returns {es : List Event} {k : Nat} {cancelled : Bool}
    (h : Transition.exec (step cfg me) (.init me) es = some s)
    (hk : s.callers k = .returned cancelled) : TornDown me s :=
  (run_inv h).tornDown ((run_inv h).callers k cancelled hk)

/-- **Teardown**: a closing session writes, caches and starts nothing, no
connection is closed twice, and nothing is left when the clean-up is
done. -/
theorem teardown (cfg : Config) (me : Sid) (es : List Event) (s : Session)
    (h : Transition.exec (step cfg me) (.init me) es = some s) :
    (s.closing = true →
        ∀ fs s', Transition.exec (step cfg me) s fs = some s' → Quiet s s')
      ∧ (∀ c, (s.legs c).closeCalls ≤ 1)
      ∧ (s.cleanup = .done → TornDown me s) := by
  have hinv := run_inv h
  refine ⟨fun hc fs s' hfs => run_quiet hc hfs, ?_, hinv.tornDown⟩
  intro c
  rw [(hinv.closes c).calls]
  split <;> omega

def oneRoute : Config where
  routes := [0x0001]
  maxConnections := 4

/-- A contender evicts the session in the middle of an exchange; the read
that is cancelled ends the exchange while the clean-up goes on. -/
def evictedInExchange : List Event :=
  [.run (.start 0), .cancelInitialTimer, .activate 0x0E00, .resetInactivityTimer 1,
    .timerCancelled 0, .run (.diagnose 0x0001 false 7), .setup 7 .first, .setup 7 .connected,
    .run .connected, .run (.receive 2), .sendRaw [0x02], .evict, .sendRaw [0x03], .cleanup,
    .timerCancelled 1, .cleanup, .cleanup, .readEnded 2, .run (.cancelled 3), .cleanup,
    .cleanupClose 7, .retire 3, .closeEnded 7, .cleanup, .retire 3, .cleanup, .cleanup, .cleanup,
    .run (.retired 4), .run .joined]

theorem teardown_evicted :
    ∃ s, Transition.exec (step oneRoute 0) (.init 0) evictedInExchange = some s
      ∧ s.written = [[0x02]] ∧ (s.legs 7).opened = true ∧ (s.legs 7).closeCalls = 1
      ∧ (∀ fs s', Transition.exec (step oneRoute 0) s fs = some s' → Quiet s s')
      ∧ TornDown 0 s := by
  have hrun : (Transition.exec (step oneRoute 0) (.init 0) evictedInExchange).map
        (fun s => (s.written, (s.legs 7).opened, (s.legs 7).closeCalls, s.closing, s.cleanup))
      = some ([[0x02]], true, 1, true, .done) := by decide
  obtain ⟨s, hs, heq⟩ := Option.map_eq_some_iff.mp hrun
  simp only [Prod.mk.injEq] at heq
  obtain ⟨hwritten, hopened, hcalls, hclosing, hdone⟩ := heq
  obtain ⟨hquiet, -, htorn⟩ := teardown oneRoute 0 evictedInExchange s hs
  exact ⟨s, hs, hwritten, hopened, hcalls, hquiet hclosing, htorn hdone⟩

end DoipPlayground.EdgeNode.Teardown
