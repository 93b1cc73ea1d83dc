/-
  DoipPlayground.EdgeNode.TaskSteps
  ─────────────────────────────────
  **RETIREMENTS, CONNECTS AND `run` KEEP THE INVARIANT.**

  `Inv` says who answers for each task, read and connection of a session.
  Here each step of the three tasks that pass them on is shown to keep it.
  A connection passes through states in which nobody answers for it: taken
  out of the cache and not closed yet, set up and not cached yet.  There the
  invariant holds but for this connection, which is what `InvExcept` says.

    • `InvExcept.retireStep` — a retirement detaches, drains and closes,
    • `InvExcept.setupStep` — a connect is cached, closed late, or closes
      after itself,
    • `InvExcept.runStep` — the session loop and its exchange.
-/
import DoipPlayground.EdgeNode.TaskOwnership

namespace DoipPlayground.EdgeNode.Teardown

open Wire

variable {cfg : Config} {me : Sid} {s s' s'' : Session}

/-! ## §1. Retirement. -/

section
variable {retirements : Tasks Tid} {retirement : Tid → Retirement} {r r' t : Tid} {c d : ConnId}

/-- A retirement that is created waits for no read. -/
theorem drains_start {target : Target} (hunused : retirements r = .unused) :
    Drains (retirements.start r) (Function.update retirement r (.created target c)) r' d t
      ↔ Drains retirements retirement r' d t := by
  by_cases hr : r' = r
  · subst r'
    -- it is only created: its state is not that of one that waits for a read
    refine iff_of_false ?_ ?_
    · rintro ⟨-, hdraining⟩
      rw [Function.update_self] at hdraining
      cases hdraining
    · rintro ⟨hlive, -⟩
      exact Tasks.Live.ne_unused hlive hunused
  · simp [Drains, hr]

/-- One retirement moves on. -/
theorem drains_update {v : Retirement} :
    Drains retirements (Function.update retirement r v) r' d t
      ↔ (r' = r ∧ retirements.Live r ∧ v = .draining d t)
        ∨ (r' ≠ r ∧ Drains retirements retirement r' d t) := by
  by_cases hr : r' = r
  · subst r'
    simp [Drains]
  · simp [Drains, hr]

theorem drains_settle :
    Drains (retirements.settle r) retirement r' d t
      ↔ r' ≠ r ∧ Drains retirements retirement r' d t := by
  simp only [Drains, Tasks.live_settle, and_assoc]

end

namespace InvExcept

variable {e : Option ConnId} {c : ConnId} {r t : Tid} {target : Target}

/-- A retirement is created, and `run` waits for it at `p`. -/
theorem retireEcuConnection {p : Point} (h : Inv me s) (hidle : ∀ c, ¬ s.connects.Live c)
    (hest : (s.legs c).established = true) (hconn : p.conn = none)
    (hstale : ∀ target' replay r' cancelled, p = .retiringStale target' replay r' cancelled →
      r' = r ∧ target' = target ∧ s.ecuConns.lookup target = some c)
    (hstep : s.retireEcuConnection r target c p = some s') : Inv me s' := by
  unfold Session.retireEcuConnection at hstep
  split at hstep
  case isFalse => cases hstep
  case isTrue hunused =>
    cases hstep
    exact { h with
      reads :=
        { h.reads with
          -- the table of reads is untouched, so whoever covered a read still does
          covered := by
            refine h.reads.covered.mono (fun u _ hu => hu.imp_right ?_)
            rintro ⟨r', d, hd⟩
            exact ⟨r', d, (drains_start hunused).mpr hd⟩ }
      retirements :=
        { covered := h.retirements.covered.start (fun _ hu => List.mem_cons_of_mem r hu)
            List.mem_cons_self
          established := by
            intro r' hlive
            -- the new retirement is of a connection that is established
            show (s.legs (Function.update s.retirement r (.created target c) r').conn).established
              = true
            rcases Tasks.live_start.mp hlive with rfl | hlive
            · rw [Function.update_self]
              exact hest
            · have hne : r' ≠ r := fun hr => Tasks.Live.ne_unused hlive (hr ▸ hunused)
              rw [Function.update_of_ne hne]
              exact h.retirements.established r' hlive
          -- it waits for nothing, so no phase of the clean-up gets more to look after
          snapshot := fun hrank r' d u hd =>
            h.retirements.snapshot hrank r' d u ((drains_start hunused).mp hd)
          gone := fun hrank r' d u hd =>
            h.retirements.gone hrank r' d u ((drains_start hunused).mp hd) }
      conns :=
        { h.conns with
          owned := by
            -- its connection stays in the cache until it takes its first step
            intro d hne hd
            refine (h.conns.owned d hne hd).imp_right (fun hown => hown.imp_right
              (fun hown => hown.imp_left ?_))
            rintro ⟨r', u, hu⟩
            exact ⟨r', u, (drains_start hunused).mpr hu⟩ }
      run :=
        { setup := fun d hd => absurd hd (hidle d)
          held := by simp [hconn]
          stale := by
            -- where `run` waits for room, this retirement is the one that makes it
            intro target' replay r' cancelled hp
            obtain ⟨rfl, rfl, hcached⟩ := hstale target' replay r' cancelled hp
            exact .inr ⟨c, Tasks.live_start.mpr (.inl rfl), Function.update_self _ _ _,
              hcached⟩ } }

/-- Detaching a leg from the cache leaves it in nobody's hands. -/
theorem uncache (h : Inv me s) (target : Target) (c : ConnId) :
    InvExcept me (some c) { s with ecuConns := OwnerTable.unregister s.ecuConns target c } := by
  -- an entry less, and nobody else's
  have hsub : ∀ target' d, (OwnerTable.unregister s.ecuConns target c).lookup target' = some d →
      s.ecuConns.lookup target' = some d := (Quiet.uncache s target c).cache
  have hnone : ∀ target', s.ecuConns.lookup target' = none →
      (OwnerTable.unregister s.ecuConns target c).lookup target' = none := by
    intro target' hnone
    rw [OwnerTable.lookup_unregister, hnone, ite_self]
  exact { h with
    cache :=
      { established := fun target' d hd => h.cache.established target' d (hsub target' d hd)
        snapshot := h.cache.snapshot
        gone := fun hrank target' => hnone target' (h.cache.gone hrank target') }
    conns :=
      { h.conns with
        owned := by
          -- the connections that lived in the cache alone are where they were
          intro d hne hd
          refine (h.conns.owned d (by simp) hd).imp_right (fun hown => hown.imp_left ?_)
          rintro ⟨target', hcached⟩
          refine ⟨target', ?_⟩
          show (OwnerTable.unregister s.ecuConns target c).lookup target' = some d
          rw [OwnerTable.lookup_unregister, if_neg ?_]
          · exact hcached
          · rintro ⟨rfl, hc⟩
            exact hne (hc.symm.trans hcached) }
    run :=
      { h.run with
        -- room that was there is still there, and the detached address is free now
        setup := fun d hd => (h.run.setup d hd).imp_right (hnone _)
        stale := by
          intro target' replay r' cancelled hp
          rcases h.run.stale target' replay r' cancelled hp with hnone' | ⟨d, hlive, hr, hd⟩
          · exact .inl (hnone target' hnone')
          · show (OwnerTable.unregister s.ecuConns target c).lookup target' = none ∨ _
            rw [OwnerTable.lookup_unregister]
            split
            · exact .inl rfl
            · exact .inr ⟨d, hlive, hr, hd⟩ } }

/-- A retirement moves on with an established connection. -/
theorem established_update (h : InvExcept me e s) {state : Retirement}
    (hest : (s.legs state.conn).established = true) (r' : Tid) (hr' : s.retirements.Live r') :
    (s.legs (Function.update s.retirement r state r').conn).established = true := by
  by_cases hr : r' = r
  · subst r'
    rw [Function.update_self]
    exact hest
  · rw [Function.update_of_ne hr]
    exact h.retirements.established r' hr'

/-- And the one that `run` waits for has taken the connection out of the cache. -/
theorem stale_update (h : InvExcept me e s) (state : Retirement)
    (hstale : ∀ target replay cancelled, s.run = .retiringStale target replay r cancelled →
      s.ecuConns.lookup target = none)
    (target : Target) (replay : Bool) (r' : Tid) (cancelled : Bool)
    (hp : s.run = .retiringStale target replay r' cancelled) :
    s.ecuConns.lookup target = none ∨ ∃ c, s.retirements.Live r'
      ∧ Function.update s.retirement r state r' = .created target c
      ∧ s.ecuConns.lookup target = some c := by
  by_cases hr : r' = r
  · subst r'
    exact .inl (hstale target replay cancelled hp)
  · refine (h.run.stale target replay r' cancelled hp).imp_right ?_
    rintro ⟨d, hlive, hcreated, hcached⟩
    exact ⟨d, hlive, (Function.update_of_ne hr _ _).trans hcreated, hcached⟩

/-- A retirement that has no read left to wait for is about to close. -/
theorem startClosing (h : InvExcept me e s) (he : e = none ∨ e = some c)
    (hest : (s.legs c).established = true)
    (hdrained : ∀ d t, s.retirement r = .draining d t → d = c ∧ s.reads t = .done)
    (hstale : ∀ target replay cancelled, s.run = .retiringStale target replay r cancelled →
      s.ecuConns.lookup target = none) :
    InvExcept me (some c)
      { s with retirement := Function.update s.retirement r (.closing c) } := by
  -- a retirement that closes drains no longer
  have hsub : ∀ r' d u,
      Drains s.retirements (Function.update s.retirement r (.closing c)) r' d u →
        Drains s.retirements s.retirement r' d u := by
    intro r' d u hd
    rcases drains_update.mp hd with ⟨-, -, hv⟩ | ⟨-, hd⟩
    · cases hv
    · exact hd
  have hback : ∀ r' d u, Drains s.retirements s.retirement r' d u →
      (d = c ∧ s.reads u = .done)
        ∨ Drains s.retirements (Function.update s.retirement r (.closing c)) r' d u := by
    -- what it drained is done, so nothing is lost by its moving on
    intro r' d u hd
    by_cases hr : r' = r
    · subst r'
      exact .inl (hdrained d u hd.2)
    · exact .inr (drains_update.mpr (.inr ⟨hr, hd⟩))
  exact { h with
    reads :=
      { h.reads with
        covered := by
          refine h.reads.covered.mono (fun u hu hheld => hheld.imp_right ?_)
          rintro ⟨r', d, hd⟩
          rcases hback r' d u hd with ⟨-, hdone⟩ | hd
          · exact absurd hu (Tasks.not_live_of_done hdone)
          · exact ⟨r', d, hd⟩ }
    retirements :=
      { h.retirements with
        established := h.established_update hest
        snapshot := fun hrank r' d u hd => h.retirements.snapshot hrank r' d u (hsub r' d u hd)
        gone := fun hrank r' d u hd => h.retirements.gone hrank r' d u (hsub r' d u hd) }
    conns :=
      { h.conns with
        -- the connection is in nobody's hands until its close is started
        owned := by
          intro d hne hd
          have hdc : d ≠ c := fun hdc => hne (by rw [hdc])
          have hne' : e ≠ some d := by
            rcases he with rfl | rfl
            · simp
            · exact hne
          rcases h.conns.owned d hne' hd with hclose | hcached | ⟨r', u, hu⟩ | hsnapshot
          · exact .inl hclose
          · exact .inr (.inl hcached)
          · rcases hback r' d u hu with ⟨heq, -⟩ | hu
            · exact absurd heq hdc
            · exact .inr (.inr (.inl ⟨r', u, hu⟩))
          · exact .inr (.inr (.inr hsnapshot)) }
    run := { h.run with stale := h.stale_update (.closing c) hstale } }

theorem retireClose (h : InvExcept me e s) (he : e = none ∨ e = some c)
    (hest : (s.legs c).established = true)
    (hdrained : ∀ d t, s.retirement r = .draining d t → d = c ∧ s.reads t = .done)
    (hstale : ∀ target replay cancelled, s.run = .retiringStale target replay r cancelled →
      s.ecuConns.lookup target = none) : Inv me (s.retireClose r c) := by
  have heq : s.retireClose r c
      = { s with retirement := Function.update s.retirement r (.closing c) }.closeEcuOnce c := by
    unfold Session.retireClose Session.closeEcuOnce
    split <;> rfl
  rw [heq]
  exact (h.startClosing he hest hdrained hstale).closeEcuOnce hest

/-- The retirement takes over the read of the connection it has detached. -/
theorem takeRead (h : InvExcept me (some c) s) (hlive : s.retirements.Live r)
    (hread : s.ecuReads.lookup target = some (t, c)) (hest : (s.legs c).established = true)
    (hcreated : ∀ d u, s.retirement r ≠ .draining d u)
    (hstale : ∀ target replay cancelled, s.run = .retiringStale target replay r cancelled →
      s.ecuConns.lookup target = none) :
    Inv me { s with
      ecuReads := OwnerTable.unregister s.ecuReads target (t, c)
      reads := s.reads.cancel [t]
      retirement := Function.update s.retirement r (.draining c t) } := by
  -- its read is still in the table, so the clean-up has not emptied it
  have hrank : ¬ 4 < s.cleanup.rank := by
    intro hrank
    rw [h.reads.gone hrank target] at hread
    cases hread
  -- the read passes from the table to the retirement, so it stays covered
  have htaken : Drains s.retirements (Function.update s.retirement r (.draining c t)) r c t :=
    drains_update.mpr (.inl ⟨rfl, hlive, rfl⟩)
  have hkept : ∀ r' d u, Drains s.retirements s.retirement r' d u →
      Drains s.retirements (Function.update s.retirement r (.draining c t)) r' d u := by
    intro r' d u hd
    refine drains_update.mpr (.inr ⟨?_, hd⟩)
    rintro rfl
    exact hcreated d u hd.2
  exact { h with
    reads :=
      { covered := by
          refine (h.reads.covered.mono ?_).cancel
          -- a read that the table covered is this one, or is in the table as before
          rintro u - (⟨target', d, hu⟩ | ⟨r', d, hd⟩)
          · by_cases hut : u = t
            · exact .inr ⟨r, c, hut ▸ htaken⟩
            · refine .inl ⟨target', d, ?_⟩
              rw [OwnerTable.lookup_unregister, if_neg ?_]
              · exact hu
              · rintro ⟨rfl, -⟩
                rw [hread] at hu
                cases hu
                exact hut rfl
          · exact .inr ⟨r', d, hkept r' d u hd⟩
        snapshot := by
          intro hrank target' u d hu
          rw [OwnerTable.lookup_unregister] at hu
          split at hu
          · cases hu
          · exact h.reads.snapshot hrank target' u d hu
        gone := fun hgt => absurd hgt hrank }
    retirements :=
      { h.retirements with
        established := h.established_update hest
        snapshot := by
          show s.cleanup.rank = 6 → _
          omega
        gone := by
          show 6 < s.cleanup.rank → _
          omega }
    -- the retirement that drains it answers for the connection now
    conns := by
      refine ConnsHeld.taken { h.conns with owned := ?_ } (.inr (.inr ⟨r, t, htaken⟩))
      intro d hne hd
      refine (h.conns.owned d hne hd).imp_right (fun hown => hown.imp_right
        (fun hown => hown.imp_left ?_))
      rintro ⟨r', u, hu⟩
      exact ⟨r', u, hkept r' d u hu⟩
    run := { h.run with stale := h.stale_update (.draining c t) hstale } }

theorem retireDetach (h : Inv me s) (hlive : s.retirements.Live r)
    (hcreated : s.retirement r = .created target c) : Inv me (s.retireDetach r target c) := by
  -- it was established when it was retired
  have hest : (s.legs c).established = true := by
    have := h.retirements.established r hlive
    rwa [hcreated] at this
  -- taking the connection out is what `run` was waiting for
  have hstale : ∀ target' replay cancelled,
      s.run = .retiringStale target' replay r cancelled →
        (OwnerTable.unregister s.ecuConns target c).lookup target' = none := by
    intro target' replay cancelled hp
    rw [OwnerTable.lookup_unregister]
    rcases h.run.stale target' replay r cancelled hp with hnone | ⟨d, -, hd, hcached⟩
    · rw [hnone, ite_self]
    · rw [hcreated] at hd
      cases hd
      rw [if_pos ⟨rfl, hcached⟩]
  have hu := h.uncache target c
  unfold Session.retireDetach
  dsimp only
  split
  -- a read of this very connection is drained first, any other left alone
  case h_1 t owner hread =>
    split
    case isTrue howner =>
      subst howner
      exact hu.takeRead hlive hread hest (by simp [hcreated]) hstale
    case isFalse => exact hu.retireClose (.inr rfl) hest (by simp [hcreated]) hstale
  case h_2 => exact hu.retireClose (.inr rfl) hest (by simp [hcreated]) hstale

/-- The retirement has ended. -/
theorem retireEnded (h : InvExcept me e s) (hclosing : s.retirement r = .closing c) :
    InvExcept me e { s with
      retirements := s.retirements.settle r
      retirementTasks := s.retirementTasks.filter (· ≠ r) } := by
  -- a retirement that was closing drained nothing, so no cover is lost
  have hback : ∀ r' d u, Drains s.retirements s.retirement r' d u →
      Drains (s.retirements.settle r) s.retirement r' d u := by
    intro r' d u hd
    refine drains_settle.mpr ⟨?_, hd⟩
    rintro rfl
    rw [hd.2] at hclosing
    cases hclosing
  exact { h with
    reads :=
      { h.reads with
        covered := by
          refine h.reads.covered.mono (fun u _ hu => hu.imp_right ?_)
          rintro ⟨r', d, hd⟩
          exact ⟨r', d, hback r' d u hd⟩ }
    retirements :=
      { covered := h.retirements.covered.settle (fun u hne hu =>
          List.mem_filter.mpr ⟨hu, by simpa using hne⟩)
        established := fun r' hr' => h.retirements.established r' (Tasks.live_settle.mp hr').2
        snapshot := fun hrank r' d u hd =>
          h.retirements.snapshot hrank r' d u (drains_settle.mp hd).2
        gone := fun hrank r' d u hd => h.retirements.gone hrank r' d u (drains_settle.mp hd).2 }
    conns :=
      { h.conns with
        owned := by
          intro d hne hd
          refine (h.conns.owned d hne hd).imp_right (fun hown => hown.imp_right
            (fun hown => hown.imp_left ?_))
          rintro ⟨r', u, hu⟩
          exact ⟨r', u, hback r' d u hu⟩ }
    run :=
      { h.run with
        -- it is not the one that `run` waits for, which is only created
        stale := by
          intro target replay r' cancelled hp
          refine (h.run.stale target replay r' cancelled hp).imp_right ?_
          rintro ⟨d, hlive', hcreated, hcached⟩
          refine ⟨d, Tasks.live_settle.mpr ⟨?_, hlive'⟩, hcreated, hcached⟩
          rintro rfl
          rw [hcreated] at hclosing
          cases hclosing } }

/-- One step of a retirement. -/
theorem retireStep (h : Inv me s) (hstep : s.retireStep r = some s') : Inv me s' := by
  unfold Session.retireStep at hstep
  split at hstep
  case isFalse => cases hstep
  case isTrue hlive =>
    split at hstep
    -- the first step
    case h_1 target c hcreated =>
      cases hstep
      exact h.retireDetach hlive hcreated
    -- the read has ended
    case h_2 c t hdraining =>
      split at hstep
      case isFalse => cases hstep
      case isTrue hdone =>
        cases hstep
        have hest := h.retirements.established r hlive
        rw [hdraining] at hest
        refine h.retireClose (.inl rfl) hest ?_ ?_
        · intro d u hd
          rw [hdraining] at hd
          cases hd
          exact ⟨rfl, hdone⟩
        -- `run` may wait for room, which the first step has made
        · intro target replay cancelled hp
          refine (h.run.stale target replay r cancelled hp).resolve_right ?_
          rintro ⟨d, -, hcreated, -⟩
          rw [hdraining] at hcreated
          cases hcreated
    -- the close has ended
    case h_3 c hclosing =>
      split at hstep <;> cases hstep
      exact h.retireEnded hclosing

end InvExcept

/-! ## §2. Connecting. -/

namespace InvExcept

variable {e : Option ConnId} {c d : ConnId} {leg : Leg} {target : Target} {replay : Bool}

/-- Two connects are never live at once. -/
theorem live_unique (h : InvExcept me e s) (hc : s.connects.Live c) (hd : s.connects.Live d) :
    d = c := by
  -- `run` waits for the one connect that is live
  obtain ⟨⟨_, _, hrun⟩, -⟩ := h.run.setup c hc
  obtain ⟨⟨_, _, hrun'⟩, -⟩ := h.run.setup d hd
  rw [hrun] at hrun'
  exact (Point.connecting.inj hrun').2.2.1.symm

/-- `connect_owned` has ended. -/
theorem setupEnded {o : Outcome} (h : InvExcept me e s) (hlive : s.connects.Live c)
    (hleg : LegOk .done { leg with outcome := some o })
    (hclose : CloseOk (s.closes c) { leg with outcome := some o })
    (hest : leg.established = (s.legs c).established) : InvExcept me e (s.setupEnded c leg o) := by
  have hsame := setLeg_same s c { leg with outcome := some o } Leg.established hest
  have hmono := fun d (hd : (s.legs d).established = true) => (hsame d).trans hd
  -- from here on only the leg has changed, and its task is done
  exact { h with
    connects := h.connects.finish
    legs := by
      intro d
      show LegOk (s.connects.settle c d) ((s.setLeg c _).legs d)
      rw [legs_setLeg]
      split
      · subst d
        rw [Tasks.settle_eq_done.mpr (.inl rfl)]
        exact hleg
      · rw [Tasks.settle_of_ne (by assumption)]
        exact h.legs d
    closes := by
      intro d
      show CloseOk (s.closes d) ((s.setLeg c _).legs d)
      rw [legs_setLeg]
      split
      · subst d
        exact hclose
      · exact h.closes d
    cache := h.cache.mono hmono
    retirements := h.retirements.mono hmono
    conns := h.conns.relabel (fun d hd => (hsame d).symm.trans hd)
    run :=
      { h.run with
        -- no other connect is live, so nobody is set up any more
        setup := by
          intro d hd
          obtain ⟨hne, hd⟩ := Tasks.live_settle.mp hd
          exact absurd (h.live_unique hlive hd) hne
        held := fun d hd => hmono d (h.run.held d hd) } }

/-- `connect` has returned: the connection is there and in nobody's hands. -/
theorem establish (h : Inv me s) (hlive : s.connects.Live c) (hleg : LegOk (s.connects c) leg)
    (hclose : CloseOk (s.closes c) leg) (hest : leg.established = true)
    (htarget : leg.target = (s.legs c).target) : InvExcept me (some c) (s.setLeg c leg) := by
  -- a connect is live, so the clean-up has not come past the connects
  have hrank : ¬ 3 < s.cleanup.rank := fun hrank => h.connects.idle hrank c hlive
  have hmono : ∀ d, (s.legs d).established = true →
      ((s.setLeg c leg).legs d).established = true := by
    intro d hd
    rw [legs_setLeg]
    split
    · exact hest
    · exact hd
  exact { h with
    legs := by
      intro d
      rw [legs_setLeg]
      split
      · subst d
        exact hleg
      · exact h.legs d
    closes := by
      intro d
      rw [legs_setLeg]
      split
      · subst d
        exact hclose
      · exact h.closes d
    cache := h.cache.mono hmono
    retirements := h.retirements.mono hmono
    -- the one exception that `ConnsHeld` allows is this connection
    conns := by
      refine h.conns.establish (.inl rfl) (by omega) ?_
      intro d hne hd
      rwa [legs_setLeg, if_neg hne] at hd
    run := h.run.mono hmono (fun d _ => setLeg_same s c leg Leg.target htarget d) }

/-- The connection is cached for an address that has none. -/
theorem cacheConn (h : InvExcept me (some c) s) (hrank : s.cleanup.rank < 5)
    (hest : (s.legs c).established = true) (hnone : s.ecuConns.lookup target = none)
    (hidle : ∀ d, ¬ s.connects.Live d)
    (hstale : ∀ target replay r cancelled, s.run ≠ .retiringStale target replay r cancelled) :
    Inv me { s with ecuConns := OwnerTable.register s.ecuConns target c } :=
  -- the cache answers for it, and the exception is gone
  { h with
    cache :=
      { established := by
          intro target' d hd
          rw [OwnerTable.lookup_register] at hd
          split at hd
          · cases hd
            exact hest
          · exact h.cache.established target' d hd
        snapshot := h.cache.snapshot
        gone := by
          show 4 < s.cleanup.rank → _
          omega }
    conns := h.conns.cache hnone
    run :=
      { setup := fun d hd => absurd hd (hidle d)
        held := h.run.held
        stale := fun target replay r cancelled hp =>
          absurd hp (hstale target replay r cancelled) } }

theorem setupConnected (h : Inv me s) (hlive : s.connects.Live c) :
    Inv me (s.setupConnected c) := by
  have hl := h.legs c
  have hcl := h.closes c
  have hnot : s.connects c ≠ .unused := Tasks.Live.ne_unused hlive
  unfold Session.setupConnected
  dsimp only
  split
  -- closed meanwhile: the connection is closed as soon as it is there
  case isTrue =>
    refine InvExcept.closeEcuOnce (h.establish hlive ?_ ?_ rfl rfl) ?_
    · exact ⟨fun hs => absurd hs hnot, by simp, by simp, fun _ => rfl, fun _ => rfl⟩
    · exact ⟨fun _ => rfl, hcl.closed, hcl.calls⟩
    · rw [legs_setLeg, if_pos rfl]
  -- else it goes into the cache, which has no other for the address
  case isFalse hopen =>
    have hrank := h.rank_eq_zero hopen
    obtain ⟨⟨replay, cancelled, hrun⟩, hnone⟩ := h.run.setup c hlive
    -- in two steps: it is established, and its task ends
    have hest : InvExcept me (some c)
        (s.setLeg c { s.legs c with established := true, connected := true }) := by
      refine h.establish hlive ?_ ?_ rfl rfl
      · exact ⟨fun hs => absurd hs hnot, by simp, hl.created, fun _ => rfl, fun _ => rfl⟩
      · exact ⟨fun _ => rfl, hcl.closed, hcl.calls⟩
    have heq : (s.setLeg c { s.legs c with established := true, connected := true }).setupEnded c
          { s.legs c with established := true, connected := true } .conn
        = s.setupEnded c { s.legs c with established := true, connected := true } .conn := by
      simp only [Session.setupEnded, Session.setLeg, Function.update_idem]
    have hended : InvExcept me (some c)
        (s.setupEnded c { s.legs c with established := true, connected := true } .conn) := by
      rw [← heq]
      refine hest.setupEnded hlive ?_ ?_ (by rw [legs_setLeg, if_pos rfl])
      · exact ⟨by simp, by simp, hl.created, fun _ => rfl, fun _ => rfl⟩
      · exact ⟨fun _ => rfl, hcl.closed, hcl.calls⟩
    refine hended.cacheConn ?_ ?_ hnone ?_ ?_
    · show s.cleanup.rank < 5
      omega
    · show ((s.setLeg c _).legs c).established = true
      rw [legs_setLeg, if_pos rfl]
    · intro d hd
      obtain ⟨hne, hd⟩ := Tasks.live_settle.mp hd
      exact hne (h.live_unique hlive hd)
    · show ∀ target replay r cancelled, s.run ≠ .retiringStale target replay r cancelled
      simp [hrun]

/-- One step of `connect_owned`. -/
theorem setupStep {ev : Session.SetupEvent} (h : Inv me s)
    (hstep : s.setupStep c ev = some s') : Inv me s' := by
  have hl := h.legs c
  have hcl := h.closes c
  simp only [Session.setupStep] at hstep
  split at hstep
  case isFalse => cases hstep
  case isTrue hlive =>
    have hnot : s.connects c ≠ .unused := Tasks.Live.ne_unused hlive
    split at hstep
    -- cancelled before it ran, when nothing was opened, or it opens its socket
    case h_1 hsetup =>
      have hopened := hl.created hsetup
      split at hstep <;> cases hstep
      · refine h.setupEnded hlive ?_ ⟨hcl.established, hcl.closed, hcl.calls⟩ rfl
        exact ⟨by simp, fun ho => by simp [hopened] at ho, hl.created, hl.closing, by simp⟩
      · refine h.setLeg ?_ ⟨hcl.established, hcl.closed, hcl.calls⟩ rfl rfl
        exact ⟨fun hs => absurd hs hnot, fun _ _ => .inl hlive, by simp, by simp, hl.conn⟩
    case h_2 =>
      cases hstep
      exact h.setupConnected hlive
    case h_3 hsetup =>
      split at hstep <;> cases hstep
      refine h.setLeg ?_ ⟨hcl.established, hcl.closed, hcl.calls⟩ rfl rfl
      exact ⟨fun hs => absurd hs hnot, fun _ _ => .inl hlive, by simp, by simp, hl.conn⟩
    -- a failed set-up has closed what it had opened, whoever cancelled it
    case h_4 cancelled hsetup =>
      cases hstep
      refine h.setupEnded hlive ?_ ⟨hcl.established, fun _ => rfl, hcl.calls⟩ rfl
      refine ⟨by simp, fun _ _ => .inr rfl, hl.created, hl.closing, ?_⟩
      cases cancelled <;> simp
    -- a late close has ended
    case h_5 hsetup =>
      split at hstep <;> cases hstep
      refine h.setupEnded hlive ?_ ⟨hcl.established, hcl.closed, hcl.calls⟩ rfl
      refine ⟨by simp, ?_, hl.created, hl.closing, fun _ => hl.closing hsetup⟩
      intro _ hnest
      rw [hl.closing hsetup] at hnest
      cases hnest
    case h_6 => cases hstep

/-- `run` asks for a new connection. -/
theorem connectToEcu (h : Inv me s) (hidle : ∀ c, ¬ s.connects.Live c)
    (hnone : s.ecuConns.lookup target = none)
    (hstep : s.connectToEcu cfg target replay c = some s') : Inv me s' := by
  unfold Session.connectToEcu at hstep
  split at hstep
  -- closed, or without a route: back to the loop, with nothing created
  · cases hstep
    exact h.serve hidle
  · split at hstep
    · cases hstep
      exact h.serve hidle
    · split at hstep <;> cases hstep
      -- a new task, for a leg nobody has used
      rename_i hopen _ hunused
      have hfresh := (h.legs c).fresh hunused
      have hclose : s.closes c = .unused := by
        by_contra hused
        -- only an established connection is ever closed
        have := (h.closes c).established hused
        rw [hfresh.2] at this
        cases this
      have hsame := setLeg_same s c { target := target } Leg.established hfresh.2.symm
      have hmono := fun d (hd : (s.legs d).established = true) => (hsame d).trans hd
      exact { h with
        -- no clean-up has begun, so the task is held
        connects := h.connects.start (by rw [h.rank_eq_zero hopen]; decide)
        legs := by
          intro d
          show LegOk (s.connects.start c d) ((s.setLeg c _).legs d)
          rw [legs_setLeg]
          split
          · exact ⟨fun _ => ⟨rfl, rfl⟩, by simp, fun _ => rfl, by simp, by simp⟩
          · rw [Tasks.start_of_ne (by assumption)]
            exact h.legs d
        closes := by
          intro d
          show CloseOk (s.closes d) ((s.setLeg c _).legs d)
          rw [legs_setLeg]
          split
          · subst d
            rw [hclose]
            exact ⟨fun hne => absurd rfl hne, by simp, rfl⟩
          · exact h.closes d
        cache := h.cache.mono hmono
        retirements := h.retirements.mono hmono
        conns := h.conns.relabel (fun d hd => (hsame d).symm.trans hd)
        run :=
          -- `run` waits for this connect and for no other
          { setup := by
              intro d hd
              rcases Tasks.live_start.mp hd with rfl | hd
              · show (∃ replay' cancelled,
                    _ = Point.connecting ((s.setLeg d _).legs d).target _ _ _)
                  ∧ s.ecuConns.lookup ((s.setLeg d _).legs d).target = none
                rw [legs_setLeg, if_pos rfl]
                exact ⟨⟨replay, false, rfl⟩, hnone⟩
              · exact absurd hd (hidle d)
            held := by simp [Point.conn]
            stale := by simp } }

end InvExcept

/-! ## §3. `run`. -/

namespace InvExcept

variable {e : Option ConnId} {c : ConnId} {r t : Tid} {target : Target} {replay : Bool}

theorem useLeg (h : InvExcept me e s) (hidle : ∀ c, ¬ s.connects.Live c)
    (hest : (s.legs c).established = true) : InvExcept me e (s.useLeg target replay c) := by
  -- the exchange is with an established connection
  refine h.setRun hidle ?_ ?_
  · intro d hd
    split at hd
    · cases hd
    · split at hd
      · cases hd
      · cases hd
        exact hest
  · intro target' replay' r cancelled
    split
    · simp
    · split <;> simp

theorem diagnose {fresh : Nat} (h : Inv me s) (hidle : ∀ c, ¬ s.connects.Live c)
    (hstep : s.diagnose cfg target replay fresh = some s') : Inv me s' := by
  unfold Session.diagnose at hstep
  split at hstep
  -- `_closing` ends it before anything is created
  · cases hstep
    exact h
  · split at hstep
    -- a cached connection is used, or retired if it has dropped
    case h_1 c hcached =>
      have hest := h.cache.established target c hcached
      split at hstep
      -- the leg is live
      · cases hstep
        exact h.useLeg hidle hest
      -- room for a new one is made first
      · refine h.retireEcuConnection hidle hest rfl ?_ hstep
        intro target' replay' r' cancelled hp
        cases hp
        exact ⟨rfl, rfl, hcached⟩
    case h_2 hnone => exact h.connectToEcu hidle hnone hstep

theorem connectReturns {cancelled : Bool} (h : Inv me s) (hidle : ∀ c, ¬ s.connects.Live c)
    (hstep : s.connectReturns me target replay c cancelled = some s') : Inv me s' := by
  unfold Session.connectReturns at hstep
  -- the cancellation comes through when the connect has ended
  split at hstep
  · cases hstep
    exact h.leaveLoop hidle
  · split at hstep
    case h_1 hconn =>
      cases hstep
      exact h.useLeg hidle ((h.legs c).conn hconn)
    case h_2 =>
      cases hstep
      exact h.serve hidle
    case h_3 =>
      cases hstep
      exact h.serve hidle
    case h_4 =>
      cases hstep
      exact h.leaveLoop hidle
    case h_5 => cases hstep

/-- A read is started while the session is open, for an address that has
none. -/
theorem startRead (h : InvExcept me e s) (hopen : s.closing ≠ true)
    (hnone : s.ecuReads.lookup target = none) :
    InvExcept me e { s with
      reads := s.reads.start t
      ecuReads := OwnerTable.register s.ecuReads target (t, c) } := by
  -- an open session has not begun its clean-up
  have hrank := h.rank_eq_zero hopen
  exact { h with
    reads :=
      { covered := by
          refine h.reads.covered.start ?_ (.inl ⟨target, c, ?_⟩)
          -- the new entry is for an address that had none, so no other is lost
          · rintro u (⟨target', d, hu⟩ | hdrains)
            · refine .inl ⟨target', d, ?_⟩
              rw [OwnerTable.lookup_register, if_neg ?_]
              · exact hu
              · rintro rfl
                rw [hnone] at hu
                cases hu
            · exact .inr hdrains
          · rw [OwnerTable.lookup_register, if_pos rfl]
        snapshot := by
          show s.cleanup.rank = 4 → _
          omega
        gone := by
          show 4 < s.cleanup.rank → _
          omega } }

/-- A read that is done is forgotten. -/
theorem recvFinally (h : InvExcept me e s) : InvExcept me e (s.recvFinally target t) := by
  unfold Session.recvFinally
  split
  case h_1 t' owner hread =>
    split
    case isTrue hdone =>
      obtain ⟨hdone, rfl⟩ := hdone
      -- a done read leaves the table, and needs no cover any more
      have hsub : ∀ target' read,
          (OwnerTable.unregister s.ecuReads target (t', owner)).lookup target' = some read →
            s.ecuReads.lookup target' = some read := by
        intro target' read hu
        rw [OwnerTable.lookup_unregister] at hu
        split at hu
        · cases hu
        · exact hu
      exact { h with
        reads :=
          { covered := by
              refine h.reads.covered.mono (fun u hu hheld => hheld.imp_left ?_)
              rintro ⟨target', d, hd⟩
              refine ⟨target', d, ?_⟩
              rw [OwnerTable.lookup_unregister, if_neg ?_]
              · exact hd
              · rintro ⟨rfl, -⟩
                rw [hread] at hd
                cases hd
                exact Tasks.not_live_of_done hdone hu
            snapshot := fun hrank target' u d hu =>
              h.reads.snapshot hrank target' u d (hsub target' _ hu)
            gone := by
              intro hrank target'
              rw [OwnerTable.lookup_unregister, h.reads.gone hrank target', ite_self] } }
    case isFalse => exact h
  case h_2 => exact h

/-- What `_recv_ecu_frame` leaves alone. -/
theorem recvFinally_frame (s : Session) (target : Target) (t : Tid) :
    (s.recvFinally target t).connects = s.connects ∧ (s.recvFinally target t).legs = s.legs := by
  unfold Session.recvFinally
  split
  · split <;> exact ⟨rfl, rfl⟩
  · exact ⟨rfl, rfl⟩

theorem recvEcuFrame (h : Inv me s) (hidle : ∀ c, ¬ s.connects.Live c)
    (hest : (s.legs c).established = true)
    (hstep : s.recvEcuFrame target c t = some s') : Inv me s' := by
  have hheld : ∀ u d, (Point.receiving target c u).conn = some d →
      (s.legs d).established = true := by
    intro u d hd
    cases hd
    exact hest
  unfold Session.recvEcuFrame at hstep
  split at hstep
  · cases hstep
    exact h
  -- the read of an earlier wait goes on, or a new one is started
  · rename_i hopen
    split at hstep
    case h_1 =>
      split at hstep <;> cases hstep
      · exact h.setRun hidle (hheld _) (by simp)
      · exact h
    case h_2 hnone =>
      split at hstep <;> cases hstep
      exact (h.startRead hopen hnone).setRun hidle (hheld _) (by simp)

/-- A connect is asked to cancel while `run` goes on waiting for it. -/
theorem cancelConnect (h : InvExcept me e s) {cancelled : Bool}
    (hrun : s.run = .connecting target replay c cancelled) :
    InvExcept me e { s with
      connects := s.connects.cancel [c]
      run := .connecting target replay c true } :=
  { h with
    connects := h.connects.cancel
    legs := by
      intro d
      have hd := h.legs d
      -- a task that is asked to cancel is live as before
      refine ⟨fun hs => hd.fresh (Tasks.cancel_eq_unused.mp hs), fun ho hn => ?_, hd.created,
        hd.closing, hd.conn⟩
      exact (hd.settled ho hn).imp_left Tasks.live_cancel.mpr
    -- `run` waits for the same connect, and knows of the cancellation
    run :=
      { setup := by
          intro d hd
          obtain ⟨⟨replay', cancelled', hrun'⟩, hnone⟩ :=
            h.run.setup d (Tasks.live_cancel.mp hd)
          rw [hrun] at hrun'
          obtain ⟨htarget, -, rfl, -⟩ := Point.connecting.inj hrun'
          exact ⟨⟨replay, true, by rw [htarget]⟩, hnone⟩
        held := by simp [Point.conn]
        stale := by simp } }

theorem runCancelled (h : Inv me s) (hstep : s.runCancelled me r = some s') : Inv me s' := by
  unfold Session.runCancelled at hstep
  split at hstep
  case h_1 => cases hstep
  case h_2 => cases hstep
  case h_3 hrun =>
    cases hstep
    -- nothing is held: the loop is left at once
    exact h.leaveLoop (h.idle (by simp [hrun]))
  case h_4 hrun =>
    cases hstep
    exact h.leaveLoop (h.idle (by simp [hrun]))
  case h_5 target replay r' _ hrun =>
    cases hstep
    -- `run` goes on waiting for the retirement, and leaves then
    refine { h with run := ⟨fun d hd => absurd hd (h.idle (by simp [hrun]) d),
      by simp [Point.conn], ?_⟩ }
    intro target' replay' r'' cancelled hp
    cases hp
    exact h.run.stale _ _ _ _ hrun
  case h_6 hrun =>
    -- a second cancellation changes nothing; the first is handed to the connect
    split at hstep <;> cases hstep
    · exact h
    · exact h.cancelConnect hrun
  case h_7 target c hrun =>
    -- an exchange that is cancelled retires its leg before it raises
    refine h.retireEcuConnection (h.idle (by simp [hrun])) (h.run.held c ?_) rfl (by simp) hstep
    rw [hrun]
    rfl
  case h_8 target c t hrun =>
    -- and gives up its read before that
    have hidle := h.idle (by simp [hrun])
    have hest : (s.legs c).established = true := h.run.held c (by rw [hrun]; rfl)
    obtain ⟨hconnects, hlegs⟩ := recvFinally_frame s target t
    exact h.recvFinally.retireEcuConnection (hconnects ▸ hidle) (hlegs ▸ hest) rfl
      (by simp) hstep
  case h_9 hrun =>
    cases hstep
    exact h.setRun (h.idle (by simp [hrun])) (by simp [Point.conn]) (by simp)
  case h_10 =>
    cases hstep
    exact h

/-- One step of `run`. -/
theorem runStep {ev : Session.RunEvent} (h : Inv me s)
    (hstep : s.runStep cfg me ev = some s') : Inv me s' := by
  unfold Session.runStep at hstep
  split at hstep
  -- `run` is called
  case h_1 t hrun =>
    have hidle := h.idle (by simp [hrun])
    split at hstep
    · cases hstep
      exact h.leaveLoop hidle
    · rename_i hopen
      split at hstep <;> cases hstep
      unfold Session.startInitialTimer
      rw [if_neg hopen]
      exact { h.newTimer hopen t with run := (h.serve hidle).run }
  -- the handler of a Diagnostic Message
  case h_2 hrun => exact h.diagnose (h.idle (by simp [hrun])) hstep
  case h_3 hrun =>
    cases hstep
    exact h.leaveLoop (h.idle (by simp [hrun]))
  -- the retirement that made room has ended
  case h_4 target replay r cancelled fresh hrun =>
    have hidle := h.idle (by simp [hrun])
    split at hstep
    case isTrue hdone =>
      split at hstep
      · cases hstep
        exact h.leaveLoop hidle
      · refine h.connectToEcu hidle ?_ hstep
        -- one that is done is not the one that is only created
        refine (h.run.stale target replay r cancelled hrun).resolve_right ?_
        rintro ⟨c, hlive, -⟩
        exact Tasks.not_live_of_done hdone hlive
    case isFalse => cases hstep
  -- the connect has ended
  case h_5 target replay c cancelled hrun =>
    split at hstep
    case isTrue hdone =>
      refine h.connectReturns (h.idle ?_) hstep
      intro _ _ d _ hrun'
      rw [hrun] at hrun'
      exact (Point.connecting.inj hrun').2.2.1 ▸ hdone
    case isFalse => cases hstep
  case h_6 hrun =>
    cases hstep
    exact h.serve (h.idle (by simp [hrun]))
  case h_7 target c t hrun =>
    exact h.recvEcuFrame (h.idle (by simp [hrun])) (h.run.held c (by rw [hrun]; rfl)) hstep
  -- the exchange has ended
  case h_8 target c completed raising r hrun =>
    have hidle := h.idle (by simp [hrun])
    -- completed: the leg stays cached
    split at hstep
    · cases hstep
      exact h.serve hidle
    -- else it is retired
    · exact h.retireEcuConnection hidle (h.run.held c (by rw [hrun]; rfl)) rfl (by simp)
        hstep
  case h_9 target c t hrun =>
    cases hstep
    have hidle := h.idle (by simp [hrun])
    -- the wait for a frame is over
    have hest : (s.legs c).established = true := h.run.held c (by rw [hrun]; rfl)
    obtain ⟨hconnects, hlegs⟩ := recvFinally_frame s target t
    refine h.recvFinally.setRun (hconnects ▸ hidle) ?_ (by simp)
    intro d hd
    cases hd
    exact hlegs ▸ hest
  -- the retirement of the leg has ended
  case h_10 r raising _ hrun =>
    have hidle := h.idle (by simp [hrun])
    split at hstep
    · split at hstep <;> cases hstep
      · exact h.leaveLoop hidle
      · exact h.serve hidle
    · cases hstep
  -- the clean-up has ended
  case h_11 hrun =>
    split at hstep <;> cases hstep
    exact h.setRun (h.idle (by simp [hrun])) (by simp [Point.conn]) (by simp)
  case h_12 => exact h.runCancelled hstep
  case h_13 => cases hstep

end InvExcept

end DoipPlayground.EdgeNode.Teardown
