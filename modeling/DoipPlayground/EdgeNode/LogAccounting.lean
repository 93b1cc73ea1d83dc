/-
  DoipPlayground.EdgeNode.LogAccounting
  ─────────────────────────────────────
  **THE LEASE ACCOUNTING OF THE LOG SINKS, over every run.**

    • `buildMiddleware_holders` — a failed build leaves no holder behind, one
      that borrows none but its owner,
    • `build_fails_clean`, `Inv.borrows_only` — what that means for `_sinks`,
    • `Accounted` — the counts, the sinks and the handlers of one state,
    • `log_sinks_counted` — every run, state by state and step by step.
-/
import DoipPlayground.EdgeNode.LogMiddleware
import Mathlib.Data.List.Nodup

namespace DoipPlayground.EdgeNode.LogSinks

namespace World

/-! ## §1. What a build leaves behind. -/

/-- Apart from the owner in use, the owners are the same. -/
structure SameOwners (sinkOwner : Option Nat) (w w' : World) : Prop where
  without : sinkOwner = none → w'.owners = w.owners
  beside : ∀ o, sinkOwner = some o → w'.owners.eraseIdx o = w.owners.eraseIdx o

theorem SameOwners.refl (sinkOwner : Option Nat) (w : World) : SameOwners sinkOwner w w :=
  ⟨fun _ => rfl, fun _ _ => rfl⟩

theorem SameOwners.trans {sinkOwner : Option Nat} {w w' w'' : World}
    (h : SameOwners sinkOwner w w') (h' : SameOwners sinkOwner w' w'') :
    SameOwners sinkOwner w w'' :=
  ⟨fun hn => (h'.without hn).trans (h.without hn),
   fun o ho => (h'.beside o ho).trans (h.beside o ho)⟩

/-- A constructor makes one object, or none when it raises; a borrower has no
lease of its own. -/
theorem newMiddleware_shape (env : Env) (w : World) (params : LoggerParams)
    (sinkOwner : Option Nat) (openSink : Bool) :
    SameOwners sinkOwner w (w.newMiddleware env params sinkOwner openSink).1
      ∧ ((w.newMiddleware env params sinkOwner openSink).2 = none →
          (w.newMiddleware env params sinkOwner openSink).1.middlewares = w.middlewares)
      ∧ ∀ i, (w.newMiddleware env params sinkOwner openSink).2 = some i →
          i = w.middlewares.length ∧ ∃ mw,
            (w.newMiddleware env params sinkOwner openSink).1.middlewares = w.middlewares ++ [mw]
              ∧ (sinkOwner.isSome → mw.leases = []) := by
  have hrefl := SameOwners.refl sinkOwner w
  unfold World.newMiddleware
  split
  · rename_i logPath hexDump _ _
    split
    · exact ⟨hrefl, fun _ => rfl, by simp⟩
    · cases hp : env.fs.sinkPath logPath with
      | none => exact ⟨hrefl, fun _ => rfl, by simp⟩
      | some sinkPath =>
          dsimp only
          split
          · cases sinkOwner with
            | none =>
                dsimp only
                cases w.module.makeLogger env logPath with
                | mk m out =>
                    cases out with
                    | none => exact ⟨⟨fun _ => rfl, by simp⟩, fun _ => rfl, by simp⟩
                    | some lgr =>
                        refine ⟨⟨fun _ => rfl, by simp⟩, by simp, ?_⟩
                        rintro _ ⟨⟩
                        exact ⟨rfl, _, rfl, by simp⟩
            | some o =>
                dsimp only
                cases ho : w.owners[o]? with
                | none => exact ⟨hrefl, fun _ => rfl, by simp⟩
                | some owner =>
                    dsimp only
                    cases owner.acquire env w.module logPath with
                    | mk m rest =>
                        obtain ⟨owner', out⟩ := rest
                        have hset : ∀ o', some o = some o' →
                            (w.owners.set o owner').eraseIdx o' = w.owners.eraseIdx o' := by
                          rintro _ ⟨⟩
                          exact List.eraseIdx_set_eq
                        cases out with
                        | none => exact ⟨⟨by simp, hset⟩, fun _ => rfl, by simp⟩
                        | some lgr =>
                            refine ⟨⟨by simp, hset⟩, by simp, ?_⟩
                            rintro _ ⟨⟩
                            exact ⟨rfl, _, rfl, fun _ => by simp [LoggerMiddleware.leases]⟩
          · rename_i hclosed
            refine ⟨⟨fun _ => rfl, fun _ _ => rfl⟩, by simp, ?_⟩
            rintro _ ⟨⟩
            exact ⟨rfl, _, rfl, fun _ => by simp [LoggerMiddleware.leases]⟩
  · exact ⟨hrefl, fun _ => rfl, by simp⟩

theorem rollback_owners (w : World) (instances : List Nat) :
    (w.rollback instances).owners = w.owners := by
  induction instances generalizing w with
  | nil => rfl
  | cons i instances ih => exact (ih _).trans (closeMiddleware_owners w i)

/-- A rollback shuts the instances and nothing else. -/
theorem rollback_getElem? (w : World) (instances : List Nat) (j : Nat) :
    (w.rollback instances).middlewares[j]?
      = if j ∈ instances then (w.middlewares[j]?).map LoggerMiddleware.shut
        else w.middlewares[j]? := by
  induction instances generalizing w with
  | nil => simp [rollback]
  | cons i instances ih =>
      have hstep := closeMiddleware_getElem? w i j
      have hih := ih (w.closeMiddleware i)
      show ((w.closeMiddleware i).rollback instances).middlewares[j]? = _
      rw [hih, hstep]
      by_cases hi : j = i
      · subst hi
        rw [if_pos rfl, if_pos List.mem_cons_self]
        split
        · -- shut twice is shut once
          rw [Option.map_map]
          rfl
        · rfl
      · simp [hi]

/-- What the loop has done so far: `instances` are the objects it made. -/
structure Built (sinkOwner : Option Nat) (w₀ w : World) (instances : List Nat) : Prop where
  owners : SameOwners sinkOwner w₀ w
  made : ∃ made, w.middlewares = w₀.middlewares ++ made
    ∧ instances = List.range' w₀.middlewares.length made.length
    ∧ (sinkOwner.isSome → ∀ mw ∈ made, LoggerMiddleware.leases mw = [])

/-- A build that raises has shut what it made. -/
theorem Built.rollback {sinkOwner : Option Nat} {w₀ w : World} {instances : List Nat}
    (h : Built sinkOwner w₀ w instances) :
    SameOwners sinkOwner w₀ (w.rollback instances)
      ∧ (w.rollback instances).middlewares.flatMap LoggerMiddleware.leases
        = w₀.middlewares.flatMap LoggerMiddleware.leases := by
  obtain ⟨made, hgrown, hinstances, _⟩ := h.made
  refine ⟨⟨fun hn => ?_, fun o ho => ?_⟩, ?_⟩
  · rw [rollback_owners]
    exact h.owners.without hn
  · rw [rollback_owners]
    exact h.owners.beside o ho
  · have hshut : (w.rollback instances).middlewares
        = w₀.middlewares ++ made.map LoggerMiddleware.shut := by
      apply List.ext_getElem?
      intro j
      rw [rollback_getElem?, hgrown, hinstances]
      by_cases hj : j < w₀.middlewares.length
      · have hout : j ∉ List.range' w₀.middlewares.length made.length := by
          rw [List.mem_range'_1]
          omega
        rw [if_neg hout, List.getElem?_append_left hj, List.getElem?_append_left hj]
      · have hge : w₀.middlewares.length ≤ j := by omega
        rw [List.getElem?_append_right hge, List.getElem?_append_right hge, List.getElem?_map]
        split
        · rfl
        · rename_i hout
          rw [List.mem_range'_1] at hout
          rw [List.getElem?_eq_none (by omega)]
          rfl
    have hnone : (made.map LoggerMiddleware.shut).flatMap LoggerMiddleware.leases = [] := by
      rw [List.flatMap_eq_nil_iff]
      intro mw hmw
      obtain ⟨mw', _, rfl⟩ := List.mem_map.mp hmw
      exact mw'.leases_shut
    rw [hshut, List.flatMap_append, hnone, List.append_nil]

theorem Built.loop {sinkOwner : Option Nat} {w₀ : World} (items : List (Env × MiddlewareConfig)) :
    ∀ {w : World} {instances : List Nat}, Built sinkOwner w₀ w instances →
      SameOwners sinkOwner w₀ (w.buildLoop sinkOwner items instances).1
        ∧ ((w.buildLoop sinkOwner items instances).2 = none ∨ sinkOwner.isSome →
          (w.buildLoop sinkOwner items instances).1.middlewares.flatMap LoggerMiddleware.leases
            = w₀.middlewares.flatMap LoggerMiddleware.leases) := by
  induction items with
  | nil =>
      intro w instances h
      refine ⟨h.owners, ?_⟩
      rintro (hfail | hborrow)
      · simp [World.buildLoop] at hfail
      · -- a build that succeeds with an owner made borrowers only
        obtain ⟨made, hgrown, _, hborrowers⟩ := h.made
        have hnone : made.flatMap LoggerMiddleware.leases = [] :=
          List.flatMap_eq_nil_iff.mpr (hborrowers hborrow)
        show w.middlewares.flatMap LoggerMiddleware.leases = _
        rw [hgrown, List.flatMap_append, hnone, List.append_nil]
  | cons item items ih =>
      intro w instances h
      obtain ⟨env, mw⟩ := item
      unfold World.buildLoop
      split
      · exact ⟨h.rollback.1, fun _ => h.rollback.2⟩
      · split
        · obtain ⟨howners, hfail, hmade⟩ :=
            newMiddleware_shape env w mw.params sinkOwner mw.enabled
          obtain ⟨made, hgrown, hinstances, hborrowers⟩ := h.made
          cases hw : w.newMiddleware env mw.params sinkOwner mw.enabled with
          | mk w' out =>
              rw [hw] at howners hfail hmade
              have howners' : SameOwners sinkOwner w₀ w' := h.owners.trans howners
              cases out with
              | none =>
                  have hbuilt : Built sinkOwner w₀ w' instances :=
                    ⟨howners', made, (hfail rfl).trans hgrown, hinstances, hborrowers⟩
                  exact ⟨hbuilt.rollback.1, fun _ => hbuilt.rollback.2⟩
              | some i =>
                  obtain ⟨hi, obj, hobj, hborrower⟩ := hmade i rfl
                  have hbuilt : Built sinkOwner w₀ w' (instances ++ [i]) := by
                    refine ⟨howners', made ++ [obj], ?_, ?_, ?_⟩
                    · exact hobj.trans (by rw [hgrown, List.append_assoc])
                    · rw [hi, hgrown, hinstances, List.length_append, List.length_append,
                        List.length_singleton, List.range'_1_concat]
                    · intro hborrow mw' hmw'
                      rcases List.mem_append.mp hmw' with hmem | hmem
                      · exact hborrowers hborrow mw' hmem
                      · exact List.mem_singleton.mp hmem ▸ hborrower hborrow
                  exact ih hbuilt
        · split
          · exact ⟨h.rollback.1, fun _ => h.rollback.2⟩
          · exact ih h

/-- What a build does to the holders: a failed one makes none, and one that
borrows makes none but its owner. -/
theorem buildMiddleware_holders (w : World) (sinkOwner : Option Nat)
    (mwConfigs : List (Env × MiddlewareConfig)) :
    SameOwners sinkOwner w (w.buildMiddleware sinkOwner mwConfigs).1
      ∧ ((w.buildMiddleware sinkOwner mwConfigs).2 = none ∨ sinkOwner.isSome →
        (w.buildMiddleware sinkOwner mwConfigs).1.middlewares.flatMap LoggerMiddleware.leases
          = w.middlewares.flatMap LoggerMiddleware.leases) :=
  Built.loop mwConfigs ⟨SameOwners.refl sinkOwner w, [], by simp, by simp, by simp⟩

/-- **A failed build without an owner** leaves `_sinks` as it was. -/
theorem build_fails_clean {w : World} (h : w.Inv) (mwConfigs : List (Env × MiddlewareConfig))
    (hfail : (w.buildMiddleware none mwConfigs).2 = none) :
    (w.buildMiddleware none mwConfigs).1.module.sinks = w.module.sinks := by
  obtain ⟨howners, hholders⟩ := buildMiddleware_holders w none mwConfigs
  have hleases : (w.buildMiddleware none mwConfigs).1.leases = w.leases := by
    unfold World.leases
    rw [hholders (.inl hfail), howners.without rfl]
  have hinv : (w.buildMiddleware none mwConfigs).1.Inv := Inv.buildLoop mwConfigs h []
  have hserves := hinv.module.table
  rw [hleases] at hserves
  exact hserves.entry_eq h.module.table

/-! ## §2. Handlers stay on record. -/

theorem releaseLogger_opened (m : LoggerModule) (path : Path) (lgr : Nat) :
    (m.releaseLogger path lgr).opened = m.opened := by
  rw [LoggerModule.releaseLogger_eq]
  split
  · rw [LoggerModule.closeHandlers_eq]
  · rfl

theorem makeLogger_opened (env : Env) (m : LoggerModule) (logPath : String) :
    m.opened ⊆ (m.makeLogger env logPath).1.opened := by
  unfold LoggerModule.makeLogger
  split
  · exact List.Subset.refl _
  · split
    · exact List.Subset.refl _
    · dsimp only
      split
      · exact List.Subset.refl _
      · exact List.Subset.refl _
      · exact List.subset_append_left _ _
      · apply List.Subset.trans (List.subset_append_left _ _)
        exact List.subset_append_left _ _

theorem acquire_opened (env : Env) (m : LoggerModule) (o : LogSinkOwner) (logPath : String) :
    m.opened ⊆ (o.acquire env m logPath).1.opened := by
  unfold LogSinkOwner.acquire
  split
  · exact List.Subset.refl _
  · split
    · exact List.Subset.refl _
    · rename_i path _
      split
      · exact List.Subset.refl _
      · have hmake := makeLogger_opened env m path
        cases hmk : m.makeLogger env path with
        | mk m' out =>
            rw [hmk] at hmake
            cases out with
            | none => exact hmake
            | some lgr => exact hmake

theorem closeOwner_opened (m : LoggerModule) (o : LogSinkOwner) :
    (o.close m).1.opened = m.opened := by
  have hloop : ∀ (held : List (Path × Nat)) (m : LoggerModule),
      (held.foldl (fun m e => m.releaseLogger e.1 e.2) m).opened = m.opened := by
    intro held
    induction held with
    | nil => exact fun _ => rfl
    | cons e held ih =>
        intro m
        rw [List.foldl_cons, ih]
        exact releaseLogger_opened m e.1 e.2
  unfold LogSinkOwner.close
  split
  · rfl
  · exact hloop o.loggers m

theorem newMiddleware_opened (env : Env) (w : World) (params : LoggerParams)
    (sinkOwner : Option Nat) (openSink : Bool) :
    w.module.opened ⊆ (w.newMiddleware env params sinkOwner openSink).1.module.opened := by
  have hrefl := List.Subset.refl w.module.opened
  unfold World.newMiddleware
  split
  · rename_i logPath hexDump _ _
    split
    · exact hrefl
    · split
      · exact hrefl
      · dsimp only
        split
        · cases sinkOwner with
          | none =>
              have hmake := makeLogger_opened env w.module logPath
              cases hmk : w.module.makeLogger env logPath with
              | mk m out =>
                  rw [hmk] at hmake
                  cases out with
                  | none => simpa [hmk] using hmake
                  | some lgr => simpa [hmk] using hmake
          | some o =>
              cases ho : w.owners[o]? with
              | none => simp [ho]
              | some owner =>
                  have hacquire := acquire_opened env w.module owner logPath
                  cases hacq : owner.acquire env w.module logPath with
                  | mk m rest =>
                      obtain ⟨owner', out⟩ := rest
                      rw [hacq] at hacquire
                      cases out with
                      | none => simpa [ho, hacq] using hacquire
                      | some lgr => simpa [ho, hacq] using hacquire
        · exact hrefl
  · exact hrefl

theorem closeMiddleware_opened (w : World) (i : Nat) :
    (w.closeMiddleware i).module.opened = w.module.opened := by
  unfold closeMiddleware
  split
  · rfl
  · split
    · rfl
    · dsimp only
      split
      · exact releaseLogger_opened _ _ _
      · rfl

theorem rollback_opened (w : World) (instances : List Nat) :
    (w.rollback instances).module.opened = w.module.opened := by
  induction instances generalizing w with
  | nil => rfl
  | cons i instances ih => exact (ih _).trans (closeMiddleware_opened w i)

theorem buildLoop_opened (sinkOwner : Option Nat) (items : List (Env × MiddlewareConfig)) :
    ∀ (w : World) (instances : List Nat),
      w.module.opened ⊆ (w.buildLoop sinkOwner items instances).1.module.opened := by
  induction items with
  | nil => exact fun w _ => List.Subset.refl _
  | cons item items ih =>
      intro w instances
      obtain ⟨env, mw⟩ := item
      unfold World.buildLoop
      split
      · rw [rollback_opened]
        exact List.Subset.refl _
      · split
        · have hnew := newMiddleware_opened env w mw.params sinkOwner mw.enabled
          cases hw : w.newMiddleware env mw.params sinkOwner mw.enabled with
          | mk w' out =>
              rw [hw] at hnew
              cases out with
              | none =>
                  show _ ⊆ (w'.rollback instances).module.opened
                  rw [rollback_opened]
                  exact hnew
              | some i => exact List.Subset.trans hnew (ih w' (instances ++ [i]))
        · split
          · rw [rollback_opened]
            exact List.Subset.refl _
          · exact ih w instances

theorem step_opened {w w' : World} {e : Event} (hs : w.step e = some w') :
    w.module.opened ⊆ w'.module.opened := by
  cases step_cases hs with
  | newOwner => exact List.Subset.refl _
  | @acquired _ owner env logPath _ => exact acquire_opened env w.module owner logPath
  | @ownerClosed _ owner _ =>
      show _ ⊆ (owner.close w.module).1.opened
      rw [closeOwner_opened]
      exact List.Subset.refl _
  | constructed env params sinkOwner openSink =>
      exact newMiddleware_opened env w params sinkOwner openSink
  | closed i =>
      rw [closeMiddleware_opened]
      exact List.Subset.refl _
  | built sinkOwner mwConfigs => exact buildLoop_opened sinkOwner mwConfigs w []

/-! ## §3. Every run. -/

/-- The lease count stored for a path; none where there is no sink. -/
def references (w : World) (path : Path) : Nat := w.module.table.stored path

/-- The leases of one owner. -/
def ownerLeases (w : World) (o : Nat) : List (Path × Nat) :=
  match w.owners[o]? with
  | some owner => owner.leases
  | none => []

/-- One if the owner has a lease on the path. -/
def ownerLease (w : World) (o : Nat) (path : Path) : Nat :=
  match w.owners[o]? with
  | some owner => if owner.leasesOn path then 1 else 0
  | none => 0

theorem middleware_count (mw : LoggerMiddleware) (path : Path) :
    mw.leases.countP (fun e => e.1 = path) = if mw.leasesOn path then 1 else 0 := by
  unfold LoggerMiddleware.leases LoggerMiddleware.leasesOn
  cases mw.closed with
  | true => rfl
  | false =>
      cases mw.ownsSink with
      | false => rfl
      | true =>
          cases mw.logger with
          | none => rfl
          | some lgr =>
              by_cases hp : mw.sinkPath = path
              · simp [hp]
              · simp [hp]

/-- Its keys are unique: an owner has one lease at most on a path. -/
theorem owner_count {o : LogSinkOwner} (hkeys : (o.loggers.map Prod.fst).Nodup) (path : Path) :
    o.leases.countP (fun e => e.1 = path) = if o.leasesOn path then 1 else 0 := by
  unfold LogSinkOwner.leases LogSinkOwner.leasesOn
  cases o.closed with
  | true => rfl
  | false =>
      have hcount : o.loggers.countP (fun e => e.1 = path)
          = (o.loggers.map Prod.fst).count path := by
        rw [List.count, List.countP_map]
        apply List.countP_congr
        intro e _
        simp
      show o.loggers.countP (fun e => e.1 = path) = _
      rw [hcount]
      cases hl : o.loggers.lookup path with
      | none =>
          have hout : path ∉ o.loggers.map Prod.fst := by
            intro hmem
            obtain ⟨e, he, rfl⟩ := List.mem_map.mp hmem
            have := List.lookup_eq_none_iff.mp hl e he
            simp at this
          rw [List.count_eq_zero.mpr hout]
          rfl
      | some lgr =>
          have hin : path ∈ o.loggers.map Prod.fst := by
            by_contra hout
            have hnone : o.loggers.lookup path = none := by
              apply List.lookup_eq_none_iff.mpr
              intro e he
              have hne : path ≠ e.1 := by
                rintro rfl
                exact hout (List.mem_map.mpr ⟨e, he, rfl⟩)
              simpa using hne
            rw [hl] at hnone
            cases hnone
          rw [List.count_eq_one_of_mem hkeys hin]
          rfl

theorem ownerLeases_perm (w : World) (o : Nat) :
    w.leases.Perm (w.ownerLeases o ++ w.leasesBeside o) := by
  unfold ownerLeases
  cases ho : w.owners[o]? with
  | some owner => exact leases_perm_owner ho
  | none =>
      have hlen : w.owners.length ≤ o := List.getElem?_eq_none_iff.mp ho
      show w.leases.Perm (w.leasesBeside o)
      unfold leasesBeside
      rw [List.eraseIdx_of_length_le hlen]
      exact List.Perm.refl _

theorem Inv.ownerLease_eq {w : World} (h : w.Inv) (o : Nat) (path : Path) :
    w.ownerLease o path = (w.ownerLeases o).countP (fun e => e.1 = path) := by
  unfold ownerLease ownerLeases
  cases ho : w.owners[o]? with
  | none => rfl
  | some owner => exact (owner_count (h.keys owner (List.mem_of_getElem? ho)) path).symm

/-- The references of a path, split at one owner. -/
theorem Inv.references_eq {w : World} (h : w.Inv) (o : Nat) (path : Path) :
    w.references path
      = w.ownerLease o path + (w.leasesBeside o).countP (fun e => e.1 = path) := by
  show w.module.table.stored path = _
  rw [h.module.table.stored_eq, (ownerLeases_perm w o).countP_eq, List.countP_append,
    h.ownerLease_eq]

theorem borrows_beside {w w' : World} {e : Event} {o : Nat} (hb : Event.borrows o e)
    (hs : w.step e = some w') : w'.leasesBeside o = w.leasesBeside o := by
  cases step_cases hs with
  | built sinkOwner mwConfigs =>
      have hsome : sinkOwner = some o := hb
      obtain ⟨howners, hholders⟩ := buildMiddleware_holders w sinkOwner mwConfigs
      rw [leasesBeside, leasesBeside, hholders (.inr (by rw [hsome]; rfl)),
        howners.beside o hsome]
  | constructed env params sinkOwner openSink =>
      have hsome : sinkOwner = some o := hb
      obtain ⟨howners, hfail, hmade⟩ := newMiddleware_shape env w params sinkOwner openSink
      rw [leasesBeside, leasesBeside, howners.beside o hsome]
      cases hout : (w.newMiddleware env params sinkOwner openSink).2 with
      | none => rw [hfail hout]
      | some i =>
          obtain ⟨_, mw, hgrown, hborrower⟩ := hmade i hout
          rw [hgrown, List.flatMap_append, List.flatMap_singleton,
            hborrower (by rw [hsome]; rfl), List.append_nil]
  -- no other event borrows
  | newOwner => exact hb.elim
  | acquired _ _ _ => exact hb.elim
  | ownerClosed _ => exact hb.elim
  | closed _ => exact hb.elim

/-- **Borrowing** changes the count of a path by the owner's lease only. -/
theorem Inv.borrows_only {w w' : World} {e : Event} {o : Nat} (h : w.Inv)
    (hb : Event.borrows o e) (hs : w.step e = some w') (path : Path) :
    w'.references path + w.ownerLease o path = w.references path + w'.ownerLease o path := by
  rw [h.references_eq o, (h.step hs).references_eq o, borrows_beside hb hs]
  omega

theorem inv_of_run {es : List Event} {w : World}
    (hrun : Transition.exec step init es = some w) : w.Inv :=
  Transition.exec_invariant Inv (fun _ _ _ h hs => h.step hs) es _ _ inv_init hrun

/-- The accounting of one state. -/
structure Accounted (w : World) : Prop where
  /-- A path has one reference for each open standalone logger of it and one
  for each open owner that acquired it. -/
  counted : ∀ path, w.references path
    = w.middlewares.countP (fun mw => mw.leasesOn path)
      + w.owners.countP (fun o => o.leasesOn path)
  /-- There is a sink exactly while there are references. -/
  sink_iff : ∀ path, (w.module.sinks path).isSome ↔ 0 < w.references path
  /-- A lease is on the sink of its path, whose handlers are in place. -/
  leased : ∀ e ∈ w.leases, w.module.sinks e.1 = some (e.2, w.references e.1)
    ∧ w.module.handlers e.2 = LoggerModule.sinkHandlers e.2
  /-- A handler is closed exactly when its logger has no lease. -/
  closed_iff : ∀ h ∈ w.module.opened, h ∈ w.module.closed ↔ ∀ path, (path, h.logger) ∉ w.leases
  /-- No handler is closed twice. -/
  once : w.module.closed.Nodup

theorem Inv.accounted {w : World} (h : w.Inv) : w.Accounted where
  counted := by
    intro path
    show w.module.table.stored path = _
    rw [h.module.table.stored_eq, World.leases, List.countP_append]
    congr 1
    · exact Leases.countP_flatMap_eq fun mw _ => middleware_count mw path
    · exact Leases.countP_flatMap_eq fun o ho => owner_count (h.keys o ho) path
  sink_iff := by
    intro path
    show _ ↔ 0 < w.module.table.stored path
    rw [h.module.table.stored_eq, List.countP_pos_iff]
    have hentry := h.module.table.entry_iff path
    constructor
    · intro hsome
      obtain ⟨lgr, hlgr⟩ := hentry.mp hsome
      exact ⟨_, hlgr, by simp⟩
    · rintro ⟨e, he, hep⟩
      have hkey : e.1 = path := by simpa using hep
      exact hentry.mpr ⟨e.2, hkey ▸ he⟩
  leased := by
    intro e he
    obtain ⟨n, hn⟩ := h.module.table.leased e.1 e.2 he
    have hsink : w.module.sinks e.1 = some (e.2, n) := hn
    have hstored : w.references e.1 = n := by
      show w.module.table.stored e.1 = n
      simp only [Leases.Table.stored, hn]
    exact ⟨hstored ▸ hsink, h.module.attached e.2 ⟨e.1, he⟩⟩
  closed_iff := by
    intro x hx
    rw [h.module.closed_iff x hx]
    exact not_exists
  once := h.module.once

/-- **The lease accounting**, over every run of constructions, closes,
acquires and builds that may fail anywhere: the counts are exact, a handler
is closed by the step that ends the last lease on it, a failed build of
standalone loggers leaves `_sinks` as it was, borrowing changes a count by
the owner's own lease, and a release without a lease changes nothing. -/
theorem log_sinks_counted {es : List Event} {w : World}
    (hrun : Transition.exec step init es = some w) :
    w.Accounted
      ∧ (∀ e w', w.step e = some w' → ∀ x ∈ w.module.opened,
          (x ∉ w.module.closed ∧ x ∈ w'.module.closed
            ↔ (∃ path, (path, x.logger) ∈ w.leases) ∧ ∀ path, (path, x.logger) ∉ w'.leases))
      ∧ (∀ mwConfigs, (w.buildMiddleware none mwConfigs).2 = none →
          (w.buildMiddleware none mwConfigs).1.module.sinks = w.module.sinks)
      ∧ (∀ o e w', Event.borrows o e → w.step e = some w' → ∀ path,
          w'.references path + w.ownerLease o path = w.references path + w'.ownerLease o path)
      ∧ ∀ path lgr, (path, lgr) ∉ w.leases → w.module.releaseLogger path lgr = w.module := by
  have hinv := inv_of_run hrun
  refine ⟨hinv.accounted, ?_, fun mwConfigs => build_fails_clean hinv mwConfigs,
    fun o e w' hb hs path => hinv.borrows_only hb hs path,
    fun path lgr hstale => hinv.module.release_stale hstale⟩
  intro e w' hs x hx
  rw [hinv.accounted.closed_iff x hx,
    (hinv.step hs).accounted.closed_iff x (step_opened hs hx), not_forall_not]

/-- Absolute paths in a file system without links. -/
def plainPaths : Env := ⟨⟨some, fun _ _ _ => rfl⟩, .ready⟩

/-- A server and a standalone logger share a file; a build that fails on its
second entry comes between, and both close. -/
def sharedFile : List Event :=
  let params : LoggerParams := ⟨some "/var/log/doip.log", some true⟩
  let mw : Env × MiddlewareConfig := (plainPaths, ⟨"LoggerMiddleware", true, params, false⟩)
  let unknown : Env × MiddlewareConfig := (plainPaths, ⟨"NoSuchMiddleware", true, params, false⟩)
  [.newOwner, .build (some 0) [mw], .construct plainPaths params none true,
   .build none [mw, unknown], .closeOwner 0, .close 1]

theorem log_sinks_counted_sharedFile :
    ∃ w, Transition.exec step init sharedFile = some w ∧ w.Accounted := by
  have hsome : (Transition.exec step init sharedFile).isSome = true := by decide
  obtain ⟨w, hw⟩ := Option.isSome_iff_exists.mp hsome
  exact ⟨w, hw, (log_sinks_counted hw).1⟩

end World

end DoipPlayground.EdgeNode.LogSinks
