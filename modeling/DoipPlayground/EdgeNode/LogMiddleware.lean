/-
  DoipPlayground.EdgeNode.LogMiddleware
  ─────────────────────────────────────
  **WHO HOLDS THE LEASES: `LoggerMiddleware`, `LogSinkOwner`** and
  `_build_middleware` of `server.py`.

  Every standalone `LoggerMiddleware` that opened a sink has a lease on it,
  and so has every `LogSinkOwner` that acquired it.  Session middleware
  borrows from the owner of its server and counts for nothing.

    • `World` — the module with every owner and middleware made so far,
    • `World.Inv` — their leases are the ones the module serves,
    • `Inv.step` — every operation keeps that, builds that fail included.
-/
import DoipPlayground.EdgeNode.LogSinks
import DoipPlayground.Lib.Run

namespace DoipPlayground.EdgeNode.LogSinks

/-! ## §1. Owners and middlewares. -/

/-- `LogSinkOwner`, with `_loggers` in the order of insertion. -/
structure LogSinkOwner where
  loggers : List (Path × Nat)
  closed : Bool
  deriving DecidableEq, Repr

namespace LogSinkOwner

def new : LogSinkOwner := ⟨[], false⟩

/-- `acquire`; `none` when it raises. -/
def acquire (env : Env) (m : LoggerModule) (o : LogSinkOwner) (logPath : String) :
    LoggerModule × LogSinkOwner × Option Nat :=
  if o.closed then (m, o, none)
  else
    match env.fs.sinkPath logPath with
    | none => (m, o, none)
    | some path =>
        match o.loggers.lookup path with
        | some lgr => (m, o, some lgr)
        | none =>
            match m.makeLogger env path with
            | (m, none) => (m, o, none)
            | (m, some lgr) => (m, { o with loggers := o.loggers ++ [(path, lgr)] }, some lgr)

/-- `close`, which takes the dictionary before it releases. -/
def close (m : LoggerModule) (o : LogSinkOwner) : LoggerModule × LogSinkOwner :=
  if o.closed then (m, o)
  else (o.loggers.foldl (fun m e => m.releaseLogger e.1 e.2) m, ⟨[], true⟩)

/-- The leases of an owner: one for each path while it is open. -/
def leases (o : LogSinkOwner) : List (Path × Nat) := if o.closed then [] else o.loggers

/-- The owner has a lease on the path. -/
def leasesOn (o : LogSinkOwner) (path : Path) : Bool :=
  !o.closed && (o.loggers.lookup path).isSome

end LogSinkOwner

/-- `LoggerMiddleware` -/
structure LoggerMiddleware where
  logPath : String
  hexDump : Bool
  closed : Bool
  ownsSink : Bool
  sinkPath : Path
  logger : Option Nat
  deriving DecidableEq, Repr

namespace LoggerMiddleware

/-- The lease of a standalone logger while it is open. -/
def leases (mw : LoggerMiddleware) : List (Path × Nat) :=
  match mw.closed, mw.ownsSink, mw.logger with
  | false, true, some lgr => [(mw.sinkPath, lgr)]
  | _, _, _ => []

/-- The middleware is an open standalone logger of the path. -/
def leasesOn (mw : LoggerMiddleware) (path : Path) : Bool :=
  !mw.closed && mw.ownsSink && mw.logger.isSome && mw.sinkPath == path

/-- What a closed middleware becomes. -/
def shut (mw : LoggerMiddleware) : LoggerMiddleware := { mw with closed := true }

theorem leases_shut (mw : LoggerMiddleware) : mw.shut.leases = [] := by
  unfold shut leases
  split
  · rename_i hfalse _ _
    cases hfalse
  · rfl

end LoggerMiddleware

/-- The parameters of a `LoggerMiddleware`; `none` is a value of another type. -/
structure LoggerParams where
  logPath : Option String
  hexDump : Option Bool
  deriving DecidableEq, Repr

/-- `MiddlewareConfig`.  The parameters of the other classes are not modelled:
`raises` says whether the constructor refuses them. -/
structure MiddlewareConfig where
  type : String
  enabled : Bool
  params : LoggerParams
  raises : Bool
  deriving DecidableEq, Repr

/-- The names in `_CLASS_MAP`. -/
def classMap : List String :=
  ["LoggerMiddleware", "DropMiddleware", "DelayMiddleware", "CorruptMiddleware",
   "ReplayMiddleware", "AddressMiddleware", "HeaderFaultMiddleware", "TLSFaultMiddleware"]

/-! ## §2. The process. -/

/-- The module with the objects made so far, in the order of their making. -/
structure World where
  module : LoggerModule
  owners : List LogSinkOwner
  middlewares : List LoggerMiddleware

namespace World

def init : World := ⟨.init, [], []⟩

/-- `LoggerMiddleware(...)`: the new object, `none` when the constructor raises. -/
def newMiddleware (env : Env) (w : World) (params : LoggerParams) (sinkOwner : Option Nat)
    (openSink : Bool) : World × Option Nat :=
  match params.logPath, params.hexDump with
  | some logPath, some hexDump =>
      if (Python.strip logPath.toList).isEmpty then (w, none)
      else
        match env.fs.sinkPath logPath with
        | none => (w, none)
        | some sinkPath =>
            let mw : LoggerMiddleware :=
              { logPath, hexDump, closed := false, ownsSink := openSink && sinkOwner.isNone,
                sinkPath, logger := none }
            if openSink then
              match sinkOwner with
              | none =>
                  match w.module.makeLogger env logPath with
                  | (m, none) => ({ w with module := m }, none)
                  | (m, some lgr) =>
                      ({ w with module := m,
                                middlewares := w.middlewares ++ [{ mw with logger := some lgr }] },
                       some w.middlewares.length)
              | some o =>
                  match w.owners[o]? with
                  | none => (w, none)
                  | some owner =>
                      match owner.acquire env w.module logPath with
                      | (m, owner, none) =>
                          ({ w with module := m, owners := w.owners.set o owner }, none)
                      | (m, owner, some lgr) =>
                          ({ module := m, owners := w.owners.set o owner,
                             middlewares := w.middlewares ++ [{ mw with logger := some lgr }] },
                           some w.middlewares.length)
            else
              ({ w with middlewares := w.middlewares ++ [mw] }, some w.middlewares.length)
  | _, _ => (w, none)

/-- `LoggerMiddleware.close` -/
def closeMiddleware (w : World) (i : Nat) : World :=
  match w.middlewares[i]? with
  | none => w
  | some mw =>
      if mw.closed then w
      else
        let w := { w with middlewares := w.middlewares.set i { mw with closed := true } }
        match mw.ownsSink, mw.logger with
        | true, some lgr => { w with module := w.module.releaseLogger mw.sinkPath lgr }
        | _, _ => w

/-- The `except` of `_build_middleware`. -/
def rollback (w : World) (instances : List Nat) : World := instances.foldl closeMiddleware w

/-- The loop of `_build_middleware`; `none` when it raises.  `instances` lists
the logger middlewares only: nobody asks for the others. -/
def buildLoop (sinkOwner : Option Nat) (w : World) :
    List (Env × MiddlewareConfig) → List Nat → World × Option (List Nat)
  | [], instances => (w, some instances)
  | (env, mw) :: rest, instances =>
      if mw.type ∉ classMap then (w.rollback instances, none)
      else if mw.type = "LoggerMiddleware" then
        match w.newMiddleware env mw.params sinkOwner mw.enabled with
        | (w, none) => (w.rollback instances, none)
        | (w, some i) => w.buildLoop sinkOwner rest (instances ++ [i])
      else if mw.raises then (w.rollback instances, none)
      else w.buildLoop sinkOwner rest instances

/-- `_build_middleware` -/
def buildMiddleware (w : World) (sinkOwner : Option Nat)
    (mwConfigs : List (Env × MiddlewareConfig)) : World × Option (List Nat) :=
  w.buildLoop sinkOwner mwConfigs []

end World

/-- What the program can do with sinks. -/
inductive Event where
  | newOwner
  | acquire (env : Env) (owner : Nat) (logPath : String)
  | closeOwner (owner : Nat)
  | construct (env : Env) (params : LoggerParams) (sinkOwner : Option Nat) (openSink : Bool)
  | close (middleware : Nat)
  | build (sinkOwner : Option Nat) (mwConfigs : List (Env × MiddlewareConfig))

/-- What a session or a server makes with the sinks of an owner. -/
def Event.borrows (o : Nat) : Event → Prop
  | .build sinkOwner _ => sinkOwner = some o
  | .construct _ _ sinkOwner _ => sinkOwner = some o
  | _ => False

namespace World

/-- An event about an object that was not made is none. -/
def step (w : World) : Event → Option World
  | .newOwner => some { w with owners := w.owners ++ [.new] }
  | .acquire env o logPath =>
      match w.owners[o]? with
      | none => none
      | some owner =>
          let (m, owner, _) := owner.acquire env w.module logPath
          some { w with module := m, owners := w.owners.set o owner }
  | .closeOwner o =>
      match w.owners[o]? with
      | none => none
      | some owner =>
          let (m, owner) := owner.close w.module
          some { w with module := m, owners := w.owners.set o owner }
  | .construct env params sinkOwner openSink =>
      some (w.newMiddleware env params sinkOwner openSink).1
  | .close i => some (w.closeMiddleware i)
  | .build sinkOwner mwConfigs => some (w.buildMiddleware sinkOwner mwConfigs).1

/-! ## §3. The objects hold the leases. -/

/-- Every lease that is out. -/
def leases (w : World) : List (Path × Nat) :=
  w.middlewares.flatMap LoggerMiddleware.leases ++ w.owners.flatMap LogSinkOwner.leases

/-- The leases of everybody but one owner. -/
def leasesBeside (w : World) (o : Nat) : List (Path × Nat) :=
  w.middlewares.flatMap LoggerMiddleware.leases
    ++ (w.owners.eraseIdx o).flatMap LogSinkOwner.leases

structure Inv (w : World) : Prop where
  module : w.module.Inv w.leases
  /-- An owner has one lease at most on a path. -/
  keys : ∀ o ∈ w.owners, (o.loggers.map Prod.fst).Nodup

theorem inv_init : init.Inv where
  module := LoggerModule.inv_init
  keys := by simp [init]

theorem leases_perm_owner {w : World} {o : Nat} {owner : LogSinkOwner}
    (h : w.owners[o]? = some owner) : w.leases.Perm (owner.leases ++ w.leasesBeside o) := by
  have hperm := (Leases.flatMap_perm (f := LogSinkOwner.leases) h).append_left
    (w.middlewares.flatMap LoggerMiddleware.leases)
  exact hperm.trans (List.perm_append_comm_assoc _ _ _)

theorem leases_set_owner {w : World} {o : Nat} {owner : LogSinkOwner}
    (h : w.owners[o]? = some owner) (m : LoggerModule) (owner' : LogSinkOwner) :
    ({ w with module := m, owners := w.owners.set o owner' } : World).leases.Perm
      (owner'.leases ++ w.leasesBeside o) := by
  have hperm := (Leases.flatMap_set_perm (f := LogSinkOwner.leases) h owner').append_left
    (w.middlewares.flatMap LoggerMiddleware.leases)
  exact hperm.trans (List.perm_append_comm_assoc _ _ _)

/-- One owner changes, with the module. -/
theorem Inv.setOwner {w : World} (h : w.Inv) {o : Nat} {owner owner' : LogSinkOwner}
    {m : LoggerModule} (ho : w.owners[o]? = some owner)
    (hm : m.Inv (owner'.leases ++ w.leasesBeside o))
    (hkeys : (owner'.loggers.map Prod.fst).Nodup) :
    ({ w with module := m, owners := w.owners.set o owner' } : World).Inv where
  module := hm.perm (leases_set_owner ho m owner').symm
  keys := by
    intro o' ho'
    rcases List.mem_or_eq_of_mem_set ho' with hmem | rfl
    · exact h.keys o' hmem
    · exact hkeys

/-- An owner acquires: nothing, or one lease on a path it had none on. -/
theorem acquire_inv {m : LoggerModule} {o : LogSinkOwner} {rest : List (Path × Nat)}
    (h : m.Inv (o.leases ++ rest)) (hkeys : (o.loggers.map Prod.fst).Nodup) (env : Env)
    (logPath : String) :
    (o.acquire env m logPath).1.Inv ((o.acquire env m logPath).2.1.leases ++ rest)
      ∧ ((o.acquire env m logPath).2.1.loggers.map Prod.fst).Nodup := by
  unfold LogSinkOwner.acquire
  split
  · exact ⟨h, hkeys⟩
  · rename_i hopen
    cases hp : env.fs.sinkPath logPath with
    | none => exact ⟨h, hkeys⟩
    | some path =>
        dsimp only
        cases hl : o.loggers.lookup path with
        | some lgr => exact ⟨h, hkeys⟩
        | none =>
            dsimp only
            obtain ⟨hfail, hmade⟩ := LoggerModule.makeLogger_inv env h path
            cases hmk : m.makeLogger env path with
            | mk m' out =>
                rw [hmk] at hfail hmade
                cases out with
                | none => exact ⟨hfail rfl, hkeys⟩
                | some lgr =>
                    obtain ⟨path', hpath', hinv⟩ := hmade lgr rfl
                    -- the canonical path of a canonical path
                    rw [env.fs.canonical _ _ hp, Option.some.injEq] at hpath'
                    subst hpath'
                    refine ⟨hinv.perm ?_, ?_⟩
                    · simp only [LogSinkOwner.leases, hopen]
                      show ((path, lgr) :: (o.loggers ++ rest)).Perm
                        (o.loggers ++ [(path, lgr)] ++ rest)
                      rw [List.append_assoc]
                      exact (List.perm_middle).symm
                    · rw [List.map_append, List.nodup_append]
                      refine ⟨hkeys, by simp, ?_⟩
                      rintro a ha b hb rfl
                      rw [List.map_cons, List.map_nil, List.mem_singleton] at hb
                      obtain ⟨e, he, rfl⟩ := List.mem_map.mp ha
                      have := List.lookup_eq_none_iff.mp hl e he
                      rw [hb] at this
                      simp at this

/-- The loop of `LogSinkOwner.close` gives back what it runs over. -/
theorem releaseAll_inv {rest : List (Path × Nat)} (held : List (Path × Nat)) :
    ∀ {m : LoggerModule}, m.Inv (held ++ rest) →
      (held.foldl (fun m e => m.releaseLogger e.1 e.2) m).Inv rest := by
  induction held with
  | nil => exact fun h => h
  | cons e held ih =>
      intro m h
      rw [List.foldl_cons]
      apply ih
      have hrelease := LoggerModule.releaseLogger_inv h (List.mem_cons_self (a := e))
      rwa [List.cons_append, List.erase_cons_head] at hrelease

theorem closeOwner_inv {m : LoggerModule} {o : LogSinkOwner} {rest : List (Path × Nat)}
    (h : m.Inv (o.leases ++ rest)) :
    (o.close m).1.Inv ((o.close m).2.leases ++ rest)
      ∧ ((o.loggers.map Prod.fst).Nodup → ((o.close m).2.loggers.map Prod.fst).Nodup) := by
  unfold LogSinkOwner.close
  split
  · exact ⟨h, id⟩
  · rename_i hopen
    refine ⟨?_, fun _ => List.nodup_nil⟩
    have hheld : o.leases = o.loggers := by simp [LogSinkOwner.leases, hopen]
    rw [hheld] at h
    exact releaseAll_inv o.loggers h

/-! ## §4. Every operation keeps the accounting. -/

/-- A new middleware is appended with the leases it has. -/
theorem inv_append {w : World} {m : LoggerModule} {owners : List LogSinkOwner}
    (mw : LoggerMiddleware)
    (hm : m.Inv (mw.leases ++ (⟨m, owners, w.middlewares⟩ : World).leases))
    (hkeys : ∀ o ∈ owners, (o.loggers.map Prod.fst).Nodup) :
    (⟨m, owners, w.middlewares ++ [mw]⟩ : World).Inv where
  module := by
    apply hm.perm
    show (mw.leases ++ (w.middlewares.flatMap LoggerMiddleware.leases
        ++ owners.flatMap LogSinkOwner.leases)).Perm
      ((w.middlewares ++ [mw]).flatMap LoggerMiddleware.leases
        ++ owners.flatMap LogSinkOwner.leases)
    rw [List.flatMap_append, List.flatMap_singleton, ← List.append_assoc]
    exact (List.perm_append_comm).append_right _
  keys := hkeys

theorem Inv.newMiddleware {w : World} (h : w.Inv) (env : Env) (params : LoggerParams)
    (sinkOwner : Option Nat) (openSink : Bool) :
    (w.newMiddleware env params sinkOwner openSink).1.Inv := by
  unfold World.newMiddleware
  split
  · rename_i logPath hexDump _ _
    split
    · exact h
    · cases hp : env.fs.sinkPath logPath with
      | none => exact h
      | some sinkPath =>
          dsimp only
          split
          · rename_i hopen
            cases sinkOwner with
            | none =>
                dsimp only
                obtain ⟨hfail, hmade⟩ := LoggerModule.makeLogger_inv env h.module logPath
                cases hmk : w.module.makeLogger env logPath with
                | mk m out =>
                    rw [hmk] at hfail hmade
                    cases out with
                    | none => exact ⟨hfail rfl, h.keys⟩
                    | some lgr =>
                        obtain ⟨path, hpath, hinv⟩ := hmade lgr rfl
                        rw [hp, Option.some.injEq] at hpath
                        subst hpath
                        apply inv_append _ _ h.keys
                        show m.Inv (_ ++ w.leases)
                        simpa [LoggerMiddleware.leases, hopen] using hinv
            | some o =>
                -- with an owner the lease is the owner's, and the middleware only borrows it
                dsimp only
                cases ho : w.owners[o]? with
                | none => exact h
                | some owner =>
                    dsimp only
                    have howner : owner ∈ w.owners := List.mem_of_getElem? ho
                    obtain ⟨hinv, hkeys⟩ := acquire_inv (h.module.perm (leases_perm_owner ho))
                      (h.keys owner howner) env logPath
                    have hset := h.setOwner ho hinv hkeys
                    cases hacq : owner.acquire env w.module logPath with
                    | mk m rest =>
                        obtain ⟨owner', out⟩ := rest
                        rw [hacq] at hset
                        cases out with
                        | none => exact hset
                        | some lgr =>
                            apply inv_append _ _ hset.keys
                            simpa [LoggerMiddleware.leases] using hset.module
          · rename_i hclosed
            apply inv_append _ _ h.keys
            simpa [LoggerMiddleware.leases, hclosed] using h.module
  · exact h

theorem closeMiddleware_owners (w : World) (i : Nat) :
    (w.closeMiddleware i).owners = w.owners := by
  unfold closeMiddleware
  split
  · rfl
  · split
    · rfl
    · dsimp only
      split
      · rfl
      · rfl

/-- Closing shuts one object and moves none. -/
theorem closeMiddleware_getElem? (w : World) (i j : Nat) :
    (w.closeMiddleware i).middlewares[j]?
      = if j = i then (w.middlewares[j]?).map LoggerMiddleware.shut else w.middlewares[j]? := by
  unfold closeMiddleware
  cases hi : w.middlewares[i]? with
  | none =>
      dsimp only
      split
      · rename_i hji
        rw [hji, hi]
        rfl
      · rfl
  | some mw =>
      dsimp only
      split
      · rename_i hclosed
        split
        · rename_i hji
          have hshut : mw.shut = mw := by
            cases mw
            simp only at hclosed
            simp [LoggerMiddleware.shut, hclosed]
          rw [hji, hi, Option.map_some, hshut]
        · rfl
      · have hset : (w.middlewares.set i { mw with closed := true })[j]?
            = if j = i then (w.middlewares[j]?).map LoggerMiddleware.shut
              else w.middlewares[j]? := by
          rw [List.getElem?_set]
          by_cases hji : j = i
          · have hlt : i < w.middlewares.length := (List.getElem?_eq_some_iff.mp hi).1
            rw [if_pos hji.symm, if_pos hlt, if_pos hji, hji, hi]
            rfl
          · rw [if_neg (Ne.symm hji), if_neg hji]
        split
        · exact hset
        · exact hset

theorem Inv.closeMiddleware {w : World} (h : w.Inv) (i : Nat) : (w.closeMiddleware i).Inv := by
  refine ⟨?_, fun o ho => h.keys o (closeMiddleware_owners w i ▸ ho)⟩
  unfold World.closeMiddleware
  cases hi : w.middlewares[i]? with
  | none => exact h.module
  | some mw =>
      dsimp only
      split
      · exact h.module
      · rename_i hopen
        -- the leases without those of `mw`, which it loses by closing
        have hbefore := (Leases.flatMap_perm (f := LoggerMiddleware.leases) hi).append_right
          (w.owners.flatMap LogSinkOwner.leases)
        have hafter := (Leases.flatMap_set_perm (f := LoggerMiddleware.leases) hi
          mw.shut).append_right (w.owners.flatMap LogSinkOwner.leases)
        rw [LoggerMiddleware.leases_shut, List.nil_append] at hafter
        rw [List.append_assoc] at hbefore
        have hinv := h.module.perm hbefore
        split
        · rename_i lgr hlogger howns
          have hone : mw.leases = [(mw.sinkPath, lgr)] := by
            have hopen' : mw.closed = false := Bool.not_eq_true _ ▸ hopen
            simp only [LoggerMiddleware.leases, hopen', hlogger, howns]
          rw [hone] at hinv
          have hrelease := LoggerModule.releaseLogger_inv hinv List.mem_cons_self
          rw [List.cons_append, List.erase_cons_head] at hrelease
          exact hrelease.perm hafter.symm
        · rename_i hnot
          have hnone : mw.leases = [] := by
            unfold LoggerMiddleware.leases
            split
            · rename_i hlogger howns
              exact absurd howns (hnot _ hlogger)
            · rfl
          rw [hnone] at hinv
          exact hinv.perm hafter.symm

theorem Inv.rollback {w : World} (h : w.Inv) (instances : List Nat) :
    (w.rollback instances).Inv := by
  induction instances generalizing w with
  | nil => exact h
  | cons i instances ih => exact ih (h.closeMiddleware i)

theorem Inv.buildLoop {sinkOwner : Option Nat} (items : List (Env × MiddlewareConfig)) :
    ∀ {w : World}, w.Inv → ∀ instances, (w.buildLoop sinkOwner items instances).1.Inv := by
  induction items with
  | nil => exact fun h _ => h
  | cons item items ih =>
      intro w h instances
      obtain ⟨env, mw⟩ := item
      unfold World.buildLoop
      split
      · exact h.rollback instances
      · split
        · have hnew := h.newMiddleware env mw.params sinkOwner mw.enabled
          cases hw : w.newMiddleware env mw.params sinkOwner mw.enabled with
          | mk w' out =>
              rw [hw] at hnew
              cases out with
              | none => exact hnew.rollback instances
              | some i => exact ih hnew (instances ++ [i])
        · split
          · exact h.rollback instances
          · exact ih h instances

/-- What a step does to the module and its objects. -/
inductive Change (w : World) : Event → World → Prop
  | newOwner : Change w .newOwner { w with owners := w.owners ++ [.new] }
  | acquired {o : Nat} {owner : LogSinkOwner} (env : Env) (logPath : String) :
      w.owners[o]? = some owner →
      Change w (.acquire env o logPath)
        { w with module := (owner.acquire env w.module logPath).1,
                 owners := w.owners.set o (owner.acquire env w.module logPath).2.1 }
  | ownerClosed {o : Nat} {owner : LogSinkOwner} : w.owners[o]? = some owner →
      Change w (.closeOwner o)
        { w with module := (owner.close w.module).1,
                 owners := w.owners.set o (owner.close w.module).2 }
  | constructed (env : Env) (params : LoggerParams) (sinkOwner : Option Nat) (openSink : Bool) :
      Change w (.construct env params sinkOwner openSink)
        (w.newMiddleware env params sinkOwner openSink).1
  | closed (i : Nat) : Change w (.close i) (w.closeMiddleware i)
  | built (sinkOwner : Option Nat) (mwConfigs : List (Env × MiddlewareConfig)) :
      Change w (.build sinkOwner mwConfigs) (w.buildMiddleware sinkOwner mwConfigs).1

theorem step_cases {w w' : World} {e : Event} (hs : w.step e = some w') : w.Change e w' := by
  cases e with
  | newOwner =>
      simp only [World.step, Option.some.injEq] at hs
      exact hs ▸ .newOwner
  | acquire env o logPath =>
      simp only [World.step] at hs
      cases ho : w.owners[o]? with
      | none => simp [ho] at hs
      | some owner =>
          simp only [ho, Option.some.injEq] at hs
          exact hs ▸ .acquired env logPath ho
  | closeOwner o =>
      simp only [World.step] at hs
      cases ho : w.owners[o]? with
      | none => simp [ho] at hs
      | some owner =>
          simp only [ho, Option.some.injEq] at hs
          exact hs ▸ .ownerClosed ho
  | construct env params sinkOwner openSink =>
      simp only [World.step, Option.some.injEq] at hs
      exact hs ▸ .constructed env params sinkOwner openSink
  | close i =>
      simp only [World.step, Option.some.injEq] at hs
      exact hs ▸ .closed i
  | build sinkOwner mwConfigs =>
      simp only [World.step, Option.some.injEq] at hs
      exact hs ▸ .built sinkOwner mwConfigs

/-- An owner that holds nothing changes no lease. -/
theorem Inv.newOwner {w : World} (h : w.Inv) :
    ({ w with owners := w.owners ++ [.new] } : World).Inv := by
  refine ⟨?_, ?_⟩
  · have hsame : (w.owners ++ [LogSinkOwner.new]).flatMap LogSinkOwner.leases
        = w.owners.flatMap LogSinkOwner.leases := by
      rw [List.flatMap_append, List.flatMap_singleton]
      exact List.append_nil _
    show w.module.Inv (_ ++ (w.owners ++ [LogSinkOwner.new]).flatMap LogSinkOwner.leases)
    rw [hsame]
    exact h.module
  · intro o ho
    rcases List.mem_append.mp ho with ho | ho
    · exact h.keys o ho
    · rw [List.mem_singleton.mp ho]
      exact List.nodup_nil

theorem Inv.step {w w' : World} {e : Event} (h : w.Inv) (hs : w.step e = some w') : w'.Inv := by
  cases step_cases hs with
  | newOwner => exact h.newOwner
  | acquired env logPath ho =>
      obtain ⟨hinv, hkeys⟩ := acquire_inv (h.module.perm (leases_perm_owner ho))
        (h.keys _ (List.mem_of_getElem? ho)) env logPath
      exact h.setOwner ho hinv hkeys
  | ownerClosed ho =>
      obtain ⟨hinv, hkeys⟩ := closeOwner_inv (h.module.perm (leases_perm_owner ho))
      exact h.setOwner ho hinv (hkeys (h.keys _ (List.mem_of_getElem? ho)))
  | constructed env params sinkOwner openSink =>
      exact h.newMiddleware env params sinkOwner openSink
  | closed i => exact h.closeMiddleware i
  | built sinkOwner mwConfigs => exact Inv.buildLoop mwConfigs h []

end World

end DoipPlayground.EdgeNode.LogSinks
