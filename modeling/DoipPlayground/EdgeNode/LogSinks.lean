/-
  DoipPlayground.EdgeNode.LogSinks
  ────────────────────────────────
  **THE LOG SINKS OF `middleware/logger.py`.**

  A sink is a logger with a file and a stream handler, one per canonical
  path, and `_sinks` counts its leases.  Making a sink may fail at every
  point where the source can: on the path, on the directory, on either
  handler.  Closing a handler returns, as the logging library documents it.

    • `makeLogger`, `releaseLogger` — the two functions on `_sinks`,
    • `LoggerModule.Inv` — the module serves a list of leases: the table
      counts them, a leased logger has its handlers, any other logger's are
      closed,
    • `makeLogger_inv`, `releaseLogger_inv`, `Inv.release_stale` — the module
      against that list.
-/
import DoipPlayground.Lib.Leases
import DoipPlayground.Lib.Python

namespace DoipPlayground.EdgeNode.LogSinks

/-! ## §1. The module: loggers, handlers, `_sinks`. -/

abbrev Path := String

/-- `_sink_path` in the file system as it is: `none` when it raises.  The
canonical form of a canonical path is that path. -/
structure FileSystem where
  sinkPath : String → Option Path
  canonical : ∀ s p, sinkPath s = some p → sinkPath p = some p

/-- How far the making of a sink gets. -/
inductive Opening where
  | noDirectory
  | noFileHandler
  | noStreamHandler
  | ready
  deriving DecidableEq, Repr

/-- What a call finds outside the process. -/
structure Env where
  fs : FileSystem
  opening : Opening

inductive HandlerKind where
  | file
  | stream
  deriving DecidableEq, Repr

/-- A handler made for the logger object of that number. -/
structure Handler where
  logger : Nat
  kind : HandlerKind
  deriving DecidableEq, Repr

/-- The state of `middleware.logger`.  Logger objects are numbered as they
are made; `opened` and `closed` record the handlers that were. -/
structure LoggerModule where
  sinks : Path → Option (Nat × Nat)
  /-- `lgr.handlers` -/
  handlers : Nat → List Handler
  nextLogger : Nat
  opened : List Handler
  closed : List Handler

namespace LoggerModule

def init : LoggerModule := ⟨fun _ => none, fun _ => [], 0, [], []⟩

def openHandler (m : LoggerModule) (handler : Handler) : LoggerModule :=
  { m with opened := m.opened ++ [handler] }

/-- `handler.close()` -/
def closeHandler (m : LoggerModule) (handler : Handler) : LoggerModule :=
  { m with closed := m.closed ++ [handler] }

/-- `lgr.addHandler` -/
def addHandler (m : LoggerModule) (lgr : Nat) (handler : Handler) : LoggerModule :=
  { m with handlers := Function.update m.handlers lgr (m.handlers lgr ++ [handler]) }

/-- `lgr.removeHandler` -/
def removeHandler (m : LoggerModule) (lgr : Nat) (handler : Handler) : LoggerModule :=
  { m with handlers := Function.update m.handlers lgr ((m.handlers lgr).erase handler) }

/-- `_make_logger`; `none` when it raises. -/
def makeLogger (env : Env) (m : LoggerModule) (logPath : String) : LoggerModule × Option Nat :=
  match env.fs.sinkPath logPath with
  | none => (m, none)
  | some path =>
      match m.sinks path with
      | some (lgr, references) =>
          ({ m with sinks := Function.update m.sinks path (some (lgr, references + 1)) }, some lgr)
      | none =>
          let lgr := m.nextLogger
          let file : Handler := ⟨lgr, .file⟩
          let stream : Handler := ⟨lgr, .stream⟩
          let m := { m with nextLogger := lgr + 1 }
          match env.opening with
          | .noDirectory => (m, none)
          | .noFileHandler => (m, none)
          | .noStreamHandler =>
              -- the `except` closes the handlers made so far
              (((m.openHandler file).removeHandler lgr file).closeHandler file, none)
          | .ready =>
              let m := (m.openHandler file).openHandler stream
              let m := (m.addHandler lgr file).addHandler lgr stream
              ({ m with sinks := Function.update m.sinks path (some (lgr, 1)) }, some lgr)

/-- The loop at the end of `_release_logger`. -/
def closeHandlers (m : LoggerModule) (lgr : Nat) : LoggerModule :=
  (m.handlers lgr).foldl (fun m handler => (m.removeHandler lgr handler).closeHandler handler) m

/-- `_release_logger` -/
def releaseLogger (m : LoggerModule) (path : Path) (lgr : Nat) : LoggerModule :=
  match m.sinks path with
  | none => m
  | some (current, references) =>
      if current ≠ lgr then m
      else if references > 1 then
        { m with sinks := Function.update m.sinks path (some (lgr, references - 1)) }
      else ({ m with sinks := Function.update m.sinks path none }).closeHandlers lgr

/-! ## §2. The module against its leases. -/

/-- `_sinks` as a table of leases. -/
def table (m : LoggerModule) : Leases.Table Path := ⟨m.sinks, m.nextLogger⟩

/-- The handlers of a sink. -/
def sinkHandlers (lgr : Nat) : List Handler := [⟨lgr, .file⟩, ⟨lgr, .stream⟩]

/-- Somebody has a lease on the logger. -/
def Leased (live : List (Path × Nat)) (lgr : Nat) : Prop := ∃ p, (p, lgr) ∈ live

theorem closeHandlers_eq (m : LoggerModule) (lgr : Nat) :
    m.closeHandlers lgr
      = { m with handlers := Function.update m.handlers lgr [],
                 closed := m.closed ++ m.handlers lgr } := by
  -- one turn of the loop takes the first handler off the list it runs over
  have hloop : ∀ (hs : List Handler) (m : LoggerModule), m.handlers lgr = hs →
      hs.foldl (fun m handler => (m.removeHandler lgr handler).closeHandler handler) m
        = { m with handlers := Function.update m.handlers lgr [], closed := m.closed ++ hs } := by
    intro hs
    induction hs with
    | nil =>
        intro m hm
        have hsame : Function.update m.handlers lgr [] = m.handlers :=
          Function.update_eq_self_iff.mpr hm.symm
        simp [hsame]
    | cons h hs ih =>
        intro m hm
        rw [List.foldl_cons, ih]
        · simp [removeHandler, closeHandler]
        · simp [removeHandler, closeHandler, hm]
  exact hloop _ m rfl

/-- A release is one of the table; the last one closes the handlers. -/
theorem releaseLogger_eq (m : LoggerModule) (path : Path) (lgr : Nat) :
    m.releaseLogger path lgr
      = if (m.table.release path lgr).2 then
          ({ m with sinks := (m.table.release path lgr).1.entry }).closeHandlers lgr
        else { m with sinks := (m.table.release path lgr).1.entry } := by
  unfold releaseLogger Leases.Table.release table
  cases hk : m.sinks path with
  | none => simp [hk]
  | some p =>
      obtain ⟨current, references⟩ := p
      simp only [hk]
      by_cases hcur : current = lgr
      · by_cases hone : 1 < references
        · simp [hcur, hone]
        · simp [hcur, hone]
      · simp [hcur]

/-- The module serves exactly the leases in `live`. -/
structure Inv (m : LoggerModule) (live : List (Path × Nat)) : Prop where
  table : m.table.Serves live
  /-- A leased logger has its two handlers, any other none. -/
  attached : ∀ l, Leased live l → m.handlers l = sinkHandlers l
  detached : ∀ l, ¬ Leased live l → m.handlers l = []
  numbered : ∀ h ∈ m.opened, h.logger < m.nextLogger
  opened : ∀ l, Leased live l → ∀ h ∈ sinkHandlers l, h ∈ m.opened
  /-- A handler is closed once its logger has no lease, and only once. -/
  closed_iff : ∀ h ∈ m.opened, h ∈ m.closed ↔ ¬ Leased live h.logger
  closed_opened : ∀ h ∈ m.closed, h ∈ m.opened
  once : m.closed.Nodup

theorem inv_init : init.Inv [] where
  table := Leases.serves_empty
  attached := by simp [Leased]
  detached := fun _ _ => rfl
  numbered := by simp [init]
  opened := by simp [Leased]
  closed_iff := by simp [init]
  closed_opened := by simp [init]
  once := List.nodup_nil

theorem leased_perm {live live' : List (Path × Nat)} (hp : live.Perm live') (l : Nat) :
    Leased live l ↔ Leased live' l :=
  exists_congr fun _ => hp.mem_iff

theorem Inv.perm {m : LoggerModule} {live live' : List (Path × Nat)} (h : m.Inv live)
    (hp : live.Perm live') : m.Inv live' where
  table := h.table.perm hp
  attached := fun l hl => h.attached l ((leased_perm hp l).mpr hl)
  detached := fun l hl => h.detached l fun hl' => hl ((leased_perm hp l).mp hl')
  numbered := h.numbered
  opened := fun l hl => h.opened l ((leased_perm hp l).mpr hl)
  closed_iff := by
    intro x hx
    rw [← leased_perm hp]
    exact h.closed_iff x hx
  closed_opened := h.closed_opened
  once := h.once

/-- A new logger number has no lease and no handler. -/
theorem Inv.next_fresh {m : LoggerModule} {live : List (Path × Nat)} (h : m.Inv live) :
    ¬ Leased live m.nextLogger ∧ ∀ k, (⟨m.nextLogger, k⟩ : Handler) ∉ m.opened := by
  constructor
  · rintro ⟨p, hp⟩
    exact absurd (h.table.lt_next hp) (Nat.lt_irrefl _)
  · intro k hk
    exact absurd (h.numbered _ hk) (Nat.lt_irrefl _)

/-- A stale release touches nothing. -/
theorem Inv.release_stale {m : LoggerModule} {live : List (Path × Nat)} (h : m.Inv live)
    {path : Path} {lgr : Nat} (hstale : (path, lgr) ∉ live) : m.releaseLogger path lgr = m := by
  rw [releaseLogger_eq, Leases.release_stale h.table hstale]
  rfl

@[simp] theorem mem_sinkHandlers {h : Handler} {l : Nat} :
    h ∈ sinkHandlers l ↔ h.logger = l := by
  obtain ⟨lgr, kind⟩ := h
  cases kind with
  | file => simp [sinkHandlers]
  | stream => simp [sinkHandlers]

theorem sinkHandlers_nodup (l : Nat) : (sinkHandlers l).Nodup := by
  simp [sinkHandlers]

theorem leased_of_erase {live : List (Path × Nat)} {e : Path × Nat} {l : Nat}
    (hl : Leased (live.erase e) l) : Leased live l := by
  obtain ⟨p, hp⟩ := hl
  exact ⟨p, List.mem_of_mem_erase hp⟩

/-- Only the logger of the lease given back can lose its last lease. -/
theorem leased_erase_of_ne {live : List (Path × Nat)} {path : Path} {lgr l : Nat} (hl : l ≠ lgr) :
    Leased (live.erase (path, lgr)) l ↔ Leased live l := by
  apply exists_congr
  intro p
  apply List.mem_erase_of_ne
  intro heq
  exact hl (congrArg Prod.snd heq)

/-- A logger serves one path, so its leases all are the same pair. -/
theorem Inv.leased_erase_self {m : LoggerModule} {live : List (Path × Nat)} (h : m.Inv live)
    {path : Path} {lgr : Nat} (hlive : (path, lgr) ∈ live) :
    Leased (live.erase (path, lgr)) lgr ↔ (path, lgr) ∈ live.erase (path, lgr) := by
  constructor
  · intro hl
    obtain ⟨p, hp⟩ := hl
    have hpath : p = path := h.table.key_unique (List.mem_of_mem_erase hp) hlive
    rw [hpath] at hp
    exact hp
  · intro hp
    exact ⟨path, hp⟩

/-- A lease given back while the logger has others. -/
theorem Inv.releaseShared {m : LoggerModule} {live : List (Path × Nat)} (h : m.Inv live)
    {path : Path} {lgr : Nat} {sinks : Path → Option (Nat × Nat)}
    (hserves : (⟨sinks, m.nextLogger⟩ : Leases.Table Path).Serves (live.erase (path, lgr)))
    (hstill : (path, lgr) ∈ live.erase (path, lgr)) :
    ({ m with sinks := sinks } : LoggerModule).Inv (live.erase (path, lgr)) := by
  have hsame : ∀ l, Leased (live.erase (path, lgr)) l ↔ Leased live l := by
    intro l
    by_cases hne : l = lgr
    · rw [hne]
      exact ⟨leased_of_erase, fun _ => ⟨path, hstill⟩⟩
    · exact leased_erase_of_ne hne
  refine ⟨hserves, ?_, ?_, h.numbered, ?_, ?_, h.closed_opened, h.once⟩
  · intro l hl
    exact h.attached l (leased_of_erase hl)
  · intro l hl
    exact h.detached l fun hl' => hl ((hsame l).mpr hl')
  · intro l hl
    exact h.opened l (leased_of_erase hl)
  · intro x hx
    rw [hsame]
    exact h.closed_iff x hx

/-- The last lease of a logger given back: its handlers are closed. -/
theorem Inv.releaseLast {m : LoggerModule} {live : List (Path × Nat)} (h : m.Inv live)
    {path : Path} {lgr : Nat} {sinks : Path → Option (Nat × Nat)} (hlive : (path, lgr) ∈ live)
    (hserves : (⟨sinks, m.nextLogger⟩ : Leases.Table Path).Serves (live.erase (path, lgr)))
    (hlast : (path, lgr) ∉ live.erase (path, lgr)) :
    (({ m with sinks := sinks } : LoggerModule).closeHandlers lgr).Inv
      (live.erase (path, lgr)) := by
  have hgone : ¬ Leased (live.erase (path, lgr)) lgr := by
    rw [h.leased_erase_self hlive]
    exact hlast
  have hshut : ({ m with sinks := sinks } : LoggerModule).closeHandlers lgr
      = { m with sinks := sinks, handlers := Function.update m.handlers lgr [],
                 closed := m.closed ++ sinkHandlers lgr } := by
    rw [closeHandlers_eq, ← h.attached lgr ⟨path, hlive⟩]
  rw [hshut]
  refine ⟨hserves, ?_, ?_, h.numbered, ?_, ?_, ?_, ?_⟩
  · intro l hl
    have hne : l ≠ lgr := by
      rintro rfl
      exact hgone hl
    show Function.update m.handlers lgr [] l = sinkHandlers l
    rw [Function.update_of_ne hne]
    exact h.attached l (leased_of_erase hl)
  · intro l hl
    show Function.update m.handlers lgr [] l = []
    by_cases hne : l = lgr
    · rw [hne, Function.update_self]
    · rw [Function.update_of_ne hne]
      exact h.detached l fun hl' => hl ((leased_erase_of_ne hne).mpr hl')
  · intro l hl
    exact h.opened l (leased_of_erase hl)
  · intro x hx
    show x ∈ m.closed ++ sinkHandlers lgr ↔ _
    rw [List.mem_append, mem_sinkHandlers]
    by_cases hne : x.logger = lgr
    · rw [hne]
      exact ⟨fun _ => hgone, fun _ => .inr rfl⟩
    · rw [leased_erase_of_ne hne, ← h.closed_iff x hx]
      simp [hne]
  · intro x hx
    rcases List.mem_append.mp hx with hx | hx
    · exact h.closed_opened x hx
    · exact h.opened lgr ⟨path, hlive⟩ x hx
  · show (m.closed ++ sinkHandlers lgr).Nodup
    refine List.nodup_append.mpr ⟨h.once, sinkHandlers_nodup lgr, ?_⟩
    rintro a ha b hb rfl
    have hopen := h.opened lgr ⟨path, hlive⟩ a hb
    have hunleased := (h.closed_iff a hopen).mp ha
    rw [mem_sinkHandlers.mp hb] at hunleased
    exact hunleased ⟨path, hlive⟩

/-- Giving back one lease: the module without it. -/
theorem releaseLogger_inv {m : LoggerModule} {live : List (Path × Nat)} (h : m.Inv live)
    {path : Path} {lgr : Nat} (hlive : (path, lgr) ∈ live) :
    (m.releaseLogger path lgr).Inv (live.erase (path, lgr)) := by
  obtain ⟨hserves, hlast⟩ := h.table.release hlive
  have hsinks : (⟨(m.table.release path lgr).1.entry, m.nextLogger⟩ : Leases.Table Path).Serves
      (live.erase (path, lgr)) := by
    have hnext : m.nextLogger = (m.table.release path lgr).1.next :=
      (Leases.release_next m.table path lgr).symm
    rw [hnext]
    exact hserves
  rw [releaseLogger_eq]
  split
  · rename_i hlastTrue
    exact h.releaseLast hlive hsinks (hlast.mp hlastTrue)
  · rename_i hlastFalse
    refine h.releaseShared hsinks ?_
    by_contra hnot
    exact hlastFalse (hlast.mpr hnot)

/-- A logger object that was made and dropped. -/
theorem Inv.skip {m : LoggerModule} {live : List (Path × Nat)} (h : m.Inv live) :
    ({ m with nextLogger := m.nextLogger + 1 } : LoggerModule).Inv live where
  table := h.table.skip
  attached := h.attached
  detached := h.detached
  numbered := fun x hx => Nat.lt_succ_of_lt (h.numbered x hx)
  opened := h.opened
  closed_iff := h.closed_iff
  closed_opened := h.closed_opened
  once := h.once

/-- A sink whose stream handler could not be made: the file handler of the
dropped logger is opened and closed. -/
theorem Inv.abandon {m : LoggerModule} {live : List (Path × Nat)} (h : m.Inv live) :
    let file : Handler := ⟨m.nextLogger, .file⟩
    let m' : LoggerModule := { m with nextLogger := m.nextLogger + 1 }
    (((m'.openHandler file).removeHandler m.nextLogger file).closeHandler file).Inv live := by
  obtain ⟨hfresh, hunopened⟩ := h.next_fresh
  have hhandlers : Function.update m.handlers m.nextLogger
      ((m.handlers m.nextLogger).erase ⟨m.nextLogger, .file⟩) = m.handlers := by
    rw [h.detached _ hfresh]
    exact Function.update_eq_self_iff.mpr (h.detached _ hfresh).symm
  intro file m'
  have hshape : ((m'.openHandler file).removeHandler m.nextLogger file).closeHandler file
      = { m with nextLogger := m.nextLogger + 1, opened := m.opened ++ [file],
                 closed := m.closed ++ [file] } := by
    simp only [m', file, openHandler, removeHandler, closeHandler, hhandlers]
  have hunclosed : file ∉ m.closed := fun hc => hunopened _ (h.closed_opened _ hc)
  rw [hshape]
  refine ⟨h.table.skip, h.attached, h.detached, ?_, ?_, ?_, ?_, ?_⟩
  · intro x hx
    show x.logger < m.nextLogger + 1
    rcases List.mem_append.mp hx with hx | hx
    · exact Nat.lt_succ_of_lt (h.numbered x hx)
    · rw [List.mem_singleton.mp hx]
      exact Nat.lt_succ_self _
  · intro l hl x hx
    exact List.mem_append_left _ (h.opened l hl x hx)
  · intro x hx
    show x ∈ m.closed ++ [file] ↔ _
    rw [List.mem_append, List.mem_singleton]
    rcases List.mem_append.mp hx with hx | hx
    · have hne : x ≠ file := by
        rintro rfl
        exact hunopened _ hx
      rw [← h.closed_iff x hx]
      simp [hne]
    · rw [List.mem_singleton.mp hx]
      exact ⟨fun _ => hfresh, fun _ => .inr rfl⟩
  · intro x hx
    rcases List.mem_append.mp hx with hx | hx
    · exact List.mem_append_left _ (h.closed_opened x hx)
    · exact List.mem_append_right _ hx
  · refine List.nodup_append.mpr ⟨h.once, by simp, ?_⟩
    rintro a ha b hb rfl
    exact hunclosed (List.mem_singleton.mp hb ▸ ha)

/-- A sink that was opened, with its first lease. -/
theorem Inv.openSink {m : LoggerModule} {live : List (Path × Nat)} (h : m.Inv live) {path : Path}
    (hk : m.sinks path = none) :
    ({ sinks := Function.update m.sinks path (some (m.nextLogger, 1)),
       handlers := Function.update m.handlers m.nextLogger (sinkHandlers m.nextLogger),
       nextLogger := m.nextLogger + 1,
       opened := m.opened ++ sinkHandlers m.nextLogger,
       closed := m.closed } : LoggerModule).Inv ((path, m.nextLogger) :: live) := by
  obtain ⟨hfresh, hunopened⟩ := h.next_fresh
  have hlease := h.table.lease path
  have hk' : m.table.entry path = none := hk
  simp only [Leases.Table.lease, hk'] at hlease
  have hleased : ∀ l, Leased ((path, m.nextLogger) :: live) l
      ↔ l = m.nextLogger ∨ Leased live l := by
    intro l
    constructor
    · rintro ⟨q, hq⟩
      rcases List.mem_cons.mp hq with heq | hq
      · exact .inl (congrArg Prod.snd heq)
      · exact .inr ⟨q, hq⟩
    · rintro (rfl | ⟨q, hq⟩)
      · exact ⟨path, List.mem_cons_self⟩
      · exact ⟨q, List.mem_cons_of_mem _ hq⟩
  refine ⟨hlease, ?_, ?_, ?_, ?_, ?_, ?_, h.once⟩
  · intro l hl
    show Function.update m.handlers m.nextLogger (sinkHandlers m.nextLogger) l = sinkHandlers l
    by_cases hne : l = m.nextLogger
    · rw [hne, Function.update_self]
    · rw [Function.update_of_ne hne]
      exact h.attached l (((hleased l).mp hl).resolve_left hne)
  · intro l hl
    rw [hleased, not_or] at hl
    show Function.update m.handlers m.nextLogger (sinkHandlers m.nextLogger) l = []
    rw [Function.update_of_ne hl.1]
    exact h.detached l hl.2
  · intro x hx
    show x.logger < m.nextLogger + 1
    rcases List.mem_append.mp hx with hx | hx
    · exact Nat.lt_succ_of_lt (h.numbered x hx)
    · rw [mem_sinkHandlers.mp hx]
      exact Nat.lt_succ_self _
  · intro l hl x hx
    rcases (hleased l).mp hl with rfl | hl
    · exact List.mem_append_right _ hx
    · exact List.mem_append_left _ (h.opened l hl x hx)
  · intro x hx
    rw [hleased, not_or]
    rcases List.mem_append.mp hx with hx | hx
    · have hne : x.logger ≠ m.nextLogger := by
        have := h.numbered x hx
        omega
      rw [h.closed_iff x hx]
      exact ⟨fun hl => ⟨hne, hl⟩, And.right⟩
    · have hself := mem_sinkHandlers.mp hx
      -- the new handlers are open: what is closed was opened before them
      refine ⟨fun hc => ?_, fun hl => absurd hself hl.1⟩
      have hlt := h.numbered x (h.closed_opened x hc)
      omega
  · intro x hx
    exact List.mem_append_left _ (h.closed_opened x hx)

/-- Making a sink fails without a trace in `_sinks`, or takes one lease. -/
theorem makeLogger_inv (env : Env) {m : LoggerModule} {live : List (Path × Nat)} (h : m.Inv live)
    (logPath : String) :
    ((m.makeLogger env logPath).2 = none → (m.makeLogger env logPath).1.Inv live)
      ∧ ∀ lgr, (m.makeLogger env logPath).2 = some lgr →
          ∃ path, env.fs.sinkPath logPath = some path
            ∧ (m.makeLogger env logPath).1.Inv ((path, lgr) :: live) := by
  unfold makeLogger
  cases hp : env.fs.sinkPath logPath with
  | none => exact ⟨fun _ => h, by simp⟩
  | some path =>
      dsimp only
      have hlease := h.table.lease path
      cases hk : m.sinks path with
      | some p =>
          obtain ⟨lgr, references⟩ := p
          refine ⟨by simp, ?_⟩
          rintro _ ⟨⟩
          refine ⟨path, rfl, ?_⟩
          have hk' : m.table.entry path = some (lgr, references) := hk
          simp only [Leases.Table.lease, hk'] at hlease
          obtain ⟨hcount, hpos⟩ := h.table.counted path lgr references hk'
          have hmem : (path, lgr) ∈ live := List.count_pos_iff.mp (hcount ▸ hpos)
          have hsame : ∀ l, Leased ((path, lgr) :: live) l ↔ Leased live l := by
            intro l
            constructor
            · rintro ⟨q, hq⟩
              rcases List.mem_cons.mp hq with heq | hq
              · exact ⟨q, heq ▸ hmem⟩
              · exact ⟨q, hq⟩
            · rintro ⟨q, hq⟩
              exact ⟨q, List.mem_cons_of_mem _ hq⟩
          refine ⟨hlease, fun l hl => h.attached l ((hsame l).mp hl),
            fun l hl => h.detached l fun hl' => hl ((hsame l).mpr hl'), h.numbered,
            fun l hl => h.opened l ((hsame l).mp hl), ?_, h.closed_opened, h.once⟩
          intro x hx
          rw [hsame]
          exact h.closed_iff x hx
      | none =>
          dsimp only
          cases env.opening with
          | noDirectory => exact ⟨fun _ => h.skip, by simp⟩
          | noFileHandler => exact ⟨fun _ => h.skip, by simp⟩
          | noStreamHandler =>
              exact ⟨fun _ => h.abandon, by simp⟩
          | ready =>
              refine ⟨by simp, ?_⟩
              rintro _ ⟨⟩
              refine ⟨path, rfl, ?_⟩
              have hopen := h.openSink hk
              have hnone := h.detached _ h.next_fresh.1
              simpa [openHandler, addHandler, hnone, sinkHandlers] using hopen

end LoggerModule

end DoipPlayground.EdgeNode.LogSinks
