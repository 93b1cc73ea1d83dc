/-
  DoipPlayground.VirtualEcu.Core
  ──────────────────────────────
  **STATE SHARED BY ALL CONNECTIONS OF ONE ECU** (`core.py`, `store.py`).

  The session state of a tester is an object: sockets hold a reference to
  it and `_session_states` maps the tester's address to it.  Objects live
  in a heap indexed by `StateId`, so that two sockets can share one and a
  socket can hold one the table has forgotten.
-/
import DoipPlayground.VirtualEcu.Config
import Mathlib.Logic.Function.Basic

namespace DoipPlayground.VirtualEcu

open Wire

/-- A tester logical address. -/
abbrev SA := Nat

/-- The identity of a `SessionState` object. -/
abbrev StateId := Nat

/-! ## §1. The state of one tester. -/

structure SessionState where
  sessionType : Int
  securityLevel : Nat := 0
  seedPending : Option Nat := none
  securityAttempts : Nat := 0
  testerAddr : Option SA := none
  /-- `_s3_task` is running. -/
  s3Armed : Bool := false
  deriving DecidableEq, Repr

namespace SessionState

def new (cfg : EcuConfig) : SessionState := { sessionType := cfg.uds.defaultSession }

def cancelS3 (s : SessionState) : SessionState := { s with s3Armed := false }

/-- (Re)arm the S3 timer; only non-default sessions time out. -/
def refreshS3 (cfg : EcuConfig) (s : SessionState) : SessionState :=
  if s.sessionType = cfg.uds.defaultSession then s.cancelS3
  else if cfg.uds.s3ServerMs ≤ 0 then s.cancelS3
  else { s with s3Armed := true }

/-- DiagnosticSessionControl: switch session and relock security. -/
def enterSession (cfg : EcuConfig) (sessionType : Int) (s : SessionState) : SessionState :=
  { s with
    sessionType := sessionType
    securityLevel := 0
    seedPending := none
    securityAttempts := 0 }.refreshS3 cfg

/-- ECUReset and S3 expiry: back to the default session, fully locked. -/
def reset (cfg : EcuConfig) (s : SessionState) : SessionState :=
  { s with
    sessionType := cfg.uds.defaultSession
    securityLevel := 0
    seedPending := none
    securityAttempts := 0 }.cancelS3

/-- Nothing to remember: what a fresh state would be. -/
def Tidy (cfg : EcuConfig) (s : SessionState) : Prop :=
  s.sessionType = cfg.uds.defaultSession ∧ s.securityLevel = 0 ∧ s.seedPending = none

instance (cfg : EcuConfig) (s : SessionState) : Decidable (s.Tidy cfg) :=
  inferInstanceAs (Decidable (_ ∧ _ ∧ _))

end SessionState

/-! ## §2. The core. -/

/-- What requests of all testers read and write. -/
structure EcuData where
  /-- `DidStore._values` -/
  store : Nat → Option Bytes
  /-- `data["routines"]`: whether a routine was started. -/
  routines : Nat → Option Bool

/-- `DidStore.reset`: every DID back to its default. -/
def EcuConfig.storeDefaults (cfg : EcuConfig) (did : Nat) : Option Bytes :=
  (cfg.dids did).bind DidSpec.value

/-- `EcuCore.reset` -/
def EcuData.reset (cfg : EcuConfig) (clearWrites : Bool) (d : EcuData) : EcuData where
  store := if clearWrites then cfg.storeDefaults else d.store
  routines := fun _ => none

structure EcuCore where
  data : EcuData
  /-- The heap of session states; those from `nextState` on are not created yet. -/
  states : StateId → SessionState
  nextState : StateId
  /-- `_session_states` -/
  sessionStates : SA → Option StateId

namespace EcuCore

def init (cfg : EcuConfig) : EcuCore where
  data := ⟨cfg.storeDefaults, fun _ => none⟩
  states := fun _ => SessionState.new cfg
  nextState := 0
  sessionStates := fun _ => none

def setState (c : EcuCore) (st : StateId) (s : SessionState) : EcuCore :=
  { c with states := Function.update c.states st s }

/-- The state of a tester: the existing entry or a fresh one. -/
def sessionFor (cfg : EcuConfig) (c : EcuCore) (testerAddr : SA) : EcuCore × StateId :=
  match c.sessionStates testerAddr with
  | some st => (c, st)
  | none =>
      ({ c with
          states := Function.update c.states c.nextState
            { SessionState.new cfg with testerAddr := some testerAddr }
          nextState := c.nextState + 1
          sessionStates := Function.update c.sessionStates testerAddr (some c.nextState) },
        c.nextState)

/-- The entry `maybeDropSessionState` would delete. -/
def dropped (cfg : EcuConfig) (c : EcuCore) (testerAddr : Option SA) (st : StateId) : Option SA :=
  testerAddr.bind fun sa =>
    if c.sessionStates sa = some st ∧ (c.states st).Tidy cfg then some sa else none

/-- Drop the entry of a tester if it is this object and there is nothing
left to remember. -/
def maybeDropSessionState (cfg : EcuConfig) (c : EcuCore) (testerAddr : Option SA)
    (st : StateId) : EcuCore :=
  match c.dropped cfg testerAddr st with
  | some sa =>
      { c.setState st (c.states st).cancelS3 with
        sessionStates := Function.update c.sessionStates sa none }
  | none => c

/-- Forget a tester's state, whatever it is. -/
def dropSessionState (c : EcuCore) (testerAddr : SA) : EcuCore :=
  match c.sessionStates testerAddr with
  | some st =>
      { c.setState st (c.states st).cancelS3 with
        sessionStates := Function.update c.sessionStates testerAddr none }
  | none => c

/-- `_s3_expiry` once its sleep is over. -/
def s3Expiry (cfg : EcuConfig) (c : EcuCore) (st : StateId) : EcuCore :=
  (c.setState st ((c.states st).reset cfg)).maybeDropSessionState cfg
    (c.states st).testerAddr st

end EcuCore

/-! ## §3. What the operations do. -/

variable {cfg : EcuConfig}

namespace SessionState

/-- The S3 timer concerns nobody but itself. -/
theorem refreshS3_eq (cfg : EcuConfig) (s : SessionState) :
    ∃ armed, s.refreshS3 cfg = { s with s3Armed := armed } := by
  unfold refreshS3 cancelS3
  split
  · exact ⟨_, rfl⟩
  · split <;> exact ⟨_, rfl⟩

@[simp] theorem refreshS3_sessionType (s : SessionState) :
    (s.refreshS3 cfg).sessionType = s.sessionType := by
  obtain ⟨armed, h⟩ := refreshS3_eq cfg s
  rw [h]

end SessionState

namespace EcuCore

@[simp] theorem setState_states (c : EcuCore) (st st' : StateId) (s : SessionState) :
    (c.setState st s).states st' = if st' = st then s else c.states st' := by
  by_cases h : st' = st
  · subst h
    simp [setState]
  · simp [setState, h]

@[simp] theorem setState_sessionStates (c : EcuCore) (st : StateId) (s : SessionState) :
    (c.setState st s).sessionStates = c.sessionStates := rfl

@[simp] theorem setState_nextState (c : EcuCore) (st : StateId) (s : SessionState) :
    (c.setState st s).nextState = c.nextState := rfl

theorem setState_self (c : EcuCore) (st : StateId) : c.setState st (c.states st) = c := by
  unfold setState
  rw [Function.update_eq_self]

theorem dropped_eq_some {c : EcuCore} {testerAddr : Option SA} {st : StateId} {sa : SA} :
    c.dropped cfg testerAddr st = some sa
      ↔ testerAddr = some sa ∧ c.sessionStates sa = some st ∧ (c.states st).Tidy cfg := by
  unfold dropped
  cases testerAddr with
  | none => simp
  | some sa' =>
      rw [Option.bind_some, Option.ite_none_right_eq_some, Option.some.injEq]
      constructor
      · rintro ⟨h, rfl⟩
        exact ⟨rfl, h⟩
      · rintro ⟨rfl, h⟩
        exact ⟨h, rfl⟩

theorem maybeDrop_sessionStates (c : EcuCore) (testerAddr : Option SA) (st : StateId) (sa : SA) :
    (c.maybeDropSessionState cfg testerAddr st).sessionStates sa
      = if c.dropped cfg testerAddr st = some sa then none else c.sessionStates sa := by
  unfold maybeDropSessionState
  split
  · rename_i sa' hd
    by_cases h : sa = sa'
    · simp [h, hd]
    · simp [h, hd, Ne.symm h]
  · rename_i hd
    simp [hd]

/-- Dropping an entry at most stops a timer. -/
theorem maybeDrop_states (cfg : EcuConfig) (c : EcuCore) (testerAddr : Option SA)
    (st st' : StateId) :
    (c.maybeDropSessionState cfg testerAddr st).states st' = c.states st'
      ∨ st' = st ∧ (c.states st).Tidy cfg
        ∧ (c.maybeDropSessionState cfg testerAddr st).states st' = (c.states st).cancelS3 := by
  unfold maybeDropSessionState
  split
  · rename_i sa hd
    by_cases h : st' = st
    · exact .inr ⟨h, (dropped_eq_some.mp hd).2.2, by simp [h]⟩
    · simp [h]
  · exact .inl rfl

/-- The timer of a state deletes no other entry. -/
theorem s3Expiry_entry {c : EcuCore} {sa : SA} {st st' : StateId}
    (hl : c.sessionStates sa = some st) (hne : st ≠ st') :
    (c.s3Expiry cfg st').sessionStates sa = some st := by
  unfold s3Expiry
  rw [maybeDrop_sessionStates, if_neg ?_]
  · exact hl
  · intro hd
    have hentry := (dropped_eq_some.mp hd).2.1
    rw [setState_sessionStates, hl, Option.some.injEq] at hentry
    exact hne hentry

/-- It deletes its own. -/
theorem s3Expiry_deletes (cfg : EcuConfig) {c : EcuCore} {sa : SA} {st : StateId}
    (hl : c.sessionStates sa = some st) (htester : (c.states st).testerAddr = some sa) :
    (c.s3Expiry cfg st).sessionStates sa = none := by
  unfold s3Expiry
  rw [maybeDrop_sessionStates, if_pos]
  refine dropped_eq_some.mpr ⟨htester, hl, ?_⟩
  rw [setState_states, if_pos rfl]
  exact ⟨rfl, rfl, rfl⟩

theorem s3Expiry_sessionType {c : EcuCore} {st st' : StateId} (hne : st ≠ st') :
    ((c.s3Expiry cfg st').states st).sessionType = (c.states st).sessionType := by
  unfold s3Expiry
  rcases maybeDrop_states cfg (c.setState st' ((c.states st').reset cfg))
    (c.states st').testerAddr st' st with h | ⟨heq, _⟩
  · rw [h, setState_states, if_neg hne]
  · exact absurd heq hne

/-- What `session_for` returns for a tester. -/
structure SessionForSpec (c : EcuCore) (src : SA) (c' : EcuCore) (st : StateId) : Prop where
  grows : c.nextState ≤ c'.nextState
  states : ∀ st', st' < c.nextState → c'.states st' = c.states st'
  entry : c'.sessionStates src = some st
  others : ∀ sa, sa ≠ src → c'.sessionStates sa = c.sessionStates sa
  /-- It is the entry of the tester if there is one, and fresh otherwise. -/
  origin : c.sessionStates src = some st ∧ c' = c
    ∨ c.sessionStates src = none ∧ st = c.nextState ∧ c'.nextState = c.nextState + 1
      ∧ (c'.states st).testerAddr = some src

theorem sessionFor_spec (cfg : EcuConfig) (c : EcuCore) (src : SA) :
    SessionForSpec c src (c.sessionFor cfg src).1 (c.sessionFor cfg src).2 := by
  unfold sessionFor
  split
  · rename_i st hst
    exact ⟨Nat.le_refl _, fun _ _ => rfl, hst, fun _ _ => rfl, .inl ⟨hst, rfl⟩⟩
  · rename_i hnone
    refine ⟨Nat.le_succ _, ?_, by simp, ?_, .inr ⟨hnone, rfl, rfl, by simp⟩⟩
    · intro st' hlt
      have hne : st' ≠ c.nextState := Nat.ne_of_lt hlt
      simp [hne]
    · intro sa hne
      simp [hne]

theorem dropSessionState_sessionType (c : EcuCore) (testerAddr : SA) (st : StateId) :
    ((c.dropSessionState testerAddr).states st).sessionType = (c.states st).sessionType := by
  unfold dropSessionState
  split
  · dsimp only
    rw [setState_states]
    split
    · rename_i heq
      rw [heq]
      rfl
    · rfl
  · rfl

/-- The states keep their testers, and the table only loses entries. -/
structure Shrinks (c c' : EcuCore) : Prop where
  nextState : c'.nextState = c.nextState
  testerAddr : ∀ st, (c'.states st).testerAddr = (c.states st).testerAddr
  table : ∀ sa st, c'.sessionStates sa = some st → c.sessionStates sa = some st

namespace Shrinks

variable {c c' c'' : EcuCore}

theorem refl (c : EcuCore) : Shrinks c c := ⟨rfl, fun _ => rfl, fun _ _ => id⟩

theorem trans (h : Shrinks c c') (h' : Shrinks c' c'') : Shrinks c c'' where
  nextState := h'.nextState.trans h.nextState
  testerAddr := fun st => (h'.testerAddr st).trans (h.testerAddr st)
  table := fun sa st hl => h.table sa st (h'.table sa st hl)

theorem setState (c : EcuCore) (st : StateId) {s : SessionState}
    (h : s.testerAddr = (c.states st).testerAddr) : Shrinks c (c.setState st s) where
  nextState := rfl
  testerAddr := by
    intro st'
    rw [setState_states]
    split
    · rename_i heq
      rw [heq]
      exact h
    · rfl
  table := fun _ _ => id

/-- An entry is removed, and its timer stopped. -/
theorem erase (c : EcuCore) (sa : SA) (st : StateId) :
    Shrinks c { c.setState st (c.states st).cancelS3 with
      sessionStates := Function.update c.sessionStates sa none } where
  nextState := rfl
  testerAddr := (Shrinks.setState c st (s := (c.states st).cancelS3) rfl).testerAddr
  table := by
    intro sa' st' hl
    by_cases hsa : sa' = sa
    · subst hsa
      simp at hl
    · simpa [hsa] using hl

theorem maybeDrop (cfg : EcuConfig) (c : EcuCore) (testerAddr : Option SA) (st : StateId) :
    Shrinks c (c.maybeDropSessionState cfg testerAddr st) := by
  unfold maybeDropSessionState
  split
  · exact erase c _ st
  · exact refl c

theorem drop (c : EcuCore) (testerAddr : SA) : Shrinks c (c.dropSessionState testerAddr) := by
  unfold dropSessionState
  split
  · exact erase c _ _
  · exact refl c

theorem s3Expiry (c : EcuCore) (st : StateId) : Shrinks c (c.s3Expiry cfg st) := by
  have hreset := Shrinks.setState c st (s := (c.states st).reset cfg) rfl
  exact hreset.trans (maybeDrop cfg _ _ st)

end Shrinks

end EcuCore

end DoipPlayground.VirtualEcu
