/-
  DoipPlayground.VirtualEcu.SecuritySoundness
  ───────────────────────────────────────────
  **HOW A SECURITY LEVEL IS EARNED** (`services/security.py`).

  Requests and expiries of the S3 timer, served with one session state.

    • `Moves` — what one event does to the level and the pending seed,
    • `Armed`, `Unlocked` — the part of a run behind a pending seed and
      behind a level,
    • `security_access_sound` — both hold along every run that executes no
      reset by closing the connection.
-/
import DoipPlayground.Lib.Run
import DoipPlayground.VirtualEcu.ResetRevocation

namespace DoipPlayground.VirtualEcu

open Wire

/-! ## §1. Requests that concern security. -/

/-- A DiagnosticSessionControl that the service executes. -/
def UdsRequest.IsSessionChange (cfg : EcuConfig) (r : UdsRequest) : Prop :=
  r.sid = sidDiagnosticSessionControl ∧ r.raw.length = 2
    ∧ ((r.subFunction.getD 0 : Nat) : Int) ∈ cfg.uds.sessions

/-- A requestSeed of the right length. -/
def UdsRequest.RequestsSeed (r : UdsRequest) (sub : Nat) : Prop :=
  r.sid = sidSecurityAccess ∧ r.raw.length = 2 ∧ r.subFunction = some sub ∧ sub % 2 = 1

/-- A sendKey with this key. -/
def UdsRequest.SendsKey (r : UdsRequest) (sub : Nat) (key : Bytes) : Prop :=
  r.sid = sidSecurityAccess ∧ r.subFunction = some sub ∧ sub ≠ 0 ∧ sub % 2 = 0
    ∧ r.raw.drop 2 = key

/-- The request arms an exchange: it asks for the seed of a locked level. -/
def ArmsSeed (s : SessionState) (r : UdsRequest) (sub : Nat) : Prop :=
  r.RequestsSeed sub ∧ s.securityLevel < levelOf sub

/-- A key for the pending seed, as long as the seed, but not the expected one. -/
def WrongKey (cfg : EcuConfig) (s : SessionState) (r : UdsRequest) : Prop :=
  ∃ sub key, r.SendsKey sub key ∧ s.seedPending = some (sub - 1)
    ∧ key.length = cfg.uds.security.seed.length
    ∧ key ≠ expectedKey cfg.uds.security.seed cfg.uds.security

/-- The event locks the state: an executed session change or reset, or the
S3 timer. -/
def Relocks (cfg : EcuConfig) : WorkEvent → Prop
  | .request r => r.IsSessionChange cfg ∨ r.IsSupportedReset
  | .s3Expiry => True

/-- The event ends a pending exchange, or begins another one. -/
def Disturbs (cfg : EcuConfig) (s : SessionState) : WorkEvent → Prop
  | .request r => Relocks cfg (.request r) ∨ (∃ sub, ArmsSeed s r sub) ∨ WrongKey cfg s r
  | .s3Expiry => True

/-- An executed reset leaves the connection open. -/
def ResetsInPlace (cfg : EcuConfig) : WorkEvent → Prop
  | .request r => r.IsSupportedReset → cfg.uds.resetDropsConnection = false
  | .s3Expiry => True

/-! ## §2. What one event does. -/

/-- What an event does to the level and the pending seed of a state. -/
inductive Moves (cfg : EcuConfig) (s : SessionState) : WorkEvent → SessionState → Prop
  | relocked {e : WorkEvent} {s' : SessionState} (h : Relocks cfg e)
      (hlevel : s'.securityLevel = 0) (hseed : s'.seedPending = none) : Moves cfg s e s'
  | armed {r : UdsRequest} {s' : SessionState} (sub : Nat) (h : ArmsSeed s r sub)
      (hlevel : s'.securityLevel = s.securityLevel) (hseed : s'.seedPending = some sub) :
      Moves cfg s (.request r) s'
  | refused {r : UdsRequest} {s' : SessionState} (h : WrongKey cfg s r)
      (hlevel : s'.securityLevel = s.securityLevel) (hseed : s'.seedPending = none) :
      Moves cfg s (.request r) s'
  | unlocked {r : UdsRequest} {s' : SessionState} (sub : Nat)
      (h : r.SendsKey sub (expectedKey cfg.uds.security.seed cfg.uds.security))
      (hpending : s.seedPending = some (sub - 1))
      (hlevel : s'.securityLevel = levelOf sub) (hseed : s'.seedPending = none) :
      Moves cfg s (.request r) s'
  | kept {e : WorkEvent} {s' : SessionState} (h : ¬ Disturbs cfg s e)
      (hlevel : s'.securityLevel = s.securityLevel) (hseed : s'.seedPending = s.seedPending) :
      Moves cfg s e s'

variable {cfg : EcuConfig} {st : StateId} {r : UdsRequest} {s : SessionState} {d : EcuData}

/-- A request for another service disturbs nothing, unless it locks the state. -/
theorem not_disturbs (hsid : r.sid ≠ sidSecurityAccess) (h : ¬ Relocks cfg (.request r)) :
    ¬ Disturbs cfg s (.request r) := by
  rintro (hr | ⟨sub, harms, _⟩ | ⟨sub, key, hsends, _⟩)
  · exact h hr
  · exact hsid harms.1
  · exact hsid hsends.1

/-- A SecurityAccess request locks nothing. -/
theorem not_relocks (hsid : r.sid = sidSecurityAccess) : ¬ Relocks cfg (.request r) := by
  rintro (h | h)
  · have := h.1.symm.trans hsid
    revert this
    decide
  · have := h.1.symm.trans hsid
    revert this
    decide

/-- It asks for a seed, sends a key or has no sub-function, and not two of these. -/
theorem not_disturbs_of_seed {sub : Nat} (hsid : r.sid = sidSecurityAccess)
    (hsub : r.subFunction = some sub) (hodd : sub % 2 = 1)
    (h : ¬ (r.raw.length = 2 ∧ s.securityLevel < levelOf sub)) :
    ¬ Disturbs cfg s (.request r) := by
  rintro (hr | ⟨sub', harms, hlocked⟩ | ⟨sub', key, hsends, _⟩)
  · exact not_relocks hsid hr
  · obtain ⟨_, hlen, hsub', _⟩ := harms
    rw [hsub, Option.some.injEq] at hsub'
    subst hsub'
    exact h ⟨hlen, hlocked⟩
  · obtain ⟨_, hsub', _, heven, _⟩ := hsends
    rw [hsub, Option.some.injEq] at hsub'
    omega

theorem not_disturbs_of_key {sub : Nat} (hsid : r.sid = sidSecurityAccess)
    (hsub : r.subFunction = some sub) (heven : sub % 2 = 0)
    (h : ¬ (s.seedPending = some (sub - 1)
      ∧ (r.raw.drop 2).length = cfg.uds.security.seed.length
      ∧ r.raw.drop 2 ≠ expectedKey cfg.uds.security.seed cfg.uds.security)) :
    ¬ Disturbs cfg s (.request r) := by
  rintro (hr | ⟨sub', harms, _⟩ | ⟨sub', key, hsends, hpending, hlen, hne⟩)
  · exact not_relocks hsid hr
  · obtain ⟨_, _, hsub', hodd⟩ := harms
    rw [hsub, Option.some.injEq] at hsub'
    omega
  · obtain ⟨_, hsub', _, _, hkey⟩ := hsends
    rw [hsub, Option.some.injEq] at hsub'
    subst hsub' hkey
    exact h ⟨hpending, hlen, hne⟩

/-- The sub-function of a SecurityAccess request is its second byte. -/
theorem subFunction_of_length (hsid : r.sid = sidSecurityAccess) (hlen : ¬ r.raw.length < 2) :
    r.subFunction = some (r.subFunction.getD 0) := by
  have hbyte : r.raw[1]? ≠ none := by
    rw [ne_eq, List.getElem?_eq_none_iff]
    omega
  obtain ⟨b, hb⟩ := Option.ne_none_iff_exists'.mp hbyte
  unfold UdsRequest.subFunction UdsRequest.hasSubFunction
  rw [hsid, hb]
  rfl

theorem requestSeed_moves {sub : Nat} (hsid : r.sid = sidSecurityAccess)
    (hsub : r.subFunction = some sub) (hodd : sub % 2 = 1) :
    Moves cfg s (.request r) (requestSeed sub cfg r s d).1 := by
  unfold requestSeed
  dsimp only
  split
  · rename_i hlen
    exact .kept (not_disturbs_of_seed hsid hsub hodd (fun h => hlen h.1)) rfl rfl
  rename_i hlen
  split
  · rename_i hlevel
    refine .kept (not_disturbs_of_seed hsid hsub hodd ?_) rfl rfl
    rintro ⟨_, hlocked⟩
    omega
  · rename_i hlevel
    have hlocked : s.securityLevel < levelOf sub := by omega
    exact .armed sub ⟨⟨hsid, by simpa using hlen, hsub, hodd⟩, hlocked⟩ rfl rfl

theorem sendKey_moves {sub : Nat} (hsid : r.sid = sidSecurityAccess)
    (hsub : r.subFunction = some sub) (hne : sub ≠ 0) (heven : sub % 2 = 0) :
    Moves cfg s (.request r) (sendKey sub cfg r s d).1 := by
  have hsends : r.SendsKey sub (r.raw.drop 2) := ⟨hsid, hsub, hne, heven, rfl⟩
  unfold sendKey
  dsimp only
  split
  · rename_i hpending
    exact .kept (not_disturbs_of_key hsid hsub heven (fun h => hpending h.1)) rfl rfl
  rename_i hpending
  have hpending : s.seedPending = some (sub - 1) := by simpa using hpending
  split
  · rename_i hlen
    exact .kept (not_disturbs_of_key hsid hsub heven (fun h => hlen h.2.1)) rfl rfl
  rename_i hlen
  have hlen : (r.raw.drop 2).length = cfg.uds.security.seed.length := by simpa using hlen
  split
  · rename_i hwrong
    have hwrong : WrongKey cfg s r := ⟨sub, _, hsends, hpending, hlen, hwrong⟩
    split
    · exact .refused hwrong rfl rfl
    · exact .refused hwrong rfl rfl
  · rename_i hkey
    have hkey : r.raw.drop 2 = expectedKey cfg.uds.security.seed cfg.uds.security := by
      simpa using hkey
    exact .unlocked sub (hkey ▸ hsends) hpending rfl rfl

theorem securityAccess_moves (hsid : r.sid = sidSecurityAccess) :
    Moves cfg s (.request r) (securityAccess cfg r s d).1 := by
  unfold securityAccess
  dsimp only
  split
  · -- there is no sub-function to ask for
    rename_i hlen
    have hnone : r.subFunction = none := by
      unfold UdsRequest.subFunction
      rw [List.getElem?_eq_none (by omega)]
      split <;> rfl
    refine .kept ?_ rfl rfl
    rintro (h | ⟨sub, harms, _⟩ | ⟨sub, key, hsends, _⟩)
    · exact not_relocks hsid h
    · have := harms.2.2.1
      rw [hnone] at this
      cases this
    · have := hsends.2.1
      rw [hnone] at this
      cases this
  rename_i hlen
  have hsub := subFunction_of_length hsid hlen
  split
  · rename_i hzero
    refine .kept ?_ rfl rfl
    rintro (h | ⟨sub, harms, _⟩ | ⟨sub, key, hsends, _⟩)
    · exact not_relocks hsid h
    · obtain ⟨_, _, hsub', hodd⟩ := harms
      rw [hsub', Option.getD_some] at hzero
      omega
    · obtain ⟨_, hsub', hne, _⟩ := hsends
      rw [hsub', Option.getD_some] at hzero
      exact hne hzero
  rename_i hne
  split
  · rename_i hodd
    exact requestSeed_moves hsid hsub hodd
  · rename_i heven
    exact sendKey_moves hsid hsub hne (by omega)

theorem diagnosticSessionControl_moves (hsid : r.sid = sidDiagnosticSessionControl) :
    Moves cfg s (.request r) (diagnosticSessionControl cfg r s d).1 := by
  have hother : r.sid ≠ sidSecurityAccess := by
    rw [hsid]
    decide
  have hreset : ¬ r.IsSupportedReset := by
    rintro ⟨h, _⟩
    rw [hsid] at h
    revert h
    decide
  unfold diagnosticSessionControl
  dsimp only
  split
  · rename_i hlen
    refine .kept (not_disturbs hother ?_) rfl rfl
    rintro (⟨_, h, _⟩ | h)
    · exact hlen h
    · exact hreset h
  rename_i hlen
  split
  · rename_i hsub
    refine .kept (not_disturbs hother ?_) rfl rfl
    rintro (⟨_, _, h⟩ | h)
    · exact hsub h
    · exact hreset h
  · rename_i hsub
    have hrights : (s.enterSession cfg (r.subFunction.getD 0 : Nat)).rights = _ :=
      enterSession_rights s (r.subFunction.getD 0 : Nat)
    refine .relocked (.inl ⟨hsid, by simpa using hlen, by simpa using hsub⟩) ?_ ?_
    · exact congrArg Rights.securityLevel hrights
    · exact congrArg Rights.seedPending hrights

/-- A service that leaves the level and the seed alone. -/
theorem moves_of_rights {s' : SessionState} (hsession : r.sid ≠ sidDiagnosticSessionControl)
    (hreset : r.sid ≠ sidEcuReset) (hsecurity : r.sid ≠ sidSecurityAccess)
    (h : s'.rights = s.rights) : Moves cfg s (.request r) s' := by
  refine .kept (not_disturbs hsecurity ?_) ?_ ?_
  · rintro (h | h)
    · exact hsession h.1
    · exact hreset h.1
  · exact congrArg Rights.securityLevel h
  · exact congrArg Rights.seedPending h

theorem coreService_moves {service : Service} (h : coreService cfg r.sid = some service) :
    Moves cfg s (.request r) (service cfg r s d).1 := by
  cases coreService_cases h with
  | diagnosticSessionControl hsid => exact diagnosticSessionControl_moves hsid
  | testerPresent hsid =>
      refine moves_of_rights (by rw [hsid]; decide) (by rw [hsid]; decide) (by rw [hsid]; decide) ?_
      unfold testerPresent
      split
      · rfl
      split
      · rfl
      · exact refreshS3_rights s
  | securityAccess hsid => exact securityAccess_moves hsid
  | readDataByIdentifier hsid =>
      rw [readDataByIdentifier_state]
      exact moves_of_rights (by rw [hsid]; decide) (by rw [hsid]; decide) (by rw [hsid]; decide) rfl
  | writeDataByIdentifier hsid =>
      rw [writeDataByIdentifier_state]
      exact moves_of_rights (by rw [hsid]; decide) (by rw [hsid]; decide) (by rw [hsid]; decide) rfl
  | routineControl hsid =>
      rw [routineControl_state]
      exact moves_of_rights (by rw [hsid]; decide) (by rw [hsid]; decide) (by rw [hsid]; decide) rfl

/-- The S3 timer that every request restarts is no part of it. -/
theorem Moves.of_refreshS3 {e : WorkEvent} {s' : SessionState}
    (h : Moves cfg (s.refreshS3 cfg) e s') : Moves cfg s e s' := by
  obtain ⟨armed, heq⟩ := SessionState.refreshS3_eq cfg s
  rw [heq] at h
  cases h with
  | relocked h hlevel hseed => exact .relocked h hlevel hseed
  | armed sub h hlevel hseed => exact .armed sub h hlevel hseed
  | refused h hlevel hseed => exact .refused h hlevel hseed
  | unlocked sub h hpending hlevel hseed => exact .unlocked sub h hpending hlevel hseed
  | kept h hlevel hseed =>
      refine .kept (fun hd => h ?_) hlevel hseed
      cases e with
      | request r => exact hd
      | s3Expiry => trivial

/-- **All that one event does to the level and the pending seed.** -/
theorem workStep_moves (hen : cfg.uds.security.enabled = true) {c c' : EcuCore} {e : WorkEvent}
    (hplace : ResetsInPlace cfg e) (h : workStep cfg st c e = some c') :
    Moves cfg (c.states st) e (c'.states st) := by
  cases e with
  | s3Expiry =>
      simp only [workStep, Option.ite_none_right_eq_some, Option.some.injEq] at h
      have hrights : ((c.s3Expiry cfg st).states st).rights = Rights.none cfg :=
        s3Expiry_rights c st
      rw [h.2] at hrights
      exact .relocked trivial (congrArg Rights.securityLevel hrights)
        (congrArg Rights.seedPending hrights)
  | request r =>
      cases h
      refine Moves.of_refreshS3 ?_
      by_cases hsid : r.sid = sidEcuReset
      · by_cases hr : r.IsSupportedReset
        · have hrights : ((serve cfg r st c).1.states st).rights = _ :=
            serve_reset_rights hr (hplace hr) c
          exact .relocked (.inr hr) (congrArg Rights.securityLevel hrights)
            (congrArg Rights.seedPending hrights)
        · have hother : r.sid ≠ sidSecurityAccess := by
            rw [hsid]
            decide
          have hstate : ((serve cfg r st c).1.states st) = (c.states st).refreshS3 cfg := by
            unfold serve dispatch
            rw [if_pos hsid, ecuReset_refused hsid hr]
            simp
          rw [hstate]
          refine .kept (not_disturbs hother ?_) rfl rfl
          rintro (h | h)
          · have := h.1.symm.trans hsid
            revert this
            decide
          · exact hr h
      · unfold serve dispatch
        rw [if_neg hsid]
        cases hservice : coreService cfg r.sid with
        | none =>
            -- the three services that matter are there
            simp only [EcuCore.setState_states, if_pos]
            refine moves_of_rights ?_ hsid ?_ rfl
            · intro h
              rw [h] at hservice
              cases hservice
            · intro h
              rw [h] at hservice
              simp [coreService, sidSecurityAccess, sidDiagnosticSessionControl, sidTesterPresent,
                hen] at hservice
        | some service =>
            simp only [EcuCore.setState_states, if_pos]
            exact coreService_moves hservice

/-! ## §3. What is behind a seed and behind a level. -/

/-- The run `es` from `c₀` to `c` asks for the seed of a locked level, and
nothing disturbs the exchange from there on. -/
def Armed (cfg : EcuConfig) (st : StateId) (c₀ : EcuCore) (es : List WorkEvent) (c : EcuCore)
    (sub : Nat) : Prop :=
  ∃ before r between c₁ c₂, es = before ++ .request r :: between
    ∧ Transition.exec (workStep cfg st) c₀ before = some c₁
    ∧ ArmsSeed (c₁.states st) r sub
    ∧ workStep cfg st c₁ (.request r) = some c₂
    ∧ Transition.exec (workStep cfg st) c₂ between = some c
    ∧ Transition.Along (workStep cfg st) (fun c e => ¬ Disturbs cfg (c.states st) e) c₂ between

/-- The last change of the level, in the run `es` from `c₀` to `c`, was a
sendKey with the expected key behind an exchange armed for it. -/
def Unlocked (cfg : EcuConfig) (st : StateId) (c₀ : EcuCore) (es : List WorkEvent) (c : EcuCore)
    (level : Nat) : Prop :=
  ∃ before r after c₁ c₂, es = before ++ .request r :: after
    ∧ Armed cfg st c₀ before c₁ (2 * level - 1)
    ∧ (c₁.states st).securityLevel < level
    ∧ r.SendsKey (2 * level) (expectedKey cfg.uds.security.seed cfg.uds.security)
    ∧ workStep cfg st c₁ (.request r) = some c₂
    ∧ Transition.exec (workStep cfg st) c₂ after = some c
    ∧ Transition.Along (workStep cfg st) (fun c _ => (c.states st).securityLevel = level) c₂ after

variable {c₀ c c' : EcuCore} {es : List WorkEvent} {e : WorkEvent}

theorem Armed.snoc {sub : Nat} (h : Armed cfg st c₀ es c sub)
    (hd : ¬ Disturbs cfg (c.states st) e) (hstep : workStep cfg st c e = some c') :
    Armed cfg st c₀ (es ++ [e]) c' sub := by
  obtain ⟨before, r, between, c₁, c₂, rfl, hbefore, harms, hr, hbetween, hal⟩ := h
  refine ⟨before, r, between ++ [e], c₁, c₂, ?_, hbefore, harms, hr, ?_, ?_⟩
  · rw [List.append_assoc, List.cons_append]
  · exact Transition.exec_snoc hbetween hstep
  · exact hal.snoc hbetween hd

theorem Unlocked.snoc {level : Nat} (h : Unlocked cfg st c₀ es c level)
    (hlevel : (c.states st).securityLevel = level) (hstep : workStep cfg st c e = some c') :
    Unlocked cfg st c₀ (es ++ [e]) c' level := by
  obtain ⟨before, r, after, c₁, c₂, rfl, harmed, hlocked, hkey, hr, hafter, hal⟩ := h
  refine ⟨before, r, after ++ [e], c₁, c₂, ?_, harmed, hlocked, hkey, hr, ?_, ?_⟩
  · rw [List.append_assoc, List.cons_append]
  · exact Transition.exec_snoc hafter hstep
  · exact hal.snoc hafter hlevel

/-- What holds of the state after the run `es` from `c₀`. -/
structure SecurityInv (cfg : EcuConfig) (st : StateId) (c₀ : EcuCore) (es : List WorkEvent)
    (c : EcuCore) : Prop where
  run : Transition.exec (workStep cfg st) c₀ es = some c
  seed : ∀ sub, (c.states st).seedPending = some sub → Armed cfg st c₀ es c sub
  /-- A pending seed is for a level above the current one. -/
  pending : ∀ sub, (c.states st).seedPending = some sub →
    (c.states st).securityLevel < levelOf sub
  level : 0 < (c.states st).securityLevel →
    Unlocked cfg st c₀ es c (c.states st).securityLevel

theorem SecurityInv.step (hen : cfg.uds.security.enabled = true)
    (hinv : SecurityInv cfg st c₀ es c) (hplace : ResetsInPlace cfg e)
    (h : workStep cfg st c e = some c') : SecurityInv cfg st c₀ (es ++ [e]) c' := by
  have hrun := Transition.exec_snoc hinv.run h
  have hmoves := workStep_moves hen hplace h
  -- an unchanged level has the same past
  have hkeep : (c'.states st).securityLevel = (c.states st).securityLevel →
      0 < (c'.states st).securityLevel →
      Unlocked cfg st c₀ (es ++ [e]) c' (c'.states st).securityLevel := by
    intro heq hpos
    rw [heq] at hpos ⊢
    exact (hinv.level hpos).snoc rfl h
  cases hmoves with
  -- locked again: no seed is pending and the level is 0
  | relocked _ hlevel hseed =>
      refine ⟨hrun, ?_, ?_, ?_⟩
      · intro sub hsub
        rw [hseed] at hsub
        cases hsub
      · intro sub hsub
        rw [hseed] at hsub
        cases hsub
      · intro hpos
        omega
  -- a seed was sent: this request is the one the key has to follow
  | @armed r _ sub harms hlevel hseed =>
      refine ⟨hrun, ?_, ?_, hkeep hlevel⟩
      · intro sub' hsub'
        rw [hseed, Option.some.injEq] at hsub'
        subst hsub'
        exact ⟨es, r, [], c, c', rfl, hinv.run, harms, h, rfl, trivial⟩
      · intro sub' hsub'
        rw [hseed, Option.some.injEq] at hsub'
        rw [hlevel, ← hsub']
        exact harms.2
  -- a refusal clears the seed and keeps the level
  | refused _ hlevel hseed =>
      refine ⟨hrun, ?_, ?_, hkeep hlevel⟩
      · intro sub hsub
        rw [hseed] at hsub
        cases hsub
      · intro sub hsub
        rw [hseed] at hsub
        cases hsub
  -- the key was right: the seed before it is in the past of the run
  | @unlocked r _ sub hkey hpending hlevel hseed =>
      refine ⟨hrun, ?_, ?_, ?_⟩
      · intro sub' hsub'
        rw [hseed] at hsub'
        cases hsub'
      · intro sub' hsub'
        rw [hseed] at hsub'
        cases hsub'
      -- a key's sub-function is even and its seed's is the one before, so they name one level
      · intro _
        have hne := hkey.2.2.1
        have heven := hkey.2.2.2.1
        have hsub : 2 * levelOf sub = sub := by
          unfold levelOf
          omega
        have hless := hinv.pending _ hpending
        have hprev : levelOf (sub - 1) = levelOf sub := by
          unfold levelOf
          omega
        rw [hlevel]
        refine ⟨es, r, [], c, c', rfl, ?_, hprev ▸ hless, ?_, h, rfl, trivial⟩
        · rw [hsub]
          exact hinv.seed _ hpending
        · rw [hsub]
          exact hkey
  -- nothing about the access changed: the past only grows
  | kept hd hlevel hseed =>
      refine ⟨hrun, ?_, ?_, hkeep hlevel⟩
      · intro sub hsub
        rw [hseed] at hsub
        exact (hinv.seed sub hsub).snoc hd h
      · intro sub hsub
        rw [hseed] at hsub
        rw [hlevel]
        exact hinv.pending sub hsub

theorem securityInv_run (hen : cfg.uds.security.enabled = true)
    (hfresh : (c₀.states st).rights = Rights.none cfg) (es : List WorkEvent) (c : EcuCore)
    (hplace : ∀ e ∈ es, ResetsInPlace cfg e)
    (h : Transition.exec (workStep cfg st) c₀ es = some c) : SecurityInv cfg st c₀ es c := by
  refine Transition.exec_history
    (fun es c => (∀ e ∈ es, ResetsInPlace cfg e) → SecurityInv cfg st c₀ es c) ?_ ?_ es c h hplace
  · intro _
    have hlevel : (c₀.states st).securityLevel = 0 := congrArg Rights.securityLevel hfresh
    have hseed : (c₀.states st).seedPending = none := congrArg Rights.seedPending hfresh
    refine ⟨rfl, ?_, ?_, ?_⟩
    · intro sub hsub
      rw [hseed] at hsub
      cases hsub
    · intro sub hsub
      rw [hseed] at hsub
      cases hsub
    · intro hpos
      omega
  · intro es c e c' hinv hstep hplace
    refine (hinv (fun e' he' => hplace e' (List.mem_append_left _ he'))).step hen ?_ hstep
    exact hplace e (by simp)

/-! ## §4. Soundness. -/

/-- What holds of a session state after the run `es` from `c₀`. -/
structure SecuritySound (cfg : EcuConfig) (st : StateId) (c₀ : EcuCore) (es : List WorkEvent)
    (c : EcuCore) : Prop where
  unlocked : ∀ level, 0 < level → (c.states st).securityLevel = level →
    Unlocked cfg st c₀ es c level
  relocks : ∀ e c', Relocks cfg e → ResetsInPlace cfg e → workStep cfg st c e = some c' →
    (c'.states st).securityLevel = 0 ∧ (c'.states st).seedPending = none
  pending : ∀ sub, (c.states st).seedPending = some sub →
    (c.states st).securityLevel < levelOf sub
  raises : ∀ r sub key c', r.SendsKey sub key → workStep cfg st c (.request r) = some c' →
    (c.states st).securityLevel ≤ (c'.states st).securityLevel

/-- An event that locks the state does nothing else to it. -/
theorem Moves.of_relocks {s s' : SessionState} (h : Moves cfg s e s') (hr : Relocks cfg e) :
    s'.securityLevel = 0 ∧ s'.seedPending = none := by
  cases h with
  | relocked _ hlevel hseed => exact ⟨hlevel, hseed⟩
  | armed sub harms => exact absurd hr (not_relocks harms.1.1)
  | refused hwrong =>
      obtain ⟨sub, key, hsends, _⟩ := hwrong
      exact absurd hr (not_relocks hsends.1)
  | unlocked sub hkey => exact absurd hr (not_relocks hkey.1)
  | kept hd =>
      refine absurd ?_ hd
      cases e with
      | request r => exact .inl hr
      | s3Expiry => trivial

/-- **SecurityAccess is sound** along every run of requests and S3 expiries
on one fresh session state in which resets leave the connection open. -/
theorem security_access_sound (cfg : EcuConfig) (hen : cfg.uds.security.enabled = true)
    (st : StateId) (c₀ : EcuCore) (hfresh : (c₀.states st).rights = Rights.none cfg)
    (es : List WorkEvent) (hplace : ∀ e ∈ es, ResetsInPlace cfg e) (c : EcuCore)
    (h : Transition.exec (workStep cfg st) c₀ es = some c) : SecuritySound cfg st c₀ es c := by
  have hinv := securityInv_run hen hfresh es c hplace h
  refine ⟨?_, ?_, hinv.pending, ?_⟩
  · rintro level hpos rfl
    exact hinv.level hpos
  · intro e c' hr hplace hstep
    exact (workStep_moves hen hplace hstep).of_relocks hr
  · intro r sub key c' hsends hstep
    have hnot : ¬ Relocks cfg (.request r) := not_relocks hsends.1
    have hplace : ResetsInPlace cfg (.request r) := fun hr => absurd (.inr hr) hnot
    have hmoves := workStep_moves hen hplace hstep
    cases hmoves with
    | relocked hr => exact absurd hr hnot
    | armed _ _ hlevel => exact Nat.le_of_eq hlevel.symm
    | refused _ hlevel => exact Nat.le_of_eq hlevel.symm
    | unlocked sub' _ hpending hlevel =>
        have hless := hinv.pending _ hpending
        have hmono : levelOf (sub' - 1) ≤ levelOf sub' := by
          unfold levelOf
          omega
        omega
    | kept _ hlevel => exact Nat.le_of_eq hlevel.symm

/-- A seed is asked for and the right key sent. -/
def unlock : List WorkEvent :=
  [.request ⟨[0x27, 0x01], 0x0E00, 0x0003, false⟩,
   .request ⟨[0x27, 0x02, 0xB4, 0x87, 0x96, 0xE1], 0x0E00, 0x0003, false⟩]

theorem security_access_sound_unlock :
    ∃ c, Transition.exec (workStep {} 0) (EcuCore.init {}) unlock = some c
      ∧ Unlocked {} 0 (EcuCore.init {}) unlock c 1 := by
  have hrun : ((Transition.exec (workStep {} 0) (EcuCore.init {}) unlock).map
      (fun c => (c.states 0).securityLevel)) = some 1 := by decide
  obtain ⟨c, hc, hlevel⟩ := Option.map_eq_some_iff.mp hrun
  have hsound := security_access_sound {} rfl 0 (EcuCore.init {}) rfl unlock (fun e _ => by
    cases e with
    | request r => exact fun _ => rfl
    | s3Expiry => trivial) c hc
  exact ⟨c, hc, hsound.unlocked 1 (by decide) hlevel⟩

/-- A DiagnosticSessionControl for a session that is not configured is
refused, and the level stays. -/
theorem refused_session_keeps_level :
    ¬ ∀ (cfg : EcuConfig) (st : StateId) (c₀ c c' : EcuCore) (es : List WorkEvent)
      (r : UdsRequest), cfg.Accepted → cfg.uds.security.enabled = true →
      (c₀.states st).rights = Rights.none cfg →
      Transition.exec (workStep cfg st) c₀ es = some c →
      r.sid = sidDiagnosticSessionControl → workStep cfg st c (.request r) = some c' →
      (c'.states st).securityLevel = 0 ∧ (c'.states st).seedPending = none := by
  intro hall
  have hrun : ((Transition.exec (workStep {} 0) (EcuCore.init {})
      (unlock ++ [.request ⟨[0x10, 0x05], 0x0E00, 0x0003, false⟩])).map
      (fun c => (c.states 0).securityLevel)) = some 1 := by decide
  obtain ⟨c', hc', hlevel⟩ := Option.map_eq_some_iff.mp hrun
  obtain ⟨c, hc, hlast⟩ := Transition.exec_append_eq_some.mp hc'
  obtain ⟨u, hu, hlast⟩ := Transition.exec_cons_eq_some.mp hlast
  rw [Transition.exec_nil, Option.some.injEq] at hlast
  subst hlast
  have hzero := (hall {} 0 (EcuCore.init {}) c u unlock _ EcuConfig.accepted_default rfl rfl hc rfl
    hu).1
  rw [hlevel] at hzero
  cases hzero

end DoipPlayground.VirtualEcu
