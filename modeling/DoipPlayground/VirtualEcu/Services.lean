/-
  DoipPlayground.VirtualEcu.Services
  ──────────────────────────────────
  **THE BUILT-IN UDS SERVICES AND THE DISPATCHER WITHOUT PLUGINS**
  (`services/`, `dispatcher.py`).

  A service works on the state of the tester that asks and on the data all
  testers share; it returns both with its result.  `ecuReset` alone
  touches the table of session states, so it works on the whole core.
  Without plugins no service awaits anything: a dispatch is one step.

    • `coreService_state` — all that a service can do to a session state,
    • `dispatch_effect` — all that a dispatch can do to the core.
-/
import DoipPlayground.VirtualEcu.Core

namespace DoipPlayground.VirtualEcu

open Wire

/-- A service: the asking tester's state, the shared data, the result. -/
abbrev Service :=
  EcuConfig → UdsRequest → SessionState → EcuData → SessionState × EcuData × Result

/-! ## §1. DiagnosticSessionControl and TesterPresent. -/

def diagnosticSessionControl : Service := fun cfg request s d =>
  if request.raw.length ≠ 2 then (s, d, request.nrc nrcIncorrectMessageLength)
  else
    let sub := request.subFunction.getD 0
    if (sub : Int) ∉ cfg.uds.sessions then (s, d, request.nrc nrcSubFunctionNotSupported)
    else
      let p2 := cfg.uds.p2ServerMs % 65536
      let p2Star := cfg.uds.p2StarServerMs / 10 % 65536
      (s.enterSession cfg sub, d,
        .bytes (request.positive ([UInt8.ofNat sub] ++ packH p2 ++ packH p2Star)))

def testerPresent : Service := fun cfg request s d =>
  if request.raw.length ≠ 2 then (s, d, request.nrc nrcIncorrectMessageLength)
  else if request.subFunction ≠ some 0x00 then (s, d, request.nrc nrcSubFunctionNotSupported)
  else (s.refreshS3 cfg, d, .bytes (request.positive [0x00]))

/-! ## §2. SecurityAccess. -/

/-- Security level granted by a sub-function: 0x01 and 0x02 grant 1, and so on. -/
def levelOf (sub : Nat) : Nat := (sub + 1) / 2

def expectedKey (seed : Bytes) (config : SecurityConfig) : Bytes :=
  match config.algorithm with
  | .none => seed
  | .add => List.zipWith (fun s k => s + k) seed config.key
  | .xor => List.zipWith (fun s k => s ^^^ k) seed config.key

def requestSeed (sub : Nat) : Service := fun cfg request s d =>
  let config := cfg.uds.security
  let level := levelOf sub
  if request.raw.length ≠ 2 then (s, d, request.nrc nrcIncorrectMessageLength)
  else if level ≤ s.securityLevel then
    -- already unlocked: an all-zero seed, and no exchange is armed
    (s, d, .bytes (request.positive
      (UInt8.ofNat sub :: List.replicate config.seed.length 0x00)))
  else
    ({ s with seedPending := some sub }, d,
      .bytes (request.positive (UInt8.ofNat sub :: config.seed)))

def sendKey (sub : Nat) : Service := fun cfg request s d =>
  let config := cfg.uds.security
  let key := request.raw.drop 2
  if s.seedPending ≠ some (sub - 1) then (s, d, request.nrc nrcRequestSequenceError)
  else if key.length ≠ config.seed.length then (s, d, request.nrc nrcIncorrectMessageLength)
  else if key ≠ expectedKey config.seed config then
    let attempts := s.securityAttempts + 1
    let s := { s with securityAttempts := attempts, seedPending := none }
    if config.maxAttempts ≤ attempts then (s, d, request.nrc nrcExceededNumberOfAttempts)
    else (s, d, request.nrc nrcInvalidKey)
  else
    ({ s with securityLevel := levelOf sub, securityAttempts := 0, seedPending := none }, d,
      .bytes (request.positive [UInt8.ofNat sub]))

/-- requestSeed on odd sub-functions, sendKey on even ones. -/
def securityAccess : Service := fun cfg request s d =>
  if request.raw.length < 2 then (s, d, request.nrc nrcIncorrectMessageLength)
  else
    let sub := request.subFunction.getD 0
    if sub = 0x00 then (s, d, request.nrc nrcSubFunctionNotSupported)
    else if sub % 2 = 1 then requestSeed sub cfg request s d
    else sendKey sub cfg request s d

/-! ## §3. Data identifiers. -/

/-- The YAML session and security gates of one DID or routine; `none` lets
the request pass. -/
def checkGates (request : UdsRequest) (s : SessionState) (sessions : Option (List Int))
    (security : Int) : Option Result :=
  if (sessions.map (fun l => l.contains s.sessionType)) = some false then
    some (request.nrc nrcRequestOutOfRange)
  else if (s.securityLevel : Int) < security then some (request.nrc nrcSecurityAccessDenied)
  else none

/-- `_unknown_did`: an identifier to answer with, or nothing. -/
def unknownDid (cfg : EcuConfig) (request : UdsRequest) (did : Nat) :
    Except Result (Option Bytes) :=
  match cfg.uds.unknownDid with
  | .silent => .ok none
  | .echo => .ok (some (packH did))
  | .nrc => .error (request.nrc nrcRequestOutOfRange)

/-- DIDs the core answers without any configuration.  A session number
outside a byte makes `bytes([session_type])` raise. -/
def dynamicValue (s : SessionState) (did : Nat) : Except Result (Option Bytes) :=
  if did = didActiveDiagnosticSession then
    if 0 ≤ s.sessionType ∧ s.sessionType < 256 then
      .ok (some [UInt8.ofNat s.sessionType.toNat])
    else .error .error
  else .ok none

def readOne (cfg : EcuConfig) (request : UdsRequest) (s : SessionState) (d : EcuData)
    (did : Nat) : Except Result (Option Bytes) :=
  match cfg.dids did with
  | none => unknownDid cfg request did
  | some spec =>
      if !spec.read then unknownDid cfg request did
      else
        match spec.readNrc, checkGates request s spec.readSessions spec.readSecurity with
        | some nrc, _ => .error (request.nrc nrc)
        | none, some refusal => .error refusal
        | none, none =>
            if spec.dynamic then
              match dynamicValue s did with
              | .ok none => .error (request.nrc nrcRequestOutOfRange)
              | r => r
            else
              match d.store did with
              | none => .error (request.nrc nrcRequestOutOfRange)
              | some stored => .ok (some stored)

/-- The records of the DIDs that are served, in order, or the first refusal. -/
def readAll (cfg : EcuConfig) (request : UdsRequest) (s : SessionState) (d : EcuData) :
    List Nat → Except Result (List Bytes)
  | [] => .ok []
  | did :: rest =>
      match readOne cfg request s d did with
      | .error refusal => .error refusal
      | .ok none => readAll cfg request s d rest
      | .ok (some value) =>
          match readAll cfg request s d rest with
          | .error refusal => .error refusal
          | .ok records => .ok ((packH did ++ value) :: records)

def readDataByIdentifier : Service := fun cfg request s d =>
  let body := request.data
  if body = [] ∨ body.length % 2 ≠ 0 then (s, d, request.nrc nrcIncorrectMessageLength)
  else
    match readAll cfg request s d request.dids with
    | .error refusal => (s, d, refusal)
    | .ok [] => (s, d, .noResponse)
    | .ok records =>
        let response := request.positive records.flatten
        if cfg.doip.maxPayloadBytes < response.length then
          (s, d, request.nrc nrcResponseTooLong)
        else (s, d, .bytes response)

def writeDataByIdentifier : Service := fun cfg request s d =>
  let body := request.data
  if body.length < 3 then (s, d, request.nrc nrcIncorrectMessageLength)
  else
    let did := fromBytes (body.take 2)
    let value := body.drop 2
    match cfg.dids did with
    | none =>
        match unknownDid cfg request did with
        | .error refusal => (s, d, refusal)
        | .ok none => (s, d, .noResponse)
        | .ok (some echoed) => (s, d, .bytes (request.positive echoed))
    | some spec =>
        if !spec.write then (s, d, request.nrc nrcRequestOutOfRange)
        else
          match spec.writeNrc, checkGates request s spec.writeSessions spec.writeSecurity with
          | some nrc, _ => (s, d, request.nrc nrc)
          | none, some refusal => (s, d, refusal)
          | none, none =>
              if spec.length.isSome ∧ spec.length ≠ some value.length then
                (s, d, request.nrc nrcIncorrectMessageLength)
              else
                (s, { d with store := Function.update d.store did (some value) },
                  .bytes (request.positive (packH did)))

/-! ## §4. RoutineControl. -/

/-- Remember whether a routine has been started. -/
def track (d : EcuData) (rid control : Nat) : EcuData :=
  if control = 0x01 then { d with routines := Function.update d.routines rid (some true) }
  else if control = 0x02 then { d with routines := Function.update d.routines rid (some false) }
  else d

def routineControl : Service := fun cfg request s d =>
  if request.raw.length < 4 then (s, d, request.nrc nrcIncorrectMessageLength)
  else
    let control := request.subFunction.getD 0
    if control ≠ 0x01 ∧ control ≠ 0x02 ∧ control ≠ 0x03 then
      (s, d, request.nrc nrcSubFunctionNotSupported)
    else
      let rid := fromBytes ((request.raw.drop 2).take 2)
      let header := UInt8.ofNat control :: packH rid
      match cfg.routines rid with
      | none => (s, d, request.nrc nrcRequestOutOfRange)
      | some spec =>
          match checkGates request s spec.sessions spec.security with
          | some refusal => (s, d, refusal)
          | none =>
              let started := (d.routines rid).getD false
              if control = 0x02 ∧ !started then (s, d, request.nrc nrcRequestSequenceError)
              else if control = 0x03 ∧ !started then
                (s, d, request.nrc nrcConditionsNotCorrect)
              else
                let record :=
                  if control = 0x01 then spec.start
                  else if control = 0x02 then spec.stop else spec.results
                (s, track d rid control, .bytes (request.positive (header ++ record)))

/-! ## §5. ECUReset. -/

/-- The sub-functions `_SUPPORTED` and the length check pass. -/
def UdsRequest.IsSupportedReset (request : UdsRequest) : Prop :=
  request.sid = sidEcuReset ∧ request.raw.length = 2
    ∧ (request.subFunction = some 0x01 ∨ request.subFunction = some 0x02
        ∨ request.subFunction = some 0x03)

instance (request : UdsRequest) : Decidable request.IsSupportedReset :=
  inferInstanceAs (Decidable (_ ∧ _ ∧ (_ ∨ _ ∨ _)))

def ecuReset (cfg : EcuConfig) (request : UdsRequest) (st : StateId) (c : EcuCore) :
    EcuCore × Result :=
  if request.raw.length ≠ 2 then (c, request.nrc nrcIncorrectMessageLength)
  else
    let sub := request.subFunction.getD 0
    if sub ≠ 0x01 ∧ sub ≠ 0x02 ∧ sub ≠ 0x03 then (c, request.nrc nrcSubFunctionNotSupported)
    else
      let c := { c with data := c.data.reset cfg cfg.uds.resetClearsWrites }
      let response := request.positive [UInt8.ofNat sub]
      if cfg.uds.resetDropsConnection then
        (c.dropSessionState request.sourceAddr, .abort response)
      else (c.setState st ((c.states st).reset cfg), .bytes response)

/-! ## §6. The dispatcher. -/

/-- The table of `CoreServices`, ECUReset apart; `none` for a service the
core does not have or has switched off. -/
def coreService (cfg : EcuConfig) (sid : UInt8) : Option Service :=
  if sid = sidDiagnosticSessionControl then some diagnosticSessionControl
  else if sid = sidTesterPresent then some testerPresent
  else if sid = sidSecurityAccess then
    if cfg.uds.security.enabled then some securityAccess else none
  else if sid = sidReadDataByIdentifier then some readDataByIdentifier
  else if sid = sidWriteDataByIdentifier then some writeDataByIdentifier
  else if sid = sidRoutineControl then some routineControl
  else none

/-- The `unknown_service` policy. -/
def fallback (cfg : EcuConfig) (request : UdsRequest) : Result :=
  match cfg.uds.unknownService with
  | .silent => .noResponse
  | .echo => .bytes (request.positive request.data)
  | .nrc => .negative nrcServiceNotSupported (some request.sid)

/-- `Dispatcher.dispatch` without plugins, for the tester whose state is `st`. -/
def dispatch (cfg : EcuConfig) (request : UdsRequest) (st : StateId) (c : EcuCore) :
    EcuCore × Result :=
  if request.sid = sidEcuReset then ecuReset cfg request st c
  else
    match coreService cfg request.sid with
    | none => (c, fallback cfg request)
    | some service =>
        let (s, d, result) := service cfg request (c.states st) c.data
        ({ c.setState st s with data := d }, result)

/-! ## §7. What a dispatch can do. -/

/-- The changes of a session state a service can make. -/
inductive StateEffect (cfg : EcuConfig) (s : SessionState) : SessionState → Prop
  | same : StateEffect cfg s s
  | entered (sub : Int) (h : sub ∈ cfg.uds.sessions) : StateEffect cfg s (s.enterSession cfg sub)
  | refreshed : StateEffect cfg s (s.refreshS3 cfg)
  | security (level : Nat) (seed : Option Nat) (attempts : Nat) :
      StateEffect cfg s
        { s with securityLevel := level, seedPending := seed, securityAttempts := attempts }

variable {cfg : EcuConfig}

/-- A gate that lets the request pass. -/
theorem checkGates_eq_none {r : UdsRequest} {s : SessionState} {sessions : Option (List Int)}
    {security : Int} (h : checkGates r s sessions security = none) :
    (∀ l, sessions = some l → s.sessionType ∈ l) ∧ security ≤ s.securityLevel := by
  unfold checkGates at h
  split at h
  · cases h
  rename_i hsession
  split at h
  · cases h
  rename_i hsecurity
  constructor
  · intro l hl
    subst hl
    by_cases hmem : s.sessionType ∈ l
    · exact hmem
    · exact absurd (by simp [hmem]) hsession
  · omega

/-- A gate that does not raises a negative response. -/
theorem checkGates_refusal {r : UdsRequest} {s : SessionState} {sessions : Option (List Int)}
    {security : Int} {refusal : Result} (h : checkGates r s sessions security = some refusal) :
    ∃ nrc, refusal = r.nrc nrc := by
  unfold checkGates at h
  split at h
  · exact ⟨_, (Option.some.inj h).symm⟩
  split at h
  · exact ⟨_, (Option.some.inj h).symm⟩
  · cases h

theorem requestSeed_state (sub : Nat) (r : UdsRequest) (s : SessionState) (d : EcuData) :
    StateEffect cfg s (requestSeed sub cfg r s d).1 := by
  unfold requestSeed
  dsimp only
  split
  · exact .same
  · split
    · exact .same
    · exact .security s.securityLevel (some sub) s.securityAttempts

theorem sendKey_state (sub : Nat) (r : UdsRequest) (s : SessionState) (d : EcuData) :
    StateEffect cfg s (sendKey sub cfg r s d).1 := by
  unfold sendKey
  dsimp only
  split
  · exact .same
  split
  · exact .same
  split
  · split
    · exact .security s.securityLevel none (s.securityAttempts + 1)
    · exact .security s.securityLevel none (s.securityAttempts + 1)
  · exact .security (levelOf sub) none 0

theorem readDataByIdentifier_state (r : UdsRequest) (s : SessionState) (d : EcuData) :
    (readDataByIdentifier cfg r s d).1 = s := by
  unfold readDataByIdentifier
  dsimp only
  split
  · rfl
  split
  · rfl
  · rfl
  · split <;> rfl

theorem writeDataByIdentifier_state (r : UdsRequest) (s : SessionState) (d : EcuData) :
    (writeDataByIdentifier cfg r s d).1 = s := by
  unfold writeDataByIdentifier
  dsimp only
  split
  · rfl
  split
  · split <;> rfl
  · split
    · rfl
    split
    · rfl
    · rfl
    · split <;> rfl

theorem routineControl_state (r : UdsRequest) (s : SessionState) (d : EcuData) :
    (routineControl cfg r s d).1 = s := by
  unfold routineControl
  dsimp only
  split
  · rfl
  split
  · rfl
  split
  · rfl
  split
  · rfl
  split
  · rfl
  split <;> rfl

/-- A service of the table, with the SID that it has there. -/
inductive CoreService (cfg : EcuConfig) (sid : UInt8) : Service → Prop where
  | diagnosticSessionControl (hsid : sid = sidDiagnosticSessionControl) :
      CoreService cfg sid diagnosticSessionControl
  | testerPresent (hsid : sid = sidTesterPresent) : CoreService cfg sid testerPresent
  | securityAccess (hsid : sid = sidSecurityAccess) (henabled : cfg.uds.security.enabled = true) :
      CoreService cfg sid securityAccess
  | readDataByIdentifier (hsid : sid = sidReadDataByIdentifier) :
      CoreService cfg sid readDataByIdentifier
  | writeDataByIdentifier (hsid : sid = sidWriteDataByIdentifier) :
      CoreService cfg sid writeDataByIdentifier
  | routineControl (hsid : sid = sidRoutineControl) : CoreService cfg sid routineControl

theorem coreService_cases {sid : UInt8} {service : Service}
    (h : coreService cfg sid = some service) : CoreService cfg sid service := by
  unfold coreService at h
  split at h
  · rename_i hsid
    cases h
    exact .diagnosticSessionControl hsid
  split at h
  · rename_i hsid
    cases h
    exact .testerPresent hsid
  split at h
  · rename_i hsid
    rw [Option.ite_none_right_eq_some] at h
    obtain ⟨henabled, heq⟩ := h
    cases heq
    exact .securityAccess hsid henabled
  split at h
  · rename_i hsid
    cases h
    exact .readDataByIdentifier hsid
  split at h
  · rename_i hsid
    cases h
    exact .writeDataByIdentifier hsid
  split at h
  · rename_i hsid
    cases h
    exact .routineControl hsid
  · cases h

/-- **All that a service can do to the state of the tester that asks.** -/
theorem coreService_state {sid : UInt8} {service : Service} (h : coreService cfg sid = some service)
    (r : UdsRequest) (s : SessionState) (d : EcuData) :
    StateEffect cfg s (service cfg r s d).1 := by
  cases coreService_cases h with
  | diagnosticSessionControl =>
      unfold diagnosticSessionControl
      dsimp only
      split
      · exact .same
      split
      · exact .same
      · rename_i hsub
        exact .entered _ (by simpa using hsub)
  | testerPresent =>
      unfold testerPresent
      split
      · exact .same
      split
      · exact .same
      · exact .refreshed
  | securityAccess =>
      unfold securityAccess
      dsimp only
      split
      · exact .same
      split
      · exact .same
      split
      · exact requestSeed_state _ r s d
      · exact sendKey_state _ r s d
  | readDataByIdentifier =>
      rw [readDataByIdentifier_state]
      exact .same
  | writeDataByIdentifier =>
      rw [writeDataByIdentifier_state]
      exact .same
  | routineControl =>
      rw [routineControl_state]
      exact .same

/-- **Only two services touch the shared data**, and each a part of its own. -/
theorem coreService_data {sid : UInt8} {service : Service} (h : coreService cfg sid = some service)
    (hwrite : sid ≠ sidWriteDataByIdentifier) (hroutine : sid ≠ sidRoutineControl)
    (r : UdsRequest) (s : SessionState) (d : EcuData) : (service cfg r s d).2.1 = d := by
  cases coreService_cases h with
  | diagnosticSessionControl =>
      unfold diagnosticSessionControl
      dsimp only
      split
      · rfl
      split <;> rfl
  | testerPresent =>
      unfold testerPresent
      split
      · rfl
      split <;> rfl
  | securityAccess =>
      unfold securityAccess requestSeed sendKey
      dsimp only
      split
      · rfl
      split
      · rfl
      split
      · split
        · rfl
        split <;> rfl
      split
      · rfl
      split
      · rfl
      split
      · split <;> rfl
      · rfl
  | readDataByIdentifier =>
      unfold readDataByIdentifier
      dsimp only
      split
      · rfl
      split
      · rfl
      · rfl
      · split <;> rfl
  | writeDataByIdentifier heq => exact absurd heq hwrite
  | routineControl heq => exact absurd heq hroutine

theorem writeDataByIdentifier_routines (r : UdsRequest) (s : SessionState) (d : EcuData) :
    (writeDataByIdentifier cfg r s d).2.1.routines = d.routines := by
  unfold writeDataByIdentifier
  dsimp only
  split
  · rfl
  split
  · split <;> rfl
  · split
    · rfl
    split
    · rfl
    · rfl
    · split <;> rfl

theorem routineControl_store (r : UdsRequest) (s : SessionState) (d : EcuData) :
    (routineControl cfg r s d).2.1.store = d.store := by
  unfold routineControl track
  dsimp only
  split
  · rfl
  split
  · rfl
  split
  · rfl
  split
  · rfl
  split
  · rfl
  split
  · rfl
  split
  · rfl
  split <;> rfl

/-- The changes of the core a dispatch for the state `st` can make. -/
inductive DispatchEffect (cfg : EcuConfig) (request : UdsRequest) (st : StateId) (c : EcuCore) :
    EcuCore → Prop
  /-- A service ran, or none did: one state and the shared data. -/
  | served (s : SessionState) (d : EcuData) (h : StateEffect cfg (c.states st) s) :
      DispatchEffect cfg request st c { c.setState st s with data := d }
  /-- A reset in place. -/
  | reset (d : EcuData) (h : request.IsSupportedReset)
      (hdrop : cfg.uds.resetDropsConnection = false) :
      DispatchEffect cfg request st c
        { c.setState st ((c.states st).reset cfg) with data := d }
  /-- A reset that forgets the entry of the tester. -/
  | dropped (d : EcuData) (h : request.IsSupportedReset)
      (hdrop : cfg.uds.resetDropsConnection = true) :
      DispatchEffect cfg request st c
        { c.dropSessionState request.sourceAddr with data := d }

/-- An ECUReset that fails a check changes nothing, and says so. -/
theorem ecuReset_refusal {r : UdsRequest} (hsid : r.sid = sidEcuReset)
    (h : ¬ r.IsSupportedReset) (st : StateId) (c : EcuCore) :
    ∃ nrc, ecuReset cfg r st c = (c, r.nrc nrc) := by
  unfold ecuReset
  dsimp only
  split
  · exact ⟨_, rfl⟩
  rename_i hlen
  split
  · exact ⟨_, rfl⟩
  rename_i hsub
  have hsome : r.subFunction = some (r.subFunction.getD 0) :=
    UdsRequest.subFunction_eq (by rw [hsid]; rfl) (by omega)
  refine absurd ⟨hsid, by omega, ?_⟩ h
  rw [hsome]
  simp only [Option.some.injEq]
  omega

theorem ecuReset_refused {r : UdsRequest} (hsid : r.sid = sidEcuReset)
    (h : ¬ r.IsSupportedReset) (st : StateId) (c : EcuCore) : (ecuReset cfg r st c).1 = c := by
  obtain ⟨nrc, heq⟩ : ∃ nrc, ecuReset cfg r st c = (c, r.nrc nrc) := ecuReset_refusal hsid h st c
  rw [heq]

/-- The sub-function of a supported reset passes the check of `handle`. -/
theorem UdsRequest.IsSupportedReset.sub {r : UdsRequest} (h : r.IsSupportedReset) :
    ¬ (r.subFunction.getD 0 ≠ 0x01 ∧ r.subFunction.getD 0 ≠ 0x02
      ∧ r.subFunction.getD 0 ≠ 0x03) := by
  obtain ⟨_, _, hsub⟩ := h
  rcases hsub with hsub | hsub | hsub <;> simp [hsub]

/-- An executed ECUReset: in place, or by forgetting the entry of the tester. -/
theorem ecuReset_executed {r : UdsRequest} (h : r.IsSupportedReset) (st : StateId) (c : EcuCore) :
    (ecuReset cfg r st c).1 =
      if cfg.uds.resetDropsConnection then
        { c.dropSessionState r.sourceAddr with
          data := c.data.reset cfg cfg.uds.resetClearsWrites }
      else
        { c.setState st ((c.states st).reset cfg) with
          data := c.data.reset cfg cfg.uds.resetClearsWrites } := by
  have hlen : r.raw.length = 2 := h.2.1
  unfold ecuReset
  dsimp only
  rw [if_neg (by omega), if_neg h.sub]
  split
  · unfold EcuCore.dropSessionState
    dsimp only
    split <;> rfl
  · rfl

/-- Both ways to reset write the same shared data. -/
theorem ecuReset_data {r : UdsRequest} (h : r.IsSupportedReset) (st : StateId) (c : EcuCore) :
    (ecuReset cfg r st c).1.data = c.data.reset cfg cfg.uds.resetClearsWrites := by
  rw [ecuReset_executed h]
  split <;> rfl

/-- **All that a dispatch can do to the core.** -/
theorem dispatch_effect (cfg : EcuConfig) (r : UdsRequest) (st : StateId) (c : EcuCore) :
    DispatchEffect cfg r st c (dispatch cfg r st c).1 := by
  have hsame : DispatchEffect cfg r st c c := by
    have hserved : DispatchEffect cfg r st c { c.setState st (c.states st) with data := c.data } :=
      .served (c.states st) c.data .same
    rwa [EcuCore.setState_self] at hserved
  unfold dispatch
  split
  · rename_i hsid
    by_cases hr : r.IsSupportedReset
    · rw [ecuReset_executed hr]
      split
      · rename_i hdrop
        exact .dropped _ hr hdrop
      · rename_i hdrop
        exact .reset _ hr (by simpa using hdrop)
    · rw [ecuReset_refused hsid hr]
      exact hsame
  · split
    · exact hsame
    · rename_i service hservice
      exact .served _ _ (coreService_state hservice r (c.states st) c.data)

theorem StateEffect.testerAddr {s s' : SessionState} (h : StateEffect cfg s s') :
    s'.testerAddr = s.testerAddr := by
  cases h with
  | same => rfl
  | entered sub _ =>
      obtain ⟨armed, h⟩ := SessionState.refreshS3_eq cfg { s with
        sessionType := sub, securityLevel := 0, seedPending := none, securityAttempts := 0 }
      unfold SessionState.enterSession
      rw [h]
  | refreshed =>
      obtain ⟨armed, h⟩ := SessionState.refreshS3_eq cfg s
      rw [h]
  | security => rfl

/-- No dispatch adds an entry to the table or moves a state to another tester. -/
theorem dispatch_shrinks (r : UdsRequest) (st : StateId) (c : EcuCore) :
    EcuCore.Shrinks c (dispatch cfg r st c).1 := by
  have heffect := dispatch_effect cfg r st c
  generalize (dispatch cfg r st c).1 = c' at heffect ⊢
  cases heffect with
  | served s d h =>
      have hset := EcuCore.Shrinks.setState c st h.testerAddr
      exact ⟨hset.nextState, hset.testerAddr, hset.table⟩
  | reset d _ _ =>
      have hset := EcuCore.Shrinks.setState c st (s := (c.states st).reset cfg) rfl
      exact ⟨hset.nextState, hset.testerAddr, hset.table⟩
  | dropped d _ _ =>
      have hdrop := EcuCore.Shrinks.drop c r.sourceAddr
      exact ⟨hdrop.nextState, hdrop.testerAddr, hdrop.table⟩

/-- Only a reset that closes the connection touches the table. -/
theorem dispatch_sessionStates (hdrop : cfg.uds.resetDropsConnection = false) (r : UdsRequest)
    (st : StateId) (c : EcuCore) : (dispatch cfg r st c).1.sessionStates = c.sessionStates := by
  have heffect := dispatch_effect cfg r st c
  generalize (dispatch cfg r st c).1 = c' at heffect ⊢
  cases heffect with
  | served s d h => rfl
  | reset d _ _ => rfl
  | dropped d _ hon =>
      rw [hdrop] at hon
      cases hon

/-- A dispatch moves no other state into or out of the default session. -/
theorem dispatch_sessionType (r : UdsRequest) {st st' : StateId} (hne : st' ≠ st) (c : EcuCore) :
    ((dispatch cfg r st c).1.states st').sessionType = (c.states st').sessionType := by
  have heffect := dispatch_effect cfg r st c
  generalize (dispatch cfg r st c).1 = c' at heffect ⊢
  cases heffect with
  | served s d h =>
      show ((c.setState st s).states st').sessionType = _
      rw [EcuCore.setState_states, if_neg hne]
  | reset d _ _ =>
      show ((c.setState st ((c.states st).reset cfg)).states st').sessionType = _
      rw [EcuCore.setState_states, if_neg hne]
  | dropped d _ _ => exact c.dropSessionState_sessionType r.sourceAddr st'

end DoipPlayground.VirtualEcu
