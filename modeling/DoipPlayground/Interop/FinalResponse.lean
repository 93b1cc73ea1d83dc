/-
  DoipPlayground.Interop.FinalResponse
  ────────────────────────────────────
  **HOW THE EDGENODE CLASSIFIES A FINAL RESPONSE OF THE VIRTUALECU.**

  The EdgeNode relays a Diagnostic Message until one answers the SID of the
  request and is not a ResponsePending.  Without plugins every response of
  the VirtualEcu answers the SID; it reads as a ResponsePending in three
  configured cases only.

    • `Final` — the outcomes that do not,
    • `AnswersPending` — the three cases,
    • `final_response_classified` — the two sides agree but for these.
-/
import DoipPlayground.EdgeNode.Exchange
import DoipPlayground.VirtualEcu.Doip
import DoipPlayground.VirtualEcu.ResetRevocation
import DoipPlayground.VirtualEcu.ResponsePending

namespace DoipPlayground.Interop

open Wire VirtualEcu

variable {cfg : EcuConfig} {request : UdsRequest} {s : SessionState} {d : EcuData}

/-! ## §1. The response and its frame. -/

/-- What `resolve_uds` returns for a request served with the state `st`. -/
def finalResponse (cfg : EcuConfig) (request : UdsRequest) (st : StateId) (c : EcuCore) :
    Option Bytes :=
  resolveUds cfg.uds request (serve cfg request st c).2

/-- The frame the worker sends it in. -/
def responseFrame (cfg : EcuConfig) (request : UdsRequest) (version : UInt8) (response : Bytes) :
    Bytes :=
  buildFrame ptDiagnosticMessage
    (packH cfg.doip.ecuLogicalAddr ++ packH request.sourceAddr ++ response) version

/-- Header and addresses are twelve bytes. -/
theorem responseFrame_eq (cfg : EcuConfig) (request : UdsRequest) (version : UInt8)
    (response : Bytes) :
    ∃ head, head.length = 12
      ∧ responseFrame cfg request version response = head ++ response := by
  refine ⟨[version, 0xFF ^^^ version] ++ packH ptDiagnosticMessage
    ++ packI (packH cfg.doip.ecuLogicalAddr ++ packH request.sourceAddr ++ response).length
    ++ (packH cfg.doip.ecuLogicalAddr ++ packH request.sourceAddr), by simp, ?_⟩
  unfold responseFrame buildFrame
  simp only [List.append_assoc]

theorem length_responseFrame (version : UInt8) (response : Bytes) :
    (responseFrame cfg request version response).length = 12 + response.length := by
  obtain ⟨head, hlen, heq⟩ := responseFrame_eq cfg request version response
  rw [heq, List.length_append, hlen]

theorem responseFrame_getElem? (cfg : EcuConfig) (request : UdsRequest) (version : UInt8)
    (response : Bytes) (n : Nat) :
    (responseFrame cfg request version response)[12 + n]? = response[n]? := by
  obtain ⟨head, hlen, heq⟩ := responseFrame_eq cfg request version response
  rw [heq, List.getElem?_append_right (by omega), hlen, Nat.add_sub_cancel_left]

/-- `_is_response_pending` looks at the first and the third byte of the response. -/
theorem isResponsePending_responseFrame (version : UInt8) (response : Bytes) :
    EdgeNode.Ecu.isResponsePending (responseFrame cfg request version response)
      = isResponsePending response := by
  have hfirst := responseFrame_getElem? cfg request version response 0
  have hthird := responseFrame_getElem? cfg request version response 2
  have htype : EdgeNode.ptype (responseFrame cfg request version response)
      = EdgeNode.ptDiagnosticMessage := ptype_buildFrame (by decide) _ _
  unfold EdgeNode.Ecu.isResponsePending isResponsePending
  rw [hfirst, hthird, htype, length_responseFrame]
  cases response with
  | nil => simp
  | cons a rest =>
      match rest with
      | [] | [b] => simp
      | b :: c :: rest =>
          have hlen : 15 ≤ 12 + (rest.length + 1 + 1 + 1) := by omega
          simp [sidNegativeResponse, nrcResponsePending, hlen]

/-- `_response_matches` looks at the first two. -/
theorem responseMatches_responseFrame {version : UInt8} {response : Bytes} {sid : UInt8}
    (h : response[0]? = some (sid ||| 0x40)
      ∨ response[0]? = some sidNegativeResponse ∧ response[1]? = some sid) (strict : Bool) :
    EdgeNode.Ecu.responseMatches strict (responseFrame cfg request version response) (some sid)
      = true := by
  have hfirst := responseFrame_getElem? cfg request version response 0
  have hsecond := responseFrame_getElem? cfg request version response 1
  unfold EdgeNode.Ecu.responseMatches
  dsimp only
  rw [hfirst, hsecond]
  split
  · rfl
  rcases h with h | ⟨h, h'⟩
  · rw [if_pos h]
  · split
    · rfl
    · rw [if_pos ⟨h, h'⟩]

/-! ## §2. Outcomes that are final. -/

/-- A positive response, a refusal with a code other than 0x78, or nothing. -/
inductive Final (request : UdsRequest) : Result → Prop
  | positive (payload : Bytes) : Final request (.bytes (request.positive payload))
  | aborted (payload : Bytes) : Final request (.abort (request.positive payload))
  | refused (code : UInt8) (h : code ≠ nrcResponsePending) : Final request (request.nrc code)
  | silent : Final request .noResponse
  | error : Final request .error

/-- The outcome is a forced 0x78 if `forced` holds, and final otherwise. -/
def Settles (request : UdsRequest) (forced : Prop) (result : Result) : Prop :=
  (forced ∧ result = request.nrc nrcResponsePending) ∨ (¬ forced ∧ Final request result)

theorem checkGates_final {sessions : Option (List Int)} {security : Int} {refusal : Result}
    (h : checkGates request s sessions security = some refusal) : Final request refusal := by
  unfold checkGates at h
  split at h
  · cases h
    exact .refused _ (by decide)
  split at h
  · cases h
    exact .refused _ (by decide)
  · cases h

theorem unknownDid_final {did : Nat} {refusal : Result}
    (h : unknownDid cfg request did = .error refusal) : Final request refusal := by
  unfold unknownDid at h
  split at h
  · cases h
  · cases h
  · cases h
    exact .refused _ (by decide)

/-- The configuration forces 0x78 on reads of the DID. -/
def ReadForced (cfg : EcuConfig) (did : Nat) : Prop :=
  ∃ spec, cfg.dids did = some spec ∧ spec.read = true ∧ spec.readNrc = some nrcResponsePending

/-- The first DID that is not served has 0x78 forced on it. -/
def ReadsPending (cfg : EcuConfig) (request : UdsRequest) (s : SessionState) (d : EcuData) :
    List Nat → Prop
  | [] => False
  | did :: rest =>
      ReadForced cfg did
        ∨ (∃ value, readOne cfg request s d did = .ok value) ∧ ReadsPending cfg request s d rest

theorem readOne_forced {did : Nat} (h : ReadForced cfg did) :
    readOne cfg request s d did = .error (request.nrc nrcResponsePending) := by
  obtain ⟨spec, hspec, hread, hnrc⟩ := h
  unfold readOne
  rw [hspec]
  simp only [hread, hnrc, Bool.not_true, Bool.false_eq_true, if_false]

theorem readOne_final {did : Nat} {refusal : Result} (h : ¬ ReadForced cfg did)
    (hone : readOne cfg request s d did = .error refusal) : Final request refusal := by
  unfold readOne at hone
  split at hone
  · exact unknownDid_final hone
  rename_i spec hspec
  split at hone
  · exact unknownDid_final hone
  rename_i hread
  split at hone
  · rename_i code hcode
    cases hone
    refine .refused code ?_
    rintro rfl
    exact h ⟨spec, hspec, by simpa using hread, hcode⟩
  · rename_i hgates
    cases hone
    exact checkGates_final hgates
  split at hone
  · split at hone
    · cases hone
      exact .refused _ (by decide)
    · unfold dynamicValue at hone
      split at hone
      · split at hone
        · cases hone
        · cases hone
          exact .error
      · cases hone
  · split at hone
    · cases hone
      exact .refused _ (by decide)
    · cases hone

/-- A list of DIDs is refused with 0x78 exactly if the first refusal is forced. -/
theorem readAll_settles (cfg : EcuConfig) (request : UdsRequest) (s : SessionState) (d : EcuData)
    (dids : List Nat) :
    (ReadsPending cfg request s d dids
        ∧ readAll cfg request s d dids = .error (request.nrc nrcResponsePending))
      ∨ (¬ ReadsPending cfg request s d dids
        ∧ ∀ refusal, readAll cfg request s d dids = .error refusal → Final request refusal) := by
  -- the first DID that is refused decides: those behind it are not looked at
  induction dids with
  | nil =>
      right
      exact ⟨id, fun refusal h => by cases h⟩
  | cons did rest ih =>
      unfold ReadsPending readAll
      by_cases hforced : ReadForced cfg did
      · left
        rw [readOne_forced hforced]
        exact ⟨.inl hforced, rfl⟩
      cases hone : readOne cfg request s d did with
      | error refusal =>
          right
          refine ⟨?_, ?_⟩
          · rintro (h | ⟨⟨value, h⟩, _⟩)
            · exact hforced h
            · cases h
          · intro refusal' h
            cases h
            exact readOne_final hforced hone
      | ok value =>
          have hrest : (ReadForced cfg did
              ∨ (∃ v, (.ok value : Except Result (Option Bytes)) = .ok v)
                ∧ ReadsPending cfg request s d rest)
              ↔ ReadsPending cfg request s d rest := by
            constructor
            · rintro (h | ⟨_, h⟩)
              · exact absurd h hforced
              · exact h
            · exact fun h => .inr ⟨⟨value, rfl⟩, h⟩
          rw [hrest]
          cases value with
          | none => exact ih
          | some value =>
              rcases ih with ⟨hpending, hall⟩ | ⟨hfinal, hall⟩
              · left
                rw [hall]
                exact ⟨hpending, rfl⟩
              · right
                refine ⟨hfinal, ?_⟩
                intro refusal h
                cases hrest : readAll cfg request s d rest with
                | error refusal' =>
                    rw [hrest] at h
                    cases h
                    exact hall _ hrest
                | ok records =>
                    rw [hrest] at h
                    cases h

/-- A read that is refused with a forced 0x78. -/
def ReadPending (cfg : EcuConfig) (request : UdsRequest) (s : SessionState) (d : EcuData) : Prop :=
  request.data ≠ [] ∧ request.data.length % 2 = 0 ∧ ReadsPending cfg request s d request.dids

theorem readDataByIdentifier_settles :
    Settles request (ReadPending cfg request s d)
      (readDataByIdentifier cfg request s d).2.2 := by
  unfold readDataByIdentifier
  dsimp only
  split
  · rename_i hbad
    right
    refine ⟨?_, .refused _ (by decide)⟩
    rintro ⟨hne, heven, _⟩
    rcases hbad with hbad | hbad
    · exact hne hbad
    · exact hbad heven
  rename_i hgood
  push Not at hgood
  rcases readAll_settles cfg request s d request.dids with
    ⟨hpending, hall⟩ | ⟨hfinal, hall⟩
  · left
    rw [hall]
    exact ⟨⟨hgood.1, hgood.2, hpending⟩, rfl⟩
  · right
    refine ⟨fun h => hfinal h.2.2, ?_⟩
    split
    · rename_i hrefused
      exact hall _ hrefused
    · exact .silent
    · split
      · exact .refused _ (by decide)
      · exact .positive _

/-- A write that is refused with a forced 0x78. -/
def WritePending (cfg : EcuConfig) (request : UdsRequest) : Prop :=
  3 ≤ request.data.length ∧ ∃ spec, cfg.dids (fromBytes (request.data.take 2)) = some spec
    ∧ spec.write = true ∧ spec.writeNrc = some nrcResponsePending

theorem writeDataByIdentifier_settles :
    Settles request (WritePending cfg request)
      (writeDataByIdentifier cfg request s d).2.2 := by
  unfold writeDataByIdentifier
  dsimp only
  split
  · rename_i hshort
    right
    exact ⟨fun h => absurd h.1 (by omega), .refused _ (by decide)⟩
  rename_i hlong
  split
  · rename_i hnone
    right
    refine ⟨?_, ?_⟩
    · rintro ⟨_, spec, hspec, _⟩
      rw [hnone] at hspec
      cases hspec
    · split
      · rename_i hunknown
        exact unknownDid_final hunknown
      · exact .silent
      · exact .positive _
  rename_i spec hspec
  have hforced : WritePending cfg request
      ↔ spec.write = true ∧ spec.writeNrc = some nrcResponsePending := by
    unfold WritePending
    rw [hspec]
    constructor
    · rintro ⟨_, spec', hspec', h⟩
      cases hspec'
      exact h
    · exact fun h => ⟨by omega, spec, rfl, h⟩
  unfold Settles
  rw [hforced]
  split
  · rename_i hwrite
    right
    exact ⟨fun h => by simp [h.1] at hwrite, .refused _ (by decide)⟩
  rename_i hwrite
  split
  · rename_i code hcode
    -- a forced code comes before the gates
    by_cases hpending : code = nrcResponsePending
    · left
      rw [hcode, hpending]
      exact ⟨⟨by simpa using hwrite, rfl⟩, rfl⟩
    · right
      refine ⟨?_, .refused code hpending⟩
      rintro ⟨_, h⟩
      rw [hcode, Option.some.injEq] at h
      exact hpending h
  · rename_i hnone hgates
    right
    exact ⟨fun h => by simp [hnone] at h, checkGates_final hgates⟩
  · rename_i hnone _
    right
    refine ⟨fun h => by simp [hnone] at h, ?_⟩
    split
    · exact .refused _ (by decide)
    · exact .positive _

theorem routineControl_final : Final request (routineControl cfg request s d).2.2 := by
  unfold routineControl
  dsimp only
  split
  · exact .refused _ (by decide)
  split
  · exact .refused _ (by decide)
  split
  · exact .refused _ (by decide)
  split
  · rename_i hgates
    exact checkGates_final hgates
  split
  · exact .refused _ (by decide)
  split
  · exact .refused _ (by decide)
  · exact .positive _

theorem securityAccess_final : Final request (securityAccess cfg request s d).2.2 := by
  unfold securityAccess
  dsimp only
  split
  · exact .refused _ (by decide)
  split
  · exact .refused _ (by decide)
  split
  · unfold requestSeed
    dsimp only
    split
    · exact .refused _ (by decide)
    split
    · exact .positive _
    · exact .positive _
  · unfold sendKey
    dsimp only
    split
    · exact .refused _ (by decide)
    split
    · exact .refused _ (by decide)
    split
    · split <;> exact .refused _ (by decide)
    · exact .positive _

theorem diagnosticSessionControl_final :
    Final request (diagnosticSessionControl cfg request s d).2.2 := by
  unfold diagnosticSessionControl
  dsimp only
  split
  · exact .refused _ (by decide)
  split
  · exact .refused _ (by decide)
  · exact .positive _

theorem testerPresent_final : Final request (testerPresent cfg request s d).2.2 := by
  unfold testerPresent
  split
  · exact .refused _ (by decide)
  split
  · exact .refused _ (by decide)
  · exact .positive _

theorem ecuReset_final (st : StateId) (c : EcuCore) :
    Final request (ecuReset cfg request st c).2 := by
  unfold ecuReset
  dsimp only
  split
  · exact .refused _ (by decide)
  split
  · exact .refused _ (by decide)
  split
  · exact .aborted _
  · exact .positive _

theorem fallback_final : Final request (fallback cfg request) := by
  unfold fallback
  split
  · exact .silent
  · exact .positive _
  · exact .refused _ (by decide)

/-! ## §3. What a dispatch answers. -/

/-- A read or a write that is refused with a forced 0x78. -/
def AnswersForced (cfg : EcuConfig) (request : UdsRequest) (s : SessionState) (d : EcuData) :
    Prop :=
  (request.sid = sidReadDataByIdentifier ∧ ReadPending cfg request s d)
    ∨ (request.sid = sidWriteDataByIdentifier ∧ WritePending cfg request)

theorem Settles.of_final {forced : Prop} {result : Result} (h : ¬ forced)
    (hfinal : Final request result) : Settles request forced result := .inr ⟨h, hfinal⟩

/-- Another service forces nothing. -/
theorem not_answersForced (hread : request.sid ≠ sidReadDataByIdentifier)
    (hwrite : request.sid ≠ sidWriteDataByIdentifier) : ¬ AnswersForced cfg request s d := by
  rintro (h | h)
  · exact hread h.1
  · exact hwrite h.1

theorem coreService_settles {service : Service} (h : coreService cfg request.sid = some service) :
    Settles request (AnswersForced cfg request s d) (service cfg request s d).2.2 := by
  cases coreService_cases h with
  | diagnosticSessionControl hsid =>
      exact .of_final (not_answersForced (by rw [hsid]; decide) (by rw [hsid]; decide))
        diagnosticSessionControl_final
  | testerPresent hsid =>
      exact .of_final (not_answersForced (by rw [hsid]; decide) (by rw [hsid]; decide))
        testerPresent_final
  | securityAccess hsid =>
      exact .of_final (not_answersForced (by rw [hsid]; decide) (by rw [hsid]; decide))
        securityAccess_final
  | readDataByIdentifier hsid =>
      have hforced : AnswersForced cfg request s d ↔ ReadPending cfg request s d := by
        unfold AnswersForced
        rw [hsid]
        simp [sidReadDataByIdentifier, sidWriteDataByIdentifier]
      unfold Settles
      rw [hforced]
      exact readDataByIdentifier_settles
  | writeDataByIdentifier hsid =>
      have hforced : AnswersForced cfg request s d ↔ WritePending cfg request := by
        unfold AnswersForced
        rw [hsid]
        simp [sidReadDataByIdentifier, sidWriteDataByIdentifier]
      unfold Settles
      rw [hforced]
      exact writeDataByIdentifier_settles
  | routineControl hsid =>
      exact .of_final (not_answersForced (by rw [hsid]; decide) (by rw [hsid]; decide))
        routineControl_final

theorem dispatch_settles (cfg : EcuConfig) (request : UdsRequest) (st : StateId) (c : EcuCore) :
    Settles request (AnswersForced cfg request (c.states st) c.data)
      (dispatch cfg request st c).2 := by
  unfold dispatch
  split
  · rename_i hsid
    exact .of_final (not_answersForced (by rw [hsid]; decide) (by rw [hsid]; decide))
      (ecuReset_final st c)
  split
  · rename_i hnone
    refine .of_final (not_answersForced ?_ ?_) fallback_final
    · intro hsid
      rw [hsid] at hnone
      cases hnone
    · intro hsid
      rw [hsid] at hnone
      cases hnone
  · rename_i service hservice
    exact coreService_settles hservice

/-- The two SIDs whose positive response begins with 0x7F. -/
theorem sid_or_eq_negative (sid : UInt8) :
    sid ||| 0x40 = sidNegativeResponse ↔ sid = 0x3F ∨ sid = 0x7F := by
  have hbits : ∀ b : BitVec 8, b ||| 0x40#8 = 0x7F#8 ↔ b = 0x3F#8 ∨ b = 0x7F#8 := by decide
  have hsid := hbits sid.toBitVec
  simpa [sidNegativeResponse, ← UInt8.toBitVec_inj] using hsid

/-- They have no service. -/
theorem dispatch_eq_fallback (hsid : request.sid = 0x3F ∨ request.sid = 0x7F) (st : StateId)
    (c : EcuCore) : dispatch cfg request st c = (c, fallback cfg request) := by
  have hreset : request.sid ≠ sidEcuReset := by
    rcases hsid with h | h <;> rw [h] <;> decide
  have hnone : coreService cfg request.sid = none := by
    rcases hsid with h | h <;> rw [h] <;> rfl
  unfold dispatch
  rw [if_neg hreset, hnone]

/-! ## §4. Classification. -/

/-- A 0x3F or 0x7F request that is echoed with 0x78 in the place of the code. -/
def EchoesPending (cfg : EcuConfig) (request : UdsRequest) : Prop :=
  cfg.uds.unknownService = .echo ∧ (request.sid = 0x3F ∨ request.sid = 0x7F)
    ∧ request.data[1]? = some nrcResponsePending

/-- The configuration makes the final response read as a ResponsePending. -/
def AnswersPending (cfg : EcuConfig) (request : UdsRequest) (s : SessionState) (d : EcuData) :
    Prop :=
  AnswersForced cfg request s d ∨ EchoesPending cfg request

/-- The bytes of a final outcome answer the SID, and read as a
ResponsePending only where the positive response begins with 0x7F. -/
theorem Final.response {result : Result} {response : Bytes} (h : Final request result)
    (hr : resolveUds cfg.uds request result = some response) :
    (response[0]? = some (request.sid ||| 0x40)
        ∨ response[0]? = some sidNegativeResponse ∧ response[1]? = some request.sid)
      ∧ (isResponsePending response = true
        ↔ request.sid ||| 0x40 = sidNegativeResponse
          ∧ response[2]? = some nrcResponsePending) := by
  cases h with
  | positive payload =>
      simp only [resolveUds, Option.ite_none_left_eq_some, Option.some.injEq] at hr
      rw [← hr.2]
      unfold isResponsePending UdsRequest.positive
      simp
  | aborted payload =>
      cases hr
      unfold isResponsePending UdsRequest.positive
      simp
  | refused code hcode =>
      simp only [resolveUds, UdsRequest.nrc, Option.ite_none_left_eq_some, Option.some.injEq,
        Option.getD_some] at hr
      rw [← hr.2]
      unfold isResponsePending
      simp [hcode]
  | silent => cases hr
  | error => cases hr

/-- An echo is the body of the request behind `SID | 0x40`. -/
theorem echo_pending {response : Bytes} (hsid : request.sid = 0x3F ∨ request.sid = 0x7F)
    (hr : resolveUds cfg.uds request (fallback cfg request) = some response) :
    response[2]? = some nrcResponsePending ↔ EchoesPending cfg request := by
  unfold EchoesPending
  unfold fallback at hr
  split at hr
  · cases hr
  · rename_i hecho
    simp only [resolveUds, Option.ite_none_left_eq_some, Option.some.injEq] at hr
    rw [← hr.2, hecho]
    simp [UdsRequest.positive, hsid]
  · rename_i hnrc
    simp only [resolveUds, Option.ite_none_left_eq_some, Option.some.injEq, Option.getD_some] at hr
    rw [← hr.2, hnrc]
    simp [nrcServiceNotSupported, nrcResponsePending]

/-- The S3 timer changes nothing that a read looks at. -/
theorem readOne_refreshS3 (did : Nat) :
    readOne cfg request (s.refreshS3 cfg) d did = readOne cfg request s d did := by
  obtain ⟨armed, h⟩ := SessionState.refreshS3_eq cfg s
  rw [h]
  rfl

theorem readsPending_refreshS3 (dids : List Nat) :
    ReadsPending cfg request (s.refreshS3 cfg) d dids ↔ ReadsPending cfg request s d dids := by
  induction dids with
  | nil => rfl
  | cons did rest ih =>
      unfold ReadsPending
      rw [readOne_refreshS3, ih]

theorem answersForced_refreshS3 :
    AnswersForced cfg request (s.refreshS3 cfg) d ↔ AnswersForced cfg request s d := by
  unfold AnswersForced ReadPending
  rw [readsPending_refreshS3]

/-- **Final responses are classified as final**, but for what the
configuration forces: every response answers the SID of its request, and it
reads as a ResponsePending exactly if a forced 0x78 refuses the request or
an echo spells one. -/
theorem final_response_classified (cfg : EcuConfig) (request : UdsRequest)
    (hne : request.raw ≠ []) (st : StateId) (c : EcuCore) (version : UInt8) (response : Bytes)
    (h : finalResponse cfg request st c = some response) :
    (∀ strict, EdgeNode.Ecu.responseMatches strict (responseFrame cfg request version response)
        request.raw.head? = true)
      ∧ (EdgeNode.Ecu.isResponsePending (responseFrame cfg request version response) = true
        ↔ AnswersPending cfg request (c.states st) c.data) := by
  have hsid : request.raw.head? = some request.sid := by
    unfold UdsRequest.sid
    cases hraw : request.raw with
    | nil => exact absurd hraw hne
    | cons a rest => rfl
  rw [hsid, isResponsePending_responseFrame]
  unfold finalResponse serve at h
  have hsettles := dispatch_settles cfg request st
    (c.setState st ((c.states st).refreshS3 cfg))
  rw [EcuCore.setState_states, if_pos rfl] at hsettles
  change Settles request (AnswersForced cfg request ((c.states st).refreshS3 cfg) c.data) _
    at hsettles
  unfold Settles at hsettles
  rw [answersForced_refreshS3] at hsettles
  rcases hsettles with ⟨hforced, hresult⟩ | ⟨hforced, hfinal⟩
  · -- `7F <sid> 78`, which no suppression rule swallows
    rw [hresult] at h
    have hresponse : [sidNegativeResponse, request.sid, nrcResponsePending] = response := by
      simpa [resolveUds, UdsRequest.nrc, functionalSuppressedNrcs, nrcResponsePending,
        nrcServiceNotSupported, nrcSubFunctionNotSupported, nrcRequestOutOfRange,
        nrcServiceNotSupportedInSession] using h
    rw [← hresponse]
    refine ⟨fun strict => responseMatches_responseFrame (.inr ⟨rfl, rfl⟩) strict, ?_⟩
    exact ⟨fun _ => .inl hforced, fun _ => rfl⟩
  · obtain ⟨hanswers, hpending⟩ := hfinal.response h
    refine ⟨fun strict => responseMatches_responseFrame hanswers strict, ?_⟩
    rw [hpending, sid_or_eq_negative]
    unfold AnswersPending
    constructor
    · rintro ⟨hsid, hthird⟩
      rw [dispatch_eq_fallback hsid] at h
      exact .inr ((echo_pending hsid h).mp hthird)
    · rintro (hf | hecho)
      · exact absurd hf hforced
      · rw [dispatch_eq_fallback hecho.2.1] at h
        exact ⟨hecho.2.1, (echo_pending hecho.2.1 h).mpr hecho⟩

/-- TesterPresent is answered, and the answer is final. -/
theorem final_response_classified_present :
    EdgeNode.Ecu.isResponsePending (responseFrame {} ⟨[0x3E, 0x00], 0x0E00, 0x0003, false⟩ ver
        [0x7E, 0x00]) = true
      ↔ AnswersPending {} ⟨[0x3E, 0x00], 0x0E00, 0x0003, false⟩
          ((EcuCore.init {}).states 0) (EcuCore.init {}).data :=
  (final_response_classified {} ⟨[0x3E, 0x00], 0x0E00, 0x0003, false⟩ (by decide) 0
    (EcuCore.init {}) ver [0x7E, 0x00] (by decide)).2

/-- A DID whose reads are refused with 0x78. -/
def forcedConfig : EcuConfig where
  dids := fun did =>
    if did = 0xF190 then some { value := some [0x41], readNrc := some nrcResponsePending }
    else none

theorem forcedConfig_accepted : forcedConfig.Accepted where
  ecuLogicalAddr := by decide
  maxPayloadBytes := by decide
  testerAddrRange := by decide
  maxConcurrentSessions := by decide
  defaultSession := by decide
  p2ServerMs := by decide
  p2StarServerMs := by decide
  functionalAddr := by decide
  seed := by decide
  key := by decide
  didValue := by
    intro d spec h
    simp only [forcedConfig, Option.ite_none_right_eq_some, Option.some.injEq] at h
    simp [← h.2]
  didLength := by
    intro d spec n v h hn hv
    simp only [forcedConfig, Option.ite_none_right_eq_some, Option.some.injEq] at h
    rw [← h.2] at hn
    cases hn
  didWrite := by
    intro d spec h hw
    simp only [forcedConfig, Option.ite_none_right_eq_some, Option.some.injEq] at h
    rw [← h.2] at hw
    cases hw

/-- Its only answer, `7F 22 78`, reads as a promise of another one. -/
theorem forced_response_reads_pending :
    ¬ ∀ (cfg : EcuConfig) (request : UdsRequest) (st : StateId) (c : EcuCore) (version : UInt8)
      (response : Bytes), cfg.Accepted → request.raw ≠ [] →
      finalResponse cfg request st c = some response →
      EdgeNode.Ecu.responseMatches true (responseFrame cfg request version response)
          request.raw.head? = true
        ∧ EdgeNode.Ecu.isResponsePending (responseFrame cfg request version response) = false := by
  intro hall
  have hclass := hall forcedConfig ⟨[0x22, 0xF1, 0x90], 0x0E00, 0x0003, false⟩ 0
    (EcuCore.init forcedConfig) ver [0x7F, 0x22, 0x78] forcedConfig_accepted (by decide) (by decide)
  revert hclass
  decide

end DoipPlayground.Interop
