/-
  DoipPlayground.VirtualEcu.MultiDid
  ──────────────────────────────────
  **SEVERAL DIDS IN ONE ReadDataByIdentifier**
  (`services/data_identifier.py`, `uds.py`).

  The handler walks the DIDs of a request and collects records until one is
  refused.  The reference looks at each DID on its own first and puts the
  answer together afterwards.

    • `DidVerdict` — what a DID comes to on its own,
    • `readReference` — the answer to a list of them, from left to right,
    • `multi_did_read_iff` — the dispatch gives this answer and changes
      nothing, unless it comes to a session number that is no byte.
-/
import DoipPlayground.VirtualEcu.DidIntegrity

namespace DoipPlayground.VirtualEcu

open Wire

/-! ## §1. One DID. -/

/-- What a read of one DID comes to. -/
inductive DidVerdict where
  | refused (nrc : UInt8)
  | skipped
  | served (value : Bytes)
  deriving DecidableEq, Repr

namespace DidVerdict

def nrc? : DidVerdict → Option UInt8
  | .refused nrc => some nrc
  | _ => none

def value? : DidVerdict → Option Bytes
  | .served value => some value
  | _ => none

/-- The same in the terms of the handler. -/
def outcome (request : UdsRequest) : DidVerdict → Except Result (Option Bytes)
  | .refused nrc => .error (request.nrc nrc)
  | .skipped => .ok none
  | .served value => .ok (some value)

/-- The `unknown_did` policy. -/
def unknown (policy : UnknownPolicy) (did : Nat) : DidVerdict :=
  match policy with
  | .nrc => .refused nrcRequestOutOfRange
  | .echo => .served (packH did)
  | .silent => .skipped

/-- A readable DID: what the config forces, the session gate, the security
gate, and then its value.  The only value that is not stored is that of the
active session. -/
def readable (spec : DidSpec) (s : SessionState) (store : Store) (did : Nat) : DidVerdict :=
  match spec.readNrc with
  | some nrc => .refused nrc
  | none =>
      if ∃ sessions ∈ spec.readSessions, s.sessionType ∉ sessions then
        .refused nrcRequestOutOfRange
      else if (s.securityLevel : Int) < spec.readSecurity then .refused nrcSecurityAccessDenied
      else if spec.dynamic = false then .served ((store did).getD [])
      else if did = didActiveDiagnosticSession then .served [UInt8.ofNat s.sessionType.toNat]
      else .refused nrcRequestOutOfRange

end DidVerdict

/-- What a read of this DID comes to. -/
def didVerdict (cfg : EcuConfig) (s : SessionState) (store : Store) (did : Nat) : DidVerdict :=
  match (cfg.dids did).filter (·.read) with
  | none => .unknown cfg.uds.unknownDid did
  | some spec => .readable spec s store did

variable {cfg : EcuConfig} {r : UdsRequest} {s : SessionState} {d : EcuData} {did : Nat}

/-- This DID is readable, it is the active session, and that is no byte. -/
structure SessionUnencodable (cfg : EcuConfig) (s : SessionState) (did : Nat) : Prop where
  active : did = didActiveDiagnosticSession
  declared : ∃ spec, cfg.dids did = some spec ∧ ReadPermitted spec s ∧ spec.dynamic = true
  noByte : ¬ (0 ≤ s.sessionType ∧ s.sessionType < 256)

/-- The gates of the handler are those of the reference. -/
theorem checkGates_eq (sessions : Option (List Int)) (security : Int) :
    checkGates r s sessions security
      = if ∃ l ∈ sessions, s.sessionType ∉ l then some (r.nrc nrcRequestOutOfRange)
        else if (s.securityLevel : Int) < security then some (r.nrc nrcSecurityAccessDenied)
        else none := by
  unfold checkGates
  cases sessions with
  | none => simp
  | some l =>
      by_cases hmem : s.sessionType ∈ l
      · simp [hmem]
      · simp [hmem]

/-- Of a readable DID the handler makes what the reference says. -/
theorem readOne_readable {spec : DidSpec} (hstore : StoreOk cfg d.store)
    (hspec : cfg.dids did = some spec) (hread : spec.read = true)
    (h : ¬ SessionUnencodable cfg s did) :
    readOne cfg r s d did = (DidVerdict.readable spec s d.store did).outcome r := by
  unfold readOne DidVerdict.readable
  rw [hspec]
  dsimp only
  rw [hread, if_neg (by decide), checkGates_eq]
  cases hnrc : spec.readNrc with
  | some nrc => rfl
  | none =>
      dsimp only
      by_cases hsession : ∃ l ∈ spec.readSessions, s.sessionType ∉ l
      · rw [if_pos hsession, if_pos hsession]
        rfl
      rw [if_neg hsession, if_neg hsession]
      by_cases hsecurity : (s.securityLevel : Int) < spec.readSecurity
      · rw [if_pos hsecurity, if_pos hsecurity]
        rfl
      rw [if_neg hsecurity, if_neg hsecurity]
      dsimp only
      cases hdynamic : spec.dynamic with
      | false =>
          -- the store has a value for each of these
          have hstored := (hstore.stored did).mpr ⟨spec, hspec, hdynamic⟩
          obtain ⟨value, hvalue⟩ := Option.isSome_iff_exists.mp hstored
          rw [hvalue]
          rfl
      | true =>
          unfold dynamicValue
          by_cases hactive : did = didActiveDiagnosticSession
          · have hpermitted : ReadPermitted spec s :=
              { read := hread, readNrc := hnrc, security := by omega
                sessions := fun l hl => by_contra fun hl' => hsession ⟨l, hl, hl'⟩ }
            have hbyte : 0 ≤ s.sessionType ∧ s.sessionType < 256 := by
              by_contra hno
              exact h ⟨hactive, ⟨spec, hspec, hpermitted, hdynamic⟩, hno⟩
            simp only [if_pos hactive, if_pos hbyte]
            rfl
          · simp only [if_neg hactive]
            rfl

theorem readOne_verdict (hstore : StoreOk cfg d.store) (h : ¬ SessionUnencodable cfg s did) :
    readOne cfg r s d did = (didVerdict cfg s d.store did).outcome r := by
  have hunknown : unknownDid cfg r did = (DidVerdict.unknown cfg.uds.unknownDid did).outcome r := by
    unfold unknownDid DidVerdict.unknown
    cases cfg.uds.unknownDid <;> rfl
  unfold didVerdict
  cases hspec : cfg.dids did with
  | none =>
      unfold readOne
      rw [hspec]
      exact hunknown
  | some spec =>
      cases hread : spec.read with
      | false =>
          unfold readOne
          rw [hspec, Option.filter_some_neg (by simp [hread])]
          simpa [hread] using hunknown
      | true =>
          rw [Option.filter_some_pos hread]
          exact readOne_readable hstore hspec hread h

/-- The active session is no byte: the handler raises. -/
theorem readOne_unencodable (h : SessionUnencodable cfg s did) :
    readOne cfg r s d did = .error .error := by
  obtain ⟨spec, hspec, hpermitted, hdynamic⟩ := h.declared
  unfold readOne
  rw [hspec]
  simp only [hpermitted.read, hpermitted.readNrc, hdynamic,
    checkGates_permitted hpermitted.sessions hpermitted.security]
  unfold dynamicValue
  simp only [if_pos h.active, if_neg h.noByte]
  rfl

/-! ## §2. A list of DIDs. -/

variable {store : Store} {dids : List Nat}

/-- The record of a DID in a positive response. -/
def didRecord (cfg : EcuConfig) (s : SessionState) (store : Store) (did : Nat) : Option Bytes :=
  (didVerdict cfg s store did).value?.map (packH did ++ ·)

/-- The code of a DID that is refused. -/
def didRefusal (cfg : EcuConfig) (s : SessionState) (store : Store) (did : Nat) : Option UInt8 :=
  (didVerdict cfg s store did).nrc?

/-- The answer to a read of these DIDs: the first refusal, or the records of
those that are served. -/
def readReference (cfg : EcuConfig) (s : SessionState) (store : Store) (dids : List Nat) :
    Result :=
  match dids.findSome? (didRefusal cfg s store) with
  | some nrc => .negative nrc (some sidReadDataByIdentifier)
  | none =>
      let records := dids.filterMap (didRecord cfg s store)
      let response := 0x62 :: records.flatten
      if records = [] then .noResponse
      else if cfg.doip.maxPayloadBytes < response.length then
        .negative nrcResponseTooLong (some sidReadDataByIdentifier)
      else .bytes response

/-- With no refusal before it, the walk comes to a session number that is no
byte. -/
def ReachesUnencodable (cfg : EcuConfig) (s : SessionState) (store : Store) (dids : List Nat) :
    Prop :=
  ∃ before did after, dids = before ++ did :: after
    ∧ (∀ did ∈ before, didRefusal cfg s store did = none) ∧ SessionUnencodable cfg s did

theorem reachesUnencodable_cons {rest : List Nat} :
    ReachesUnencodable cfg s store (did :: rest) ↔
      SessionUnencodable cfg s did
        ∨ didRefusal cfg s store did = none ∧ ReachesUnencodable cfg s store rest := by
  constructor
  · rintro ⟨before, did', after, hsplit, hbefore, hdid'⟩
    cases before with
    | nil =>
        cases hsplit
        exact .inl hdid'
    | cons first before =>
        cases hsplit
        exact .inr ⟨hbefore did (List.mem_cons_self ..), before, did', after, rfl,
          fun x hx => hbefore x (List.mem_cons_of_mem _ hx), hdid'⟩
  · rintro (hdid | ⟨hnone, before, did', after, rfl, hbefore, hdid'⟩)
    · exact ⟨[], did, rest, rfl, by simp, hdid⟩
    · refine ⟨did :: before, did', after, rfl, ?_, hdid'⟩
      intro x hx
      rcases List.mem_cons.mp hx with rfl | hx
      · exact hnone
      · exact hbefore x hx

/-- The walk of the handler: the first refusal, or all records. -/
theorem readAll_verdict (hstore : StoreOk cfg d.store)
    (h : ¬ ReachesUnencodable cfg s d.store dids) :
    readAll cfg r s d dids
      = match dids.findSome? (didRefusal cfg s d.store) with
        | some nrc => .error (r.nrc nrc)
        | none => .ok (dids.filterMap (didRecord cfg s d.store)) := by
  induction dids with
  | nil => rfl
  | cons did rest ih =>
      have hdid : ¬ SessionUnencodable cfg s did :=
        fun hdid => h (reachesUnencodable_cons.mpr (.inl hdid))
      have hone := readOne_verdict (r := r) hstore hdid
      cases hverdict : didVerdict cfg s d.store did with
      | refused nrc =>
          have hrefusal : didRefusal cfg s d.store did = some nrc := by
            unfold didRefusal
            rw [hverdict]
            rfl
          rw [readAll, hone, hverdict, List.findSome?_cons, hrefusal]
          rfl
      | skipped =>
          have hrefusal : didRefusal cfg s d.store did = none := by
            unfold didRefusal
            rw [hverdict]
            rfl
          have hrecord : didRecord cfg s d.store did = none := by
            unfold didRecord
            rw [hverdict]
            rfl
          have hrest := ih fun hrest => h (reachesUnencodable_cons.mpr (.inr ⟨hrefusal, hrest⟩))
          rw [readAll, hone, hverdict, List.findSome?_cons, hrefusal, List.filterMap_cons, hrecord]
          exact hrest
      | served value =>
          have hrefusal : didRefusal cfg s d.store did = none := by
            unfold didRefusal
            rw [hverdict]
            rfl
          have hrecord : didRecord cfg s d.store did = some (packH did ++ value) := by
            unfold didRecord
            rw [hverdict]
            rfl
          have hrest := ih fun hrest => h (reachesUnencodable_cons.mpr (.inr ⟨hrefusal, hrest⟩))
          rw [readAll, hone, hverdict, List.findSome?_cons, hrefusal, List.filterMap_cons, hrecord]
          dsimp only [DidVerdict.outcome]
          rw [hrest]
          cases rest.findSome? (didRefusal cfg s d.store) <;> rfl

theorem readAll_unencodable (hstore : StoreOk cfg d.store)
    (h : ReachesUnencodable cfg s d.store dids) : readAll cfg r s d dids = .error .error := by
  induction dids with
  | nil =>
      obtain ⟨before, did, after, hsplit, _⟩ := h
      exact absurd hsplit (by simp)
  | cons did rest ih =>
      rw [readAll]
      by_cases hdid : SessionUnencodable cfg s did
      · rw [readOne_unencodable hdid]
      rcases reachesUnencodable_cons.mp h with hdid' | ⟨hnone, hrest⟩
      · exact absurd hdid' hdid
      rw [readOne_verdict hstore hdid]
      cases hverdict : didVerdict cfg s d.store did with
      | refused nrc =>
          unfold didRefusal at hnone
          rw [hverdict] at hnone
          cases hnone
      | skipped => exact ih hrest
      | served value =>
          dsimp only [DidVerdict.outcome]
          rw [ih hrest]

/-! ## §3. The request. -/

/-- `22 <did> <did> ...` -/
def UdsRequest.ReadsDids (r : UdsRequest) (dids : List Nat) : Prop :=
  dids ≠ [] ∧ (∀ did ∈ dids, did < 65536)
    ∧ r.raw = sidReadDataByIdentifier :: dids.flatMap packH

namespace UdsRequest

theorem didsOf_flatMap (h : ∀ did ∈ dids, did < 65536) : didsOf (dids.flatMap packH) = dids := by
  induction dids with
  | nil => rfl
  | cons did rest ih =>
      show fromBytes (packH did) :: didsOf (rest.flatMap packH) = did :: rest
      rw [fromBytes_packH (h did (List.mem_cons_self ..)),
        ih fun x hx => h x (List.mem_cons_of_mem _ hx)]

theorem length_flatMap_packH (dids : List Nat) : (dids.flatMap packH).length = 2 * dids.length := by
  induction dids with
  | nil => rfl
  | cons did rest ih =>
      rw [List.flatMap_cons, List.length_append, length_packH, ih, List.length_cons]
      omega

variable (h : r.ReadsDids dids)
include h

theorem ReadsDids.sid_eq : r.sid = sidReadDataByIdentifier := by
  unfold UdsRequest.sid
  rw [h.2.2]
  rfl

theorem ReadsDids.data_eq : r.data = dids.flatMap packH := by
  unfold UdsRequest.data
  rw [h.2.2]
  rfl

theorem ReadsDids.dids_eq : r.dids = dids := by
  unfold UdsRequest.dids
  rw [h.data_eq, didsOf_flatMap h.2.1]

/-- The check of the length lets it pass. -/
theorem ReadsDids.body : ¬ (r.data = [] ∨ r.data.length % 2 ≠ 0) := by
  have hlength := length_flatMap_packH dids
  rw [h.data_eq]
  rintro (hnil | hodd)
  · have hpos := List.length_pos_of_ne_nil h.1
    rw [hnil, List.length_nil] at hlength
    omega
  · omega

end UdsRequest

/-! ## §4. The dispatch. -/

/-- A dispatch of ReadDataByIdentifier. -/
theorem dispatch_readsDids (h : r.ReadsDids dids) (st : StateId) (c : EcuCore) :
    dispatch cfg r st c = (c, (readDataByIdentifier cfg r (c.states st) c.data).2.2) := by
  have hservice : coreService cfg r.sid = some readDataByIdentifier := by
    rw [h.sid_eq]
    rfl
  have hkept : readDataByIdentifier cfg r (c.states st) c.data
      = (c.states st, c.data, (readDataByIdentifier cfg r (c.states st) c.data).2.2) := by
    unfold readDataByIdentifier
    dsimp only
    rw [if_neg h.body]
    cases readAll cfg r (c.states st) c.data r.dids with
    | error refusal => rfl
    | ok records =>
        cases records with
        | nil => rfl
        | cons record records =>
            dsimp only
            split <;> rfl
  unfold dispatch
  rw [if_neg (by rw [h.sid_eq]; decide), hservice]
  dsimp only
  rw [hkept]
  dsimp only
  rw [EcuCore.setState_self]

theorem readReference_ne_error : readReference cfg s store dids ≠ .error := by
  unfold readReference
  split
  · simp
  · dsimp only
    split
    · simp
    · split <;> simp

/-- **A read of several DIDs has the answer of the reference and changes
nothing**, iff the walk comes to no session number that is no byte. -/
theorem multi_did_read_iff (cfg : EcuConfig) (r : UdsRequest) (dids : List Nat)
    (h : r.ReadsDids dids) (st : StateId) (c : EcuCore) (hstore : StoreOk cfg c.data.store) :
    dispatch cfg r st c = (c, readReference cfg (c.states st) c.data.store dids)
      ↔ ¬ ReachesUnencodable cfg (c.states st) c.data.store dids := by
  rw [dispatch_readsDids h]
  have hpositive : ∀ payload, r.positive payload = 0x62 :: payload := by
    intro payload
    unfold UdsRequest.positive
    rw [h.sid_eq]
    rfl
  have hnrc : ∀ nrc, r.nrc nrc = .negative nrc (some sidReadDataByIdentifier) := by
    intro nrc
    unfold UdsRequest.nrc
    rw [h.sid_eq]
  constructor
  · intro heq hreaches
    have hresult := congrArg Prod.snd heq
    unfold readDataByIdentifier at hresult
    dsimp only at hresult
    rw [if_neg h.body, h.dids_eq, readAll_unencodable hstore hreaches] at hresult
    exact readReference_ne_error hresult.symm
  · intro hnot
    refine congrArg (Prod.mk c) ?_
    unfold readDataByIdentifier readReference
    dsimp only
    rw [if_neg h.body, h.dids_eq, readAll_verdict hstore hnot]
    cases dids.findSome? (didRefusal cfg (c.states st) c.data.store) with
    | some nrc => exact hnrc nrc
    | none =>
        dsimp only
        cases dids.filterMap (didRecord cfg (c.states st) c.data.store) with
        | nil => rfl
        | cons record records =>
            dsimp only
            have hne : record :: records ≠ [] := by simp
            rw [hpositive, hnrc, if_neg hne]
            split <;> rfl

/-- Two DIDs with a value, and the policy to skip unknown ones. -/
def twoDids : Yaml :=
  .map [(.str "uds", .map [(.str "unknown_did", .str "silent")]),
    (.str "data_identifiers", .map [
      (.int 0x0100, .map [(.str "value", .str "AA BB")]),
      (.int 0x0200, .map [(.str "value", .str "CC"), (.str "read_security", .int 1)])])]

/-- A served DID, an unknown one that is skipped, and the first again. -/
theorem multi_did_read_twoDids :
    ∃ loaded, Loader.parseConfig twoDids = .ok loaded
      ∧ dispatch loaded.core ⟨[0x22, 0x01, 0x00, 0x12, 0x34, 0x01, 0x00], 0x0E00, 0x0003, false⟩ 0
          (EcuCore.init loaded.core)
        = (EcuCore.init loaded.core,
          .bytes [0x62, 0x01, 0x00, 0xAA, 0xBB, 0x01, 0x00, 0xAA, 0xBB]) := by
  have hvalues : (match Loader.parseConfig twoDids with
      | .ok loaded => decide ((loaded.core.dids 0xF186).isNone = true
          ∧ readReference loaded.core (SessionState.new loaded.core) loaded.core.storeDefaults
              [0x0100, 0x1234, 0x0100]
            = .bytes [0x62, 0x01, 0x00, 0xAA, 0xBB, 0x01, 0x00, 0xAA, 0xBB])
      | .error _ => false) = true := by decide
  cases h : Loader.parseConfig twoDids with
  | error e =>
      rw [h] at hvalues
      cases hvalues
  | ok loaded =>
      rw [h] at hvalues
      obtain ⟨hactive, hreference⟩ := of_decide_eq_true hvalues
      refine ⟨loaded, rfl, ?_⟩
      rw [← hreference]
      refine (multi_did_read_iff loaded.core _ [0x0100, 0x1234, 0x0100] ⟨by simp, by simp, rfl⟩ 0
        (EcuCore.init loaded.core) (storeDefaults_ok (Loader.parseConfig_accepted h))).mpr ?_
      rintro ⟨before, did, after, _, _, hdid⟩
      obtain ⟨spec, hspec, _⟩ := hdid.declared
      rw [hdid.active] at hspec
      unfold didActiveDiagnosticSession at hspec
      rw [hspec] at hactive
      cases hactive

/-- Session 300 is the only one, and the active session may be read. -/
def oversized : Yaml :=
  .map [
    (.str "uds", .map [(.str "default_session", .int 300), (.str "sessions", .list [.int 300])]),
    (.str "data_identifiers", .map [(.int 0xF186, .map [(.str "type", .str "dynamic")])])]

/-- **A read of the active session raises**: it is neither answered nor
refused. -/
theorem oversized_session_unanswered :
    ∃ loaded, Loader.parseConfig oversized = .ok loaded
      ∧ StoreOk loaded.core (EcuCore.init loaded.core).data.store
      ∧ UdsRequest.ReadsDids ⟨[0x22, 0xF1, 0x86], 0x0E00, 0x0003, false⟩ [0xF186]
      ∧ (dispatch loaded.core ⟨[0x22, 0xF1, 0x86], 0x0E00, 0x0003, false⟩ 0
          (EcuCore.init loaded.core)).2 = .error
      ∧ readReference loaded.core ((EcuCore.init loaded.core).states 0)
          (EcuCore.init loaded.core).data.store [0xF186] ≠ .error := by
  have hrun : (match Loader.parseConfig oversized with
      | .ok loaded => decide ((dispatch loaded.core ⟨[0x22, 0xF1, 0x86], 0x0E00, 0x0003, false⟩ 0
          (EcuCore.init loaded.core)).2 = .error)
      | .error _ => false) = true := by decide
  cases h : Loader.parseConfig oversized with
  | error e =>
      rw [h] at hrun
      cases hrun
  | ok loaded =>
      rw [h] at hrun
      exact ⟨loaded, rfl, storeDefaults_ok (Loader.parseConfig_accepted h),
        ⟨by simp, by simp, rfl⟩, of_decide_eq_true hrun, readReference_ne_error⟩

end DoipPlayground.VirtualEcu
