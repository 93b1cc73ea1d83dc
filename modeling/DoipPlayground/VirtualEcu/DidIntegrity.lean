/-
  DoipPlayground.VirtualEcu.DidIntegrity
  ──────────────────────────────────────
  **THE STORE OF DID VALUES** (`store.py`, `services/data_identifier.py`).

  Only a dispatch touches the store, and only in two ways: an ECUReset
  brings every default back, a permitted WriteDataByIdentifier replaces one
  value.

    • `StoreEffect` — all that a dispatch does to the store,
    • `StoreOk` — which DIDs have a value, and how long it is,
    • `did_store_integrity` — along every run, for every loaded config.
-/
import DoipPlayground.VirtualEcu.Loader
import DoipPlayground.VirtualEcu.PumpWorker

namespace DoipPlayground.VirtualEcu

open Wire

variable {cfg : EcuConfig}

/-- The values of the store. -/
abbrev Store := Nat → Option Bytes

/-! ## §1. Requests about one DID. -/

/-- `2E <did> <value>` -/
def UdsRequest.WritesDid (r : UdsRequest) (did : Nat) (value : Bytes) : Prop :=
  did < 65536 ∧ r.raw = sidWriteDataByIdentifier :: (packH did ++ value)

/-- `22 <did>` -/
def UdsRequest.ReadsDid (r : UdsRequest) (did : Nat) : Prop :=
  did < 65536 ∧ r.raw = sidReadDataByIdentifier :: packH did

/-- The YAML entry lets this write through. -/
structure WritePermitted (spec : DidSpec) (s : SessionState) (value : Bytes) : Prop where
  write : spec.write = true
  writeNrc : spec.writeNrc = none
  sessions : ∀ sessions, spec.writeSessions = some sessions → s.sessionType ∈ sessions
  security : spec.writeSecurity ≤ s.securityLevel
  length : ∀ n, spec.length = some n → value.length = n

/-- The YAML entry, if there is one, lets this read through. -/
structure ReadPermitted (spec : DidSpec) (s : SessionState) : Prop where
  read : spec.read = true
  readNrc : spec.readNrc = none
  sessions : ∀ sessions, spec.readSessions = some sessions → s.sessionType ∈ sessions
  security : spec.readSecurity ≤ s.securityLevel

/-- The handler refused, or its answer is a negative response. -/
def Refused (cfg : EcuConfig) (r : UdsRequest) (result : Result) : Prop :=
  (∃ nrc sid, result = .negative nrc sid)
    ∨ ∃ rest, resolveUds cfg.uds r result = some (sidNegativeResponse :: rest)

/-! ## §2. What a dispatch does to the store. -/

/-- The store after a dispatch for a tester in the state `s`, with its outcome. -/
inductive StoreEffect (cfg : EcuConfig) (r : UdsRequest) (s : SessionState) (store : Store) :
    Store → Result → Prop
  | kept (result : Result) : StoreEffect cfg r s store store result
  | reset (result : Result) (hr : r.IsSupportedReset) (hclear : cfg.uds.resetClearsWrites = true)
      (hok : ¬ Refused cfg r result) : StoreEffect cfg r s store cfg.storeDefaults result
  | written (did : Nat) (value : Bytes) (spec : DidSpec) (hr : r.WritesDid did value)
      (hspec : cfg.dids did = some spec) (hpermitted : WritePermitted spec s value) :
      StoreEffect cfg r s store (Function.update store did (some value))
        (.bytes (r.positive (packH did)))

theorem packH_fromBytes (a b : UInt8) : packH (fromBytes [a, b]) = [a, b] := by
  have ha := a.toNat_lt
  have hb := b.toNat_lt
  have hhigh : (a.toNat * 256 + b.toNat) / 256 = a.toNat := by omega
  have hlow : UInt8.ofNat (a.toNat * 256 + b.toNat) = b := by
    apply UInt8.toNat_inj.mp
    rw [UInt8.toNat_ofNat']
    omega
  simp [packH, fromBytes, hhigh, hlow]

theorem fromBytes_lt (a b : UInt8) : fromBytes [a, b] < 65536 := by
  have ha := a.toNat_lt
  have hb := b.toNat_lt
  simp only [fromBytes, List.foldl_cons, List.foldl_nil]
  omega

/-- The request is the SID and what follows it. -/
theorem raw_eq_cons {r : UdsRequest} {sid : UInt8} (hsid : r.sid = sid) (hdata : r.data ≠ []) :
    r.raw = sid :: r.data := by
  unfold UdsRequest.sid at hsid
  unfold UdsRequest.data at hdata ⊢
  cases hraw : r.raw with
  | nil =>
      rw [hraw] at hdata
      exact absurd rfl hdata
  | cons b rest =>
      rw [hraw] at hsid
      rw [← hsid]
      rfl

theorem writeDataByIdentifier_store {r : UdsRequest} (hsid : r.sid = sidWriteDataByIdentifier)
    (s : SessionState) (d : EcuData) :
    StoreEffect cfg r s d.store (writeDataByIdentifier cfg r s d).2.1.store
      (writeDataByIdentifier cfg r s d).2.2 := by
  unfold writeDataByIdentifier
  dsimp only
  split
  · exact .kept _
  rename_i hlen
  split
  · split <;> exact .kept _
  rename_i spec hspec
  split
  · exact .kept _
  rename_i hwrite
  split
  · exact .kept _
  · exact .kept _
  rename_i hnrc hgates
  split
  · exact .kept _
  rename_i hlength
  obtain ⟨hsessions, hsecurity⟩ := checkGates_eq_none hgates
  refine .written _ _ spec ?_ hspec ⟨by simpa using hwrite, hnrc, hsessions, hsecurity, ?_⟩
  · -- two bytes of identifier and the value
    match hdata : r.data with
    | [] | [_] =>
        rw [hdata] at hlen
        simp at hlen
    | a :: b :: value =>
        refine ⟨fromBytes_lt a b, ?_⟩
        rw [raw_eq_cons hsid (by simp [hdata]), hdata]
        show _ = sidWriteDataByIdentifier :: (packH (fromBytes [a, b]) ++ value)
        rw [packH_fromBytes]
        rfl
  · intro n hn
    by_cases heq : (r.data.drop 2).length = n
    · exact heq
    · refine absurd ⟨by simp [hn], ?_⟩ hlength
      rw [hn]
      exact fun h => heq (Option.some.inj h).symm

/-- No other service touches the store. -/
theorem coreService_store {sid : UInt8} {service : Service} (h : coreService cfg sid = some service)
    (hsid : sid ≠ sidWriteDataByIdentifier) (r : UdsRequest) (s : SessionState) (d : EcuData) :
    (service cfg r s d).2.1.store = d.store := by
  by_cases hroutine : sid = sidRoutineControl
  · rw [hroutine] at h
    cases h
    exact routineControl_store r s d
  · rw [coreService_data h hsid hroutine]

/-- An executed reset is not refused. -/
theorem ecuReset_accepted {r : UdsRequest} (hr : r.IsSupportedReset) (st : StateId) (c : EcuCore) :
    ¬ Refused cfg r (ecuReset cfg r st c).2 := by
  have hlen : r.raw.length = 2 := hr.2.1
  have hfirst : r.sid ||| 0x40 ≠ sidNegativeResponse := by
    rw [hr.1]
    decide
  unfold ecuReset
  dsimp only
  rw [if_neg (by omega), if_neg hr.sub]
  rintro (⟨nrc, sid, h⟩ | ⟨rest, h⟩)
  · split at h <;> cases h
  · split at h
    · simp only [resolveUds, UdsRequest.positive, Option.some.injEq, List.cons.injEq] at h
      exact hfirst h.1
    · simp only [resolveUds] at h
      split at h
      · cases h
      · simp only [UdsRequest.positive, Option.some.injEq, List.cons.injEq] at h
        exact hfirst h.1

/-- **All that a dispatch does to the store.** -/
theorem dispatch_store (cfg : EcuConfig) (r : UdsRequest) (st : StateId) (c : EcuCore) :
    StoreEffect cfg r (c.states st) c.data.store (dispatch cfg r st c).1.data.store
      (dispatch cfg r st c).2 := by
  unfold dispatch
  split
  · rename_i hsid
    by_cases hr : r.IsSupportedReset
    · have haccepted : ¬ Refused cfg r (ecuReset cfg r st c).2 := ecuReset_accepted hr st c
      rw [ecuReset_data hr]
      show StoreEffect cfg r _ _ (if cfg.uds.resetClearsWrites then cfg.storeDefaults
        else c.data.store) _
      split
      · rename_i hclear
        exact .reset _ hr hclear haccepted
      · exact .kept _
    · rw [ecuReset_refused hsid hr]
      exact .kept _
  split
  · exact .kept _
  · rename_i service hservice
    by_cases hsid : r.sid = sidWriteDataByIdentifier
    · have heq : service = writeDataByIdentifier := by
        rw [hsid] at hservice
        cases hservice
        rfl
      subst heq
      exact writeDataByIdentifier_store hsid (c.states st) c.data
    · have hstore := coreService_store hservice hsid r (c.states st) c.data
      show StoreEffect cfg r _ _ (service cfg r (c.states st) c.data).2.1.store _
      rw [hstore]
      exact .kept _

variable {r : UdsRequest} {s : SessionState} {store store' : Store} {result : Result} {did : Nat}

namespace StoreEffect

/-- A refused request leaves the store alone. -/
theorem refused (h : StoreEffect cfg r s store store' result) (hr : Refused cfg r result) :
    store' = store := by
  cases h with
  | kept => rfl
  | reset _ _ _ hok => exact absurd hr hok
  | written did value spec hw =>
      have hsid : r.sid = sidWriteDataByIdentifier := by
        unfold UdsRequest.sid
        rw [hw.2]
        rfl
      rcases hr with ⟨nrc, sid, h⟩ | ⟨rest, h⟩
      · cases h
      · simp only [resolveUds] at h
        split at h
        · cases h
        · simp only [UdsRequest.positive, hsid, Option.some.injEq, List.cons.injEq] at h
          exact absurd h.1 (by decide)

/-- The value of a DID changes to its default or to the value written. -/
theorem changed (h : StoreEffect cfg r s store store' result) (hne : store' did ≠ store did) :
    (r.IsSupportedReset ∧ cfg.uds.resetClearsWrites = true ∧ store' did = cfg.storeDefaults did)
      ∨ ∃ value spec, r.WritesDid did value ∧ cfg.dids did = some spec
          ∧ WritePermitted spec s value ∧ store' did = some value := by
  cases h with
  | kept => exact absurd rfl hne
  | reset _ hr hclear => exact .inl ⟨hr, hclear, rfl⟩
  | written did' value spec hw hspec hpermitted =>
      by_cases hd : did = did'
      · subst hd
        exact .inr ⟨value, spec, hw, hspec, hpermitted, Function.update_self ..⟩
      · exact absurd (Function.update_of_ne hd ..) hne

end StoreEffect

/-! ## §3. Only a dispatch touches the data. -/

theorem maybeDrop_data (cfg : EcuConfig) (c : EcuCore) (testerAddr : Option SA) (st : StateId) :
    (c.maybeDropSessionState cfg testerAddr st).data = c.data := by
  unfold EcuCore.maybeDropSessionState
  split <;> rfl

theorem sessionFor_data (cfg : EcuConfig) (c : EcuCore) (testerAddr : SA) :
    (c.sessionFor cfg testerAddr).1.data = c.data := by
  unfold EcuCore.sessionFor
  split <;> rfl

theorem releaseState_data (cfg : EcuConfig) (w : World) (i : Sid) :
    (w.releaseState cfg i).core.data = w.core.data := by
  unfold World.releaseState
  dsimp only
  split
  · exact maybeDrop_data cfg _ _ _
  · rfl

theorem evict_data (cfg : EcuConfig) (w : World) (i : Sid) (answered : Bool) :
    (w.evict cfg i answered).core.data = w.core.data := by
  rw [evict_core]
  exact releaseState_data cfg w i

/-- The event runs the dispatch of this request for this session state. -/
def Dispatches (w : World) (e : Event) (r : UdsRequest) (st : StateId) : Prop :=
  ∃ i, e = .dispatch i ∧ (w.sessions i).worker.request? = some r
    ∧ (w.sessions i).worker.state? = some st

variable {w w' : World} {e : Event} {st : StateId}

theorem dispatches_core (hd : Dispatches w e r st) (h : step cfg w e = some w') :
    w'.core = (dispatch cfg r st w.core).1 := by
  obtain ⟨i, rfl, hrequest, hstate⟩ := hd
  simp only [step] at h
  split at h
  · rename_i hworker
    rw [hworker] at hrequest hstate
    cases hrequest
    cases hstate
    obtain ⟨p2', _, rfl⟩ := Option.map_eq_some_iff.mp h
    rfl
  · rename_i hworker
    rw [hworker] at hrequest hstate
    cases hrequest
    cases hstate
    cases h
    rfl
  · cases h

/-- **Every step leaves the data alone, or is a dispatch.** -/
theorem step_data (hw : Shape w) (h : step cfg w e = some w') :
    w'.core.data = w.core.data ∨ ∃ r st, Dispatches w e r st := by
  by_cases hdispatch : ∃ i, e = .dispatch i
  · obtain ⟨i, rfl⟩ := hdispatch
    right
    simp only [step] at h
    split at h
    · rename_i request version st p2 hworker
      exact ⟨request, st, i, rfl, by rw [hworker]; rfl, by rw [hworker]; rfl⟩
    · rename_i request st hworker
      exact ⟨request, st, i, rfl, by rw [hworker]; rfl, by rw [hworker]; rfl⟩
    · cases h
  · left
    cases step_change hw h with
    | quiet hq => rw [hq.core]
    | accepted => rfl
    | occupied _ _ _ hq =>
        rw [hq.core]
        exact sessionFor_data cfg _ _
    | evicted _ _ _ hq =>
        rw [hq.core, evict_data]
        rfl
    | @replaced i src existing ev answered _ _ _ _ hq =>
        rw [hq.core]
        show (EcuCore.sessionFor cfg _ _).1.data = _
        rw [sessionFor_data]
        exact evict_data cfg (w.takeProbe i existing) existing answered
    | requested _ hq =>
        rw [hq.core]
        rfl
    | @dispatched i _ _ _ _ _ => exact absurd ⟨i, rfl⟩ hdispatch
    | expired _ => exact maybeDrop_data cfg _ _ _
    | released _ hq =>
        rw [hq.core]
        exact releaseState_data cfg w _
    | unregistered _ hq =>
        rw [hq.core]
        rfl

/-- What a dispatch does to the store of the world. -/
theorem step_storeEffect (hd : Dispatches w e r st) (h : step cfg w e = some w') :
    StoreEffect cfg r (w.core.states st) w.core.data.store w'.core.data.store
      (dispatch cfg r st w.core).2 := by
  rw [dispatches_core hd h]
  exact dispatch_store cfg r st w.core

/-! ## §4. Which DIDs have a value. -/

/-- Exactly the non-dynamic DIDs have a value, as long as it is declared. -/
structure StoreOk (cfg : EcuConfig) (store : Store) : Prop where
  stored : ∀ did, (store did).isSome = true
    ↔ ∃ spec, cfg.dids did = some spec ∧ spec.dynamic = false
  sized : ∀ did spec n value, cfg.dids did = some spec → spec.length = some n →
    store did = some value → value.length = n

theorem storeDefaults_ok (hcfg : cfg.Accepted) : StoreOk cfg cfg.storeDefaults where
  stored := by
    intro did
    unfold EcuConfig.storeDefaults
    cases hspec : cfg.dids did with
    | none => simp
    | some spec =>
        have hvalue := hcfg.didValue did spec hspec
        rw [Option.bind_some]
        cases hv : spec.value with
        | none =>
            have hdynamic := hvalue.mp hv
            simp [hdynamic]
        | some value =>
            have hstatic : spec.dynamic = false := by
              cases hd : spec.dynamic with
              | false => rfl
              | true => exact absurd (hvalue.mpr hd) (by simp [hv])
            simp [hstatic]
  sized := by
    intro did spec n value hspec hn hvalue
    unfold EcuConfig.storeDefaults at hvalue
    rw [hspec, Option.bind_some] at hvalue
    exact hcfg.didLength did spec n value hspec hn hvalue

theorem StoreOk.effect (hcfg : cfg.Accepted) (hok : StoreOk cfg store)
    (h : StoreEffect cfg r s store store' result) : StoreOk cfg store' := by
  cases h with
  | kept => exact hok
  | reset => exact storeDefaults_ok hcfg
  | written did value spec _ hspec hpermitted =>
      refine ⟨?_, ?_⟩
      · intro did'
        by_cases hd : did' = did
        · subst hd
          have hstatic := hcfg.didWrite did' spec hspec hpermitted.write
          rw [Function.update_self]
          exact ⟨fun _ => ⟨spec, hspec, hstatic⟩, fun _ => rfl⟩
        · rw [Function.update_of_ne hd]
          exact hok.stored did'
      · intro did' spec' n value' hspec' hn hvalue
        by_cases hd : did' = did
        · subst hd
          rw [Function.update_self, Option.some.injEq] at hvalue
          rw [hspec, Option.some.injEq] at hspec'
          subst hspec'
          rw [← hvalue]
          exact hpermitted.length n hn
        · rw [Function.update_of_ne hd] at hvalue
          exact hok.sized did' spec' n value' hspec' hn hvalue

theorem storeOk_run (hcfg : cfg.Accepted) (es : List Event) (w : World)
    (h : Transition.exec (step cfg) (World.init cfg) es = some w) :
    StoreOk cfg w.core.data.store := by
  refine (Transition.exec_invariant (fun w => Shape w ∧ StoreOk cfg w.core.data.store) ?_ es _ w
    ⟨shape_init cfg, storeDefaults_ok hcfg⟩ h).2
  rintro w e w' ⟨hw, hok⟩ hstep
  refine ⟨hw.step hstep, ?_⟩
  rcases step_data hw hstep with hdata | ⟨r, st, hd⟩
  · rw [hdata]
    exact hok
  · exact hok.effect hcfg (step_storeEffect hd hstep)

/-! ## §5. A value written is read back. -/

theorem checkGates_permitted {sessions : Option (List Int)} {security : Int}
    (hsessions : ∀ l, sessions = some l → s.sessionType ∈ l)
    (hsecurity : security ≤ s.securityLevel) : checkGates r s sessions security = none := by
  unfold checkGates
  cases sessions with
  | none =>
      rw [if_neg (by simp), if_neg (by omega)]
  | some l =>
      have hmem := hsessions l rfl
      rw [if_neg (by simp [hmem]), if_neg (by omega)]

namespace UdsRequest

theorem WritesDid.sid_eq {value : Bytes} (h : r.WritesDid did value) :
    r.sid = sidWriteDataByIdentifier := by
  unfold UdsRequest.sid
  rw [h.2]
  rfl

theorem ReadsDid.sid_eq (h : r.ReadsDid did) : r.sid = sidReadDataByIdentifier := by
  unfold UdsRequest.sid
  rw [h.2]
  rfl

theorem ReadsDid.dids_eq (h : r.ReadsDid did) : r.dids = [did] := by
  unfold UdsRequest.dids UdsRequest.data
  rw [h.2]
  show [fromBytes (packH did)] = [did]
  rw [fromBytes_packH h.1]

end UdsRequest

/-- A permitted read of a stored value that fits a frame. -/
theorem dispatch_read {c : EcuCore} {spec : DidSpec} {value : Bytes} (hr : r.ReadsDid did)
    (hspec : cfg.dids did = some spec) (hstatic : spec.dynamic = false)
    (hpermitted : ReadPermitted spec (c.states st)) (hstore : c.data.store did = some value)
    (hfits : value.length + 3 ≤ cfg.doip.maxPayloadBytes) :
    (dispatch cfg r st c).2 = .bytes (0x62 :: (packH did ++ value)) := by
  have hone : readOne cfg r (c.states st) c.data did = .ok (some value) := by
    unfold readOne
    rw [hspec]
    simp only [hpermitted.read, hpermitted.readNrc, hstatic, hstore,
      checkGates_permitted hpermitted.sessions hpermitted.security]
    rfl
  have hall : readAll cfg r (c.states st) c.data r.dids = .ok [packH did ++ value] := by
    rw [hr.dids_eq]
    simp only [readAll, hone]
  have hpositive : r.positive [packH did ++ value].flatten = 0x62 :: (packH did ++ value) := by
    unfold UdsRequest.positive
    rw [hr.sid_eq]
    simp only [List.flatten_cons, List.flatten_nil, List.append_nil]
    rfl
  have hservice : coreService cfg r.sid = some readDataByIdentifier := by
    rw [hr.sid_eq]
    rfl
  have hbody : ¬ (r.data = [] ∨ r.data.length % 2 ≠ 0) := by
    unfold UdsRequest.data
    rw [hr.2]
    simp [packH]
  unfold dispatch
  rw [if_neg (by rw [hr.sid_eq]; decide), hservice]
  dsimp only
  unfold readDataByIdentifier
  dsimp only
  rw [if_neg hbody, hall]
  dsimp only
  rw [hpositive, if_neg (by simp; omega)]

/-- The answer to the request of a dispatch. -/
def answer (cfg : EcuConfig) (w : World) (r : UdsRequest) (st : StateId) : Option Bytes :=
  resolveUds cfg.uds r (dispatch cfg r st w.core).2

/-- The step executes a reset that clears the writes, or a write to `did`. -/
def Overwrites (cfg : EcuConfig) (did : Nat) (w : World) (e : Event) : Prop :=
  ∃ r st, Dispatches w e r st
    ∧ ((r.IsSupportedReset ∧ cfg.uds.resetClearsWrites = true)
      ∨ ∃ value, r.WritesDid did value ∧ answer cfg w r st = some (0x6E :: packH did))

/-- Only these steps change the value of `did`. -/
theorem overwrites_of_changed (hw : Shape w) (h : step cfg w e = some w')
    (hne : w'.core.data.store did ≠ w.core.data.store did) : Overwrites cfg did w e := by
  rcases step_data hw h with hdata | ⟨r, st, hd⟩
  · exact absurd (by rw [hdata]) hne
  refine ⟨r, st, hd, ?_⟩
  have heffect := step_storeEffect hd h
  generalize hresult : (dispatch cfg r st w.core).2 = result at heffect
  generalize w'.core.data.store = store' at heffect hne
  cases heffect with
  | kept => exact absurd rfl hne
  | reset _ hr hclear => exact .inl ⟨hr, hclear⟩
  | written did' value spec hwrites =>
      have hd : did = did' := by
        by_contra hd
        exact hne (Function.update_of_ne hd ..)
      subst hd
      refine .inr ⟨value, hwrites, ?_⟩
      unfold answer
      rw [hresult]
      have hplain : r.suppressPosRsp = false := by
        unfold UdsRequest.suppressPosRsp UdsRequest.hasSubFunction
        rw [hwrites.sid_eq]
        rfl
      unfold UdsRequest.positive
      simp only [resolveUds, hplain, hwrites.sid_eq]
      rfl

/-- A write to a declared DID that is answered `6E` is in the store. -/
theorem written_of_answer {value : Bytes} {spec : DidSpec} {c : EcuCore}
    (hr : r.WritesDid did value) (hspec : cfg.dids did = some spec)
    (hanswer : resolveUds cfg.uds r (dispatch cfg r st c).2 = some (0x6E :: packH did)) :
    (dispatch cfg r st c).1.data.store did = some value := by
  have hservice : coreService cfg r.sid = some writeDataByIdentifier := by
    rw [hr.sid_eq]
    rfl
  have hraw : r.data = packH did ++ value := by
    unfold UdsRequest.data
    rw [hr.2]
    rfl
  have htake : fromBytes (r.data.take 2) = did := by
    rw [hraw, List.take_left' (length_packH did), fromBytes_packH hr.1]
  have hdrop : r.data.drop 2 = value := by
    rw [hraw, List.drop_left' (length_packH did)]
  have hrefused : ∀ nrc, resolveUds cfg.uds r (r.nrc nrc) ≠ some (0x6E :: packH did) := by
    intro nrc h
    simp only [resolveUds, UdsRequest.nrc] at h
    split at h
    · cases h
    · rw [Option.some.injEq, List.cons.injEq] at h
      exact absurd h.1 (by decide)
  -- every refusal begins with another byte, so all checks were passed
  unfold dispatch at hanswer ⊢
  rw [if_neg (by rw [hr.sid_eq]; decide), hservice] at hanswer ⊢
  dsimp only at hanswer ⊢
  unfold writeDataByIdentifier at hanswer ⊢
  dsimp only at hanswer ⊢
  rw [htake, hdrop, hspec] at hanswer ⊢
  dsimp only at hanswer ⊢
  split at hanswer
  · exact absurd hanswer (hrefused _)
  rename_i hlen
  rw [if_neg hlen]
  split at hanswer
  · exact absurd hanswer (hrefused _)
  rename_i hwrite
  rw [if_neg hwrite]
  cases hnrc : spec.writeNrc with
  | some nrc =>
      rw [hnrc] at hanswer
      exact absurd hanswer (hrefused _)
  | none =>
      cases hgates : checkGates r (c.states st) spec.writeSessions spec.writeSecurity with
      | some refusal =>
          obtain ⟨nrc, rfl⟩ := checkGates_refusal hgates
          rw [hnrc, hgates] at hanswer
          exact absurd hanswer (hrefused _)
      | none =>
          rw [hnrc, hgates] at hanswer
          dsimp only at hanswer ⊢
          split at hanswer
          · exact absurd hanswer (hrefused _)
          · rename_i hlength
            rw [if_neg hlength]
            exact Function.update_self ..

/-! ## §6. The store of a loaded config. -/

/-- Between the write of a value to `did` that was answered `6E` and a
permitted read of `did` alone, with no write to it and no clearing reset in
between, nothing is lost: the answer to the read has the value. -/
def ReadsBack (cfg : EcuConfig) (did : Nat) : Prop :=
  ∀ (es : List Event) (w : World) (e : Event) (r : UdsRequest) (st : StateId) (value : Bytes)
    (w₁ : World), Transition.exec (step cfg) (World.init cfg) es = some w →
    Dispatches w e r st → r.WritesDid did value → answer cfg w r st = some (0x6E :: packH did) →
    step cfg w e = some w₁ →
    ∀ (es' : List Event) (w₂ : World) (e' : Event) (r' : UdsRequest) (st' : StateId),
      Transition.exec (step cfg) w₁ es' = some w₂ →
      Transition.Along (step cfg) (fun w e => ¬ Overwrites cfg did w e) w₁ es' →
      Dispatches w₂ e' r' st' → r'.ReadsDid did →
      (∀ spec, cfg.dids did = some spec → ReadPermitted spec (w₂.core.states st')) →
      answer cfg w₂ r' st' = some (0x62 :: (packH did ++ value))

theorem readsBack_of_declared (hcfg : cfg.Accepted) {spec : DidSpec}
    (hspec : cfg.dids did = some spec) : ReadsBack cfg did := by
  intro es w e r st value w₁ hrun hd hr hanswer hstep es' w₂ e' r' st' hrun' halong hd' hr'
    hpermitted
  have hw : Shape w := shape_run es hrun
  have hwritten : w₁.core.data.store did = some value := by
    rw [dispatches_core hd hstep]
    exact written_of_answer hr hspec hanswer
  have hkept : w₂.core.data.store did = some value := by
    refine (Transition.exec_invariant_along
      (fun w => Shape w ∧ w.core.data.store did = some value) ?_ es' w₁ w₂
      ⟨hw.step hstep, hwritten⟩ halong hrun').2
    rintro w e w' ⟨hw, hvalue⟩ hno hstep
    refine ⟨hw.step hstep, ?_⟩
    by_contra hne
    exact hno (overwrites_of_changed hw hstep (by rw [hvalue]; exact hne))
  -- the stored DID is not a dynamic one, so the read is served from the store
  have hrunAll : Transition.exec (step cfg) (World.init cfg) (es ++ [e]) = some w₁ :=
    Transition.exec_snoc hrun hstep
  have hok := storeOk_run hcfg _ w₂ (Transition.exec_append_eq_some.mpr ⟨w₁, hrunAll, hrun'⟩)
  obtain ⟨spec', hspec', hstatic⟩ := (hok.stored did).mp (by rw [hkept]; rfl)
  have hfits : value.length + 3 ≤ cfg.doip.maxPayloadBytes := by
    obtain ⟨i, _, hrequest, _⟩ := hd
    obtain ⟨raw, hraw, hadmitted⟩ := served_admitted hrun hrequest
    have hsize := hadmitted.size
    rw [hraw, hr.2] at hsize
    simp only [List.length_cons, List.length_append, length_packH] at hsize
    omega
  unfold answer
  rw [dispatch_read hr' hspec' hstatic (hpermitted spec' hspec') hkept hfits]
  unfold resolveUds UdsRequest.suppressPosRsp UdsRequest.hasSubFunction
  rw [hr'.sid_eq]
  rfl

/-- What the store of DID values guarantees along every run. -/
structure StoreIntegrity (cfg : EcuConfig) : Prop where
  /-- Exactly the declared non-dynamic DIDs have a value. -/
  stored : ∀ (es : List Event) (w : World),
    Transition.exec (step cfg) (World.init cfg) es = some w → ∀ did,
    (w.core.data.store did).isSome = true
      ↔ ∃ spec, cfg.dids did = some spec ∧ spec.dynamic = false
  /-- A value has its declared length. -/
  sized : ∀ (es : List Event) (w : World),
    Transition.exec (step cfg) (World.init cfg) es = some w → ∀ did spec n value,
    cfg.dids did = some spec → spec.length = some n → w.core.data.store did = some value →
    value.length = n
  /-- It changes by a clearing reset, to its default, or by a permitted write. -/
  changed : ∀ (es : List Event) (w : World) (e : Event) (w' : World) (did : Nat),
    Transition.exec (step cfg) (World.init cfg) es = some w → step cfg w e = some w' →
    w'.core.data.store did ≠ w.core.data.store did →
    ∃ r st, Dispatches w e r st
      ∧ ((r.IsSupportedReset ∧ cfg.uds.resetClearsWrites = true
          ∧ w'.core.data.store did = cfg.storeDefaults did)
        ∨ ∃ value spec, r.WritesDid did value ∧ cfg.dids did = some spec
            ∧ WritePermitted spec (w.core.states st) value
            ∧ w'.core.data.store did = some value)
  /-- A refused request changes nothing. -/
  refused : ∀ (w : World) (e : Event) (w' : World) (r : UdsRequest) (st : StateId),
    Dispatches w e r st → Refused cfg r (dispatch cfg r st w.core).2 → step cfg w e = some w' →
    w'.core.data.store = w.core.data.store
  /-- What was written to a declared DID is read back. -/
  readsBack : ∀ did, (cfg.dids did).isSome = true → ReadsBack cfg did

/-- **The DID store of a loaded config** keeps its values, along every run
of requests by any testers. -/
theorem did_store_integrity (raw : Yaml) (loaded : Loader.EcuConfig)
    (h : Loader.parseConfig raw = .ok loaded) : StoreIntegrity loaded.core where
  stored es w hrun := (storeOk_run (Loader.parseConfig_accepted h) es w hrun).stored
  sized es w hrun := (storeOk_run (Loader.parseConfig_accepted h) es w hrun).sized
  changed es w e w' did hrun hstep hne := by
    rcases step_data (shape_run es hrun) hstep with hdata | ⟨r, st, hd⟩
    · exact absurd (by rw [hdata]) hne
    · exact ⟨r, st, hd, (step_storeEffect hd hstep).changed hne⟩
  refused w e w' r st hd hr hstep := (step_storeEffect hd hstep).refused hr
  readsBack did hdeclared := by
    obtain ⟨spec, hspec⟩ := Option.isSome_iff_exists.mp hdeclared
    exact readsBack_of_declared (Loader.parseConfig_accepted h) hspec

/-- A config with one writable DID. -/
def writable : Yaml :=
  .map [(.str "data_identifiers", .map [(.int 0x0200,
    .map [(.str "value", .str "AA 01"), (.str "length", .int 2), (.str "write", .bool true)])])]

/-- The answer to a tester that has written `07 08` to DID 0x0200. -/
def answerAfterWrite (cfg : EcuConfig) (uds : Bytes) : Option Bytes :=
  (Transition.exec (step cfg) (World.init cfg) (asks 0 0x0E00 ++ [.sent 0]
    ++ requests 0 0x0E00 [0x2E, 0x02, 0x00, 0x07, 0x08])).bind
    (fun w => answer cfg w ⟨uds, 0x0E00, 0x0003, false⟩ 0)

theorem did_store_integrity_writable :
    ∃ loaded, Loader.parseConfig writable = .ok loaded ∧ StoreIntegrity loaded.core
      ∧ answerAfterWrite loaded.core [0x22, 0x02, 0x00] = some [0x62, 0x02, 0x00, 0x07, 0x08] := by
  have hrun : (match Loader.parseConfig writable with
      | .ok loaded => answerAfterWrite loaded.core [0x22, 0x02, 0x00]
      | .error _ => none) = some [0x62, 0x02, 0x00, 0x07, 0x08] := by decide
  cases h : Loader.parseConfig writable with
  | error e =>
      rw [h] at hrun
      cases hrun
  | ok loaded =>
      rw [h] at hrun
      exact ⟨loaded, rfl, did_store_integrity writable loaded h, hrun⟩

/-- `unknown_did: echo` acknowledges a write to any DID. -/
def echoing : Yaml := .map [(.str "uds", .map [(.str "unknown_did", .str "echo")])]

/-- Up to the dispatch of a write of `07 08` to DID 0x0200. -/
def echoWrite : List Event :=
  asks 0 0x0E00 ++ [.sent 0, .frame 0 (diagnosticFrame 0x0E00 [0x2E, 0x02, 0x00, 0x07, 0x08]),
    .sent 0, .takeRequest 0]

/-- From there up to the dispatch of a read of that DID. -/
def echoRead : List Event :=
  [.resolve 0 .resume, .resolve 0 .sent, .frame 0 (diagnosticFrame 0x0E00 [0x22, 0x02, 0x00]),
   .sent 0, .takeRequest 0]

/-- What the worker of socket 0 has in hand, and how it will answer. -/
def inHand (cfg : EcuConfig) (w : World) : Option (UdsRequest × StateId × Option Bytes) :=
  (w.sessions 0).worker.request?.bind fun r =>
    (w.sessions 0).worker.state?.map fun st => (r, st, answer cfg w r st)

theorem inHand_eq {cfg : EcuConfig} {w : World} {r : UdsRequest} {st : StateId}
    {response : Option Bytes} (h : inHand cfg w = some (r, st, response)) :
    Dispatches w (.dispatch 0) r st ∧ answer cfg w r st = response := by
  obtain ⟨r', hr, h⟩ := Option.bind_eq_some_iff.mp h
  obtain ⟨st', hst, heq⟩ := Option.map_eq_some_iff.mp h
  cases heq
  exact ⟨⟨0, rfl, hr, hst⟩, rfl⟩

/-- The worlds in which the write and the read are dispatched. -/
def echoed (cfg : EcuConfig) : Option (World × World × World) :=
  (Transition.exec (step cfg) (World.init cfg) echoWrite).bind fun w =>
    (step cfg w (.dispatch 0)).bind fun w₁ =>
      (Transition.exec (step cfg) w₁ echoRead).map fun w₂ => (w, w₁, w₂)

/-- Without a dispatch nothing is overwritten. -/
theorem along_of_no_dispatch (es : List Event) (hes : ∀ i, Event.dispatch i ∉ es) (w : World) :
    Transition.Along (step cfg) (fun w e => ¬ Overwrites cfg did w e) w es := by
  induction es generalizing w with
  | nil => trivial
  | cons e es ih =>
      refine ⟨?_, ?_⟩
      · rintro ⟨r, st, ⟨i, rfl, _⟩, _⟩
        exact hes i (List.mem_cons_self ..)
      · split
        · exact ih (fun i hmem => hes i (List.mem_cons_of_mem _ hmem)) _
        · trivial

set_option synthInstance.maxSize 1000 in
/-- Nothing is stored for a DID that is not declared: its echo is no value. -/
theorem echoed_write_not_read_back :
    ∃ loaded, Loader.parseConfig echoing = .ok loaded ∧ ¬ ReadsBack loaded.core 0x0200 := by
  have hrun : (match Loader.parseConfig echoing with
      | .ok loaded => (echoed loaded.core).map (fun t =>
          ((loaded.core.dids 0x0200).isNone, inHand loaded.core t.1, inHand loaded.core t.2.2))
      | .error _ => none)
      = some (true,
          some (⟨[0x2E, 0x02, 0x00, 0x07, 0x08], 0x0E00, 0x0003, false⟩, 0,
            some [0x6E, 0x02, 0x00]),
          some (⟨[0x22, 0x02, 0x00], 0x0E00, 0x0003, false⟩, 0,
            some [0x62, 0x02, 0x00, 0x02, 0x00])) := by decide
  cases h : Loader.parseConfig echoing with
  | error e =>
      rw [h] at hrun
      cases hrun
  | ok loaded =>
      rw [h] at hrun
      refine ⟨loaded, rfl, ?_⟩
      intro hback
      obtain ⟨⟨w, w₁, w₂⟩, hechoed, hobserved⟩ := Option.map_eq_some_iff.mp hrun
      obtain ⟨_, hw, hechoed⟩ := Option.bind_eq_some_iff.mp hechoed
      obtain ⟨_, hw₁, hechoed⟩ := Option.bind_eq_some_iff.mp hechoed
      obtain ⟨_, hw₂, heq⟩ := Option.map_eq_some_iff.mp hechoed
      cases heq
      simp only [Prod.mk.injEq] at hobserved
      obtain ⟨hnone, hwrite, hread⟩ := hobserved
      obtain ⟨hdispatch, hanswer⟩ := inHand_eq hwrite
      obtain ⟨hdispatch', hanswer'⟩ := inHand_eq hread
      have hno : ∀ i, Event.dispatch i ∉ echoRead := by
        intro i
        simp [echoRead]
      have hvalue := hback echoWrite w (.dispatch 0) _ 0 [0x07, 0x08] w₁ hw hdispatch
        ⟨by decide, by decide⟩ hanswer hw₁ echoRead w₂ (.dispatch 0) _ 0 hw₂
        (along_of_no_dispatch _ hno w₁) hdispatch' ⟨by decide, by decide⟩
        (fun spec hspec => by rw [hspec] at hnone; cases hnone)
      rw [hanswer'] at hvalue
      exact absurd hvalue (by decide)

end DoipPlayground.VirtualEcu
