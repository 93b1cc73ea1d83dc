/-
  DoipPlayground.VirtualEcu.Encodable
  ───────────────────────────────────
  **WHAT THE LOADER ACCEPTS AND WHAT CAN BE SENT** (`udp.py`, `session.py`,
  `services/data_identifier.py`).

  The loader decodes EID and GID with their spaces and underscores taken
  out, the announcement decodes them as they stand; and three numbers that
  are sent as one byte are loaded without a range.

    • `Encodable` — every answer that is made of the config can be built,
    • `Fits` — what the config has to look like for that,
    • `encodable_iff` — they are the same, for every accepted config.
-/
import DoipPlayground.VirtualEcu.Loader
import DoipPlayground.VirtualEcu.Privileges

namespace DoipPlayground.VirtualEcu

open Wire

/-! ## §1. The UDP responder. -/

/-- `build_announcement_payload` -/
def buildAnnouncementPayload (config : Loader.EcuConfig) : Option Bytes :=
  (Python.encodeAscii config.doip.vin.toList).bind fun vin =>
    (Python.fromHex config.doip.eid.toList).bind fun eid =>
      (Python.fromHex config.doip.gid.toList).bind fun gid =>
        (Python.packH? config.doip.ecuLogicalAddr).map fun addr =>
          Python.fit 17 0x00 vin ++ addr ++ eid ++ gid ++ [0x00] ++ [0x00]

/-- What `_UDPProtocol` keeps of the configuration. -/
structure UdpProtocol where
  payload : Bytes
  nodeType : Int
  powerMode : Int
  maxData : Int
  maxSockets : Int
  /-- Requests with an EID or a VIN are matched against these. -/
  eid : Bytes
  vin : Bytes
  deriving DecidableEq, Repr

namespace UdpProtocol

/-- `_UDPProtocol.__init__` -/
def new (config : Loader.EcuConfig) (maxSockets : Int) : Option UdpProtocol :=
  (buildAnnouncementPayload config).bind fun payload =>
    (Python.fromHex config.doip.eid.toList).bind fun eid =>
      (Python.encodeAscii config.doip.vin.toList).map fun vin =>
        { payload, nodeType := config.doip.nodeType, powerMode := config.doip.powerMode
          maxData := config.doip.maxPayloadBytes, maxSockets, eid
          vin := Python.fit 17 0x00 vin }

/-- `open_sockets`; the registry may be missing. -/
def openSockets : Option SessionRegistry → Nat
  | some registry => min (SessionRegistry.len registry) 0xFF
  | none => 0

/-- `_entity_status_payload` -/
def entityStatusPayload (p : UdpProtocol) (registry : Option SessionRegistry) : Option Bytes :=
  let maxSockets := min (max p.maxSockets 0) 0xFF
  (Python.byte? p.nodeType).bind fun nodeType =>
    (Python.byte? maxSockets).bind fun maxSockets =>
      (Python.byte? (openSockets registry)).bind fun openSockets =>
        (Python.packI? p.maxData).map fun maxData =>
          [nodeType, maxSockets, openSockets] ++ maxData

/-- `bytes([self._power_mode])` -/
def powerModePayload (p : UdpProtocol) : Option Bytes := (Python.byte? p.powerMode).map ([·])

end UdpProtocol

/-- `_activation_response` -/
def activationPayload (config : Loader.EcuConfig) (srcAddr code : Int) : Option Bytes :=
  (Python.packH? srcAddr).bind fun src =>
    (Python.packH? config.doip.ecuLogicalAddr).bind fun ecu =>
      (Python.byte? code).map fun code => src ++ ecu ++ [code] ++ [0, 0, 0, 0] ++ [0, 0, 0, 0]

/-! ## §2. What can be sent. -/

/-- The payload has VIN, address, EID and GID, as the loader has read them,
at their offsets. -/
structure Announces (config : Loader.EcuConfig) (payload : Bytes) : Prop where
  size : payload.length = 33
  vin : Python.encodeAscii config.doip.vin.toList = some (payload.take 17)
  addr : Python.packH? config.doip.ecuLogicalAddr = some ((payload.drop 17).take 2)
  eid : Python.fromHex (Loader.unseparated config.doip.eid) = some ((payload.drop 19).take 6)
  gid : Python.fromHex (Loader.unseparated config.doip.gid) = some ((payload.drop 25).take 6)

/-- Nothing that is made of the configuration raises. -/
structure Encodable (config : Loader.EcuConfig) : Prop where
  responder : ∀ maxSockets, ∃ p, UdpProtocol.new config maxSockets = some p
    ∧ Announces config p.payload
  entityStatus : ∀ maxSockets p registry, UdpProtocol.new config maxSockets = some p →
    (p.entityStatusPayload registry).isSome = true
  powerMode : ∀ maxSockets p, UdpProtocol.new config maxSockets = some p →
    p.powerModePayload.isSome = true
  /-- An address of two bytes is unpacked from the request. -/
  activation : ∀ (srcAddr : Nat) (code : UInt8), srcAddr < 65536 →
    activationPayload config srcAddr code.toNat
      = some (World.activationResponse config.core srcAddr code)
  /-- The read of DID 0xF186, in the state of a tester. -/
  activeSession : ∀ (es : List Event) (w : World),
    Transition.exec (step config.core) (World.init config.core) es = some w →
    ∀ st < w.core.nextState,
      ∃ value, dynamicValue (w.core.states st) didActiveDiagnosticSession = .ok (some value)

/-- The fields that are sent can be sent. -/
structure Fits (config : Loader.EcuConfig) : Prop where
  eid : Python.betweenBytes true config.doip.eid.toList = true
  gid : Python.betweenBytes true config.doip.gid.toList = true
  nodeType : 0 ≤ config.doip.nodeType ∧ config.doip.nodeType < 256
  powerMode : 0 ≤ config.doip.powerMode ∧ config.doip.powerMode < 256
  defaultSession : 0 ≤ config.uds.defaultSession ∧ config.uds.defaultSession < 256

/-! ## §3. The answers of the UDP responder. -/

variable {config : Loader.EcuConfig}

theorem fromHex_unseparated {text : String} {data : Bytes}
    (h : Python.fromHex (Loader.unseparated text) = some data) :
    Python.betweenBytes true text.toList = true ↔ Python.fromHex text.toList = some data := by
  rw [← Python.fromHex_isSome_iff text.toList data h]
  constructor
  · intro hsome
    obtain ⟨data', hdata'⟩ := Option.isSome_iff_exists.mp hsome
    have hsame := (Python.fromHex_filter _ _ hdata').symm.trans h
    rw [hdata', hsame]
  · intro hdata
    rw [hdata]
    rfl

theorem packH_of_range {n : Int} (h : 0 ≤ n ∧ n ≤ 0xFFFF) :
    Python.packH? n = some (packH n.toNat) := by
  unfold Python.packH?
  rw [if_pos (by omega)]

/-- A field behind others. -/
theorem field_of_append {before field after : Bytes} {start size : Nat}
    (hstart : before.length = start) (hsize : field.length = size) :
    ((before ++ (field ++ after)).drop start).take size = field := by
  rw [List.drop_left' hstart, List.take_left' hsize]

/-- **The responder is built exactly when EID and GID can be decoded as they stand.** -/
theorem responder_iff (h : config.doip.Checked) (maxSockets : Int) :
    (∃ p, UdpProtocol.new config maxSockets = some p ∧ Announces config p.payload)
      ↔ Python.betweenBytes true config.doip.eid.toList = true
        ∧ Python.betweenBytes true config.doip.gid.toList = true := by
  obtain ⟨eid, heid, heidLen⟩ := h.eid
  obtain ⟨gid, hgid, hgidLen⟩ := h.gid
  obtain ⟨vin, hvin, hvinLen⟩ := h.vin
  have haddr := packH_of_range h.ecuLogicalAddr
  rw [fromHex_unseparated heid, fromHex_unseparated hgid]
  constructor
  · rintro ⟨p, hp, _⟩
    obtain ⟨payload, hpayload, _⟩ := Option.bind_eq_some_iff.mp hp
    obtain ⟨_, _, hpayload⟩ := Option.bind_eq_some_iff.mp hpayload
    obtain ⟨eid', heid', hpayload⟩ := Option.bind_eq_some_iff.mp hpayload
    obtain ⟨gid', hgid', _⟩ := Option.bind_eq_some_iff.mp hpayload
    have hsame : ∀ {text data data'}, Python.fromHex (Loader.unseparated text) = some data →
        Python.fromHex text.toList = some data' → Python.fromHex text.toList = some data := by
      intro text data data' hread hdata'
      rw [hdata', ← Python.fromHex_filter _ _ hdata']
      exact hread
    exact ⟨hsame heid heid', hsame hgid hgid'⟩
  · rintro ⟨heid', hgid'⟩
    have hfit : Python.fit 17 0x00 vin = vin := by
      rw [← hvinLen]
      exact Python.fit_self 0x00 vin
    have hpayload : buildAnnouncementPayload config
        = some (vin ++ packH config.doip.ecuLogicalAddr.toNat ++ eid ++ gid
          ++ [0x00] ++ [0x00]) := by
      unfold buildAnnouncementPayload
      rw [hvin, heid', hgid', haddr]
      simp only [Option.bind_some, Option.map_some, hfit]
    obtain ⟨p, hp, hpp⟩ : ∃ p, UdpProtocol.new config maxSockets = some p ∧ p.payload
        = vin ++ packH config.doip.ecuLogicalAddr.toNat ++ eid ++ gid ++ [0x00] ++ [0x00] := by
      unfold UdpProtocol.new
      rw [hpayload, hvin, heid']
      exact ⟨_, rfl, rfl⟩
    refine ⟨p, hp, ?_⟩
    rw [hpp]
    have haddrLen := length_packH config.doip.ecuLogicalAddr.toNat
    generalize packH config.doip.ecuLogicalAddr.toNat = addr at haddr haddrLen
    simp only [List.append_assoc]
    refine ⟨?_, ?_, ?_, ?_, ?_⟩
    · simp [hvinLen, haddrLen, heidLen, hgidLen]
    · rw [hvin, List.take_left' hvinLen]
    · rw [haddr, field_of_append hvinLen haddrLen]
    · rw [heid, ← List.append_assoc vin, field_of_append ?_ heidLen]
      simp [hvinLen, haddrLen]
    · rw [hgid, ← List.append_assoc addr, ← List.append_assoc vin, field_of_append ?_ hgidLen]
      simp [hvinLen, haddrLen, heidLen]

/-- What the responder keeps. -/
theorem new_keeps {maxSockets : Int} {p : UdpProtocol}
    (h : UdpProtocol.new config maxSockets = some p) :
    p.nodeType = config.doip.nodeType ∧ p.powerMode = config.doip.powerMode
      ∧ p.maxData = config.doip.maxPayloadBytes := by
  obtain ⟨payload, _, h⟩ := Option.bind_eq_some_iff.mp h
  obtain ⟨eid, _, h⟩ := Option.bind_eq_some_iff.mp h
  obtain ⟨vin, _, rfl⟩ := Option.map_eq_some_iff.mp h
  exact ⟨rfl, rfl, rfl⟩

/-- Only the node type can be too large for its byte. -/
theorem entityStatus_iff {maxSockets : Int} {p : UdpProtocol} (h : config.doip.Checked)
    (hp : UdpProtocol.new config maxSockets = some p) (registry : Option SessionRegistry) :
    (p.entityStatusPayload registry).isSome = true
      ↔ 0 ≤ config.doip.nodeType ∧ config.doip.nodeType < 256 := by
  obtain ⟨hnode, _, hdata⟩ := new_keeps hp
  have hmax := h.maxPayloadBytes
  have hopen : (Python.byte? (UdpProtocol.openSockets registry)).isSome = true := by
    rw [Python.byte?_isSome]
    unfold UdpProtocol.openSockets
    split <;> omega
  have hsockets : (Python.byte? (min (max p.maxSockets 0) 0xFF)).isSome = true := by
    rw [Python.byte?_isSome]
    omega
  have hpack : (Python.packI? p.maxData).isSome = true := by
    rw [hdata]
    unfold Python.packI?
    rw [if_pos (by omega)]
    rfl
  obtain ⟨openCount, hopen⟩ := Option.isSome_iff_exists.mp hopen
  obtain ⟨sockets, hsockets⟩ := Option.isSome_iff_exists.mp hsockets
  obtain ⟨data, hpack⟩ := Option.isSome_iff_exists.mp hpack
  rw [← Python.byte?_isSome, ← hnode]
  unfold UdpProtocol.entityStatusPayload
  cases Python.byte? p.nodeType with
  | none => simp
  | some node => simp [hsockets, hopen, hpack]

theorem powerMode_iff {maxSockets : Int} {p : UdpProtocol}
    (hp : UdpProtocol.new config maxSockets = some p) :
    p.powerModePayload.isSome = true
      ↔ 0 ≤ config.doip.powerMode ∧ config.doip.powerMode < 256 := by
  obtain ⟨_, hpower, _⟩ := new_keeps hp
  unfold UdpProtocol.powerModePayload
  rw [Option.isSome_map, Python.byte?_isSome, hpower]

theorem byte?_toNat (b : UInt8) : Python.byte? (b.toNat : Int) = some b := by
  have hb := b.toNat_lt
  unfold Python.byte?
  rw [if_pos (by omega), Int.toNat_natCast, UInt8.ofNat_toNat]

/-- Every activation response can be sent. -/
theorem activationPayload_eq (h : config.doip.Checked) {srcAddr : Nat} (hsrc : srcAddr < 65536)
    (code : UInt8) : activationPayload config srcAddr code.toNat
      = some (World.activationResponse config.core srcAddr code) := by
  have hpacked : Python.packH? srcAddr = _ := packH_of_range ⟨by omega, by omega⟩
  unfold activationPayload
  rw [hpacked, packH_of_range h.ecuLogicalAddr, byte?_toNat]
  rfl

/-! ## §4. The session numbers a tester can reach. -/

variable {cfg : EcuConfig} {w w' : World}

/-- The number is the default one, or came as a sub-function. -/
def SessionByte (cfg : EcuConfig) (sessionType : Int) : Prop :=
  sessionType = cfg.uds.defaultSession ∨ 0 ≤ sessionType ∧ sessionType < 128

theorem subFunction_lt (r : UdsRequest) : r.subFunction.getD 0 < 128 := by
  unfold UdsRequest.subFunction
  split
  · cases r.raw[1]? with
    | none => decide
    | some b =>
        show (b &&& 0x7F).toNat < 128
        rw [UInt8.toNat_and]
        exact Nat.lt_of_le_of_lt Nat.and_le_right (by decide)
  · decide

theorem coreService_sessionByte {sid : UInt8} {service : Service}
    (h : coreService cfg sid = some service) (r : UdsRequest) {s : SessionState} (d : EcuData)
    (hs : SessionByte cfg s.sessionType) :
    SessionByte cfg (service cfg r s d).1.sessionType := by
  cases coreService_cases h with
  | diagnosticSessionControl =>
      have hsub := subFunction_lt r
      unfold diagnosticSessionControl
      dsimp only
      split
      · exact hs
      split
      · exact hs
      · unfold SessionState.enterSession
        rw [SessionState.refreshS3_sessionType]
        exact .inr (by dsimp only; omega)
  | testerPresent =>
      unfold testerPresent
      split
      · exact hs
      split
      · exact hs
      · rw [SessionState.refreshS3_sessionType]
        exact hs
  | securityAccess =>
      unfold securityAccess requestSeed sendKey
      dsimp only
      split
      · exact hs
      split
      · exact hs
      split
      · split
        · exact hs
        split <;> exact hs
      split
      · exact hs
      split
      · exact hs
      split
      · split <;> exact hs
      · exact hs
  | readDataByIdentifier =>
      rw [readDataByIdentifier_state]
      exact hs
  | writeDataByIdentifier =>
      rw [writeDataByIdentifier_state]
      exact hs
  | routineControl =>
      rw [routineControl_state]
      exact hs

/-- Every state has such a number. -/
def SessionBytes (cfg : EcuConfig) (c : EcuCore) : Prop :=
  ∀ st, SessionByte cfg (c.states st).sessionType

namespace SessionBytes

variable {c c' : EcuCore}

theorem init (cfg : EcuConfig) : SessionBytes cfg (EcuCore.init cfg) := fun _ => .inl rfl

theorem of_eq (h : SessionBytes cfg c)
    (heq : ∀ st, (c'.states st).sessionType = (c.states st).sessionType) : SessionBytes cfg c' :=
  fun st => (heq st).symm ▸ h st

theorem setState (h : SessionBytes cfg c) {st : StateId} {s : SessionState}
    (hs : SessionByte cfg s.sessionType) : SessionBytes cfg (c.setState st s) := by
  intro st'
  rw [EcuCore.setState_states]
  split
  · exact hs
  · exact h st'

theorem sessionFor (h : SessionBytes cfg c) (testerAddr : SA) :
    SessionBytes cfg (c.sessionFor cfg testerAddr).1 := by
  unfold EcuCore.sessionFor
  split
  · exact h
  · intro st
    dsimp only
    by_cases hst : st = c.nextState
    · subst hst
      rw [Function.update_self]
      exact .inl rfl
    · rw [Function.update_of_ne hst]
      exact h st

theorem maybeDrop (h : SessionBytes cfg c) (testerAddr : Option SA) (st : StateId) :
    SessionBytes cfg (c.maybeDropSessionState cfg testerAddr st) := by
  intro st'
  rcases EcuCore.maybeDrop_states cfg c testerAddr st st' with heq | ⟨rfl, _, heq⟩
  · rw [heq]
    exact h st'
  · rw [heq]
    exact h st'

theorem dispatch (h : SessionBytes cfg c) (r : UdsRequest) (st : StateId) :
    SessionBytes cfg (VirtualEcu.dispatch cfg r st c).1 := by
  unfold VirtualEcu.dispatch
  split
  · rename_i hsid
    by_cases hr : r.IsSupportedReset
    · rw [ecuReset_executed hr]
      split
      · exact h.of_eq (c.dropSessionState_sessionType r.sourceAddr)
      · exact h.setState (.inl rfl)
    · rw [ecuReset_refused hsid hr]
      exact h
  split
  · exact h
  · rename_i service hservice
    exact h.setState (coreService_sessionByte hservice r c.data (h st))

end SessionBytes

theorem sessionBytes_step {e : Event} (hw : Shape w) (h : SessionBytes cfg w.core)
    (hstep : step cfg w e = some w') : SessionBytes cfg w'.core := by
  have hrelease : ∀ (w : World) (i : Sid), SessionBytes cfg w.core →
      SessionBytes cfg (w.releaseState cfg i).core :=
    fun w i h => h.of_eq (releaseState_sessionType w i)
  have hevict : ∀ (w : World) (i : Sid) (answered : Bool), SessionBytes cfg w.core →
      SessionBytes cfg (w.evict cfg i answered).core := by
    intro w i answered h
    rw [evict_core]
    exact hrelease w i h
  cases step_change hw hstep with
  | quiet hq =>
      rw [hq.core]
      exact h
  | accepted => exact h
  | occupied _ _ _ hq =>
      rw [hq.core]
      exact h.sessionFor _
  | @evicted i src existing ev answered _ _ _ _ hq =>
      rw [hq.core]
      exact hevict (w.takeProbe i existing) existing answered h
  | @replaced i src existing ev answered _ _ _ _ hq =>
      rw [hq.core]
      exact (hevict (w.takeProbe i existing) existing answered h).sessionFor _
  | requested _ hq =>
      rw [hq.core]
      exact h.setState (by rw [SessionState.refreshS3_sessionType]; exact h _)
  | dispatched _ hq =>
      rw [hq.core]
      exact h.dispatch _ _
  | expired _ => exact (h.setState (.inl rfl)).maybeDrop _ _
  | released _ hq =>
      rw [hq.core]
      exact hrelease w _ h
  | unregistered _ hq =>
      rw [hq.core]
      exact h

theorem sessionBytes_run (es : List Event) (w : World)
    (h : Transition.exec (step cfg) (World.init cfg) es = some w) : SessionBytes cfg w.core := by
  refine (Transition.exec_invariant (fun w => Shape w ∧ SessionBytes cfg w.core) ?_ es _ w
    ⟨shape_init cfg, SessionBytes.init cfg⟩ h).2
  rintro w e w' ⟨hw, hbytes⟩ hstep
  exact ⟨hw.step hstep, sessionBytes_step hw hbytes hstep⟩

theorem dynamicValue_iff (s : SessionState) :
    (∃ value, dynamicValue s didActiveDiagnosticSession = .ok (some value))
      ↔ 0 ≤ s.sessionType ∧ s.sessionType < 256 := by
  unfold dynamicValue
  rw [if_pos rfl]
  split
  · rename_i hbyte
    exact ⟨fun _ => hbyte, fun _ => ⟨_, rfl⟩⟩
  · rename_i hbyte
    exact ⟨fun ⟨_, h⟩ => absurd h (by simp), fun h => absurd h hbyte⟩

/-- A Routing Activation Request is read as one, up to the hooks. -/
theorem readFrame_activation (w : World) (i : Sid) {sa : SA} (hsa : sa < 65536) :
    ∃ v, w.readFrame cfg i (activationFrame sa)
      = some ((w.set i { w.sessions i with currentReqVersion := v }).setPump i
          (.hooking sa 0)) := by
  have hlen : declaredLen (activationFrame sa) = 7 :=
    declaredLen_buildFrame _ (by simp) _
  have hheader : validateHeader (activationFrame sa) = none := by
    unfold validateHeader activationFrame buildFrame
    simp [ver, acceptedVersions]
  have htype : ptype (activationFrame sa) = ptRoutingActRequest :=
    ptype_buildFrame (by decide) _ _
  have hload : payload (activationFrame sa) = packH sa ++ [0x00, 0, 0, 0, 0] := rfl
  have hsrc : fromBytes (packH sa) = sa := fromBytes_packH hsa
  refine ⟨ver, ?_⟩
  unfold World.readFrame
  rw [hlen, if_neg (by show ¬ 15 < 8; decide), if_neg (by unfold frameLenSlack; omega),
    if_pos (by rfl)]
  unfold World.handleFrame
  rw [hheader]
  dsimp only
  rw [htype, if_pos rfl, hload, if_neg (by show ¬ 7 < 7; decide),
    List.take_left' (length_packH sa), hsrc]
  rfl

/-- A free address in the range is taken by the first socket that asks. -/
theorem handleRoutingActivation_first (hcfg : cfg.Accepted) {w : World} {i : Sid} {sa : SA}
    (hlow : cfg.doip.testerAddrRange.1 ≤ sa) (hhigh : sa ≤ cfg.doip.testerAddrRange.2)
    (hact : (w.sessions i).activated = false) (hfree : w.registry.lookup sa = none)
    (hroom : SessionRegistry.len w.registry = 0) :
    (w.handleRoutingActivation cfg i sa 0 none).core = (w.core.sessionFor cfg sa).1 := by
  have hmax := hcfg.maxConcurrentSessions
  unfold World.handleRoutingActivation
  simp only [Option.filter_none, hact, hfree]
  rw [if_neg (by simp [hlow, hhigh]), if_neg (by simp), if_neg (by simp), if_neg (by simp)]
  unfold World.checkCapacity
  rw [hroom, if_neg (by omega)]
  rfl

/-- The first tester that asks gets a state, in the default session. -/
theorem first_activation (hcfg : cfg.Accepted) :
    ∃ w, Transition.exec (step cfg) (World.init cfg) (asks 0 cfg.doip.testerAddrRange.1) = some w
      ∧ w.core.nextState = 1
      ∧ (w.core.states 0).sessionType = cfg.uds.defaultSession := by
  have hrange := hcfg.testerAddrRange
  generalize hsa : cfg.doip.testerAddrRange.1 = sa at hrange
  let w₁ : World := { World.init cfg with opened := 1 }
  have hsmall : sa < 65536 := by omega
  obtain ⟨v, hframe⟩ : ∃ v, w₁.readFrame cfg 0 (activationFrame sa) = some _ :=
    readFrame_activation w₁ 0 hsmall
  let w₂ := (w₁.set 0 { w₁.sessions 0 with currentReqVersion := v }).setPump 0 (.hooking sa 0)
  have hcore : (w₂.handleRoutingActivation cfg 0 sa 0 none).core
      = (w₂.core.sessionFor cfg sa).1 :=
    handleRoutingActivation_first hcfg (Nat.le_of_eq hsa) hrange.1 rfl rfl rfl
  refine ⟨w₂.handleRoutingActivation cfg 0 sa 0 none, ?_, ?_, ?_⟩
  · have hread : step cfg w₁ (.frame 0 (activationFrame sa)) = some w₂ := by
      simp only [step]
      rw [if_pos ⟨Nat.zero_lt_one, rfl⟩]
      exact hframe
    show (step cfg w₁ (.frame 0 (activationFrame sa))).bind _ = _
    rw [hread]
    rfl
  · rw [hcore]
    rfl
  · rw [hcore]
    rfl

/-! ## §5. The two agree. -/

/-- **An accepted config can be sent** exactly when its separators stand
between the bytes of EID and GID, and node type, power mode and default
session are bytes. -/
theorem encodable_iff (raw : Yaml) (config : Loader.EcuConfig)
    (h : Loader.parseConfig raw = .ok config) : Encodable config ↔ Fits config := by
  have hdoip := (Loader.parseConfig_ok h).doip
  have haccepted := Loader.parseConfig_accepted h
  constructor
  · intro hall
    obtain ⟨p, hp, hannounces⟩ := hall.responder 1
    obtain ⟨heid, hgid⟩ := (responder_iff hdoip 1).mp ⟨p, hp, hannounces⟩
    refine ⟨heid, hgid, (entityStatus_iff hdoip hp none).mp (hall.entityStatus 1 p none hp),
      (powerMode_iff hp).mp (hall.powerMode 1 p hp), ?_⟩
    obtain ⟨w, hw, hnext, hsession⟩ := first_activation haccepted
    have hvalue := hall.activeSession _ w hw 0 (by rw [hnext]; decide)
    rw [dynamicValue_iff, hsession] at hvalue
    exact hvalue
  · intro hfits
    refine ⟨fun maxSockets => (responder_iff hdoip maxSockets).mpr ⟨hfits.eid, hfits.gid⟩,
      fun _ p registry hp => (entityStatus_iff hdoip hp registry).mpr hfits.nodeType,
      fun _ p hp => (powerMode_iff hp).mpr hfits.powerMode,
      fun srcAddr code hsrc => activationPayload_eq hdoip hsrc code, ?_⟩
    intro es w hw st _
    rw [dynamicValue_iff]
    rcases sessionBytes_run es w hw st with hdefault | hbyte
    · rw [hdefault]
      exact hfits.defaultSession
    · omega

/-- The empty config. -/
theorem encodable_iff_default :
    ∃ config, Loader.parseConfig .null = .ok config ∧ Encodable config := by
  have hfits : (match Loader.parseConfig .null with
      | .ok config =>
          decide (Python.betweenBytes true config.doip.eid.toList = true
            ∧ Python.betweenBytes true config.doip.gid.toList = true
            ∧ (0 ≤ config.doip.nodeType ∧ config.doip.nodeType < 256)
            ∧ (0 ≤ config.doip.powerMode ∧ config.doip.powerMode < 256)
            ∧ (0 ≤ config.uds.defaultSession ∧ config.uds.defaultSession < 256))
      | .error _ => false) = true := by decide
  cases h : Loader.parseConfig .null with
  | error e =>
      rw [h] at hfits
      cases hfits
  | ok config =>
      rw [h] at hfits
      obtain ⟨heid, hgid, hnode, hpower, hdefault⟩ := of_decide_eq_true hfits
      exact ⟨config, rfl, (encodable_iff .null config h).mpr ⟨heid, hgid, hnode, hpower, hdefault⟩⟩

/-- An EID written with underscores: the loader takes them out. -/
def underscored : Yaml := .map [(.str "doip", .map [(.str "eid", .str "01_02_03_04_05_06")])]

/-- It is accepted, and no announcement can be built. -/
theorem underscored_not_encodable :
    ∃ config, Loader.parseConfig underscored = .ok config
      ∧ buildAnnouncementPayload config = none ∧ ¬ Encodable config := by
  have hrun : (match Loader.parseConfig underscored with
      | .ok config => (buildAnnouncementPayload config).isNone
      | .error _ => false) = true := by decide
  cases h : Loader.parseConfig underscored with
  | error e =>
      rw [h] at hrun
      cases hrun
  | ok config =>
      rw [h] at hrun
      have hnone := Option.isNone_iff_eq_none.mp hrun
      refine ⟨config, rfl, hnone, ?_⟩
      intro hall
      obtain ⟨p, hp, _⟩ := hall.responder 1
      obtain ⟨payload, hpayload, _⟩ := Option.bind_eq_some_iff.mp hp
      rw [hnone] at hpayload
      cases hpayload

end DoipPlayground.VirtualEcu
