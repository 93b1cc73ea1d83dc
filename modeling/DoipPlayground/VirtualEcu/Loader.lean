/-
  DoipPlayground.VirtualEcu.Loader
  ────────────────────────────────
  **FROM A YAML MAPPING TO A CONFIGURATION** (`config.py`).

  Each section has a loader that fills in the defaults, converts the
  values and checks them in the order of the source; the first check that
  fails names its field.  The `plugins` section is left out: it decides
  nothing about the rest.

    • `loadDid`, `encodeDidValue` — one entry of `data_identifiers`,
    • `parseConfig` — the whole mapping with its cross-section checks,
    • `parseConfig_accepted` — what the core may rely on.
-/
import DoipPlayground.Lib.Python
import DoipPlayground.VirtualEcu.Config

namespace DoipPlayground.VirtualEcu

open Wire

/-! ## §1. YAML values. -/

/-- What `yaml.safe_load` returns. -/
inductive Yaml where
  | null
  | bool (value : Bool)
  | int (value : Int)
  | str (text : String)
  | list (items : List Yaml)
  | map (entries : List (Yaml × Yaml))
  /-- A float, a date, a byte string or a set. -/
  | other (text : String)

namespace Loader

/-- The items of a mapping. -/
abbrev Section := List (Yaml × Yaml)

inductive LoadError where
  /-- `ConfigError`: the field and what is wrong with it. -/
  | config (path text : String)
  /-- `ValueError` of `str` for an integer that is too long. -/
  | value (path : String)
  deriving DecidableEq, Repr

abbrev Load := Except LoadError

/-- `raise ConfigError` if `bad`. -/
def reject (bad : Prop) [Decidable bad] (path text : String) : Load Unit :=
  if bad then .error (.config path text) else .ok ()

/-- `section.get(name)` -/
def get? (section_ : Section) (name : String) : Option Yaml :=
  section_.findSome? (fun
    | (.str key, value) => if key = name then some value else none
    | _ => none)

/-- `section.get(name, default)` -/
def getD (section_ : Section) (name : String) (default : Yaml) : Yaml :=
  (get? section_ name).getD default

/-! ## §2. Coercion helpers. -/

/-- `_to_int` -/
def toInt (value : Yaml) (path : String) : Load Int :=
  match value with
  | .bool _ => .error (.config path "expected an integer, got a boolean")
  | .int n => .ok n
  | .str text =>
      match Python.intLiteral text.toList with
      | some n => .ok n
      | none => .error (.config path "is not an integer")
  | _ => .error (.config path "expected an integer")

/-- `_to_bool` -/
def toBool (value : Yaml) (path : String) : Load Bool :=
  match value with
  | .bool b => .ok b
  | _ => .error (.config path "expected true/false")

/-- `_to_str`; a boolean is an integer to Python. -/
def toStr (value : Yaml) (path : String) : Load String :=
  match value with
  | .null => .ok ""
  | .str text => .ok text
  | .int n =>
      if Python.maxStrDigits < (toString n.natAbs).toList.length then .error (.value path)
      else .ok (toString n)
  | .bool b => .ok (if b then "True" else "False")
  | _ => .error (.config path "expected a string")

/-- `text.replace(" ", "").replace("_", "")` -/
def unseparated (text : String) : List Char :=
  text.toList.filter (fun c => c != ' ' && c != '_')

/-- `_to_hex_bytes` -/
def toHexBytes (value : Yaml) (path : String) : Load Bytes := do
  let text ← toStr value path
  match Python.fromHex (unseparated text) with
  | some data => .ok data
  | none => .error (.config path "is not a hex byte string")

/-- The elements of a list from `index` on. -/
def toInts (path : String) : Nat → List Yaml → Load (List Int)
  | _, [] => .ok []
  | index, item :: rest => do
      let n ← toInt item (path ++ "[" ++ toString index ++ "]")
      let ns ← toInts path (index + 1) rest
      .ok (n :: ns)

/-- `_to_int_list` -/
def toIntList (value : Yaml) (path : String) : Load (List Int) :=
  match value with
  | .list items => toInts path 0 items
  | _ => .error (.config path "expected a list")

/-- `_section` -/
def sectionOf (raw : Section) (name : String) : Load Section :=
  match get? raw name with
  | none | some .null => .ok []
  | some (.map entries) => .ok entries
  | some _ => .error (.config name "expected a mapping")

/-- `_one_of`, with what each word stands for. -/
def oneOf {α : Type} (value : Yaml) (allowed : List (String × α)) (path : String) : Load α := do
  let text ← toStr value path
  match allowed.lookup (String.ofList ((Python.strip text.toList).map Python.lower)) with
  | some meaning => .ok meaning
  | none => .error (.config path "is not one of the allowed words")

/-! ## §3. The sections. -/

inductive Family where
  | ipv6 | ipv4 | dual
  deriving DecidableEq, Repr

structure ListenConfig where
  host : String := "::"
  port : Int := 13400
  interface : String := ""
  family : Family := .ipv6
  discoveryFamily : Family := .ipv6
  deriving Repr

structure DoipConfig where
  ecuLogicalAddr : Int := 0x0003
  nodeType : Int := 0x01
  powerMode : Int := 0x01
  maxPayloadBytes : Int := 4096
  vin : String := "00000000000000000"
  eid : String := "000000000000"
  gid : String := "000000000000"
  testerAddrRange : Int × Int := (0x0E00, 0x0FFF)
  initialInactivityMs : Int := 2000
  generalInactivityMs : Int := 300000
  maxConcurrentSessions : Int := 8
  aliveCheckTimeoutMs : Int := 500
  deriving Repr

structure UdpConfig where
  enabled : Bool := true
  announceCount : Int := 3
  announceIntervalMs : Int := 500
  announceWaitMs : Int := 500
  deriving Repr

/-- `on_handler_error` -/
inductive HandlerErrorPolicy where
  | nrc | fallthrough | silent
  deriving DecidableEq, Repr

structure EcuConfig where
  listen : ListenConfig
  doip : DoipConfig
  udp : UdpConfig
  uds : UdsConfig
  onHandlerError : HandlerErrorPolicy
  dids : List (Nat × DidSpec)
  routines : List (Nat × RoutineSpec)
  deriving Repr

/-- `_load_listen` -/
def loadListen (raw : Section) : Load ListenConfig := do
  let section_ ← sectionOf raw "listen"
  let family ← oneOf (getD section_ "family" (.str "ipv6"))
    [("ipv6", Family.ipv6), ("ipv4", .ipv4), ("dual", .dual)] "listen.family"
  let default := if family = .ipv4 then "ipv4" else "ipv6"
  let discoveryFamily ← oneOf (getD section_ "discovery_family" (.str default))
    [("ipv6", Family.ipv6), ("ipv4", .ipv4)] "listen.discovery_family"
  let host ← toStr (getD section_ "host" (.str "::")) "listen.host"
  let port ← toInt (getD section_ "port" (.int 13400)) "listen.port"
  let interface ← toStr (getD section_ "interface" (.str "")) "listen.interface"
  .ok { host := if host = "" then "::" else host, port, interface, family, discoveryFamily }

/-- `tester_addr_range`, if it is given. -/
def loadTesterAddrRange (section_ : Section) : Load (Int × Int) :=
  match get? section_ "tester_addr_range" with
  | none => .ok (0x0E00, 0x0FFF)
  | some value => do
      let bounds ← toIntList value "doip.tester_addr_range"
      match bounds with
      | [low, high] =>
          reject (¬ (0 ≤ low ∧ low ≤ high ∧ high ≤ 0xFFFF)) "doip.tester_addr_range"
            "is not a valid ascending 16-bit range"
          .ok (low, high)
      | _ => .error (.config "doip.tester_addr_range" "expected [low, high]")

/-- `_load_doip` -/
def loadDoip (raw : Section) : Load DoipConfig := do
  let section_ ← sectionOf raw "doip"
  let ecuLogicalAddr ← toInt (getD section_ "ecu_logical_addr" (.int 0x0003))
    "doip.ecu_logical_addr"
  let nodeType ← toInt (getD section_ "node_type" (.int 0x01)) "doip.node_type"
  let powerMode ← toInt (getD section_ "power_mode" (.int 0x01)) "doip.power_mode"
  let maxPayloadBytes ← toInt (getD section_ "max_payload_bytes" (.int 4096))
    "doip.max_payload_bytes"
  let vin ← toStr (getD section_ "vin" (.str "00000000000000000")) "doip.vin"
  let eid ← toStr (getD section_ "eid" (.str "000000000000")) "doip.eid"
  let gid ← toStr (getD section_ "gid" (.str "000000000000")) "doip.gid"
  let initialInactivityMs ← toInt (getD section_ "initial_inactivity_ms" (.int 2000))
    "doip.initial_inactivity_ms"
  let generalInactivityMs ← toInt (getD section_ "general_inactivity_ms" (.int 300000))
    "doip.general_inactivity_ms"
  let maxConcurrentSessions ← toInt (getD section_ "max_concurrent_sessions" (.int 8))
    "doip.max_concurrent_sessions"
  let aliveCheckTimeoutMs ← toInt (getD section_ "alive_check_timeout_ms" (.int 500))
    "doip.alive_check_timeout_ms"
  let eidBytes ← toHexBytes (.str eid) "doip.eid"
  reject (eidBytes.length ≠ 6) "doip.eid" "expected 6 bytes after hex decoding"
  let gidBytes ← toHexBytes (.str gid) "doip.gid"
  reject (gidBytes.length ≠ 6) "doip.gid" "expected 6 bytes after hex decoding"
  reject (Python.encodeAscii vin.toList = none) "doip.vin" "is not pure ASCII"
  reject (vin.toList.length ≠ 17) "doip.vin" "expected 17 characters"
  reject (¬ (0 ≤ ecuLogicalAddr ∧ ecuLogicalAddr ≤ 0xFFFF)) "doip.ecu_logical_addr"
    "is not a 16-bit address"
  reject (¬ (0 < maxPayloadBytes ∧ maxPayloadBytes ≤ 0x1000000)) "doip.max_payload_bytes"
    "is not a usable payload limit (1..16777216)"
  reject (maxConcurrentSessions ≤ 0) "doip.max_concurrent_sessions" "must be a positive count"
  reject (aliveCheckTimeoutMs ≤ 0) "doip.alive_check_timeout_ms" "must be positive"
  let testerAddrRange ← loadTesterAddrRange section_
  .ok { ecuLogicalAddr, nodeType, powerMode, maxPayloadBytes, vin, eid, gid, testerAddrRange,
        initialInactivityMs, generalInactivityMs, maxConcurrentSessions, aliveCheckTimeoutMs }

/-- `_load_udp` -/
def loadUdp (raw : Section) : Load UdpConfig := do
  let section_ ← sectionOf raw "udp"
  let enabled ← toBool (getD section_ "enabled" (.bool true)) "udp.enabled"
  let announceCount ← toInt (getD section_ "announce_count" (.int 3)) "udp.announce_count"
  let announceIntervalMs ← toInt (getD section_ "announce_interval_ms" (.int 500))
    "udp.announce_interval_ms"
  let announceWaitMs ← toInt (getD section_ "announce_wait_ms" (.int 500)) "udp.announce_wait_ms"
  reject (announceCount < 0) "udp.announce_count" "must be >= 0"
  reject (announceIntervalMs < 0) "udp.announce_interval_ms" "must be >= 0"
  reject (announceWaitMs < 0) "udp.announce_wait_ms" "must be >= 0"
  .ok { enabled, announceCount, announceIntervalMs, announceWaitMs }

/-- `_load_security` -/
def loadSecurity (section_ : Section) : Load SecurityConfig :=
  if section_.isEmpty then .ok {}
  else do
    let algorithm ← oneOf (getD section_ "algorithm" (.str "xor"))
      [("none", SecurityAlgorithm.none), ("xor", .xor), ("add", .add)] "uds.security.algorithm"
    let enabled ← toBool (getD section_ "enabled" (.bool true)) "uds.security.enabled"
    let seed ← toHexBytes (getD section_ "seed" (.str "11223344")) "uds.security.seed"
    let key ← toHexBytes (getD section_ "key" (.str "A5A5A5A5")) "uds.security.key"
    let maxAttempts ← toInt (getD section_ "max_attempts" (.int 3)) "uds.security.max_attempts"
    reject (seed = []) "uds.security.seed" "must not be empty"
    reject (algorithm ≠ .none ∧ key.length ≠ seed.length) "uds.security.key"
      "the algorithm needs key and seed to be the same length"
    .ok { enabled, seed, algorithm, key, maxAttempts }

/-- The words of `unknown_service` and `unknown_did`. -/
def unknownPolicies : List (String × UnknownPolicy) :=
  [("nrc", .nrc), ("echo", .echo), ("silent", .silent)]

/-- `uds.sessions`, if it is given. -/
def loadConfiguredSessions (section_ : Section) : Load (List Int) :=
  match get? section_ "sessions" with
  | none => .ok [0x01, 0x02, 0x03, 0x04]
  | some value => toIntList value "uds.sessions"

/-- `_load_uds` -/
def loadUds (raw : Section) : Load (UdsConfig × HandlerErrorPolicy) := do
  let section_ ← sectionOf raw "uds"
  let defaultSession ← toInt (getD section_ "default_session" (.int 0x01)) "uds.default_session"
  let s3ServerMs ← toInt (getD section_ "s3_server_ms" (.int 5000)) "uds.s3_server_ms"
  let p2ServerMs ← toInt (getD section_ "p2_server_ms" (.int 50)) "uds.p2_server_ms"
  let p2StarServerMs ← toInt (getD section_ "p2_star_server_ms" (.int 5000))
    "uds.p2_star_server_ms"
  let autoResponsePending ← toBool (getD section_ "auto_response_pending" (.bool true))
    "uds.auto_response_pending"
  let maxResponsePending ← toInt (getD section_ "max_response_pending" (.int 10))
    "uds.max_response_pending"
  let suppressPosRspBit ← toBool (getD section_ "suppress_pos_rsp_bit" (.bool true))
    "uds.suppress_pos_rsp_bit"
  let functionalAddr ← toInt (getD section_ "functional_addr" (.int 0x1FFF)) "uds.functional_addr"
  let unknownService ← oneOf (getD section_ "unknown_service" (.str "nrc")) unknownPolicies
    "uds.unknown_service"
  let unknownDid ← oneOf (getD section_ "unknown_did" (.str "nrc")) unknownPolicies
    "uds.unknown_did"
  let onHandlerError ← oneOf (getD section_ "on_handler_error" (.str "nrc"))
    [("nrc", HandlerErrorPolicy.nrc), ("fallthrough", .fallthrough), ("silent", .silent)]
    "uds.on_handler_error"
  let resetClearsWrites ← toBool (getD section_ "reset_clears_writes" (.bool true))
    "uds.reset_clears_writes"
  let resetDropsConnection ← toBool (getD section_ "reset_drops_connection" (.bool false))
    "uds.reset_drops_connection"
  let securitySection ← sectionOf section_ "security"
  let security ← loadSecurity securitySection
  let sessions ← loadConfiguredSessions section_
  reject (defaultSession ∉ sessions) "uds.default_session" "is not in uds.sessions"
  reject (p2ServerMs ≤ 0) "uds.p2_server_ms" "must be > 0"
  reject (maxResponsePending < 0) "uds.max_response_pending" "must be >= 0 (0 = unlimited)"
  reject (¬ (0 ≤ functionalAddr ∧ functionalAddr ≤ 0xFFFF)) "uds.functional_addr"
    "is not a 16-bit address"
  reject (p2StarServerMs ≤ 0) "uds.p2_star_server_ms" "must be > 0"
  reject (s3ServerMs < 0) "uds.s3_server_ms" "must be >= 0 (0 = disabled)"
  .ok ({ defaultSession, s3ServerMs := s3ServerMs.toNat, p2ServerMs := p2ServerMs.toNat
         p2StarServerMs := p2StarServerMs.toNat, autoResponsePending
         maxResponsePending := maxResponsePending.toNat, suppressPosRspBit
         functionalAddr := functionalAddr.toNat, unknownService, unknownDid, resetClearsWrites
         resetDropsConnection, sessions, security }, onHandlerError)

/-! ## §4. The DID and routine tables. -/

inductive DidType where
  | hex | ascii | uint | dynamic
  deriving DecidableEq, Repr

/-- `_encode_did_value`; a dynamic DID takes no value. -/
def encodeDidValue (type : DidType) (value : Yaml) (length : Option Nat) (path : String) :
    Load Bytes :=
  match type with
  | .hex => do
      let encoded ← toHexBytes value path
      reject (length.isSome ∧ length ≠ some encoded.length) path
        "the value is not as long as length says"
      .ok encoded
  | .ascii => do
      let text ← toStr value path
      match Python.encodeAscii text.toList, length with
      | none, _ => .error (.config path "is not pure ASCII")
      | some encoded, none => .ok encoded
      | some encoded, some width => .ok (Python.fit width 0x00 encoded)
  | .uint => do
      let number ← toInt value path
      match Python.toBytes number (length.getD 1) with
      | some encoded => .ok encoded
      | none => .error (.config path "does not fit")
  | .dynamic => .error (.config path "takes no value")

/-- `NRC_NAMES` -/
def nrcNames : List Int :=
  [0x10, 0x11, 0x12, 0x13, 0x14, 0x21, 0x22, 0x24, 0x31, 0x33, 0x35, 0x36, 0x78, 0x7F]

/-- `read_nrc` and `write_nrc`; a null is no entry. -/
def loadNrc (entry : Section) (gate path : String) : Load (Option UInt8) :=
  match get? entry gate with
  | none | some .null => .ok none
  | some value => do
      let code ← toInt value (path ++ "." ++ gate)
      reject (code ∉ nrcNames) (path ++ "." ++ gate) "is not a known NRC"
      .ok (some (UInt8.ofNat code.toNat))

/-- `sessions`, `read_sessions` and `write_sessions`. -/
def loadSessions (entry : Section) (gate path : String) : Load (Option (List Int)) :=
  match get? entry gate with
  | none | some .null => .ok none
  | some value => do
      let sessions ← toIntList value (path ++ "." ++ gate)
      .ok (some sessions)

/-- `length`, which may be null. -/
def loadLength (entry : Section) (path : String) : Load (Option Nat) :=
  match get? entry "length" with
  | none | some .null => .ok none
  | some value => do
      let length ← toInt value (path ++ ".length")
      reject (length ≤ 0) (path ++ ".length") "must be > 0"
      .ok (some length.toNat)

/-- The value of an entry: a dynamic DID has none, any other one needs it. -/
def loadValue (type : DidType) (entry : Section) (length : Option Nat) (path : String) :
    Load (Option Bytes) :=
  match type, get? entry "value" with
  | .dynamic, some _ => .error (.config path "type 'dynamic' must not have a value")
  | .dynamic, none => .ok none
  | _, some value => do
      let encoded ← encodeDidValue type value length (path ++ ".value")
      .ok (some encoded)
  | _, none => .error (.config path "missing 'value'")

/-- `_load_did` -/
def loadDid (rawEntry : Yaml) (path : String) : Load DidSpec :=
  match rawEntry with
  | .map entry => do
      let type ← oneOf (getD entry "type" (.str "hex"))
        [("hex", DidType.hex), ("ascii", .ascii), ("uint", .uint), ("dynamic", .dynamic)]
        (path ++ ".type")
      let length ← loadLength entry path
      let value ← loadValue type entry length path
      let _ ← toStr (getD entry "name" (.str "")) (path ++ ".name")
      let read ← toBool (getD entry "read" (.bool true)) (path ++ ".read")
      let write ← toBool (getD entry "write" (.bool false)) (path ++ ".write")
      let readSecurity ← toInt (getD entry "read_security" (.int 0)) (path ++ ".read_security")
      let writeSecurity ← toInt (getD entry "write_security" (.int 0)) (path ++ ".write_security")
      let readSessions ← loadSessions entry "read_sessions" path
      let writeSessions ← loadSessions entry "write_sessions" path
      let readNrc ← loadNrc entry "read_nrc" path
      let writeNrc ← loadNrc entry "write_nrc" path
      reject (write = true ∧ type = .dynamic) path "type 'dynamic' cannot be writable"
      .ok { dynamic := type = .dynamic, length, value, read, write, readSessions, writeSessions,
            readSecurity, writeSecurity, readNrc, writeNrc }
  | _ => .error (.config path "expected a mapping")

/-- How a key reads in a field path. -/
def keyText : Yaml → String
  | .null => "None"
  | .bool b => if b then "True" else "False"
  | .int n => toString n
  | .str text => text
  | .list _ | .map _ => ""
  | .other text => text

/-- The entries of `data_identifiers` behind those in the table. -/
def loadDidEntries : Section → List (Nat × DidSpec) → Load (List (Nat × DidSpec))
  | [], table => .ok table
  | (key, entry) :: rest, table => do
      let path := "data_identifiers[" ++ keyText key ++ "]"
      let did ← toInt key path
      reject (¬ (0 ≤ did ∧ did ≤ 0xFFFF)) path "is not a 16-bit identifier"
      reject (did.toNat ∈ table.map Prod.fst) path "is declared twice"
      let spec ← loadDid entry path
      loadDidEntries rest (table ++ [(did.toNat, spec)])

/-- `_load_dids` -/
def loadDids (raw : Section) : Load (List (Nat × DidSpec)) := do
  let section_ ← sectionOf raw "data_identifiers"
  loadDidEntries section_ []

/-- One entry of `routines`. -/
def loadRoutine (rawEntry : Yaml) (path : String) : Load RoutineSpec :=
  match rawEntry with
  | .map entry => do
      let _ ← toStr (getD entry "name" (.str "")) (path ++ ".name")
      let start ← toHexBytes (getD entry "start" (.str "")) (path ++ ".start")
      let stop ← toHexBytes (getD entry "stop" (.str "")) (path ++ ".stop")
      let results ← toHexBytes (getD entry "results" (.str "")) (path ++ ".results")
      let security ← toInt (getD entry "security" (.int 0)) (path ++ ".security")
      let sessions ← loadSessions entry "sessions" path
      .ok { start, stop, results, sessions, security }
  | _ => .error (.config path "expected a mapping")

/-- `table[rid] = spec`: a second entry takes the place of the first. -/
def assign (table : List (Nat × RoutineSpec)) (rid : Nat) (spec : RoutineSpec) :
    List (Nat × RoutineSpec) :=
  if rid ∈ table.map Prod.fst then
    table.map (fun entry => if entry.1 = rid then (rid, spec) else entry)
  else table ++ [(rid, spec)]

/-- The entries of `routines` behind those in the table. -/
def loadRoutineEntries : Section → List (Nat × RoutineSpec) → Load (List (Nat × RoutineSpec))
  | [], table => .ok table
  | (key, entry) :: rest, table => do
      let path := "routines[" ++ keyText key ++ "]"
      let rid ← toInt key path
      reject (¬ (0 ≤ rid ∧ rid ≤ 0xFFFF)) path "is not a 16-bit identifier"
      let spec ← loadRoutine entry path
      loadRoutineEntries rest (assign table rid.toNat spec)

/-- `_load_routines` -/
def loadRoutines (raw : Section) : Load (List (Nat × RoutineSpec)) := do
  let section_ ← sectionOf raw "routines"
  loadRoutineEntries section_ []

/-! ## §5. The whole mapping. -/

/-- The sessions of a gate are configured; no gate and an empty one pass. -/
def checkGateSessions (uds : UdsConfig) (sessions : Option (List Int)) (path : String) :
    Load Unit :=
  reject (∃ session ∈ sessions.getD [], session ∉ uds.sessions) path
    "session is not in uds.sessions"

/-- `"0x%04X"` of a 16-bit identifier. -/
def hex4 (n : Nat) : String :=
  let digit (k : Nat) : Char := if k < 10 then Char.ofNat (48 + k) else Char.ofNat (55 + k)
  String.ofList ['0', 'x', digit (n / 4096 % 16), digit (n / 256 % 16), digit (n / 16 % 16),
    digit (n % 16)]

/-- The gates of the DIDs, in the order of the table. -/
def checkDidSessions (uds : UdsConfig) : List (Nat × DidSpec) → Load Unit
  | [] => .ok ()
  | (did, spec) :: rest => do
      let path := "data_identifiers[" ++ hex4 did ++ "]"
      checkGateSessions uds spec.readSessions (path ++ ".read_sessions")
      checkGateSessions uds spec.writeSessions (path ++ ".write_sessions")
      checkDidSessions uds rest

/-- The top level; a null is an empty mapping. -/
def topLevel : Yaml → Load Section
  | .null => .ok []
  | .map entries => .ok entries
  | _ => .error (.config "top level" "expected a mapping")

/-- `parse_config` -/
def parseConfig (raw : Yaml) : Load EcuConfig := do
  let raw ← topLevel raw
  let listen ← loadListen raw
  let doip ← loadDoip raw
  let udp ← loadUdp raw
  let (uds, onHandlerError) ← loadUds raw
  let dids ← loadDids raw
  let routines ← loadRoutines raw
  reject ((uds.functionalAddr : Int) = doip.ecuLogicalAddr) "uds.functional_addr"
    "must differ from doip.ecu_logical_addr"
  checkDidSessions uds dids
  .ok { listen, doip, udp, uds, onHandlerError, dids, routines }

/-- What the core reads of a configuration. -/
def EcuConfig.core (cfg : EcuConfig) : VirtualEcu.EcuConfig where
  doip :=
    { ecuLogicalAddr := cfg.doip.ecuLogicalAddr.toNat
      maxPayloadBytes := cfg.doip.maxPayloadBytes.toNat
      testerAddrRange := (cfg.doip.testerAddrRange.1.toNat, cfg.doip.testerAddrRange.2.toNat)
      maxConcurrentSessions := cfg.doip.maxConcurrentSessions.toNat }
  uds := cfg.uds
  dids := fun did => cfg.dids.lookup did
  routines := fun rid => cfg.routines.lookup rid

/-! ## §6. What an accepted section has been checked for. -/

theorem bind_eq_ok {α β : Type} {x : Load α} {f : α → Load β} {b : β} :
    (x >>= f) = .ok b ↔ ∃ a, x = .ok a ∧ f a = .ok b := by
  cases x with
  | error e =>
      constructor
      · intro h
        cases h
      · rintro ⟨_, h, _⟩
        cases h
  | ok a =>
      constructor
      · intro h
        exact ⟨a, rfl, h⟩
      · rintro ⟨_, h, hf⟩
        cases h
        exact hf

theorem reject_eq_ok {bad : Prop} [Decidable bad] {path text : String} {u : Unit} :
    reject bad path text = .ok u ↔ ¬ bad := by
  unfold reject
  split
  · rename_i hbad
    simp [hbad]
  · rename_i hok
    simp [hok]

/-- The DoIP section as far as something relies on it. -/
structure DoipConfig.Checked (d : DoipConfig) : Prop where
  eid : ∃ data, Python.fromHex (unseparated d.eid) = some data ∧ data.length = 6
  gid : ∃ data, Python.fromHex (unseparated d.gid) = some data ∧ data.length = 6
  vin : ∃ data, Python.encodeAscii d.vin.toList = some data ∧ data.length = 17
  ecuLogicalAddr : 0 ≤ d.ecuLogicalAddr ∧ d.ecuLogicalAddr ≤ 0xFFFF
  maxPayloadBytes : 0 < d.maxPayloadBytes ∧ d.maxPayloadBytes ≤ 0x1000000
  maxConcurrentSessions : 0 < d.maxConcurrentSessions
  testerAddrRange : 0 ≤ d.testerAddrRange.1 ∧ d.testerAddrRange.1 ≤ d.testerAddrRange.2
    ∧ d.testerAddrRange.2 ≤ 0xFFFF

theorem toHexBytes_str {text : String} {data : Bytes} {path : String}
    (h : toHexBytes (.str text) path = .ok data) :
    Python.fromHex (unseparated text) = some data := by
  unfold toHexBytes at h
  obtain ⟨text', htext, h⟩ := bind_eq_ok.mp h
  cases htext
  split at h
  · rename_i data' hdata
    cases h
    exact hdata
  · cases h

theorem loadTesterAddrRange_ok {section_ : Section} {range : Int × Int}
    (h : loadTesterAddrRange section_ = .ok range) :
    0 ≤ range.1 ∧ range.1 ≤ range.2 ∧ range.2 ≤ 0xFFFF := by
  unfold loadTesterAddrRange at h
  split at h
  · cases h
    decide
  · obtain ⟨bounds, _, h⟩ := bind_eq_ok.mp h
    split at h
    · obtain ⟨_, hcheck, h⟩ := bind_eq_ok.mp h
      cases h
      exact Decidable.not_not.mp (reject_eq_ok.mp hcheck)
    · cases h

theorem loadDoip_ok {raw : Section} {d : DoipConfig} (h : loadDoip raw = .ok d) : d.Checked := by
  unfold loadDoip at h
  obtain ⟨section_, _, h⟩ := bind_eq_ok.mp h
  obtain ⟨ecuLogicalAddr, _, h⟩ := bind_eq_ok.mp h
  obtain ⟨nodeType, _, h⟩ := bind_eq_ok.mp h
  obtain ⟨powerMode, _, h⟩ := bind_eq_ok.mp h
  obtain ⟨maxPayloadBytes, _, h⟩ := bind_eq_ok.mp h
  obtain ⟨vin, _, h⟩ := bind_eq_ok.mp h
  obtain ⟨eid, _, h⟩ := bind_eq_ok.mp h
  obtain ⟨gid, _, h⟩ := bind_eq_ok.mp h
  obtain ⟨initialInactivityMs, _, h⟩ := bind_eq_ok.mp h
  obtain ⟨generalInactivityMs, _, h⟩ := bind_eq_ok.mp h
  obtain ⟨maxConcurrentSessions, _, h⟩ := bind_eq_ok.mp h
  obtain ⟨aliveCheckTimeoutMs, _, h⟩ := bind_eq_ok.mp h
  obtain ⟨eidBytes, heid, h⟩ := bind_eq_ok.mp h
  obtain ⟨_, heidLen, h⟩ := bind_eq_ok.mp h
  obtain ⟨gidBytes, hgid, h⟩ := bind_eq_ok.mp h
  obtain ⟨_, hgidLen, h⟩ := bind_eq_ok.mp h
  obtain ⟨_, hvin, h⟩ := bind_eq_ok.mp h
  obtain ⟨_, hvinLen, h⟩ := bind_eq_ok.mp h
  obtain ⟨_, haddr, h⟩ := bind_eq_ok.mp h
  obtain ⟨_, hmax, h⟩ := bind_eq_ok.mp h
  obtain ⟨_, hsessions, h⟩ := bind_eq_ok.mp h
  obtain ⟨_, _, h⟩ := bind_eq_ok.mp h
  obtain ⟨range, hrange, h⟩ := bind_eq_ok.mp h
  cases h
  refine ⟨⟨eidBytes, toHexBytes_str heid, Decidable.not_not.mp (reject_eq_ok.mp heidLen)⟩,
    ⟨gidBytes, toHexBytes_str hgid, Decidable.not_not.mp (reject_eq_ok.mp hgidLen)⟩, ?_,
    Decidable.not_not.mp (reject_eq_ok.mp haddr), Decidable.not_not.mp (reject_eq_ok.mp hmax),
    Int.not_le.mp (reject_eq_ok.mp hsessions), loadTesterAddrRange_ok hrange⟩
  obtain ⟨data, hdata⟩ := Option.ne_none_iff_exists'.mp (reject_eq_ok.mp hvin)
  refine ⟨data, hdata, ?_⟩
  rw [Python.length_encodeAscii hdata]
  exact Decidable.not_not.mp (reject_eq_ok.mp hvinLen)

theorem loadSecurity_ok {section_ : Section} {config : SecurityConfig}
    (h : loadSecurity section_ = .ok config) :
    config.seed ≠ [] ∧ (config.algorithm ≠ .none → config.key.length = config.seed.length) := by
  unfold loadSecurity at h
  split at h
  · cases h
    exact ⟨by decide, fun _ => rfl⟩
  · obtain ⟨algorithm, _, h⟩ := bind_eq_ok.mp h
    obtain ⟨enabled, _, h⟩ := bind_eq_ok.mp h
    obtain ⟨seed, _, h⟩ := bind_eq_ok.mp h
    obtain ⟨key, _, h⟩ := bind_eq_ok.mp h
    obtain ⟨maxAttempts, _, h⟩ := bind_eq_ok.mp h
    obtain ⟨_, hseed, h⟩ := bind_eq_ok.mp h
    obtain ⟨_, hkey, h⟩ := bind_eq_ok.mp h
    cases h
    refine ⟨reject_eq_ok.mp hseed, ?_⟩
    intro halgorithm
    have hkey := reject_eq_ok.mp hkey
    by_cases hlen : key.length = seed.length
    · exact hlen
    · exact absurd ⟨halgorithm, hlen⟩ hkey

/-- The UDS section as far as something relies on it. -/
structure UdsChecked (uds : UdsConfig) : Prop where
  defaultSession : uds.defaultSession ∈ uds.sessions
  p2ServerMs : 0 < uds.p2ServerMs
  p2StarServerMs : 0 < uds.p2StarServerMs
  functionalAddr : uds.functionalAddr ≤ 0xFFFF
  seed : uds.security.seed ≠ []
  key : uds.security.algorithm ≠ .none →
    uds.security.key.length = uds.security.seed.length

theorem loadUds_ok {raw : Section} {uds : UdsConfig} {policy : HandlerErrorPolicy}
    (h : loadUds raw = .ok (uds, policy)) : UdsChecked uds := by
  unfold loadUds at h
  obtain ⟨section_, _, h⟩ := bind_eq_ok.mp h
  obtain ⟨defaultSession, _, h⟩ := bind_eq_ok.mp h
  obtain ⟨s3ServerMs, _, h⟩ := bind_eq_ok.mp h
  obtain ⟨p2ServerMs, _, h⟩ := bind_eq_ok.mp h
  obtain ⟨p2StarServerMs, _, h⟩ := bind_eq_ok.mp h
  obtain ⟨autoResponsePending, _, h⟩ := bind_eq_ok.mp h
  obtain ⟨maxResponsePending, _, h⟩ := bind_eq_ok.mp h
  obtain ⟨suppressPosRspBit, _, h⟩ := bind_eq_ok.mp h
  obtain ⟨functionalAddr, _, h⟩ := bind_eq_ok.mp h
  obtain ⟨unknownService, _, h⟩ := bind_eq_ok.mp h
  obtain ⟨unknownDid, _, h⟩ := bind_eq_ok.mp h
  obtain ⟨onHandlerError, _, h⟩ := bind_eq_ok.mp h
  obtain ⟨resetClearsWrites, _, h⟩ := bind_eq_ok.mp h
  obtain ⟨resetDropsConnection, _, h⟩ := bind_eq_ok.mp h
  obtain ⟨securitySection, _, h⟩ := bind_eq_ok.mp h
  obtain ⟨security, hsecurity, h⟩ := bind_eq_ok.mp h
  obtain ⟨sessions, _, h⟩ := bind_eq_ok.mp h
  obtain ⟨_, hdefault, h⟩ := bind_eq_ok.mp h
  obtain ⟨_, hp2, h⟩ := bind_eq_ok.mp h
  obtain ⟨_, _, h⟩ := bind_eq_ok.mp h
  obtain ⟨_, hfunctional, h⟩ := bind_eq_ok.mp h
  obtain ⟨_, hp2Star, h⟩ := bind_eq_ok.mp h
  obtain ⟨_, _, h⟩ := bind_eq_ok.mp h
  cases h
  obtain ⟨hseed, hkey⟩ := loadSecurity_ok hsecurity
  have hp2 := reject_eq_ok.mp hp2
  have hp2Star := reject_eq_ok.mp hp2Star
  have hfunctional := Decidable.not_not.mp (reject_eq_ok.mp hfunctional)
  refine ⟨Decidable.not_not.mp (reject_eq_ok.mp hdefault), ?_, ?_, ?_, hseed, hkey⟩
  · show 0 < p2ServerMs.toNat
    omega
  · show 0 < p2StarServerMs.toNat
    omega
  · show functionalAddr.toNat ≤ 0xFFFF
    omega

/-- A DID entry as far as the store relies on it. -/
structure DidChecked (spec : DidSpec) : Prop where
  value : spec.value = none ↔ spec.dynamic = true
  length : ∀ n v, spec.length = some n → spec.value = some v → v.length = n
  write : spec.write = true → spec.dynamic = false

/-- **Each of the four types is encoded to the declared length.** -/
theorem encodeDidValue_length {type : DidType} {value : Yaml} {n : Nat} {path : String}
    {encoded : Bytes} (h : encodeDidValue type value (some n) path = .ok encoded) :
    encoded.length = n := by
  cases type with
  | hex =>
      obtain ⟨data, _, h⟩ := bind_eq_ok.mp h
      obtain ⟨_, hlen, h⟩ := bind_eq_ok.mp h
      cases h
      have hlen := reject_eq_ok.mp hlen
      by_cases heq : n = encoded.length
      · exact heq.symm
      · exact absurd ⟨rfl, by simpa using heq⟩ hlen
  | ascii =>
      obtain ⟨text, _, h⟩ := bind_eq_ok.mp h
      split at h
      · cases h
      · cases ‹some n = none›
      · rename_i data width _ hwidth
        cases h
        cases hwidth
        exact Python.length_fit n 0x00 data
  | uint =>
      obtain ⟨number, _, h⟩ := bind_eq_ok.mp h
      split at h
      · rename_i data hdata
        cases h
        exact Python.length_toBytes hdata
      · cases h
  | dynamic => cases h

theorem loadValue_ok {type : DidType} {entry : Section} {length : Option Nat} {path : String}
    {value : Option Bytes} (h : loadValue type entry length path = .ok value) :
    (value = none ↔ type = .dynamic)
      ∧ ∀ n v, length = some n → value = some v → v.length = n := by
  unfold loadValue at h
  split at h
  · cases h
  · cases h
    exact ⟨⟨fun _ => rfl, fun _ => rfl⟩, fun _ _ _ hv => by cases hv⟩
  · rename_i hdynamic _
    obtain ⟨encoded, hencoded, h⟩ := bind_eq_ok.mp h
    cases h
    refine ⟨⟨fun hv => absurd hv (by simp), fun ht => ?_⟩, ?_⟩
    · subst ht
      cases hencoded
    · intro n v hlength hv
      cases hv
      rw [hlength] at hencoded
      exact encodeDidValue_length hencoded
  · cases h

theorem loadDid_ok {rawEntry : Yaml} {path : String} {spec : DidSpec}
    (h : loadDid rawEntry path = .ok spec) : DidChecked spec := by
  unfold loadDid at h
  split at h
  · obtain ⟨type, _, h⟩ := bind_eq_ok.mp h
    obtain ⟨length, _, h⟩ := bind_eq_ok.mp h
    obtain ⟨value, hvalue, h⟩ := bind_eq_ok.mp h
    obtain ⟨_, _, h⟩ := bind_eq_ok.mp h
    obtain ⟨read, _, h⟩ := bind_eq_ok.mp h
    obtain ⟨write, _, h⟩ := bind_eq_ok.mp h
    obtain ⟨readSecurity, _, h⟩ := bind_eq_ok.mp h
    obtain ⟨writeSecurity, _, h⟩ := bind_eq_ok.mp h
    obtain ⟨readSessions, _, h⟩ := bind_eq_ok.mp h
    obtain ⟨writeSessions, _, h⟩ := bind_eq_ok.mp h
    obtain ⟨readNrc, _, h⟩ := bind_eq_ok.mp h
    obtain ⟨writeNrc, _, h⟩ := bind_eq_ok.mp h
    obtain ⟨_, hwrite, h⟩ := bind_eq_ok.mp h
    cases h
    obtain ⟨hnone, hlen⟩ := loadValue_ok hvalue
    refine ⟨?_, hlen, ?_⟩
    · rw [hnone]
      exact decide_eq_true_iff.symm
    · intro hon
      have hwrite := reject_eq_ok.mp hwrite
      exact decide_eq_false (fun htype => hwrite ⟨hon, htype⟩)
  · cases h

theorem loadDidEntries_ok {entries : Section} {table result : List (Nat × DidSpec)}
    (h : loadDidEntries entries table = .ok result)
    (htable : ∀ p ∈ table, DidChecked p.2) : ∀ p ∈ result, DidChecked p.2 := by
  induction entries generalizing table with
  | nil =>
      cases h
      exact htable
  | cons entry rest ih =>
      obtain ⟨key, value⟩ := entry
      obtain ⟨did, _, h⟩ := bind_eq_ok.mp h
      obtain ⟨_, _, h⟩ := bind_eq_ok.mp h
      obtain ⟨_, _, h⟩ := bind_eq_ok.mp h
      obtain ⟨spec, hspec, h⟩ := bind_eq_ok.mp h
      apply ih h
      intro p hp
      rcases List.mem_append.mp hp with hp | hp
      · exact htable p hp
      · rw [List.mem_singleton.mp hp]
        exact loadDid_ok hspec

/-! ## §7. What the core may rely on. -/

/-- What `parse_config` has established. -/
structure EcuConfig.Checked (cfg : EcuConfig) : Prop where
  doip : cfg.doip.Checked
  uds : UdsChecked cfg.uds
  dids : ∀ p ∈ cfg.dids, DidChecked p.2
  addresses : (cfg.uds.functionalAddr : Int) ≠ cfg.doip.ecuLogicalAddr

theorem parseConfig_ok {raw : Yaml} {cfg : EcuConfig} (h : parseConfig raw = .ok cfg) :
    cfg.Checked := by
  unfold parseConfig at h
  obtain ⟨entries, _, h⟩ := bind_eq_ok.mp h
  obtain ⟨listen, _, h⟩ := bind_eq_ok.mp h
  obtain ⟨doip, hdoip, h⟩ := bind_eq_ok.mp h
  obtain ⟨udp, _, h⟩ := bind_eq_ok.mp h
  obtain ⟨⟨uds, policy⟩, huds, h⟩ := bind_eq_ok.mp h
  obtain ⟨dids, hdids, h⟩ := bind_eq_ok.mp h
  obtain ⟨routines, _, h⟩ := bind_eq_ok.mp h
  obtain ⟨_, haddresses, h⟩ := bind_eq_ok.mp h
  obtain ⟨_, _, h⟩ := bind_eq_ok.mp h
  cases h
  obtain ⟨section_, _, hentries⟩ := bind_eq_ok.mp hdids
  exact ⟨loadDoip_ok hdoip, loadUds_ok huds,
    loadDidEntries_ok hentries (fun _ hp => absurd hp List.not_mem_nil),
    reject_eq_ok.mp haddresses⟩

theorem mem_of_lookup {α : Type} {table : List (Nat × α)} {did : Nat} {spec : α}
    (h : table.lookup did = some spec) : (did, spec) ∈ table := by
  induction table with
  | nil => cases h
  | cons entry rest ih =>
      obtain ⟨key, value⟩ := entry
      rw [List.lookup_cons] at h
      split at h
      · rename_i heq
        cases h
        rw [beq_iff_eq.mp heq]
        exact List.mem_cons_self ..
      · exact List.mem_cons_of_mem _ (ih h)

/-- **What the loader accepts, the core may rely on.** -/
theorem parseConfig_accepted {raw : Yaml} {cfg : EcuConfig} (h : parseConfig raw = .ok cfg) :
    cfg.core.Accepted := by
  obtain ⟨hdoip, huds, hdids, haddresses⟩ := parseConfig_ok h
  have haddr := hdoip.ecuLogicalAddr
  have hmax := hdoip.maxPayloadBytes
  have hrange := hdoip.testerAddrRange
  have hsessions := hdoip.maxConcurrentSessions
  refine ⟨?_, ?_, ?_, ?_, huds.defaultSession, huds.p2ServerMs, huds.p2StarServerMs,
    ⟨huds.functionalAddr, ?_⟩, huds.seed, huds.key, ?_, ?_, ?_⟩
  · show cfg.doip.ecuLogicalAddr.toNat ≤ 0xFFFF
    omega
  · show 0 < cfg.doip.maxPayloadBytes.toNat ∧ cfg.doip.maxPayloadBytes.toNat ≤ 0x1000000
    omega
  · show cfg.doip.testerAddrRange.1.toNat ≤ cfg.doip.testerAddrRange.2.toNat
      ∧ cfg.doip.testerAddrRange.2.toNat ≤ 0xFFFF
    omega
  · show 0 < cfg.doip.maxConcurrentSessions.toNat
    omega
  · show cfg.uds.functionalAddr ≠ cfg.doip.ecuLogicalAddr.toNat
    omega
  · intro d spec hspec
    exact (hdids _ (mem_of_lookup hspec)).value
  · intro d spec n v hspec hn hv
    exact (hdids _ (mem_of_lookup hspec)).length n v hn hv
  · intro d spec hspec hwrite
    exact (hdids _ (mem_of_lookup hspec)).write hwrite

end Loader

end DoipPlayground.VirtualEcu
