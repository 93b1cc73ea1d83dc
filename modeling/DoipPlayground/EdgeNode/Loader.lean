/-
  DoipPlayground.EdgeNode.Loader
  ──────────────────────────────
  **THE DOIP SECTION OF THE EDGENODE'S CONFIGURATION** (`config.py`).

  Nothing is converted that is not an integer or the text of one; every
  number has its range, EID and GID are twelve hexadecimal characters
  without separators.  The other sections decide nothing about this one.

    • `loadDoip` — the section with its defaults,
    • `loadDoip_ok` — what is true of everything it accepts.
-/
import DoipPlayground.VirtualEcu.Loader

namespace DoipPlayground.EdgeNode.Loader

open VirtualEcu (Yaml)
open VirtualEcu.Loader (Section Load get? getD reject bind_eq_ok reject_eq_ok)

/-! ## §1. Conversions. -/

/-- `_string` -/
def toString? (value : Yaml) (path : String) : Load String :=
  match value with
  | .str text => .ok text
  | _ => .error (.config path "must be a string")

/-- `text.lstrip("+-").lower().startswith("0x")` -/
def hasHexPrefix (text : List Char) : Bool :=
  match text.dropWhile (fun c => c = '+' || c = '-') with
  | '0' :: x :: _ => x = 'x' || x = 'X'
  | _ => false

/-- `_to_int` -/
def toInt (value : Yaml) (path : String) : Load Int :=
  match value with
  | .int n => .ok n
  | .str text =>
      let text := Python.strip text.toList
      match Python.intOfBase (hasHexPrefix text) text with
      | some n => .ok n
      | none => .error (.config path "must be an integer or hex string")
  | _ => .error (.config path "must be an integer or hex string")

/-- `_require` -/
def require (mapping : Section) (key path : String) : Load Yaml :=
  match get? mapping key with
  | some value => .ok value
  | none => .error (.config path "Missing required config key")

/-- The elements of a list from `index` on. -/
def toInts (path : String) : Nat → List Yaml → Load (List Int)
  | _, [] => .ok []
  | index, item :: rest => do
      let n ← toInt item (path ++ "[" ++ toString index ++ "]")
      let ns ← toInts path (index + 1) rest
      .ok (n :: ns)

/-- `_to_int_list` -/
def toIntList (value : Yaml) (path : String) : Load (List Int) :=
  match value with
  | .list items => toInts path 0 items
  | _ => .error (.config path "must be a list")

/-- `_bounded`, with both bounds. -/
def bounded (value : Yaml) (path : String) (minimum maximum : Int) : Load Int := do
  let result ← toInt value path
  reject (result < minimum ∨ maximum < result) path "must be within its bounds"
  .ok result

/-! ## §2. The section. -/

structure DoIPConfig where
  vin : String
  eid : String
  gid : String
  nodeType : Int
  nodeLogicalAddr : Int
  powerMode : Int
  maxPayloadBytes : Int
  testerAddrRange : Int × Int
  testerAddrList : List Int
  maxConnections : Int
  deriving Repr

def defaultTesterAddrRange : Int × Int := (0x0E00, 0x0FFF)

def defaultNodeLogicalAddr : Int := 0x1234

/-- `eid` or `gid`. -/
def loadIdentifier (raw : Section) (key path : String) : Load String := do
  let value ← require raw key path
  let text ← toString? value path
  reject (text.toList.length ≠ 12 ∨ text.toList.any (fun c => (Python.hexDigit? c).isNone) = true)
    path "must be exactly 12 hex characters"
  .ok text

/-- `tester_addr_range` -/
def loadTesterAddrRange (raw : Section) : Load (Int × Int) := do
  let (low, high) := defaultTesterAddrRange
  let bounds ← toIntList (getD raw "tester_addr_range" (.list [.int low, .int high]))
    "doip.tester_addr_range"
  match bounds with
  | [low, high] =>
      reject (¬ (0 ≤ low ∧ low ≤ high ∧ high ≤ 0xFFFF)) "doip.tester_addr_range"
        "must be an ascending pair in [0, 65535]"
      .ok (low, high)
  | _ => .error (.config "doip.tester_addr_range" "must be an ascending pair in [0, 65535]")

/-- `_load_doip` -/
def loadDoip (raw : Section) : Load DoIPConfig := do
  let vinValue ← require raw "vin" "doip.vin"
  let vin ← toString? vinValue "doip.vin"
  reject (vin.toList.length ≠ 17 ∨ vin.toList.any (fun c => 128 ≤ c.toNat) = true) "doip.vin"
    "must be exactly 17 ASCII characters"
  let eid ← loadIdentifier raw "eid" "doip.eid"
  let gid ← loadIdentifier raw "gid" "doip.gid"
  let testerAddrRange ← loadTesterAddrRange raw
  let testerAddrList ← toIntList (getD raw "tester_addr_list" (.list [])) "doip.tester_addr_list"
  reject (testerAddrList.any (fun value => !(0 ≤ value && value ≤ 0xFFFF)) = true)
    "doip.tester_addr_list" "values must be in [0, 65535]"
  let nodeTypeValue ← require raw "node_type" "doip.node_type"
  let nodeType ← bounded nodeTypeValue "doip.node_type" 0 1
  let nodeLogicalAddr ← bounded (getD raw "node_logical_addr" (.int defaultNodeLogicalAddr))
    "doip.node_logical_addr" 1 65535
  let powerModeValue ← require raw "power_mode" "doip.power_mode"
  let powerMode ← bounded powerModeValue "doip.power_mode" 0 2
  let maxPayloadValue ← require raw "max_payload_bytes" "doip.max_payload_bytes"
  let maxPayloadBytes ← bounded maxPayloadValue "doip.max_payload_bytes" 1 0xFFFFFFFF
  let maxConnections ← bounded (getD raw "max_connections" (.int 8)) "doip.max_connections" 1 254
  .ok { vin, eid, gid, nodeType, nodeLogicalAddr, powerMode, maxPayloadBytes, testerAddrRange,
        testerAddrList, maxConnections }

/-! ## §3. What an accepted section has been checked for. -/

/-- Twelve hexadecimal characters. -/
def Identifier (text : String) : Prop :=
  text.toList.length = 12 ∧ ∀ c ∈ text.toList, (Python.hexDigit? c).isSome = true

structure DoIPConfig.Checked (d : DoIPConfig) : Prop where
  vin : d.vin.toList.length = 17 ∧ ∀ c ∈ d.vin.toList, c.toNat < 128
  eid : Identifier d.eid
  gid : Identifier d.gid
  nodeType : 0 ≤ d.nodeType ∧ d.nodeType ≤ 1
  nodeLogicalAddr : 1 ≤ d.nodeLogicalAddr ∧ d.nodeLogicalAddr ≤ 65535
  powerMode : 0 ≤ d.powerMode ∧ d.powerMode ≤ 2
  maxPayloadBytes : 1 ≤ d.maxPayloadBytes ∧ d.maxPayloadBytes ≤ 0xFFFFFFFF
  maxConnections : 1 ≤ d.maxConnections ∧ d.maxConnections ≤ 254

theorem bounded_ok {value : Yaml} {path : String} {minimum maximum n : Int}
    (h : bounded value path minimum maximum = .ok n) : minimum ≤ n ∧ n ≤ maximum := by
  unfold bounded at h
  obtain ⟨result, _, h⟩ := bind_eq_ok.mp h
  obtain ⟨_, hcheck, h⟩ := bind_eq_ok.mp h
  cases h
  have hin := reject_eq_ok.mp hcheck
  omega

theorem loadIdentifier_ok {raw : Section} {key path text : String}
    (h : loadIdentifier raw key path = .ok text) : Identifier text := by
  unfold loadIdentifier at h
  obtain ⟨value, _, h⟩ := bind_eq_ok.mp h
  obtain ⟨text', _, h⟩ := bind_eq_ok.mp h
  obtain ⟨_, hcheck, h⟩ := bind_eq_ok.mp h
  cases h
  have hin := reject_eq_ok.mp hcheck
  refine ⟨Decidable.not_not.mp (fun hlen => hin (Or.inl hlen)), ?_⟩
  intro c hc
  rw [Option.isSome_iff_ne_none]
  intro hnone
  exact hin (Or.inr (List.any_eq_true.mpr ⟨c, hc, by rw [hnone]; rfl⟩))

theorem loadDoip_ok {raw : Section} {d : DoIPConfig} (h : loadDoip raw = .ok d) : d.Checked := by
  unfold loadDoip at h
  obtain ⟨vinValue, _, h⟩ := bind_eq_ok.mp h
  obtain ⟨vin, _, h⟩ := bind_eq_ok.mp h
  obtain ⟨_, hvin, h⟩ := bind_eq_ok.mp h
  obtain ⟨eid, heid, h⟩ := bind_eq_ok.mp h
  obtain ⟨gid, hgid, h⟩ := bind_eq_ok.mp h
  obtain ⟨range, _, h⟩ := bind_eq_ok.mp h
  obtain ⟨addresses, _, h⟩ := bind_eq_ok.mp h
  obtain ⟨_, _, h⟩ := bind_eq_ok.mp h
  obtain ⟨nodeTypeValue, _, h⟩ := bind_eq_ok.mp h
  obtain ⟨nodeType, hnode, h⟩ := bind_eq_ok.mp h
  obtain ⟨nodeLogicalAddr, haddr, h⟩ := bind_eq_ok.mp h
  obtain ⟨powerModeValue, _, h⟩ := bind_eq_ok.mp h
  obtain ⟨powerMode, hpower, h⟩ := bind_eq_ok.mp h
  obtain ⟨maxPayloadValue, _, h⟩ := bind_eq_ok.mp h
  obtain ⟨maxPayloadBytes, hmax, h⟩ := bind_eq_ok.mp h
  obtain ⟨maxConnections, hconnections, h⟩ := bind_eq_ok.mp h
  cases h
  have hvin := reject_eq_ok.mp hvin
  refine ⟨⟨Decidable.not_not.mp (fun hlen => hvin (Or.inl hlen)), ?_⟩, loadIdentifier_ok heid,
    loadIdentifier_ok hgid, bounded_ok hnode, bounded_ok haddr, bounded_ok hpower,
    bounded_ok hmax, bounded_ok hconnections⟩
  intro c hc
  by_contra hlarge
  exact hvin (Or.inr (List.any_eq_true.mpr ⟨c, hc, decide_eq_true (Nat.not_lt.mp hlarge)⟩))

example : (loadDoip [(.str "vin", .str "EDGENODE000000001"), (.str "eid", .str "0123456789AB"),
    (.str "gid", .str "0123456789ab"), (.str "node_type", .int 0), (.str "power_mode", .str "0x01"),
    (.str "max_payload_bytes", .str "4_096")]).toOption.map DoIPConfig.maxPayloadBytes
      = some 4096 := by decide

end DoipPlayground.EdgeNode.Loader
