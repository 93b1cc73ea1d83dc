/-
  DoipPlayground.VirtualEcu.Config
  ────────────────────────────────
  **THE CONFIGURATION THE CORE READS** (`config.py`).

  The typed sections after loading.  `EcuConfig.Accepted` collects the
  checks of the loader that a loaded configuration has passed.
-/
import DoipPlayground.VirtualEcu.Uds

namespace DoipPlayground.VirtualEcu

open Wire

inductive SecurityAlgorithm where
  | none | xor | add
  deriving DecidableEq, Repr

structure SecurityConfig where
  enabled : Bool := true
  seed : Bytes := [0x11, 0x22, 0x33, 0x44]
  algorithm : SecurityAlgorithm := .xor
  key : Bytes := [0xA5, 0xA5, 0xA5, 0xA5]
  maxAttempts : Int := 3
  deriving Repr

/-- `nrc | echo | silent` of `unknown_service` and `unknown_did`. -/
inductive UnknownPolicy where
  | nrc | echo | silent
  deriving DecidableEq, Repr

structure UdsConfig where
  defaultSession : Int := 0x01
  s3ServerMs : Nat := 5000
  p2ServerMs : Nat := 50
  p2StarServerMs : Nat := 5000
  autoResponsePending : Bool := true
  /-- The cap on ResponsePending frames; 0 is unlimited. -/
  maxResponsePending : Nat := 10
  suppressPosRspBit : Bool := true
  functionalAddr : Nat := 0x1FFF
  unknownService : UnknownPolicy := .nrc
  unknownDid : UnknownPolicy := .nrc
  resetClearsWrites : Bool := true
  resetDropsConnection : Bool := false
  sessions : List Int := [0x01, 0x02, 0x03, 0x04]
  security : SecurityConfig := {}
  deriving Repr

/-- One entry of `data_identifiers`. -/
structure DidSpec where
  dynamic : Bool := false
  length : Option Nat := none
  /-- The default, encoded at load time. -/
  value : Option Bytes := none
  read : Bool := true
  write : Bool := false
  /-- `none` is any session. -/
  readSessions : Option (List Int) := none
  writeSessions : Option (List Int) := none
  readSecurity : Int := 0
  writeSecurity : Int := 0
  readNrc : Option UInt8 := none
  writeNrc : Option UInt8 := none
  deriving Repr

/-- One entry of `routines`. -/
structure RoutineSpec where
  start : Bytes := []
  stop : Bytes := []
  results : Bytes := []
  sessions : Option (List Int) := none
  security : Int := 0
  deriving Repr

structure DoipConfig where
  ecuLogicalAddr : Nat := 0x0003
  maxPayloadBytes : Nat := 4096
  testerAddrRange : Nat × Nat := (0x0E00, 0x0FFF)
  maxConcurrentSessions : Nat := 8
  deriving Repr

structure EcuConfig where
  doip : DoipConfig := {}
  uds : UdsConfig := {}
  dids : Nat → Option DidSpec := fun _ => none
  routines : Nat → Option RoutineSpec := fun _ => none

/-- What the loader has checked, as far as the core depends on it. -/
structure EcuConfig.Accepted (cfg : EcuConfig) : Prop where
  ecuLogicalAddr : cfg.doip.ecuLogicalAddr ≤ 0xFFFF
  maxPayloadBytes : 0 < cfg.doip.maxPayloadBytes ∧ cfg.doip.maxPayloadBytes ≤ 0x1000000
  testerAddrRange : cfg.doip.testerAddrRange.1 ≤ cfg.doip.testerAddrRange.2
    ∧ cfg.doip.testerAddrRange.2 ≤ 0xFFFF
  maxConcurrentSessions : 0 < cfg.doip.maxConcurrentSessions
  defaultSession : cfg.uds.defaultSession ∈ cfg.uds.sessions
  p2ServerMs : 0 < cfg.uds.p2ServerMs
  p2StarServerMs : 0 < cfg.uds.p2StarServerMs
  functionalAddr : cfg.uds.functionalAddr ≤ 0xFFFF
    ∧ cfg.uds.functionalAddr ≠ cfg.doip.ecuLogicalAddr
  seed : cfg.uds.security.seed ≠ []
  key : cfg.uds.security.algorithm ≠ .none →
    cfg.uds.security.key.length = cfg.uds.security.seed.length
  /-- Exactly the non-dynamic DIDs have a default, and a declared length is
  that of the default. -/
  didValue : ∀ d spec, cfg.dids d = some spec → (spec.value = none ↔ spec.dynamic = true)
  didLength : ∀ d spec n v, cfg.dids d = some spec → spec.length = some n →
    spec.value = some v → v.length = n
  didWrite : ∀ d spec, cfg.dids d = some spec → spec.write = true → spec.dynamic = false

/-- The defaults of the loader are accepted. -/
theorem EcuConfig.accepted_default : ({} : EcuConfig).Accepted where
  ecuLogicalAddr := by decide
  maxPayloadBytes := by decide
  testerAddrRange := by decide
  maxConcurrentSessions := by decide
  defaultSession := by decide
  p2ServerMs := by decide
  p2StarServerMs := by decide
  functionalAddr := by decide
  seed := by decide
  key := by decide
  didValue := by simp
  didLength := by simp
  didWrite := by simp

end DoipPlayground.VirtualEcu
