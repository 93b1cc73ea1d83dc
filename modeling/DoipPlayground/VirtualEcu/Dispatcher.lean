/-
  DoipPlayground.VirtualEcu.Dispatcher
  ────────────────────────────────────
  **THE DISPATCHER WITH PLUGINS** (`dispatcher.py`, `plugin.py`, `services/`).

  A handler works on everything it can reach: the core and the state of all
  plugins.  What other tasks do while it awaits is part of its effect.

    • `Dispatcher.new` — the hook tables, each in the order of its keys,
    • `Dispatcher.call` — one handler, with its exceptions converted,
    • `Dispatcher.dispatch` — observers, hooks, core, fallback,
    • `dispatch_without_plugins` — with no plugin it is the dispatcher of
      the core.
-/
import DoipPlayground.Lib.Ladder
import DoipPlayground.VirtualEcu.Loader
import DoipPlayground.VirtualEcu.Services
import Mathlib.Data.Prod.Lex
import Mathlib.Data.String.Basic

namespace DoipPlayground.VirtualEcu

open Wire

/-! ## §1. Handlers. -/

/-- What a handler can reach: the core, and what the plugins keep. -/
structure Ecu (τ : Type) where
  core : EcuCore
  plugins : τ

/-- What a handler returns instead of `None`. -/
inductive Value where
  | bytes (data : Bytes)
  | noResponse
  deriving DecidableEq, Repr

/-- What a `@write_did` handler returns instead of `None`: an object with a
truth value, or `NO_RESPONSE`. -/
inductive WriteValue where
  | truth (value : Bool)
  | noResponse
  deriving DecidableEq, Repr

/-- How a handler ends. -/
inductive HandlerEnd (ρ : Type) where
  /-- It returned `None`. -/
  | declined
  | returned (value : ρ)
  /-- It raised `NegativeResponse`; the SID may be left open. -/
  | negative (nrc : UInt8) (sid : Option UInt8)
  /-- It raised `SuppressResponse`. -/
  | suppress
  /-- It raised any other exception. -/
  | raised
  deriving DecidableEq, Repr

/-- A handler of a request, for a tester state, with further arguments. -/
abbrev Handler (τ ι ρ : Type) := UdsRequest → StateId → ι → Ecu τ → Ecu τ × HandlerEnd ρ

/-- One registered handler. -/
structure Hook (τ ι ρ : Type) where
  priority : Int
  loadIndex : Nat
  pluginName : String
  method : Handler τ ι ρ

/-- `_sort_key` -/
def Hook.sortKey {τ ι ρ : Type} (hook : Hook τ ι ρ) : Int ×ₗ Nat ×ₗ String :=
  toLex (hook.priority, toLex (hook.loadIndex, hook.pluginName))

variable {τ : Type}

/-! ## §2. Plugins and hook tables. -/

/-- A decorated method: what it is registered for, its own priority if it
has one, and itself. -/
inductive HookEntry (τ : Type) where
  | observer (priority : Option Int) (method : Handler τ Unit Value)
  | service (sid : Int) (priority : Option Int) (method : Handler τ Unit Value)
  | readDid (did : Int) (priority : Option Int) (method : Handler τ Unit Value)
  | writeDid (did : Int) (priority : Option Int) (method : Handler τ Bytes WriteValue)
  | routine (rid : Int) (control : Option Int) (priority : Option Int)
      (method : Handler τ (Nat × Bytes) Value)

structure Plugin (τ : Type) where
  name : String
  priority : Int := 100
  loadIndex : Nat
  enabled : Bool := true
  hooks : List (HookEntry τ)

/-- `ANY_SERVICE` -/
def anyService : Int := -1

namespace HookEntry

def observer? : HookEntry τ → Option (Option Int × Handler τ Unit Value)
  | .observer priority method => some (priority, method)
  | _ => none

/-- Registered for this service; the catch-alls have a table of their own. -/
def service? (sid : Int) : HookEntry τ → Option (Option Int × Handler τ Unit Value)
  | .service sid' priority method =>
      if sid' = sid ∧ sid' ≠ anyService then some (priority, method) else none
  | _ => none

def any? : HookEntry τ → Option (Option Int × Handler τ Unit Value)
  | .service sid priority method => if sid = anyService then some (priority, method) else none
  | _ => none

def readDid? (did : Int) : HookEntry τ → Option (Option Int × Handler τ Unit Value)
  | .readDid did' priority method => if did' = did then some (priority, method) else none
  | _ => none

def writeDid? (did : Int) : HookEntry τ → Option (Option Int × Handler τ Bytes WriteValue)
  | .writeDid did' priority method => if did' = did then some (priority, method) else none
  | _ => none

def routine? (rid : Int) (control : Option Int) :
    HookEntry τ → Option (Option Int × Handler τ (Nat × Bytes) Value)
  | .routine rid' control' priority method =>
      if rid' = rid ∧ control' = control then some (priority, method) else none
  | _ => none

end HookEntry

/-- The hooks of one bucket in the order `_register` appends them. -/
def registered {ι ρ : Type} (plugins : List (Plugin τ))
    (bucket : HookEntry τ → Option (Option Int × Handler τ ι ρ)) : List (Hook τ ι ρ) :=
  (plugins.filter (·.enabled)).flatMap fun plugin =>
    plugin.hooks.filterMap fun entry => (bucket entry).map fun (priority, method) =>
      { priority := priority.getD plugin.priority, loadIndex := plugin.loadIndex
        pluginName := plugin.name, method }

/-- The hook tables. -/
structure Dispatcher (τ : Type) where
  observers : List (Hook τ Unit Value)
  service : Int → List (Hook τ Unit Value)
  any : List (Hook τ Unit Value)
  readDid : Int → List (Hook τ Unit Value)
  writeDid : Int → List (Hook τ Bytes WriteValue)
  routines : Int → Option Int → List (Hook τ (Nat × Bytes) Value)

namespace Dispatcher

/-- `_register`: every bucket sorted by `_sort_key`. -/
def new (plugins : List (Plugin τ)) : Dispatcher τ where
  observers := Ladder.sortBy Hook.sortKey (registered plugins HookEntry.observer?)
  service sid := Ladder.sortBy Hook.sortKey (registered plugins (HookEntry.service? sid))
  any := Ladder.sortBy Hook.sortKey (registered plugins HookEntry.any?)
  readDid did := Ladder.sortBy Hook.sortKey (registered plugins (HookEntry.readDid? did))
  writeDid did := Ladder.sortBy Hook.sortKey (registered plugins (HookEntry.writeDid? did))
  routines rid control :=
    Ladder.sortBy Hook.sortKey (registered plugins (HookEntry.routine? rid control))

/-! ## §3. Calling a handler. -/

variable (cfg : EcuConfig) (policy : Loader.HandlerErrorPolicy) (d : Dispatcher τ)
  (request : UdsRequest) (st : StateId)

/-- `_call`: what it returned, or what is raised in its place. -/
def call {ι ρ : Type} (observer : Bool) (hook : Hook τ ι ρ) (args : ι) (ecu : Ecu τ) :
    Ecu τ × Except Result (Option ρ) :=
  match hook.method request st args ecu with
  | (ecu, .declined) => (ecu, .ok none)
  | (ecu, .returned value) => (ecu, .ok (some value))
  | (ecu, .negative nrc sid) => (ecu, .error (.negative nrc (some (sid.getD request.sid))))
  | (ecu, .suppress) => (ecu, .error .suppress)
  | (ecu, .raised) =>
      if observer then (ecu, .ok none)
      else
        match policy with
        | .fallthrough => (ecu, .ok none)
        | .silent => (ecu, .error .suppress)
        | .nrc => (ecu, .error (.negative nrcConditionsNotCorrect (some request.sid)))

/-- The observers; what they return is ignored. -/
def observe : List (Hook τ Unit Value) → Ecu τ → Ecu τ × Except Result Unit
  | [], ecu => (ecu, .ok ())
  | hook :: rest, ecu =>
      match call policy request st true hook () ecu with
      | (ecu, .error e) => (ecu, .error e)
      | (ecu, .ok _) => observe rest ecu

/-- A loop over service hooks: return the first result that is not `None`. -/
def firstResult : List (Hook τ Unit Value) → Ecu τ → Ecu τ × Except Result (Option Value)
  | [], ecu => (ecu, .ok none)
  | hook :: rest, ecu =>
      match call policy request st false hook () ecu with
      | (ecu, .ok none) => firstResult rest ecu
      | outcome => outcome

/-- The loop of `resolve_did_read`, and of `resolve_routine` for one key. -/
def firstBytes {ι : Type} (args : ι) :
    List (Hook τ ι Value) → Ecu τ → Ecu τ × Except Result (Option Bytes)
  | [], ecu => (ecu, .ok none)
  | hook :: rest, ecu =>
      match call policy request st false hook args ecu with
      | (ecu, .error e) => (ecu, .error e)
      | (ecu, .ok none) => firstBytes args rest ecu
      | (ecu, .ok (some .noResponse)) => (ecu, .error .suppress)
      | (ecu, .ok (some (.bytes data))) => (ecu, .ok (some data))

/-- `resolve_did_read` -/
def resolveDidRead (did : Nat) (ecu : Ecu τ) : Ecu τ × Except Result (Option Bytes) :=
  firstBytes policy request st () (d.readDid did) ecu

/-- The loop of `resolve_did_write`. -/
def firstTruth (value : Bytes) :
    List (Hook τ Bytes WriteValue) → Ecu τ → Ecu τ × Except Result (Option Bool)
  | [], ecu => (ecu, .ok none)
  | hook :: rest, ecu =>
      match call policy request st false hook value ecu with
      | (ecu, .error e) => (ecu, .error e)
      | (ecu, .ok none) => firstTruth value rest ecu
      | (ecu, .ok (some .noResponse)) => (ecu, .error .suppress)
      | (ecu, .ok (some (.truth accepted))) => (ecu, .ok (some accepted))

/-- `resolve_did_write` -/
def resolveDidWrite (did : Nat) (value : Bytes) (ecu : Ecu τ) :
    Ecu τ × Except Result (Option Bool) :=
  firstTruth policy request st value (d.writeDid did) ecu

/-- `resolve_routine`: the hooks for this control first, then those for any. -/
def resolveRoutine (rid control : Nat) (data : Bytes) (ecu : Ecu τ) :
    Ecu τ × Except Result (Option Bytes) :=
  match firstBytes policy request st (control, data) (d.routines rid (some control)) ecu with
  | (ecu, .ok none) => firstBytes policy request st (control, data) (d.routines rid none) ecu
  | outcome => outcome

/-! ## §4. The core services that ask the plugins. -/

/-- `_read_one` -/
def readOne (did : Nat) (ecu : Ecu τ) : Ecu τ × Except Result (Option Bytes) :=
  match resolveDidRead policy d request st did ecu with
  | (ecu, .ok none) =>
      (ecu, VirtualEcu.readOne cfg request (ecu.core.states st) ecu.core.data did)
  | outcome => outcome

/-- The records of the DIDs that are served, in order, or the first refusal. -/
def readAll : List Nat → Ecu τ → Ecu τ × Except Result (List Bytes)
  | [], ecu => (ecu, .ok [])
  | did :: rest, ecu =>
      match readOne cfg policy d request st did ecu with
      | (ecu, .error e) => (ecu, .error e)
      | (ecu, .ok none) => readAll rest ecu
      | (ecu, .ok (some value)) =>
          match readAll rest ecu with
          | (ecu, .error e) => (ecu, .error e)
          | (ecu, .ok records) => (ecu, .ok ((packH did ++ value) :: records))

def readDataByIdentifier (ecu : Ecu τ) : Ecu τ × Result :=
  let body := request.data
  if body = [] ∨ body.length % 2 ≠ 0 then (ecu, request.nrc nrcIncorrectMessageLength)
  else
    match readAll cfg policy d request st request.dids ecu with
    | (ecu, .error e) => (ecu, e)
    | (ecu, .ok []) => (ecu, .noResponse)
    | (ecu, .ok records) =>
        let response := request.positive records.flatten
        if cfg.doip.maxPayloadBytes < response.length then
          (ecu, request.nrc nrcResponseTooLong)
        else (ecu, .bytes response)

/-- A service of the core on the state of the tester and the shared data. -/
def serve (service : Service) (ecu : Ecu τ) : Ecu τ × Result :=
  let (s, data, result) := service cfg request (ecu.core.states st) ecu.core.data
  ({ ecu with core := { ecu.core.setState st s with data := data } }, result)

/-- The YAML table has its say when no handler has answered. -/
def writeDataByIdentifier (ecu : Ecu τ) : Ecu τ × Result :=
  let body := request.data
  if body.length < 3 then (ecu, request.nrc nrcIncorrectMessageLength)
  else
    let did := fromBytes (body.take 2)
    match resolveDidWrite policy d request st did (body.drop 2) ecu with
    | (ecu, .error e) => (ecu, e)
    | (ecu, .ok (some true)) => (ecu, .bytes (request.positive (packH did)))
    | (ecu, .ok (some false)) => (ecu, request.nrc nrcRequestOutOfRange)
    | (ecu, .ok none) => serve cfg request st VirtualEcu.writeDataByIdentifier ecu

/-- The YAML table has its say when no handler has answered. -/
def routineControl (ecu : Ecu τ) : Ecu τ × Result :=
  if request.raw.length < 4 then (ecu, request.nrc nrcIncorrectMessageLength)
  else
    let control := request.subFunction.getD 0
    if control ≠ 0x01 ∧ control ≠ 0x02 ∧ control ≠ 0x03 then
      (ecu, request.nrc nrcSubFunctionNotSupported)
    else
      let rid := fromBytes ((request.raw.drop 2).take 2)
      let data := request.raw.drop 4
      match resolveRoutine policy d request st rid control data ecu with
      | (ecu, .error e) => (ecu, e)
      | (ecu, .ok (some record)) =>
          ({ ecu with core := { ecu.core with data := track ecu.core.data rid control } },
            .bytes (request.positive (UInt8.ofNat control :: packH rid ++ record)))
      | (ecu, .ok none) => serve cfg request st VirtualEcu.routineControl ecu

/-- `CoreServices.handle`; `none` for a service the core does not have. -/
def handle (ecu : Ecu τ) : Ecu τ × Option Result :=
  if request.sid = sidEcuReset then
    let (core, result) := ecuReset cfg request st ecu.core
    ({ ecu with core := core }, some result)
  else if request.sid = sidReadDataByIdentifier then
    let (ecu, result) := readDataByIdentifier cfg policy d request st ecu
    (ecu, some result)
  else if request.sid = sidWriteDataByIdentifier then
    let (ecu, result) := writeDataByIdentifier cfg policy d request st ecu
    (ecu, some result)
  else if request.sid = sidRoutineControl then
    let (ecu, result) := routineControl cfg policy d request st ecu
    (ecu, some result)
  else
    match coreService cfg request.sid with
    | some service =>
        let (ecu, result) := serve cfg request st service ecu
        (ecu, some result)
    | none => (ecu, none)

/-! ## §5. The dispatcher. -/

/-- `request.sid` as a key of the hook table; -1 for an empty request. -/
def serviceKey : Int :=
  match request.raw with
  | [] => -1
  | sid :: _ => sid.toNat

end Dispatcher

/-- What a service hook returned, as the outcome of the dispatch. -/
def Value.result : Value → Result
  | .bytes data => .bytes data
  | .noResponse => .noResponse

namespace Dispatcher

variable (cfg : EcuConfig) (policy : Loader.HandlerErrorPolicy) (d : Dispatcher τ)
  (request : UdsRequest) (st : StateId)

/-- From the core on. -/
def dispatchCore (ecu : Ecu τ) : Ecu τ × Result :=
  match handle cfg policy d request st ecu with
  | (ecu, some result) => (ecu, result)
  | (ecu, none) => (ecu, fallback cfg request)

/-- From the catch-alls on. -/
def dispatchAny (ecu : Ecu τ) : Ecu τ × Result :=
  match firstResult policy request st d.any ecu with
  | (ecu, .error e) => (ecu, e)
  | (ecu, .ok (some value)) => (ecu, value.result)
  | (ecu, .ok none) => dispatchCore cfg policy d request st ecu

/-- From the hooks for the service on. -/
def dispatchService (ecu : Ecu τ) : Ecu τ × Result :=
  match firstResult policy request st (d.service (serviceKey request)) ecu with
  | (ecu, .error e) => (ecu, e)
  | (ecu, .ok (some value)) => (ecu, value.result)
  | (ecu, .ok none) => dispatchAny cfg policy d request st ecu

/-- `Dispatcher.dispatch` -/
def dispatch (ecu : Ecu τ) : Ecu τ × Result :=
  match observe policy request st d.observers ecu with
  | (ecu, .error e) => (ecu, e)
  | (ecu, .ok ()) => dispatchService cfg policy d request st ecu

end Dispatcher

end DoipPlayground.VirtualEcu
