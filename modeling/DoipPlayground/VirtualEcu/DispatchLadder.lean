/-
  DoipPlayground.VirtualEcu.DispatchLadder
  ────────────────────────────────────────
  **THE PRECEDENCE LADDER OF A DISPATCH.**

  The loops and exceptions of the dispatcher come to this: there is one list
  of candidates, and the first that does not decline has the outcome.

    • `HandlerEnd.meaning` — what the end of a handler means on the ladder,
    • `coreRung` — the core, with the ladders inside 0x22, 0x2E and 0x31,
    • `rungs` — hooks for the service, catch-alls, core, fallback,
    • `handle_ladder` — `CoreServices.handle` climbs the ladders of its services,
    • `dispatch_ladder` — the outcome is that of the first rung that does
      not decline, for all plugins, policies and requests,
    • `dispatch_without_plugins` — without plugins this is the dispatcher
      of the core.
-/
import DoipPlayground.VirtualEcu.Dispatcher

namespace DoipPlayground.VirtualEcu

open Wire

variable {τ ι ρ α β : Type}

/-! ## §1. The rungs. -/

/-- What the end of a handler means: an answer, or nothing. -/
def HandlerEnd.meaning (policy : Loader.HandlerErrorPolicy) (request : UdsRequest)
    (answer : ρ → β) (refuse : Result → β) : HandlerEnd ρ → Option β
  | .declined => none
  | .returned value => some (answer value)
  | .negative nrc sid => some (refuse (.negative nrc (some (sid.getD request.sid))))
  | .suppress => some (refuse .suppress)
  | .raised =>
      match policy with
      | .nrc => some (refuse (.negative nrcConditionsNotCorrect (some request.sid)))
      | .fallthrough => none
      | .silent => some (refuse .suppress)

/-- Returns normally, or raises an ordinary exception. -/
def HandlerEnd.Ordinary : HandlerEnd ρ → Prop
  | .declined | .returned _ | .raised => True
  | .negative _ _ | .suppress => False

namespace Dispatcher

section
variable (cfg : EcuConfig) (policy : Loader.HandlerErrorPolicy) (d : Dispatcher τ)
  (request : UdsRequest) (st : StateId)

/-- A hook on a ladder. -/
def rung (answer : ρ → β) (refuse : Result → β) (args : ι) (hook : Hook τ ι ρ) :
    Ladder.Candidate (Ecu τ) β := fun ecu =>
  let (ecu, ending) := hook.method request st args ecu
  (ecu, ending.meaning policy request answer refuse)

/-- A service hook. -/
def serviceRung : Hook τ Unit Value → Ladder.Candidate (Ecu τ) Result :=
  rung policy request st Value.result id ()

/-- A value that answers `NO_RESPONSE` ends the whole request. -/
def Value.record : Value → Except Result Bytes
  | .bytes data => .ok data
  | .noResponse => .error .suppress

/-- A `@read_did` hook. -/
def readRung : Hook τ Unit Value → Ladder.Candidate (Ecu τ) (Except Result Bytes) :=
  rung policy request st Value.record .error ()

/-- The entry of the YAML table. -/
def yamlRead (did : Nat) : Ladder.Candidate (Ecu τ) (Except Result Bytes) := fun ecu =>
  (ecu,
    match VirtualEcu.readOne cfg request (ecu.core.states st) ecu.core.data did with
    | .error e => some (.error e)
    | .ok none => none
    | .ok (some value) => some (.ok value))

/-- A `@write_did` hook accepts the write, or rejects it. -/
def writeAnswer (did : Nat) : WriteValue → Result
  | .truth true => .bytes (request.positive (packH did))
  | .truth false => request.nrc nrcRequestOutOfRange
  | .noResponse => .suppress

def writeRung (did : Nat) (value : Bytes) :
    Hook τ Bytes WriteValue → Ladder.Candidate (Ecu τ) Result :=
  rung policy request st (writeAnswer request did) id value

/-- A service that always answers. -/
def answering (service : Ecu τ → Ecu τ × Result) : Ladder.Candidate (Ecu τ) Result := fun ecu =>
  let (ecu, result) := service ecu
  (ecu, some result)

/-- The record of a `@routine` hook; the core remembers what it has started
and stopped. -/
def routineAnswer (rid control : Nat) : Except Result Bytes → Ecu τ → Ecu τ × Result
  | .error e, ecu => (ecu, e)
  | .ok record, ecu =>
      ({ ecu with core := { ecu.core with data := track ecu.core.data rid control } },
        .bytes (request.positive (UInt8.ofNat control :: packH rid ++ record)))

/-- A `@routine` hook. -/
def routineRung (rid control : Nat) (data : Bytes) (hook : Hook τ (Nat × Bytes) Value) :
    Ladder.Candidate (Ecu τ) Result :=
  Ladder.andThen (rung policy request st Value.record .error (control, data) hook)
    (routineAnswer request rid control)

/-- A request that is refused before anything is asked. -/
def refusal (nrc : UInt8) : Ladder.Candidate (Ecu τ) Result :=
  answering fun ecu => (ecu, request.nrc nrc)

/-- One DID of a read: its hooks, then the YAML table. -/
def didRung (did : Nat) : Ladder.Candidate (Ecu τ) (Except Result Bytes) :=
  Ladder.first ((d.readDid did).map (readRung policy request st) ++ [yamlRead cfg request st did])

/-- The response to a read, from the DIDs that are served with their values. -/
def readAnswer : Except Result (List (Nat × Bytes)) → Result
  | .error e => e
  | .ok [] => .noResponse
  | .ok records =>
      let response := request.positive (records.flatMap fun (did, value) => packH did ++ value)
      if cfg.doip.maxPayloadBytes < response.length then request.nrc nrcResponseTooLong
      else .bytes response

/-- 0x22: the DIDs one after the other. -/
def readRungs : Ladder.Candidate (Ecu τ) Result :=
  if request.data = [] ∨ request.data.length % 2 ≠ 0 then
    refusal request nrcIncorrectMessageLength
  else answering fun ecu =>
    let (ecu, records) := Ladder.walk (didRung cfg policy d request st) request.dids ecu
    (ecu, readAnswer cfg request records)

/-- 0x2E: the hooks of the DID, then the YAML table. -/
def writeRungs : Ladder.Candidate (Ecu τ) Result :=
  if request.data.length < 3 then refusal request nrcIncorrectMessageLength
  else
    let did := fromBytes (request.data.take 2)
    Ladder.first ((d.writeDid did).map (writeRung policy request st did (request.data.drop 2))
      ++ [answering (serve cfg request st VirtualEcu.writeDataByIdentifier)])

/-- 0x31: the hooks for this control, those for any, then the YAML table. -/
def routineRungs : Ladder.Candidate (Ecu τ) Result :=
  if request.raw.length < 4 then refusal request nrcIncorrectMessageLength
  else
    let control := request.subFunction.getD 0
    if control = 0x01 ∨ control = 0x02 ∨ control = 0x03 then
      let rid := fromBytes ((request.raw.drop 2).take 2)
      let hookRung := routineRung policy request st rid control (request.raw.drop 4)
      Ladder.first ((d.routines rid (some control)).map hookRung
        ++ (d.routines rid none).map hookRung
        ++ [answering (serve cfg request st VirtualEcu.routineControl)])
    else refusal request nrcSubFunctionNotSupported

/-- The core: a service of its own, some with ladders inside, or nothing. -/
def coreRung : Ladder.Candidate (Ecu τ) Result :=
  if request.sid = sidEcuReset then answering fun ecu =>
    ({ ecu with core := (ecuReset cfg request st ecu.core).1 },
      (ecuReset cfg request st ecu.core).2)
  else if request.sid = sidReadDataByIdentifier then readRungs cfg policy d request st
  else if request.sid = sidWriteDataByIdentifier then writeRungs cfg policy d request st
  else if request.sid = sidRoutineControl then routineRungs cfg policy d request st
  else
    match coreService cfg request.sid with
    | some service => answering (serve cfg request st service)
    | none => fun ecu => (ecu, none)

/-- The candidates of a request, in the order of precedence. -/
def rungs : List (Ladder.Candidate (Ecu τ) Result) :=
  (d.service (serviceKey request)).map (serviceRung policy request st)
    ++ d.any.map (serviceRung policy request st)
    ++ [coreRung cfg policy d request st, answering (fun ecu => (ecu, fallback cfg request))]

end

/-! ## §2. The loops climb ladders. -/

variable {cfg : EcuConfig} {d : Dispatcher τ} (policy : Loader.HandlerErrorPolicy)
  (request : UdsRequest) (st : StateId)

/-- The answer a loop has come to: its exception, its result, or none. -/
def settle (answer : α → β) (refuse : Result → β) : Except Result (Option α) → Option β
  | .error e => some (refuse e)
  | .ok none => none
  | .ok (some a) => some (answer a)

/-- A call is a rung. -/
theorem call_rung (answer : ρ → β) (refuse : Result → β) (hook : Hook τ ι ρ) (args : ι)
    (ecu : Ecu τ) :
    rung policy request st answer refuse args hook ecu
      = ((call policy request st false hook args ecu).1,
          settle answer refuse (call policy request st false hook args ecu).2) := by
  unfold rung call
  cases hmethod : hook.method request st args ecu with
  | mk ecu' ending =>
      cases ending with
      | raised => cases policy <;> rfl
      | _ => rfl

theorem firstResult_ladder (hooks : List (Hook τ Unit Value)) (ecu : Ecu τ) :
    Ladder.first (hooks.map (serviceRung policy request st)) ecu
      = ((firstResult policy request st hooks ecu).1,
          settle Value.result id (firstResult policy request st hooks ecu).2) := by
  induction hooks generalizing ecu with
  | nil => rfl
  | cons hook rest ih =>
      have hrung : serviceRung policy request st hook ecu = _ :=
        call_rung policy request st Value.result id hook () ecu
      rw [List.map_cons, firstResult]
      cases hcall : call policy request st false hook () ecu with
      | mk ecu' outcome =>
          rw [hcall] at hrung
          rcases outcome with e | _ | value
          · exact Ladder.first_cons_some hrung _
          · rw [Ladder.first_cons_none hrung]
            exact ih ecu'
          · exact Ladder.first_cons_some hrung _

theorem firstBytes_ladder (args : ι) (hooks : List (Hook τ ι Value)) (ecu : Ecu τ) :
    Ladder.first (hooks.map (rung policy request st Value.record .error args)) ecu
      = ((firstBytes policy request st args hooks ecu).1,
          settle .ok .error (firstBytes policy request st args hooks ecu).2) := by
  induction hooks generalizing ecu with
  | nil => rfl
  | cons hook rest ih =>
      have hrung := call_rung policy request st Value.record
        Except.error hook args ecu
      rw [List.map_cons, firstBytes]
      cases hcall : call policy request st false hook args ecu with
      | mk ecu' outcome =>
          rw [hcall] at hrung
          rcases outcome with e | _ | _ | data
          · exact Ladder.first_cons_some hrung _
          · rw [Ladder.first_cons_none hrung]
            exact ih ecu'
          · exact Ladder.first_cons_some hrung _
          · exact Ladder.first_cons_some hrung _

theorem firstTruth_ladder (did : Nat) (value : Bytes) (hooks : List (Hook τ Bytes WriteValue))
    (ecu : Ecu τ) :
    Ladder.first (hooks.map (writeRung policy request st did value)) ecu
      = ((firstTruth policy request st value hooks ecu).1,
          settle (fun accepted => writeAnswer request did (.truth accepted)) id
            (firstTruth policy request st value hooks ecu).2) := by
  induction hooks generalizing ecu with
  | nil => rfl
  | cons hook rest ih =>
      have hrung : writeRung policy request st did value hook ecu = _ :=
        call_rung policy request st (writeAnswer request did) id hook value ecu
      rw [List.map_cons, firstTruth]
      cases hcall : call policy request st false hook value ecu with
      | mk ecu' outcome =>
          rw [hcall] at hrung
          rcases outcome with e | _ | _ | accepted
          · exact Ladder.first_cons_some hrung _
          · rw [Ladder.first_cons_none hrung]
            exact ih ecu'
          · exact Ladder.first_cons_some hrung _
          · exact Ladder.first_cons_some hrung _

/-! ## §3. The ladders inside the core. -/

theorem yamlRead_settle (did : Nat) (ecu : Ecu τ) :
    yamlRead cfg request st did ecu
      = (ecu, settle .ok .error
          (VirtualEcu.readOne cfg request (ecu.core.states st) ecu.core.data did)) := by
  unfold yamlRead
  rcases VirtualEcu.readOne cfg request (ecu.core.states st) ecu.core.data did with
    e | _ | value <;> rfl

/-- One DID of a read: its hooks, then the YAML table. -/
theorem readOne_ladder (did : Nat) (ecu : Ecu τ) :
    Ladder.first ((d.readDid did).map (readRung policy request st)
        ++ [yamlRead cfg request st did]) ecu
      = ((readOne cfg policy d request st did ecu).1,
          settle .ok .error (readOne cfg policy d request st did ecu).2) := by
  have hhooks : Ladder.first ((d.readDid did).map (readRung policy request st)) ecu = _ :=
    firstBytes_ladder policy request st () (d.readDid did) ecu
  rw [Ladder.first_append]
  unfold readOne resolveDidRead
  cases hloop : firstBytes policy request st () (d.readDid did) ecu with
  | mk ecu' outcome =>
      rw [hloop] at hhooks
      rcases outcome with e | _ | data
      · exact Ladder.first_cons_some hhooks _
      · rw [Ladder.first_cons_none hhooks, Ladder.first_singleton, Ladder.first_singleton]
        exact yamlRead_settle request st did ecu'
      · exact Ladder.first_cons_some hhooks _

/-- A write: its hooks, then the YAML table. -/
theorem writeDataByIdentifier_ladder (hlen : 3 ≤ request.data.length) (ecu : Ecu τ) :
    Ladder.first
        ((d.writeDid (fromBytes (request.data.take 2))).map
            (writeRung policy request st (fromBytes (request.data.take 2)) (request.data.drop 2))
          ++ [answering (serve cfg request st VirtualEcu.writeDataByIdentifier)]) ecu
      = ((writeDataByIdentifier cfg policy d request st ecu).1,
          some (writeDataByIdentifier cfg policy d request st ecu).2) := by
  have hhooks := firstTruth_ladder policy request st
    (fromBytes (request.data.take 2)) (request.data.drop 2)
    (d.writeDid (fromBytes (request.data.take 2))) ecu
  rw [Ladder.first_append]
  unfold writeDataByIdentifier resolveDidWrite
  dsimp only
  rw [if_neg (by omega)]
  cases hloop : firstTruth policy request st (request.data.drop 2)
      (d.writeDid (fromBytes (request.data.take 2))) ecu with
  | mk ecu' outcome =>
      rw [hloop] at hhooks
      rcases outcome with e | _ | accepted
      · exact Ladder.first_cons_some hhooks _
      · rw [Ladder.first_cons_none hhooks, Ladder.first_singleton, Ladder.first_singleton]
        rfl
      · cases accepted <;> exact Ladder.first_cons_some hhooks _

/-- The routine hooks of one key. -/
theorem routineRungs_first (rid control : Nat) (data : Bytes)
    (hooks : List (Hook τ (Nat × Bytes) Value)) (ecu : Ecu τ) :
    Ladder.first (hooks.map (routineRung policy request st rid control data)) ecu
      = Ladder.andThen (fun ecu =>
          ((firstBytes policy request st (control, data) hooks ecu).1,
            settle .ok .error (firstBytes policy request st (control, data) hooks ecu).2))
          (routineAnswer request rid control) ecu := by
  have hmap : hooks.map (routineRung policy request st rid control data)
      = (hooks.map (rung policy request st Value.record .error (control, data))).map
          (fun c => Ladder.andThen c (routineAnswer request rid control)) := by
    rw [List.map_map]
    rfl
  have hloop : Ladder.first (hooks.map (rung policy request st Value.record .error (control, data)))
      = fun ecu => ((firstBytes policy request st (control, data) hooks ecu).1,
          settle .ok .error (firstBytes policy request st (control, data) hooks ecu).2) := by
    funext ecu
    exact firstBytes_ladder policy request st (control, data) hooks ecu
  rw [hmap, Ladder.first_andThen, hloop]

/-- A routine: the hooks for its control, those for any, then the YAML table. -/
theorem routineControl_ladder (hlen : 4 ≤ request.raw.length)
    (hsupported : request.subFunction.getD 0 = 0x01 ∨ request.subFunction.getD 0 = 0x02
      ∨ request.subFunction.getD 0 = 0x03) (ecu : Ecu τ) :
    let control := request.subFunction.getD 0
    let rid := fromBytes ((request.raw.drop 2).take 2)
    let hookRung := routineRung policy request st rid control (request.raw.drop 4)
    Ladder.first
        ((d.routines rid (some control)).map hookRung ++ (d.routines rid none).map hookRung
          ++ [answering (serve cfg request st VirtualEcu.routineControl)]) ecu
      = ((routineControl cfg policy d request st ecu).1,
          some (routineControl cfg policy d request st ecu).2) := by
  intro control rid hookRung
  rw [List.append_assoc, Ladder.first_append]
  unfold routineControl resolveRoutine
  dsimp only
  rw [if_neg (by omega), if_neg (by omega)]
  have hexact := routineRungs_first policy request st rid control
    (request.raw.drop 4) (d.routines rid (some control)) ecu
  unfold Ladder.andThen at hexact
  dsimp only at hexact
  cases hloop : firstBytes policy request st (control, request.raw.drop 4)
      (d.routines rid (some control)) ecu with
  | mk ecu' outcome =>
      rw [hloop] at hexact
      rcases outcome with e | _ | record
      · exact Ladder.first_cons_some hexact _
      · rw [Ladder.first_cons_none hexact, Ladder.first_singleton, Ladder.first_append]
        have hany := routineRungs_first policy request st rid
          control (request.raw.drop 4) (d.routines rid none) ecu'
        unfold Ladder.andThen at hany
        dsimp only at hany ⊢
        cases hloop' : firstBytes policy request st (control, request.raw.drop 4)
            (d.routines rid none) ecu' with
        | mk ecu'' outcome =>
            rw [hloop'] at hany
            rcases outcome with e | _ | record
            · exact Ladder.first_cons_some hany _
            · rw [Ladder.first_cons_none hany, Ladder.first_singleton, Ladder.first_singleton]
              rfl
            · exact Ladder.first_cons_some hany _
      · exact Ladder.first_cons_some hexact _

/-- The walk over the DIDs of a read. -/
theorem readAll_walk (dids : List Nat) (ecu : Ecu τ) :
    readAll cfg policy d request st dids ecu
      = ((Ladder.walk (didRung cfg policy d request st) dids ecu).1,
          (Ladder.walk (didRung cfg policy d request st) dids ecu).2.map
            (·.map fun (did, value) => packH did ++ value)) := by
  induction dids generalizing ecu with
  | nil => rfl
  | cons did rest ih =>
      have hrung : didRung cfg policy d request st did ecu = _ :=
        readOne_ladder policy request st did ecu
      rw [readAll]
      cases hone : readOne cfg policy d request st did ecu with
      | mk ecu' outcome =>
          rw [hone] at hrung
          rcases outcome with e | _ | value
          · rw [Ladder.walk_refused hrung]
            rfl
          · rw [Ladder.walk_declined hrung]
            exact ih ecu'
          · rw [Ladder.walk_answered hrung]
            dsimp only
            rw [ih ecu']
            cases Ladder.walk (didRung cfg policy d request st) rest ecu' with
            | mk ecu'' records => cases records <;> rfl

theorem readDataByIdentifier_ladder (ecu : Ecu τ) :
    readRungs cfg policy d request st ecu
      = ((readDataByIdentifier cfg policy d request st ecu).1,
          some (readDataByIdentifier cfg policy d request st ecu).2) := by
  unfold readRungs readDataByIdentifier
  dsimp only
  by_cases hbody : request.data = [] ∨ request.data.length % 2 ≠ 0
  · rw [if_pos hbody, if_pos hbody]
    rfl
  · rw [if_neg hbody, if_neg hbody, readAll_walk]
    unfold answering readAnswer
    dsimp only
    cases Ladder.walk (didRung cfg policy d request st) request.dids ecu with
    | mk ecu' records =>
        rcases records with e | _ | ⟨record, rest⟩
        · rfl
        · rfl
        · have hflat : (List.map (fun (did, value) => packH did ++ value) (record :: rest)).flatten
              = (record :: rest).flatMap fun (did, value) => packH did ++ value :=
            (List.flatMap_def ..).symm
          show (_, some _) = _
          simp only [Except.map, ← hflat, List.map_cons]
          split <;> rfl

/-- **The core climbs the ladders of its services.** -/
theorem handle_ladder (ecu : Ecu τ) :
    handle cfg policy d request st ecu = coreRung cfg policy d request st ecu := by
  unfold handle coreRung
  split
  · rfl
  split
  · exact (readDataByIdentifier_ladder policy request st ecu).symm
  split
  · unfold writeRungs
    by_cases hlen : request.data.length < 3
    · rw [if_pos hlen]
      unfold writeDataByIdentifier
      dsimp only
      rw [if_pos hlen]
      rfl
    · rw [if_neg hlen]
      exact (writeDataByIdentifier_ladder policy request st (by omega) ecu).symm
  split
  · unfold routineRungs
    by_cases hlen : request.raw.length < 4
    · rw [if_pos hlen]
      unfold routineControl
      rw [if_pos hlen]
      rfl
    · rw [if_neg hlen]
      dsimp only
      split
      · exact (routineControl_ladder policy request st (by omega) ‹_› ecu).symm
      · rename_i hcontrol
        unfold routineControl
        dsimp only
        rw [if_neg hlen, if_pos (by omega)]
        rfl
  · cases coreService cfg request.sid with
    | some service => rfl
    | none => rfl

/-! ## §4. The ladder of the dispatch. -/

/-- Observers that return or raise an ordinary exception only act on what
they can reach. -/
theorem observe_ordinary {hooks : List (Hook τ Unit Value)}
    (h : ∀ hook ∈ hooks, ∀ ecu, (hook.method request st () ecu).2.Ordinary) (ecu : Ecu τ) :
    observe policy request st hooks ecu
      = (hooks.foldl (fun ecu hook => (hook.method request st () ecu).1) ecu, .ok ()) := by
  induction hooks generalizing ecu with
  | nil => rfl
  | cons hook rest ih =>
      have hordinary := h hook (List.mem_cons_self ..) ecu
      have hrest := ih (fun hook hmem => h hook (List.mem_cons_of_mem _ hmem))
      rw [observe, call, List.foldl_cons]
      cases hmethod : hook.method request st () ecu with
      | mk ecu' ending =>
          rw [hmethod] at hordinary
          cases ending with
          | declined => exact hrest ecu'
          | returned value => exact hrest ecu'
          | raised => exact hrest ecu'
          | negative nrc sid => exact absurd hordinary id
          | suppress => exact absurd hordinary id

/-- From the service hooks on, the dispatch climbs the ladder. -/
theorem dispatchService_ladder (ecu : Ecu τ) :
    Ladder.first (rungs cfg policy d request st) ecu
      = ((dispatchService cfg policy d request st ecu).1,
          some (dispatchService cfg policy d request st ecu).2) := by
  have hcore : ∀ ecu : Ecu τ,
      Ladder.first [coreRung cfg policy d request st,
          answering (fun ecu => (ecu, fallback cfg request))] ecu
        = ((dispatchCore cfg policy d request st ecu).1,
            some (dispatchCore cfg policy d request st ecu).2) := by
    intro ecu
    have hladder : coreRung cfg policy d request st ecu = _ :=
      (handle_ladder policy request st ecu).symm
    unfold dispatchCore
    cases hhandle : handle cfg policy d request st ecu with
    | mk ecu' result =>
        rw [hhandle] at hladder
        cases result with
        | some result => exact Ladder.first_cons_some hladder _
        | none => rw [Ladder.first_cons_none hladder, Ladder.first_singleton]; rfl
  have hany : ∀ ecu : Ecu τ,
      Ladder.first (d.any.map (serviceRung policy request st)
          ++ [coreRung cfg policy d request st,
            answering (fun ecu => (ecu, fallback cfg request))]) ecu
        = ((dispatchAny cfg policy d request st ecu).1,
            some (dispatchAny cfg policy d request st ecu).2) := by
    intro ecu
    have hhooks := firstResult_ladder policy request st d.any ecu
    rw [Ladder.first_append]
    unfold dispatchAny
    cases hloop : firstResult policy request st d.any ecu with
    | mk ecu' outcome =>
        rw [hloop] at hhooks
        rcases outcome with e | _ | value
        · exact Ladder.first_cons_some hhooks _
        · rw [Ladder.first_cons_none hhooks, Ladder.first_singleton]
          exact hcore ecu'
        · exact Ladder.first_cons_some hhooks _
  have hhooks := firstResult_ladder policy request st
    (d.service (serviceKey request)) ecu
  unfold rungs
  rw [List.append_assoc, Ladder.first_append]
  unfold dispatchService
  cases hloop : firstResult policy request st (d.service (serviceKey request)) ecu with
  | mk ecu' outcome =>
      rw [hloop] at hhooks
      rcases outcome with e | _ | value
      · exact Ladder.first_cons_some hhooks _
      · rw [Ladder.first_cons_none hhooks, Ladder.first_singleton]
        exact hany ecu'
      · exact Ladder.first_cons_some hhooks _

/-! ## §5. What escapes. -/

/-- No exception of a handler but a negative response or silence. -/
theorem call_isolates (observer : Bool) (hook : Hook τ ι ρ) (args : ι) (ecu : Ecu τ) :
    (call policy request st observer hook args ecu).2 ≠ .error .error := by
  unfold call
  cases hook.method request st args ecu with
  | mk ecu' ending =>
      cases ending with
      | raised => cases observer <;> cases policy <;> simp
      | _ => simp

theorem observe_isolates (hooks : List (Hook τ Unit Value)) (ecu : Ecu τ) :
    (observe policy request st hooks ecu).2 ≠ .error .error := by
  induction hooks generalizing ecu with
  | nil => simp [observe]
  | cons hook rest ih =>
      have hcall := call_isolates policy request st true hook () ecu
      rw [observe]
      split
      · rename_i heq
        rw [heq] at hcall
        simpa using hcall
      · exact ih _

theorem firstResult_isolates (hooks : List (Hook τ Unit Value)) (ecu : Ecu τ) :
    (firstResult policy request st hooks ecu).2 ≠ .error .error := by
  induction hooks generalizing ecu with
  | nil => simp [firstResult]
  | cons hook rest ih =>
      have hcall := call_isolates policy request st false hook () ecu
      rw [firstResult]
      split
      · exact ih _
      · exact hcall

theorem firstBytes_isolates (args : ι) (hooks : List (Hook τ ι Value)) (ecu : Ecu τ) :
    (firstBytes policy request st args hooks ecu).2 ≠ .error .error := by
  induction hooks generalizing ecu with
  | nil => simp [firstBytes]
  | cons hook rest ih =>
      have hcall := call_isolates policy request st false hook
        args ecu
      rw [firstBytes]
      split
      · rename_i heq
        rw [heq] at hcall
        simpa using hcall
      · exact ih _
      · simp
      · simp

theorem firstTruth_isolates (value : Bytes) (hooks : List (Hook τ Bytes WriteValue))
    (ecu : Ecu τ) : (firstTruth policy request st value hooks ecu).2 ≠ .error .error := by
  induction hooks generalizing ecu with
  | nil => simp [firstTruth]
  | cons hook rest ih =>
      have hcall := call_isolates policy request st false hook
        value ecu
      rw [firstTruth]
      split
      · rename_i heq
        rw [heq] at hcall
        simpa using hcall
      · exact ih _
      · simp
      · simp

/-- The read of the active session raises outside a byte. -/
def SessionTooLarge (s : SessionState) : Prop := ¬ (0 ≤ s.sessionType ∧ s.sessionType < 256)

theorem yaml_readOne_isolates {s : SessionState} {data : EcuData} {did : Nat}
    (h : VirtualEcu.readOne cfg request s data did = .error .error) :
    did = didActiveDiagnosticSession ∧ SessionTooLarge s := by
  have hunknown : unknownDid cfg request did ≠ .error .error := by
    unfold unknownDid
    split <;> simp [UdsRequest.nrc]
  unfold VirtualEcu.readOne at h
  split at h
  · exact absurd h hunknown
  split at h
  · exact absurd h hunknown
  split at h
  · cases h
  · rename_i refusal _ hgates
    cases h
    obtain ⟨nrc, hnrc⟩ := checkGates_refusal hgates
    cases hnrc
  split at h
  · unfold dynamicValue at h
    by_cases hdid : did = didActiveDiagnosticSession
    · refine ⟨hdid, ?_⟩
      intro hbyte
      rw [if_pos hdid, if_pos hbyte] at h
      cases h
    · rw [if_neg hdid] at h
      cases h
  · split at h <;> cases h

theorem readAll_isolates {dids : List Nat} {ecu ecu' : Ecu τ}
    (h : readAll cfg policy d request st dids ecu = (ecu', .error .error)) :
    didActiveDiagnosticSession ∈ dids ∧ SessionTooLarge (ecu'.core.states st) := by
  induction dids generalizing ecu ecu' with
  | nil => cases h
  | cons did rest ih =>
      have hone : ∀ ecu', readOne cfg policy d request st did ecu = (ecu', .error .error) →
          did = didActiveDiagnosticSession ∧ SessionTooLarge (ecu'.core.states st) := by
        intro ecu' hone
        unfold readOne at hone
        split at hone
        · obtain ⟨rfl, hyaml⟩ := Prod.mk.inj hone
          exact yaml_readOne_isolates request hyaml
        · have hisolates : (resolveDidRead policy d request st did ecu).2 ≠ .error .error :=
            firstBytes_isolates policy request st () _ ecu
          rw [hone] at hisolates
          exact absurd rfl hisolates
      rw [readAll] at h
      split at h
      · rename_i ecu'' e heq
        obtain ⟨rfl, he⟩ := Prod.mk.inj h
        rw [Except.error.inj he] at heq
        obtain ⟨hdid, hlarge⟩ := hone _ heq
        exact ⟨hdid ▸ List.mem_cons_self .., hlarge⟩
      · obtain ⟨hmem, hlarge⟩ := ih h
        exact ⟨List.mem_cons_of_mem _ hmem, hlarge⟩
      · split at h
        · rename_i heq
          obtain ⟨rfl, he⟩ := Prod.mk.inj h
          rw [Except.error.inj he] at heq
          obtain ⟨hmem, hlarge⟩ := ih heq
          exact ⟨List.mem_cons_of_mem _ hmem, hlarge⟩
        · cases h

/-- A service of the core answers or refuses. -/
theorem coreService_isolates {sid : UInt8} {service : Service}
    (h : coreService cfg sid = some service) (hsid : sid ≠ sidReadDataByIdentifier)
    (s : SessionState) (data : EcuData) : (service cfg request s data).2.2 ≠ .error := by
  -- every refusal is a response; the checks below are in the order of the source
  have hnrc : ∀ code, request.nrc code ≠ .error := by
    intro code hcode
    cases hcode
  cases coreService_cases h with
  | diagnosticSessionControl =>
      -- the length, then the session; past them the answer is positive
      unfold diagnosticSessionControl
      dsimp only
      split
      · exact hnrc _
      split
      · exact hnrc _
      · simp
  | testerPresent =>
      -- the length, then the sub-function
      unfold testerPresent
      split
      · exact hnrc _
      split
      · exact hnrc _
      · simp
  | securityAccess =>
      -- the length and the sub-function: an odd one asks for a seed, an even one sends a key
      unfold securityAccess requestSeed sendKey
      dsimp only
      split
      · exact hnrc _
      split
      · exact hnrc _
      split
      · split
        · exact hnrc _
        split <;> simp
      split
      · exact hnrc _
      split
      · exact hnrc _
      split
      · split
        · exact hnrc _
        · exact hnrc _
      · simp
  -- the one service that can fail, read through the hooks of each DID, is excluded
  | readDataByIdentifier heq => exact absurd heq hsid
  -- an unknown DID is refused, ignored or echoed, as the ECU is configured
  | writeDataByIdentifier =>
      have hunknown : ∀ did, unknownDid cfg request did ≠ .error .error := by
        intro did
        unfold unknownDid
        split <;> simp [UdsRequest.nrc]
      unfold VirtualEcu.writeDataByIdentifier
      dsimp only
      split
      · exact hnrc _
      split
      · split
        · rename_i refusal hrefusal
          rintro rfl
          exact hunknown _ hrefusal
        · simp
        · simp
      split
      · exact hnrc _
      split
      · exact hnrc _
      -- a gate that is shut names its code
      · rename_i refusal _ hgates
        obtain ⟨nrc, rfl⟩ := checkGates_refusal hgates
        exact hnrc _
      split
      · exact hnrc _
      · simp
  | routineControl =>
      -- the length, the sub-function and the routine, then its gates and whether it was started
      unfold VirtualEcu.routineControl
      dsimp only
      split
      · exact hnrc _
      split
      · exact hnrc _
      split
      · exact hnrc _
      split
      · rename_i refusal hgates
        obtain ⟨nrc, rfl⟩ := checkGates_refusal hgates
        exact hnrc _
      split
      · exact hnrc _
      split
      · exact hnrc _
      · simp

theorem serve_isolates {sid : UInt8} {service : Service} (h : coreService cfg sid = some service)
    (hsid : sid ≠ sidReadDataByIdentifier) (ecu : Ecu τ) :
    (serve cfg request st service ecu).2 ≠ .error := coreService_isolates request h hsid _ _

theorem ecuReset_isolates (c : EcuCore) : (ecuReset cfg request st c).2 ≠ .error := by
  unfold ecuReset
  dsimp only
  split
  · simp [UdsRequest.nrc]
  split
  · simp [UdsRequest.nrc]
  split <;> simp

theorem readDataByIdentifier_isolates {ecu ecu' : Ecu τ}
    (h : readDataByIdentifier cfg policy d request st ecu = (ecu', .error)) :
    didActiveDiagnosticSession ∈ request.dids ∧ SessionTooLarge (ecu'.core.states st) := by
  unfold readDataByIdentifier at h
  dsimp only at h
  split at h
  · cases h
  split at h
  · rename_i e hall
    cases h
    exact readAll_isolates policy request st hall
  · cases h
  · split at h <;> cases h

theorem writeDataByIdentifier_isolates (ecu : Ecu τ) :
    (writeDataByIdentifier cfg policy d request st ecu).2 ≠ .error := by
  unfold writeDataByIdentifier resolveDidWrite
  dsimp only
  split
  · simp [UdsRequest.nrc]
  split
  · rename_i e hloop
    have hisolates := firstTruth_isolates policy request st (request.data.drop 2)
      (d.writeDid (fromBytes (request.data.take 2))) ecu
    rw [hloop] at hisolates
    simpa using hisolates
  · simp
  · simp [UdsRequest.nrc]
  · have hservice : coreService cfg sidWriteDataByIdentifier
        = some VirtualEcu.writeDataByIdentifier := rfl
    exact serve_isolates request st hservice (by decide) _

theorem resolveRoutine_isolates (rid control : Nat) (data : Bytes) (ecu : Ecu τ) :
    (resolveRoutine policy d request st rid control data ecu).2 ≠ .error .error := by
  unfold resolveRoutine
  split
  · exact firstBytes_isolates policy request st _ _ _
  · exact firstBytes_isolates policy request st _ _ _

theorem routineControl_isolates (ecu : Ecu τ) :
    (routineControl cfg policy d request st ecu).2 ≠ .error := by
  unfold routineControl
  dsimp only
  split
  · simp [UdsRequest.nrc]
  split
  · simp [UdsRequest.nrc]
  split
  · rename_i e hloop
    have hisolates : (resolveRoutine policy d request st _ _ _ ecu).2 ≠ .error .error :=
      resolveRoutine_isolates policy request st (fromBytes ((request.raw.drop 2).take 2))
        (request.subFunction.getD 0) (request.raw.drop 4) ecu
    rw [hloop] at hisolates
    simpa using hisolates
  · simp
  · have hservice : coreService cfg sidRoutineControl = some VirtualEcu.routineControl := rfl
    exact serve_isolates request st hservice (by decide) _

/-- The core itself raises: it cannot spell the active session in a byte. -/
structure CoreRaises (request : UdsRequest) (st : StateId) (ecu : Ecu τ) : Prop where
  sid : request.sid = sidReadDataByIdentifier
  did : didActiveDiagnosticSession ∈ request.dids
  session : SessionTooLarge (ecu.core.states st)

theorem handle_isolates {ecu ecu' : Ecu τ}
    (h : handle cfg policy d request st ecu = (ecu', some .error)) :
    CoreRaises request st ecu' := by
  unfold handle at h
  split at h
  · have hreset : (ecuReset cfg request st ecu.core).2 ≠ .error := ecuReset_isolates request st _
    exact absurd (Option.some.inj (Prod.mk.inj h).2) hreset
  split at h
  · rename_i hsid
    have hread : readDataByIdentifier cfg policy d request st ecu = (ecu', .error) := by
      obtain ⟨hecu, hresult⟩ := Prod.mk.inj h
      exact Prod.ext hecu (Option.some.inj hresult)
    obtain ⟨hdid, hlarge⟩ := readDataByIdentifier_isolates policy request st hread
    exact ⟨hsid, hdid, hlarge⟩
  rename_i hread
  split at h
  · have hwrite : (writeDataByIdentifier cfg policy d request st ecu).2 ≠ .error :=
      writeDataByIdentifier_isolates policy request st ecu
    exact absurd (Option.some.inj (Prod.mk.inj h).2) hwrite
  split at h
  · have hroutine : (routineControl cfg policy d request st ecu).2 ≠ .error :=
      routineControl_isolates policy request st ecu
    exact absurd (Option.some.inj (Prod.mk.inj h).2) hroutine
  split at h
  · rename_i service hservice
    exact absurd (Option.some.inj (Prod.mk.inj h).2) (serve_isolates request st hservice hread ecu)
  · cases h

/-- **No exception of a handler leaves the dispatch.** -/
theorem dispatch_isolates {ecu ecu' : Ecu τ}
    (h : dispatch cfg policy d request st ecu = (ecu', .error)) : CoreRaises request st ecu' := by
  have hvalue : ∀ value : Value, value.result ≠ .error := by
    intro value
    cases value <;> simp [Value.result]
  have hcore : ∀ ecu : Ecu τ, dispatchCore cfg policy d request st ecu = (ecu', .error) →
      CoreRaises request st ecu' := by
    intro ecu h
    unfold dispatchCore at h
    split at h
    · rename_i result hhandle
      cases h
      exact handle_isolates policy request st hhandle
    · unfold fallback at h
      split at h <;> cases h
  have hany : ∀ ecu : Ecu τ, dispatchAny cfg policy d request st ecu = (ecu', .error) →
      CoreRaises request st ecu' := by
    intro ecu h
    have hisolates := firstResult_isolates policy request st d.any ecu
    unfold dispatchAny at h
    split at h
    · rename_i heq
      cases h
      rw [heq] at hisolates
      exact absurd rfl hisolates
    · exact absurd (Prod.mk.inj h).2 (hvalue _)
    · exact hcore _ h
  have hobserve := observe_isolates policy request st d.observers ecu
  unfold dispatch at h
  split at h
  · rename_i heq
    cases h
    rw [heq] at hobserve
    exact absurd rfl hobserve
  · rename_i ecu'' _
    have hisolates := firstResult_isolates policy request st (d.service (serviceKey request)) ecu''
    unfold dispatchService at h
    split at h
    · rename_i heq
      cases h
      rw [heq] at hisolates
      exact absurd rfl hisolates
    · exact absurd (Prod.mk.inj h).2 (hvalue _)
    · exact hany _ h

/-! ## §6. Without plugins. -/

theorem serve_core (service : Service) (ecu : Ecu τ) :
    serve cfg request st service ecu
      = ({ ecu with core :=
            { ecu.core.setState st (service cfg request (ecu.core.states st) ecu.core.data).1 with
              data := (service cfg request (ecu.core.states st) ecu.core.data).2.1 } },
          (service cfg request (ecu.core.states st) ecu.core.data).2.2) := rfl

/-- A service that leaves everything as it is. -/
theorem serve_refused {service : Service} {ecu : Ecu τ} {result : Result}
    (h : service cfg request (ecu.core.states st) ecu.core.data
      = (ecu.core.states st, ecu.core.data, result)) :
    serve cfg request st service ecu = (ecu, result) := by
  rw [serve_core, h]
  dsimp only
  rw [EcuCore.setState_self]

/-- The hook tables of no plugin. -/
theorem new_nil : (new [] : Dispatcher τ) =
    { observers := [], service := fun _ => [], any := [], readDid := fun _ => []
      writeDid := fun _ => [], routines := fun _ _ => [] } := by
  unfold new registered
  simp

theorem readAll_new_nil (dids : List Nat) (ecu : Ecu τ) :
    readAll cfg policy (new []) request st dids ecu
      = (ecu, VirtualEcu.readAll cfg request (ecu.core.states st) ecu.core.data dids) := by
  induction dids with
  | nil => rfl
  | cons did rest ih =>
      have hone : readOne cfg policy (new []) request st did ecu
          = (ecu, VirtualEcu.readOne cfg request (ecu.core.states st) ecu.core.data did) := by
        rw [new_nil]
        rfl
      rw [readAll, VirtualEcu.readAll, hone]
      cases hread : VirtualEcu.readOne cfg request (ecu.core.states st) ecu.core.data did with
      | error e => rfl
      | ok value =>
          cases value with
          | none => exact ih
          | some value =>
              dsimp only
              rw [ih]
              cases VirtualEcu.readAll cfg request (ecu.core.states st) ecu.core.data rest <;> rfl

theorem readDataByIdentifier_new_nil (ecu : Ecu τ) :
    readDataByIdentifier cfg policy (new []) request st ecu
      = serve cfg request st VirtualEcu.readDataByIdentifier ecu := by
  have hstate : ∀ (result : Result), VirtualEcu.readDataByIdentifier cfg request
      (ecu.core.states st) ecu.core.data = (ecu.core.states st, ecu.core.data, result) →
      (ecu, result) = serve cfg request st VirtualEcu.readDataByIdentifier ecu :=
    fun result h => (serve_refused request st h).symm
  unfold readDataByIdentifier
  dsimp only
  rw [readAll_new_nil]
  split
  · apply hstate
    unfold VirtualEcu.readDataByIdentifier
    rw [if_pos ‹_›]
  rename_i hbody
  cases hall : VirtualEcu.readAll cfg request (ecu.core.states st) ecu.core.data request.dids with
  | error e =>
      apply hstate
      unfold VirtualEcu.readDataByIdentifier
      rw [if_neg hbody, hall]
  | ok records =>
      cases records with
      | nil =>
          apply hstate
          unfold VirtualEcu.readDataByIdentifier
          rw [if_neg hbody, hall]
      | cons record rest =>
          dsimp only
          split
          · apply hstate
            unfold VirtualEcu.readDataByIdentifier
            rw [if_neg hbody, hall]
            exact if_pos ‹_›
          · apply hstate
            unfold VirtualEcu.readDataByIdentifier
            rw [if_neg hbody, hall]
            exact if_neg ‹_›

theorem writeDataByIdentifier_new_nil (ecu : Ecu τ) :
    writeDataByIdentifier cfg policy (new []) request st ecu
      = serve cfg request st VirtualEcu.writeDataByIdentifier ecu := by
  unfold writeDataByIdentifier
  rw [new_nil]
  dsimp only
  split
  · rename_i hlen
    refine (serve_refused request st ?_).symm
    unfold VirtualEcu.writeDataByIdentifier
    exact if_pos hlen
  · rfl

theorem routineControl_new_nil (ecu : Ecu τ) :
    routineControl cfg policy (new []) request st ecu
      = serve cfg request st VirtualEcu.routineControl ecu := by
  unfold routineControl
  rw [new_nil]
  dsimp only
  split
  · rename_i hlen
    refine (serve_refused request st ?_).symm
    unfold VirtualEcu.routineControl
    exact if_pos hlen
  rename_i hlen
  split
  · rename_i hcontrol
    refine (serve_refused request st ?_).symm
    unfold VirtualEcu.routineControl
    rw [if_neg hlen]
    exact if_pos hcontrol
  · rfl

/-- **With no plugin, this is the dispatcher of the core.** -/
theorem dispatch_without_plugins (ecu : Ecu τ) :
    dispatch cfg policy (new []) request st ecu
      = ({ ecu with core := (VirtualEcu.dispatch cfg request st ecu.core).1 },
          (VirtualEcu.dispatch cfg request st ecu.core).2) := by
  have hdispatch : dispatch cfg policy (new []) request st ecu
      = dispatchCore cfg policy (new []) request st ecu := by
    rw [new_nil]
    rfl
  rw [hdispatch]
  unfold dispatchCore handle VirtualEcu.dispatch
  rw [readDataByIdentifier_new_nil, writeDataByIdentifier_new_nil, routineControl_new_nil]
  by_cases hreset : request.sid = sidEcuReset
  · rw [if_pos hreset, if_pos hreset]
  rw [if_neg hreset, if_neg hreset]
  by_cases hread : request.sid = sidReadDataByIdentifier
  · rw [if_pos hread, hread]
    rfl
  rw [if_neg hread]
  by_cases hwrite : request.sid = sidWriteDataByIdentifier
  · rw [if_pos hwrite, hwrite]
    rfl
  rw [if_neg hwrite]
  by_cases hroutine : request.sid = sidRoutineControl
  · rw [if_pos hroutine, hroutine]
    rfl
  rw [if_neg hroutine]
  cases coreService cfg request.sid with
  | some service => rfl
  | none => rfl

/-! ## §7. The dispatcher of any plugins. -/

/-- A hook table in the order of its keys, ties as they were registered. -/
structure InOrder (table hooks : List (Hook τ ι ρ)) : Prop where
  same : table.Perm hooks
  sorted : table.Pairwise (fun a b => a.sortKey ≤ b.sortKey)
  stable : ∀ a b, [a, b].Sublist hooks → a.sortKey ≤ b.sortKey → [a, b].Sublist table

theorem inOrder_sortBy (hooks : List (Hook τ ι ρ)) :
    InOrder (Ladder.sortBy Hook.sortKey hooks) hooks where
  same := Ladder.sortBy_perm Hook.sortKey hooks
  sorted := Ladder.sortBy_sorted Hook.sortKey hooks
  stable _ _ hab hle := Ladder.sortBy_stable Hook.sortKey hab hle

/-- How these plugins and the core share the dispatch of a request. -/
structure FollowsLadder (plugins : List (Plugin τ)) (cfg : EcuConfig)
    (policy : Loader.HandlerErrorPolicy) (request : UdsRequest) (st : StateId) : Prop where
  /-- Every table is in order. -/
  observers : InOrder (new plugins).observers (registered plugins HookEntry.observer?)
  service : ∀ sid, InOrder ((new plugins).service sid) (registered plugins (HookEntry.service? sid))
  any : InOrder (new plugins).any (registered plugins HookEntry.any?)
  readDid : ∀ did, InOrder ((new plugins).readDid did) (registered plugins (HookEntry.readDid? did))
  writeDid : ∀ did,
    InOrder ((new plugins).writeDid did) (registered plugins (HookEntry.writeDid? did))
  routines : ∀ rid control, InOrder ((new plugins).routines rid control)
    (registered plugins (HookEntry.routine? rid control))
  /-- After the observers, the first rung that does not decline has the outcome. -/
  outcome : ∀ ecu ecu' result, dispatch cfg policy (new plugins) request st ecu = (ecu', result) →
    ∃ before rung after ecu₁,
      rungs cfg policy (new plugins) request st = before ++ rung :: after
        ∧ Ladder.first before ((new plugins).observers.foldl
            (fun ecu hook => (hook.method request st () ecu).1) ecu) = (ecu₁, none)
        ∧ rung ecu₁ = (ecu', some result)
  /-- The core has the ladders of its services, and declines any other one. -/
  core : ∀ ecu, handle cfg policy (new plugins) request st ecu
    = coreRung cfg policy (new plugins) request st ecu
  /-- The last rung is the `unknown_service` policy. -/
  unknown : fallback cfg request =
    match cfg.uds.unknownService with
    | .silent => .noResponse
    | .echo => .bytes (request.positive request.data)
    | .nrc => request.nrc nrcServiceNotSupported
  /-- One DID of a read: its hooks, then the YAML table. -/
  read : ∀ (did : Nat) ecu,
    Ladder.first (((new plugins).readDid did).map (readRung policy request st)
        ++ [yamlRead cfg request st did]) ecu
      = ((readOne cfg policy (new plugins) request st did ecu).1,
          settle .ok .error (readOne cfg policy (new plugins) request st did ecu).2)
  /-- A write: its hooks, then the YAML table. -/
  write : 3 ≤ request.data.length → ∀ ecu,
    let did := fromBytes (request.data.take 2)
    Ladder.first (((new plugins).writeDid did).map
          (writeRung policy request st did (request.data.drop 2))
        ++ [answering (serve cfg request st VirtualEcu.writeDataByIdentifier)]) ecu
      = ((writeDataByIdentifier cfg policy (new plugins) request st ecu).1,
          some (writeDataByIdentifier cfg policy (new plugins) request st ecu).2)
  /-- A routine: the hooks for its control, those for any, then the YAML table. -/
  routine : 4 ≤ request.raw.length → ∀ control, request.subFunction = some control →
    control = 0x01 ∨ control = 0x02 ∨ control = 0x03 → ∀ ecu,
    let rid := fromBytes ((request.raw.drop 2).take 2)
    let hookRung := routineRung policy request st rid control (request.raw.drop 4)
    Ladder.first (((new plugins).routines rid (some control)).map hookRung
          ++ ((new plugins).routines rid none).map hookRung
          ++ [answering (serve cfg request st VirtualEcu.routineControl)]) ecu
      = ((routineControl cfg policy (new plugins) request st ecu).1,
          some (routineControl cfg policy (new plugins) request st ecu).2)
  /-- No exception of a handler escapes. -/
  isolated : ∀ ecu ecu', dispatch cfg policy (new plugins) request st ecu = (ecu', .error) →
    CoreRaises request st ecu'

/-- **The dispatch ladder**, for all plugins whose observers return or raise
an ordinary exception. -/
theorem dispatch_ladder (plugins : List (Plugin τ)) (cfg : EcuConfig)
    (policy : Loader.HandlerErrorPolicy) (request : UdsRequest) (st : StateId)
    (hobservers : ∀ hook ∈ registered plugins HookEntry.observer?, ∀ ecu,
      (hook.method request st () ecu).2.Ordinary) :
    FollowsLadder plugins cfg policy request st where
  observers := inOrder_sortBy _
  service _ := inOrder_sortBy _
  any := inOrder_sortBy _
  readDid _ := inOrder_sortBy _
  writeDid _ := inOrder_sortBy _
  routines _ _ := inOrder_sortBy _
  outcome := by
    intro ecu ecu' result h
    have hordinary : ∀ hook ∈ (new plugins).observers, ∀ ecu,
        (hook.method request st () ecu).2.Ordinary := fun hook hmem =>
      hobservers hook ((Ladder.mem_sortBy Hook.sortKey).mp hmem)
    unfold dispatch at h
    rw [observe_ordinary policy request st hordinary ecu] at h
    have hclimb : Ladder.first (rungs cfg policy (new plugins) request st)
        ((new plugins).observers.foldl (fun ecu hook => (hook.method request st () ecu).1) ecu)
          = _ := dispatchService_ladder policy request st _
    dsimp only at h
    rw [h] at hclimb
    exact Ladder.first_eq_some.mp hclimb
  core ecu := handle_ladder policy request st ecu
  unknown := rfl
  read did ecu := readOne_ladder policy request st did ecu
  write hlen ecu := writeDataByIdentifier_ladder policy request st hlen ecu
  routine := by
    intro hlen control hcontrol hsupported ecu
    obtain rfl : control = request.subFunction.getD 0 := by
      rw [hcontrol]
      rfl
    exact routineControl_ladder policy request st hlen hsupported ecu
  isolated _ _ h := dispatch_isolates policy request st h

/-- An observer and a service hook that both raise. -/
def broken : Plugin Nat where
  name := "broken"
  loadIndex := 0
  hooks := [.observer none (fun _ _ _ ecu => ({ ecu with plugins := ecu.plugins + 1 }, .raised)),
    .service 0x19 none (fun _ _ _ ecu => (ecu, .raised))]

theorem dispatch_ladder_broken :
    FollowsLadder [broken] {} .nrc ⟨[0x19, 0x02], 0x0E00, 0x0003, false⟩ 0
      ∧ (dispatch {} .nrc (new [broken]) ⟨[0x19, 0x02], 0x0E00, 0x0003, false⟩ 0
          ⟨EcuCore.init {}, 0⟩).2 = .negative nrcConditionsNotCorrect (some 0x19) := by
  refine ⟨dispatch_ladder [broken] {} .nrc _ 0 ?_, ?_⟩
  · intro hook hmem ecu
    simp only [registered, broken, List.filter_cons, List.filter_nil, if_true, List.flatMap_cons,
      List.flatMap_nil, List.filterMap_cons, List.filterMap_nil, HookEntry.observer?,
      Option.map_some, Option.map_none, List.append_nil, List.mem_singleton] at hmem
    subst hmem
    trivial
  · have hobservers : (new [broken]).observers = [⟨100, 0, "broken", _⟩] :=
      Ladder.sortBy_singleton Hook.sortKey _
    have hservice : (new [broken]).service 0x19 = [⟨100, 0, "broken", _⟩] :=
      Ladder.sortBy_singleton Hook.sortKey _
    unfold dispatch
    rw [hobservers]
    show (dispatchService _ _ _ _ _ _).2 = _
    unfold dispatchService
    have hkey : serviceKey ⟨[0x19, 0x02], 0x0E00, 0x0003, false⟩ = 0x19 := by decide
    rw [hkey, hservice]
    rfl

end Dispatcher

end DoipPlayground.VirtualEcu
