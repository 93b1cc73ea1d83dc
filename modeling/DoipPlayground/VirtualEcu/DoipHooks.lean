/-
  DoipPlayground.VirtualEcu.DoipHooks
  ───────────────────────────────────
  **PLUGINS AT THE DOIP LAYER** (`doip_dispatcher.py`, `plugin.py`).

  A hook works on everything it can reach: the sockets and the state of all
  plugins.  What other tasks do while it awaits is part of its effect.

    • `call` — one hook, its exceptions swallowed,
    • `handleFrame` — one frame from the observers to the drain of its
      answer; `.error` is an exception that escapes to `run`,
    • `documented` — what the hooks may make of a frame,
    • `hook_isolation` — when a frame ends that way.
-/
import DoipPlayground.Lib.Ladder
import DoipPlayground.Lib.Python
import DoipPlayground.VirtualEcu.Pipeline
import Mathlib.Data.Prod.Lex
import Mathlib.Data.String.Basic

namespace DoipPlayground.VirtualEcu

open Wire

/-! ## §1. Hooks. -/

/-- What a hook returns instead of `None`, as far as it is looked at. -/
inductive HookValue where
  /-- `WITHHOLD_ACK` -/
  | withholdAck
  /-- `number` is its value if it is an `int`; `converted` is what `int()`
  makes of it, `none` if that raises. -/
  | object (number converted : Option Int)
  deriving DecidableEq, Repr

namespace HookValue

/-- A plain `int`. -/
def ofInt (n : Int) : HookValue := .object (some n) (some n)

/-- `int(result)`; the sentinel has no such conversion. -/
def int? : HookValue → Option Int
  | .withholdAck => none
  | .object _ converted => converted

/-- Its value, if `isinstance(result, int)`. -/
def isInt? : HookValue → Option Int
  | .withholdAck => none
  | .object number _ => number

end HookValue

/-- How a hook ends. -/
inductive HookEnd where
  /-- It returned `None`. -/
  | declined
  | returned (value : HookValue)
  /-- It raised an exception other than a cancellation. -/
  | raised
  deriving DecidableEq, Repr

/-- A hook for a connection, with the arguments of its kind. -/
abbrev HookMethod (σ ι : Type) := Sid → ι → σ → σ × HookEnd

/-- One registered hook. -/
structure DoipHook (σ ι : Type) where
  priority : Int
  loadIndex : Nat
  pluginName : String
  method : HookMethod σ ι

/-- `_sort_key` -/
def DoipHook.sortKey {σ ι : Type} (hook : DoipHook σ ι) : Int ×ₗ Nat ×ₗ String :=
  toLex (hook.priority, toLex (hook.loadIndex, hook.pluginName))

structure RoutingActivationRequest where
  sourceAddr : Nat
  activationType : Nat
  raw : Bytes
  deriving DecidableEq, Repr

variable {σ τ : Type}

/-- A decorated method: its kind, its own priority if it has one, and itself. -/
inductive DoipHookEntry (σ : Type) where
  | routingActivation (priority : Option Int) (method : HookMethod σ RoutingActivationRequest)
  | diagnosticAck (priority : Option Int) (method : HookMethod σ UdsRequest)
  | frameRx (priority : Option Int) (method : HookMethod σ (Nat × Bytes))
  | frameTx (priority : Option Int) (method : HookMethod σ (Nat × Bytes))

structure DoipPlugin (σ : Type) where
  name : String
  priority : Int := 100
  loadIndex : Nat
  hooks : List (DoipHookEntry σ)

namespace DoipHookEntry

def routingActivation? :
    DoipHookEntry σ → Option (Option Int × HookMethod σ RoutingActivationRequest)
  | .routingActivation priority method => some (priority, method)
  | _ => none

def diagnosticAck? : DoipHookEntry σ → Option (Option Int × HookMethod σ UdsRequest)
  | .diagnosticAck priority method => some (priority, method)
  | _ => none

def frameRx? : DoipHookEntry σ → Option (Option Int × HookMethod σ (Nat × Bytes))
  | .frameRx priority method => some (priority, method)
  | _ => none

def frameTx? : DoipHookEntry σ → Option (Option Int × HookMethod σ (Nat × Bytes))
  | .frameTx priority method => some (priority, method)
  | _ => none

end DoipHookEntry

/-- The hooks of one bucket in the order `_register` appends them. -/
def doipRegistered {ι : Type} (plugins : List (DoipPlugin σ))
    (bucket : DoipHookEntry σ → Option (Option Int × HookMethod σ ι)) : List (DoipHook σ ι) :=
  plugins.flatMap fun plugin =>
    plugin.hooks.filterMap fun entry => (bucket entry).map fun (priority, method) =>
      { priority := priority.getD plugin.priority, loadIndex := plugin.loadIndex
        pluginName := plugin.name, method }

/-- `_buckets` -/
structure DoipDispatcher (σ : Type) where
  routingActivation : List (DoipHook σ RoutingActivationRequest)
  diagnosticAck : List (DoipHook σ UdsRequest)
  frameRx : List (DoipHook σ (Nat × Bytes))
  frameTx : List (DoipHook σ (Nat × Bytes))

namespace DoipDispatcher

/-- `_register`: every bucket sorted by `_sort_key`. -/
def new (plugins : List (DoipPlugin σ)) : DoipDispatcher σ where
  routingActivation :=
    Ladder.sortBy DoipHook.sortKey (doipRegistered plugins DoipHookEntry.routingActivation?)
  diagnosticAck :=
    Ladder.sortBy DoipHook.sortKey (doipRegistered plugins DoipHookEntry.diagnosticAck?)
  frameRx := Ladder.sortBy DoipHook.sortKey (doipRegistered plugins DoipHookEntry.frameRx?)
  frameTx := Ladder.sortBy DoipHook.sortKey (doipRegistered plugins DoipHookEntry.frameTx?)

/-- `_call`: a raised exception is logged and swallowed. -/
def call {ι : Type} (hook : DoipHook σ ι) (i : Sid) (args : ι) (s : σ) : σ × Option HookValue :=
  match hook.method i args s with
  | (s, .declined) => (s, none)
  | (s, .returned value) => (s, some value)
  | (s, .raised) => (s, none)

/-- `resolve_routing_activation`; the conversion is outside of `_call`. -/
def resolveRoutingActivation (i : Sid) (request : RoutingActivationRequest) :
    List (DoipHook σ RoutingActivationRequest) → σ → Except σ (σ × Option Int)
  | [], s => .ok (s, none)
  | hook :: rest, s =>
      match call hook i request s with
      | (s, none) => resolveRoutingActivation i request rest s
      | (s, some value) =>
          match value.int? with
          | some code => .ok (s, some code)
          | none => .error s

/-- `resolve_diagnostic_ack` -/
def resolveDiagnosticAck (i : Sid) (request : UdsRequest) :
    List (DoipHook σ UdsRequest) → σ → σ × Option HookValue
  | [], s => (s, none)
  | hook :: rest, s =>
      match call hook i request s with
      | (s, none) => resolveDiagnosticAck i request rest s
      | (s, some value) => (s, some value)

/-- `notify_frame_rx` and `notify_frame_tx`; what the observers return is ignored. -/
def notifyFrame (i : Sid) (raw : Bytes) : List (DoipHook σ (Nat × Bytes)) → σ → σ
  | [], s => s
  | hook :: rest, s => notifyFrame i raw rest (call hook i (ptype raw, payload raw) s).1

end DoipDispatcher

/-! ## §2. A connection with hooks. -/

/-- What a hook can reach. -/
structure HookedWorld (τ : Type) where
  world : World
  plugins : τ

/-- Once a frame is drained. -/
def World.resume (cfg : EcuConfig) (w : World) (i : Sid) : AfterSend → World
  | .loop => w.setPump i .reading
  | .close => w.leaveLoop i
  | .enqueue request version => w.enqueue cfg i request version

namespace HookedWorld

variable (hooks : DoipDispatcher (HookedWorld τ)) (cfg : EcuConfig) (i : Sid)

def sendResponse (s : HookedWorld τ) (i : Sid) (payloadType : Nat) (payload : Bytes)
    (next : AfterSend) : HookedWorld τ :=
  { s with world := s.world.sendResponse i payloadType payload next }

/-- `_handle_routing_activation` once the hooks have answered. -/
def afterActivationHooks (srcAddr activationType : Nat) :
    Except (HookedWorld τ) (HookedWorld τ × Option Int) → Except (HookedWorld τ) (HookedWorld τ)
  | .error s => .error s
  | .ok (s, some override) =>
      if override ≠ 0x10 then
        -- `bytes([code])`
        match Python.byte? override with
        | none => .error s
        | some code =>
            .ok (s.sendResponse i ptRoutingActResponse
              (World.activationResponse cfg srcAddr code) .close)
      else
        .ok { s with world := s.world.handleRoutingActivation cfg i srcAddr activationType none }
  | .ok (s, none) =>
      .ok { s with world := s.world.handleRoutingActivation cfg i srcAddr activationType none }

/-- `_handle_routing_activation` up to its next await. -/
def handleRoutingActivation (payload : Bytes) (s : HookedWorld τ) :
    Except (HookedWorld τ) (HookedWorld τ) :=
  if payload.length < routingActRequestMinLen then
    .ok (s.sendResponse i ptHeaderNack [nackGenericInvalidPayloadLength] .loop)
  else
    let srcAddr := fromBytes (payload.take 2)
    let activationType := ((payload.drop 2).headD 0).toNat
    let s := { s with world := s.world.setPump i (.hooking srcAddr activationType) }
    afterActivationHooks cfg i srcAddr activationType
      (DoipDispatcher.resolveRoutingActivation i ⟨srcAddr, activationType, payload⟩
        hooks.routingActivation s)

/-- `_handle_diagnostic` once the hooks have answered. -/
def afterAckHooks (request : UdsRequest) :
    HookedWorld τ × Option HookValue → Except (HookedWorld τ) (HookedWorld τ)
  | (s, some .withholdAck) => .ok { s with world := s.world.setPump i .reading }
  | (s, some (.object (some number) _)) =>
      -- `struct.pack("!HHB", ...)`
      match Python.byte? number with
      | none => .error s
      | some code =>
          .ok (s.sendResponse i ptDiagnosticNegativeAck
            (packH cfg.doip.ecuLogicalAddr ++ packH request.sourceAddr ++ [code]) .loop)
  -- no number: the Positive ACK, as if the hooks had declined
  | (s, some (.object none _)) | (s, none) =>
      .ok (s.sendResponse i ptDiagnosticPositiveAck
        (packH cfg.doip.ecuLogicalAddr ++ packH request.sourceAddr ++ [0x00])
        (.enqueue request (s.world.sessions i).currentReqVersion))

/-- `_handle_diagnostic` up to the drain of its answer. -/
def handleDiagnostic (payload : Bytes) (s : HookedWorld τ) :
    Except (HookedWorld τ) (HookedWorld τ) :=
  let session := s.world.sessions i
  if payload.length < 5 then
    .ok (s.sendResponse i ptHeaderNack [nackGenericInvalidPayloadLength] .loop)
  else
    let src := fromBytes (payload.take 2)
    let tgt := fromBytes ((payload.drop 2).take 2)
    let uds := payload.drop 4
    let functional := tgt == cfg.uds.functionalAddr
    let nack (code : UInt8) : Bytes := packH cfg.doip.ecuLogicalAddr ++ packH src ++ [code]
    if session.activated = false ∨ session.testerAddr ≠ some src then
      .ok (s.sendResponse i ptDiagnosticNegativeAck (nack nackInvalidSourceAddress) .close)
    else if tgt ≠ cfg.doip.ecuLogicalAddr ∧ functional = false then
      .ok (s.sendResponse i ptDiagnosticNegativeAck (nack nackUnknownTargetAddress) .loop)
    else if cfg.doip.maxPayloadBytes < uds.length then
      .ok (s.sendResponse i ptDiagnosticNegativeAck (nack nackMessageTooLarge) .loop)
    else
      let request : UdsRequest := ⟨uds, src, tgt, functional⟩
      afterAckHooks cfg i request
        (DoipDispatcher.resolveDiagnosticAck i request hooks.diagnosticAck s)

/-- The loop has read a complete frame. -/
def handleFrame (raw : Bytes) (s : HookedWorld τ) : Except (HookedWorld τ) (HookedWorld τ) :=
  let s := DoipDispatcher.notifyFrame i raw hooks.frameRx s
  match validateHeader raw with
  | some nack =>
      .ok { s with
        world := (s.world.write i (buildFrame ptHeaderNack [nack] ver)).setPump i
          (.sending .close) }
  | none =>
      let s := { s with
        world := s.world.set i { s.world.sessions i with currentReqVersion := raw.headD 0 } }
      let pt := ptype raw
      let pload := payload raw
      if pt = ptRoutingActRequest then handleRoutingActivation hooks cfg i pload s
      else if pt = ptDiagnosticMessage then handleDiagnostic hooks cfg i pload s
      else if pt = ptAliveCheckRequest then
        .ok (s.sendResponse i ptAliveCheckResponse (packH cfg.doip.ecuLogicalAddr) .loop)
      else if pt = ptAliveCheckResponse then
        .ok { s with world := s.world.handleAliveCheckResponse i }
      else .ok (s.sendResponse i ptHeaderNack [nackGenericUnknownPayloadType] .loop)

/-- `_send` after the drain: the observers, and back to the caller. -/
def frameSent (raw : Bytes) (next : AfterSend) (s : HookedWorld τ) : HookedWorld τ :=
  let s := DoipDispatcher.notifyFrame i raw hooks.frameTx s
  { s with world := s.world.resume cfg i next }

/-- One turn of the loop under `run`: "Unhandled error" ends it. -/
def runFrame (raw : Bytes) (s : HookedWorld τ) : HookedWorld τ :=
  match handleFrame hooks cfg i raw s with
  | .ok s => s
  | .error s => { s with world := s.world.leaveLoop i }

end HookedWorld

/-! ## §3. What the hooks may make of a frame. -/

/-- A hook as a rung: to raise is to decline. -/
def DoipHook.candidate {ι : Type} (hook : DoipHook σ ι) (i : Sid) (args : ι) :
    Ladder.Candidate σ HookValue := fun s =>
  match hook.method i args s with
  | (s, .returned value) => (s, some value)
  | (s, _) => (s, none)

/-- The first value that a hook returns. -/
def consulted {ι : Type} (hooks : List (DoipHook σ ι)) (i : Sid) (args : ι) :
    Ladder.Candidate σ HookValue :=
  Ladder.first (hooks.map fun hook => hook.candidate i args)

/-- All observers have run. -/
def observed (observers : List (DoipHook σ (Nat × Bytes))) (i : Sid) (raw : Bytes) (s : σ) : σ :=
  observers.foldl (fun s hook => (hook.method i (ptype raw, payload raw) s).1) s

/-- The activation hooks are asked about this frame. -/
def AsksActivation (raw : Bytes) : Prop :=
  validateHeader raw = none ∧ ptype raw = ptRoutingActRequest
    ∧ routingActRequestMinLen ≤ (payload raw).length

instance (raw : Bytes) : Decidable (AsksActivation raw) := inferInstanceAs (Decidable (_ ∧ _ ∧ _))

def activationRequestOf (raw : Bytes) : RoutingActivationRequest where
  sourceAddr := fromBytes ((payload raw).take 2)
  activationType := (((payload raw).drop 2).headD 0).toNat
  raw := payload raw

/-- The activation hooks may deny with a code, and not more. -/
def denial (value : Option HookValue) : Option UInt8 :=
  value.bind fun value => value.int?.bind Python.byte?

inductive AckDecision where
  | positive
  | nack (code : UInt8)
  | withhold
  deriving DecidableEq, Repr

/-- The acknowledgement hooks may send a NACK instead, or nothing at all. -/
def ackDecision : Option HookValue → AckDecision
  | none => .positive
  | some .withholdAck => .withhold
  | some (.object number _) =>
      match number.bind Python.byte? with
      | some code => .nack code
      | none => .positive

/-- An admitted request is acknowledged, refused or dropped. -/
def World.acknowledge (cfg : EcuConfig) (w : World) (i : Sid) (request : UdsRequest) :
    AckDecision → World
  | .positive =>
      w.sendResponse i ptDiagnosticPositiveAck
        (packH cfg.doip.ecuLogicalAddr ++ packH request.sourceAddr ++ [0x00])
        (.enqueue request (w.sessions i).currentReqVersion)
  | .nack code =>
      w.sendResponse i ptDiagnosticNegativeAck
        (packH cfg.doip.ecuLogicalAddr ++ packH request.sourceAddr ++ [code]) .loop
  | .withhold => w.setPump i .reading

instance (cfg : EcuConfig) (s : Session) (raw : Bytes) : Decidable (Admitted cfg s raw) :=
  decidable_of_iff
    (validateHeader raw = none ∧ ptype raw = ptDiagnosticMessage ∧ s.activated = true
      ∧ s.testerAddr = some (requestOf cfg raw).sourceAddr
      ∧ ((requestOf cfg raw).targetAddr = cfg.doip.ecuLogicalAddr
        ∨ (requestOf cfg raw).targetAddr = cfg.uds.functionalAddr)
      ∧ 1 ≤ (requestOf cfg raw).raw.length
      ∧ (requestOf cfg raw).raw.length ≤ cfg.doip.maxPayloadBytes)
    ⟨fun ⟨h₁, h₂, h₃, h₄, h₅, h₆, h₇⟩ => ⟨h₁, h₂, h₃, h₄, h₅, h₆, h₇⟩,
      fun ⟨h₁, h₂, h₃, h₄, h₅, h₆, h₇⟩ => ⟨h₁, h₂, h₃, h₄, h₅, h₆, h₇⟩⟩

namespace HookedWorld

variable (hooks : DoipDispatcher (HookedWorld τ)) (cfg : EcuConfig) (i : Sid)

/-- The version of the frame is noted. -/
def noteVersion (raw : Bytes) (s : HookedWorld τ) : HookedWorld τ :=
  { s with world := s.world.noteVersion i raw }

/-- The activation hooks, when the frame has got to them. -/
def activationDecision (raw : Bytes) (s : HookedWorld τ) : HookedWorld τ × Option HookValue :=
  consulted hooks.routingActivation i (activationRequestOf raw)
    { s with
      world := (s.world.noteVersion i raw).setPump i
        (.hooking (activationRequestOf raw).sourceAddr (activationRequestOf raw).activationType) }

/-- The acknowledgement hooks, when the frame has got to them. -/
def acknowledgement (raw : Bytes) (s : HookedWorld τ) : HookedWorld τ × Option HookValue :=
  consulted hooks.diagnosticAck i (requestOf cfg raw) (s.noteVersion i raw)

/-- The activation under this override, as without hooks. -/
def activate (raw : Bytes) (override : Option UInt8) (s : HookedWorld τ) : HookedWorld τ :=
  { s with
    world := s.world.handleRoutingActivation cfg i (activationRequestOf raw).sourceAddr
      (activationRequestOf raw).activationType override }

/-- The frame under the default logic, or under the override the hooks have
decided on. -/
def documented (raw : Bytes) (s : HookedWorld τ) : HookedWorld τ :=
  let s := observed hooks.frameRx i raw s
  if AsksActivation raw then
    let (s, value) := activationDecision hooks i raw s
    s.activate cfg i raw (denial value)
  else if Admitted cfg (s.world.sessions i) raw then
    let (s, value) := acknowledgement hooks cfg i raw s
    { s with world := s.world.acknowledge cfg i (requestOf cfg raw) (ackDecision value) }
  else { s with world := s.world.handleFrame cfg i raw }

/-- **The frame is handled as documented**, and the loop goes on as it would
without hooks. -/
structure Isolated (raw : Bytes) (s : HookedWorld τ) : Prop where
  /-- No exception escapes. -/
  answered : handleFrame hooks cfg i raw s = .ok (documented hooks cfg i raw s)
  /-- Whatever the observers of a sent frame do. -/
  resumed : ∀ (sent : Bytes) (next : AfterSend) (t : HookedWorld τ),
    (frameSent hooks cfg i sent next t).world
      = (observed hooks.frameTx i sent t).world.resume cfg i next
  /-- The next frame is read. -/
  reads : ∀ (sent : Bytes) (t : HookedWorld τ),
    ((frameSent hooks cfg i sent .loop t).world.sessions i).pump = .reading

/-- A decision that is asked for is a code of one byte, as far as it is a code. -/
structure Fits (raw : Bytes) (s : HookedWorld τ) : Prop where
  activation : AsksActivation raw →
    ∀ value, (activationDecision hooks i raw (observed hooks.frameRx i raw s)).2 = some value →
      ∃ code, value.int? = some code ∧ 0 ≤ code ∧ code < 256
  ack : Admitted cfg ((observed hooks.frameRx i raw s).world.sessions i) raw →
    ∀ value, (acknowledgement hooks cfg i raw (observed hooks.frameRx i raw s)).2 = some value →
      ∀ code, value.isInt? = some code → 0 ≤ code ∧ code < 256

end HookedWorld

/-! ## §4. The loops of the dispatcher. -/

namespace DoipDispatcher

variable {ι : Type} (i : Sid)

theorem call_eq (hook : DoipHook σ ι) (args : ι) (s : σ) :
    call hook i args s = hook.candidate i args s := by
  unfold call DoipHook.candidate
  cases hook.method i args s with
  | mk s' hookEnd => cases hookEnd <;> rfl

theorem call_fst (hook : DoipHook σ ι) (args : ι) (s : σ) :
    (call hook i args s).1 = (hook.method i args s).1 := by
  unfold call
  cases hook.method i args s with
  | mk s' hookEnd => cases hookEnd <;> rfl

theorem notifyFrame_eq (raw : Bytes) (observers : List (DoipHook σ (Nat × Bytes))) (s : σ) :
    notifyFrame i raw observers s = observed observers i raw s := by
  induction observers generalizing s with
  | nil => rfl
  | cons hook rest ih =>
      rw [notifyFrame, call_fst, ih]
      rfl

theorem resolveDiagnosticAck_eq (request : UdsRequest) (hooks : List (DoipHook σ UdsRequest))
    (s : σ) : resolveDiagnosticAck i request hooks s = consulted hooks i request s := by
  induction hooks generalizing s with
  | nil => rfl
  | cons hook rest ih =>
      unfold resolveDiagnosticAck consulted
      rw [call_eq, List.map_cons]
      cases h : hook.candidate i request s with
      | mk t value =>
          cases value with
          | none =>
              rw [Ladder.first_cons_none h]
              exact ih t
          | some value => rw [Ladder.first_cons_some h]

/-- `int()` of a decision, if there is one. -/
def converted : σ × Option HookValue → Except σ (σ × Option Int)
  | (s, none) => .ok (s, none)
  | (s, some value) =>
      match value.int? with
      | some code => .ok (s, some code)
      | none => .error s

theorem resolveRoutingActivation_eq (request : RoutingActivationRequest)
    (hooks : List (DoipHook σ RoutingActivationRequest)) (s : σ) :
    resolveRoutingActivation i request hooks s = converted (consulted hooks i request s) := by
  induction hooks generalizing s with
  | nil => rfl
  | cons hook rest ih =>
      unfold resolveRoutingActivation consulted
      rw [call_eq, List.map_cons]
      cases h : hook.candidate i request s with
      | mk t value =>
          cases value with
          | none =>
              rw [Ladder.first_cons_none h]
              exact ih t
          | some value =>
              rw [Ladder.first_cons_some h]
              rfl

end DoipDispatcher

/-! ## §5. Where the hooks are asked. -/

namespace HookedWorld

variable {hooks : DoipDispatcher (HookedWorld τ)} {cfg : EcuConfig} {i : Sid} {raw : Bytes}
  {s : HookedWorld τ}

theorem handleFrame_of_asksActivation (h : AsksActivation raw) :
    handleFrame hooks cfg i raw s
      = handleRoutingActivation hooks cfg i (payload raw)
          ((observed hooks.frameRx i raw s).noteVersion i raw) := by
  obtain ⟨hheader, htype, _⟩ := h
  unfold handleFrame
  rw [DoipDispatcher.notifyFrame_eq]
  simp only [hheader, htype, if_true]
  rfl

/-- A denial with 0x10 is ignored, any other is sent. -/
theorem activate_some (b : UInt8) (t : HookedWorld τ) :
    t.activate cfg i raw (some b) =
      if b = 0x10 then t.activate cfg i raw none
      else t.sendResponse i ptRoutingActResponse
        (World.activationResponse cfg (activationRequestOf raw).sourceAddr b) .close := by
  by_cases h : b = 0x10
  · rw [if_pos h]
    subst h
    rfl
  · have hfilter : (some b).filter (fun code => code != 0x10) = some b := by
      simp [Option.filter, h]
    rw [if_neg h]
    unfold activate World.handleRoutingActivation
    rw [hfilter]
    rfl

theorem byte?_eq_0x10 {code : Int} {b : UInt8} (h : Python.byte? code = some b) :
    b = 0x10 ↔ code = 0x10 := by
  unfold Python.byte? at h
  split at h
  · rename_i hrange
    cases h
    rw [← UInt8.toNat_inj, UInt8.toNat_ofNat_of_lt' (by simp [UInt8.size]; omega)]
    show code.toNat = 16 ↔ code = 16
    omega
  · cases h

variable {t : HookedWorld τ} {value : Option HookValue}

/-- An exception of the conversion or of the packing, or the decision. -/
theorem handleRoutingActivation_eq (h : AsksActivation raw)
    (hdecision : activationDecision hooks i raw s = (t, value)) :
    handleRoutingActivation hooks cfg i (payload raw) (s.noteVersion i raw) =
      if value.isSome ∧ denial value = none then .error t
      else .ok (t.activate cfg i raw (denial value)) := by
  have hlen := h.2.2
  unfold handleRoutingActivation
  rw [if_neg (by omega)]
  dsimp only
  rw [DoipDispatcher.resolveRoutingActivation_eq]
  show afterActivationHooks cfg i _ _
    (DoipDispatcher.converted (activationDecision hooks i raw s)) = _
  rw [hdecision]
  unfold DoipDispatcher.converted
  cases value with
  | none => rfl
  | some value =>
      cases hint : value.int? with
      | none => simp [hint, denial, afterActivationHooks]
      | some code =>
          cases hbyte : Python.byte? code with
          | none =>
              have hne : code ≠ 0x10 := by
                rintro rfl
                cases hbyte
              simp [hint, denial, afterActivationHooks, hbyte, hne]
          | some b =>
              have hdenial : denial (some value) = some b := by
                simp [denial, hint, hbyte]
              rw [hdenial, activate_some]
              by_cases hb : code = 0x10
              · rw [if_pos ((byte?_eq_0x10 hbyte).mpr hb)]
                simp [hint, afterActivationHooks, hb, activate, activationRequestOf]
              · rw [if_neg (fun h => hb ((byte?_eq_0x10 hbyte).mp h))]
                simp [hint, afterActivationHooks, hb, hbyte, activationRequestOf]

/-- A NACK code that cannot be packed, or the decision. -/
theorem afterAckHooks_eq (t : HookedWorld τ) (value : Option HookValue) :
    afterAckHooks cfg i (requestOf cfg raw) (t, value) =
      if ∃ code, value.bind HookValue.isInt? = some code ∧ Python.byte? code = none then .error t
      else .ok { t with
        world := t.world.acknowledge cfg i (requestOf cfg raw) (ackDecision value) } := by
  match value with
  | none | some .withholdAck | some (.object none _) =>
      rw [if_neg (by simp [HookValue.isInt?])]
      rfl
  | some (.object (some number) _) =>
      cases hbyte : Python.byte? number with
      | none =>
          rw [if_pos ⟨number, rfl, hbyte⟩]
          simp [afterAckHooks, hbyte]
      | some code =>
          rw [if_neg (by simp [HookValue.isInt?, hbyte])]
          simp [afterAckHooks, ackDecision, hbyte, World.acknowledge, sendResponse]

@[simp] theorem noteVersion_activated (s : HookedWorld τ) :
    ((s.noteVersion i raw).world.sessions i).activated = (s.world.sessions i).activated := by
  simp [noteVersion, World.noteVersion]

@[simp] theorem noteVersion_testerAddr (s : HookedWorld τ) :
    ((s.noteVersion i raw).world.sessions i).testerAddr = (s.world.sessions i).testerAddr := by
  simp [noteVersion, World.noteVersion]

/-- The checks of a Diagnostic Message, as the code makes them. -/
theorem passes_of_admitted {session : Session} (h : Admitted cfg session raw) :
    ¬ (payload raw).length < 5
      ∧ ¬ (session.activated = false
        ∨ session.testerAddr ≠ some (fromBytes ((payload raw).take 2)))
      ∧ ¬ (fromBytes (((payload raw).drop 2).take 2) ≠ cfg.doip.ecuLogicalAddr
        ∧ (fromBytes (((payload raw).drop 2).take 2) == cfg.uds.functionalAddr) = false)
      ∧ ¬ cfg.doip.maxPayloadBytes < ((payload raw).drop 4).length := by
  have hsource : session.testerAddr = some (fromBytes ((payload raw).take 2)) := h.source
  refine ⟨?_, by simp [h.activated, hsource], ?_, Nat.not_lt.mpr h.size⟩
  · have hdrop : ((payload raw).drop 4).length = (payload raw).length - 4 := List.length_drop
    have hnonempty : 1 ≤ ((payload raw).drop 4).length := h.nonempty
    omega
  · rintro ⟨hne, hfunctional⟩
    cases h.target with
    | inl htgt => exact hne htgt
    | inr htgt => exact beq_eq_false_iff_ne.mp hfunctional htgt

/-- The checks of a Diagnostic Message, and then the hooks. -/
theorem handleDiagnostic_of_admitted (h : Admitted cfg (s.world.sessions i) raw) :
    handleDiagnostic hooks cfg i (payload raw) (s.noteVersion i raw)
      = afterAckHooks cfg i (requestOf cfg raw) (acknowledgement hooks cfg i raw s) := by
  obtain ⟨hlen, hsource, htarget, hsize⟩ := passes_of_admitted h
  unfold handleDiagnostic
  dsimp only
  rw [if_neg hlen, noteVersion_activated, noteVersion_testerAddr, if_neg hsource,
    if_neg htarget, if_neg hsize, DoipDispatcher.resolveDiagnosticAck_eq]
  rfl

/-- A Diagnostic Message that does not pass the checks. -/
theorem handleDiagnostic_of_refused (hheader : validateHeader raw = none)
    (htype : ptype raw = ptDiagnosticMessage) (h : ¬ Admitted cfg (s.world.sessions i) raw) :
    handleDiagnostic hooks cfg i (payload raw) (s.noteVersion i raw)
      = .ok { s with
          world := (s.noteVersion i raw).world.handleDiagnostic cfg i (payload raw) } := by
  unfold handleDiagnostic World.handleDiagnostic
  dsimp only
  split
  · rfl
  rename_i hlen
  split
  · rfl
  rename_i hsource
  split
  · rfl
  rename_i htarget
  split
  · rfl
  rename_i hsize
  rw [noteVersion_activated, noteVersion_testerAddr] at hsource
  refine absurd ⟨hheader, htype, ?_, ?_, ?_, ?_, ?_⟩ h
  · simpa using fun hact => hsource (.inl hact)
  · by_contra hne
    exact hsource (.inr hne)
  · by_cases htgt : (requestOf cfg raw).targetAddr = cfg.doip.ecuLogicalAddr
    · exact .inl htgt
    · refine .inr (by_contra fun hne => htarget ⟨htgt, ?_⟩)
      exact beq_eq_false_iff_ne.mpr hne
  · show 1 ≤ ((payload raw).drop 4).length
    rw [List.length_drop]
    omega
  · exact Nat.not_lt.mp hsize

theorem handleFrame_of_admitted
    (h : Admitted cfg ((observed hooks.frameRx i raw s).world.sessions i) raw) :
    handleFrame hooks cfg i raw s
      = afterAckHooks cfg i (requestOf cfg raw)
          (acknowledgement hooks cfg i raw (observed hooks.frameRx i raw s)) := by
  rw [← handleDiagnostic_of_admitted h]
  unfold handleFrame
  rw [DoipDispatcher.notifyFrame_eq]
  simp only [h.header, h.type]
  rfl

/-- No hook has a say. -/
theorem handleFrame_of_neither (hasks : ¬ AsksActivation raw)
    (h : ¬ Admitted cfg ((observed hooks.frameRx i raw s).world.sessions i) raw) :
    handleFrame hooks cfg i raw s = .ok { observed hooks.frameRx i raw s with
      world := (observed hooks.frameRx i raw s).world.handleFrame cfg i raw } := by
  unfold handleFrame World.handleFrame
  rw [DoipDispatcher.notifyFrame_eq]
  cases hheader : validateHeader raw with
  | some nack => rfl
  | none =>
      dsimp only
      split
      · rename_i htype
        have hlen : (payload raw).length < routingActRequestMinLen :=
          Nat.not_le.mp (fun hle => hasks ⟨hheader, htype, hle⟩)
        unfold handleRoutingActivation
        rw [if_pos hlen, if_pos hlen]
        rfl
      split
      · rename_i htype
        exact handleDiagnostic_of_refused hheader htype h
      split
      · rfl
      split
      · rfl
      · rfl

/-! ## §6. Isolation. -/

theorem frameSent_world (sent : Bytes) (next : AfterSend) (t : HookedWorld τ) :
    (frameSent hooks cfg i sent next t).world
      = (observed hooks.frameTx i sent t).world.resume cfg i next := by
  unfold frameSent
  rw [DoipDispatcher.notifyFrame_eq]

theorem frameSent_reads (sent : Bytes) (t : HookedWorld τ) :
    ((frameSent hooks cfg i sent .loop t).world.sessions i).pump = .reading := by
  rw [frameSent_world]
  simp [World.resume, World.setPump]

theorem byte?_eq_none {code : Int} : Python.byte? code = none ↔ ¬ (0 ≤ code ∧ code < 256) := by
  rw [← Python.byte?_isSome, Bool.not_eq_true, Option.isSome_eq_false_iff,
    Option.isNone_iff_eq_none]

/-- A denial that cannot be sent. -/
theorem denial_eq_none {value : HookValue} :
    denial (some value) = none
      ↔ ¬ ∃ code, value.int? = some code ∧ 0 ≤ code ∧ code < 256 := by
  show value.int?.bind Python.byte? = none ↔ _
  cases h : value.int? with
  | none => simp
  | some code => simp [byte?_eq_none]

/-- The two questions are asked about different frames. -/
theorem not_admitted_of_asksActivation (h : AsksActivation raw) (session : Session) :
    ¬ Admitted cfg session raw := by
  intro hadmitted
  have htype : ptRoutingActRequest = ptDiagnosticMessage := h.2.1.symm.trans hadmitted.type
  cases htype

theorem answered_of_fits (h : Fits hooks cfg i raw s) :
    handleFrame hooks cfg i raw s = .ok (documented hooks cfg i raw s) := by
  unfold documented
  dsimp only
  by_cases hasks : AsksActivation raw
  · rw [if_pos hasks, handleFrame_of_asksActivation hasks]
    cases hdecision : activationDecision hooks i raw (observed hooks.frameRx i raw s) with
    | mk t value =>
        rw [handleRoutingActivation_eq hasks hdecision, if_neg]
        rintro ⟨hsome, hdenial⟩
        obtain ⟨v, rfl⟩ := Option.isSome_iff_exists.mp hsome
        exact denial_eq_none.mp hdenial (h.activation hasks v (by rw [hdecision]))
  rw [if_neg hasks]
  by_cases hadmitted : Admitted cfg ((observed hooks.frameRx i raw s).world.sessions i) raw
  · rw [if_pos hadmitted, handleFrame_of_admitted hadmitted]
    cases hack : acknowledgement hooks cfg i raw (observed hooks.frameRx i raw s) with
    | mk t value =>
        rw [afterAckHooks_eq, if_neg]
        rintro ⟨code, hcode, hbyte⟩
        obtain ⟨v, rfl, hint⟩ := Option.bind_eq_some_iff.mp hcode
        exact byte?_eq_none.mp hbyte (h.ack hadmitted v (by rw [hack]) code hint)
  · rw [if_neg hadmitted, handleFrame_of_neither hasks hadmitted]

theorem raises_of_not_fits (h : ¬ Fits hooks cfg i raw s) :
    ∃ t, handleFrame hooks cfg i raw s = .error t := by
  by_cases hasks : AsksActivation raw
  · rw [handleFrame_of_asksActivation hasks]
    cases hdecision : activationDecision hooks i raw (observed hooks.frameRx i raw s) with
    | mk t value =>
        rw [handleRoutingActivation_eq hasks hdecision]
        refine ⟨t, if_pos ?_⟩
        by_contra hfits
        refine h ⟨fun _ v hv => ?_, fun hadmitted => ?_⟩
        · rw [hdecision] at hv
          cases hv
          by_contra hno
          exact hfits ⟨rfl, denial_eq_none.mpr hno⟩
        · exact absurd hadmitted (not_admitted_of_asksActivation hasks _)
  by_cases hadmitted : Admitted cfg ((observed hooks.frameRx i raw s).world.sessions i) raw
  · rw [handleFrame_of_admitted hadmitted]
    cases hack : acknowledgement hooks cfg i raw (observed hooks.frameRx i raw s) with
    | mk t value =>
        rw [afterAckHooks_eq]
        refine ⟨t, if_pos ?_⟩
        by_contra hfits
        refine h ⟨fun h => absurd h hasks, fun _ v hv code hcode => ?_⟩
        rw [hack] at hv
        cases hv
        by_contra hno
        exact hfits ⟨code, hcode, byte?_eq_none.mpr hno⟩
  · exact absurd ⟨fun h => absurd h hasks, fun h => absurd h hadmitted⟩ h

/-- An admitted request is acknowledged in the world without hooks. -/
theorem handleFrame_acknowledge {w : World} (h : Admitted cfg (w.sessions i) raw) :
    w.handleFrame cfg i raw
      = (w.noteVersion i raw).acknowledge cfg i (requestOf cfg raw) .positive := by
  obtain ⟨hlen, hsource, htarget, hsize⟩ := passes_of_admitted h
  have hnoted : (w.noteVersion i raw).sessions i
      = { w.sessions i with currentReqVersion := raw.headD 0 } := by
    simp [World.noteVersion]
  unfold World.handleFrame
  simp only [h.header, h.type]
  show (w.noteVersion i raw).handleDiagnostic cfg i (payload raw) = _
  unfold World.handleDiagnostic
  dsimp only
  rw [hnoted, if_neg hlen, if_neg hsource, if_neg htarget, if_neg hsize]
  unfold World.acknowledge
  rw [hnoted]
  rfl

/-- Without hooks, a frame and an activation that is not overridden are two
steps of the world. -/
theorem handleFrame_without_hooks :
    handleFrame (DoipDispatcher.new []) cfg i raw s = .ok { s with
      world :=
        if AsksActivation raw then
          (s.world.handleFrame cfg i raw).handleRoutingActivation cfg i
            (activationRequestOf raw).sourceAddr (activationRequestOf raw).activationType none
        else s.world.handleFrame cfg i raw } := by
  have hnew : DoipDispatcher.new ([] : List (DoipPlugin (HookedWorld τ))) = ⟨[], [], [], []⟩ := by
    unfold DoipDispatcher.new
    rw [show doipRegistered ([] : List (DoipPlugin (HookedWorld τ)))
        DoipHookEntry.routingActivation? = [] from rfl,
      show doipRegistered ([] : List (DoipPlugin (HookedWorld τ)))
        DoipHookEntry.diagnosticAck? = [] from rfl,
      show doipRegistered ([] : List (DoipPlugin (HookedWorld τ)))
        DoipHookEntry.frameRx? = [] from rfl,
      show doipRegistered ([] : List (DoipPlugin (HookedWorld τ)))
        DoipHookEntry.frameTx? = [] from rfl,
      Ladder.sortBy_nil, Ladder.sortBy_nil, Ladder.sortBy_nil]
  have hfits : Fits (⟨[], [], [], []⟩ : DoipDispatcher (HookedWorld τ)) cfg i raw s := by
    constructor
    · intro _ v hv
      cases hv
    · intro _ v hv
      cases hv
  rw [hnew, answered_of_fits hfits]
  unfold documented
  dsimp only
  by_cases hasks : AsksActivation raw
  · rw [if_pos hasks, if_pos hasks]
    unfold World.handleFrame
    simp only [hasks.1, hasks.2.1, if_neg (Nat.not_lt.mpr hasks.2.2)]
    rfl
  rw [if_neg hasks, if_neg hasks]
  by_cases hadmitted : Admitted cfg (s.world.sessions i) raw
  · rw [handleFrame_acknowledge hadmitted]
    exact congrArg Except.ok (if_pos hadmitted)
  · exact congrArg Except.ok (if_neg hadmitted)

variable (plugins : List (DoipPlugin (HookedWorld τ))) (cfg i raw s)

/-- **A frame is isolated from the hooks exactly when the decision they are
asked for, if they take one, can be packed into one byte.** -/
theorem hook_isolation :
    Isolated (DoipDispatcher.new plugins) cfg i raw s
      ↔ Fits (DoipDispatcher.new plugins) cfg i raw s := by
  constructor
  · intro h
    by_contra hno
    obtain ⟨t, ht⟩ := raises_of_not_fits hno
    rw [h.answered] at ht
    cases ht
  · intro h
    exact ⟨answered_of_fits h, frameSent_world, frameSent_reads⟩

/-- Else the connection is torn down. -/
theorem runFrame_of_not_fits (h : ¬ Fits (DoipDispatcher.new plugins) cfg i raw s) :
    ((runFrame (DoipDispatcher.new plugins) cfg i raw s).world.sessions i).pump
      = .stoppingSupervisor := by
  obtain ⟨t, ht⟩ := raises_of_not_fits h
  unfold runFrame
  rw [ht]
  simp [World.leaveLoop, World.setPump]

/-- A plugin that takes one decision, always. -/
def stubborn (value : HookValue) : DoipPlugin (HookedWorld Unit) where
  name := "Stubborn"
  loadIndex := 0
  hooks :=
    [.routingActivation none fun _ _ s => (s, .returned value),
      .diagnosticAck none fun _ _ s => (s, .returned value)]

theorem new_stubborn (value : HookValue) :
    DoipDispatcher.new [stubborn value]
      = ⟨[⟨100, 0, "Stubborn", fun _ _ s => (s, .returned value)⟩],
          [⟨100, 0, "Stubborn", fun _ _ s => (s, .returned value)⟩], [], []⟩ := by
  unfold DoipDispatcher.new
  rw [show doipRegistered [stubborn value] DoipHookEntry.frameRx? = [] from rfl,
    show doipRegistered [stubborn value] DoipHookEntry.frameTx? = [] from rfl,
    Ladder.sortBy_nil]
  exact congrArg₂ (DoipDispatcher.mk · · [] []) (Ladder.sortBy_singleton _ _)
    (Ladder.sortBy_singleton _ _)

/-- The tester 0x0E80 activates. -/
def activationFrame : Bytes := buildFrame ptRoutingActRequest [0x0E, 0x80, 0, 0, 0, 0, 0] ver

/-- It sends a TesterPresent. -/
def diagnosticFrame : Bytes := buildFrame ptDiagnosticMessage [0x0E, 0x80, 0, 3, 0x3E, 0] ver

/-- A socket that it has activated. -/
def activatedWorld : World :=
  (World.init {}).set 0 { activated := true, testerAddr := some 0x0E80 }

/-- A denial code of 300, a string for a denial code, and a NACK code of 300. -/
theorem stubborn_not_isolated :
    ¬ Isolated (DoipDispatcher.new [stubborn (.ofInt 300)]) {} 0 activationFrame
        ⟨World.init {}, ()⟩
      ∧ ¬ Isolated (DoipDispatcher.new [stubborn (.object none none)]) {} 0 activationFrame
        ⟨World.init {}, ()⟩
      ∧ ¬ Isolated (DoipDispatcher.new [stubborn (.ofInt 300)]) {} 0 diagnosticFrame
        ⟨activatedWorld, ()⟩ := by
  rw [new_stubborn, new_stubborn]
  have hasks : AsksActivation activationFrame := by decide
  have hadmitted : Admitted {} (activatedWorld.sessions 0) diagnosticFrame := by decide
  refine ⟨fun h => ?_, fun h => ?_, fun h => ?_⟩
  · have herror := h.answered
    rw [handleFrame_of_asksActivation hasks] at herror
    cases herror
  · have herror := h.answered
    rw [handleFrame_of_asksActivation hasks] at herror
    cases herror
  · have herror := h.answered
    rw [handleFrame_of_admitted hadmitted] at herror
    cases herror

end HookedWorld

end DoipPlayground.VirtualEcu
