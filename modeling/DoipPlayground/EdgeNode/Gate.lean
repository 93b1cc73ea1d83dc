/-
  DoipPlayground.EdgeNode.Gate
  ────────────────────────────
  **THE FORWARDING GATE OF ONE CONNECTION** (`session.py`: `_session_loop`,
  `_dispatch`, `_handle_routing_activation`, `_handle_diagnostic`).

  The reader is that of `Framing`; `Handler` says where the handler of its
  frame is suspended.  What the registry, the middleware chain and the ECUs
  decide is an event.

    • `Deed` — what counts: dispatches, activation responses, and what only
      an activated tester may cause,
    • `Cleared` — the frame is a Diagnostic Message of the activated tester,
    • `Violates` — the frame has to end the session,
    • `forwarding_gate` — in every run, only cleared frames are served, and
      nothing is dispatched after a violation.
-/
import DoipPlayground.EdgeNode.Framing
import DoipPlayground.EdgeNode.Session

namespace DoipPlayground.EdgeNode.Gate

open Wire Framing

/-! ## §1. Packets. -/

/-- What the session uses of Scapy's `DoIP`. -/
structure Scapy (π : Type) where
  /-- `DoIP(raw)` -/
  dissect : Bytes → π
  /-- `bytes(pkt)` -/
  bytes : π → Bytes
  payloadType : π → Option Nat
  sourceAddress : π → Option Nat
  activationType : π → Option Nat

/-- Two address bytes behind the header. -/
def sourceOf (raw : Bytes) : SA := fromBytes ((raw.drop 8).take 2)

/-- The byte behind the source address of a Routing Activation Request. -/
def activationTypeOf (raw : Bytes) : Nat := ((raw.drop 10).headD 0).toNat

/-- Packets keep their bytes, and their fields are where the wire has them. -/
structure Scapy.Faithful {π : Type} (scapy : Scapy π) : Prop where
  bytes_dissect : ∀ raw, scapy.bytes (scapy.dissect raw) = raw
  payloadType_dissect : ∀ raw, IsFrame raw →
    scapy.payloadType (scapy.dissect raw) = some (ptype raw)
  activation_dissect : ∀ raw, IsFrame raw → ptype raw = ptRoutingActivationRequest →
    7 ≤ payloadLen raw →
      scapy.sourceAddress (scapy.dissect raw) = some (sourceOf raw)
        ∧ scapy.activationType (scapy.dissect raw) = some (activationTypeOf raw)

/-! ## §2. The connection. -/

structure Config where
  doip : DoIPConfig
  nodeLogicalAddr : Nat
  maxPayloadBytes : Nat
  /-- The ECU addresses of the routing table. -/
  routes : List Nat
  deriving Repr

/-- What follows a send of the handler. -/
inductive AfterSend where
  | return
  | raise
  deriving DecidableEq, Repr

/-- Where the handler of a frame is suspended. -/
inductive Handler where
  | idle
  /-- `await asyncio.sleep(0)` after a Header NACK of the tester. -/
  | sleeping
  | sending (next : AfterSend)
  /-- The activation lock, the conflict check, the capacity check. -/
  | activating (srcAddr : SA)
  /-- The send of response code 0x10. -/
  | confirming
  /-- The send of the Positive ACK of a self-diagnostic. -/
  | acking (raw : Bytes)
  /-- `await self.middleware_chain.run(pkt, "tester_to_ecu", self)` -/
  | running (raw : Bytes)
  /-- `await self._retire_ecu_connection(...)` -/
  | retiring (raw : Bytes) (target : Nat)
  /-- `await self._connect_to_ecu(...)` -/
  | connecting (raw : Bytes) (target : Nat)
  /-- `await self._exchange_with_ecu(...)` -/
  | exchanging (raw : Bytes) (target : Nat)
  deriving DecidableEq, Repr

/-- The Diagnostic Message that is being served. -/
def Handler.serves : Handler → Option Bytes
  | .acking raw | .running raw | .retiring raw _ | .connecting raw _ | .exchanging raw _ => some raw
  | _ => none

inductive Deed where
  /-- `_dispatch`, the session not closing. -/
  | dispatched (raw : Bytes)
  /-- `_send_routing_activation_response` -/
  | activationResponse (code : UInt8) (testerAddr : SA)
  /-- `MiddlewareChain.run` in the direction `tester_to_ecu`. -/
  | middleware (raw : Bytes)
  /-- An `ECUConnection` is opened while this request is served. -/
  | ecuConnect (raw : Bytes) (target : Nat)
  /-- `_handle_self_diagnostic` -/
  | selfDiagnostic (raw : Bytes)
  deriving DecidableEq, Repr

structure Connection where
  reader : Reader := {}
  activated : Bool := false
  testerLogicalAddr : Option SA := none
  /-- `_ecu_conns`, and whether the cached connection is connected. -/
  ecuConns : Nat → Option Bool := fun _ => none
  handler : Handler := .idle
  log : List Deed := []

namespace Connection

def note (c : Connection) (d : Deed) : Connection := { c with log := c.log ++ [d] }

/-- The handler returns to the loop. -/
def returns (c : Connection) : Connection := { c with reader := c.reader.loop, handler := .idle }

/-- `DoIPProtocolError` -/
def raises (c : Connection) : Connection :=
  { c with reader := { c.reader with point := .ended }, handler := .idle }

def sends (c : Connection) (next : AfterSend) : Connection := { c with handler := .sending next }

def sendRoutingActivationResponse (c : Connection) (code : UInt8) (testerAddr : SA) : Connection :=
  if c.reader.closing then c else c.note (.activationResponse code testerAddr)

/-- `_send_diag_nack`: without both addresses it becomes a Header NACK and a raise. -/
def sendDiagNack (c : Connection) (request : Bytes) (next : AfterSend) : Connection :=
  c.sends (if request.length < 12 then .raise else next)

/-! ## §3. Handlers. -/

variable {π : Type} (scapy : Scapy π) (cfg : Config)

/-- Up to the activation lock. -/
def handleRoutingActivation (c : Connection) (pkt : π) : Connection :=
  match scapy.sourceAddress pkt, scapy.activationType pkt with
  | some srcAddr, some activationType =>
      if c.activated ∧ c.testerLogicalAddr ≠ some srcAddr then
        (c.sendRoutingActivationResponse 0x02 srcAddr).sends .raise
      else if !cfg.doip.isTesterAllowed srcAddr then
        (c.sendRoutingActivationResponse 0x00 srcAddr).sends .raise
      else if activationType ≠ 0x00 ∧ activationType ≠ 0x01 then
        (c.sendRoutingActivationResponse 0x06 srcAddr).sends .raise
      else { c with handler := .activating srcAddr }
  | _, _ => (c.sendRoutingActivationResponse 0x00 0x0000).sends .raise

/-- The end of `_activate_with_conflict_check`. -/
def commitActivation (c : Connection) (srcAddr : SA) : Connection :=
  if c.reader.closing then c.raises
  else
    { { c with testerLogicalAddr := some srcAddr, activated := true }.sendRoutingActivationResponse
        0x10 srcAddr with handler := .confirming }

/-- `_connect_to_ecu` up to the connect. -/
def connectToEcu (c : Connection) (raw : Bytes) (target : Nat) : Connection :=
  if c.reader.closing then c.returns
  else if !cfg.routes.contains target then c.sendDiagNack raw .return
  else { c.note (.ecuConnect raw target) with handler := .connecting raw target }

/-- `_handle_diagnostic` up to its first await. -/
def handleDiagnostic (c : Connection) (pkt : π) : Connection :=
  let rawBytes := scapy.bytes pkt
  let source := if 10 ≤ rawBytes.length then some (sourceOf rawBytes) else none
  if source = none ∨ source ≠ c.testerLogicalAddr then c.sendDiagNack rawBytes .raise
  else if 12 ≤ rawBytes.length ∧ fromBytes ((rawBytes.drop 10).take 2) = cfg.nodeLogicalAddr then
    { c.note (.selfDiagnostic rawBytes) with handler := .acking rawBytes }
  else { c.note (.middleware rawBytes) with handler := .running rawBytes }

/-- `_handle_diagnostic` with the outcome of the middleware chain. -/
def forward (c : Connection) (raw : Bytes) (processed : Option Bytes) : Connection :=
  match processed with
  | none => c.returns
  | some processed =>
      if c.reader.closing then c.returns
      else if processed.length < 12 then c.sendDiagNack raw .return
      else
        let target := fromBytes ((processed.drop 10).take 2)
        match c.ecuConns target with
        | some true => { c with handler := .exchanging raw target }
        | some false => { c with handler := .retiring raw target }
        | none => c.connectToEcu cfg raw target

/-- `send_to_ecu`, called by a middleware while `raw` is served. -/
def sendToEcu (c : Connection) (raw : Bytes) (target : Nat) (connects : Bool) : Connection :=
  if c.reader.closing ∨ c.ecuConns target = some true ∨ !cfg.routes.contains target then c
  else
    { c.note (.ecuConnect raw target) with
      ecuConns := Function.update c.ecuConns target (if connects then some true else none) }

def dispatch (c : Connection) (pkt : π) : Connection :=
  if c.reader.closing then c.returns
  else
    let c := c.note (.dispatched (scapy.bytes pkt))
    match scapy.payloadType pkt with
    | none => c.sends .raise
    | some ptype =>
        if ptype = ptHeaderNack then c.returns
        else if ptype = ptAliveCheckRequest ∨ ptype = ptAliveCheckResponse then
          if c.activated = false then c.returns
          else
            let raw := scapy.bytes pkt
            let expected := if ptype = ptAliveCheckRequest then 0 else 2
            if raw.length ≠ 8 + expected ∨ payloadLen raw ≠ expected then c.sends .raise
            else c.returns
        else if ptype = ptRoutingActivationRequest then c.handleRoutingActivation scapy cfg pkt
        else if ptype = ptEntityStatusRequest ∨ ptype = ptPowerModeRequest then c.sends .return
        else if ptype = ptDiagnosticMessage ∧ c.activated = false then
          c.sendDiagNack (scapy.bytes pkt) .raise
        else if ptype = ptDiagnosticMessage then c.handleDiagnostic scapy cfg pkt
        else c.sends .return

/-- `_session_loop` with a frame. -/
def sessionLoop (c : Connection) (raw : Bytes) : Connection :=
  if ptype raw = ptHeaderNack then { c with handler := .sleeping }
  else if c.activated = false
      ∧ (ptype raw = ptAliveCheckRequest ∨ ptype raw = ptAliveCheckResponse) then c.returns
  else c.dispatch scapy cfg (scapy.dissect raw)

end Connection

/-! ## §4. Events and steps. -/

inductive Event where
  /-- The stream, the reader, a failure or `_closing`. -/
  | stream (e : Framing.Event)
  /-- What the handler sends is drained, or its sleep is over. -/
  | sent
  /-- The registry denies the activation: 0x03 for a live owner, 0x01 at capacity. -/
  | denied (code : UInt8)
  /-- Neither conflict nor capacity is in the way. -/
  | granted
  /-- The middleware chain returns. -/
  | processed (processed : Option Bytes)
  /-- It raises `DoIPFaultInjectionError`. -/
  | injected
  /-- A middleware injects a packet. -/
  | replayed (target : Nat) (connects : Bool)
  /-- A cached connection is lost. -/
  | ecuLost (target : Nat)
  /-- The lost connection is retired. -/
  | retired
  /-- The connect returns. -/
  | connected
  /-- The connect raises. -/
  | connectFailed
  /-- The exchange returns; `completed` keeps the connection. -/
  | exchanged (completed : Bool)
  deriving DecidableEq, Repr

section
variable {π : Type} (scapy : Scapy π) (cfg : Config)

/-- The handler runs to its next await. -/
def resume (c : Connection) : Handler → Event → Option Connection
  | .sleeping, .sent => some c.returns
  | .sending .return, .sent => some c.returns
  | .sending .raise, .sent => some c.raises
  | .activating srcAddr, .denied code =>
      if code = 0x03 ∨ code = 0x01 then
        some ((c.sendRoutingActivationResponse code srcAddr).sends .raise)
      else none
  | .activating srcAddr, .granted => some (c.commitActivation srcAddr)
  | .confirming, .sent => some (if c.reader.closing then c.raises else c.returns)
  | .acking _, .sent => some (c.sends .return)
  | .running raw, .processed processed => some (c.forward cfg raw processed)
  | .running raw, .injected => some (c.sendDiagNack raw .return)
  | .running raw, .replayed target connects | .exchanging raw _, .replayed target connects =>
      some (c.sendToEcu cfg raw target connects)
  | .retiring raw target, .retired =>
      some ({ c with ecuConns := Function.update c.ecuConns target none }.connectToEcu
        cfg raw target)
  | .connecting raw target, .connected =>
      if c.reader.closing then some c.returns
      else
        some { c with
          ecuConns := Function.update c.ecuConns target (some true)
          handler := .exchanging raw target }
  | .connecting raw _, .connectFailed =>
      some (if c.reader.closing then c.returns else c.sendDiagNack raw .return)
  | .exchanging _ target, .exchanged completed =>
      some { c with
        ecuConns :=
          if completed then c.ecuConns else Function.update c.ecuConns target none }.returns
  | _, _ => none

/-- One coroutine runs to its next await. -/
def step (c : Connection) : Event → Option Connection
  | .stream .handled => none
  | .stream .read =>
      (Framing.step cfg.maxPayloadBytes c.reader .read).map fun reader =>
        match reader.point with
        | .handling raw => { c with reader }.sessionLoop scapy cfg raw
        | _ => { c with reader }
  | .stream e => (Framing.step cfg.maxPayloadBytes c.reader e).map ({ c with reader := · })
  | .ecuLost target =>
      some { c with
        ecuConns := Function.update c.ecuConns target
          ((c.ecuConns target).map fun _ => false) }
  | e =>
      match c.reader.point with
      | .handling _ => resume cfg c c.handler e
      | _ => none

end

/-! ## §5. What only an activated tester may cause. -/

/-- The tester the socket was last activated for. -/
def registered (log : List Deed) : Option SA :=
  log.foldl (fun sa d =>
    match d with
    | .activationResponse code testerAddr => if code = 0x10 then some testerAddr else sa
    | _ => sa) none

/-- The frame is a Diagnostic Message from a tester that this socket has
confirmed to, complete and dispatched. -/
structure Cleared (before : List Deed) (raw : Bytes) : Prop where
  frame : IsFrame raw
  type : ptype raw = ptDiagnosticMessage
  dispatched : .dispatched raw ∈ before
  activated : .activationResponse 0x10 (sourceOf raw) ∈ before

/-- The frame has to end the session. -/
inductive Violates (cfg : Config) (tester : Option SA) (raw : Bytes) : Prop
  | diagnostic (htype : ptype raw = ptDiagnosticMessage) (h : tester ≠ some (sourceOf raw))
  | differentAddr (htype : ptype raw = ptRoutingActivationRequest) {sa : SA}
      (hsa : tester = some sa) (h : sourceOf raw ≠ sa)
  | disallowedAddr (htype : ptype raw = ptRoutingActivationRequest)
      (h : cfg.doip.isTesterAllowed (sourceOf raw) = false)
  | unsupportedType (htype : ptype raw = ptRoutingActivationRequest)
      (h : activationTypeOf raw ≠ 0x00 ∧ activationTypeOf raw ≠ 0x01)

/-- A frame that has to end the session was dispatched. -/
def Violated (cfg : Config) (log : List Deed) : Prop :=
  ∃ before raw after, log = before ++ .dispatched raw :: after
    ∧ Violates cfg (registered before) raw

/-- The deed goes with those before it. -/
def Admissible (cfg : Config) (before : List Deed) : Deed → Prop
  | .dispatched raw => IsFrame raw ∧ ¬ Violated cfg before
  | .activationResponse code _ => code = 0x10 → ¬ Violated cfg before
  | .middleware raw | .ecuConnect raw _ | .selfDiagnostic raw =>
      Cleared before raw ∧ ¬ Violated cfg before

/-! ## §6. Records with one more deed. -/

variable {π : Type} {scapy : Scapy π} {cfg : Config} {log : List Deed} {c : Connection}

theorem registered_snoc (log : List Deed) (d : Deed) : registered (log ++ [d]) =
    match d with
    | .activationResponse code testerAddr =>
        if code = 0x10 then some testerAddr else registered log
    | _ => registered log := by
  unfold registered
  rw [List.foldl_append]
  cases d <;> rfl

/-- The tester was confirmed to. -/
theorem mem_of_registered {sa : SA} (h : registered log = some sa) :
    .activationResponse 0x10 sa ∈ log := by
  induction log using List.reverseRecOn with
  | nil => cases h
  | append_singleton log d ih =>
      rw [registered_snoc] at h
      cases d with
      | activationResponse code testerAddr =>
          by_cases hcode : code = 0x10
          · simp only [hcode, if_true, Option.some.injEq] at h
            rw [hcode, h]
            exact List.mem_append_right _ (List.mem_singleton.mpr rfl)
          · simp only [hcode, if_false] at h
            exact List.mem_append_left _ (ih h)
      | dispatched raw | middleware raw | selfDiagnostic raw | ecuConnect raw target =>
          exact List.mem_append_left _ (ih h)

theorem not_violated_nil : ¬ Violated cfg [] := by
  rintro ⟨before, raw, after, hsplit, _⟩
  exact absurd hsplit.symm (by simp)

/-- A violation lies further back, or is the last deed. -/
theorem Violated.of_snoc {d : Deed} (h : Violated cfg (log ++ [d])) :
    Violated cfg log ∨ ∃ raw, d = .dispatched raw ∧ Violates cfg (registered log) raw := by
  obtain ⟨before, raw, after, hsplit, hviolates⟩ := h
  rcases List.eq_nil_or_concat after with rfl | ⟨after, d', rfl⟩
  · obtain ⟨rfl, hd⟩ := List.append_inj' hsplit rfl
    exact .inr ⟨raw, List.singleton_injective hd, hviolates⟩
  · rw [List.concat_eq_append, ← List.cons_append, ← List.append_assoc] at hsplit
    exact .inl ⟨before, raw, after, (List.append_inj' hsplit rfl).1, hviolates⟩

/-- Only a dispatch can be a violation. -/
theorem clean_snoc (h : ¬ Violated cfg log) {d : Deed} (hd : ∀ raw, d ≠ .dispatched raw) :
    ¬ Violated cfg (log ++ [d]) := by
  intro hv
  rcases hv.of_snoc with hv | ⟨raw, heq, _⟩
  · exact h hv
  · exact hd raw heq

theorem Cleared.snoc {raw : Bytes} (h : Cleared log raw) (d : Deed) : Cleared (log ++ [d]) raw :=
  ⟨h.frame, h.type, List.mem_append_left _ h.dispatched, List.mem_append_left _ h.activated⟩

/-! ## §7. The invariant. -/

/-- What holds of the record, wherever the handler is. -/
structure Base (cfg : Config) (c : Connection) : Prop where
  chronicle : Transition.Chronicle (Admissible cfg) c.log
  registered : registered c.log = c.testerLogicalAddr
  activated : c.activated = c.testerLogicalAddr.isSome
  sound : c.reader.Sound cfg.maxPayloadBytes
  seen : ∀ raw, .dispatched raw ∈ c.log → .frame raw ∈ c.reader.trace

/-- The session ends without another look at the stream. -/
def Connection.Terminates (c : Connection) : Prop :=
  c.reader.point = .ended ∨ ((∃ raw, c.reader.point = .handling raw) ∧ c.handler = .sending .raise)

structure Inv (cfg : Config) (c : Connection) : Prop where
  base : Base cfg c
  violated : Violated cfg c.log → c.Terminates
  serves : ∀ raw, c.handler.serves = some raw → Cleared c.log raw

namespace Base

/-- Only the handler and the cached connections have changed. -/
theorem of_eq (h : Base cfg c) {c' : Connection} (hlog : c'.log = c.log)
    (hactivated : c'.activated = c.activated)
    (haddr : c'.testerLogicalAddr = c.testerLogicalAddr) (hreader : c'.reader = c.reader) :
    Base cfg c' := by
  obtain ⟨hchronicle, hregistered, hact, hsound, hseen⟩ := h
  refine ⟨?_, ?_, ?_, ?_, ?_⟩
  · rw [hlog]
    exact hchronicle
  · rw [hlog, haddr]
    exact hregistered
  · rw [hactivated, haddr]
    exact hact
  · rw [hreader]
    exact hsound
  · rw [hlog, hreader]
    exact hseen

/-- One more deed that is neither a dispatch nor a confirmation. -/
theorem note (h : Base cfg c) {d : Deed} (hd : Admissible cfg c.log d)
    (hdispatched : ∀ raw, d ≠ .dispatched raw) (hconfirms : ∀ sa, d ≠ .activationResponse 0x10 sa) :
    Base cfg (c.note d) := by
  refine ⟨h.chronicle.snoc hd, ?_, h.activated, h.sound, fun raw hmem => ?_⟩
  · show Gate.registered (c.log ++ [d]) = c.testerLogicalAddr
    rw [registered_snoc, ← h.registered]
    cases d with
    | activationResponse code sa =>
        dsimp only
        rw [if_neg]
        rintro rfl
        exact hconfirms sa rfl
    | dispatched raw | middleware raw | selfDiagnostic raw | ecuConnect raw target => rfl
  · rcases List.mem_append.mp hmem with hmem | hmem
    · exact h.seen raw hmem
    · exact absurd (List.mem_singleton.mp hmem).symm (hdispatched raw)

/-- The handler is done, one way or the other. -/
theorem returns (h : Base cfg c) : Base cfg c.returns :=
  ⟨h.chronicle, h.registered, h.activated, .loop c.reader, h.seen⟩

theorem raises (h : Base cfg c) : Base cfg c.raises :=
  ⟨h.chronicle, h.registered, h.activated, .of_point nofun nofun, h.seen⟩

end Base

namespace Inv

theorem of_clean (h : Base cfg c) (hclean : ¬ Violated cfg c.log)
    (hserves : ∀ raw, c.handler.serves = some raw → Cleared c.log raw) : Inv cfg c :=
  ⟨h, fun hviolated => absurd hviolated hclean, hserves⟩

theorem returns (h : Base cfg c) (hclean : ¬ Violated cfg c.log) : Inv cfg c.returns :=
  of_clean h.returns hclean nofun

theorem raises (h : Base cfg c) : Inv cfg c.raises := ⟨h.raises, fun _ => .inl rfl, nofun⟩

/-- A send, after which the handler raises or, with a clean record, returns. -/
theorem sends (h : Base cfg c) {raw : Bytes} (hpoint : c.reader.point = .handling raw)
    {next : AfterSend} (hnext : next = .raise ∨ ¬ Violated cfg c.log) : Inv cfg (c.sends next) := by
  refine ⟨h.of_eq rfl rfl rfl rfl, fun hviolated => ?_, nofun⟩
  rcases hnext with rfl | hclean
  · exact .inr ⟨⟨raw, hpoint⟩, rfl⟩
  · exact absurd hviolated hclean

theorem sendDiagNack (h : Base cfg c) {raw : Bytes} (hpoint : c.reader.point = .handling raw)
    (request : Bytes) {next : AfterSend} (hnext : next = .raise ∨ ¬ Violated cfg c.log) :
    Inv cfg (c.sendDiagNack request next) := by
  unfold Connection.sendDiagNack
  split
  · exact sends h hpoint (.inl rfl)
  · exact sends h hpoint hnext

/-- A denial, and then the raise. -/
theorem denies (h : Base cfg c) {raw : Bytes} (hpoint : c.reader.point = .handling raw)
    {code : UInt8} (hcode : code ≠ 0x10) (testerAddr : SA) :
    Inv cfg ((c.sendRoutingActivationResponse code testerAddr).sends .raise) := by
  unfold Connection.sendRoutingActivationResponse
  split
  · exact sends h hpoint (.inl rfl)
  · have hdenial : Admissible cfg c.log (.activationResponse code testerAddr) :=
      fun h => absurd h hcode
    have hbase : Base cfg (c.note (.activationResponse code testerAddr)) := by
      refine h.note hdenial nofun (fun sa heq => ?_)
      cases heq
      exact hcode rfl
    exact sends hbase hpoint (.inl rfl)

end Inv

/-! ## §8. The handlers keep the invariant. -/

section
variable {raw : Bytes}

/-- `_handle_diagnostic`: a message of the activated tester is served, any
other ends the session. -/
theorem handleDiagnostic_inv (h : Base cfg c) {raw' : Bytes}
    (hpoint : c.reader.point = .handling raw') {pkt : π} (hbytes : scapy.bytes pkt = raw)
    (hframe : IsFrame raw) (htype : ptype raw = ptDiagnosticMessage)
    (hdispatched : .dispatched raw ∈ c.log)
    (hviolated : Violated cfg c.log → c.testerLogicalAddr ≠ some (sourceOf raw)) :
    Inv cfg (c.handleDiagnostic scapy cfg pkt) := by
  unfold Connection.handleDiagnostic
  rw [hbytes]
  dsimp only
  by_cases hmatch : 10 ≤ raw.length ∧ c.testerLogicalAddr = some (sourceOf raw)
  case neg =>
    have hrefused : (if 10 ≤ raw.length then some (sourceOf raw) else none) = none
        ∨ (if 10 ≤ raw.length then some (sourceOf raw) else none) ≠ c.testerLogicalAddr := by
      by_cases h10 : 10 ≤ raw.length
      · rw [if_pos h10]
        exact .inr (fun heq => hmatch ⟨h10, heq.symm⟩)
      · rw [if_neg h10]
        exact .inl rfl
    rw [if_pos hrefused]
    exact .sendDiagNack h hpoint _ (.inl rfl)
  obtain ⟨h10, haddr⟩ := hmatch
  rw [if_pos h10, haddr, if_neg (by simp)]
  have hclean : ¬ Violated cfg c.log := fun hv => hviolated hv haddr
  have hcleared : Cleared c.log raw :=
    ⟨hframe, htype, hdispatched, mem_of_registered (h.registered.trans haddr)⟩
  split
  · have hbase : Base cfg (c.note (.selfDiagnostic raw)) :=
      h.note ⟨hcleared, hclean⟩ nofun nofun
    refine .of_clean (hbase.of_eq rfl rfl rfl rfl) (clean_snoc hclean nofun)
      (fun raw'' hserves => ?_)
    cases hserves
    exact hcleared.snoc _
  · have hbase : Base cfg (c.note (.middleware raw)) := h.note ⟨hcleared, hclean⟩ nofun nofun
    refine .of_clean (hbase.of_eq rfl rfl rfl rfl) (clean_snoc hclean nofun)
      (fun raw'' hserves => ?_)
    cases hserves
    exact hcleared.snoc _

/-- A clean record with a dispatch is violated by that frame, if at all. -/
theorem violates_of_dispatched (hclean : ¬ Violated cfg log)
    (h : Violated cfg (log ++ [.dispatched raw])) : Violates cfg (registered log) raw := by
  rcases h.of_snoc with h | ⟨raw', heq, h⟩
  · exact absurd h hclean
  · cases heq
    exact h

theorem Base.dispatched (h : Base cfg c) (hframe : IsFrame raw) (hclean : ¬ Violated cfg c.log)
    (hseen : .frame raw ∈ c.reader.trace) : Base cfg (c.note (.dispatched raw)) := by
  have hadmissible : Admissible cfg c.log (.dispatched raw) := ⟨hframe, hclean⟩
  refine ⟨h.chronicle.snoc hadmissible, ?_, h.activated, h.sound, fun raw' hmem => ?_⟩
  · show Gate.registered (c.log ++ [.dispatched raw]) = c.testerLogicalAddr
    rw [registered_snoc]
    exact h.registered
  · rcases List.mem_append.mp hmem with hmem | hmem
    · exact h.seen raw' hmem
    · cases List.mem_singleton.mp hmem
      exact hseen

/-- Frames of the other types never end the session. -/
theorem Violates.type {sa : Option SA} (h : Violates cfg sa raw) :
    ptype raw = ptDiagnosticMessage ∨ ptype raw = ptRoutingActivationRequest := by
  cases h with
  | diagnostic htype | differentAddr htype | disallowedAddr htype | unsupportedType htype =>
      first
        | exact .inl htype
        | exact .inr htype

theorem ptype_take (raw : Bytes) : ptype (raw.take 8) = ptype raw := by
  unfold ptype
  rw [List.drop_take, List.take_take]
  rfl

/-- A Routing Activation Request has its fields. -/
theorem seven_le_payloadLen (h : Accepts cfg.maxPayloadBytes (raw.take 8))
    (htype : ptype raw = ptRoutingActivationRequest) : 7 ≤ payloadLen raw := by
  have hfits := h.length
  unfold LengthFits at hfits
  rw [ptype_take, payloadLen_take, htype] at hfits
  unfold ptRoutingActivationRequest at hfits
  omega

/-- `_handle_routing_activation`: an activation is under way only where
nothing is violated. -/
theorem handleRoutingActivation_inv (h : Base cfg c) {raw' : Bytes}
    (hpoint : c.reader.point = .handling raw') {pkt : π}
    (hsource : scapy.sourceAddress pkt = some (sourceOf raw))
    (htype : scapy.activationType pkt = some (activationTypeOf raw))
    (hactivation : ptype raw = ptRoutingActivationRequest)
    (hviolated : Violated cfg c.log → Violates cfg c.testerLogicalAddr raw) :
    Inv cfg (c.handleRoutingActivation scapy cfg pkt) := by
  unfold Connection.handleRoutingActivation
  rw [hsource, htype]
  dsimp only
  split
  · exact .denies h hpoint (by decide) _
  rename_i hsame
  split
  · exact .denies h hpoint (by decide) _
  rename_i hallowed
  split
  · exact .denies h hpoint (by decide) _
  rename_i hsupported
  refine .of_clean (h.of_eq rfl rfl rfl rfl) (fun hv => ?_) nofun
  cases hviolated hv with
  | diagnostic hdiagnostic _ =>
      rw [hactivation] at hdiagnostic
      cases hdiagnostic
  | differentAddr _ hsa hne =>
      refine hsame ⟨?_, ?_⟩
      · rw [h.activated, hsa]
        rfl
      · rw [hsa]
        exact fun heq => hne (Option.some.inj heq).symm
  | disallowedAddr _ hdisallowed => exact hallowed (by rw [hdisallowed]; rfl)
  | unsupportedType _ hunsupported => exact hsupported hunsupported

/-- `_dispatch` of a frame while nothing is violated. -/
theorem dispatch_inv (hs : scapy.Faithful) (h : Base cfg c) (hclean : ¬ Violated cfg c.log)
    (hpoint : c.reader.point = .handling raw) :
    Inv cfg (c.dispatch scapy cfg (scapy.dissect raw)) := by
  obtain ⟨hframe, haccepts, hseen⟩ := h.sound.handling raw hpoint
  have hbase : Base cfg (c.note (.dispatched raw)) := h.dispatched hframe hclean hseen
  have hviolates : Violated cfg (c.note (.dispatched raw)).log →
      Violates cfg c.testerLogicalAddr raw := by
    intro hv
    rw [← h.registered]
    exact violates_of_dispatched hclean hv
  have hother : ptype raw ≠ ptDiagnosticMessage → ptype raw ≠ ptRoutingActivationRequest →
      ¬ Violated cfg (c.note (.dispatched raw)).log := by
    intro hdiagnostic hactivation hv
    cases (hviolates hv).type with
    | inl htype => exact hdiagnostic htype
    | inr htype => exact hactivation htype
  unfold Connection.dispatch
  rw [hs.bytes_dissect, hs.payloadType_dissect raw hframe]
  dsimp only
  -- only a Routing Activation Request and a Diagnostic Message can violate anything
  split
  · exact .returns h hclean
  split
  · rename_i htype
    exact .returns hbase (hother (by rw [htype]; decide) (by rw [htype]; decide))
  split
  · rename_i htype
    have hquiet : ¬ Violated cfg (c.note (.dispatched raw)).log := by
      rcases htype with htype | htype
      · exact hother (by rw [htype]; decide) (by rw [htype]; decide)
      · exact hother (by rw [htype]; decide) (by rw [htype]; decide)
    split
    · exact .returns hbase hquiet
    generalize (if ptype raw = ptAliveCheckRequest then 0 else 2) = expected
    split
    · exact .sends hbase hpoint (.inl rfl)
    · exact .returns hbase hquiet
  split
  · rename_i htype
    obtain ⟨hsource, hactivation⟩ :=
      hs.activation_dissect raw hframe htype (seven_le_payloadLen haccepts htype)
    exact handleRoutingActivation_inv hbase hpoint hsource hactivation htype hviolates
  rename_i hactivation
  split
  · rename_i htype
    refine .sends hbase hpoint (.inr (hother ?_ hactivation))
    rcases htype with htype | htype
    · rw [htype]
      decide
    · rw [htype]
      decide
  split
  · exact .sendDiagNack hbase hpoint _ (.inl rfl)
  split
  · rename_i htype
    refine handleDiagnostic_inv hbase hpoint (hs.bytes_dissect raw) hframe htype
      (List.mem_append_right _ (List.mem_singleton.mpr rfl)) (fun hv => ?_)
    cases hviolates hv with
    | diagnostic _ hne => exact hne
    | differentAddr hactivation' _ _ | disallowedAddr hactivation' _
    | unsupportedType hactivation' _ => exact absurd hactivation' hactivation
  · rename_i hdiagnostic
    exact .sends hbase hpoint (.inr (hother hdiagnostic hactivation))

/-- `_session_loop` with a frame while nothing is violated. -/
theorem sessionLoop_inv (hs : scapy.Faithful) (h : Base cfg c) (hclean : ¬ Violated cfg c.log)
    (hpoint : c.reader.point = .handling raw) : Inv cfg (c.sessionLoop scapy cfg raw) := by
  unfold Connection.sessionLoop
  split
  · exact .of_clean (h.of_eq rfl rfl rfl rfl) hclean nofun
  split
  · exact .returns h hclean
  · exact dispatch_inv hs h hclean hpoint

/-- `_connect_to_ecu`, for a cleared request. -/
theorem connectToEcu_inv (h : Base cfg c) {raw' : Bytes} (hpoint : c.reader.point = .handling raw')
    (hclean : ¬ Violated cfg c.log) (hcleared : Cleared c.log raw) (target : Nat) :
    Inv cfg (c.connectToEcu cfg raw target) := by
  unfold Connection.connectToEcu
  split
  · exact .returns h hclean
  split
  · exact .sendDiagNack h hpoint _ (.inr hclean)
  · have hbase : Base cfg (c.note (.ecuConnect raw target)) :=
      h.note ⟨hcleared, hclean⟩ nofun nofun
    refine .of_clean (hbase.of_eq rfl rfl rfl rfl) (clean_snoc hclean nofun)
      (fun raw'' hserves => ?_)
    cases hserves
    exact hcleared.snoc _

theorem sendToEcu_inv (h : Inv cfg c) (hclean : ¬ Violated cfg c.log)
    (hcleared : Cleared c.log raw) (target : Nat) (connects : Bool) :
    Inv cfg (c.sendToEcu cfg raw target connects) := by
  unfold Connection.sendToEcu
  split
  · exact h
  · have hbase : Base cfg (c.note (.ecuConnect raw target)) :=
      h.base.note ⟨hcleared, hclean⟩ nofun nofun
    exact .of_clean (hbase.of_eq rfl rfl rfl rfl) (clean_snoc hclean nofun)
      (fun raw'' hserves => (h.serves raw'' hserves).snoc _)

/-- `_handle_diagnostic` behind the middleware chain. -/
theorem forward_inv (h : Base cfg c) {raw' : Bytes} (hpoint : c.reader.point = .handling raw')
    (hclean : ¬ Violated cfg c.log) (hcleared : Cleared c.log raw) (processed : Option Bytes) :
    Inv cfg (c.forward cfg raw processed) := by
  unfold Connection.forward
  split
  · exact .returns h hclean
  split
  · exact .returns h hclean
  split
  · exact .sendDiagNack h hpoint _ (.inr hclean)
  dsimp only
  split
  · refine .of_clean (h.of_eq rfl rfl rfl rfl) hclean (fun raw'' hserves => ?_)
    cases hserves
    exact hcleared
  · refine .of_clean (h.of_eq rfl rfl rfl rfl) hclean (fun raw'' hserves => ?_)
    cases hserves
    exact hcleared
  · exact connectToEcu_inv h hpoint hclean hcleared _

/-- The registry has let the activation through. -/
theorem commitActivation_inv (h : Base cfg c) (hclean : ¬ Violated cfg c.log) (srcAddr : SA) :
    Inv cfg (c.commitActivation srcAddr) := by
  unfold Connection.commitActivation
  split
  · exact .raises h
  rename_i hclosing
  unfold Connection.sendRoutingActivationResponse
  rw [if_neg hclosing]
  have hadmissible : Admissible cfg c.log (.activationResponse 0x10 srcAddr) := fun _ => hclean
  refine .of_clean ⟨h.chronicle.snoc hadmissible, ?_, rfl, h.sound, fun raw hmem => ?_⟩
    (clean_snoc hclean nofun) nofun
  · show registered (c.log ++ [.activationResponse 0x10 srcAddr]) = some srcAddr
    rw [registered_snoc]
    rfl
  · rcases List.mem_append.mp hmem with hmem | hmem
    · exact h.seen raw hmem
    · cases List.mem_singleton.mp hmem

/-- Every await of a handler ends with the invariant. -/
theorem resume_inv (h : Inv cfg c) (hpoint : c.reader.point = .handling raw) {e : Event}
    {c' : Connection} (hstep : resume cfg c c.handler e = some c') : Inv cfg c' := by
  -- the log is clean at every await but the last send of a handler that raises
  have hclean : ∀ {handler}, c.handler = handler → handler ≠ .sending .raise →
      ¬ Violated cfg c.log := by
    intro handler hhandler hne hv
    rcases h.violated hv with hended | ⟨_, hraise⟩
    · rw [hpoint] at hended
      cases hended
    · exact hne (hhandler.symm.trans hraise)
  unfold resume at hstep
  split at hstep
  -- the loop goes on
  case h_1 hhandler =>
    cases hstep
    exact .returns h.base (hclean hhandler nofun)
  case h_2 hhandler =>
    cases hstep
    exact .returns h.base (hclean hhandler nofun)
  -- or ends
  case h_3 =>
    cases hstep
    exact .raises h.base
  -- the activation
  case h_4 code hhandler =>
    -- the two codes that deny are no acceptance
    split at hstep
    · rename_i hcode
      cases hstep
      refine .denies h.base hpoint ?_ _
      rcases hcode with rfl | rfl
      · decide
      · decide
    · cases hstep
  -- the registry accepted: the only way into the activated state
  case h_5 hhandler =>
    cases hstep
    exact commitActivation_inv h.base (hclean hhandler nofun) _
  case h_6 hhandler =>
    cases hstep
    -- confirmed: a session closed in the meantime is over
    split
    · exact .raises h.base
    · exact .returns h.base (hclean hhandler nofun)
  -- a cleared request on its way
  case h_7 hhandler =>
    cases hstep
    exact .sends h.base hpoint (.inr (hclean hhandler nofun))
  -- the middleware has returned what is to be forwarded
  case h_8 hhandler =>
    cases hstep
    exact forward_inv h.base hpoint (hclean hhandler nofun)
      (h.serves _ (by rw [hhandler]; rfl)) _
  case h_9 hhandler =>
    cases hstep
    exact .sendDiagNack h.base hpoint _ (.inr (hclean hhandler nofun))
  case h_10 hhandler =>
    cases hstep
    exact sendToEcu_inv h (hclean hhandler nofun)
      (h.serves _ (by rw [hhandler]; rfl)) _ _
  case h_11 hhandler =>
    cases hstep
    exact sendToEcu_inv h (hclean hhandler nofun)
      (h.serves _ (by rw [hhandler]; rfl)) _ _
  -- the old leg is retired, and a new one is opened for the cleared request
  case h_12 target hhandler =>
    cases hstep
    have hbase : Base cfg { c with ecuConns := Function.update c.ecuConns target none } :=
      h.base.of_eq rfl rfl rfl rfl
    exact connectToEcu_inv hbase hpoint (hclean hhandler nofun)
      (h.serves _ (by rw [hhandler]; rfl)) _
  case h_13 hhandler =>
    have hcleared := h.serves _ (by rw [hhandler]; rfl)
    -- the connect returned: nothing follows it in a session that closes, else the leg is up
    split at hstep
    · cases hstep
      exact .returns h.base (hclean hhandler nofun)
    · cases hstep
      refine .of_clean (h.base.of_eq rfl rfl rfl rfl) (hclean hhandler nofun)
        (fun raw'' hserves => ?_)
      cases hserves
      exact hcleared
  -- the connect failed, and the tester is told so unless the session closes
  case h_14 hhandler =>
    cases hstep
    split
    · exact .returns h.base (hclean hhandler nofun)
    · exact .sendDiagNack h.base hpoint _ (.inr (hclean hhandler nofun))
  case h_15 hhandler =>
    cases hstep
    exact .returns (h.base.of_eq rfl rfl rfl rfl) (hclean hhandler nofun)
  case h_16 => cases hstep

/-- The reader moves on its own. -/
theorem reader_inv (h : Inv cfg c) {e : Framing.Event} (he : e ≠ .handled) {reader : Reader}
    (hstep : Framing.step cfg.maxPayloadBytes c.reader e = some reader) :
    Inv cfg { c with reader } := by
  have hprefix : c.reader.trace <+: reader.trace := Reader.step_trace hstep
  refine ⟨⟨h.base.chronicle, h.base.registered, h.base.activated, h.base.sound.step hstep,
    fun raw hmem => hprefix.subset (h.base.seen raw hmem)⟩, fun hv => ?_, h.serves⟩
  rcases h.violated hv with hended | ⟨⟨raw, hpoint⟩, hraise⟩
  · exact .inl (Reader.step_ended hended hstep)
  · rcases Reader.step_handling hpoint he hstep with hpoint | hended
    · exact .inr ⟨⟨raw, hpoint⟩, hraise⟩
    · exact .inl hended

/-- A reader that reads is not about to end. -/
theorem clean_of_read (h : Inv cfg c) {reader : Reader}
    (hstep : Framing.step cfg.maxPayloadBytes c.reader .read = some reader) :
    ¬ Violated cfg c.log := by
  intro hv
  rcases h.violated hv with hpoint | ⟨⟨raw, hpoint⟩, _⟩
  · simp only [Framing.step, Reader.needs, hpoint] at hstep
    cases hstep
  · simp only [Framing.step, Reader.needs, hpoint] at hstep
    cases hstep

/-- **Every step keeps the invariant.** -/
theorem step_inv (hs : scapy.Faithful) (h : Inv cfg c) {e : Event} {c' : Connection}
    (hstep : step scapy cfg c e = some c') : Inv cfg c' := by
  unfold step at hstep
  split at hstep
  case h_1 => cases hstep
  case h_2 =>
    obtain ⟨reader, hread, heq⟩ := Option.map_eq_some_iff.mp hstep
    have hreader := reader_inv h (by decide) hread
    have hclean := clean_of_read h hread
    split at heq
    · rename_i raw hpoint
      subst heq
      exact sessionLoop_inv hs hreader.base hclean hpoint
    · subst heq
      exact hreader
  case h_3 hhandled _ =>
    obtain ⟨reader, hread, rfl⟩ := Option.map_eq_some_iff.mp hstep
    exact reader_inv h hhandled hread
  case h_4 target =>
    cases hstep
    exact ⟨h.base.of_eq rfl rfl rfl rfl, h.violated, h.serves⟩
  case h_5 =>
    split at hstep
    · rename_i raw hpoint
      exact resume_inv h hpoint hstep
    · cases hstep

end

/-! ## §9. The reader is that of the framing layer. -/

/-- The bytes that have arrived. -/
def arrived : List Event → Bytes
  | [] => []
  | .stream (.data bytes) :: es => bytes ++ arrived es
  | _ :: es => arrived es

/-- A handler leaves the reader alone, goes back to the loop or ends it. -/
def Moves (r r' : Reader) : Prop := r' = r ∨ r' = r.loop ∨ r' = { r with point := .ended }

namespace Moves

theorem sends (c : Connection) (next : AfterSend) : Moves c.reader (c.sends next).reader := .inl rfl

theorem returns (c : Connection) : Moves c.reader c.returns.reader := .inr (.inl rfl)

theorem raises (c : Connection) : Moves c.reader c.raises.reader := .inr (.inr rfl)

theorem sendRoutingActivationResponse (c : Connection) (code : UInt8) (testerAddr : SA) :
    (c.sendRoutingActivationResponse code testerAddr).reader = c.reader := by
  unfold Connection.sendRoutingActivationResponse
  split
  · rfl
  · rfl

theorem denies (c : Connection) (code : UInt8) (testerAddr : SA) :
    Moves c.reader ((c.sendRoutingActivationResponse code testerAddr).sends .raise).reader :=
  .inl (sendRoutingActivationResponse c code testerAddr)

theorem handleRoutingActivation (c : Connection) (pkt : π) :
    Moves c.reader (c.handleRoutingActivation scapy cfg pkt).reader := by
  unfold Connection.handleRoutingActivation
  split
  · split
    · exact denies c _ _
    split
    · exact denies c _ _
    split
    · exact denies c _ _
    · exact .inl rfl
  · exact denies c _ _

theorem handleDiagnostic (c : Connection) (pkt : π) :
    Moves c.reader (c.handleDiagnostic scapy cfg pkt).reader := by
  unfold Connection.handleDiagnostic
  dsimp only
  generalize (if 10 ≤ (scapy.bytes pkt).length then _ else _) = source
  split
  · exact sends c _
  split
  · exact .inl rfl
  · exact .inl rfl

theorem dispatch (c : Connection) (pkt : π) :
    Moves c.reader (c.dispatch scapy cfg pkt).reader := by
  unfold Connection.dispatch
  split
  · exact returns c
  dsimp only
  split
  · exact .inl rfl
  split
  · exact .inr (.inl rfl)
  split
  · split
    · exact .inr (.inl rfl)
    generalize (if _ = ptAliveCheckRequest then 0 else 2) = expected
    split
    · exact .inl rfl
    · exact .inr (.inl rfl)
  split
  · exact handleRoutingActivation (c.note _) pkt
  split
  · exact .inl rfl
  split
  · exact .inl rfl
  split
  · exact handleDiagnostic (c.note _) pkt
  · exact .inl rfl

theorem sessionLoop (c : Connection) (raw : Bytes) :
    Moves c.reader (c.sessionLoop scapy cfg raw).reader := by
  unfold Connection.sessionLoop
  split
  · exact .inl rfl
  split
  · exact returns c
  · exact dispatch c _

theorem connectToEcu (c : Connection) (raw : Bytes) (target : Nat) :
    Moves c.reader (c.connectToEcu cfg raw target).reader := by
  unfold Connection.connectToEcu
  split
  · exact returns c
  split
  · exact sends c _
  · exact .inl rfl

theorem forward (c : Connection) (raw : Bytes) (processed : Option Bytes) :
    Moves c.reader (c.forward cfg raw processed).reader := by
  unfold Connection.forward
  split
  · exact returns c
  split
  · exact returns c
  split
  · exact sends c _
  dsimp only
  split
  · exact .inl rfl
  · exact .inl rfl
  · exact connectToEcu c raw _

theorem resume {e : Event} {c' : Connection} (hstep : resume cfg c c.handler e = some c') :
    Moves c.reader c'.reader := by
  unfold Gate.resume at hstep
  split at hstep
  case h_4 =>
    split at hstep
    · cases hstep
      exact denies c _ _
    · cases hstep
  case h_5 =>
    cases hstep
    unfold Connection.commitActivation
    split
    · exact raises c
    · exact .inl (sendRoutingActivationResponse _ _ _)
  case h_6 =>
    cases hstep
    split
    · exact raises c
    · exact returns c
  case h_8 =>
    cases hstep
    exact forward c _ _
  case h_10 | h_11 =>
    cases hstep
    unfold Connection.sendToEcu
    split
    · exact .inl rfl
    · exact .inl rfl
  case h_12 =>
    cases hstep
    exact connectToEcu { c with ecuConns := _ } _ _
  case h_13 =>
    split at hstep
    · cases hstep
      exact returns c
    · cases hstep
      exact .inl rfl
  case h_14 =>
    cases hstep
    split
    · exact returns c
    · exact sends c _
  case h_1 | h_2 | h_15 =>
    cases hstep
    exact .inr (.inl rfl)
  case h_3 =>
    cases hstep
    exact raises c
  case h_7 | h_9 =>
    cases hstep
    exact .inl rfl
  case h_16 => cases hstep

/-- What a handler does to the reader, the framing layer can do. -/
theorem exec {r r' : Reader} (h : Moves r r') {raw : Bytes} (hpoint : r.point = .handling raw)
    (maxPayloadBytes : Nat) :
    ∃ fs, Transition.exec (Framing.step maxPayloadBytes) r fs = some r' ∧ received fs = [] := by
  rcases h with rfl | rfl | rfl
  · exact ⟨[], rfl, rfl⟩
  · refine ⟨[.handled], ?_, rfl⟩
    rw [Transition.exec_cons]
    simp only [Framing.step, hpoint]
    rfl
  · refine ⟨[.fail], ?_, rfl⟩
    rw [Transition.exec_cons]
    simp only [Framing.step, hpoint]
    rfl

end Moves

theorem arrived_append (es fs : List Event) : arrived (es ++ fs) = arrived es ++ arrived fs := by
  induction es with
  | nil => rfl
  | cons e es ih =>
      cases e with
      | stream e =>
          cases e with
          | data bytes =>
              show bytes ++ arrived (es ++ fs) = (bytes ++ arrived es) ++ arrived fs
              rw [ih, List.append_assoc]
          | read | drained | resumed | deadline | handled | fail | close => exact ih
      | sent | denied code | granted | processed p | injected | replayed target connects
      | ecuLost target | retired | connected | connectFailed | exchanged completed => exact ih

/-- One step of the connection is a run of the reader on the same bytes. -/
theorem step_reader {e : Event} {c' : Connection} (hstep : step scapy cfg c e = some c') :
    ∃ fs, Transition.exec (Framing.step cfg.maxPayloadBytes) c.reader fs = some c'.reader
      ∧ received fs = arrived [e] := by
  unfold step at hstep
  split at hstep
  case h_1 => cases hstep
  case h_2 =>
    obtain ⟨reader, hread, heq⟩ := Option.map_eq_some_iff.mp hstep
    have hone : Transition.exec (Framing.step cfg.maxPayloadBytes) c.reader [.read]
        = some reader := by
      rw [Transition.exec_cons, hread]
      rfl
    split at heq
    · rename_i raw hpoint
      subst heq
      have hmoves : Moves reader ({ c with reader }.sessionLoop scapy cfg raw).reader :=
        Moves.sessionLoop { c with reader } raw
      obtain ⟨fs, hfs, hreceived⟩ := hmoves.exec hpoint cfg.maxPayloadBytes
      refine ⟨[.read] ++ fs, Transition.exec_append_eq_some.mpr ⟨reader, hone, hfs⟩, ?_⟩
      rw [received_append, hreceived]
      rfl
    · subst heq
      exact ⟨[.read], hone, rfl⟩
  case h_3 e _ _ =>
    obtain ⟨reader, hread, rfl⟩ := Option.map_eq_some_iff.mp hstep
    refine ⟨[e], ?_, ?_⟩
    · rw [Transition.exec_cons, hread]
      rfl
    · cases e <;> rfl
  case h_4 target =>
    cases hstep
    exact ⟨[], rfl, rfl⟩
  case h_5 hstream _ =>
    split at hstep
    · rename_i raw hpoint
      obtain ⟨fs, hfs, hreceived⟩ := (Moves.resume hstep).exec hpoint cfg.maxPayloadBytes
      refine ⟨fs, hfs, hreceived.trans ?_⟩
      cases e with
      | stream e => exact (hstream e rfl).elim
      | sent | denied code | granted | processed p | injected | replayed target connects
      | ecuLost target | retired | connected | connectFailed | exchanged completed => rfl
    · cases hstep

/-- A run of the connection is a run of the reader on the same bytes. -/
theorem run_reader {es : List Event} (h : Transition.exec (step scapy cfg) {} es = some c) :
    ∃ fs, Transition.exec (Framing.step cfg.maxPayloadBytes) {} fs = some c.reader
      ∧ received fs = arrived es := by
  refine Transition.exec_history (fun es c =>
    ∃ fs, Transition.exec (Framing.step cfg.maxPayloadBytes) {} fs = some c.reader
      ∧ received fs = arrived es) ⟨[], rfl, rfl⟩ (fun es c e c' ih hstep => ?_) es c h
  obtain ⟨fs, hfs, hreceived⟩ := ih
  obtain ⟨gs, hgs, hreceived'⟩ := step_reader hstep
  refine ⟨fs ++ gs, Transition.exec_append_eq_some.mpr ⟨_, hfs, hgs⟩, ?_⟩
  rw [received_append, arrived_append, hreceived, hreceived']

/-! ## §10. The gate. -/

/-- Nobody has spoken yet. -/
theorem init_inv (cfg : Config) : Inv cfg {} :=
  .of_clean ⟨.nil, rfl, rfl, .of_point nofun nofun, nofun⟩ not_violated_nil nofun

theorem run_inv (hs : scapy.Faithful) {es : List Event}
    (h : Transition.exec (step scapy cfg) {} es = some c) : Inv cfg c :=
  Transition.exec_invariant (Inv cfg) (fun _ _ _ hi hstep => step_inv hs hi hstep) es {} c
    (init_inv cfg) h

/-- **The gate**: every deed is admissible, a violation ends the session, and
the frames dispatched are frames that the framing layer has cut out of the
bytes of the tester. -/
theorem forwarding_gate {π : Type} (scapy : Scapy π) (hs : scapy.Faithful) (cfg : Config)
    (es : List Event) (c : Connection) (h : Transition.exec (step scapy cfg) {} es = some c) :
    Transition.Chronicle (Admissible cfg) c.log
      ∧ (Violated cfg c.log → c.Terminates)
      ∧ (∀ raw, .dispatched raw ∈ c.log → .frame raw ∈ c.reader.trace)
      ∧ ∃ fs, Transition.exec (Framing.step cfg.maxPayloadBytes) {} fs = some c.reader
        ∧ received fs = arrived es := by
  have hinv := run_inv hs h
  exact ⟨hinv.base.chronicle, hinv.violated, hinv.base.seen, run_reader h⟩

/-- Packets that are their bytes. -/
def wirePackets : Scapy Bytes where
  dissect raw := raw
  bytes pkt := pkt
  payloadType pkt := some (ptype pkt)
  sourceAddress pkt := some (sourceOf pkt)
  activationType pkt := some (activationTypeOf pkt)

theorem wirePackets_faithful : wirePackets.Faithful :=
  ⟨fun _ => rfl, fun _ _ => rfl, fun _ _ _ _ => ⟨rfl, rfl⟩⟩

def oneEcu : Config where
  doip := ⟨(0x0E00, 0x0E7F), [], 4⟩
  nodeLogicalAddr := 0x1234
  maxPayloadBytes := 64
  routes := [0x0001]

def activationOf0E00 : Bytes := [2, 0xFD, 0, 5, 0, 0, 0, 7, 0x0E, 0x00, 0, 0, 0, 0, 0]

def messageOf0E00 : Bytes := [2, 0xFD, 0x80, 1, 0, 0, 0, 5, 0x0E, 0x00, 0, 1, 0x3E]

def messageOf0E01 : Bytes := [2, 0xFD, 0x80, 1, 0, 0, 0, 5, 0x0E, 0x01, 0, 1, 0x3E]

/-- An activation, a message that is forwarded, and one with another source. -/
def spoofed : List Event :=
  [.stream (.data activationOf0E00), .stream .read, .stream .read, .granted, .sent,
    .stream (.data (messageOf0E00 ++ messageOf0E01)), .stream .read, .stream .read,
    .processed (some messageOf0E00), .connected, .exchanged true,
    .stream .read, .stream .read, .sent]

theorem forwarding_gate_spoofed :
    ∃ c, Transition.exec (step wirePackets oneEcu) {} spoofed = some c
      ∧ c.log = [.dispatched activationOf0E00, .activationResponse 0x10 0x0E00,
          .dispatched messageOf0E00, .middleware messageOf0E00, .ecuConnect messageOf0E00 0x0001,
          .dispatched messageOf0E01]
      ∧ Transition.Chronicle (Admissible oneEcu) c.log
      ∧ (Violated oneEcu c.log → c.Terminates)
      ∧ (∀ raw, .dispatched raw ∈ c.log → .frame raw ∈ c.reader.trace)
      ∧ ∃ fs, Transition.exec (Framing.step oneEcu.maxPayloadBytes) {} fs = some c.reader
        ∧ received fs = arrived spoofed := by
  have hlog : (Transition.exec (step wirePackets oneEcu) {} spoofed).map (·.log)
      = some [.dispatched activationOf0E00, .activationResponse 0x10 0x0E00,
          .dispatched messageOf0E00, .middleware messageOf0E00, .ecuConnect messageOf0E00 0x0001,
          .dispatched messageOf0E01] := by decide
  obtain ⟨c, hc, hlog⟩ := Option.map_eq_some_iff.mp hlog
  exact ⟨c, hc, hlog, forwarding_gate wirePackets wirePackets_faithful oneEcu spoofed c hc⟩

end DoipPlayground.EdgeNode.Gate
