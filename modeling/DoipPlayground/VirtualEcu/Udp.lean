/-
  DoipPlayground.VirtualEcu.Udp
  ─────────────────────────────
  **THE DISCOVERY LISTENER** (`_UDPProtocol` of `udp.py`, without hooks).

  It never answers a response, not even one with a broken header; what else
  has an acceptable header is a request.  Its port and the addresses of its
  host tell it which datagrams are its own.

    • `Doip.validateHeader` — the check shared with TCP, in full,
    • `datagramReceived` — what is dropped, rejected, answered, scheduled,
    • `answers_of_reply` — what it may send for a datagram, in any run.
-/
import DoipPlayground.VirtualEcu.Encodable
import DoipPlayground.Interop.FrameParity
import DoipPlayground.Lib.ReplyChain

namespace DoipPlayground.VirtualEcu

open Wire

/-! ## §1. The header. -/

/-- `validate_header` -/
def Doip.validateHeader (raw : Bytes) (knownTypes : Option (List Nat))
    (versionWildcardTypes : List Nat) : Option UInt8 :=
  let ver := raw.headD 0
  let inv := (raw.drop 1).headD 0
  let pt := ptype raw
  if inv ≠ 0xFF ^^^ ver then some nackGenericIncorrectPattern
  else if !acceptedVersions.contains ver && !(ver == 0xFF && versionWildcardTypes.contains pt) then
    some nackGenericIncorrectPattern
  else
    match knownTypes with
    | none => none
    | some knownTypes =>
        if knownTypes.contains pt then none else some nackGenericUnknownPayloadType

/-! ## §2. The listener. -/

namespace Udp

def ptVehicleIdRequest : Nat := 0x0001
def ptVehicleIdRequestWithEid : Nat := 0x0002
def ptVehicleIdRequestWithVin : Nat := 0x0003
def ptVehicleIdResponse : Nat := 0x0004
def ptEntityStatusRequest : Nat := 0x4001
def ptEntityStatusResponse : Nat := 0x4002
def ptPowerModeRequest : Nat := 0x4003
def ptPowerModeResponse : Nat := 0x4004

/-- `_UDP_KNOWN_TYPES` -/
def udpKnownTypes : List Nat :=
  [ptEntityStatusRequest, ptPowerModeRequest, ptVehicleIdRequest, ptVehicleIdRequestWithEid,
   ptVehicleIdRequestWithVin]

/-- `_VERSION_WILDCARD_TYPES` -/
def versionWildcardTypes : List Nat :=
  [ptVehicleIdRequest, ptVehicleIdRequestWithEid, ptVehicleIdRequestWithVin]

/-- `_UDP_NEVER_NACK_TYPES` -/
def udpNeverNackTypes : List Nat :=
  [ptHeaderNack, ptVehicleIdResponse, ptEntityStatusResponse, ptPowerModeResponse]

/-- Where a datagram comes from. -/
structure Address where
  host : String
  port : Int
  deriving DecidableEq, Repr

/-- A bound listener with its delayed replies. -/
structure Listener where
  protocol : UdpProtocol
  port : Int
  localIps : List String
  /-- `connection_made` has been called. -/
  transport : Bool := false
  /-- The delayed replies, each with its request. -/
  tasks : List (Nat × Bytes) := []
  /-- Replies delayed so far. -/
  scheduled : Nat := 0
  /-- What was sent, each with the datagram it answers; nothing reads it. -/
  sent : List (Bytes × Bytes) := []
  deriving Repr

namespace Listener

/-- `__init__` -/
def new (config : Loader.EcuConfig) (maxSockets : Int) (localIps : List String) :
    Option Listener :=
  (UdpProtocol.new config maxSockets).map fun protocol =>
    { protocol, port := config.listen.port, localIps }

/-- `_is_self_origin`; a scope behind `%` does not count. -/
def isSelfOrigin (l : Listener) (addr : Address) : Bool :=
  addr.port == l.port
    && l.localIps.contains (String.ofList (addr.host.toList.takeWhile (· ≠ '%')))

/-- `_matches` -/
def isMatch (l : Listener) (req : Bytes) (pt : Nat) : Bool :=
  if pt = ptVehicleIdRequest then true
  else if pt = ptVehicleIdRequestWithEid then 6 ≤ req.length && req.take 6 == l.protocol.eid
  else if pt = ptVehicleIdRequestWithVin then 17 ≤ req.length && req.take 17 == l.protocol.vin
  else false

/-- `if self._transport: self._transport.sendto(build_frame(…), addr)`, about
`cause`; what cannot be built raises. -/
def send (l : Listener) (cause : Bytes) (payloadType : Nat) (payload : Option Bytes) : Listener :=
  match payload.bind (Doip.buildFrame payloadType ·) with
  | some frame => if l.transport then { l with sent := l.sent ++ [(cause, frame)] } else l
  | none => l

/-- `_schedule_identification_response` -/
def scheduleIdentificationResponse (l : Listener) (cause : Bytes) : Listener :=
  if l.transport then
    { l with tasks := l.tasks ++ [(l.scheduled, cause)], scheduled := l.scheduled + 1 }
  else l

/-- `datagram_received`; `registry` as it is at this moment. -/
def datagramReceived (l : Listener) (data : Bytes) (addr : Address)
    (registry : Option SessionRegistry) : Listener :=
  if data.length < 8 then l
  -- an own announcement that was looped back
  else if l.isSelfOrigin addr then l
  -- before the header is looked at: a broken response is not answered either
  else if udpNeverNackTypes.contains (ptype data) then l
  else
    match Doip.validateHeader data (some udpKnownTypes) versionWildcardTypes with
    | some nack => l.send data ptHeaderNack (some [nack])
    -- a known type with an acceptable header; its length is not checked
    | none =>
        let pt := ptype data
        if pt = ptEntityStatusRequest then
          l.send data ptEntityStatusResponse (l.protocol.entityStatusPayload registry)
        else if pt = ptPowerModeRequest then
          l.send data ptPowerModeResponse l.protocol.powerModePayload
        else if pt = ptVehicleIdRequest ∨ pt = ptVehicleIdRequestWithEid
            ∨ pt = ptVehicleIdRequestWithVin then
          if l.isMatch (payload data) pt then l.scheduleIdentificationResponse data else l
        else l

/-- `_send_identification_after`, behind its delay. -/
def sendIdentification (l : Listener) (task : Nat) : Listener :=
  match l.tasks.find? (·.1 = task) with
  | none => l
  | some (_, cause) =>
      { l with tasks := l.tasks.filter (·.1 ≠ task) }.send cause ptVehicleIdResponse
        (some l.protocol.payload)

inductive Event where
  | connectionMade
  | datagramReceived (data : Bytes) (addr : Address) (registry : Option SessionRegistry)
  /-- A delay is over. -/
  | delayed (task : Nat)
  /-- The task of a delayed reply is cancelled. -/
  | cancelled (task : Nat)

def step (l : Listener) : Event → Option Listener
  | .connectionMade => some { l with transport := true }
  | .datagramReceived data addr registry => some (l.datagramReceived data addr registry)
  | .delayed task => some (l.sendIdentification task)
  | .cancelled task => some { l with tasks := l.tasks.filter (·.1 ≠ task) }

end Listener

/-! ## §3. What is sent for a datagram. -/

/-- A response, and only for what is none. -/
def Answers (data frame : Bytes) : Prop :=
  ptype data ∉ udpNeverNackTypes
    ∧ ∃ payloadType ∈ udpNeverNackTypes, ∃ payload,
      Doip.buildFrame payloadType payload = some frame

namespace Listener

variable {l l' : Listener}

/-- What has been sent are answers, and what is delayed will be one. -/
structure Ok (l : Listener) : Prop where
  sent : ∀ data frame, (data, frame) ∈ l.sent → Answers data frame
  tasks : ∀ task cause, (task, cause) ∈ l.tasks → ptype cause ∉ udpNeverNackTypes

theorem Ok.send {cause : Bytes} {payloadType : Nat} (h : l.Ok)
    (hcause : ptype cause ∉ udpNeverNackTypes) (htype : payloadType ∈ udpNeverNackTypes)
    (payload : Option Bytes) : (l.send cause payloadType payload).Ok := by
  unfold Listener.send
  split
  · rename_i frame hframe
    obtain ⟨built, _, hbuilt⟩ := Option.bind_eq_some_iff.mp hframe
    split
    · refine ⟨?_, h.tasks⟩
      intro data sent hmem
      rcases List.mem_append.mp hmem with hold | hnew
      · exact h.sent data sent hold
      · obtain ⟨rfl, rfl⟩ := Prod.mk.inj (List.mem_singleton.mp hnew)
        exact ⟨hcause, payloadType, htype, built, hbuilt⟩
    · exact h
  · exact h

theorem Ok.scheduleIdentificationResponse {cause : Bytes} (h : l.Ok)
    (hcause : ptype cause ∉ udpNeverNackTypes) : (l.scheduleIdentificationResponse cause).Ok := by
  unfold Listener.scheduleIdentificationResponse
  split
  · refine ⟨h.sent, ?_⟩
    intro task other hmem
    rcases List.mem_append.mp hmem with hold | hnew
    · exact h.tasks task other hold
    · obtain ⟨rfl, rfl⟩ := Prod.mk.inj (List.mem_singleton.mp hnew)
      exact hcause
  · exact h

/-- **One datagram.** -/
theorem Ok.datagramReceived (h : l.Ok) (data : Bytes) (addr : Address)
    (registry : Option SessionRegistry) : (l.datagramReceived data addr registry).Ok := by
  unfold Listener.datagramReceived
  split
  · exact h
  · split
    · exact h
    · split
      · exact h
      · rename_i hnever
        have hother : ptype data ∉ udpNeverNackTypes := fun hmem =>
          hnever (List.contains_iff_mem.mpr hmem)
        split
        · exact h.send hother (by decide) _
        · dsimp only
          split
          · exact h.send hother (by decide) _
          · split
            · exact h.send hother (by decide) _
            · split
              · split
                · exact h.scheduleIdentificationResponse hother
                · exact h
              · exact h

theorem Ok.filter (h : l.Ok) (task : Nat) :
    Ok { l with tasks := l.tasks.filter (·.1 ≠ task) } :=
  ⟨h.sent, fun other cause hmem => h.tasks other cause (List.mem_filter.mp hmem).1⟩

theorem Ok.step {e : Event} (h : l.Ok) (hstep : step l e = some l') : l'.Ok := by
  cases e with
  | connectionMade =>
      cases hstep
      exact ⟨h.sent, h.tasks⟩
  | datagramReceived data addr registry =>
      cases hstep
      exact h.datagramReceived data addr registry
  | delayed task =>
      cases hstep
      unfold sendIdentification
      split
      · exact h
      · rename_i other cause hfind
        exact (h.filter task).send (h.tasks other cause (List.mem_of_find?_eq_some hfind))
          (by decide) _
  | cancelled task =>
      cases hstep
      exact h.filter task

/-- A configured listener, as a party that answers datagrams. -/
def responder (config : Loader.EcuConfig) (maxSockets : Int) (localIps : List String) :
    Responder Bytes where
  State := Listener
  Event := Event
  start := new config maxSockets localIps
  step := Listener.step
  sent := Listener.sent

/-- **What the listener replies**, at once or later. -/
theorem answers_of_reply {config : Loader.EcuConfig} {maxSockets : Int} {localIps : List String}
    {data frame : Bytes} (h : (responder config maxSockets localIps).Reply data frame) :
    Answers data frame := by
  refine (responder config maxSockets localIps).reply_spec Ok ?_ (fun s e s' hs => hs.step)
    (fun s message reply hs => hs.sent message reply) h
  intro s hs
  obtain ⟨protocol, _, rfl⟩ := Option.map_eq_some_iff.mp hs
  refine ⟨?_, ?_⟩
  · intro _ _ hmem
    cases hmem
  · intro _ _ hmem
    cases hmem

end Listener

end Udp

end DoipPlayground.VirtualEcu
