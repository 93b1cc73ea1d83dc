/-
  DoipPlayground.EdgeNode.UdpAnnouncer
  ────────────────────────────────────
  **THE EDGENODE'S DISCOVERY LISTENER** (`_UDPProtocol` of
  `udp_announcer.py`).

  A datagram is checked from its header on; the first check that fails is
  answered with a header NACK.  Identification requests are answered later,
  from a timer, the other requests at once.

    • `datagramReceived` — the checks in their order, and the dispatch,
    • `Answers` — what may be sent for a datagram,
    • `answers_of_reply` — nothing else is, in any run.
-/
import DoipPlayground.EdgeNode.SocketRegistry
import DoipPlayground.Interop.FrameParity
import DoipPlayground.Lib.ReplyChain

namespace DoipPlayground.EdgeNode.UdpAnnouncer

open Wire

/-! ## §1. Constants. -/

def ptHeaderNack : Nat := 0x0000
def ptVehicleIdRequest : Nat := 0x0001
def ptVehicleIdRequestEid : Nat := 0x0002
def ptVehicleIdRequestVin : Nat := 0x0003
def ptVehicleIdResponse : Nat := 0x0004
def ptEntityStatusRequest : Nat := 0x4001
def ptEntityStatusResponse : Nat := 0x4002
def ptPowerModeRequest : Nat := 0x4003
def ptPowerModeResponse : Nat := 0x4004

/-- `_UDP_PAYLOAD_LENGTHS` -/
def udpPayloadLengths : List (Nat × List Nat) :=
  [(ptHeaderNack, [1]), (ptVehicleIdRequest, [0]), (ptVehicleIdRequestEid, [6]),
   (ptVehicleIdRequestVin, [17]), (ptVehicleIdResponse, [32, 33]), (ptEntityStatusRequest, [0]),
   (ptPowerModeRequest, [0])]

/-- `_DISCOVERY_REQUESTS` -/
def discoveryRequests : List Nat :=
  [ptVehicleIdRequest, ptVehicleIdRequestEid, ptVehicleIdRequestVin]

/-- `_MAX_PENDING_RESPONSES` -/
def maxPendingResponses : Nat := 256

/-- `_announcement_payload` -/
def announcementPayload (config : Loader.DoIPConfig) : Option Bytes := do
  let vinBytes ← Python.encodeAscii config.vin.toList
  let logicalAddr ← Python.packH? config.nodeLogicalAddr
  let eidBytes ← Python.fromHex config.eid.toList
  let gidBytes ← Python.fromHex config.gid.toList
  return vinBytes ++ logicalAddr ++ eidBytes ++ gidBytes ++ [0x00, 0x00]

/-- The announcement of every accepted configuration can be built. -/
theorem announcementPayload_isSome {config : Loader.DoIPConfig} (h : config.Checked) :
    ∃ payload, announcementPayload config = some payload ∧ payload.length = 33 := by
  have heid : config.eid.toList.length = 2 * 6 := h.eid.1
  have hgid : config.gid.toList.length = 2 * 6 := h.gid.1
  obtain ⟨vin, hvin, hvinLen⟩ := Python.encodeAscii_of_lt h.vin.2
  obtain ⟨eid, heid, heidLen⟩ := Python.fromHex_of_digits heid h.eid.2
  obtain ⟨gid, hgid, hgidLen⟩ := Python.fromHex_of_digits hgid h.gid.2
  have haddr : Python.packH? config.nodeLogicalAddr = some (packH config.nodeLogicalAddr.toNat) :=
    if_pos (by have := h.nodeLogicalAddr; omega)
  refine ⟨vin ++ packH config.nodeLogicalAddr.toNat ++ eid ++ gid ++ [0x00, 0x00], ?_, ?_⟩
  · unfold announcementPayload
    rw [hvin, haddr, heid, hgid]
    rfl
  · simp only [List.length_append, length_packH, List.length_cons, List.length_nil]
    rw [hvinLen, h.vin.1, heidLen, hgidLen]

/-! ## §2. The listener. -/

/-- A reply that has been scheduled, over the transport of its time. -/
structure Handle where
  id : Nat
  transport : Nat
  /-- The request. -/
  cause : Bytes
  deriving DecidableEq, Repr

structure UdpProtocol where
  config : Loader.DoIPConfig
  payload : Bytes
  transport : Option Nat := none
  pendingResponses : List Handle := []
  /-- Replies scheduled so far. -/
  scheduled : Nat := 0
  /-- What was sent, each with the datagram it answers; nothing reads it. -/
  sent : List (Bytes × Bytes) := []
  deriving Repr

namespace UdpProtocol

/-- `__init__` -/
def new (config : Loader.DoIPConfig) : Option UdpProtocol :=
  (announcementPayload config).map fun payload => { config, payload }

/-- `_source_allowed`, of an address that `IPv4Address` reads as a number. -/
def sourceAllowed (address : Option Nat) : Bool :=
  match address with
  | none => false
  | some source =>
      !(source == 0 || (0xE0000000 ≤ source && source ≤ 0xEFFFFFFF) || source == 0xFFFFFFFF)

/-- `_send`, about `cause`.  A frame that cannot be built raises. -/
def send (p : UdpProtocol) (cause : Bytes) (payloadType : Nat) (payload : Bytes) : UdpProtocol :=
  match p.transport, buildFrame payloadType payload with
  | some _, some frame => { p with sent := p.sent ++ [(cause, frame)] }
  | _, _ => p

/-- `_reject` -/
def reject (p : UdpProtocol) (cause : Bytes) (code : UInt8) : UdpProtocol :=
  p.send cause ptHeaderNack [code]

/-- `_schedule_discovery` -/
def scheduleDiscovery (p : UdpProtocol) (cause : Bytes) : UdpProtocol :=
  match p.transport with
  | none => p
  | some transport =>
      if maxPendingResponses ≤ p.pendingResponses.length then p
      else
        { p with
          pendingResponses := p.pendingResponses ++ [⟨p.scheduled, transport, cause⟩]
          scheduled := p.scheduled + 1 }

/-- `bytes([self._config.doip.power_mode])` -/
def powerModePayload (p : UdpProtocol) : Option Bytes := do
  let powerMode ← Python.byte? p.config.powerMode
  return [powerMode]

/-- `_send` of a payload that is built for it. -/
def sendBuilt (p : UdpProtocol) (cause : Bytes) (payloadType : Nat) (payload : Option Bytes) :
    UdpProtocol :=
  match payload with
  | some payload => p.send cause payloadType payload
  | none => p

/-- The dispatch of a datagram that has passed the checks. -/
def dispatch (p : UdpProtocol) (data : Bytes) (payloadType : Nat)
    (registry : Sockets.SessionRegistry) : UdpProtocol :=
  -- NACKs and announcements are checked but never answered
  if payloadType = ptHeaderNack ∨ payloadType = ptVehicleIdResponse then p
  else if payloadType = ptVehicleIdRequestEid ∧ data.drop 8 ≠ (p.payload.drop 19).take 6 then p
  else if payloadType = ptVehicleIdRequestVin ∧ data.drop 8 ≠ p.payload.take 17 then p
  else if payloadType = ptEntityStatusRequest then
    p.sendBuilt data ptEntityStatusResponse (registry.statusPayload p.config)
  else if payloadType = ptPowerModeRequest then
    p.sendBuilt data ptPowerModeResponse p.powerModePayload
  else p.scheduleDiscovery data

/-- `datagram_received`, with the registry as it is at this moment. -/
def datagramReceived (p : UdpProtocol) (data : Bytes) (address : Option Nat)
    (registry : Sockets.SessionRegistry) :
    UdpProtocol :=
  if sourceAllowed address = false ∨ data.length < 8 then p
  else
    let version := data.headD 0
    let inverse := (data.drop 1).headD 0
    let payloadType := fromBytes ((data.drop 2).take 2)
    let defaultDiscovery := version == 0xFF && discoveryRequests.contains payloadType
    if inverse ≠ version ^^^ 0xFF ∨ (version ≠ 0x02 ∧ version ≠ 0x03 ∧ defaultDiscovery = false)
    then p.reject data 0x00
    else
      match udpPayloadLengths.lookup payloadType with
      -- responses and what belongs on TCP
      | none => p.reject data 0x01
      | some lengths =>
          let payloadLength := fromBytes ((data.drop 4).take 4)
          if p.config.maxPayloadBytes < payloadLength then p.reject data 0x02
          else if payloadLength ∉ lengths ∨ data.length ≠ 8 + payloadLength then p.reject data 0x04
          else p.dispatch data payloadType registry

/-- `reply`, of `_schedule_discovery` -/
def reply (p : UdpProtocol) (id : Nat) : UdpProtocol :=
  match p.pendingResponses.find? (·.id = id) with
  | none => p
  | some handle =>
      let p := { p with pendingResponses := p.pendingResponses.erase handle }
      -- the socket may have been replaced since
      if p.transport = some handle.transport then
        p.send handle.cause ptVehicleIdResponse p.payload
      else p

/-- `cancel_pending`, and the transport is gone. -/
def close (p : UdpProtocol) : UdpProtocol := { p with pendingResponses := [], transport := none }

inductive Event where
  /-- `connection_made` -/
  | connectionMade (transport : Nat)
  /-- A datagram, with its source as `IPv4Address` reads it. -/
  | datagramReceived (data : Bytes) (address : Option Nat)
    (registry : Sockets.SessionRegistry)
  /-- The timer of a scheduled reply. -/
  | reply (id : Nat)
  /-- `connection_lost`, or `stop` of the announcer. -/
  | close

def step (p : UdpProtocol) : Event → Option UdpProtocol
  | .connectionMade transport => some { p with transport := some transport }
  | .datagramReceived data address registry => some (p.datagramReceived data address registry)
  | .reply id => some (p.reply id)
  | .close => some p.close

end UdpProtocol

/-! ## §3. What is sent for a datagram. -/

/-- A header NACK, as all listeners send it. -/
def headerNack (code : UInt8) : Bytes := [0x02, 0xFD, 0x00, 0x00, 0x00, 0x00, 0x00, 0x01, code]

/-- A payload of one byte. -/
theorem buildFrame_byte {payloadType : Nat} (h : payloadType < 65536) (b : UInt8) :
    buildFrame payloadType [b]
      = some ([0x02, 0xFD] ++ packH payloadType ++ [0x00, 0x00, 0x00, 0x01, b]) := by
  obtain ⟨_, _, hsame, _⟩ := Interop.builders_agree payloadType [b] 0x02
  have hbytes : VirtualEcu.buildFrame payloadType [b] 0x02
      = [0x02, 0xFD] ++ packH payloadType ++ [0x00, 0x00, 0x00, 0x01, b] := by
    have hinverse : (0xFF : UInt8) ^^^ 0x02 = 0xFD := by decide
    have hlength : packI [b].length = [0x00, 0x00, 0x00, 0x01] :=
      (by decide : packI 1 = [0x00, 0x00, 0x00, 0x01])
    unfold VirtualEcu.buildFrame
    rw [hinverse, hlength, List.append_assoc]
    rfl
  rw [hsame, ← hbytes]
  exact Interop.buildFrame_eq_some ⟨payloadType, [b], 0x02, h, by simp⟩

theorem buildFrame_headerNack (code : UInt8) :
    buildFrame ptHeaderNack [code] = some (headerNack code) := by
  have htype : packH ptHeaderNack = [0x00, 0x00] := by decide
  rw [buildFrame_byte (by decide), htype]
  rfl

/-- The types that are answered with something else than a header NACK. -/
def requests : List Nat :=
  [ptVehicleIdRequest, ptVehicleIdRequestEid, ptVehicleIdRequestVin, ptEntityStatusRequest,
   ptPowerModeRequest]

/-- The types of these answers. -/
def responses : List Nat := [ptVehicleIdResponse, ptEntityStatusResponse, ptPowerModeResponse]

/-- The payload type of a datagram. -/
def ptype (data : Bytes) : Nat := fromBytes ((data.drop 2).take 2)

/-- A header NACK for anything but a header NACK, a response for a request. -/
def Answers (data frame : Bytes) : Prop :=
  (∃ code, frame = headerNack code ∧ ∀ code', data ≠ headerNack code')
    ∨ ∃ payloadType ∈ responses, ∃ payload,
      buildFrame payloadType payload = some frame ∧ ptype data ∈ requests

namespace UdpProtocol

variable {p p' : UdpProtocol}

/-- What has been sent are answers, and what is scheduled will be one. -/
structure Ok (p : UdpProtocol) : Prop where
  maxPayloadBytes : 1 ≤ p.config.maxPayloadBytes
  sent : ∀ data frame, (data, frame) ∈ p.sent → Answers data frame
  pending : ∀ handle ∈ p.pendingResponses, ptype handle.cause ∈ requests

theorem Ok.send {cause payload : Bytes} {payloadType : Nat} (h : p.Ok)
    (hanswers : ∀ frame, buildFrame payloadType payload = some frame → Answers cause frame) :
    (p.send cause payloadType payload).Ok := by
  unfold UdpProtocol.send
  split
  · rename_i transport frame _ hframe
    refine ⟨h.maxPayloadBytes, ?_, h.pending⟩
    intro data sent hmem
    rcases List.mem_append.mp hmem with hold | hnew
    · exact h.sent data sent hold
    · obtain ⟨rfl, rfl⟩ := Prod.mk.inj (List.mem_singleton.mp hnew)
      exact hanswers _ hframe
  · exact h

theorem Ok.reject {data : Bytes} (h : p.Ok) (hother : ∀ code, data ≠ headerNack code)
    (code : UInt8) : (p.reject data code).Ok := by
  refine h.send ?_
  intro frame hframe
  rw [buildFrame_headerNack, Option.some.injEq] at hframe
  exact Or.inl ⟨code, hframe.symm, hother⟩

theorem Ok.sendBuilt {data : Bytes} {payloadType : Nat} (h : p.Ok)
    (hresponse : payloadType ∈ responses) (hrequest : ptype data ∈ requests)
    (payload : Option Bytes) : (p.sendBuilt data payloadType payload).Ok := by
  unfold UdpProtocol.sendBuilt
  cases payload with
  | none => exact h
  | some payload =>
      exact h.send fun frame hframe => Or.inr ⟨payloadType, hresponse, payload, hframe, hrequest⟩

theorem Ok.scheduleDiscovery {data : Bytes} (h : p.Ok) (hrequest : ptype data ∈ requests) :
    (p.scheduleDiscovery data).Ok := by
  unfold UdpProtocol.scheduleDiscovery
  split
  · exact h
  · split
    · exact h
    · refine ⟨h.maxPayloadBytes, h.sent, ?_⟩
      intro handle hmem
      rcases List.mem_append.mp hmem with hold | hnew
      · exact h.pending handle hold
      · rw [List.mem_singleton.mp hnew]
        exact hrequest

/-- What passes the checks and is neither a NACK nor an announcement is a request. -/
theorem Ok.dispatch {data : Bytes} {lengths : List Nat} (h : p.Ok)
    (hknown : udpPayloadLengths.lookup (ptype data) = some lengths)
    (registry : Sockets.SessionRegistry) :
    (p.dispatch data (ptype data) registry).Ok := by
  -- a type that has lengths is one of the seven
  have hkey : ptype data ∈ udpPayloadLengths.map Prod.fst := by
    by_contra hother
    rw [List.lookup_eq_none_iff.mpr ?_] at hknown
    · cases hknown
    · intro entry hentry
      rw [bne_iff_ne]
      intro heq
      exact hother (heq ▸ List.mem_map_of_mem hentry)
  unfold UdpProtocol.dispatch
  split
  · exact h
  · rename_i hsilent
    have hrequest : ptype data ∈ requests := by
      simp only [udpPayloadLengths, List.map_cons, List.map_nil, List.mem_cons, List.not_mem_nil,
        or_false] at hkey
      simp only [requests, List.mem_cons, List.not_mem_nil, or_false]
      omega
    split
    · exact h
    · split
      · exact h
      · split
        · exact h.sendBuilt (by decide) hrequest _
        · split
          · exact h.sendBuilt (by decide) hrequest _
          · exact h.scheduleDiscovery hrequest

/-- A header NACK passes every check, and is not answered. -/
theorem datagramReceived_headerNack (h : p.Ok) (code : UInt8) (address : Option Nat)
    (registry : Sockets.SessionRegistry) :
    p.datagramReceived (headerNack code) address registry = p := by
  have hmax := h.maxPayloadBytes
  have hfits : ¬ p.config.maxPayloadBytes < ((1 : Nat) : Int) := by omega
  unfold datagramReceived
  split
  · rfl
  · have hptype : fromBytes (((headerNack code).drop 2).take 2) = ptHeaderNack := rfl
    have hlength : fromBytes (((headerNack code).drop 4).take 4) = 1 := rfl
    have hinverse : (0x02 : UInt8) ^^^ 0xFF = 0xFD := by decide
    dsimp only
    rw [hptype, hlength, if_neg (by simp [headerNack, hinverse])]
    show (if p.config.maxPayloadBytes < ((1 : Nat) : Int) then p.reject (headerNack code) 0x02
      else p) = p
    rw [if_neg hfits]

/-- **One datagram.** -/
theorem Ok.datagramReceived (h : p.Ok) (data : Bytes) (address : Option Nat)
    (registry : Sockets.SessionRegistry) :
    (p.datagramReceived data address registry).Ok := by
  by_cases hnack : ∃ code, data = headerNack code
  -- here `1 ≤ max_payload_bytes` counts: with 0 it would be rejected
  · obtain ⟨code, rfl⟩ := hnack
    rw [datagramReceived_headerNack h]
    exact h
  · have hother : ∀ code, data ≠ headerNack code := fun code heq => hnack ⟨code, heq⟩
    unfold UdpProtocol.datagramReceived
    split
    · exact h
    · dsimp only
      split
      · exact h.reject hother 0x00
      · split
        · exact h.reject hother 0x01
        · rename_i lengths hknown
          split
          · exact h.reject hother 0x02
          · split
            · exact h.reject hother 0x04
            · exact h.dispatch hknown registry

theorem Ok.reply (h : p.Ok) (id : Nat) : (p.reply id).Ok := by
  unfold UdpProtocol.reply
  split
  · exact h
  · rename_i handle hfind
    have hmem := List.mem_of_find?_eq_some hfind
    have hpopped : Ok { p with pendingResponses := p.pendingResponses.erase handle } :=
      ⟨h.maxPayloadBytes, h.sent,
        fun other hother => h.pending other (List.mem_of_mem_erase hother)⟩
    dsimp only
    split
    · refine hpopped.send fun frame hframe => ?_
      exact Or.inr ⟨ptVehicleIdResponse, by decide, p.payload, hframe, h.pending handle hmem⟩
    · exact hpopped

theorem Ok.step {e : Event} (h : p.Ok) (hstep : step p e = some p') : p'.Ok := by
  cases e with
  | connectionMade transport =>
      cases hstep
      exact ⟨h.maxPayloadBytes, h.sent, h.pending⟩
  | datagramReceived data address registry =>
      cases hstep
      exact h.datagramReceived data address registry
  | reply id =>
      cases hstep
      exact h.reply id
  | close =>
      cases hstep
      refine ⟨h.maxPayloadBytes, h.sent, ?_⟩
      intro handle hmem
      cases hmem

/-- A configured listener, as a party that answers datagrams. -/
def responder (config : Loader.DoIPConfig) : Responder Bytes where
  State := UdpProtocol
  Event := Event
  start := new config
  step := UdpProtocol.step
  sent := UdpProtocol.sent

/-- **What the listener replies**, at once or later. -/
theorem answers_of_reply {config : Loader.DoIPConfig} (hconfig : config.Checked) 
    {data frame : Bytes} (h : (responder config).Reply data frame) :
    Answers data frame := by
  refine (responder config).reply_spec Ok ?_ (fun s e s' hs => hs.step)
    (fun s message reply hs => hs.sent message reply) h
  intro s hs
  obtain ⟨payload, _, rfl⟩ := Option.map_eq_some_iff.mp hs
  refine ⟨hconfig.maxPayloadBytes.1, ?_, ?_⟩
  · intro _ _ hmem
    cases hmem
  · intro _ hmem
    cases hmem

end UdpProtocol

end DoipPlayground.EdgeNode.UdpAnnouncer
