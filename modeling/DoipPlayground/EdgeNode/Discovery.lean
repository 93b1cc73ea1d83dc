/-
  DoipPlayground.EdgeNode.Discovery
  ─────────────────────────────────
  **WHEN AND TO WHOM THE DISCOVERY LISTENER REPLIES** (`_UDPProtocol` and
  `UDPAnnouncer.stop` of `udp_announcer.py`).

  The listener of `UdpAnnouncer`, with the addresses its datagrams come from
  and go to.  A timer handle is its index among all handles ever made; its
  callback may run at any moment, also after it has been cancelled.

    • `Inv` — what holds of handles, pending replies and sent datagrams,
    • `step_forget` — without the addresses this is the listener as before,
    • `discovery_scheduling` — the bound, the requesters, no late reply.
-/
import DoipPlayground.EdgeNode.UdpAnnouncer

namespace DoipPlayground.EdgeNode.UdpAnnouncer.Discovery

open Wire

/-! ## §1. The listener. -/

/-- `addr`: the host as `IPv4Address` reads it, and the port. -/
structure Peer where
  address : Option Nat
  port : Nat
  deriving DecidableEq, Repr

/-- What `reply` closes over, and the request it is for. -/
structure Handle where
  transport : Nat
  addr : Peer
  cause : Bytes
  deriving DecidableEq, Repr

/-- A call of `sendto`: for which datagram, and from which callback if from one. -/
structure Sent where
  addr : Peer
  frame : Bytes
  cause : Bytes
  handle : Option Nat
  deriving DecidableEq, Repr

structure UdpProtocol where
  config : Loader.DoIPConfig
  payload : Bytes
  transport : Option Nat := none
  /-- `_pending_responses` -/
  pendingResponses : List Nat := []
  /-- All handles `call_later` has returned. -/
  handles : List Handle := []
  /-- What was sent; nothing reads it. -/
  sent : List Sent := []

namespace UdpProtocol

/-- `__init__` -/
def new (config : Loader.DoIPConfig) : Option UdpProtocol :=
  (announcementPayload config).map fun payload => { config, payload }

/-- `_send`; a frame that cannot be built raises. -/
def send (p : UdpProtocol) (addr : Peer) (cause : Bytes) (handle : Option Nat)
    (payloadType : Nat) (payload : Bytes) : UdpProtocol :=
  match p.transport, buildFrame payloadType payload with
  | some _, some frame => { p with sent := p.sent ++ [⟨addr, frame, cause, handle⟩] }
  | _, _ => p

/-- `_reject` -/
def reject (p : UdpProtocol) (addr : Peer) (cause : Bytes) (code : UInt8) : UdpProtocol :=
  p.send addr cause none ptHeaderNack [code]

/-- `_schedule_discovery` -/
def scheduleDiscovery (p : UdpProtocol) (addr : Peer) (cause : Bytes) : UdpProtocol :=
  match p.transport with
  | none => p
  | some transport =>
      if maxPendingResponses ≤ p.pendingResponses.length then p
      else
        { p with
          handles := p.handles ++ [⟨transport, addr, cause⟩]
          pendingResponses := p.pendingResponses ++ [p.handles.length] }

/-- `_send` of a payload that is built for it. -/
def sendBuilt (p : UdpProtocol) (addr : Peer) (cause : Bytes) (payloadType : Nat)
    (payload : Option Bytes) : UdpProtocol :=
  match payload with
  | some payload => p.send addr cause none payloadType payload
  | none => p

/-- `bytes([self._config.doip.power_mode])` -/
def powerModePayload (p : UdpProtocol) : Option Bytes := do
  let powerMode ← Python.byte? p.config.powerMode
  return [powerMode]

/-- The dispatch of a datagram that has passed the checks. -/
def dispatch (p : UdpProtocol) (data : Bytes) (payloadType : Nat) (addr : Peer)
    (registry : Sockets.SessionRegistry) : UdpProtocol :=
  if payloadType = ptHeaderNack ∨ payloadType = ptVehicleIdResponse then p
  else if payloadType = ptVehicleIdRequestEid ∧ data.drop 8 ≠ (p.payload.drop 19).take 6 then p
  else if payloadType = ptVehicleIdRequestVin ∧ data.drop 8 ≠ p.payload.take 17 then p
  else if payloadType = ptEntityStatusRequest then
    p.sendBuilt addr data ptEntityStatusResponse (registry.statusPayload p.config)
  else if payloadType = ptPowerModeRequest then
    p.sendBuilt addr data ptPowerModeResponse p.powerModePayload
  else p.scheduleDiscovery addr data

/-- `datagram_received` -/
def datagramReceived (p : UdpProtocol) (data : Bytes) (addr : Peer)
    (registry : Sockets.SessionRegistry) : UdpProtocol :=
  if UdpAnnouncer.UdpProtocol.sourceAllowed addr.address = false ∨ data.length < 8 then p
  else
    let version := data.headD 0
    let inverse := (data.drop 1).headD 0
    let payloadType := fromBytes ((data.drop 2).take 2)
    let defaultDiscovery := version == 0xFF && discoveryRequests.contains payloadType
    if inverse ≠ version ^^^ 0xFF ∨ (version ≠ 0x02 ∧ version ≠ 0x03 ∧ defaultDiscovery = false)
    then p.reject addr data 0x00
    else
      match udpPayloadLengths.lookup payloadType with
      | none => p.reject addr data 0x01
      | some lengths =>
          let payloadLength := fromBytes ((data.drop 4).take 4)
          if p.config.maxPayloadBytes < payloadLength then p.reject addr data 0x02
          else if payloadLength ∉ lengths ∨ data.length ≠ 8 + payloadLength then
            p.reject addr data 0x04
          else p.dispatch data payloadType addr registry

/-- `reply`, of the handle with this index. -/
def reply (p : UdpProtocol) (id : Nat) : UdpProtocol :=
  match p.handles[id]? with
  | none => p
  | some handle =>
      if id ∉ p.pendingResponses then p
      else
        let p := { p with pendingResponses := p.pendingResponses.erase id }
        if p.transport = some handle.transport then
          p.send handle.addr handle.cause (some id) ptVehicleIdResponse p.payload
        else p

/-- `cancel_pending` -/
def cancelPending (p : UdpProtocol) : UdpProtocol := { p with pendingResponses := [] }

/-- `connection_lost` -/
def connectionLost (p : UdpProtocol) : UdpProtocol := { p.cancelPending with transport := none }

/-- `UDPAnnouncer.stop`, while the announcer has this protocol. -/
def stop (p : UdpProtocol) : UdpProtocol := { p.cancelPending with transport := none }

end UdpProtocol

inductive Event where
  /-- `connection_made` -/
  | connectionMade (transport : Nat)
  | datagramReceived (data : Bytes) (addr : Peer) (registry : Sockets.SessionRegistry)
  /-- The callback of a handle runs. -/
  | callback (id : Nat)
  | cancelPending
  | connectionLost
  | stop

def step (p : UdpProtocol) : Event → Option UdpProtocol
  | .connectionMade transport => some { p with transport := some transport }
  | .datagramReceived data addr registry => some (p.datagramReceived data addr registry)
  | .callback id => some (p.reply id)
  | .cancelPending => some p.cancelPending
  | .connectionLost => some p.connectionLost
  | .stop => some p.stop

/-- The states of a configured listener. -/
def Reachable (config : Loader.DoIPConfig) (p : UdpProtocol) : Prop :=
  ∃ init es, UdpProtocol.new config = some init ∧ Transition.exec step init es = some p

/-! ## §2. What a datagram leads to. -/

variable {p p' : UdpProtocol} {data : Bytes} {addr : Peer} {registry : Sockets.SessionRegistry}

/-- An identification request that passes all checks: for everyone, or with
the EID or the VIN of this node. -/
structure IdentificationRequest (p : UdpProtocol) (data : Bytes) (addr : Peer) : Prop where
  source : UdpAnnouncer.UdpProtocol.sourceAllowed addr.address = true
  header : 8 ≤ data.length
  version : data.headD 0 = 0x02 ∨ data.headD 0 = 0x03 ∨ data.headD 0 = 0xFF
  inverse : (data.drop 1).headD 0 = data.headD 0 ^^^ 0xFF
  complete : data.length = 8 + fromBytes ((data.drop 4).take 4)
  fits : (fromBytes ((data.drop 4).take 4) : Int) ≤ p.config.maxPayloadBytes
  asked : ptype data = ptVehicleIdRequest ∧ data.length = 8
    ∨ ptype data = ptVehicleIdRequestEid ∧ data.length = 14
      ∧ data.drop 8 = (p.payload.drop 19).take 6
    ∨ ptype data = ptVehicleIdRequestVin ∧ data.length = 25 ∧ data.drop 8 = p.payload.take 17

/-- The types that are known, with their lengths. -/
theorem lengths_cases {payloadType : Nat} {lengths : List Nat}
    (h : udpPayloadLengths.lookup payloadType = some lengths) :
    payloadType = ptHeaderNack ∨ payloadType = ptVehicleIdResponse
      ∨ payloadType = ptVehicleIdRequest ∧ lengths = [0]
      ∨ payloadType = ptVehicleIdRequestEid ∧ lengths = [6]
      ∨ payloadType = ptVehicleIdRequestVin ∧ lengths = [17]
      ∨ payloadType = ptEntityStatusRequest ∨ payloadType = ptPowerModeRequest := by
  obtain ⟨before, after, hsplit, _⟩ := List.lookup_eq_some_iff.mp h
  have hmem : (payloadType, lengths) ∈ udpPayloadLengths := by
    rw [hsplit]
    exact List.mem_append_right _ (List.mem_cons_self ..)
  simp only [udpPayloadLengths, List.mem_cons, List.not_mem_nil, or_false, Prod.mk.injEq] at hmem
  tauto

/-- The last check is whether the request asks for this node. -/
theorem dispatch_request (h : IdentificationRequest p data addr)
    (registry : Sockets.SessionRegistry) :
    p.dispatch data (ptype data) addr registry = p.scheduleDiscovery addr data := by
  unfold UdpProtocol.dispatch
  rcases h.asked with ⟨htype, _⟩ | ⟨htype, _, heid⟩ | ⟨htype, _, hvin⟩
  · rw [htype, if_neg (by decide), if_neg (fun h => absurd h.1 (by decide)),
      if_neg (fun h => absurd h.1 (by decide)), if_neg (by decide), if_neg (by decide)]
  · rw [htype, if_neg (by decide), if_neg (fun h => h.2 heid),
      if_neg (fun h => absurd h.1 (by decide)), if_neg (by decide), if_neg (by decide)]
  · rw [htype, if_neg (by decide), if_neg (fun h => absurd h.1 (by decide)),
      if_neg (fun h => h.2 hvin), if_neg (by decide), if_neg (by decide)]

/-- Such a request is scheduled, and nothing else happens. -/
theorem datagramReceived_request (h : IdentificationRequest p data addr)
    (registry : Sockets.SessionRegistry) :
    p.datagramReceived data addr registry = p.scheduleDiscovery addr data := by
  have hknown : ∃ n, udpPayloadLengths.lookup (ptype data) = some [n] ∧ data.length = 8 + n
      ∧ discoveryRequests.contains (ptype data) = true := by
    rcases h.asked with ⟨htype, hlength⟩ | ⟨htype, hlength, _⟩ | ⟨htype, hlength, _⟩
    · exact ⟨0, by rw [htype]; rfl, hlength, by rw [htype]; rfl⟩
    · exact ⟨6, by rw [htype]; rfl, hlength, by rw [htype]; rfl⟩
    · exact ⟨17, by rw [htype]; rfl, hlength, by rw [htype]; rfl⟩
  obtain ⟨n, hlookup, hlength, hdiscovery⟩ := hknown
  have hsource : ¬ (UdpAnnouncer.UdpProtocol.sourceAllowed addr.address = false
      ∨ data.length < 8) := by
    rw [h.source]
    have := h.header
    simp only [Bool.true_eq_false, false_or]
    omega
  have hversion : ¬ ((data.drop 1).headD 0 ≠ data.headD 0 ^^^ 0xFF
      ∨ (data.headD 0 ≠ 0x02 ∧ data.headD 0 ≠ 0x03
        ∧ (data.headD 0 == 0xFF && discoveryRequests.contains (ptype data)) = false)) := by
    intro hbad
    rcases hbad with hinverse | ⟨htwo, hthree, hother⟩
    · exact hinverse h.inverse
    · rcases h.version with hv | hv | hv
      · exact htwo hv
      · exact hthree hv
      · rw [hv, hdiscovery] at hother
        cases hother
  have hpayload : ¬ (fromBytes ((data.drop 4).take 4) ∉ [n]
      ∨ data.length ≠ 8 + fromBytes ((data.drop 4).take 4)) := by
    have hcomplete := h.complete
    rw [List.mem_singleton]
    omega
  have hfits : ¬ p.config.maxPayloadBytes < (fromBytes ((data.drop 4).take 4) : Int) := by
    have := h.fits
    omega
  have htype : fromBytes ((data.drop 2).take 2) = ptype data := rfl
  unfold UdpProtocol.datagramReceived
  rw [if_neg hsource]
  dsimp only
  rw [htype, if_neg hversion, hlookup]
  dsimp only
  rw [if_neg hfits, if_neg hpayload]
  exact dispatch_request h registry

/-- Nothing, or one datagram at once. -/
def AtOnce (p : UdpProtocol) (addr : Peer) (cause : Bytes) (p' : UdpProtocol) : Prop :=
  p' = p ∨ ∃ payloadType payload, p' = p.send addr cause none payloadType payload

theorem sendBuilt_atOnce (p : UdpProtocol) (addr : Peer) (cause : Bytes) (payloadType : Nat)
    (payload : Option Bytes) :
    AtOnce p addr cause (p.sendBuilt addr cause payloadType payload) := by
  unfold UdpProtocol.sendBuilt
  cases payload with
  | none => exact Or.inl rfl
  | some payload => exact Or.inr ⟨payloadType, payload, rfl⟩

/-- Anything else is ignored, or answered at once. -/
theorem datagramReceived_other (h : ¬ IdentificationRequest p data addr)
    (registry : Sockets.SessionRegistry) :
    AtOnce p addr data (p.datagramReceived data addr registry) := by
  have htype : fromBytes ((data.drop 2).take 2) = ptype data := rfl
  unfold UdpProtocol.datagramReceived
  split
  · exact Or.inl rfl
  rename_i hsource
  dsimp only
  rw [htype]
  split
  · exact Or.inr ⟨_, _, rfl⟩
  rename_i hversion
  split
  · exact Or.inr ⟨_, _, rfl⟩
  rename_i lengths hlookup
  split
  · exact Or.inr ⟨_, _, rfl⟩
  rename_i hfits
  split
  · exact Or.inr ⟨_, _, rfl⟩
  rename_i hpayload
  unfold UdpProtocol.dispatch
  split
  · exact Or.inl rfl
  rename_i hsilent
  split
  · exact Or.inl rfl
  rename_i heid
  split
  · exact Or.inl rfl
  rename_i hvin
  split
  · exact sendBuilt_atOnce p addr data _ _
  rename_i hstatus
  split
  · exact sendBuilt_atOnce p addr data _ _
  rename_i hpower
  -- what is left passed every check
  obtain ⟨hallowed, hheader⟩ := not_or.mp hsource
  obtain ⟨hinverse, hknown⟩ := not_or.mp hversion
  obtain ⟨hlength, hcomplete⟩ := not_or.mp hpayload
  rw [not_not] at hinverse hlength hcomplete
  refine absurd ⟨by simpa using hallowed, by omega, ?_, hinverse, hcomplete, by omega, ?_⟩ h
  · by_contra hother
    obtain ⟨htwo, hother⟩ := not_or.mp hother
    obtain ⟨hthree, hwild⟩ := not_or.mp hother
    exact hknown ⟨htwo, hthree, by rw [beq_eq_false_iff_ne.mpr hwild]; rfl⟩
  · rcases lengths_cases hlookup with hnack | hresponse | ⟨hall, rfl⟩ | ⟨hother, rfl⟩
      | ⟨hother, rfl⟩ | hother | hother
    · exact absurd (Or.inl hnack) hsilent
    · exact absurd (Or.inr hresponse) hsilent
    · rw [List.mem_singleton] at hlength
      exact Or.inl ⟨hall, by omega⟩
    · rw [List.mem_singleton] at hlength
      refine Or.inr (Or.inl ⟨hother, by omega, ?_⟩)
      by_contra hne
      exact heid ⟨hother, hne⟩
    · rw [List.mem_singleton] at hlength
      refine Or.inr (Or.inr ⟨hother, by omega, ?_⟩)
      by_contra hne
      exact hvin ⟨hother, hne⟩
    · exact absurd hother hstatus
    · exact absurd hother hpower

/-! ## §3. What a step can do. -/

theorem send_cases (p : UdpProtocol) (addr : Peer) (cause : Bytes) (handle : Option Nat)
    (payloadType : Nat) (payload : Bytes) :
    p.send addr cause handle payloadType payload = p
      ∨ ∃ frame, buildFrame payloadType payload = some frame
        ∧ p.send addr cause handle payloadType payload
          = { p with sent := p.sent ++ [⟨addr, frame, cause, handle⟩] } := by
  unfold UdpProtocol.send
  split
  · rename_i frame _ hframe
    exact Or.inr ⟨frame, hframe, rfl⟩
  · exact Or.inl rfl

/-- All that a step can do. -/
inductive Change (p : UdpProtocol) : UdpProtocol → Prop
  | ignored : Change p p
  | connected (transport : Nat) : Change p { p with transport := some transport }
  | answered (addr : Peer) (frame cause : Bytes) :
      Change p { p with sent := p.sent ++ [⟨addr, frame, cause, none⟩] }
  /-- A request finds room, over the transport there is. -/
  | scheduled (data : Bytes) (addr : Peer) (transport : Nat)
      (hrequest : IdentificationRequest p data addr) (htransport : p.transport = some transport)
      (hroom : p.pendingResponses.length < maxPendingResponses) :
      Change p { p with
        handles := p.handles ++ [⟨transport, addr, data⟩]
        pendingResponses := p.pendingResponses ++ [p.handles.length] }
  /-- A pending reply runs; it is sent if the transport is still the same. -/
  | fired (id : Nat) (handle : Handle) (hhandle : p.handles[id]? = some handle)
      (hpending : id ∈ p.pendingResponses) (sent : List Sent)
      (hsent : sent = [] ∨ ∃ frame, p.transport = some handle.transport
        ∧ buildFrame ptVehicleIdResponse p.payload = some frame
        ∧ sent = [⟨handle.addr, frame, handle.cause, some id⟩]) :
      Change p { p with
        pendingResponses := p.pendingResponses.erase id
        sent := p.sent ++ sent }
  | cancelled (transport : Option Nat) :
      Change p { p with pendingResponses := [], transport := transport }

theorem scheduleDiscovery_change (h : IdentificationRequest p data addr) :
    Change p (p.scheduleDiscovery addr data) := by
  unfold UdpProtocol.scheduleDiscovery
  split
  · exact .ignored
  · rename_i transport htransport
    split
    · exact .ignored
    · rename_i hroom
      exact .scheduled data addr transport h htransport (Nat.not_le.mp hroom)

theorem reply_change (p : UdpProtocol) (id : Nat) : Change p (p.reply id) := by
  unfold UdpProtocol.reply
  split
  · exact .ignored
  · rename_i handle hhandle
    split
    · exact .ignored
    · rename_i hpending
      have hpending : id ∈ p.pendingResponses := not_not.mp hpending
      have hnone : Change p { p with pendingResponses := p.pendingResponses.erase id } := by
        have hfired := Change.fired id handle hhandle hpending [] (Or.inl rfl)
        rwa [List.append_nil] at hfired
      dsimp only
      split
      · rename_i htransport
        rcases send_cases { p with pendingResponses := p.pendingResponses.erase id } handle.addr
          handle.cause (some id) ptVehicleIdResponse p.payload with heq | ⟨frame, hframe, heq⟩
        · rw [heq]
          exact hnone
        · rw [heq]
          exact .fired id handle hhandle hpending _ (Or.inr ⟨frame, htransport, hframe, rfl⟩)
      · exact hnone

/-- **One step.** -/
theorem step_change {e : Event} (h : step p e = some p') : Change p p' := by
  cases e with
  | connectionMade transport =>
      cases h
      exact .connected transport
  | datagramReceived data addr registry =>
      cases h
      by_cases hrequest : IdentificationRequest p data addr
      · rw [datagramReceived_request hrequest]
        exact scheduleDiscovery_change hrequest
      · rcases datagramReceived_other hrequest registry with heq | ⟨payloadType, payload, heq⟩
        · rw [heq]
          exact .ignored
        · rw [heq]
          rcases send_cases p addr data none payloadType payload with heq | ⟨frame, _, heq⟩
          · rw [heq]
            exact .ignored
          · rw [heq]
            exact .answered addr frame data
  | callback id =>
      cases h
      exact reply_change p id
  | cancelPending =>
      cases h
      exact .cancelled p.transport
  | connectionLost =>
      cases h
      exact .cancelled none
  | stop =>
      cases h
      exact .cancelled none

/-! ## §4. What holds along every run. -/

/-- The handles whose callbacks have sent. -/
def replied (p : UdpProtocol) : List Nat := p.sent.filterMap Sent.handle

structure Inv (p : UdpProtocol) : Prop where
  bounded : p.pendingResponses.length ≤ maxPendingResponses
  nodup : p.pendingResponses.Nodup
  made : ∀ id ∈ p.pendingResponses, id < p.handles.length
  unsent : ∀ id ∈ p.pendingResponses, id ∉ replied p
  once : (replied p).Nodup
  /-- A reply went to the requester of its handle. -/
  owned : ∀ x ∈ p.sent, ∀ id, x.handle = some id → ∃ handle, p.handles[id]? = some handle
    ∧ x.addr = handle.addr ∧ buildFrame ptVehicleIdResponse p.payload = some x.frame

theorem Inv.new {config : Loader.DoIPConfig} (h : UdpProtocol.new config = some p) : Inv p := by
  obtain ⟨payload, _, rfl⟩ := Option.map_eq_some_iff.mp h
  exact ⟨Nat.zero_le _, List.nodup_nil, fun _ hid => absurd hid List.not_mem_nil,
    fun _ hid => absurd hid List.not_mem_nil, List.nodup_nil,
    fun _ hx => absurd hx List.not_mem_nil⟩

/-- One more datagram. -/
theorem replied_append (p : UdpProtocol) (sent : List Sent) :
    replied { p with sent := p.sent ++ sent } = replied p ++ sent.filterMap Sent.handle :=
  List.filterMap_append

theorem Inv.change (h : Inv p) (hchange : Change p p') : Inv p' := by
  cases hchange with
  | ignored => exact h
  | connected transport => exact ⟨h.bounded, h.nodup, h.made, h.unsent, h.once, h.owned⟩
  -- an immediate answer has no handle, so what was promised to handles is as it was
  | answered addr frame cause =>
      have hreplied : replied { p with sent := p.sent ++ [⟨addr, frame, cause, none⟩] }
          = replied p :=
        (replied_append p _).trans (List.append_nil _)
      refine ⟨h.bounded, h.nodup, h.made, ?_, hreplied ▸ h.once, ?_⟩
      · intro id hid
        rw [hreplied]
        exact h.unsent id hid
      · intro x hx id hid
        rcases List.mem_append.mp hx with hold | hnew
        · exact h.owned x hold id hid
        · rw [List.mem_singleton.mp hnew] at hid
          cases hid
  | scheduled data addr transport hrequest htransport hroom =>
      -- the new handle is the one after all others
      have hfresh : p.handles.length ∉ p.pendingResponses := by
        intro hmem
        exact absurd (h.made _ hmem) (Nat.lt_irrefl _)
      refine ⟨?_, ?_, ?_, ?_, h.once, ?_⟩
      -- the room was checked before the handle was made
      · show (p.pendingResponses ++ [p.handles.length]).length ≤ maxPendingResponses
        rw [List.length_append, List.length_singleton]
        omega
      · rw [← List.concat_eq_append]
        exact h.nodup.concat hfresh
      · intro id hid
        show id < (p.handles ++ [_]).length
        rw [List.length_append, List.length_singleton]
        rcases List.mem_append.mp hid with hold | hnew
        · have := h.made id hold
          omega
        · rw [List.mem_singleton.mp hnew]
          omega
      -- no one answered under a handle that did not exist
      · intro id hid hsent
        rcases List.mem_append.mp hid with hold | hnew
        · exact h.unsent id hold hsent
        · rw [List.mem_singleton.mp hnew] at hsent
          obtain ⟨x, hx, hhandle⟩ := List.mem_filterMap.mp hsent
          obtain ⟨handle, hget, _⟩ := h.owned x hx _ hhandle
          rw [List.getElem?_eq_none (Nat.le_refl _)] at hget
          cases hget
      · intro x hx id hid
        obtain ⟨handle, hget, haddr⟩ := h.owned x hx id hid
        have hlt := (List.getElem?_eq_some_iff.mp hget).1
        exact ⟨handle, (List.getElem?_append_left hlt).trans hget, haddr⟩
  -- the handle that fires leaves the pending ones, whether or not its answer can be built
  | fired id handle hhandle hpending sent hsent =>
      have hsub : ∀ other ∈ p.pendingResponses.erase id, other ∈ p.pendingResponses :=
        fun other hother => List.mem_of_mem_erase hother
      have hbounded : (p.pendingResponses.erase id).length ≤ maxPendingResponses :=
        le_trans List.length_erase_le h.bounded
      rcases hsent with rfl | ⟨frame, _, hframe, rfl⟩
      · rw [List.append_nil]
        exact ⟨hbounded, h.nodup.erase id, fun other hother => h.made other (hsub other hother),
          fun other hother => h.unsent other (hsub other hother), h.once, h.owned⟩
      · have hreplied : replied { p with
            sent := p.sent ++ [⟨handle.addr, frame, handle.cause, some id⟩] } = replied p ++ [id] :=
          replied_append p _
        -- the handle was pending, so it has sent nothing yet, and is pending no more
        refine ⟨hbounded, h.nodup.erase id, fun other hother => h.made other (hsub other hother),
          ?_, ?_, ?_⟩
        · intro other hother hmem
          rcases List.mem_append.mp (hreplied ▸ hmem) with hold | hnew
          · exact h.unsent other (hsub other hother) hold
          · rw [List.mem_singleton.mp hnew] at hother
            exact h.nodup.not_mem_erase hother
        -- it had sent nothing, so one answer under it is the first
        · refine hreplied ▸ ?_
          rw [← List.concat_eq_append]
          exact h.once.concat (h.unsent id hpending)
        · intro x hx other hother
          rcases List.mem_append.mp hx with hold | hnew
          · exact h.owned x hold other hother
          · rw [List.mem_singleton.mp hnew] at hother ⊢
            cases hother
            exact ⟨handle, hhandle, rfl, hframe⟩
  | cancelled transport =>
      exact ⟨Nat.zero_le _, List.nodup_nil, fun _ hid => absurd hid List.not_mem_nil,
        fun _ hid => absurd hid List.not_mem_nil, h.once, h.owned⟩

theorem Reachable.inv {config : Loader.DoIPConfig} (h : Reachable config p) : Inv p := by
  obtain ⟨init, es, hinit, hrun⟩ := h
  exact Transition.exec_invariant Inv (fun _ _ _ hinv hstep => hinv.change (step_change hstep))
    es init p (Inv.new hinit) hrun

/-! ## §5. After a cancellation. -/

/-- Since `p₀`, with its pending replies gone, only callbacks of later handles
have sent. -/
structure Since (p₀ p : UdpProtocol) : Prop where
  handles : p₀.handles.length ≤ p.handles.length
  pending : ∀ id ∈ p.pendingResponses, p₀.handles.length ≤ id
  sent : ∃ later, p.sent = p₀.sent ++ later
    ∧ ∀ x ∈ later, ∀ id, x.handle = some id → p₀.handles.length ≤ id

theorem Since.refl (hcancelled : p.pendingResponses = []) : Since p p := by
  refine ⟨Nat.le_refl _, ?_, [], (List.append_nil _).symm, ?_⟩
  · intro id hid
    rw [hcancelled] at hid
    cases hid
  · intro x hx
    cases hx

theorem Since.change {p₀ : UdpProtocol} (h : Since p₀ p) (hchange : Change p p') :
    Since p₀ p' := by
  obtain ⟨hhandles, hpending, later, hsent, hlater⟩ := h
  cases hchange with
  | ignored => exact ⟨hhandles, hpending, later, hsent, hlater⟩
  | connected transport => exact ⟨hhandles, hpending, later, hsent, hlater⟩
  | answered addr frame cause =>
      refine ⟨hhandles, hpending, later ++ [⟨addr, frame, cause, none⟩], ?_, ?_⟩
      · show p.sent ++ _ = _
        rw [hsent, List.append_assoc]
      · intro x hx id hid
        rcases List.mem_append.mp hx with hold | hnew
        · exact hlater x hold id hid
        · rw [List.mem_singleton.mp hnew] at hid
          cases hid
  | scheduled data addr transport _ _ _ =>
      refine ⟨?_, ?_, later, hsent, hlater⟩
      · show _ ≤ (p.handles ++ [_]).length
        rw [List.length_append]
        omega
      · intro id hid
        rcases List.mem_append.mp hid with hold | hnew
        · exact hpending id hold
        · rw [List.mem_singleton.mp hnew]
          exact hhandles
  | fired id handle _ hid sent hfired =>
      refine ⟨hhandles, fun other hother => hpending other (List.mem_of_mem_erase hother),
        later ++ sent, ?_, ?_⟩
      · show p.sent ++ sent = _
        rw [hsent, List.append_assoc]
      · intro x hx other hother
        rcases List.mem_append.mp hx with hold | hnew
        · exact hlater x hold other hother
        · rcases hfired with rfl | ⟨frame, _, _, rfl⟩
          · cases hnew
          · rw [List.mem_singleton.mp hnew] at hother
            cases hother
            exact hpending id hid
  | cancelled transport =>
      exact ⟨hhandles, fun _ hid => absurd hid List.not_mem_nil, later, hsent, hlater⟩

/-- Without a transport nothing is scheduled or sent, until there is a new one. -/
theorem closed_step {e : Event} (hclosed : p.transport = none ∧ p.pendingResponses = [])
    (hother : ∀ transport, e ≠ .connectionMade transport) (h : step p e = some p') :
    (p'.transport = none ∧ p'.pendingResponses = []) ∧ p'.sent = p.sent := by
  obtain ⟨htransport, hpending⟩ := hclosed
  cases e with
  | connectionMade transport => exact absurd rfl (hother transport)
  | datagramReceived data addr registry =>
      have hsame : p.datagramReceived data addr registry = p := by
        by_cases hrequest : IdentificationRequest p data addr
        · rw [datagramReceived_request hrequest, UdpProtocol.scheduleDiscovery, htransport]
        · rcases datagramReceived_other hrequest registry with heq | ⟨payloadType, payload, heq⟩
          · exact heq
          · rw [heq, UdpProtocol.send, htransport]
      cases h
      rw [hsame]
      exact ⟨⟨htransport, hpending⟩, rfl⟩
  | callback id =>
      have hsame : p.reply id = p := by
        unfold UdpProtocol.reply
        split
        · rfl
        · rw [hpending, if_pos List.not_mem_nil]
      cases h
      rw [hsame]
      exact ⟨⟨htransport, hpending⟩, rfl⟩
  | cancelPending =>
      cases h
      exact ⟨⟨htransport, rfl⟩, rfl⟩
  | connectionLost =>
      cases h
      exact ⟨⟨rfl, rfl⟩, rfl⟩
  | stop =>
      cases h
      exact ⟨⟨rfl, rfl⟩, rfl⟩

theorem closed_run {es : List Event} (hclosed : p.transport = none ∧ p.pendingResponses = [])
    (hes : ∀ transport, .connectionMade transport ∉ es)
    (h : Transition.exec step p es = some p') : p'.sent = p.sent := by
  induction es generalizing p with
  | nil =>
      rw [Transition.exec_nil, Option.some.injEq] at h
      rw [h]
  | cons e es ih =>
      obtain ⟨q, hstep, hrun⟩ := Transition.exec_cons_eq_some.mp h
      have hother : ∀ transport, e ≠ .connectionMade transport := by
        intro transport heq
        exact hes transport (heq ▸ List.mem_cons_self ..)
      obtain ⟨hq, hsent⟩ := closed_step hclosed hother hstep
      have hrest : ∀ transport, Event.connectionMade transport ∉ es :=
        fun transport hmem => hes transport (List.mem_cons_of_mem _ hmem)
      rw [ih hq hrest hrun, hsent]

/-! ## §6. What sending leaves alone. -/

@[simp] theorem send_handles (p : UdpProtocol) (addr : Peer) (cause : Bytes)
    (handle : Option Nat) (payloadType : Nat) (payload : Bytes) :
    (p.send addr cause handle payloadType payload).handles = p.handles := by
  rcases send_cases p addr cause handle payloadType payload with heq | ⟨frame, _, heq⟩
  · rw [heq]
  · rw [heq]

@[simp] theorem send_pendingResponses (p : UdpProtocol) (addr : Peer) (cause : Bytes)
    (handle : Option Nat) (payloadType : Nat) (payload : Bytes) :
    (p.send addr cause handle payloadType payload).pendingResponses = p.pendingResponses := by
  rcases send_cases p addr cause handle payloadType payload with heq | ⟨frame, _, heq⟩
  · rw [heq]
  · rw [heq]

theorem reply_handles (p : UdpProtocol) (id : Nat) : (p.reply id).handles = p.handles := by
  unfold UdpProtocol.reply
  split
  · rfl
  split
  · rfl
  dsimp only
  split
  · rw [send_handles]
  · rfl

/-- A pending reply that runs. -/
theorem reply_pendingResponses {id : Nat} (hmade : id < p.handles.length)
    (hpending : id ∈ p.pendingResponses) :
    (p.reply id).pendingResponses = p.pendingResponses.erase id := by
  unfold UdpProtocol.reply
  rw [List.getElem?_eq_getElem hmade]
  dsimp only
  rw [if_neg (not_not.mpr hpending)]
  split
  · rw [send_pendingResponses]
  · rfl

/-! ## §7. Without the addresses. -/

/-- A pending reply as it was modelled without its address. -/
def forgetHandle (handles : List Handle) (id : Nat) : UdpAnnouncer.Handle where
  id := id
  transport := ((handles[id]?).map Handle.transport).getD 0
  cause := ((handles[id]?).map Handle.cause).getD []

/-- The listener that does not know where datagrams come from. -/
def forget (p : UdpProtocol) : UdpAnnouncer.UdpProtocol where
  config := p.config
  payload := p.payload
  transport := p.transport
  pendingResponses := p.pendingResponses.map (forgetHandle p.handles)
  scheduled := p.handles.length
  sent := p.sent.map fun x => (x.cause, x.frame)

@[simp] theorem forget_config (p : UdpProtocol) : (forget p).config = p.config := rfl

@[simp] theorem forget_payload (p : UdpProtocol) : (forget p).payload = p.payload := rfl

@[simp] theorem forget_transport (p : UdpProtocol) : (forget p).transport = p.transport := rfl

theorem forget_send (p : UdpProtocol) (addr : Peer) (cause : Bytes) (handle : Option Nat)
    (payloadType : Nat) (payload : Bytes) :
    forget (p.send addr cause handle payloadType payload)
      = (forget p).send cause payloadType payload := by
  unfold UdpProtocol.send UdpAnnouncer.UdpProtocol.send
  rw [forget_transport]
  cases htransport : p.transport with
  | none => rfl
  | some transport =>
      cases buildFrame payloadType payload with
      | none => rfl
      | some frame =>
          dsimp only
          unfold forget
          rw [List.map_append]
          rfl

theorem forget_sendBuilt (p : UdpProtocol) (addr : Peer) (cause : Bytes) (payloadType : Nat)
    (payload : Option Bytes) : forget (p.sendBuilt addr cause payloadType payload)
      = (forget p).sendBuilt cause payloadType payload := by
  unfold UdpProtocol.sendBuilt UdpAnnouncer.UdpProtocol.sendBuilt
  cases payload with
  | none => rfl
  | some payload => exact forget_send p addr cause none payloadType payload

/-- A new handle does not change the others. -/
theorem forget_scheduleDiscovery (h : Inv p) (addr : Peer) (cause : Bytes) :
    forget (p.scheduleDiscovery addr cause) = (forget p).scheduleDiscovery cause := by
  unfold UdpProtocol.scheduleDiscovery UdpAnnouncer.UdpProtocol.scheduleDiscovery
  have hlength : (forget p).pendingResponses.length = p.pendingResponses.length :=
    List.length_map ..
  rw [forget_transport, hlength]
  cases htransport : p.transport with
  | none => rfl
  | some transport =>
      dsimp only
      split
      · rfl
      · have hold : p.pendingResponses.map (forgetHandle (p.handles ++ [⟨transport, addr, cause⟩]))
            = p.pendingResponses.map (forgetHandle p.handles) := by
          refine List.map_congr_left ?_
          intro id hid
          unfold forgetHandle
          rw [List.getElem?_append_left (h.made id hid)]
        have hnew : forgetHandle (p.handles ++ [⟨transport, addr, cause⟩]) p.handles.length
            = ⟨p.handles.length, transport, cause⟩ := by
          unfold forgetHandle
          rw [List.getElem?_concat_length]
          rfl
        unfold forget
        dsimp only
        rw [List.map_append, hold, List.map_singleton, hnew, List.length_append]
        rfl

theorem forget_dispatch (h : Inv p) (data : Bytes) (payloadType : Nat) (addr : Peer)
    (registry : Sockets.SessionRegistry) :
    forget (p.dispatch data payloadType addr registry)
      = (forget p).dispatch data payloadType registry := by
  unfold UdpProtocol.dispatch UdpAnnouncer.UdpProtocol.dispatch
  rw [forget_payload, forget_config]
  split
  · rfl
  split
  · rfl
  split
  · rfl
  split
  · exact forget_sendBuilt p addr data _ _
  split
  · exact forget_sendBuilt p addr data _ _
  · exact forget_scheduleDiscovery h addr data

/-- **A datagram** is handled the same way with and without its address. -/
theorem forget_datagramReceived (h : Inv p) (data : Bytes) (addr : Peer)
    (registry : Sockets.SessionRegistry) :
    forget (p.datagramReceived data addr registry)
      = (forget p).datagramReceived data addr.address registry := by
  unfold UdpProtocol.datagramReceived UdpAnnouncer.UdpProtocol.datagramReceived
  rw [forget_config]
  split
  · rfl
  dsimp only
  split
  · exact forget_send p addr data none ptHeaderNack [0x00]
  cases udpPayloadLengths.lookup (fromBytes ((data.drop 2).take 2)) with
  | none => exact forget_send p addr data none ptHeaderNack [0x01]
  | some lengths =>
      dsimp only
      split
      · exact forget_send p addr data none ptHeaderNack [0x02]
      split
      · exact forget_send p addr data none ptHeaderNack [0x04]
      · exact forget_dispatch h data _ addr registry

theorem forgetHandle_injective (handles : List Handle) :
    Function.Injective (forgetHandle handles) := fun _ _ heq => congrArg UdpAnnouncer.Handle.id heq

/-- The handle of a callback among the pending ones. -/
theorem find?_forget (p : UdpProtocol) (id : Nat) :
    (forget p).pendingResponses.find? (·.id = id) =
      if id ∈ p.pendingResponses then some (forgetHandle p.handles id) else none := by
  show (p.pendingResponses.map (forgetHandle p.handles)).find? _ = _
  induction p.pendingResponses with
  | nil => rfl
  | cons other rest ih =>
      rw [List.map_cons, List.find?_cons]
      by_cases heq : other = id
      · have hfound : decide ((forgetHandle p.handles other).id = id) = true :=
          decide_eq_true heq
        rw [hfound, heq, if_pos (List.mem_cons_self ..)]
      · have hother : decide ((forgetHandle p.handles other).id = id) = false :=
          decide_eq_false heq
        rw [hother, ih]
        refine if_congr ?_ rfl rfl
        rw [List.mem_cons]
        exact ⟨Or.inr, fun h => h.resolve_left (Ne.symm heq)⟩

/-- **So is a callback.** -/
theorem forget_reply (h : Inv p) (id : Nat) : forget (p.reply id) = (forget p).reply id := by
  unfold UdpProtocol.reply UdpAnnouncer.UdpProtocol.reply
  rw [find?_forget]
  by_cases hpending : id ∈ p.pendingResponses
  · obtain ⟨handle, hhandle⟩ : ∃ handle, p.handles[id]? = some handle :=
      ⟨_, List.getElem?_eq_getElem (h.made id hpending)⟩
    have herase : (forget p).pendingResponses.erase (forgetHandle p.handles id)
        = (p.pendingResponses.erase id).map (forgetHandle p.handles) :=
      (List.map_erase (forgetHandle_injective p.handles) p.pendingResponses).symm
    have hforgotten : forgetHandle p.handles id = ⟨id, handle.transport, handle.cause⟩ := by
      unfold forgetHandle
      rw [hhandle]
      rfl
    rw [hhandle, if_pos hpending]
    dsimp only
    rw [if_neg (not_not.mpr hpending), herase, hforgotten, forget_transport]
    split
    · exact forget_send { p with pendingResponses := p.pendingResponses.erase id } handle.addr
        handle.cause (some id) ptVehicleIdResponse p.payload
    · rfl
  · rw [if_neg hpending]
    cases p.handles[id]? with
    | none => rfl
    | some handle => exact congrArg forget (if_pos hpending)

/-- An event as it was modelled without addresses; there `cancel_pending` is
a part of the others only. -/
def Event.forget? : Event → Option UdpAnnouncer.UdpProtocol.Event
  | .connectionMade transport => some (.connectionMade transport)
  | .datagramReceived data addr registry => some (.datagramReceived data addr.address registry)
  | .callback id => some (.reply id)
  | .cancelPending => none
  | .connectionLost => some .close
  | .stop => some .close

/-- **Without the addresses** this is the listener of `UdpAnnouncer`. -/
theorem step_forget (h : Inv p) {e : Event} {e' : UdpAnnouncer.UdpProtocol.Event}
    (he : e.forget? = some e') (hstep : step p e = some p') :
    UdpAnnouncer.UdpProtocol.step (forget p) e' = some (forget p') := by
  cases e with
  | connectionMade transport =>
      cases he
      cases hstep
      rfl
  | datagramReceived data addr registry =>
      cases he
      cases hstep
      exact congrArg some (forget_datagramReceived h data addr registry).symm
  | callback id =>
      cases he
      cases hstep
      exact congrArg some (forget_reply h id).symm
  | cancelPending => cases he
  | connectionLost =>
      cases he
      cases hstep
      rfl
  | stop =>
      cases he
      cases hstep
      rfl

/-! ## §8. The policy. -/

/-- How replies to identification requests are scheduled, along every run. -/
structure DiscoveryScheduling (config : Loader.DoIPConfig) : Prop where
  /-- Never more than `_MAX_PENDING_RESPONSES` are pending. -/
  bounded : ∀ p, Reachable config p → p.pendingResponses.length ≤ 256
  /-- A request that finds room gets one handle; it is not answered yet. -/
  accepted : ∀ p data addr registry transport, Reachable config p →
    IdentificationRequest p data addr → p.transport = some transport →
    p.pendingResponses.length < 256 →
    step p (.datagramReceived data addr registry) = some { p with
      handles := p.handles ++ [⟨transport, addr, data⟩]
      pendingResponses := p.pendingResponses ++ [p.handles.length] }
  /-- One that does not find room leaves no trace. -/
  rejected : ∀ p data addr registry, Reachable config p → IdentificationRequest p data addr →
    256 ≤ p.pendingResponses.length → step p (.datagramReceived data addr registry) = some p
  /-- Nothing else makes a handle. -/
  requested : ∀ p e p', step p e = some p' → p'.handles ≠ p.handles →
    ∃ data addr registry, e = .datagramReceived data addr registry
      ∧ IdentificationRequest p data addr ∧ p.pendingResponses.length < 256
  /-- No handle is lost or given to another request. -/
  kept : ∀ p e p', step p e = some p' → p.handles.IsPrefix p'.handles
  /-- No handle has sent twice. -/
  atMostOnce : ∀ p, Reachable config p → (p.sent.filterMap Sent.handle).Nodup
  /-- What it has sent went to its requester. -/
  ownRequester : ∀ p x id, Reachable config p → x ∈ p.sent → x.handle = some id →
    ∃ handle, p.handles[id]? = some handle ∧ x.addr = handle.addr
      ∧ buildFrame ptVehicleIdResponse p.payload = some x.frame
  /-- A pending reply that runs is no longer pending. -/
  recovered : ∀ p id p', Reachable config p → id ∈ p.pendingResponses →
    step p (.callback id) = some p' → p'.pendingResponses.length + 1 = p.pendingResponses.length
  /-- After a cancellation no reply is sent that was scheduled before. -/
  cancelled : ∀ p e p₀ es p', Reachable config p →
    (e = .cancelPending ∨ e = .connectionLost ∨ e = .stop) → step p e = some p₀ →
    Transition.exec step p₀ es = some p' →
    ∃ later, p'.sent = p.sent ++ later
      ∧ ∀ x ∈ later, ∀ id, x.handle = some id → p.handles.length ≤ id
  /-- After transport loss or stop nothing is sent over the transport there was. -/
  closed : ∀ p e p₀ es p', Reachable config p → (e = .connectionLost ∨ e = .stop) →
    step p e = some p₀ → (∀ transport, .connectionMade transport ∉ es) →
    Transition.exec step p₀ es = some p' → p'.sent = p.sent

/-- **Discovery scheduling**, for every configuration. -/
theorem discovery_scheduling (config : Loader.DoIPConfig) : DiscoveryScheduling config where
  bounded p h := h.inv.bounded
  accepted p data addr registry transport _ hrequest htransport hroom := by
    show some (p.datagramReceived data addr registry) = _
    rw [datagramReceived_request hrequest]
    unfold UdpProtocol.scheduleDiscovery
    have hroom : ¬ maxPendingResponses ≤ p.pendingResponses.length := Nat.not_le.mpr hroom
    rw [htransport]
    dsimp only
    rw [if_neg hroom]
  -- with no room, or no transport left, the request changes nothing
  rejected p data addr registry _ hrequest hfull := by
    show some (p.datagramReceived data addr registry) = _
    rw [datagramReceived_request hrequest]
    unfold UdpProtocol.scheduleDiscovery
    cases p.transport with
    | none => rfl
    | some transport =>
        exact congrArg some (if_pos hfull)
  requested p e p' hstep hhandles := by
    cases e with
    | datagramReceived data addr registry =>
        cases hstep
        by_cases hrequest : IdentificationRequest p data addr
        · refine ⟨data, addr, registry, rfl, hrequest, ?_⟩
          by_contra hfull
          -- without room the request is dropped before a handle is made
          refine hhandles ?_
          rw [datagramReceived_request hrequest, UdpProtocol.scheduleDiscovery]
          split
          · rfl
          · rw [if_pos (show maxPendingResponses ≤ _ from Nat.not_lt.mp hfull)]
        · refine absurd ?_ hhandles
          rcases datagramReceived_other hrequest registry with heq | ⟨payloadType, payload, heq⟩
          · rw [heq]
          · rw [heq, send_handles]
    -- a handle that fires adds none
    | callback id =>
        cases hstep
        exact absurd (reply_handles p id) hhandles
    | connectionMade transport =>
        cases hstep
        exact absurd rfl hhandles
    | cancelPending | connectionLost | stop =>
        cases hstep
        exact absurd rfl hhandles
  kept p e p' hstep := by
    cases step_change hstep with
    | scheduled => exact List.prefix_append _ _
    | ignored | connected | answered | fired | cancelled => exact List.prefix_refl _
  atMostOnce p h := h.inv.once
  ownRequester p x id h hx hid := h.inv.owned x hx id hid
  -- a fired handle makes room for one request
  recovered p id p' h hid hstep := by
    cases hstep
    rw [reply_pendingResponses (h.inv.made id hid) hid, List.length_erase_of_mem hid]
    have := List.length_pos_of_mem hid
    omega
  cancelled p e p₀ es p' _ he hstep hrun := by
    have hsince : Since p₀ p₀ ∧ p₀.sent = p.sent ∧ p₀.handles = p.handles := by
      -- each of the three cancels all that is pending, and sends nothing
      rcases he with rfl | rfl | rfl
      · cases hstep
        exact ⟨Since.refl rfl, rfl, rfl⟩
      · cases hstep
        exact ⟨Since.refl rfl, rfl, rfl⟩
      · cases hstep
        exact ⟨Since.refl rfl, rfl, rfl⟩
    obtain ⟨hsince, hsent, hhandles⟩ := hsince
    have hlater := (Transition.exec_invariant (Since p₀)
      (fun _ _ _ h hstep => h.change (step_change hstep)) es p₀ p' hsince hrun).sent
    rwa [hsent, hhandles] at hlater
  closed p e p₀ es p' _ he hstep hes hrun := by
    have hclosed : (p₀.transport = none ∧ p₀.pendingResponses = []) ∧ p₀.sent = p.sent := by
      -- both give the transport up, and only `connection_made` brings one back
      rcases he with rfl | rfl
      · cases hstep
        exact ⟨⟨rfl, rfl⟩, rfl⟩
      · cases hstep
        exact ⟨⟨rfl, rfl⟩, rfl⟩
    rw [closed_run hclosed.1 hes hrun, hclosed.2]

end DoipPlayground.EdgeNode.UdpAnnouncer.Discovery
