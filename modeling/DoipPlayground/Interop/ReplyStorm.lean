/-
  DoipPlayground.Interop.ReplyStorm
  ─────────────────────────────────
  **DISCOVERY LISTENERS THAT HEAR EACH OTHER.**

  The EdgeNode rejects responses it does not expect, VirtualEcu answers no
  response at all.  What keeps them from answering each other for ever is
  that a header NACK is answered by neither, and that everything else they
  send is answered by a header NACK at most.

    • `rank` — how many replies may still follow a datagram,
    • `rank_lt_of_reply` — every reply ranks below what it answers,
    • `no_reply_storm` — at most two replies follow each other,
    • `two_replies` — two do, between any two EdgeNodes.
-/
import DoipPlayground.EdgeNode.UdpAnnouncer
import DoipPlayground.VirtualEcu.Udp

namespace DoipPlayground.Interop

open Wire
open EdgeNode.UdpAnnouncer (headerNack)
open VirtualEcu (ptype)
open VirtualEcu.Udp (udpNeverNackTypes)

/-! ## §1. The listeners. -/

/-- A listener with a configuration that its loader accepts. -/
inductive Listener where
  | edgeNode (config : EdgeNode.Loader.DoIPConfig)
      (accepted : ∃ raw, EdgeNode.Loader.loadDoip raw = .ok config)
  | virtualEcu (config : VirtualEcu.Loader.EcuConfig) (maxSockets : Int) (localIps : List String)
      (accepted : ∃ raw, VirtualEcu.Loader.parseConfig raw = .ok config)

/-- The listener as a party that answers datagrams. -/
def Listener.responder : Listener → Responder Bytes
  | .edgeNode config _ => EdgeNode.UdpAnnouncer.UdpProtocol.responder config
  | .virtualEcu config maxSockets localIps _ =>
      VirtualEcu.Udp.Listener.responder config maxSockets localIps

/-- In some run of the listener, `reply` is sent for `data`. -/
def Listener.Reply (l : Listener) (data reply : Bytes) : Prop := l.responder.Reply data reply

/-! ## §2. How far a datagram can lead. -/

def IsHeaderNack (data : Bytes) : Prop := ∃ code, data = headerNack code

instance IsHeaderNack.decidable (data : Bytes) : Decidable (IsHeaderNack data) :=
  decidable_of_iff (data = headerNack (data.getLastD 0)) (by
    constructor
    · intro h
      exact ⟨_, h⟩
    · intro h
      obtain ⟨code, rfl⟩ := h
      rfl)

/-- A header NACK leads nowhere, a response to a header NACK, a request to a response. -/
def rank (data : Bytes) : Nat :=
  if IsHeaderNack data then 0 else if ptype data ∈ udpNeverNackTypes then 1 else 2

theorem rank_le (data : Bytes) : rank data ≤ 2 := by
  unfold rank
  split
  · omega
  · split <;> omega

theorem rank_headerNack (code : UInt8) : rank (headerNack code) = 0 := if_pos ⟨code, rfl⟩

theorem rank_response {data : Bytes} (h : ptype data ∈ udpNeverNackTypes) : rank data ≤ 1 := by
  unfold rank
  rw [if_pos h]
  split <;> omega

theorem rank_other {data : Bytes} (h : ptype data ∉ udpNeverNackTypes) : rank data = 2 := by
  have hnack : ¬ IsHeaderNack data := by
    intro hnack
    obtain ⟨code, rfl⟩ := hnack
    exact h (by decide : 0x0000 ∈ udpNeverNackTypes)
  unfold rank
  rw [if_neg hnack, if_neg h]

theorem rank_pos {data : Bytes} (h : ∀ code, data ≠ headerNack code) : 0 < rank data := by
  unfold rank
  rw [if_neg fun hnack => by
    obtain ⟨code, heq⟩ := hnack
    exact h code heq]
  split <;> omega

/-- What was built has the type it was built with. -/
theorem ptype_of_buildFrame {payloadType : Nat} {payload frame : Bytes}
    (h : VirtualEcu.Doip.buildFrame payloadType payload = some frame) :
    ptype frame = payloadType := by
  unfold VirtualEcu.Doip.buildFrame at h
  dsimp only at h
  rw [packBBHI_eq] at h
  by_cases hfits : 0x02 < 256 ∧ 0xFF ^^^ 0x02 < 256 ∧ payloadType < 65536
      ∧ payload.length < 4294967296
  · rw [if_pos hfits] at h
    cases h
    exact fromBytes_packH hfits.2.2.1
  · rw [if_neg hfits] at h
    cases h

/-! ## §3. Replies rank lower. -/

theorem rank_lt_of_edgeNode {data reply : Bytes} (h : EdgeNode.UdpAnnouncer.Answers data reply) :
    rank reply < rank data := by
  rcases h with ⟨code, rfl, hother⟩ | ⟨payloadType, hresponse, payload, hbuilt, hrequest⟩
  -- a NACK ranks 0, and what it answers is no NACK
  · rw [rank_headerNack]
    exact rank_pos hother
  -- a response ranks 1, the request it answers 2
  · obtain ⟨_, _, hsame, _⟩ := builders_agree payloadType payload 0x02
    rw [hsame] at hbuilt
    have hreply : rank reply ≤ 1 := by
      refine rank_response ?_
      rw [ptype_of_buildFrame hbuilt]
      exact List.mem_cons_of_mem _ hresponse
    have hdata : rank data = 2 := by
      refine rank_other fun hsilent => ?_
      have hdisjoint : ∀ t ∈ EdgeNode.UdpAnnouncer.requests, t ∉ udpNeverNackTypes := by decide
      exact hdisjoint _ hrequest hsilent
    omega

theorem rank_lt_of_virtualEcu {data reply : Bytes} (h : VirtualEcu.Udp.Answers data reply) :
    rank reply < rank data := by
  obtain ⟨hother, payloadType, hresponse, payload, hbuilt⟩ := h
  have hreply : rank reply ≤ 1 := by
    refine rank_response ?_
    rw [ptype_of_buildFrame hbuilt]
    exact hresponse
  rw [rank_other hother]
  omega

/-- **Every reply ranks below what it answers**, whoever sends it. -/
theorem rank_lt_of_reply {l : Listener} {data reply : Bytes} (h : l.Reply data reply) :
    rank reply < rank data := by
  cases l with
  | edgeNode config accepted =>
      obtain ⟨raw, hraw⟩ := accepted
      exact rank_lt_of_edgeNode
        (EdgeNode.UdpAnnouncer.UdpProtocol.answers_of_reply (EdgeNode.Loader.loadDoip_ok hraw) h)
  | virtualEcu config maxSockets localIps accepted =>
      exact rank_lt_of_virtualEcu (VirtualEcu.Udp.Listener.answers_of_reply h)

/-! ## §4. No reply storm. -/

/-- **At most two replies follow each other**, whatever the first datagram
is and whichever listeners hear it and its replies. -/
theorem no_reply_storm (d : Bytes) :
    (¬ ∃ (l₁ l₂ l₃ : Listener) (r₁ r₂ r₃ : Bytes),
      l₁.Reply d r₁ ∧ l₂.Reply r₁ r₂ ∧ l₃.Reply r₂ r₃)
    ∧ ∀ replies : List Bytes,
      List.IsChain (fun data reply => ∃ l : Listener, l.Reply data reply) (d :: replies) →
      replies.length ≤ 2 := by
  have hchain : ∀ replies : List Bytes,
      List.IsChain (fun data reply => ∃ l : Listener, l.Reply data reply) (d :: replies) →
      replies.length ≤ 2 := by
    intro replies h
    have hlower : ∀ data reply, (∃ l : Listener, l.Reply data reply) → rank reply < rank data := by
      intro data reply hreply
      obtain ⟨l, hl⟩ := hreply
      exact rank_lt_of_reply hl
    exact (ReplyChain.length_le_rank hlower replies d h).trans (rank_le d)
  refine ⟨?_, hchain⟩
  intro h
  obtain ⟨l₁, l₂, l₃, r₁, r₂, r₃, h₁, h₂, h₃⟩ := h
  have hthree := hchain [r₁, r₂, r₃] (by
    rw [List.isChain_cons_cons, List.isChain_cons_cons, List.isChain_cons_cons]
    exact ⟨⟨l₁, h₁⟩, ⟨l₂, h₂⟩, ⟨l₃, h₃⟩, List.isChain_singleton _⟩)
  have hlength : [r₁, r₂, r₃].length = 3 := rfl
  omega

/-! ## §5. The bound is reached. -/

/-- A power mode request. -/
def powerModeRequest : Bytes := [0x02, 0xFD, 0x40, 0x03, 0x00, 0x00, 0x00, 0x00]

/-- The answer to it. -/
def powerModeResponse (powerMode : UInt8) : Bytes :=
  [0x02, 0xFD, 0x40, 0x04, 0x00, 0x00, 0x00, 0x01, powerMode]

section
open EdgeNode.UdpAnnouncer EdgeNode.UdpAnnouncer.UdpProtocol

variable {config : EdgeNode.Loader.DoIPConfig}

/-- A running EdgeNode listener sends what it sends for one datagram. -/
theorem reply_of_send {data frame payload : Bytes} {payloadType : Nat}
    (h : config.Checked)
    (hbuilt : buildFrame payloadType payload = some frame)
    (hsends : ∀ (p : EdgeNode.UdpAnnouncer.UdpProtocol)
      (registry : EdgeNode.Sockets.SessionRegistry), p.config = config →
      p.datagramReceived data (some 1) registry = p.send data payloadType payload) :
    (UdpProtocol.responder config).Reply data frame := by
  obtain ⟨announcement, hpayload, _⟩ := announcementPayload_isSome h
  have hnew : UdpProtocol.new config
      = some { config, payload := announcement } := by
    unfold UdpProtocol.new
    rw [hpayload]
    rfl
  let registry : EdgeNode.Sockets.SessionRegistry :=
    { maxConnections := 8, range := by omega, openSockets := .empty }
  refine ⟨_, [.connectionMade 0, .datagramReceived data (some 1) registry], _, hnew, rfl, ?_⟩
  show (data, frame) ∈ (UdpProtocol.datagramReceived _ data (some 1) registry).sent
  rw [hsends _ registry rfl]
  unfold UdpProtocol.send
  rw [hbuilt]
  exact List.mem_append_right _ (List.mem_singleton_self _)

theorem reply_powerModeRequest (h : config.Checked) :
    ∃ powerMode, (UdpProtocol.responder config).Reply powerModeRequest
      (powerModeResponse powerMode) := by
  have hmax := h.maxPayloadBytes
  have hpower := h.powerMode
  have htype : packH ptPowerModeResponse = [0x40, 0x04] := by decide
  have hbuilt : ∀ b, buildFrame ptPowerModeResponse [b] = some (powerModeResponse b) := by
    intro b
    rw [buildFrame_byte (by decide), htype]
    rfl
  refine ⟨_, reply_of_send h (hbuilt (UInt8.ofNat config.powerMode.toNat)) ?_⟩
  intro p registry hp
  have hpayload : p.powerModePayload = some [UInt8.ofNat config.powerMode.toNat] := by
    unfold UdpProtocol.powerModePayload Python.byte?
    rw [hp, if_pos (by omega)]
    rfl
  have hfits : ¬ p.config.maxPayloadBytes < ((0 : Nat) : Int) := by
    rw [hp]
    omega
  have hrequest : fromBytes ((powerModeRequest.drop 2).take 2) = ptPowerModeRequest := by decide
  have hlength : fromBytes ((powerModeRequest.drop 4).take 4) = 0 := by decide
  have hlookup : udpPayloadLengths.lookup ptPowerModeRequest = some [0] := by decide
  unfold UdpProtocol.datagramReceived
  rw [if_neg (by decide)]
  dsimp only
  rw [if_neg (by decide), hrequest, hlookup]
  dsimp only
  rw [hlength, if_neg hfits, if_neg (by decide)]
  unfold UdpProtocol.dispatch
  rw [if_neg (by decide), if_neg (fun hno => absurd hno.1 (by decide)),
    if_neg (fun hno => absurd hno.1 (by decide)), if_neg (by decide), if_pos rfl, hpayload]
  rfl

theorem reply_powerModeResponse (h : config.Checked) (powerMode : UInt8) :
    (UdpProtocol.responder config).Reply (powerModeResponse powerMode)
      (headerNack 0x01) := by
  refine reply_of_send h (buildFrame_headerNack 0x01) ?_
  intro p registry _
  have hinverse : (0x02 : UInt8) ^^^ 0xFF = 0xFD := by decide
  have hlong : ¬ (powerModeResponse powerMode).length < 8 := by simp [powerModeResponse]
  have hallowed : sourceAllowed (some 1) = true := by decide
  have hresponse : fromBytes (((powerModeResponse powerMode).drop 2).take 2)
      = ptPowerModeResponse := (by decide : fromBytes [0x40, 0x04] = ptPowerModeResponse)
  have hlookup : udpPayloadLengths.lookup ptPowerModeResponse = none := by decide
  unfold UdpProtocol.datagramReceived
  rw [if_neg (by simp [hlong, hallowed])]
  dsimp only
  rw [if_neg (by simp [powerModeResponse, hinverse]), hresponse, hlookup]
  rfl

end

/-- Any EdgeNode answers a power mode request, and any EdgeNode that hears
the answer rejects it. -/
theorem two_replies (first second : EdgeNode.Loader.DoIPConfig) 
    (h₁ : ∃ raw, EdgeNode.Loader.loadDoip raw = .ok first)
    (h₂ : ∃ raw, EdgeNode.Loader.loadDoip raw = .ok second) :
    ∃ r₁ r₂, (Listener.edgeNode first h₁).Reply powerModeRequest r₁
      ∧ (Listener.edgeNode second h₂).Reply r₁ r₂ := by
  obtain ⟨raw₁, hraw₁⟩ := h₁
  obtain ⟨raw₂, hraw₂⟩ := h₂
  obtain ⟨powerMode, hfirst⟩ := reply_powerModeRequest (EdgeNode.Loader.loadDoip_ok hraw₁)
  exact ⟨_, _, hfirst, reply_powerModeResponse (EdgeNode.Loader.loadDoip_ok hraw₂) powerMode⟩

end DoipPlayground.Interop
