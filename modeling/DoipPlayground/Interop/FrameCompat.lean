/-
  DoipPlayground.Interop.FrameCompat
  ──────────────────────────────────
  **WHICH FRAMES OF A VIRTUALECU THE EDGENODE ACCEPTS.**

  Both sides read `doip.max_payload_bytes`.  The VirtualEcu bounds the UDS
  bytes of a Diagnostic Message with it, the EdgeNode the whole DoIP
  payload, addresses included.  Apart from that bound every frame a
  VirtualEcu writes has the shape `ECUConnection._read_frame` asks for.
-/
import DoipPlayground.EdgeNode.EcuClient
import DoipPlayground.VirtualEcu.Outbound

namespace DoipPlayground.Interop

open Wire VirtualEcu

/-! ## §1. The header of an outbound frame. -/

theorem isFrame_buildFrame (pt : Nat) {data : Bytes} (h : data.length < 4294967296)
    (version : UInt8) : EdgeNode.IsFrame (buildFrame pt data version) := by
  have hlen : EdgeNode.payloadLen (buildFrame pt data version) = data.length :=
    declaredLen_buildFrame pt h version
  have htotal : (buildFrame pt data version).length = 8 + data.length := by
    simp only [buildFrame, List.length_append, List.length_cons, List.length_nil, length_packH,
      length_packI]
  unfold EdgeNode.IsFrame
  rw [htotal, hlen]
  exact ⟨by omega, rfl⟩

/-- The lengths `_read_frame` asks for are those of the payloads a session sends. -/
theorem length_supported {pt : Nat} {data : Bytes} (h : Payload pt data) :
    match EdgeNode.fixedLengths pt with
    | some lengths => data.length ∈ lengths
    | none =>
        (pt = EdgeNode.ptDiagnosticMessage ∨ pt = EdgeNode.ptDiagnosticPositiveAck
          ∨ pt = EdgeNode.ptDiagnosticNegativeAck) ∧ 5 ≤ data.length := by
  cases h with
  | headerNack code =>
      show [code].length ∈ [1]
      simp
  | routingActivation sa ecu code =>
      show (packH sa ++ packH ecu ++ [code] ++ [0, 0, 0, 0] ++ [0, 0, 0, 0]).length ∈ [9, 13]
      simp
  | aliveCheckRequest =>
      show ([] : Bytes).length ∈ [0]
      simp
  | aliveCheckResponse ecu =>
      show (packH ecu).length ∈ [2]
      simp
  | positiveAck ecu sa code =>
      show _ ∧ 5 ≤ (packH ecu ++ packH sa ++ [code]).length
      exact ⟨.inr (.inl rfl), by simp⟩
  | negativeAck ecu sa code =>
      show _ ∧ 5 ≤ (packH ecu ++ packH sa ++ [code]).length
      exact ⟨.inr (.inr rfl), by simp⟩
  | diagnostic ecu sa uds hne =>
      show _ ∧ 5 ≤ (packH ecu ++ packH sa ++ uds).length
      have hpos := List.length_pos_iff.mpr hne
      refine ⟨.inl rfl, ?_⟩
      simp only [List.length_append, length_packH]
      omega

theorem payload_type_lt {pt : Nat} {data : Bytes} (h : Payload pt data) : pt < 65536 := by
  cases h <;> decide

/-- The header check fails on the length of the payload only. -/
theorem checkHeader_outbound {pt : Nat} {data : Bytes} {version : UInt8} (h : Payload pt data)
    (hv : version ∈ acceptedVersions) (hlen : data.length < 4294967296) (maxPayloadBytes : Nat) :
    EdgeNode.checkHeader maxPayloadBytes ((buildFrame pt data version).take 8)
      = if maxPayloadBytes < data.length then some .payloadTooLarge else none := by
  have hpt : EdgeNode.ptype ((buildFrame pt data version).take 8) = pt :=
    fromBytes_packH (payload_type_lt h)
  have hdata : EdgeNode.payloadLen ((buildFrame pt data version).take 8) = data.length :=
    fromBytes_packI hlen
  have hversion : ¬ ((version ≠ 0x02 ∧ version ≠ 0x03) ∨ 0xFF ^^^ version ≠ version ^^^ 0xFF) := by
    rw [UInt8.xor_comm]
    simp only [acceptedVersions, List.mem_cons, List.not_mem_nil, or_false] at hv
    rcases hv with rfl | rfl <;> simp
  have hsupported := length_supported h
  unfold EdgeNode.checkHeader
  dsimp only
  rw [hpt, hdata]
  show (if (version ≠ 0x02 ∧ version ≠ 0x03) ∨ 0xFF ^^^ version ≠ version ^^^ 0xFF then _ else _)
    = _
  rw [if_neg hversion]
  split
  · rfl
  cases hfixed : EdgeNode.fixedLengths pt with
  | some lengths =>
      rw [hfixed] at hsupported
      simpa using hsupported
  | none =>
      rw [hfixed] at hsupported
      obtain ⟨htype, hfive⟩ := hsupported
      simp [htype, hfive]

/-! ## §2. Acceptance. -/

/-- An outbound frame is taken off the stream, or its payload is too large. -/
theorem readFrame_outbound {raw : Bytes} (h : Outbound raw) (maxPayloadBytes : Nat)
    (rest : Bytes) :
    EdgeNode.readFrame maxPayloadBytes (raw ++ rest)
      = if maxPayloadBytes < (payload raw).length then .error .payloadTooLarge
        else .ok (raw, rest) := by
  obtain ⟨pt, data, version, hv, hp, hlen, rfl⟩ := h
  rw [EdgeNode.readFrame_append (isFrame_buildFrame pt hlen version),
    checkHeader_outbound hp hv hlen, payload_buildFrame]
  by_cases hlt : maxPayloadBytes < data.length
  · rw [if_pos hlt, if_pos hlt]
  · rw [if_neg hlt, if_neg hlt]

/-- **Compatibility up to the limit**: of everything a VirtualEcu writes in
any run, the EdgeNode accepts the frames whose payload is within
`max_payload_bytes`, and refuses the others for their length.  Only a
Diagnostic Message can be longer than 13 bytes: it has the two addresses on
top of its UDS response. -/
theorem written_frame_accepted (cfg : EcuConfig) (es : List Event) (w : World)
    (hrun : Transition.exec (step cfg) (World.init cfg) es = some w) (i : Sid) (raw : Bytes)
    (hraw : raw ∈ (w.sessions i).wire) (rest : Bytes) :
    ((payload raw).length ≤ cfg.doip.maxPayloadBytes →
        EdgeNode.readFrame cfg.doip.maxPayloadBytes (raw ++ rest) = .ok (raw, rest))
      ∧ (cfg.doip.maxPayloadBytes < (payload raw).length →
        EdgeNode.readFrame cfg.doip.maxPayloadBytes (raw ++ rest) = .error .payloadTooLarge)
      ∧ (ptype raw ≠ ptDiagnosticMessage → (payload raw).length ≤ 13)
      ∧ (ptype raw = ptDiagnosticMessage → ∃ ecu sa, ∃ uds ≠ [],
        payload raw = packH ecu ++ packH sa ++ uds) := by
  have hout := outbound_of_run es w hrun i raw hraw
  rw [readFrame_outbound hout]
  refine ⟨fun hle => if_neg (by omega), fun hlt => if_pos hlt, ?_⟩
  obtain ⟨pt, data, version, _, hp, _, rfl⟩ := hout
  rw [ptype_buildFrame (payload_type_lt hp), payload_buildFrame]
  refine ⟨hp.length_le, ?_⟩
  intro hpt
  cases hp with
  | diagnostic ecu sa uds hne => exact ⟨ecu, sa, uds, hne, rfl⟩
  | _ => cases hpt

/-! ## §3. Two limits under one key. -/

/-- A limit of 16 bytes, and a DID of 13: its read response has just 16. -/
def tightConfig : EcuConfig where
  doip := { maxPayloadBytes := 16 }
  dids := fun did =>
    if did = 0xF190 then some { length := some 13, value := some (List.replicate 13 0x41) }
    else none

theorem tightConfig_accepted : tightConfig.Accepted where
  ecuLogicalAddr := by decide
  maxPayloadBytes := by decide
  testerAddrRange := by decide
  maxConcurrentSessions := by decide
  defaultSession := by decide
  p2ServerMs := by decide
  p2StarServerMs := by decide
  functionalAddr := by decide
  seed := by decide
  key := by decide
  didValue := by
    intro d spec h
    simp only [tightConfig, Option.ite_none_right_eq_some, Option.some.injEq] at h
    simp [← h.2]
  didLength := by
    intro d spec n v h hn hv
    simp only [tightConfig, Option.ite_none_right_eq_some, Option.some.injEq] at h
    rw [← h.2] at hn hv
    cases hn
    cases hv
    rfl
  didWrite := by
    intro d spec h hw
    simp only [tightConfig, Option.ite_none_right_eq_some, Option.some.injEq] at h
    rw [← h.2] at hw
    cases hw

/-- A tester activates and reads the DID. -/
def readsDid : List Event :=
  asks 0 0x0E00 ++ [.sent 0] ++ requests 0 0x0E00 [0x22, 0xF1, 0x90]

/-- The three frames of that run: confirmation, Positive ACK, response. -/
def readsDidWire : List Bytes :=
  [buildFrame ptRoutingActResponse
      (packH 0x0E00 ++ packH 0x0003 ++ [0x10] ++ [0, 0, 0, 0] ++ [0, 0, 0, 0]) ver,
    buildFrame ptDiagnosticPositiveAck (packH 0x0003 ++ packH 0x0E00 ++ [0x00]) ver,
    buildFrame ptDiagnosticMessage
      (packH 0x0003 ++ packH 0x0E00 ++ [0x62, 0xF1, 0x90] ++ List.replicate 13 0x41) ver]

set_option maxRecDepth 8000 in
theorem readsDid_wire :
    ((Transition.exec (step tightConfig) (World.init tightConfig) readsDid).map
      (fun w => (w.sessions 0).wire)) = some readsDidWire := by decide

/-- The confirmation is within the limit, the response is not. -/
theorem written_frame_accepted_tight :
    ∃ w, Transition.exec (step tightConfig) (World.init tightConfig) readsDid = some w
      ∧ ∃ raw ∈ (w.sessions 0).wire,
        EdgeNode.readFrame tightConfig.doip.maxPayloadBytes (raw ++ []) = .ok (raw, []) := by
  obtain ⟨w, hw, hwire⟩ := Option.map_eq_some_iff.mp readsDid_wire
  have hmem : readsDidWire.headD [] ∈ (w.sessions 0).wire := by
    rw [hwire]
    exact List.mem_cons_self
  exact ⟨w, hw, _, hmem,
    (written_frame_accepted tightConfig readsDid w hw 0 _ hmem []).1 (by decide)⟩

/-- The response is within the limit of the one side and beyond that of the other. -/
theorem long_response_refused :
    ¬ ∀ (cfg : EcuConfig) (es : List Event) (w : World), cfg.Accepted →
      Transition.exec (step cfg) (World.init cfg) es = some w →
      ∀ (i : Sid), ∀ raw ∈ (w.sessions i).wire, ∀ rest,
        EdgeNode.readFrame cfg.doip.maxPayloadBytes (raw ++ rest) = .ok (raw, rest) := by
  intro hall
  obtain ⟨w, hw, hwire⟩ := Option.map_eq_some_iff.mp readsDid_wire
  have hmem : readsDidWire.getLastD [] ∈ (w.sessions 0).wire := by
    rw [hwire]
    decide
  have hok := hall tightConfig readsDid w tightConfig_accepted hw 0 _ hmem []
  have herr : EdgeNode.readFrame tightConfig.doip.maxPayloadBytes (readsDidWire.getLastD [] ++ [])
      = .error .payloadTooLarge := by rfl
  rw [herr] at hok
  cases hok

end DoipPlayground.Interop
