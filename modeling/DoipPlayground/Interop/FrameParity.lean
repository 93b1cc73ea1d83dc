/-
  DoipPlayground.Interop.FrameParity
  ──────────────────────────────────
  **SIX ENCODERS AND TWO DECODERS OF ONE FRAME FORMAT.**

  VirtualEcu, Echo ECU and PC tester pack a header with `struct`; of the
  three encoders of the EdgeNode one does so too, and two put it together
  from `bytes` and `to_bytes`.  Two of the six have a fixed version.

    • `buildFrame_eq_some` — what is built, and when nothing is,
    • `takes_buildFrame` — `read_frame` takes it off a stream,
    • `readFrame_bounded` — what `max_len` changes,
    • `frame_contract` — round trip and parity.
-/
import DoipPlayground.EchoEcu.Frames
import DoipPlayground.VirtualEcu.Doip
import DoipPlayground.EdgeNode.EcuClient
import DoipPlayground.PcTester.Tester

namespace DoipPlayground

open Wire

/-! ## §1. The encoders. -/

/-- `build_frame` -/
def VirtualEcu.Doip.buildFrame (payloadType : Nat) (payload : Bytes) (version : Nat := 0x02) :
    Option Bytes := do
  let inv := 0xFF ^^^ version
  let header ← packBBHI version inv payloadType payload.length
  return header ++ payload

/-- `DoIPSession._build_frame` -/
def EdgeNode.DoIPSession.buildFrame (payloadType : Nat) (payload : Bytes)
    (version : Nat := 0x02) : Option Bytes := do
  let inv := 0xFF ^^^ version
  let ptBytes ← toBytes 2 payloadType
  let lenBytes ← toBytes 4 payload.length
  let versions ← bytesOf [version, inv]
  return versions ++ ptBytes ++ lenBytes ++ payload

/-- `_build_frame` of the UDP announcer. -/
def EdgeNode.UdpAnnouncer.buildFrame (payloadType : Nat) (payload : Bytes)
    (version : Nat := 0x02) : Option Bytes := do
  let inv := 0xFF ^^^ version
  let versions ← bytesOf [version, inv]
  let ptBytes ← toBytes 2 payloadType
  let lenBytes ← toBytes 4 payload.length
  return versions ++ ptBytes ++ lenBytes ++ payload

/-- `_build_doip_frame` -/
def EdgeNode.EcuClient.buildDoipFrame (payloadType : Nat) (payload : Bytes) : Option Bytes := do
  let inv := 0xFF ^^^ 0x02
  let header ← packBBHI 0x02 inv payloadType payload.length
  return header ++ payload

/-! ## §2. The decoders. -/

/-- What `read_frame` raises. -/
inductive VirtualEcu.Doip.ReadError where
  /-- What `readexactly` raises. -/
  | unread (cause : StreamReader.Unread UInt8)
  /-- `FrameTooLarge` -/
  | tooLarge (declaredLen maxLen : Nat)
  deriving DecidableEq, Repr

/-- `read_frame` -/
def VirtualEcu.Doip.readFrame (maxLen : Option Nat) (reader : StreamReader UInt8) :
    Except ReadError Bytes × StreamReader UInt8 :=
  match reader.readexactly 8 with
  | (.error e, reader) => (.error (.unread e), reader)
  | (.ok hdr, reader) =>
      let plen := fromBytes ((hdr.drop 4).take 4)
      match maxLen.filter (· < plen) with
      | some maxLen => (.error (.tooLarge plen maxLen), reader)
      | none =>
          if plen = 0 then (.ok hdr, reader)
          else
            match reader.readexactly plen with
            | (.error e, reader) => (.error (.unread e), reader)
            | (.ok payload, reader) => (.ok (hdr ++ payload), reader)

namespace Interop

open VirtualEcu StreamReader

/-! ## §3. What is built. -/

/-- What can be built: a type of two bytes, a payload whose length fits in four. -/
structure Frame where
  payloadType : Nat
  payload : Bytes
  version : UInt8
  type_lt : payloadType < 65536
  length_lt : payload.length < 4294967296

/-- The bytes of a frame. -/
def Frame.bytes (f : Frame) : Bytes := buildFrame f.payloadType f.payload f.version

theorem inv_lt {version : Nat} (h : version < 256) : 0xFF ^^^ version < 256 :=
  Nat.xor_lt_two_pow (by decide : 0xFF < 2 ^ 8) h

theorem ofNat_xor (version : UInt8) :
    UInt8.ofNat (0xFF ^^^ version.toNat) = 0xFF ^^^ version := by
  apply UInt8.toNat_inj.mp
  rw [UInt8.toNat_ofNat_of_lt' (inv_lt version.toNat_lt), UInt8.toNat_xor]
  rfl

/-- The bytes of `build_frame`; it raises for nothing that is a frame. -/
theorem buildFrame_eq_some (f : Frame) :
    Doip.buildFrame f.payloadType f.payload f.version.toNat = some f.bytes := by
  unfold Doip.buildFrame
  dsimp only
  rw [packBBHI_eq, if_pos ⟨f.version.toNat_lt, inv_lt f.version.toNat_lt, f.type_lt, f.length_lt⟩,
    UInt8.ofNat_toNat, ofNat_xor]
  rfl

theorem mapM_buildFrame (frames : List Frame) :
    frames.mapM (fun f => Doip.buildFrame f.payloadType f.payload f.version.toNat)
      = some (frames.map Frame.bytes) := by
  have hbuild : (fun f : Frame => Doip.buildFrame f.payloadType f.payload f.version.toNat)
      = fun f => some f.bytes := funext buildFrame_eq_some
  rw [hbuild]
  induction frames with
  | nil => rfl
  | cons f frames ih =>
      rw [List.mapM_cons, ih]
      rfl

/-- **One format, six encoders**: the same bytes, and a failure where the
others fail. -/
theorem builders_agree (payloadType : Nat) (payload : Bytes) (version : Nat) :
    EchoEcu.build payloadType payload version = Doip.buildFrame payloadType payload version
      ∧ EdgeNode.DoIPSession.buildFrame payloadType payload version
        = Doip.buildFrame payloadType payload version
      ∧ EdgeNode.UdpAnnouncer.buildFrame payloadType payload version
        = Doip.buildFrame payloadType payload version
      ∧ EdgeNode.EcuClient.buildDoipFrame payloadType payload
        = Doip.buildFrame payloadType payload
      ∧ PcTester.build payloadType payload = Doip.buildFrame payloadType payload := by
  have hudp : EdgeNode.UdpAnnouncer.buildFrame payloadType payload version
      = Doip.buildFrame payloadType payload version := by
    unfold Doip.buildFrame EdgeNode.UdpAnnouncer.buildFrame
    dsimp only
    rw [← bytesOf_toBytes]
    cases bytesOf [version, 0xFF ^^^ version] with
    | none => rfl
    | some versions =>
        cases toBytes 2 payloadType with
        | none => rfl
        | some ptBytes =>
            cases toBytes 4 payload.length with
            | none => rfl
            | some lenBytes => rfl
  -- the session checks the version last
  have hsession : EdgeNode.DoIPSession.buildFrame payloadType payload version
      = EdgeNode.UdpAnnouncer.buildFrame payloadType payload version := by
    unfold EdgeNode.DoIPSession.buildFrame EdgeNode.UdpAnnouncer.buildFrame
    dsimp only
    cases bytesOf [version, 0xFF ^^^ version] with
    | none => cases toBytes 2 payloadType <;> cases toBytes 4 payload.length <;> rfl
    | some versions => cases toBytes 2 payloadType <;> cases toBytes 4 payload.length <;> rfl
  exact ⟨rfl, hsession.trans hudp, hudp, rfl, rfl⟩

/-! ## §4. What is read. -/

/-- Without `max_len`, `read_frame` is the one of the Echo ECU. -/
theorem readers_agree (r : StreamReader UInt8) :
    Doip.readFrame none r
      = ((EchoEcu.readFrame r).1.mapError .unread, (EchoEcu.readFrame r).2) := by
  unfold Doip.readFrame EchoEcu.readFrame
  rcases r.readexactly 8 with ⟨_ | hdr, r₁⟩
  · rfl
  · dsimp only [Option.filter]
    split
    · rfl
    · rcases r₁.readexactly (fromBytes ((hdr.drop 4).take 4)) with ⟨_ | payload, r₂⟩ <;> rfl

/-- The header of a stream declares more than `max_len`. -/
def Exceeds (maxLen : Nat) (stream : Bytes) : Prop :=
  8 ≤ stream.length ∧ maxLen < declaredLen (stream.take 8)

/-- **What `max_len` changes**: a header that declares more is refused once
it has been read, and nothing else is refused or read differently. -/
theorem readFrame_bounded (m : Nat) (r : StreamReader UInt8) :
    (Exceeds m r.stream → ∃ r', Doip.readFrame (some m) r
        = (.error (.tooLarge (declaredLen (r.stream.take 8)) m), r')
        ∧ r'.stream = r.stream.drop 8 ∧ r'.eof = r.eof)
      ∧ (¬ Exceeds m r.stream → Doip.readFrame (some m) r = Doip.readFrame none r) := by
  by_cases h8 : 8 ≤ r.stream.length
  · obtain ⟨r₁, hread, hstream₁, heof₁⟩ := r.readexactly_enough h8
    constructor
    · intro ⟨_, hlt⟩
      refine ⟨r₁, ?_, hstream₁, heof₁⟩
      have hfilter : (some m).filter (· < fromBytes (((r.stream.take 8).drop 4).take 4)) = some m :=
        if_pos (decide_eq_true hlt)
      unfold Doip.readFrame
      rw [hread]
      dsimp only
      rw [hfilter]
      rfl
    · intro hnot
      have hfilter : (some m).filter (· < fromBytes (((r.stream.take 8).drop 4).take 4)) = none :=
        if_neg (by simp only [decide_eq_true_eq]; exact fun hlt => hnot ⟨h8, hlt⟩)
      unfold Doip.readFrame
      rw [hread]
      dsimp only
      rw [hfilter]
      rfl
  · refine ⟨fun h => absurd h.1 h8, fun _ => ?_⟩
    have hshort : r.stream.length < 8 := by omega
    cases heof : r.eof with
    | true =>
        obtain ⟨r₁, hread, _⟩ := r.readexactly_incomplete hshort heof
        unfold Doip.readFrame
        rw [hread]
    | false =>
        obtain ⟨r₁, hread, _⟩ := r.readexactly_waiting hshort heof
        unfold Doip.readFrame
        rw [hread]

/-- A stream that holds the frame its header declares. -/
def Whole (stream : Bytes) : Prop := 8 + declaredLen (stream.take 8) ≤ stream.length

/-- A frame that is there is returned, and what follows it remains. -/
theorem readFrame_whole {r : StreamReader UInt8} (h : Whole r.stream) :
    ∃ r', EchoEcu.readFrame r = (.ok (r.stream.take (8 + declaredLen (r.stream.take 8))), r')
      ∧ r'.stream = r.stream.drop (8 + declaredLen (r.stream.take 8)) ∧ r'.eof = r.eof := by
  have hle : 8 + declaredLen (r.stream.take 8) ≤ r.stream.length := h
  obtain ⟨r₁, hread, hstream₁, heof₁⟩ := r.readexactly_enough (by omega : 8 ≤ r.stream.length)
  have hplen : fromBytes (((r.stream.take 8).drop 4).take 4) = declaredLen (r.stream.take 8) := rfl
  unfold EchoEcu.readFrame
  rw [hread]
  dsimp only
  rw [hplen]
  by_cases hzero : declaredLen (r.stream.take 8) = 0
  · rw [if_pos hzero, hzero]
    exact ⟨r₁, rfl, hstream₁, heof₁⟩
  · obtain ⟨r₂, hread₂, hstream₂, heof₂⟩ :=
      r₁.readexactly_enough (n := declaredLen (r.stream.take 8)) (by
        rw [hstream₁, List.length_drop]
        omega)
    rw [if_neg hzero, hread₂]
    dsimp only
    refine ⟨r₂, ?_, ?_, heof₂.trans heof₁⟩
    · rw [hstream₁, List.take_add]
    · rw [hstream₂, hstream₁, List.drop_drop]

theorem length_bytes (f : Frame) : f.bytes.length = 8 + f.payload.length := by
  simp only [Frame.bytes, buildFrame, List.length_append, List.length_cons, List.length_nil,
    length_packH, length_packI]

theorem declaredLen_bytes (f : Frame) (rest : Bytes) :
    declaredLen ((f.bytes ++ rest).take 8) = f.payload.length :=
  fromBytes_packI f.length_lt

/-- A frame that is there, and that `max_len` lets pass, is taken. -/
theorem takes_buildFrame {maxLen : Option Nat} (f : Frame)
    (hmax : ∀ m ∈ maxLen, f.payload.length ≤ m) : Takes (Doip.readFrame maxLen) f.bytes := by
  intro r rest hstream
  have hlength := length_bytes f
  have hdeclared : declaredLen (r.stream.take 8) = f.payload.length := by
    rw [hstream]
    exact declaredLen_bytes f rest
  have hunbounded : Doip.readFrame maxLen r = Doip.readFrame none r := by
    cases maxLen with
    | none => rfl
    | some m =>
        refine (readFrame_bounded m r).2 fun hexceeds => ?_
        have hlt := hexceeds.2
        have hle := hmax m rfl
        omega
  have hwhole : Whole r.stream := by
    unfold Whole
    rw [hdeclared, hstream, List.length_append, hlength]
    omega
  obtain ⟨r', hread, hstream', heof⟩ := readFrame_whole hwhole
  rw [hdeclared, ← hlength, hstream] at hread hstream'
  rw [List.take_left] at hread
  rw [List.drop_left] at hstream'
  refine ⟨r', ?_, hstream', heof⟩
  rw [hunbounded, readers_agree, hread]
  rfl

/-- `FrameTooLarge` is raised iff the header declares more than `max_len`. -/
theorem tooLarge_iff (m : Nat) (r : StreamReader UInt8) :
    (∃ declared limit, (Doip.readFrame (some m) r).1 = .error (.tooLarge declared limit))
      ↔ Exceeds m r.stream := by
  constructor
  · intro ⟨declared, limit, herror⟩
    by_contra hnot
    rw [(readFrame_bounded m r).2 hnot, readers_agree] at herror
    cases hread : (EchoEcu.readFrame r).1 with
    | error e =>
        rw [hread] at herror
        cases herror
    | ok raw =>
        rw [hread] at herror
        cases herror
  · intro hexceeds
    obtain ⟨r', hread, _⟩ := (readFrame_bounded m r).1 hexceeds
    exact ⟨_, _, congrArg Prod.fst hread⟩

/-- Of a frame that is there, nothing else can fail. -/
theorem fails_iff (m : Nat) {r : StreamReader UInt8} (h : Whole r.stream) :
    (∃ e, (Doip.readFrame (some m) r).1 = .error e) ↔ Exceeds m r.stream := by
  constructor
  · intro ⟨e, herror⟩
    by_contra hnot
    obtain ⟨r', hread, _⟩ := readFrame_whole h
    rw [(readFrame_bounded m r).2 hnot, readers_agree, hread] at herror
    cases herror
  · intro hexceeds
    obtain ⟨r', hread, _⟩ := (readFrame_bounded m r).1 hexceeds
    exact ⟨_, congrArg Prod.fst hread⟩

/-! ## §5. The contract. -/

/-- **Round trip and parity.**  Frames that were built and sent one after
the other are read back, with type, payload and version, and what follows
them is untouched.  All encoders write the same bytes, both decoders read
every stream alike, and `max_len` refuses a frame for its declared length
and for nothing else, after its header. -/
theorem frame_contract :
    (∀ frames : List Frame, ∃ raws : List Bytes,
      frames.mapM (fun f => Doip.buildFrame f.payloadType f.payload f.version.toNat) = some raws
        ∧ raws.map (fun raw => (VirtualEcu.ptype raw, VirtualEcu.payload raw, raw.head?))
          = frames.map (fun f => (f.payloadType, f.payload, some f.version))
        ∧ ∀ (maxLen : Option Nat) (rest : Bytes) (r : StreamReader UInt8),
          (∀ m ∈ maxLen, ∀ f ∈ frames, f.payload.length ≤ m) →
          r.stream = raws.flatten ++ rest →
          ∃ r', readMany (Doip.readFrame maxLen) frames.length r = (raws, none, r')
            ∧ r'.stream = rest ∧ r'.eof = r.eof)
    ∧ (∀ (payloadType : Nat) (payload : Bytes) (version : Nat),
      EchoEcu.build payloadType payload version = Doip.buildFrame payloadType payload version
        ∧ EdgeNode.DoIPSession.buildFrame payloadType payload version
          = Doip.buildFrame payloadType payload version
        ∧ EdgeNode.UdpAnnouncer.buildFrame payloadType payload version
          = Doip.buildFrame payloadType payload version
        ∧ EdgeNode.EcuClient.buildDoipFrame payloadType payload
          = Doip.buildFrame payloadType payload
        ∧ PcTester.build payloadType payload = Doip.buildFrame payloadType payload)
    ∧ (∀ (n : Nat) (r : StreamReader UInt8),
      readMany (Doip.readFrame none) n r
        = ((readMany EchoEcu.readFrame n r).1, (readMany EchoEcu.readFrame n r).2.1.map .unread,
          (readMany EchoEcu.readFrame n r).2.2))
    ∧ (∀ raw : Bytes, EchoEcu.ptype raw = VirtualEcu.ptype raw
      ∧ EchoEcu.payload raw = VirtualEcu.payload raw)
    ∧ ∀ (m : Nat) (r : StreamReader UInt8),
      ((∃ declared limit, (Doip.readFrame (some m) r).1 = .error (.tooLarge declared limit))
          ↔ Exceeds m r.stream)
        ∧ (Exceeds m r.stream → ∃ r', Doip.readFrame (some m) r
            = (.error (.tooLarge (declaredLen (r.stream.take 8)) m), r')
            ∧ r'.stream = r.stream.drop 8 ∧ r'.eof = r.eof)
        ∧ (¬ Exceeds m r.stream → Doip.readFrame (some m) r = Doip.readFrame none r)
        ∧ (Whole r.stream →
          ((∃ e, (Doip.readFrame (some m) r).1 = .error e) ↔ Exceeds m r.stream)) := by
  refine ⟨?_, builders_agree, readMany_mapError readers_agree,
    fun raw => ⟨rfl, rfl⟩, ?_⟩
  · intro frames
    refine ⟨frames.map Frame.bytes, mapM_buildFrame frames, ?_, ?_⟩
    · rw [List.map_map]
      refine List.map_congr_left fun f _ => ?_
      show (ptype f.bytes, payload f.bytes, some f.version) = _
      rw [Frame.bytes, ptype_buildFrame f.type_lt, payload_buildFrame]
    · intro maxLen rest r hmax hstream
      have htakes : ∀ piece ∈ frames.map Frame.bytes, Takes (Doip.readFrame maxLen) piece := by
        intro piece hpiece
        obtain ⟨f, hf, rfl⟩ := List.mem_map.mp hpiece
        exact takes_buildFrame f fun m hm => hmax m hm f hf
      have hmany := readMany_takes htakes rest r hstream
      rw [List.length_map] at hmany
      exact hmany
  · intro m r
    exact ⟨tooLarge_iff m r, (readFrame_bounded m r).1, (readFrame_bounded m r).2, fails_iff m⟩

end Interop

end DoipPlayground
