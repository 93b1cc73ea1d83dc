/-
  DoipPlayground.EdgeNode.Middleware
  ──────────────────────────────────
  **THE MIDDLEWARE CHAIN OF A SESSION** (`middleware/`).

  A chain belongs to one session, which runs one packet at a time through
  it, in either direction.  What `random` draws is part of the packet's
  item, one entry for each stage it may still meet.  Sleeps and injected
  packets are effects; what is written to a log is left out.

    • `Middleware.process` — the eight classes of `_CLASS_MAP`,
    • `MiddlewareChain.run` — a packet through the enabled ones,
    • `headerFault_cadence` — which packets a header fault hits,
    • `replay_burst` — what a replay injects, and when,
    • `passive_transparent` — chains that leave a direction alone.
-/
import DoipPlayground.EdgeNode.Gate
import DoipPlayground.Lib.Stages
import Mathlib.Data.Rat.Defs
import Mathlib.Algebra.Order.Ring.Rat
import Mathlib.Tactic.Linarith

namespace DoipPlayground.EdgeNode.Middleware

open Wire
open Gate (Scapy)
open Stages (Outcome Trace runs chain survivors)

/-! ## §1. Packets and chance. -/

inductive Direction where
  | testerToEcu
  | ecuToTester
  deriving DecidableEq, Repr

/-- The fields that are assigned. -/
inductive Field where
  | protocolVersion
  | inverseVersion
  | payloadType
  | payloadLength
  | sourceAddress
  | targetAddress
  deriving DecidableEq, Repr

/-- Scapy's `DoIP` with `setattr`. -/
structure Packets (π : Type) extends Scapy π where
  setattr : Field → Nat → π → π

/-- What the module `random` returns. -/
structure Draws where
  /-- `random.random()` -/
  random : ℚ
  random_mem : 0 ≤ random ∧ random < 1
  /-- `random.randint(0, n)` -/
  randint : Nat → Nat
  randint_le : ∀ n, randint n ≤ n

/-- A packet on its way through a chain. -/
structure Item (π : Type) where
  pkt : π
  direction : Direction
  draws : Nat → Draws

variable {π : Type}

/-- The next stage draws for itself. -/
def Item.next (item : Item π) (pkt : π) : Item π :=
  { item with pkt, draws := fun i => item.draws (i + 1) }

/-- What a stage does besides. -/
inductive Effect (π : Type) where
  /-- `asyncio.sleep`, in milliseconds. -/
  | slept (ms : Nat)
  /-- `session.send_to_ecu` -/
  | injected (pkt : π)

/-- The packet, if the stage injected one. -/
def Effect.injected? : Effect π → Option π
  | .injected pkt => some pkt
  | .slept _ => none

/-! ## §2. The classes. -/

structure DropMiddleware where
  dropRate : ℚ
  matchDirection : Option Direction
  matchPayloadType : Option Nat

/-- `_matches` -/
def DropMiddleware.isMatch (scapy : Packets π) (mw : DropMiddleware) (pkt : π)
    (direction : Direction) : Bool :=
  if mw.matchDirection.isSome ∧ mw.matchDirection ≠ some direction then false
  else if mw.matchPayloadType.isSome ∧ scapy.payloadType pkt ≠ mw.matchPayloadType then false
  else true

structure DelayMiddleware where
  delayMs : Nat
  jitterMs : Nat

/-- `total_ms` -/
def DelayMiddleware.totalMs (mw : DelayMiddleware) (draws : Draws) : Nat :=
  mw.delayMs + draws.randint (max 0 mw.jitterMs)

structure CorruptMiddleware where
  byteOffset : Option Nat
  flipMask : UInt8

/-- `_DOIP_HEADER_LEN` -/
def doipHeaderLen : Nat := 8

def CorruptMiddleware.corrupt (scapy : Packets π) (mw : CorruptMiddleware) (draws : Draws)
    (pkt : π) : π :=
  let raw := scapy.bytes pkt
  let payload := raw.drop doipHeaderLen
  if payload = [] then pkt
  else
    let offset :=
      match mw.byteOffset with
      | none => draws.randint (payload.length - 1)
      | some offset => offset
    if payload.length ≤ offset then pkt
    else scapy.dissect (raw.take doipHeaderLen ++ payload.modify offset (· ^^^ mw.flipMask))

structure ReplayMiddleware (π : Type) where
  record : Bool
  replayCount : Nat
  recorded : List π := []
  replayed : Bool := false

/-- Recording, and the packets `_replay` injects. -/
def ReplayMiddleware.take (mw : ReplayMiddleware π) (pkt : π) (direction : Direction) :
    ReplayMiddleware π × List π :=
  if mw.record = false then (mw, [])
  else if direction = .testerToEcu ∧ mw.replayed = false then
    let recorded := mw.recorded ++ [pkt]
    if mw.replayCount ≤ recorded.length then
      ({ mw with recorded, replayed := true }, recorded)
    else ({ mw with recorded }, [])
  else (mw, [])

structure AddressMiddleware where
  srcOverride : Option Nat
  tgtOverride : Option Nat

def AddressMiddleware.override (scapy : Packets π) (mw : AddressMiddleware) (pkt : π) : π :=
  let pkt :=
    match mw.srcOverride with
    | some src => scapy.setattr .sourceAddress src pkt
    | none => pkt
  match mw.tgtOverride with
  | some tgt => scapy.setattr .targetAddress tgt pkt
  | none => pkt

inductive HeaderFault where
  | wrongVersion
  | badInverse
  | badLength
  | unknownType
  deriving DecidableEq, Repr

/-- `direction` is `none` for both. -/
structure HeaderFaultMiddleware where
  fault : HeaderFault
  direction : Option Direction
  injectOnNth : Nat
  counter : Nat := 0

/-- The direction is one the fault is for. -/
def HeaderFaultMiddleware.targets (mw : HeaderFaultMiddleware) (direction : Direction) : Bool :=
  !(mw.direction.isSome && mw.direction != some direction)

/-- `_should_inject` -/
def HeaderFaultMiddleware.shouldInject (mw : HeaderFaultMiddleware) (direction : Direction) :
    HeaderFaultMiddleware × Bool :=
  if mw.targets direction = false then (mw, false)
  else if mw.injectOnNth ≤ mw.counter + 1 then ({ mw with counter := 0 }, true)
  else ({ mw with counter := mw.counter + 1 }, false)

/-- `_apply_fault` -/
def HeaderFaultMiddleware.applyFault (scapy : Packets π) (mw : HeaderFaultMiddleware) (pkt : π) :
    π :=
  let corrupted := scapy.dissect (scapy.bytes pkt)
  match mw.fault with
  | .wrongVersion => scapy.setattr .protocolVersion 0xFF corrupted
  | .badInverse => scapy.setattr .inverseVersion 0x00 corrupted
  | .badLength => scapy.setattr .payloadLength 0xFFFFFFFF corrupted
  | .unknownType => scapy.setattr .payloadType 0xDEAD corrupted

def HeaderFaultMiddleware.process (scapy : Packets π) (mw : HeaderFaultMiddleware) (pkt : π)
    (direction : Direction) : HeaderFaultMiddleware × π :=
  let (mw, inject) := mw.shouldInject direction
  (mw, if inject then mw.applyFault scapy pkt else pkt)

end DoipPlayground.EdgeNode.Middleware

namespace DoipPlayground.EdgeNode

open Stages (Outcome Trace runs chain survivors)
open Middleware

/-- An instance of one of the classes. -/
inductive Middleware (π : Type) where
  | logger
  | drop (mw : DropMiddleware)
  | delay (mw : DelayMiddleware)
  | corrupt (mw : CorruptMiddleware)
  | replay (mw : ReplayMiddleware π)
  | address (mw : AddressMiddleware)
  | headerFault (mw : HeaderFaultMiddleware)
  | tlsFault

namespace Middleware

variable {π : Type} (scapy : Packets π)

def process : Middleware π → Item π → Outcome (Middleware π) (Item π) (Effect π)
  | .logger, item => (.logger, some (item.next item.pkt), [])
  | .drop mw, item =>
      if mw.isMatch scapy item.pkt item.direction = true ∧ (item.draws 0).random < mw.dropRate then
        (.drop mw, none, [])
      else (.drop mw, some (item.next item.pkt), [])
  | .delay mw, item =>
      let totalMs := mw.totalMs (item.draws 0)
      (.delay mw, some (item.next item.pkt), if 0 < totalMs then [.slept totalMs] else [])
  | .corrupt mw, item =>
      (.corrupt mw, some (item.next (mw.corrupt scapy (item.draws 0) item.pkt)), [])
  | .replay mw, item =>
      let (mw, injected) := mw.take item.pkt item.direction
      (.replay mw, some (item.next item.pkt), injected.map .injected)
  | .address mw, item => (.address mw, some (item.next (mw.override scapy item.pkt)), [])
  | .headerFault mw, item =>
      let (mw, pkt) := mw.process scapy item.pkt item.direction
      (.headerFault mw, some (item.next pkt), [])
  | .tlsFault, item => (.tlsFault, some (item.next item.pkt), [])

end Middleware

/-- `MiddlewareChain(middlewares)`, each with its `enabled`. -/
def MiddlewareChain {π : Type} (middlewares : List (Bool × Middleware π)) : List (Middleware π) :=
  (middlewares.filter Prod.fst).map Prod.snd

/-- `MiddlewareChain.run` -/
def MiddlewareChain.run {π : Type} (scapy : Packets π) (ms : List (Middleware π)) (item : Item π) :
    Outcome (List (Middleware π)) (Item π) (Effect π) :=
  chain (Middleware.process scapy) ms item

namespace Middleware

variable {π : Type} (scapy : Packets π)

/-- The packets of a session through its chain, in order. -/
abbrev session (ms : List (Middleware π)) (items : List (Item π)) :
    List (Middleware π) × Trace (Item π) (Effect π) :=
  runs (MiddlewareChain.run scapy) ms items

/-- What reaches the end of a chain. -/
abbrev output (ms : List (Middleware π)) (items : List (Item π)) : List (Item π) :=
  survivors (session scapy ms items).2

/-- A stage behind others, on its own: what comes of the items it sees. -/
abbrev seen (before : List (Middleware π)) (mw : Middleware π) (items : List (Item π)) :
    Trace (Item π) (Effect π) :=
  (runs (process scapy) mw (output scapy before items)).2

/-! ## §3. Header faults. -/

/-- The middleware after so many packets since its last fault. -/
def counting (mw : HeaderFaultMiddleware) (c : Nat) : HeaderFaultMiddleware :=
  { mw with counter := c }

/-- How many of the items the fault is for. -/
def aimed (mw : HeaderFaultMiddleware) (items : List (Item π)) : Nat :=
  items.countP fun item => mw.targets item.direction

theorem shouldInject_counting (mw : HeaderFaultMiddleware) {c : Nat} (hc : c < mw.injectOnNth)
    (item : Item π) :
    (counting mw c).shouldInject item.direction
      = (counting mw ((c + aimed mw [item]) % mw.injectOnNth),
        decide (mw.targets item.direction = true ∧ mw.injectOnNth ∣ c + 1)) := by
  have htargets : (counting mw c).targets item.direction = mw.targets item.direction := rfl
  unfold HeaderFaultMiddleware.shouldInject
  rw [htargets]
  cases ht : mw.targets item.direction with
  | false =>
      have haimed : aimed mw [item] = 0 := by simp [aimed, ht]
      rw [if_pos rfl, haimed, Nat.add_zero, Nat.mod_eq_of_lt hc]
      simp
  | true =>
      have haimed : aimed mw [item] = 1 := by simp [aimed, ht]
      rw [if_neg (by simp), haimed]
      show (if mw.injectOnNth ≤ c + 1 then (counting mw 0, true)
        else (counting mw (c + 1), false)) = _
      by_cases hfull : mw.injectOnNth ≤ c + 1
      · have heq : c + 1 = mw.injectOnNth := by omega
        rw [if_pos hfull, heq, Nat.mod_self]
        simp
      · have hndvd : ¬ mw.injectOnNth ∣ c + 1 := by
          intro hdvd
          exact hfull (Nat.le_of_dvd (by omega) hdvd)
        rw [if_neg hfull, Nat.mod_eq_of_lt (by omega)]
        simp [hndvd]

/-- One packet: counted if the fault is for it, and hit if the count is full. -/
theorem process_counting (mw : HeaderFaultMiddleware) {c : Nat} (hc : c < mw.injectOnNth)
    (item : Item π) :
    process scapy (.headerFault (counting mw c)) item
      = (.headerFault (counting mw ((c + aimed mw [item]) % mw.injectOnNth)),
        some (item.next
          (if mw.targets item.direction = true ∧ mw.injectOnNth ∣ c + 1 then
            mw.applyFault scapy item.pkt else item.pkt)), []) := by
  unfold process HeaderFaultMiddleware.process
  dsimp only
  rw [shouldInject_counting mw hc item]
  simp only [decide_eq_true_eq]
  rfl

/-- The counter counts modulo `injectOnNth`. -/
theorem runs_counting (mw : HeaderFaultMiddleware) (items : List (Item π)) :
    ∀ c, c < mw.injectOnNth →
      (runs (process scapy) (.headerFault (counting mw c)) items).1
        = .headerFault (counting mw ((c + aimed mw items) % mw.injectOnNth)) := by
  induction items with
  | nil =>
      intro c hc
      show Middleware.headerFault (counting mw c) = _
      rw [aimed, List.countP_nil, Nat.add_zero, Nat.mod_eq_of_lt hc]
  | cons item items ih =>
      intro c hc
      have hsplit : aimed mw (item :: items) = aimed mw [item] + aimed mw items := by
        rw [aimed, ← List.singleton_append, List.countP_append]
        rfl
      rw [Stages.runs_cons, process_counting scapy mw hc]
      show (runs (process scapy) _ items).1 = _
      rw [ih _ (Nat.mod_lt _ (by omega)), hsplit, Nat.mod_add_mod, Nat.add_assoc]

theorem headerFault_trace (mw : HeaderFaultMiddleware) (hn : 0 < mw.injectOnNth)
    (hfresh : mw.counter = 0) (reach : List (Item π)) (i : Nat) :
    (runs (process scapy) (.headerFault mw) reach).2[i]?
      = (reach[i]?).map fun item =>
        (some (item.next
          (if mw.targets item.direction = true
              ∧ mw.injectOnNth ∣ aimed mw (reach.take (i + 1)) then
            mw.applyFault scapy item.pkt else item.pkt)), []) := by
  have hzero : mw = counting mw 0 := by
    rw [counting, ← hfresh]
  have hstate : (runs (process scapy) (.headerFault mw) (reach.take i)).1
      = .headerFault (counting mw (aimed mw (reach.take i) % mw.injectOnNth)) := by
    have hcounted := runs_counting scapy mw (reach.take i) 0 hn
    rw [← hzero, Nat.zero_add] at hcounted
    exact hcounted
  rw [Stages.runs_getElem?, hstate]
  cases hitem : reach[i]? with
  | none => rfl
  | some item =>
      rw [Option.map_some, Option.map_some, process_counting scapy mw (Nat.mod_lt _ hn)]
      -- a packet the fault is for is one more than those before it
      have hcount : mw.targets item.direction = true →
          (mw.injectOnNth ∣ aimed mw (reach.take i) % mw.injectOnNth + 1
            ↔ mw.injectOnNth ∣ aimed mw (reach.take (i + 1))) := by
        intro ht
        have hmore : aimed mw (reach.take (i + 1)) = aimed mw (reach.take i) + 1 := by
          rw [List.take_add_one, hitem, aimed, List.countP_append]
          simp [aimed, ht]
        rw [hmore, Nat.dvd_iff_mod_eq_zero, Nat.dvd_iff_mod_eq_zero, Nat.mod_add_mod]
      simp only [and_congr_right_iff.mpr hcount]

/-- **The cadence of header faults**, anywhere in a chain: of the packets
that reach the middleware, those it is not for pass as they are, and of
the others exactly every `inject_on_nth`-th is hit. -/
theorem headerFault_cadence (before after : List (Middleware π)) (mw : HeaderFaultMiddleware)
    (hn : 0 < mw.injectOnNth) (hfresh : mw.counter = 0) (items : List (Item π)) :
    output scapy (before ++ .headerFault mw :: after) items
        = output scapy after (survivors (seen scapy before (.headerFault mw) items))
      ∧ ∀ i, (seen scapy before (.headerFault mw) items)[i]?
        = ((output scapy before items)[i]?).map fun (item : Item π) =>
          (some (item.next
            (if mw.targets item.direction = true
                ∧ mw.injectOnNth ∣ aimed mw ((output scapy before items).take (i + 1)) then
              mw.applyFault scapy item.pkt else item.pkt)), []) :=
  ⟨Stages.runs_chain_split (process scapy) before (.headerFault mw) after items,
    headerFault_trace scapy mw hn hfresh _⟩

def overwrite (pkt : Wire.Bytes) (offset : Nat) (field : Wire.Bytes) : Wire.Bytes :=
  pkt.take offset ++ field ++ pkt.drop (offset + field.length)

/-- Diagnostic Messages that are their bytes. -/
def wireFields : Packets Wire.Bytes where
  toScapy := Gate.wirePackets
  setattr field n pkt :=
    match field with
    | .protocolVersion => overwrite pkt 0 [UInt8.ofNat n]
    | .inverseVersion => overwrite pkt 1 [UInt8.ofNat n]
    | .payloadType =>
        let typed := overwrite pkt 2 (Wire.packH n)
        -- of a type that Scapy does not know, the addresses are not built
        if n = ptDiagnosticMessage then typed else typed.take 8 ++ typed.drop 12
    | .payloadLength => overwrite pkt 4 (Wire.packI n)
    | .sourceAddress => overwrite pkt 8 (Wire.packH n)
    | .targetAddress => overwrite pkt 10 (Wire.packH n)

def evenDraws : Draws := ⟨1 / 2, by norm_num, fun _ => 0, fun _ => Nat.zero_le _⟩

/-- A TesterPresent on its way to the ECU. -/
def testerPresent (ecu : UInt8) : Item Wire.Bytes :=
  ⟨[2, 0xFD, 0x80, 1, 0, 0, 0, 6, 0x0E, 0x00, 0, ecu, 0x3E, 0], .testerToEcu, fun _ => evenDraws⟩

theorem headerFault_cadence_second :
    ((seen wireFields [] (.headerFault ⟨.wrongVersion, none, 2, 0⟩)
        [testerPresent 1, testerPresent 2])[1]?).map (fun out => out.1.map Item.pkt)
      = some (some (0xFF :: (testerPresent 2).pkt.tail)) := by
  rw [(headerFault_cadence wireFields [] [] ⟨.wrongVersion, none, 2, 0⟩ (by decide) rfl
    [testerPresent 1, testerPresent 2]).2 1]
  rfl

/-! ## §4. Replays. -/

/-- The packets of the tester. -/
def testerPkts (items : List (Item π)) : List π :=
  (items.filter fun item => item.direction = .testerToEcu).map Item.pkt

theorem testerPkts_snoc (items : List (Item π)) (item : Item π) :
    testerPkts (items ++ [item])
      = testerPkts items ++ if item.direction = .testerToEcu then [item.pkt] else [] := by
  unfold testerPkts
  rw [List.filter_append, List.map_append]
  by_cases h : item.direction = .testerToEcu
  · rw [if_pos h]
    simp [h]
  · rw [if_neg h]
    simp [h]

/-- The middleware after these packets: it keeps the first `replay_count`
of the tester. -/
def replayAfter (mw : ReplayMiddleware π) (items : List (Item π)) : ReplayMiddleware π :=
  { mw with
    recorded := (testerPkts items).take mw.replayCount
    replayed := decide (mw.replayCount ≤ (testerPkts items).length) }

/-- The packets injected with a packet behind these. -/
def burst (mw : ReplayMiddleware π) (items : List (Item π)) (item : Item π) : List π :=
  if item.direction = .testerToEcu ∧ (testerPkts items).length + 1 = mw.replayCount then
    testerPkts items ++ [item.pkt] else []

theorem take_replayAfter (mw : ReplayMiddleware π) (hrecord : mw.record = true)
    (items : List (Item π)) (item : Item π) :
    (replayAfter mw items).take item.pkt item.direction
      = (replayAfter mw (items ++ [item]), burst mw items item) := by
  have hrec : (replayAfter mw items).record = true := hrecord
  unfold ReplayMiddleware.take burst
  rw [if_neg (by simp [hrec])]
  by_cases hdir : item.direction = .testerToEcu
  · have hsnoc : testerPkts (items ++ [item]) = testerPkts items ++ [item.pkt] := by
      rw [testerPkts_snoc, if_pos hdir]
    by_cases hdone : mw.replayCount ≤ (testerPkts items).length
    · have hreplayed : (replayAfter mw items).replayed = true := decide_eq_true hdone
      have hsame : replayAfter mw (items ++ [item]) = replayAfter mw items := by
        unfold replayAfter
        rw [hsnoc, List.take_append_of_le_length hdone, List.length_append,
          List.length_singleton, decide_eq_true hdone, decide_eq_true (by omega)]
      rw [if_neg (by simp [hreplayed]), if_neg (by omega), hsame]
    · have hreplayed : (replayAfter mw items).replayed = false := decide_eq_false hdone
      have hrecorded : (replayAfter mw items).recorded = testerPkts items :=
        List.take_of_length_le (by omega)
      rw [if_pos ⟨hdir, hreplayed⟩, hrecorded]
      show (if mw.replayCount ≤ (testerPkts items ++ [item.pkt]).length then _ else _) = _
      rw [List.length_append, List.length_singleton]
      have hkept : (testerPkts (items ++ [item])).take mw.replayCount
          = testerPkts items ++ [item.pkt] := by
        rw [hsnoc]
        apply List.take_of_length_le
        rw [List.length_append, List.length_singleton]
        omega
      by_cases hfull : mw.replayCount ≤ (testerPkts items).length + 1
      · rw [if_pos hfull, if_pos ⟨hdir, by omega⟩]
        unfold replayAfter
        rw [hkept, hsnoc, List.length_append, List.length_singleton, decide_eq_true hfull]
      · rw [if_neg hfull, if_neg (by omega)]
        unfold replayAfter
        rw [hkept, hsnoc, List.length_append, List.length_singleton, decide_eq_false hfull,
          decide_eq_false hdone]
  · have hsame : replayAfter mw (items ++ [item]) = replayAfter mw items := by
      unfold replayAfter
      rw [testerPkts_snoc, if_neg hdir, List.append_nil]
    rw [if_neg (by simp [hdir]), if_neg (by simp [hdir]), hsame]

theorem replayAfter_nil (mw : ReplayMiddleware π) (hcount : 0 < mw.replayCount)
    (hrecorded : mw.recorded = []) (hreplayed : mw.replayed = false) :
    replayAfter mw [] = mw := by
  have hnot : decide (mw.replayCount ≤ ([] : List π).length) = false :=
    decide_eq_false (Nat.not_le.mpr hcount)
  unfold replayAfter
  show ({ mw with
    recorded := ([] : List π).take mw.replayCount
    replayed := decide (mw.replayCount ≤ ([] : List π).length) } : ReplayMiddleware π) = mw
  rw [hnot, List.take_nil, ← hrecorded, ← hreplayed]

theorem process_replayAfter (mw : ReplayMiddleware π) (hrecord : mw.record = true)
    (items : List (Item π)) (item : Item π) :
    process scapy (.replay (replayAfter mw items)) item
      = (.replay (replayAfter mw (items ++ [item])), some (item.next item.pkt),
        (burst mw items item).map .injected) := by
  unfold process
  dsimp only
  rw [take_replayAfter mw hrecord]

theorem runs_replay (mw : ReplayMiddleware π) (hrecord : mw.record = true)
    (hcount : 0 < mw.replayCount) (hrecorded : mw.recorded = []) (hreplayed : mw.replayed = false)
    (items : List (Item π)) :
    (runs (process scapy) (.replay mw) items).1 = .replay (replayAfter mw items) := by
  induction items using List.reverseRecOn with
  | nil =>
      rw [replayAfter_nil mw hcount hrecorded hreplayed]
      rfl
  | append_singleton items item ih =>
      rw [Stages.runs_append, ih]
      show (process scapy (.replay (replayAfter mw items)) item).1 = _
      rw [process_replayAfter scapy mw hrecord]

/-- What a stage sends on towards the ECU: what it injects, and the tester's
packets that it lets through. -/
def toEcu (t : Trace (Item π) (Effect π)) : List π :=
  t.flatMap fun entry => entry.2.filterMap Effect.injected? ++ testerPkts entry.1.toList

theorem toEcu_snoc (t : Trace (Item π) (Effect π)) (out : Option (Item π))
    (es : List (Effect π)) :
    toEcu (t ++ [(out, es)])
      = toEcu t ++ (es.filterMap Effect.injected? ++ testerPkts out.toList) := by
  unfold toEcu
  rw [List.flatMap_append, List.flatMap_singleton]

theorem injected_map (pkts : List π) :
    (pkts.map Effect.injected).filterMap Effect.injected? = pkts := by
  rw [List.filterMap_map]
  exact List.filterMap_some

/-- One more packet of the tester, before, at and behind the burst. -/
theorem replay_order (n : Nat) (hn : 0 < n) (pkts : List π) (pkt : π) :
    pkts.take (n - 1) ++ (if n ≤ pkts.length then pkts.take n else []) ++ pkts.drop (n - 1)
        ++ ((if pkts.length + 1 = n then pkts ++ [pkt] else []) ++ [pkt])
      = (pkts ++ [pkt]).take (n - 1)
        ++ (if n ≤ (pkts ++ [pkt]).length then (pkts ++ [pkt]).take n else [])
        ++ (pkts ++ [pkt]).drop (n - 1) := by
  have hlen : (pkts ++ [pkt]).length = pkts.length + 1 := List.length_append
  rcases Nat.lt_trichotomy (pkts.length + 1) n with hlt | heq | hgt
  · rw [if_neg (by omega), if_neg (by omega), if_neg (by omega),
      List.take_of_length_le (by omega), List.drop_of_length_le (by omega),
      List.take_of_length_le (by omega), List.drop_of_length_le (by omega)]
    simp
  · rw [if_neg (by omega), if_pos heq, if_pos (by omega),
      List.take_of_length_le (by omega), List.drop_of_length_le (by omega),
      List.take_append_of_le_length (by omega), List.take_of_length_le (l := pkts) (by omega),
      List.take_of_length_le (l := pkts ++ [pkt]) (by omega),
      List.drop_append_of_le_length (by omega), List.drop_of_length_le (by omega)]
    simp
  · rw [if_pos (by omega), if_neg (by omega), if_pos (by omega),
      List.take_append_of_le_length (by omega), List.take_append_of_le_length (by omega),
      List.drop_append_of_le_length (by omega)]
    simp

/-- The order in which the stage sends them on. -/
theorem toEcu_replay (mw : ReplayMiddleware π) (hrecord : mw.record = true)
    (hcount : 0 < mw.replayCount) (hrecorded : mw.recorded = []) (hreplayed : mw.replayed = false)
    (items : List (Item π)) :
    toEcu (runs (process scapy) (.replay mw) items).2
      = (testerPkts items).take (mw.replayCount - 1)
        ++ (if mw.replayCount ≤ (testerPkts items).length then
            (testerPkts items).take mw.replayCount else [])
        ++ (testerPkts items).drop (mw.replayCount - 1) := by
  induction items using List.reverseRecOn with
  | nil =>
      show [] = List.take _ [] ++ _ ++ List.drop _ []
      rw [if_neg (by show ¬ mw.replayCount ≤ 0; omega)]
      simp
  | append_singleton items item ih =>
      have hone : (runs (process scapy) (.replay mw) (items ++ [item])).2
          = (runs (process scapy) (.replay mw) items).2
            ++ [(some (item.next item.pkt), (burst mw items item).map .injected)] := by
        rw [Stages.runs_append, runs_replay scapy mw hrecord hcount hrecorded hreplayed]
        show _ ++ [(process scapy (.replay (replayAfter mw items)) item).2] = _
        rw [process_replayAfter scapy mw hrecord]
      have hpass : testerPkts (some (item.next item.pkt)).toList
          = if item.direction = .testerToEcu then [item.pkt] else [] := by
        have hsnoc := testerPkts_snoc [] (item.next item.pkt)
        exact hsnoc
      rw [hone, toEcu_snoc, ih, injected_map, hpass, testerPkts_snoc]
      unfold burst
      by_cases hdir : item.direction = .testerToEcu
      · rw [if_pos hdir, ← replay_order mw.replayCount hcount (testerPkts items) item.pkt]
        simp only [hdir, true_and]
      · have hno : ¬ (item.direction = .testerToEcu
            ∧ (testerPkts items).length + 1 = mw.replayCount) := fun h => hdir h.1
        rw [if_neg hdir, if_neg hno]
        simp only [List.append_nil]

theorem replay_trace (mw : ReplayMiddleware π) (hrecord : mw.record = true)
    (hcount : 0 < mw.replayCount) (hrecorded : mw.recorded = []) (hreplayed : mw.replayed = false)
    (reach : List (Item π)) (i : Nat) :
    (runs (process scapy) (.replay mw) reach).2[i]?
      = (reach[i]?).map fun item =>
        (some (item.next item.pkt), (burst mw (reach.take i) item).map .injected) := by
  rw [Stages.runs_getElem?, runs_replay scapy mw hrecord hcount hrecorded hreplayed]
  cases reach[i]? with
  | none => rfl
  | some item =>
      rw [Option.map_some, Option.map_some, process_replayAfter scapy mw hrecord]

/-- **The burst of a replay**, anywhere in a chain: every packet passes, and
with the `replay_count`-th of the tester that reaches the middleware, and
never again, the first `replay_count` are injected.  So the stage sends these
on twice, the last one of them after the burst; what becomes of them is up
to the stages behind it. -/
theorem replay_burst (before after : List (Middleware π)) (mw : ReplayMiddleware π)
    (hrecord : mw.record = true) (hcount : 0 < mw.replayCount) (hrecorded : mw.recorded = [])
    (hreplayed : mw.replayed = false) (items : List (Item π)) :
    output scapy (before ++ .replay mw :: after) items
        = output scapy after (survivors (seen scapy before (.replay mw) items))
      ∧ (∀ i, (seen scapy before (.replay mw) items)[i]?
        = ((output scapy before items)[i]?).map fun (item : Item π) =>
          (some (item.next item.pkt),
            (burst mw ((output scapy before items).take i) item).map .injected))
      ∧ toEcu (seen scapy before (.replay mw) items)
        = (testerPkts (output scapy before items)).take (mw.replayCount - 1)
          ++ (if mw.replayCount ≤ (testerPkts (output scapy before items)).length then
              (testerPkts (output scapy before items)).take mw.replayCount else [])
          ++ (testerPkts (output scapy before items)).drop (mw.replayCount - 1) :=
  ⟨Stages.runs_chain_split (process scapy) before (.replay mw) after items,
    replay_trace scapy mw hrecord hcount hrecorded hreplayed _,
    toEcu_replay scapy mw hrecord hcount hrecorded hreplayed _⟩

theorem replay_burst_two :
    toEcu (seen wireFields [] (.replay ⟨true, 2, [], false⟩)
        [testerPresent 1, testerPresent 2, testerPresent 3])
      = [(testerPresent 1).pkt, (testerPresent 1).pkt, (testerPresent 2).pkt,
        (testerPresent 2).pkt, (testerPresent 3).pkt] := by
  rw [(replay_burst wireFields [] [] ⟨true, 2, [], false⟩ rfl (by decide) rfl rfl
    [testerPresent 1, testerPresent 2, testerPresent 3]).2.2]
  rfl

/-! ## §5. Chains that leave a direction alone. -/

/-- The middleware leaves the packets of this direction alone. -/
def Passive (direction : Direction) : Middleware π → Prop
  | .logger | .delay _ | .tlsFault => True
  | .drop mw => mw.dropRate ≤ 0 ∨ (mw.matchDirection.isSome ∧ mw.matchDirection ≠ some direction)
  | .corrupt mw => mw.flipMask = 0
  | .replay mw => mw.record = false ∨ direction = .ecuToTester
  | .address mw => mw.srcOverride = none ∧ mw.tgtOverride = none
  | .headerFault mw => mw.targets direction = false

/-- The longest that the middleware holds a packet back, in milliseconds. -/
def hold : Middleware π → Nat
  | .delay mw => mw.delayMs + mw.jitterMs
  | _ => 0

/-- The time slept. -/
def Effect.ms : Effect π → Nat
  | .slept ms => ms
  | .injected _ => 0

/-- What comes of a packet that is left alone: it may be held so long. -/
structure Untouched (ms : Nat) (item : Item π) (out : Option (Item π) × List (Effect π)) :
    Prop where
  passed : ∃ item', out.1 = some item' ∧ scapy.bytes item'.pkt = scapy.bytes item.pkt
    ∧ item'.direction = item.direction
  nothing : out.2.filterMap Effect.injected? = []
  held : (out.2.map Effect.ms).sum ≤ ms

/-- Nothing that a packet does changes how long the next one is held. -/
theorem hold_process (mw : Middleware π) (item : Item π) :
    hold (process scapy mw item).1 = hold mw := by
  cases mw with
  | drop mw =>
      unfold process
      dsimp only
      split <;> rfl
  | _ => rfl

theorem hold_run (ms : List (Middleware π)) :
    ∀ item : Item π, (MiddlewareChain.run scapy ms item).1.map hold = ms.map hold := by
  induction ms with
  | nil => exact fun _ => rfl
  | cons mw ms ih =>
      intro item
      have hfirst := hold_process scapy mw item
      unfold MiddlewareChain.run
      cases hp : process scapy mw item with
      | mk mw' out =>
          rw [hp] at hfirst
          obtain ⟨o, es⟩ := out
          cases o with
          | none =>
              rw [Stages.chain_cons_none _ hp, List.map_cons, List.map_cons, hfirst]
          | some item' =>
              have hrest := ih item'
              unfold MiddlewareChain.run at hrest
              rw [Stages.chain_cons_some _ hp, List.map_cons, List.map_cons, hfirst, hrest]

/-- What the middleware is set to stays. -/
theorem passive_process (direction : Direction) (mw : Middleware π) (item : Item π)
    (h : Passive direction mw) : Passive direction (process scapy mw item).1 := by
  cases mw with
  | drop mw =>
      unfold process
      dsimp only
      split <;> exact h
  | replay mw =>
      have hrecord : (mw.take item.pkt item.direction).1.record = mw.record := by
        unfold ReplayMiddleware.take
        split_ifs <;> first | rfl | (dsimp only; split_ifs <;> rfl)
      show (mw.take item.pkt item.direction).1.record = false ∨ _
      rw [hrecord]
      exact h
  | headerFault mw =>
      have hdirection : (mw.shouldInject item.direction).1.direction = mw.direction := by
        unfold HeaderFaultMiddleware.shouldInject
        split_ifs <;> rfl
      show HeaderFaultMiddleware.targets (mw.shouldInject item.direction).1 direction = false
      unfold HeaderFaultMiddleware.targets
      rw [hdirection]
      exact h
  | _ => exact h

theorem modify_xor_zero (data : Wire.Bytes) (n : Nat) (mask : UInt8) (h : mask = 0) :
    List.modify data n (· ^^^ mask) = data := by
  have hid : (fun b : UInt8 => b ^^^ mask) = id := by
    funext b
    rw [h]
    exact UInt8.xor_zero
  rw [hid, List.modify_id]

theorem untouched_process (hs : scapy.toScapy.Faithful) (mw : Middleware π) (item : Item π)
    (h : Passive item.direction mw) :
    Untouched scapy (hold mw) item (process scapy mw item).2 := by
  have hsame : Untouched scapy (hold mw) item (some (item.next item.pkt), []) :=
    ⟨⟨_, rfl, rfl, rfl⟩, rfl, Nat.zero_le _⟩
  cases mw with
  | logger => exact hsame
  | tlsFault => exact hsame
  | delay mw =>
      have hjitter := (item.draws 0).randint_le (max 0 mw.jitterMs)
      have htotal : mw.totalMs (item.draws 0) ≤ mw.delayMs + mw.jitterMs := by
        unfold DelayMiddleware.totalMs
        omega
      unfold process
      dsimp only
      split
      · exact ⟨⟨_, rfl, rfl, rfl⟩, rfl, htotal⟩
      · exact hsame
  | drop mw =>
      have hkept : ¬ (mw.isMatch scapy item.pkt item.direction = true
          ∧ (item.draws 0).random < mw.dropRate) := by
        rintro ⟨hmatch, hlt⟩
        rcases h with hrate | hdir
        · have hle := (item.draws 0).random_mem.1
          -- `random()` is at least 0, and so at least the rate
          linarith
        · unfold DropMiddleware.isMatch at hmatch
          rw [if_pos hdir] at hmatch
          cases hmatch
      unfold process
      dsimp only
      rw [if_neg hkept]
      exact hsame
  | corrupt mw =>
      refine ⟨⟨_, rfl, ?_, rfl⟩, rfl, Nat.zero_le _⟩
      show scapy.bytes (mw.corrupt scapy (item.draws 0) item.pkt) = scapy.bytes item.pkt
      unfold CorruptMiddleware.corrupt
      dsimp only
      generalize (match mw.byteOffset with
        | none => (item.draws 0).randint (((scapy.bytes item.pkt).drop doipHeaderLen).length - 1)
        | some offset => offset) = offset
      -- a mask of 0 gives back the packet, wherever it is laid
      split_ifs
      · rfl
      · rfl
      · rw [hs.bytes_dissect, modify_xor_zero _ _ _ h, List.take_append_drop]
  | replay mw =>
      have hnone : (mw.take item.pkt item.direction).2 = [] := by
        unfold ReplayMiddleware.take
        -- switched off, or set for the other direction
        rcases h with hoff | hdir
        · rw [if_pos hoff]
        · split
          · rfl
          · rw [if_neg (by simp [hdir])]
      have hout : (process scapy (.replay mw) item).2 = (some (item.next item.pkt), []) := by
        show (_, (mw.take item.pkt item.direction).2.map Effect.injected) = _
        rw [hnone]
        rfl
      rw [hout]
      exact hsame
  | address mw =>
      refine ⟨⟨_, rfl, ?_, rfl⟩, rfl, Nat.zero_le _⟩
      show scapy.bytes (mw.override scapy item.pkt) = scapy.bytes item.pkt
      unfold AddressMiddleware.override
      rw [h.1, h.2]
  | headerFault mw =>
      have hnot : mw.targets item.direction = false := h
      have hno : mw.shouldInject item.direction = (mw, false) := by
        unfold HeaderFaultMiddleware.shouldInject
        rw [if_pos hnot]
      unfold process HeaderFaultMiddleware.process
      dsimp only
      rw [hno]
      exact hsame

theorem untouched_run (hs : scapy.toScapy.Faithful) (ms : List (Middleware π)) :
    ∀ item : Item π, (∀ mw ∈ ms, Passive item.direction mw) →
      Untouched scapy (ms.map hold).sum item (MiddlewareChain.run scapy ms item).2 := by
  induction ms with
  | nil => exact fun item _ => ⟨⟨item, rfl, rfl, rfl⟩, rfl, Nat.zero_le _⟩
  | cons mw ms ih =>
      intro item hpassive
      obtain ⟨hmw, hms⟩ := List.forall_mem_cons.mp hpassive
      have hfirst := untouched_process scapy hs mw item hmw
      cases hp : process scapy mw item with
      | mk mw' out =>
          rw [hp] at hfirst
          obtain ⟨o, es⟩ := out
          obtain ⟨⟨item', rfl, hsame, hdir⟩, hnothing, hheld⟩ := hfirst
          have hrest := ih item' (hdir ▸ hms)
          unfold MiddlewareChain.run at hrest ⊢
          rw [Stages.chain_cons_some _ hp]
          obtain ⟨⟨item'', hout, hsame', hdir'⟩, hnothing', hheld'⟩ := hrest
          refine ⟨⟨item'', hout, hsame'.trans hsame, hdir'.trans hdir⟩, ?_, ?_⟩
          · show (es ++ _).filterMap _ = []
            rw [List.filterMap_append, hnothing']
            exact List.append_nil _ ▸ hnothing
          · show ((es ++ _).map Effect.ms).sum ≤ _
            rw [List.map_append, List.sum_append, List.map_cons, List.sum_cons]
            exact Nat.add_le_add hheld hheld'

theorem passive_run (direction : Direction) (ms : List (Middleware π)) :
    ∀ (item : Item π), (∀ mw ∈ ms, Passive direction mw) →
      ∀ mw ∈ (MiddlewareChain.run scapy ms item).1, Passive direction mw := by
  induction ms with
  | nil => exact fun _ h => h
  | cons mw ms ih =>
      intro item hpassive
      obtain ⟨hmw, hms⟩ := List.forall_mem_cons.mp hpassive
      have hfirst := passive_process scapy direction mw item hmw
      unfold MiddlewareChain.run
      cases hp : process scapy mw item with
      | mk mw' out =>
          rw [hp] at hfirst
          obtain ⟨o, es⟩ := out
          cases o with
          | none =>
              rw [Stages.chain_cons_none _ hp]
              exact List.forall_mem_cons.mpr ⟨hfirst, hms⟩
          | some item' =>
              rw [Stages.chain_cons_some _ hp]
              exact List.forall_mem_cons.mpr ⟨hfirst, ih item' hms⟩

/-- **A passive chain is transparent** at any point of a session: whatever has
gone through it in either direction, the packets of a direction in which
every middleware is passive come out with their bytes and inject nothing,
and are held no longer than all the delays together. -/
theorem passive_transparent (hs : scapy.toScapy.Faithful) (direction : Direction)
    (ms : List (Middleware π)) (hpassive : ∀ mw ∈ ms, Passive direction mw)
    (items : List (Item π)) (i : Nat) (item : Item π) (hitem : items[i]? = some item)
    (hdir : item.direction = direction) :
    ∃ out, (session scapy ms items).2[i]? = some out
      ∧ Untouched scapy (ms.map hold).sum item out := by
  have hstill : (∀ mw ∈ (session scapy ms (items.take i)).1, Passive direction mw)
      ∧ (session scapy ms (items.take i)).1.map hold = ms.map hold := by
    refine Stages.runs_invariant
      (fun now => (∀ mw ∈ now, Passive direction mw) ∧ now.map hold = ms.map hold)
      ?_ _ ms ⟨hpassive, rfl⟩
    intro now item h
    exact ⟨passive_run scapy direction now item h.1, (hold_run scapy now item).trans h.2⟩
  refine ⟨_, ?_, hstill.2 ▸ untouched_run scapy hs _ item (hdir ▸ hstill.1)⟩
  rw [Stages.runs_getElem?, hitem]
  rfl

/-- A positive response to it, on its way back. -/
def testerPresentAnswer (ecu : UInt8) : Item Wire.Bytes :=
  ⟨[2, 0xFD, 0x80, 1, 0, 0, 0, 6, 0, ecu, 0x0E, 0x00, 0x7E, 0], .ecuToTester, fun _ => evenDraws⟩

/-- Behind two requests, which the replay has kept and injected and of which
the second was hit. -/
theorem passive_transparent_answer :
    ∃ out, (session wireFields
        [.replay ⟨true, 2, [], false⟩, .headerFault ⟨.wrongVersion, some .testerToEcu, 2, 0⟩,
          .delay ⟨5, 3⟩]
        [testerPresent 1, testerPresent 2, testerPresentAnswer 2]).2[2]? = some out
      ∧ Untouched wireFields 8 (testerPresentAnswer 2) out :=
  passive_transparent wireFields Gate.wirePackets_faithful .ecuToTester _
    (by simp [Passive, HeaderFaultMiddleware.targets])
    [testerPresent 1, testerPresent 2, testerPresentAnswer 2] 2 (testerPresentAnswer 2) rfl rfl

end Middleware

end DoipPlayground.EdgeNode
