/-
  DoipPlayground.VirtualEcu.PumpWorker
  ────────────────────────────────────
  **EVERY ACKNOWLEDGED REQUEST, FROM ITS ACK TO ITS LAST RESPONSE.**

  A `Ledger` numbers the acknowledged requests of one socket, follows each
  through the queue and the worker, and says of every frame on the wire
  which request it belongs to.

    • `Ledger.record` — how one deed is entered,
    • `pump_worker` — what the ledger says after every run.
-/
import DoipPlayground.VirtualEcu.Pipeline

namespace DoipPlayground.VirtualEcu

open Wire

/-! ## §1. The ledger of one socket. -/

/-- What a frame on the wire is about.  Requests are numbered in the order
of their Positive ACKs. -/
inductive Origin where
  | ack (n : Nat)
  | busy (n : Nat)
  | response (n : Nat)
  | reply (raw : Bytes)
  | other
  deriving DecidableEq, Repr

namespace Origin

def ack? : Origin → Option Nat
  | .ack n => some n
  | _ => none

def busy? : Origin → Option Nat
  | .busy n => some n
  | _ => none

/-- The request a UDS message answers. -/
def answer? : Origin → Option Nat
  | .busy n | .response n => some n
  | _ => none

end Origin

structure Ledger where
  /-- The acknowledged frames, in order. -/
  acked : List Bytes := []
  /-- How many of them are queued or refused as busy by now. -/
  settled : Nat := 0
  queued : List Nat := []
  refused : List Nat := []
  /-- In the queue right now. -/
  waiting : List Nat := []
  taken : List Nat := []
  dispatched : List (Nat × UdsRequest) := []
  wire : List (Bytes × Origin) := []
  deriving DecidableEq, Repr

namespace Ledger

def label (l : Ledger) (origin : Origin) (frames : List Bytes) : List (Bytes × Origin) :=
  l.wire ++ frames.map (fun frame => (frame, origin))

/-- Enter a deed that wrote these frames. -/
def record (l : Ledger) (frames : List Bytes) : Deed → Ledger
  | .acks raw =>
      { l with acked := l.acked ++ [raw], wire := l.label (.ack l.acked.length) frames }
  | .replies raw => { l with wire := l.label (.reply raw) frames }
  | .queues =>
      { l with
        settled := l.settled + 1
        queued := l.queued ++ [l.settled]
        waiting := l.waiting ++ [l.settled] }
  | .refuses =>
      { l with
        settled := l.settled + 1
        refused := l.refused ++ [l.settled]
        wire := l.label (.busy l.settled) frames }
  | .takes => { l with taken := l.taken ++ l.waiting.head?.toList, waiting := l.waiting.tail }
  | .dispatches request =>
      { l with dispatched := l.dispatched ++ l.taken.getLast?.toList.map (fun n => (n, request)) }
  | .responds => { l with wire := l.label (.response (l.taken.getLastD 0)) frames }
  | .aside => { l with wire := l.label .other frames }

/-- Enter one step of the world. -/
def note (i : Sid) (w : World) (e : Event) (w' : World) (l : Ledger) : Ledger :=
  l.record ((w'.sessions i).wire.drop (w.sessions i).wire.length)
    (e.deed i (w.sessions i) (w'.sessions i))

/-- The n-th acknowledged frame holds this request, in this version. -/
def Holds (cfg : EcuConfig) (l : Ledger) (n : Nat) (request : UdsRequest) (version : UInt8) :
    Prop :=
  ∃ raw, l.acked[n]? = some raw ∧ requestOf cfg raw = request ∧ raw.headD 0 = version

/-- A frame is what its label says. -/
def Labelled (cfg : EcuConfig) (l : Ledger) (frame : Bytes) : Origin → Prop
  | .ack n => ∃ raw, l.acked[n]? = some raw ∧ frame = ackFrame cfg raw
  | .busy n => ∃ request version, l.Holds cfg n request version
      ∧ frame = busyFrame cfg request version
  | .response n => ∃ request version response, l.Holds cfg n request version
      ∧ frame = udsFrame cfg request version response
  | .reply raw => (frame.headD 0 = raw.headD 0 ∨ ptype frame = ptHeaderNack)
      ∧ ptype frame ≠ ptDiagnosticMessage ∧ ptype frame ≠ ptDiagnosticPositiveAck
  | .other => ptype frame ≠ ptDiagnosticMessage ∧ ptype frame ≠ ptDiagnosticPositiveAck
      ∧ ptype frame ≠ ptDiagnosticNegativeAck

/-- The numbers add up. -/
structure Numbered (l : Ledger) : Prop where
  settled : l.settled ≤ l.acked.length
  split : ∀ n, n ∈ l.queued ∨ n ∈ l.refused ↔ n < l.settled
  disjoint : ∀ n ∈ l.queued, n ∉ l.refused
  queued : l.queued.Pairwise (· < ·)
  refused : l.refused.Pairwise (· < ·)
  parts : l.queued = l.taken ++ l.waiting
  dispatched : (l.dispatched.map Prod.fst).Sublist l.taken

/-- The wire is labelled, and no answer comes before its ACK. -/
structure Wired (cfg : EcuConfig) (l : Ledger) : Prop where
  labelled : ∀ p ∈ l.wire, l.Labelled cfg p.1 p.2
  acks : l.wire.filterMap (fun p => p.2.ack?) = List.range l.acked.length
  busy : l.wire.filterMap (fun p => p.2.busy?) = l.refused
  before : ∀ (k : Nat) (p : Bytes × Origin) (n : Nat), l.wire[k]? = some p →
    p.2.answer? = some n → ∃ j < k, ∃ ack, l.wire[j]? = some (ack, .ack n)

/-- The ledger speaks of this socket. -/
structure Tied (cfg : EcuConfig) (s : Session) (l : Ledger) : Prop where
  wire : l.wire.map Prod.fst = s.wire
  room : s.udsQueue.length ≤ udsQueueMaxsize
  admitted : ∀ raw ∈ l.acked, Admitted cfg s raw
  queue : List.Forall₂ (fun n entry => l.Holds cfg n entry.1 entry.2) l.waiting s.udsQueue
  /-- Only the last ACK can be on its way, or be the end of the loop. -/
  unsettled : l.settled = l.acked.length
    ∨ l.settled + 1 = l.acked.length ∧ (s.pump.Promised ∨ s.pump.Past)
  promised : ∀ request version, s.pump = .sending (.enqueue request version) →
    l.settled + 1 = l.acked.length ∧ l.Holds cfg l.settled request version
      ∧ s.currentReqVersion = version
  serving : ∀ request version st p2, s.worker = .serving request version st p2 →
    ∃ n, l.taken.getLast? = some n ∧ l.Holds cfg n request version
      ∧ (p2.handler = none → n ∉ l.dispatched.map Prod.fst)
  doomed : ∀ request st, s.worker = .doomed request st →
    ∃ n version, l.taken.getLast? = some n ∧ l.Holds cfg n request version
      ∧ n ∉ l.dispatched.map Prod.fst
  served : ∀ n request, (n, request) ∈ l.dispatched → ∃ version, l.Holds cfg n request version

/-! ## §2. Entering a deed. -/

variable {cfg : EcuConfig} {s s' : Session} {l l' : Ledger}

theorem lookup_mono {n : Nat} {raw : Bytes} (h : l.acked[n]? = some raw)
    (hacked : l.acked <+: l'.acked) : l'.acked[n]? = some raw := by
  obtain ⟨later, hlater⟩ := hacked
  rw [← hlater, List.getElem?_append_left (List.getElem?_eq_some_iff.mp h).1]
  exact h

theorem Holds.mono {n : Nat} {request : UdsRequest} {version : UInt8}
    (h : l.Holds cfg n request version) (hacked : l.acked <+: l'.acked) :
    l'.Holds cfg n request version := by
  obtain ⟨raw, hraw, hr, hv⟩ := h
  exact ⟨raw, lookup_mono hraw hacked, hr, hv⟩

theorem Labelled.mono {frame : Bytes} {origin : Origin} (h : l.Labelled cfg frame origin)
    (hacked : l.acked <+: l'.acked) : l'.Labelled cfg frame origin := by
  cases origin with
  | ack n =>
      obtain ⟨raw, hraw, hframe⟩ := h
      exact ⟨raw, lookup_mono hraw hacked, hframe⟩
  | busy n =>
      obtain ⟨request, version, hholds, hframe⟩ := h
      exact ⟨request, version, hholds.mono hacked, hframe⟩
  | response n =>
      obtain ⟨request, version, response, hholds, hframe⟩ := h
      exact ⟨request, version, response, hholds.mono hacked, hframe⟩
  | reply raw => exact h
  | other => exact h

/-- More frames with one label. -/
theorem Wired.append {frames : List Bytes} (h : l.Wired cfg) (origin : Origin)
    (hwire : l'.wire = l.label origin frames) (hacked : l.acked <+: l'.acked)
    (hlabel : ∀ frame ∈ frames, l'.Labelled cfg frame origin)
    (hacks : List.range l.acked.length ++ frames.filterMap (fun _ => origin.ack?)
      = List.range l'.acked.length)
    (hbusy : l.refused ++ frames.filterMap (fun _ => origin.busy?) = l'.refused)
    (hanswer : ∀ n, origin.answer? = some n → n < l.acked.length) : l'.Wired cfg where
  labelled := by
    intro p hp
    rw [hwire, label, List.mem_append, List.mem_map] at hp
    rcases hp with hp | ⟨frame, hframe, rfl⟩
    · exact (h.labelled p hp).mono hacked
    · exact hlabel frame hframe
  acks := by
    rw [hwire, label, List.filterMap_append, h.acks, List.filterMap_map]
    exact hacks
  busy := by
    rw [hwire, label, List.filterMap_append, h.busy, List.filterMap_map]
    exact hbusy
  before := by
    intro k p n hk hn
    rw [hwire, label] at hk
    rw [hwire, label]
    by_cases hlt : k < l.wire.length
    · rw [List.getElem?_append_left hlt] at hk
      obtain ⟨j, hj, ack, hack⟩ := h.before k p n hk hn
      exact ⟨j, hj, ack, by rw [List.getElem?_append_left (by omega)]; exact hack⟩
    · rw [List.getElem?_append_right (by omega), List.getElem?_map, Option.map_eq_some_iff] at hk
      obtain ⟨_, _, rfl⟩ := hk
      -- the request is acknowledged, so its ACK is among the older frames
      have hmem : n ∈ l.wire.filterMap (fun p => p.2.ack?) := by
        rw [h.acks]
        exact List.mem_range.mpr (hanswer n hn)
      obtain ⟨⟨ack, acks⟩, hp, hack⟩ := List.mem_filterMap.mp hmem
      obtain ⟨j, hj⟩ := List.getElem?_of_mem hp
      have horigin : acks = .ack n := by
        cases acks <;> simp [Origin.ack?] at hack
        rw [hack]
      have hlen : j < l.wire.length := (List.getElem?_eq_some_iff.mp hj).1
      refine ⟨j, by omega, ack, ?_⟩
      rw [List.getElem?_append_left hlen, hj, horigin]

/-- Frames that are no ACK and no busy answer. -/
theorem Wired.plain {frames : List Bytes} {origin : Origin} (h : l.Wired cfg)
    (hwire : l'.wire = l.label origin frames) (hacked : l'.acked = l.acked)
    (hrefused : l'.refused = l.refused) (hack : origin.ack? = none) (hbusy : origin.busy? = none)
    (hlabel : ∀ frame ∈ frames, l.Labelled cfg frame origin)
    (hanswer : ∀ n, origin.answer? = some n → n < l.acked.length) : l'.Wired cfg := by
  refine h.append origin hwire (hacked ▸ List.prefix_rfl) ?_ ?_ ?_ hanswer
  · intro frame hframe
    exact (hlabel frame hframe).mono (hacked ▸ List.prefix_rfl)
  · rw [hack, hacked]
    simp
  · rw [hbusy, hrefused]
    simp

/-- A number that is no member goes behind the part before it. -/
theorem sublist_snoc {ids taken : List Nat} {n : Nat} (h : ids.Sublist taken)
    (hlast : taken.getLast? = some n) (hn : n ∉ ids) : (ids ++ [n]).Sublist taken := by
  obtain ⟨before, rfl⟩ := List.getLast?_eq_some_iff.mp hlast
  obtain ⟨ids₁, ids₂, rfl, h₁, h₂⟩ := List.sublist_append_iff.mp h
  have hnil : ids₂ = [] := by
    rcases List.sublist_singleton.mp h₂ with h | h
    · exact h
    · subst h
      exact absurd (by simp) hn
  subst hnil
  rw [List.append_nil]
  exact h₁.append (List.Sublist.refl [n])

/-- One more number at the end of an increasing list. -/
theorem pairwise_snoc {ids : List Nat} {n : Nat} (h : ids.Pairwise (· < ·))
    (hn : ∀ m ∈ ids, m < n) : (ids ++ [n]).Pairwise (· < ·) := by
  rw [List.pairwise_append]
  refine ⟨h, List.pairwise_singleton _ _, ?_⟩
  intro m hm k hk
  rw [List.mem_singleton.mp hk]
  exact hn m hm

namespace Numbered

theorem acks (h : l.Numbered) (frames : List Bytes) (raw : Bytes) :
    (l.record frames (.acks raw)).Numbered := by
  refine { h with settled := ?_ }
  show l.settled ≤ (l.acked ++ [raw]).length
  have := h.settled
  rw [List.length_append]
  omega

/-- The oldest open request is queued. -/
theorem queues (h : l.Numbered) (frames : List Bytes) (hopen : l.settled < l.acked.length) :
    (l.record frames .queues).Numbered where
  settled := hopen
  split := by
    intro n
    have hsplit := h.split n
    show n ∈ l.queued ++ [l.settled] ∨ n ∈ l.refused ↔ n < l.settled + 1
    rw [List.mem_append, List.mem_singleton, or_right_comm, hsplit]
    omega
  disjoint := by
    intro n hn
    rcases List.mem_append.mp hn with hn | hn
    · exact h.disjoint n hn
    · rw [List.mem_singleton.mp hn]
      intro hrefused
      have := (h.split l.settled).mp (.inr hrefused)
      omega
  queued := pairwise_snoc h.queued (fun m hm => (h.split m).mp (.inl hm))
  refused := h.refused
  parts := by
    show l.queued ++ [l.settled] = l.taken ++ (l.waiting ++ [l.settled])
    rw [h.parts, List.append_assoc]
  dispatched := h.dispatched

/-- The oldest open request is refused. -/
theorem refuses (h : l.Numbered) (frames : List Bytes) (hopen : l.settled < l.acked.length) :
    (l.record frames .refuses).Numbered where
  settled := hopen
  split := by
    intro n
    have hsplit := h.split n
    show n ∈ l.queued ∨ n ∈ l.refused ++ [l.settled] ↔ n < l.settled + 1
    rw [List.mem_append, List.mem_singleton, ← or_assoc, hsplit]
    omega
  disjoint := by
    intro n hn hrefused
    rcases List.mem_append.mp hrefused with hrefused | hrefused
    · exact h.disjoint n hn hrefused
    · have := (h.split n).mp (.inl hn)
      have := List.mem_singleton.mp hrefused
      omega
  queued := h.queued
  refused := pairwise_snoc h.refused (fun m hm => (h.split m).mp (.inr hm))
  parts := h.parts
  dispatched := h.dispatched

theorem takes (h : l.Numbered) (frames : List Bytes) : (l.record frames .takes).Numbered :=
  { h with
    parts := by
      show l.queued = (l.taken ++ l.waiting.head?.toList) ++ l.waiting.tail
      rw [h.parts]
      cases l.waiting <;> simp
    dispatched := h.dispatched.trans (List.sublist_append_left _ _) }

/-- The request taken last is dispatched, for the first time. -/
theorem dispatches (h : l.Numbered) (frames : List Bytes) (request : UdsRequest) {n : Nat}
    (hlast : l.taken.getLast? = some n) (hn : n ∉ l.dispatched.map Prod.fst) :
    (l.record frames (.dispatches request)).Numbered := by
  refine { h with dispatched := ?_ }
  show ((l.dispatched ++ l.taken.getLast?.toList.map (fun n => (n, request))).map
    Prod.fst).Sublist l.taken
  rw [hlast, List.map_append]
  exact sublist_snoc h.dispatched hlast hn

end Numbered

end Ledger

/-! ## §3. What holds after every run. -/

/-- An activated socket stays with its tester. -/
theorem Admitted.of_bound {raw : Bytes} (h : Admitted cfg s raw)
    (hbound : s.activated = true → s'.activated = true ∧ s'.testerAddr = s.testerAddr) :
    Admitted cfg s' raw :=
  { h with
    activated := (hbound h.activated).1
    source := (hbound h.activated).2.trans h.source }

/-- The ledger of a socket in order. -/
structure Pipelined (cfg : EcuConfig) (s : Session) (l : Ledger) : Prop where
  numbered : l.Numbered
  wired : l.Wired cfg
  tied : l.Tied cfg s

namespace Pipelined

open Ledger

theorem init (cfg : EcuConfig) : Pipelined cfg {} {} where
  numbered := ⟨by decide, by simp, by simp, .nil, .nil, rfl, .slnil⟩
  wired := ⟨by simp, rfl, rfl, by simp⟩
  tied := ⟨rfl, by decide, by simp, .nil, .inl rfl, by simp, by simp, by simp, by simp⟩

theorem map_label (l : Ledger) (origin : Origin) (frames : List Bytes) :
    (l.label origin frames).map Prod.fst = l.wire.map Prod.fst ++ frames := by
  unfold Ledger.label
  rw [List.map_append, List.map_map]
  exact congrArg _ (List.map_id frames)

theorem acked_of_taken (h : Pipelined cfg s l) {n : Nat} (hn : n ∈ l.taken) :
    n < l.acked.length := by
  have hqueued : n ∈ l.queued := by
    rw [h.numbered.parts]
    exact List.mem_append_left _ hn
  have hlt := (h.numbered.split n).mp (.inl hqueued)
  have := h.numbered.settled
  omega

/-- The request of a frame is acknowledged. -/
theorem acks (h : Pipelined cfg s l) {raw : Bytes} (hpump : s.pump = .reading)
    (hadmitted : Admitted cfg s raw) :
    Pipelined cfg
      { s with
        currentReqVersion := raw.headD 0
        wire := s.wire ++ [ackFrame cfg raw]
        pump := .sending (.enqueue (requestOf cfg raw) (raw.headD 0)) }
      (l.record [ackFrame cfg raw] (.acks raw)) := by
  have hacked : l.acked <+: (l.record [ackFrame cfg raw] (.acks raw)).acked :=
    List.prefix_append _ _
  have hlast : (l.record [ackFrame cfg raw] (.acks raw)).acked[l.acked.length]? = some raw := by
    show (l.acked ++ [raw])[l.acked.length]? = some raw
    simp
  -- the pump reads, so no older request is open
  have hsettled : l.settled = l.acked.length := by
    rcases h.tied.unsettled with h | ⟨_, hp⟩
    · exact h
    · rw [hpump] at hp
      exact (hp.elim id id).elim
  refine ⟨h.numbered.acks _ raw, ?_, ?_⟩
  · refine h.wired.append (.ack l.acked.length) rfl hacked ?_ ?_ (List.append_nil _) ?_
    · intro frame hframe
      rw [List.mem_singleton.mp hframe]
      exact ⟨raw, hlast, rfl⟩
    · show _ = List.range (l.acked ++ [raw]).length
      rw [List.length_append, List.length_singleton, List.range_succ]
      rfl
    · intro n hn
      cases hn
  · refine ⟨?_, h.tied.room, ?_, ?_, ?_, ?_, ?_, ?_, ?_⟩
    · show (l.label _ _).map Prod.fst = _
      rw [map_label, h.tied.wire]
    · intro raw' hraw'
      rcases List.mem_append.mp hraw' with hraw' | hraw'
      · exact { h.tied.admitted raw' hraw' with }
      · rw [List.mem_singleton.mp hraw']
        exact { hadmitted with }
    · exact h.tied.queue.imp (fun _ _ hholds => hholds.mono hacked)
    · right
      refine ⟨?_, .inl trivial⟩
      show l.settled + 1 = (l.acked ++ [raw]).length
      simp [hsettled]
    · intro request version hp
      cases hp
      refine ⟨?_, ⟨raw, ?_, rfl, rfl⟩, rfl⟩
      · show l.settled + 1 = (l.acked ++ [raw]).length
        simp [hsettled]
      · show (l.acked ++ [raw])[l.settled]? = some raw
        rw [hsettled]
        exact hlast
    · intro request version st p2 hworker
      obtain ⟨n, htaken, hholds, hnew⟩ := h.tied.serving request version st p2 hworker
      exact ⟨n, htaken, hholds.mono hacked, hnew⟩
    · intro request st hworker
      obtain ⟨n, version, htaken, hholds, hnew⟩ := h.tied.doomed request st hworker
      exact ⟨n, version, htaken, hholds.mono hacked, hnew⟩
    · intro n request hmem
      obtain ⟨version, hholds⟩ := h.tied.served n request hmem
      exact ⟨version, hholds.mono hacked⟩

/-- The pump replies to another frame. -/
theorem replies (h : Pipelined cfg s l) {raw : Bytes} {frames : List Bytes}
    (hr : Replied s raw s') (hwire : s'.wire = s.wire ++ frames)
    (hframes : ∀ frame ∈ frames, l.Labelled cfg frame (.reply raw)) :
    Pipelined cfg s' (l.record frames (.replies raw)) := by
  have hsettled : l.settled = l.acked.length := by
    rcases h.tied.unsettled with h | ⟨_, hp⟩
    · exact h
    · rw [hr.reading] at hp
      exact (hp.elim id id).elim
  refine ⟨{ h.numbered with }, ?_, ?_⟩
  · exact h.wired.plain rfl rfl rfl rfl rfl hframes (by simp [Origin.answer?])
  · refine ⟨?_, ?_, ?_, ?_, .inl hsettled, ?_, ?_, ?_, h.tied.served⟩
    · show (l.label _ _).map Prod.fst = _
      rw [map_label, h.tied.wire, hwire]
    · rw [hr.queue]
      exact h.tied.room
    · intro raw' hraw'
      refine (h.tied.admitted raw' hraw').of_bound ?_
      rw [hr.activated]
      exact fun hact => ⟨hact, hr.testerAddr⟩
    · rw [hr.queue]
      exact h.tied.queue
    · intro request version hp
      have hno := hr.pump
      rw [hp] at hno
      exact absurd trivial hno
    · rw [hr.worker]
      exact h.tied.serving
    · rw [hr.worker]
      exact h.tied.doomed

/-- The ACK is drained, and the request queued. -/
theorem queues (h : Pipelined cfg s l) {request : UdsRequest} {version : UInt8}
    (hpump : s.pump = .sending (.enqueue request version))
    (hroom : s.udsQueue.length < udsQueueMaxsize) :
    Pipelined cfg { s with udsQueue := s.udsQueue ++ [(request, version)], pump := .reading }
      (l.record [] .queues) := by
  obtain ⟨hlast, hholds, _⟩ := h.tied.promised request version hpump
  refine ⟨h.numbered.queues [] (by omega), { h.wired with }, ?_⟩
  refine ⟨h.tied.wire, ?_, ?_, ?_, .inl hlast, by simp, h.tied.serving, h.tied.doomed,
    h.tied.served⟩
  · show (s.udsQueue ++ [(request, version)]).length ≤ udsQueueMaxsize
    rw [List.length_append, List.length_singleton]
    omega
  · exact fun raw hraw => { h.tied.admitted raw hraw with }
  · exact List.rel_append h.tied.queue (.cons hholds .nil)

/-- The ACK is drained, and the request refused as busy. -/
theorem refuses (h : Pipelined cfg s l) {request : UdsRequest} {version : UInt8}
    (hpump : s.pump = .sending (.enqueue request version)) :
    Pipelined cfg
      { s with
        wire := s.wire ++ [busyFrame cfg request s.currentReqVersion], pump := .sending .loop }
      (l.record [busyFrame cfg request s.currentReqVersion] .refuses) := by
  obtain ⟨hlast, hholds, hversion⟩ := h.tied.promised request version hpump
  refine ⟨h.numbered.refuses _ (by omega), ?_, ?_⟩
  · refine h.wired.append (.busy l.settled) rfl List.prefix_rfl ?_ (List.append_nil _) rfl ?_
    · intro frame hframe
      rw [List.mem_singleton.mp hframe, hversion]
      exact ⟨request, version, hholds, rfl⟩
    · intro n hn
      cases hn
      omega
  · refine ⟨?_, h.tied.room, ?_, h.tied.queue, .inl hlast, by simp, h.tied.serving,
      h.tied.doomed, h.tied.served⟩
    · show (l.label _ _).map Prod.fst = _
      rw [map_label, h.tied.wire]
    · exact fun raw hraw => { h.tied.admitted raw hraw with }

/-- The worker takes the oldest request of the queue. -/
theorem takes (h : Pipelined cfg s l) {request : UdsRequest} {version : UInt8}
    {rest : List (UdsRequest × UInt8)} {worker : Worker}
    (hqueue : s.udsQueue = (request, version) :: rest)
    (hworker : worker = .idle ∨ ∃ st, worker = .serving request version st {}) :
    Pipelined cfg { s with udsQueue := rest, worker := worker } (l.record [] .takes) := by
  have hties := h.tied.queue
  rw [hqueue] at hties
  obtain ⟨n, ns, hholds, hrest, hwaiting⟩ := List.forall₂_cons_right_iff.mp hties
  have htaken : (l.record [] .takes).taken = l.taken ++ [n] := by
    show l.taken ++ l.waiting.head?.toList = _
    rw [hwaiting]
    rfl
  -- the queued numbers increase, so this one has not been taken before
  have hnew : n ∉ l.dispatched.map Prod.fst := by
    intro hmem
    have hold := h.numbered.dispatched.subset hmem
    have hincreasing := h.numbered.queued
    rw [h.numbered.parts, hwaiting, List.pairwise_append] at hincreasing
    have := hincreasing.2.2 n hold n (List.mem_cons_self ..)
    omega
  refine ⟨h.numbered.takes [], { h.wired with }, ?_⟩
  refine ⟨h.tied.wire, ?_, ?_, ?_, h.tied.unsettled, h.tied.promised, ?_, ?_, h.tied.served⟩
  · have hroom := h.tied.room
    rw [hqueue, List.length_cons] at hroom
    show rest.length ≤ udsQueueMaxsize
    omega
  · exact fun raw hraw => { h.tied.admitted raw hraw with }
  · show List.Forall₂ _ l.waiting.tail rest
    rw [hwaiting]
    exact hrest
  · intro request' version' st p2 hserving
    rcases hworker with hidle | ⟨st', hworker⟩
    · exact absurd (hidle.symm.trans hserving) (by simp)
    · cases hworker.symm.trans hserving
      exact ⟨n, by rw [htaken]; simp, hholds, fun _ => hnew⟩
  · intro request' st hdoomed
    rcases hworker with hidle | ⟨st', hworker⟩
    · exact absurd (hidle.symm.trans hdoomed) (by simp)
    · exact absurd (hworker.symm.trans hdoomed) (by simp)

/-- The request of the worker is dispatched: afterwards no task is left to do it again. -/
theorem dispatches (h : Pipelined cfg s l) {request : UdsRequest} {n : Nat} {version : UInt8}
    {worker : Worker} (hlast : l.taken.getLast? = some n) (hholds : l.Holds cfg n request version)
    (hnew : n ∉ l.dispatched.map Prod.fst)
    (hworker : worker = .stopped
      ∨ ∃ st p2, worker = .serving request version st p2 ∧ p2.handler ≠ none) :
    Pipelined cfg { s with worker := worker } (l.record [] (.dispatches request)) := by
  refine ⟨h.numbered.dispatches [] request hlast hnew, { h.wired with }, ?_⟩
  refine ⟨h.tied.wire, h.tied.room, ?_, h.tied.queue, h.tied.unsettled, h.tied.promised, ?_, ?_,
    ?_⟩
  · exact fun raw hraw => { h.tied.admitted raw hraw with }
  · intro request' version' st p2 hserving
    rcases hworker with hstopped | ⟨st', p2', hworker, hdone⟩
    · exact absurd (hstopped.symm.trans hserving) (by simp)
    · cases hworker.symm.trans hserving
      exact ⟨n, hlast, hholds, fun hnone => absurd hnone hdone⟩
  · intro request' st hdoomed
    rcases hworker with hstopped | ⟨st', p2', hworker, _⟩
    · exact absurd (hstopped.symm.trans hdoomed) (by simp)
    · exact absurd (hworker.symm.trans hdoomed) (by simp)
  · intro m request' hmem
    rcases List.mem_append.mp hmem with hmem | hmem
    · exact h.tied.served m request' hmem
    · rw [hlast] at hmem
      cases List.mem_singleton.mp hmem
      exact ⟨version, hholds⟩

/-- The worker writes responses. -/
theorem responds (h : Pipelined cfg s l) {request : UdsRequest} {version : UInt8} {st : StateId}
    {p2 : P2} {frames : List Bytes} (hr : Responded cfg s request version st p2 s')
    (hwire : s'.wire = s.wire ++ frames)
    (hframes : ∀ frame ∈ frames, ∃ response, frame = udsFrame cfg request version response) :
    Pipelined cfg s' (l.record frames .responds) := by
  obtain ⟨n, hlast, hholds, hnew⟩ := h.tied.serving request version st p2 hr.serving
  have hn : l.taken.getLastD 0 = n := by
    rw [List.getLastD_eq_getLast?, hlast]
    rfl
  have hmem : n ∈ l.taken := List.mem_of_getLast? hlast
  refine ⟨{ h.numbered with }, ?_, ?_⟩
  · refine h.wired.plain rfl rfl rfl rfl rfl ?_ ?_
    · intro frame hframe
      obtain ⟨response, heq⟩ := hframes frame hframe
      rw [hn]
      exact ⟨request, version, response, hholds, heq⟩
    · intro m hm
      cases hm
      rw [hn]
      exact h.acked_of_taken hmem
  · refine ⟨?_, ?_, ?_, ?_, ?_, ?_, ?_, ?_, h.tied.served⟩
    · show (l.label _ _).map Prod.fst = _
      rw [map_label, h.tied.wire, hwire]
    · rw [hr.queue]
      exact h.tied.room
    · intro raw hraw
      refine (h.tied.admitted raw hraw).of_bound ?_
      rw [hr.activated]
      exact fun hact => ⟨hact, hr.testerAddr⟩
    · rw [hr.queue]
      exact h.tied.queue
    · rw [hr.pump]
      exact h.tied.unsettled
    · rw [hr.pump, hr.reqVersion]
      exact h.tied.promised
    · intro request' version' st' p2' hserving
      rcases hr.worker with hidle | ⟨p2'', hworker, hhandler⟩
      · exact absurd (hidle.symm.trans hserving) (by simp)
      · cases hworker.symm.trans hserving
        exact ⟨n, hlast, hholds, fun hnone => hnew (hhandler.symm.trans hnone)⟩
    · intro request' st' hdoomed
      rcases hr.worker with hidle | ⟨p2'', hworker, _⟩
      · exact absurd (hidle.symm.trans hdoomed) (by simp)
      · exact absurd (hworker.symm.trans hdoomed) (by simp)

/-- A step that is about no request. -/
theorem aside (h : Pipelined cfg s l) {frames : List Bytes} (ha : Aside s s')
    (hwire : s'.wire = s.wire ++ frames)
    (hframes : ∀ frame ∈ frames, l.Labelled cfg frame .other) :
    Pipelined cfg s' (l.record frames .aside) := by
  refine ⟨{ h.numbered with }, ?_, ?_⟩
  · exact h.wired.plain rfl rfl rfl rfl rfl hframes (by simp [Origin.answer?])
  · refine ⟨?_, ?_, ?_, ?_, ?_, ?_, ?_, ?_, h.tied.served⟩
    · show (l.label _ _).map Prod.fst = _
      rw [map_label, h.tied.wire, hwire]
    · rw [ha.queue]
      exact h.tied.room
    · exact fun raw hraw => (h.tied.admitted raw hraw).of_bound ha.bound
    · rw [ha.queue]
      exact h.tied.queue
    · rcases h.tied.unsettled with hall | ⟨hlast, hp⟩
      · exact .inl hall
      · rcases ha.pump with ⟨hpump, _⟩ | ⟨_, hpast⟩
        · exact .inr ⟨hlast, by rw [hpump]; exact hp⟩
        · exact .inr ⟨hlast, .inr (hpast hp)⟩
    · intro request version hp
      rcases ha.pump with ⟨hpump, hversion⟩ | ⟨hno, _⟩
      · rw [hversion]
        exact h.tied.promised request version (hpump.symm.trans hp)
      · rw [hp] at hno
        exact absurd trivial hno
    · intro request version st p2 hserving
      have hretreat := ha.worker
      rw [hserving] at hretreat
      generalize hk : s.worker = k at hretreat
      cases hretreat
      exact h.tied.serving request version st p2 hk
    · intro request st hdoomed
      have hretreat := ha.worker
      rw [hdoomed] at hretreat
      generalize hk : s.worker = k at hretreat
      cases hretreat with
      | same => exact h.tied.doomed request st hk
      | doomed _ version _ p2 hnone =>
          obtain ⟨n, hlast, hholds, hnew⟩ := h.tied.serving request version st p2 hk
          exact ⟨n, version, hlast, hholds, hnew hnone⟩

/-- **Every deed is entered in order.** -/
theorem does (h : Pipelined cfg s l) {d : Deed} (hd : Does cfg s d s') :
    Pipelined cfg s' (l.record (s'.wire.drop s.wire.length) d) := by
  have hdrop : ∀ frames, s'.wire = s.wire ++ frames → s'.wire.drop s.wire.length = frames := by
    intro frames hwire
    rw [hwire, List.drop_left]
  cases hd with
  | acks raw hpump hadmitted =>
      rw [hdrop _ rfl]
      exact h.acks hpump hadmitted
  | replies raw _ hr =>
      obtain ⟨frames, hwire, hframes⟩ := hr.wire
      rw [hdrop frames hwire]
      exact h.replies hr hwire hframes
  | queues request version hpump hroom =>
      rw [hdrop [] (List.append_nil _).symm]
      exact h.queues hpump hroom
  | refuses request version hpump =>
      rw [hdrop _ rfl]
      exact h.refuses hpump
  | takes request version rest worker _ hqueue hworker =>
      rw [hdrop [] (List.append_nil _).symm]
      exact h.takes hqueue hworker
  | dispatches request version st p2 p2' hserving hbefore hafter =>
      obtain ⟨n, hlast, hholds, hnew⟩ := h.tied.serving request version st p2 hserving
      rw [hdrop [] (List.append_nil _).symm]
      exact h.dispatches hlast hholds (hnew hbefore) (.inr ⟨st, p2', rfl, hafter⟩)
  | dispatchesLast request st hdoomed =>
      obtain ⟨n, version, hlast, hholds, hnew⟩ := h.tied.doomed request st hdoomed
      rw [hdrop [] (List.append_nil _).symm]
      exact h.dispatches hlast hholds hnew (.inl rfl)
  | responds request version st p2 _ hr =>
      obtain ⟨frames, hwire, hframes⟩ := hr.wire
      rw [hdrop frames hwire]
      exact h.responds hr hwire hframes
  | aside _ ha =>
      obtain ⟨frames, hwire, hframes⟩ := ha.wire
      rw [hdrop frames hwire]
      exact h.aside ha hwire hframes

end Pipelined

/-- The world with the ledger of socket `i`. -/
def ledgerStep (cfg : EcuConfig) (i : Sid) : World × Ledger → Event → Option (World × Ledger) :=
  Transition.logged (step cfg) (Ledger.note i)

theorem pipelined_run (cfg : EcuConfig) (i : Sid) (es : List Event) (w : World) (l : Ledger)
    (h : Transition.exec (ledgerStep cfg i) (World.init cfg, {}) es = some (w, l)) :
    Pipelined cfg (w.sessions i) l := by
  refine (Transition.exec_invariant
    (fun t : World × Ledger => Shape t.1 ∧ Pipelined cfg (t.1.sessions i) t.2) ?_ es _ (w, l)
    ⟨shape_init cfg, Pipelined.init cfg⟩ h).2
  rintro ⟨w, l⟩ e ⟨w', l'⟩ ⟨hw, hl⟩ hstep
  obtain ⟨hworld, rfl⟩ := Transition.logged_eq_some.mp hstep
  exact ⟨hw.step hworld, hl.does (step_does hw hworld i)⟩

/-- What a worker has in hand. -/
def Worker.request? : Worker → Option UdsRequest
  | .serving request _ _ _ | .doomed request _ => some request
  | _ => none

/-- The request a worker has in hand passed the checks of its socket. -/
theorem served_admitted {es : List Event} {w : World}
    (h : Transition.exec (step cfg) (World.init cfg) es = some w) {i : Sid} {request : UdsRequest}
    (hworker : (w.sessions i).worker.request? = some request) :
    ∃ raw, requestOf cfg raw = request ∧ Admitted cfg (w.sessions i) raw := by
  obtain ⟨l, hl⟩ := Transition.exec_logged h ({} : Ledger)
  have htied := (pipelined_run cfg i es w l hl).tied
  have hholds : ∃ n version, l.Holds cfg n request version := by
    cases hk : (w.sessions i).worker with
    | serving request' version st p2 =>
        rw [hk] at hworker
        cases hworker
        obtain ⟨n, _, hholds, _⟩ := htied.serving request version st p2 hk
        exact ⟨n, version, hholds⟩
    | doomed request' st =>
        rw [hk] at hworker
        cases hworker
        obtain ⟨n, version, _, hholds, _⟩ := htied.doomed request st hk
        exact ⟨n, version, hholds⟩
    | idle =>
        rw [hk] at hworker
        cases hworker
    | stopped =>
        rw [hk] at hworker
        cases hworker
  obtain ⟨n, version, raw, hraw, hrequest, _⟩ := hholds
  exact ⟨raw, hrequest, htied.admitted raw (List.mem_of_getElem? hraw)⟩

/-! ## §4. The pump and the worker together. -/

/-- What a ledger says about the requests of a socket. -/
structure Handled (cfg : EcuConfig) (s : Session) (l : Ledger) : Prop where
  /-- What is dispatched is the request of an acknowledged frame that passed
  the checks of this socket. -/
  admitted : ∀ n request, (n, request) ∈ l.dispatched →
    ∃ raw, l.acked[n]? = some raw ∧ request = requestOf cfg raw ∧ Admitted cfg s raw
  /-- Once its ACK is drained, a request is queued or refused as busy.  Only
  the last ACK can still be on its way, or have ended the loop. -/
  settled : ∀ n < l.acked.length, (n ∈ l.queued ∨ n ∈ l.refused)
    ∨ n + 1 = l.acked.length ∧ (s.pump.Promised ∨ s.pump.Past)
  exclusive : ∀ n ∈ l.queued, n ∉ l.refused
  queuedOnce : l.queued.Pairwise (· < ·)
  /-- At most once, and in the order of the ACKs. -/
  dispatchedInOrder : (l.dispatched.map Prod.fst).Sublist l.queued
  room : s.udsQueue.length ≤ udsQueueMaxsize
  /-- The labelled frames are those on the wire. -/
  wire : l.wire.map Prod.fst = s.wire
  /-- One Positive ACK for each acknowledged request, in order. -/
  acks : l.wire.filterMap (fun p => p.2.ack?) = List.range l.acked.length
  /-- One busy answer for each refused request. -/
  busy : l.wire.filterMap (fun p => p.2.busy?) = l.refused
  before : ∀ (k : Nat) (p : Bytes × Origin) (n : Nat), l.wire[k]? = some p →
    p.2.answer? = some n → ∃ j < k, ∃ ack, l.wire[j]? = some (ack, .ack n)
  /-- The ACK, the busy answer and the responses of a request carry the
  version of its own frame, and so does a NACK. -/
  labelled : ∀ p ∈ l.wire, l.Labelled cfg p.1 p.2

/-- **Pump and worker**: along every run, whatever the frames on the socket
and the interleaving. -/
theorem pump_worker (cfg : EcuConfig) (i : Sid) (es : List Event) (w : World)
    (h : Transition.exec (step cfg) (World.init cfg) es = some w) :
    ∃ l, Transition.exec (ledgerStep cfg i) (World.init cfg, {}) es = some (w, l)
      ∧ Handled cfg (w.sessions i) l := by
  obtain ⟨l, hl⟩ := Transition.exec_logged h ({} : Ledger)
  obtain ⟨hnumbered, hwired, htied⟩ := pipelined_run cfg i es w l hl
  refine ⟨l, hl, ?_, ?_, hnumbered.disjoint, hnumbered.queued, ?_, htied.room, htied.wire,
    hwired.acks, hwired.busy, hwired.before, hwired.labelled⟩
  · intro n request hmem
    obtain ⟨version, raw, hraw, hrequest, _⟩ := htied.served n request hmem
    exact ⟨raw, hraw, hrequest.symm, htied.admitted raw (List.mem_of_getElem? hraw)⟩
  · intro n hn
    rcases htied.unsettled with hall | ⟨hlast, hp⟩
    · exact .inl ((hnumbered.split n).mpr (by omega))
    · by_cases hlt : n < l.settled
      · exact .inl ((hnumbered.split n).mpr hlt)
      · exact .inr ⟨by omega, hp⟩
  · rw [hnumbered.parts]
    exact hnumbered.dispatched.trans (List.sublist_append_left _ _)

/-- A second request is acknowledged while the first one is still queued. -/
def pipelined : List Event :=
  asks 0 0x0E00 ++ [.sent 0, .frame 0 (diagnosticFrame 0x0E00 [0x3E, 0x00]), .sent 0,
    .frame 0 (diagnosticFrame 0x0E00 [0x27, 0x01]), .sent 0, .takeRequest 0, .dispatch 0,
    .resolve 0 .resume, .resolve 0 .sent]

theorem pump_worker_pipelined :
    ∃ w l, Transition.exec (ledgerStep {} 0) (World.init {}, {}) pipelined = some (w, l)
      ∧ l.wire.map Prod.snd = [.other, .ack 0, .ack 1, .response 0]
      ∧ Handled {} (w.sessions 0) l := by
  have hrun : ((Transition.exec (ledgerStep {} 0) (World.init {}, {}) pipelined).map
      (fun t => t.2.wire.map Prod.snd)) = some [.other, .ack 0, .ack 1, .response 0] := by decide
  have hreplay : (Transition.exec (step {}) (World.init {}) pipelined).isSome = true := by decide
  obtain ⟨w, hw⟩ := Option.isSome_iff_exists.mp hreplay
  obtain ⟨l, hl, hhandled⟩ := pump_worker {} 0 pipelined w hw
  rw [hl, Option.map_some, Option.some.injEq] at hrun
  exact ⟨w, l, hl, hrun, hhandled⟩

end DoipPlayground.VirtualEcu
