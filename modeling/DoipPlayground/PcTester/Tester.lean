/-
  DoipPlayground.PcTester.Tester
  ──────────────────────────────
  **THE PC TESTER: ONE CONNECTION, A BACKGROUND READER, A RECEIVE QUEUE**
  (`pc_tester/tester.py`).

  The reader task queues every frame of the node but its Alive Check
  Requests, which it answers.  A command writes its request, waits for the
  write to drain, and takes one frame from the queue, `diag` a second one
  after a positive acknowledgement.  Each wait may time out.  An event lets
  the command or the reader run to its next await, or is an arrival; so a
  list of events is one timing of the node and of the user.

  Two fields are bookkeeping for statements and steer nothing: `Received.after`
  says how many requests had been written when the frame arrived, and
  `Tester.reports` what was printed as a response to which request.

    • `Tester.unread` — the frames a command can still be given,
    • `Inv.step` — a command that starts with none is only given later ones,
    • `stale_reported` — one that starts with some can be given them,
    • `commands_fresh` — over every run.
-/
import DoipPlayground.Lib.Python
import DoipPlayground.Lib.Run
import DoipPlayground.Lib.Struct

namespace DoipPlayground.PcTester

open Wire

/-! ## §1. Frames. -/

def ptRoutingActRequest : Nat := 0x0005
def ptRoutingActResponse : Nat := 0x0006
def ptAliveCheckRequest : Nat := 0x0007
def ptAliveCheckResponse : Nat := 0x0008
def ptEntityStatusRequest : Nat := 0x4001
def ptPowerModeRequest : Nat := 0x4003
def ptDiagnosticMessage : Nat := 0x8001
def ptDiagnosticPositiveAck : Nat := 0x8002

/-- `_build`; `none` is `struct.error`. -/
def build (payloadType : Nat) (payload : Bytes) : Option Bytes := do
  let header ← packBBHI 0x02 (0xFF ^^^ 0x02) payloadType payload.length
  return header ++ payload

/-- `_ptype` -/
def ptype (raw : Bytes) : Nat := fromBytes ((raw.drop 2).take 2)

/-- `_plen` -/
def plen (raw : Bytes) : Nat := fromBytes ((raw.drop 4).take 4)

/-- `_payload` -/
def payload (raw : Bytes) : Bytes := raw.drop 8

/-- What `_read_frame` reads: eight bytes, and as many more as they declare. -/
def IsFrame (raw : Bytes) : Prop := 8 ≤ raw.length ∧ raw.length = 8 + plen raw

instance (raw : Bytes) : Decidable (IsFrame raw) := inferInstanceAs (Decidable (_ ∧ _))

/-! ## §2. The tester. -/

inductive Command where
  | activate (srcAddr : Option Int)
  | diag (udsPayload : Bytes)
  | target (newAddr : Option Int)
  | alive
  | status
  | power
  deriving DecidableEq, Repr

/-- The command takes a response from the queue. -/
def Command.awaitsResponse : Command → Bool
  | .activate _ => true
  | .diag _ => true
  | .status => true
  | .power => true
  | .target _ => false
  | .alive => false

/-- A frame of the node. -/
structure Received where
  raw : Bytes
  after : Nat
  deriving DecidableEq, Repr

/-- A frame that a command took and printed as its response. -/
structure Report where
  command : Command
  request : Nat
  response : Received
  deriving DecidableEq, Repr

/-- Where the running command is suspended. -/
inductive Phase where
  | idle
  /-- In `drain`, after the write. -/
  | draining (command : Command) (request : Nat)
  /-- In the first `_recv`. -/
  | receiving (command : Command) (request : Nat)
  /-- In the second `_recv` of `cmd_diag`. -/
  | receivingFollowUp (command : Command) (request : Nat)
  deriving DecidableEq, Repr

/-- Where `_background_reader` is suspended. -/
inductive Reader where
  | reading
  | replying
  | done
  deriving DecidableEq, Repr

structure Tester where
  testerAddr : Int
  ecuAddr : Int
  activated : Bool
  /-- `_writer` is set. -/
  connected : Bool
  /-- The frames `_reader` holds. -/
  stream : List Received
  recvQueue : List Received
  reader : Reader
  closedEvent : Bool
  phase : Phase
  /-- What went out on the connection. -/
  written : List Bytes
  /-- The number of frames that commands have written. -/
  requests : Nat
  reports : List Report

namespace Tester

/-- `__init__` -/
def init (testerAddr ecuAddr : Int) : Tester where
  testerAddr := testerAddr
  ecuAddr := ecuAddr
  activated := false
  connected := false
  stream := []
  recvQueue := []
  reader := .done
  closedEvent := false
  phase := .idle
  written := []
  requests := 0
  reports := []

/-- `connect`, once the connection is open. -/
def connect (t : Tester) : Tester :=
  { t with connected := true, closedEvent := false, stream := [], recvQueue := [],
           reader := .reading }

/-- `disconnect`, which drops the stale responses. -/
def disconnect (t : Tester) : Tester :=
  { t with connected := false, activated := false, stream := [], recvQueue := [],
           reader := .done, closedEvent := t.closedEvent || t.reader ≠ .done }

/-- `_send` of a command, up to the drain.  Without a writer it raises, and
so does the packing of a frame that is `none`: nothing is sent. -/
def send (t : Tester) (command : Command) (frame : Option Bytes) : Tester :=
  match frame with
  | none => t
  | some raw =>
      if t.connected then
        { t with written := t.written ++ [raw], requests := t.requests + 1,
                 phase := .draining command (t.requests + 1) }
      else t

def cmdActivate (t : Tester) (srcAddr : Option Int) : Tester :=
  let addr := srcAddr.getD t.testerAddr
  t.send (.activate (some addr)) do
    let src ← Python.packH? addr
    build ptRoutingActRequest (src ++ [0x00] ++ [0, 0, 0, 0])

def cmdDiag (t : Tester) (udsPayload : Bytes) : Tester :=
  if !t.activated then t
  else
    t.send (.diag udsPayload) do
      let src ← Python.packH? t.testerAddr
      let tgt ← Python.packH? t.ecuAddr
      build ptDiagnosticMessage (src ++ tgt ++ udsPayload)

def cmdTarget (t : Tester) (newAddr : Option Int) : Tester :=
  match newAddr with
  | none => t
  | some newAddr =>
      if 0x0000 ≤ newAddr ∧ newAddr ≤ 0xFFFF then { t with ecuAddr := newAddr } else t

def cmdAlive (t : Tester) : Tester :=
  if !t.activated then t
  else
    t.send .alive do
      let src ← Python.packH? t.testerAddr
      build ptAliveCheckResponse src

def cmdStatus (t : Tester) : Tester := t.send .status (build ptEntityStatusRequest [])

def cmdPower (t : Tester) : Tester := t.send .power (build ptPowerModeRequest [])

/-- A command up to its first await. -/
def command (t : Tester) : Command → Tester
  | .activate srcAddr => t.cmdActivate srcAddr
  | .diag udsPayload => t.cmdDiag udsPayload
  | .target newAddr => t.cmdTarget newAddr
  | .alive => t.cmdAlive
  | .status => t.cmdStatus
  | .power => t.cmdPower

/-- The write has drained: on to `_recv`, where the command has one. -/
def drained (t : Tester) (command : Command) (request : Nat) : Tester :=
  { t with phase := if command.awaitsResponse then .receiving command request else .idle }

/-- The command goes on with a frame it took. -/
def finish (t : Tester) (command : Command) (request : Nat) (raw : Bytes) : Tester :=
  match command with
  | .activate srcAddr =>
      if ptype raw = ptRoutingActResponse ∧ 5 ≤ (payload raw).length
          ∧ (payload raw).getD 4 0 = 0x10 then
        { t with phase := .idle, testerAddr := srcAddr.getD t.testerAddr, activated := true }
      else { t with phase := .idle }
  | .diag _ =>
      if ptype raw = ptDiagnosticPositiveAck then
        { t with phase := .receivingFollowUp command request }
      else { t with phase := .idle }
  | _ => { t with phase := .idle }

/-- `_recv` returns the next frame of the queue, which is printed. -/
def receive (t : Tester) : Option Tester :=
  match t.phase, t.recvQueue with
  | .receiving command request, response :: rest =>
      some (({ t with recvQueue := rest, reports := t.reports ++ [⟨command, request, response⟩] }
        : Tester).finish command request response.raw)
  | .receivingFollowUp command request, response :: rest =>
      some { t with recvQueue := rest, reports := t.reports ++ [⟨command, request, response⟩],
                    phase := .idle }
  | _, _ => none

/-- `_recv` raises: the command is over, `cmd_diag` without a follow-up. -/
def timeout (t : Tester) : Option Tester :=
  match t.phase with
  | .receiving _ _ => some { t with phase := .idle }
  | .receivingFollowUp _ _ => some { t with phase := .idle }
  | _ => none

/-- The reply to an Alive Check Request; `none` when the reader raises. -/
def aliveReply (t : Tester) (raw : Bytes) : Option Bytes :=
  if plen raw ≠ 0 ∨ !t.connected then none
  else do
    let src ← Python.packH? t.testerAddr
    build ptAliveCheckResponse src

def readerEnds (t : Tester) : Tester := { t with reader := .done, closedEvent := true }

/-- One turn of `_background_reader`. -/
def read (t : Tester) : Option Tester :=
  match t.reader, t.stream with
  | .reading, frame :: rest =>
      let t := { t with stream := rest }
      if ptype frame.raw = ptAliveCheckRequest then
        match t.aliveReply frame.raw with
        | none => some t.readerEnds
        | some reply => some { t with written := t.written ++ [reply], reader := .replying }
      else some { t with recvQueue := t.recvQueue ++ [frame] }
  | _, _ => none

end Tester

inductive Event where
  | connect
  | disconnect
  | command (command : Command)
  | drained
  | sendFails
  | receive
  | timeout
  | arrive (raw : Bytes)
  | read
  | replied
  | readerEnds
  deriving DecidableEq, Repr

/-- One step.  A command starts when the one before it is over; a wait may
time out at any time, even as a frame comes in. -/
def step (t : Tester) : Event → Option Tester
  | .connect => if t.phase = .idle ∧ !t.connected then some t.connect else none
  | .disconnect => if t.phase = .idle then some t.disconnect else none
  | .command c => if t.phase = .idle then some (t.command c) else none
  | .drained =>
      match t.phase with
      | .draining command request => some (t.drained command request)
      | _ => none
  | .sendFails =>
      match t.phase with
      | .draining _ _ => some { t with phase := .idle }
      | _ => none
  | .receive => t.receive
  | .timeout => t.timeout
  | .arrive raw =>
      if t.connected ∧ IsFrame raw then
        some { t with stream := t.stream ++ [⟨raw, t.requests⟩] }
      else none
  | .read => t.read
  | .replied => if t.reader = .replying then some { t with reader := .reading } else none
  | .readerEnds => if t.reader ≠ .done then some t.readerEnds else none

/-- The frame arrived after the request was written. -/
def Report.Fresh (r : Report) : Prop := r.request ≤ r.response.after

namespace Tester

/-! ## §3. What a command can still be given. -/

/-- Of the frames in the stream, those the reader will queue: it answers an
Alive Check Request, and stops at one it cannot answer. -/
def queueable (t : Tester) : List Received → List Received
  | [] => []
  | frame :: rest =>
      if ptype frame.raw = ptAliveCheckRequest then
        if (t.aliveReply frame.raw).isSome then t.queueable rest else []
      else frame :: t.queueable rest

/-- The frames received and not taken: those in the queue and those on their
way to it. -/
def unread (t : Tester) : List Received :=
  t.recvQueue ++ if t.reader = .done then [] else t.queueable t.stream

/-- The tester writes a request when it starts the command. -/
def Sends (t : Tester) (c : Command) : Prop := (t.command c).phase ≠ .idle

instance (t : Tester) (c : Command) : Decidable (t.Sends c) := inferInstanceAs (Decidable (_ ≠ _))

/-- The reply depends on the address and the connection only. -/
theorem queueable_congr (t t' : Tester) (haddr : t'.testerAddr = t.testerAddr)
    (hconn : t'.connected = t.connected) (frames : List Received) :
    t'.queueable frames = t.queueable frames := by
  have hreply : ∀ raw, t'.aliveReply raw = t.aliveReply raw := by
    intro raw
    unfold aliveReply
    rw [haddr, hconn]
  induction frames with
  | nil => rfl
  | cons frame rest ih => simp only [queueable, hreply, ih]

/-- Writing and waiting make nothing unread. -/
theorem unread_congr {t t' : Tester} (haddr : t'.testerAddr = t.testerAddr)
    (hconn : t'.connected = t.connected) (hqueue : t'.recvQueue = t.recvQueue)
    (hstream : t'.stream = t.stream) (hdone : t'.reader = .done ↔ t.reader = .done) :
    t'.unread = t.unread := by
  unfold unread
  rw [hqueue, hstream, queueable_congr t t' haddr hconn]
  by_cases h : t.reader = .done
  · rw [if_pos h, if_pos (hdone.mpr h)]
  · rw [if_neg h, if_neg fun h' => h (hdone.mp h')]

/-- A new frame at the end of the stream adds itself at most. -/
theorem mem_queueable_append {t : Tester} {frames : List Received} {x f : Received}
    (h : f ∈ t.queueable (frames ++ [x])) : f ∈ t.queueable frames ∨ f = x := by
  induction frames with
  | nil =>
      simp only [List.nil_append, queueable] at h
      split at h
      · split at h
        · exact absurd h List.not_mem_nil
        · exact absurd h List.not_mem_nil
      · exact .inr (List.mem_singleton.mp h)
  | cons frame rest ih =>
      simp only [List.cons_append, queueable] at h ⊢
      split at h
      · split at h
        · rename_i halive hreply
          rw [if_pos halive, if_pos hreply]
          exact ih h
        · exact absurd h List.not_mem_nil
      · rename_i hother
        rw [if_neg hother]
        rcases List.mem_cons.mp h with rfl | h
        · exact .inl List.mem_cons_self
        · rcases ih h with h | rfl
          · exact .inl (List.mem_cons_of_mem _ h)
          · exact .inr rfl

theorem queueable_subset (t : Tester) (frames : List Received) : t.queueable frames ⊆ frames := by
  induction frames with
  | nil => exact List.Subset.refl _
  | cons frame rest ih =>
      simp only [queueable]
      split
      · split
        · exact List.subset_cons_of_subset _ ih
        · exact List.nil_subset _
      · exact List.cons_subset_cons _ ih

/-! ## §4. One lemma for each operation. -/

/-- What a command has done at its first await: nothing but to the target
address, or written its request. -/
inductive Started (t : Tester) (c : Command) : Tester → Prop
  | unsent (ecuAddr : Int) : Started t c { t with ecuAddr := ecuAddr }
  | sent (c' : Command) (raw : Bytes) : c'.awaitsResponse = c.awaitsResponse →
      Started t c
        { t with written := t.written ++ [raw], requests := t.requests + 1,
                 phase := .draining c' (t.requests + 1) }

theorem send_started (t : Tester) {c c' : Command} (hc : c'.awaitsResponse = c.awaitsResponse)
    (frame : Option Bytes) : t.Started c (t.send c' frame) := by
  unfold send
  cases frame with
  | none => exact .unsent t.ecuAddr
  | some raw =>
      dsimp only
      split
      · exact .sent c' raw hc
      · exact .unsent t.ecuAddr

theorem command_started (t : Tester) (c : Command) : t.Started c (t.command c) := by
  cases c with
  | activate srcAddr =>
      show t.Started _ (t.cmdActivate srcAddr)
      unfold cmdActivate
      dsimp only
      apply send_started
      rfl
  | diag udsPayload =>
      show t.Started _ (t.cmdDiag udsPayload)
      unfold cmdDiag
      split
      · exact .unsent t.ecuAddr
      · exact t.send_started rfl _
  | target newAddr =>
      show t.Started _ (t.cmdTarget newAddr)
      unfold cmdTarget
      cases newAddr with
      | none => exact .unsent t.ecuAddr
      | some newAddr =>
          dsimp only
          split
          · exact .unsent newAddr
          · exact .unsent t.ecuAddr
  | alive =>
      show t.Started _ t.cmdAlive
      unfold cmdAlive
      split
      · exact .unsent t.ecuAddr
      · exact t.send_started rfl _
  | status =>
      show t.Started _ t.cmdStatus
      unfold cmdStatus
      exact t.send_started rfl _
  | power =>
      show t.Started _ t.cmdPower
      unfold cmdPower
      exact t.send_started rfl _

/-- After its first response a command is over or waits for a follow-up. -/
theorem finish_cases (t : Tester) (c : Command) (request : Nat) (raw : Bytes) :
    (t.finish c request raw).reports = t.reports
      ∧ ((t.finish c request raw).phase = .idle
        ∨ t.finish c request raw = { t with phase := .receivingFollowUp c request }) := by
  cases c with
  | activate srcAddr =>
      simp only [finish]
      split
      · exact ⟨rfl, .inl rfl⟩
      · exact ⟨rfl, .inl rfl⟩
  | diag udsPayload =>
      simp only [finish]
      split
      · exact ⟨rfl, .inr rfl⟩
      · exact ⟨rfl, .inl rfl⟩
  | target newAddr => exact ⟨rfl, .inl rfl⟩
  | alive => exact ⟨rfl, .inl rfl⟩
  | status => exact ⟨rfl, .inl rfl⟩
  | power => exact ⟨rfl, .inl rfl⟩

/-- A turn of the reader ends it, answers, or queues: nothing new is unread. -/
theorem read_cases {t t' : Tester} (h : t.read = some t') :
    t'.phase = t.phase ∧ t'.reports = t.reports ∧ t'.requests = t.requests
      ∧ t'.unread ⊆ t.unread ∧ t'.recvQueue ++ t'.stream ⊆ t.recvQueue ++ t.stream := by
  unfold read at h
  split at h
  · rename_i frame rest hreader hstream
    have hunread : t.unread = t.recvQueue ++ t.queueable (frame :: rest) := by
      simp [unread, hreader, hstream]
    have hsub : t.recvQueue ++ rest ⊆ t.recvQueue ++ t.stream := by
      rw [hstream]
      intro f hf
      rcases List.mem_append.mp hf with hf | hf
      · exact List.mem_append_left _ hf
      · exact List.mem_append_right _ (List.mem_cons_of_mem _ hf)
    dsimp only at h
    split at h
    · rename_i halive
      split at h
      · rw [Option.some.injEq] at h
        subst h
        refine ⟨rfl, rfl, rfl, ?_, hsub⟩
        show t.recvQueue ++ [] ⊆ _
        rw [List.append_nil]
        exact List.subset_append_left _ _
      · rename_i reply hreply
        rw [Option.some.injEq] at h
        have hsame : t'.queueable rest = t.queueable rest :=
          queueable_congr t t' (by rw [← h]) (by rw [← h]) rest
        have hsome : (t.aliveReply frame.raw).isSome = true := by
          rw [show t.aliveReply frame.raw = some reply from hreply]
          rfl
        subst h
        refine ⟨rfl, rfl, rfl, ?_, hsub⟩
        rw [hunread, queueable, if_pos halive, if_pos hsome, ← hsame]
        exact List.Subset.refl _
    · rename_i hother
      rw [Option.some.injEq] at h
      have hsame : t'.queueable rest = t.queueable rest :=
        queueable_congr t t' (by rw [← h]) (by rw [← h]) rest
      have hopen : t'.reader ≠ .done := by
        rw [← h]
        simp [hreader]
      have hqueue : t'.recvQueue = t.recvQueue ++ [frame] := by rw [← h]
      have hrest : t'.stream = rest := by rw [← h]
      refine ⟨by rw [← h], by rw [← h], by rw [← h], ?_, ?_⟩
      · rw [hunread, queueable, if_neg hother, unread, if_neg hopen, hqueue, hrest, hsame,
          List.append_assoc]
        exact List.Subset.refl _
      · rw [hqueue, hrest, hstream, List.append_assoc]
        exact List.Subset.refl _
  · cases h

/-- What a step does. -/
inductive Change (t : Tester) : Event → Tester → Prop
  | connected : t.phase = .idle → Change t .connect t.connect
  | disconnected : t.phase = .idle → Change t .disconnect t.disconnect
  | started {c : Command} {t' : Tester} : t.phase = .idle → t' = t.command c → t.Started c t' →
      Change t (.command c) t'
  | drained {c : Command} {request : Nat} : t.phase = .draining c request →
      Change t .drained (t.drained c request)
  | sendFailed : Change t .sendFails { t with phase := .idle }
  | received {t' : Tester} : t.receive = some t' → Change t .receive t'
  | timedOut : Change t .timeout { t with phase := .idle }
  | arrived (raw : Bytes) :
      Change t (.arrive raw) { t with stream := t.stream ++ [⟨raw, t.requests⟩] }
  | read {t' : Tester} : t.read = some t' → Change t .read t'
  | replied : t.reader = .replying → Change t .replied { t with reader := .reading }
  | readerEnded : Change t .readerEnds t.readerEnds

theorem step_cases {t t' : Tester} {e : Event} (hs : PcTester.step t e = some t') :
    t.Change e t' := by
  cases e with
  | connect =>
      simp only [PcTester.step, Option.ite_none_right_eq_some, Option.some.injEq] at hs
      exact hs.2 ▸ .connected hs.1.1
  | disconnect =>
      simp only [PcTester.step, Option.ite_none_right_eq_some, Option.some.injEq] at hs
      exact hs.2 ▸ .disconnected hs.1
  | command c =>
      simp only [PcTester.step, Option.ite_none_right_eq_some, Option.some.injEq] at hs
      exact .started hs.1 hs.2.symm (hs.2 ▸ t.command_started c)
  | drained =>
      simp only [PcTester.step] at hs
      split at hs
      · rename_i command request hphase
        rw [Option.some.injEq] at hs
        exact hs ▸ .drained hphase
      · cases hs
  | sendFails =>
      simp only [PcTester.step] at hs
      split at hs
      · rw [Option.some.injEq] at hs
        exact hs ▸ .sendFailed
      · cases hs
  | receive => exact .received hs
  | timeout =>
      simp only [PcTester.step, Tester.timeout] at hs
      split at hs
      · rw [Option.some.injEq] at hs
        exact hs ▸ .timedOut
      · rw [Option.some.injEq] at hs
        exact hs ▸ .timedOut
      · cases hs
  | arrive raw =>
      simp only [PcTester.step, Option.ite_none_right_eq_some, Option.some.injEq] at hs
      exact hs.2 ▸ .arrived raw
  | read => exact .read hs
  | replied =>
      simp only [PcTester.step, Option.ite_none_right_eq_some, Option.some.injEq] at hs
      exact hs.2 ▸ .replied hs.1
  | readerEnds =>
      simp only [PcTester.step, Option.ite_none_right_eq_some, Option.some.injEq] at hs
      exact hs.2 ▸ .readerEnded

/-! ## §5. A command that starts with nothing unread. -/

end Tester

/-- The request whose response the command is after. -/
def Phase.awaited : Phase → Option Nat
  | .idle => none
  | .draining command request => if command.awaitsResponse then some request else none
  | .receiving _ request => some request
  | .receivingFollowUp _ request => some request

/-- The step does not start a request before every frame that is there has
been taken. -/
def Clear (t : Tester) : Event → Prop
  | .command c => c.awaitsResponse = true → t.Sends c → t.unread = []
  | _ => True

namespace Tester

structure Inv (t : Tester) : Prop where
  fresh : ∀ r ∈ t.reports, r.Fresh
  /-- While a command awaits its response, all it can be given came later. -/
  awaited : ∀ request, t.phase.awaited = some request →
    request ≤ t.requests ∧ ∀ f ∈ t.unread, request ≤ f.after

theorem inv_init (testerAddr ecuAddr : Int) : (init testerAddr ecuAddr).Inv where
  fresh := by simp [init]
  awaited := by simp [init, Phase.awaited]

/-- Between commands only the reports count. -/
theorem Inv.idle {t t' : Tester} (h : t.Inv) (hreports : t'.reports = t.reports)
    (hidle : t'.phase = .idle) : t'.Inv where
  fresh := hreports ▸ h.fresh
  awaited := by simp [hidle, Phase.awaited]

/-- A step of the reader or the stream, that makes nothing older unread. -/
theorem Inv.background {t t' : Tester} (h : t.Inv) (hreports : t'.reports = t.reports)
    (hphase : t'.phase = t.phase) (hrequests : t'.requests = t.requests)
    (hunread : ∀ f ∈ t'.unread, f ∈ t.unread ∨ t.requests ≤ f.after) : t'.Inv where
  fresh := hreports ▸ h.fresh
  awaited := by
    intro request hawaited
    rw [hphase] at hawaited
    obtain ⟨hle, hafter⟩ := h.awaited request hawaited
    refine ⟨hrequests ▸ hle, ?_⟩
    intro f hf
    rcases hunread f hf with hold | hnew
    · exact hafter f hold
    · omega

/-- The frame a command takes was unread, so it came after the request. -/
theorem Inv.report {t : Tester} (h : t.Inv) {command : Command} {request : Nat}
    {response : Received} {rest : List Received} (hqueue : t.recvQueue = response :: rest)
    (hawaited : t.phase.awaited = some request) :
    ∀ r ∈ t.reports ++ [⟨command, request, response⟩], r.Fresh := by
  intro r hr
  rcases List.mem_append.mp hr with hr | hr
  · exact h.fresh r hr
  · rw [List.mem_singleton.mp hr]
    apply (h.awaited request hawaited).2
    rw [unread, hqueue]
    exact List.mem_append_left _ List.mem_cons_self

theorem Inv.receive {t t' : Tester} (h : t.Inv) (hs : t.receive = some t') : t'.Inv := by
  unfold Tester.receive at hs
  split at hs
  · rename_i command request response rest hphase hqueue
    have hawaited : t.phase.awaited = some request := by
      rw [hphase]
      rfl
    have hfresh : ∀ r ∈ t.reports ++ [⟨command, request, response⟩], r.Fresh :=
      h.report hqueue hawaited
    rw [Option.some.injEq] at hs
    subst hs
    obtain ⟨hreports, hidle | hfollow⟩ := finish_cases
      { t with recvQueue := rest, reports := t.reports ++ [⟨command, request, response⟩] }
      command request response.raw
    · refine ⟨?_, by simp [hidle, Phase.awaited]⟩
      rw [hreports]
      exact hfresh
    · rw [hfollow]
      refine ⟨hfresh, ?_⟩
      intro request' hrequest'
      -- `cmd_diag` waits for its follow-up with the rest of the queue
      cases hrequest'
      obtain ⟨hle, hafter⟩ := h.awaited request hawaited
      refine ⟨hle, fun f hf => hafter f ?_⟩
      rw [unread, hqueue]
      apply List.mem_cons_of_mem
      have hsame : t.queueable t.stream = Tester.queueable
          { t with recvQueue := rest, reports := t.reports ++ [⟨command, request, response⟩],
                   phase := .receivingFollowUp command request } t.stream := by
        apply queueable_congr
        · rfl
        · rfl
      rw [hsame]
      exact hf
  · rename_i command request response rest hphase hqueue
    have hawaited : t.phase.awaited = some request := by
      rw [hphase]
      rfl
    rw [Option.some.injEq] at hs
    subst hs
    exact ⟨h.report hqueue hawaited, by simp [Phase.awaited]⟩
  · cases hs

/-- A step of the command that leaves the frames alone and awaits what was
awaited before. -/
theorem Inv.sameFrames {t t' : Tester} (h : t.Inv) (hreports : t'.reports = t.reports)
    (hrequests : t'.requests = t.requests)
    (hawaited : ∀ request, t'.phase.awaited = some request → t.phase.awaited = some request)
    (hunread : t'.unread ⊆ t.unread) : t'.Inv where
  fresh := hreports ▸ h.fresh
  awaited := by
    intro request hrequest
    obtain ⟨hle, hafter⟩ := h.awaited request (hawaited request hrequest)
    exact ⟨hrequests ▸ hle, fun f hf => hafter f (hunread hf)⟩

/-- A command that starts with nothing unread awaits later frames only. -/
theorem Inv.command {t t' : Tester} (h : t.Inv) (hidle : t.phase = .idle) {c : Command}
    (hstarted : t.Started c t') (hclear : c.awaitsResponse = true → t'.phase ≠ .idle →
      t.unread = []) : t'.Inv := by
  cases hstarted with
  | unsent ecuAddr => exact h.idle rfl hidle
  | sent c' raw hc =>
      refine ⟨h.fresh, ?_⟩
      intro request hawaited
      simp only [Phase.awaited] at hawaited
      split at hawaited
      · rename_i hawaits
        cases hawaited
        refine ⟨Nat.le_refl _, ?_⟩
        have hnone := hclear (hc ▸ hawaits) (by simp)
        intro f hf
        have hsame : Tester.unread
            { t with written := t.written ++ [raw], requests := t.requests + 1,
                     phase := .draining c' (t.requests + 1) } = t.unread :=
          unread_congr rfl rfl rfl rfl Iff.rfl
        rw [hsame, hnone] at hf
        exact absurd hf List.not_mem_nil
      · cases hawaited

theorem Inv.step {t t' : Tester} {e : Event} (h : t.Inv) (hclear : Clear t e)
    (hs : PcTester.step t e = some t') : t'.Inv := by
  cases step_cases hs with
  | connected hidle => exact h.idle rfl hidle
  | disconnected hidle => exact h.idle rfl hidle
  | started hidle hcommand hstarted =>
      refine h.command hidle hstarted fun hawaits hsends => hclear hawaits ?_
      unfold Sends
      rw [← hcommand]
      exact hsends
  | @drained c request hphase =>
      have hsame : (t.drained c request).unread = t.unread :=
        unread_congr rfl rfl rfl rfl Iff.rfl
      refine h.sameFrames rfl rfl ?_ fun f hf => hsame ▸ hf
      intro request' hrequest'
      simp only [Tester.drained] at hrequest'
      split at hrequest'
      · rename_i hawaits
        cases hrequest'
        rw [hphase, Phase.awaited, if_pos hawaits]
      · cases hrequest'
  | sendFailed => exact h.idle rfl rfl
  | received hreceive => exact h.receive hreceive
  | timedOut => exact h.idle rfl rfl
  | arrived raw =>
      refine h.background rfl rfl rfl ?_
      intro f hf
      have hsame : Tester.queueable { t with stream := t.stream ++ [⟨raw, t.requests⟩] }
          (t.stream ++ [⟨raw, t.requests⟩]) = t.queueable (t.stream ++ [⟨raw, t.requests⟩]) := by
        apply queueable_congr
        · rfl
        · rfl
      have hunread : f ∈ t.recvQueue ++
          if t.reader = .done then [] else t.queueable (t.stream ++ [⟨raw, t.requests⟩]) := by
        rw [← hsame]
        exact hf
      rcases List.mem_append.mp hunread with hf | hf
      · exact .inl (List.mem_append_left _ hf)
      · split at hf
        · exact absurd hf List.not_mem_nil
        · rename_i hopen
          rcases mem_queueable_append hf with hf | rfl
          · left
            rw [unread, if_neg hopen]
            exact List.mem_append_right _ hf
          · exact .inr (Nat.le_refl _)
  | read hread =>
      obtain ⟨hphase, hreports, hrequests, hunread, _⟩ := read_cases hread
      exact h.background hreports hphase hrequests fun f hf => .inl (hunread hf)
  | replied hreplying =>
      have hsame : Tester.unread { t with reader := .reading } = t.unread :=
        unread_congr rfl rfl rfl rfl (by simp [hreplying])
      exact h.sameFrames rfl rfl (fun _ hr => hr) fun f hf => hsame ▸ hf
  | readerEnded =>
      refine h.sameFrames rfl rfl (fun _ hr => hr) ?_
      intro f hf
      rw [unread, readerEnds, if_pos rfl, List.append_nil] at hf
      exact List.mem_append_left _ hf

end Tester

namespace Tester

/-! ## §6. A command that starts with something unread. -/

/-- No frame is from the future. -/
def Stamped (t : Tester) : Prop := ∀ f ∈ t.recvQueue ++ t.stream, f.after ≤ t.requests

/-- What a step may do to the frames: take some away, or add one that has
arrived after every request. -/
theorem Stamped.of_subset {t t' : Tester} (h : t.Stamped) (hrequests : t.requests ≤ t'.requests)
    (hsub : ∀ f ∈ t'.recvQueue ++ t'.stream,
      f ∈ t.recvQueue ++ t.stream ∨ f.after ≤ t'.requests) : t'.Stamped := by
  intro f hf
  rcases hsub f hf with hold | hnew
  · exact Nat.le_trans (h f hold) hrequests
  · exact hnew

theorem finish_frames (t : Tester) (c : Command) (request : Nat) (raw : Bytes) :
    (t.finish c request raw).recvQueue = t.recvQueue
      ∧ (t.finish c request raw).stream = t.stream
      ∧ (t.finish c request raw).requests = t.requests := by
  cases c with
  | activate srcAddr =>
      simp only [finish]
      split
      · exact ⟨rfl, rfl, rfl⟩
      · exact ⟨rfl, rfl, rfl⟩
  | diag udsPayload =>
      simp only [finish]
      split
      · exact ⟨rfl, rfl, rfl⟩
      · exact ⟨rfl, rfl, rfl⟩
  | target newAddr => exact ⟨rfl, rfl, rfl⟩
  | alive => exact ⟨rfl, rfl, rfl⟩
  | status => exact ⟨rfl, rfl, rfl⟩
  | power => exact ⟨rfl, rfl, rfl⟩

theorem Stamped.receive {t t' : Tester} (h : t.Stamped) (hs : t.receive = some t') :
    t'.Stamped := by
  have htail : ∀ response rest, t.recvQueue = response :: rest →
      ∀ f ∈ rest ++ t.stream, f ∈ t.recvQueue ++ t.stream := by
    intro response rest hqueue f hf
    rw [hqueue]
    exact List.mem_cons_of_mem _ hf
  unfold Tester.receive at hs
  split at hs
  · rename_i command request response rest _ hqueue
    rw [Option.some.injEq] at hs
    subst hs
    obtain ⟨hq, hst, hreq⟩ := finish_frames
      { t with recvQueue := rest, reports := t.reports ++ [⟨command, request, response⟩] }
      command request response.raw
    apply h.of_subset (Nat.le_of_eq hreq.symm)
    rw [hq, hst]
    exact fun f hf => .inl (htail response rest hqueue f hf)
  · rename_i command request response rest _ hqueue
    rw [Option.some.injEq] at hs
    subst hs
    exact h.of_subset (Nat.le_refl _) fun f hf => .inl (htail response rest hqueue f hf)
  · cases hs

theorem Stamped.step {t t' : Tester} {e : Event} (h : t.Stamped)
    (hs : PcTester.step t e = some t') : t'.Stamped := by
  cases step_cases hs with
  | connected _ => exact fun f hf => absurd hf List.not_mem_nil
  | disconnected _ => exact fun f hf => absurd hf List.not_mem_nil
  | started _ _ hstarted =>
      cases hstarted with
      | unsent ecuAddr => exact h
      | sent c' raw _ => exact h.of_subset (Nat.le_succ _) fun f hf => .inl hf
  | drained _ => exact h
  | sendFailed => exact h
  | received hreceive => exact h.receive hreceive
  | timedOut => exact h
  | arrived raw =>
      intro f hf
      have hframes : f ∈ t.recvQueue ++ t.stream ++ [⟨raw, t.requests⟩] := by
        rw [List.append_assoc]
        exact hf
      rcases List.mem_append.mp hframes with hf | hf
      · exact h f hf
      · have hnew : f = ⟨raw, t.requests⟩ := List.mem_singleton.mp hf
        subst hnew
        show t.requests ≤ t.requests
        omega
  | read hread =>
      obtain ⟨_, _, hrequests, _, hsub⟩ := read_cases hread
      exact h.of_subset (Nat.le_of_eq hrequests.symm) fun f hf => .inl (hsub hf)
  | replied _ => exact h
  | readerEnded => exact h

/-- The reader brings a frame on its way to the queue. -/
theorem reader_delivers {f : Received} (frames : List Received) :
    ∀ t : Tester, t.stream = frames → t.reader ≠ .done → t.recvQueue = [] →
      f ∈ (t.queueable frames).head? →
      ∃ es t', Transition.exec PcTester.step t es = some t' ∧ t'.phase = t.phase
        ∧ t'.recvQueue = [f] ∧ t'.reports = t.reports := by
  induction frames with
  | nil => intro t _ _ _ hf; simp [queueable] at hf
  | cons frame rest ih =>
      intro t hstream hopen hqueue hf
      -- a reply under way is over first
      have hready : ∃ es, Transition.exec PcTester.step t es
          = some { t with reader := .reading } := by
        cases hreader : t.reader with
        | reading => exact ⟨[], by rw [Transition.exec_nil, ← hreader]⟩
        | replying =>
            refine ⟨[.replied], ?_⟩
            rw [Transition.exec_cons_eq_some]
            exact ⟨_, if_pos hreader, rfl⟩
        | done => exact absurd hreader hopen
      obtain ⟨before, hbefore⟩ := hready
      simp only [queueable] at hf
      split at hf
      · rename_i halive
        split at hf
        · rename_i hreply
          obtain ⟨reply, hreply⟩ := Option.isSome_iff_exists.mp hreply
          -- the Alive Check Request is answered and gone
          have hread : PcTester.step { t with reader := .reading } .read
              = some { t with stream := rest, written := t.written ++ [reply],
                              reader := .replying } := by
            have hreply' : Tester.aliveReply { t with stream := rest, reader := .reading } frame.raw
                = some reply := hreply
            simp only [PcTester.step, Tester.read, hstream, if_pos halive, hreply']
          have hsame : Tester.queueable
              { t with stream := rest, written := t.written ++ [reply], reader := .replying } rest
              = t.queueable rest := by
            apply queueable_congr
            · rfl
            · rfl
          obtain ⟨es, t', hexec, hphase, hqueue', hreports⟩ := ih
            { t with stream := rest, written := t.written ++ [reply], reader := .replying }
            rfl (by simp) hqueue (hsame ▸ hf)
          refine ⟨before ++ .read :: es, t', ?_, hphase, hqueue', hreports⟩
          rw [Transition.exec_append_eq_some]
          exact ⟨_, hbefore, Transition.exec_cons_eq_some.mpr ⟨_, hread, hexec⟩⟩
        · simp at hf
      · rename_i hother
        simp only [List.head?_cons, Option.mem_some_iff] at hf
        subst hf
        refine ⟨before ++ [.read],
          { t with reader := .reading, stream := rest, recvQueue := t.recvQueue ++ [frame] },
          ?_, rfl, by simp [hqueue], rfl⟩
        rw [Transition.exec_append_eq_some]
        refine ⟨_, hbefore, Transition.exec_cons_eq_some.mpr ⟨_, ?_, rfl⟩⟩
        simp only [PcTester.step, Tester.read, hstream, if_neg hother]

/-- **A stale frame is reported**: whatever is unread when a command sends its
request can be printed as its response. -/
theorem stale_reported {t : Tester} (h : t.Stamped) (hidle : t.phase = .idle) {c : Command}
    (hawaits : c.awaitsResponse = true) (hsends : t.Sends c) (hunread : t.unread ≠ []) :
    ∃ es t', Transition.exec PcTester.step t (.command c :: es) = some t'
      ∧ ∃ r ∈ t'.reports, ¬ r.Fresh := by
  have hcommand : PcTester.step t (.command c) = some (t.command c) := if_pos hidle
  have hstarted := t.command_started c
  unfold Sends at hsends
  generalize t.command c = t₁ at hcommand hstarted hsends
  cases hstarted with
  | unsent ecuAddr => exact absurd hidle hsends
  | sent c' raw hc =>
      -- the request is out and the command waits in `_recv`
      let t₂ : Tester :=
        { t with written := t.written ++ [raw], requests := t.requests + 1,
                 phase := .receiving c' (t.requests + 1) }
      have hdrained : PcTester.step
          { t with written := t.written ++ [raw], requests := t.requests + 1,
                   phase := .draining c' (t.requests + 1) } .drained = some t₂ := by
        simp only [PcTester.step, Tester.drained, hc, hawaits, if_true, t₂]
      -- some stale frame comes to the head of the queue
      have hdelivered : ∃ es t₃ f rest, Transition.exec PcTester.step t₂ es = some t₃
          ∧ t₃.phase = .receiving c' (t.requests + 1) ∧ t₃.recvQueue = f :: rest
          ∧ f.after ≤ t.requests := by
        cases hqueue : t.recvQueue with
        | cons f rest =>
            refine ⟨[], t₂, f, rest, rfl, rfl, hqueue, h f ?_⟩
            rw [hqueue]
            exact List.mem_append_left _ List.mem_cons_self
        | nil =>
            have hopen : t.reader ≠ .done := by
              intro hdone
              rw [unread, hqueue, if_pos hdone] at hunread
              exact hunread rfl
            rw [unread, hqueue, if_neg hopen, List.nil_append] at hunread
            have hsame : t₂.queueable t.stream = t.queueable t.stream := by
              apply queueable_congr
              · rfl
              · rfl
            cases hhead : t.queueable t.stream with
            | nil => exact absurd hhead hunread
            | cons f rest =>
                obtain ⟨es, t₃, hexec, hphase, hqueue', _⟩ := reader_delivers t.stream t₂ rfl hopen
                  hqueue (f := f) (by rw [hsame, hhead]; rfl)
                refine ⟨es, t₃, f, [], hexec, hphase, hqueue', h f ?_⟩
                apply List.mem_append_right
                apply queueable_subset t
                rw [hhead]
                exact List.mem_cons_self
      obtain ⟨es, t₃, f, rest, hexec, hphase, hqueue, hstale⟩ := hdelivered
      let t₄ : Tester :=
        Tester.finish { t₃ with recvQueue := rest,
                                reports := t₃.reports ++ [⟨c', t.requests + 1, f⟩] }
          c' (t.requests + 1) f.raw
      have hreceive : PcTester.step t₃ .receive = some t₄ := by
        simp only [PcTester.step, Tester.receive, hphase, hqueue, t₄]
      refine ⟨.drained :: (es ++ [.receive]), t₄, ?_, ⟨c', t.requests + 1, f⟩, ?_, ?_⟩
      · rw [Transition.exec_cons_eq_some]
        refine ⟨_, hcommand, Transition.exec_cons_eq_some.mpr ⟨_, hdrained, ?_⟩⟩
        rw [Transition.exec_append_eq_some]
        exact ⟨_, hexec, Transition.exec_cons_eq_some.mpr ⟨_, hreceive, rfl⟩⟩
      · rw [(finish_cases _ _ _ _).1]
        exact List.mem_append_right _ List.mem_cons_self
      · intro hfresh
        have : t.requests + 1 ≤ f.after := hfresh
        omega

/-! ## §7. Every run. -/

theorem stamped_of_run {testerAddr ecuAddr : Int} {es : List Event} {t : Tester}
    (hrun : Transition.exec PcTester.step (init testerAddr ecuAddr) es = some t) : t.Stamped :=
  Transition.exec_invariant Stamped (fun _ _ _ h hs => h.step hs) es _ _
    (fun _ hf => absurd hf List.not_mem_nil) hrun

/-- **Responses belong to their requests** in every run in which each command
sends its request with nothing unread; and only there: from any other state
of any run, the command can be given a frame from before its request. -/
theorem commands_fresh (testerAddr ecuAddr : Int) :
    (∀ es t, Transition.Along PcTester.step Clear (init testerAddr ecuAddr) es →
        Transition.exec PcTester.step (init testerAddr ecuAddr) es = some t →
        ∀ r ∈ t.reports, r.Fresh)
      ∧ ∀ es t c, Transition.exec PcTester.step (init testerAddr ecuAddr) es = some t →
          t.phase = .idle → ¬ Clear t (.command c) →
          ∃ es' t', Transition.exec PcTester.step t (.command c :: es') = some t'
            ∧ ∃ r ∈ t'.reports, ¬ r.Fresh := by
  constructor
  · intro es t halong hrun
    have hinv : t.Inv := Transition.exec_invariant_along Inv
      (fun _ _ _ h hclear hs => h.step hclear hs) es _ _ (inv_init testerAddr ecuAddr) halong hrun
    exact hinv.fresh
  · intro es t c hrun hidle hclear
    simp only [Clear, Classical.not_imp] at hclear
    obtain ⟨hawaits, hsends, hunread⟩ := hclear
    exact stale_reported (stamped_of_run hrun) hidle hawaits hsends hunread

/-- The node answers a status request too late, and the next command takes
its answer. -/
def lateAnswer : List Event :=
  [.connect, .command .status, .drained, .timeout,
   .arrive [0x02, 0xFD, 0x40, 0x02, 0, 0, 0, 3, 0x00, 8, 1], .read,
   .command .power, .drained, .receive]

theorem lateAnswer_reported :
    ¬ ∀ (testerAddr ecuAddr : Int) es t,
      Transition.exec PcTester.step (init testerAddr ecuAddr) es = some t →
      ∀ r ∈ t.reports, r.Fresh := by
  intro hclaim
  have hrun : (match Transition.exec PcTester.step (init 0x0E00 0x0001) lateAnswer with
      | some t => t.reports.any fun r => r.response.after < r.request
      | none => false) = true := by decide
  cases h : Transition.exec PcTester.step (init 0x0E00 0x0001) lateAnswer with
  | none => simp [h] at hrun
  | some t =>
      simp only [h, List.any_eq_true, decide_eq_true_eq] at hrun
      obtain ⟨r, hr, hlate⟩ := hrun
      have hfresh := hclaim 0x0E00 0x0001 lateAnswer t h r hr
      unfold Report.Fresh at hfresh
      omega

end Tester

end DoipPlayground.PcTester
