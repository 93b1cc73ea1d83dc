/-
  DoipPlayground.EdgeNode.SetupOwnership
  ──────────────────────────────────────
  **WHO CLOSES THE SOCKET OF AN ECU CONNECTION.**

  Until `connect` returns, its socket is its own: every failure and every
  cancellation closes it before `connect` raises.  Afterwards the reader and
  the calls of `close` answer for it.  The connection is a plain one; the
  branch with a TLS bridge is left out.

    • `Owned` — what the connection holds at each point of `connect`,
    • `Inv` — and that the receive queue sees nothing but `Delivery.step`,
    • `connect_leaks_nothing` — nobody is left alone with an open socket.
-/
import DoipPlayground.EdgeNode.EcuSetup

namespace DoipPlayground.EdgeNode.EcuSetup

open Transition

variable {cfg : Config} {s s' : Leg}

/-! ## §1. What the connection owns. -/

/-- The stream has a writer just when it has taken the socket. -/
def Paired (s : Leg) : Prop := s.writer = .absent ↔ s.sock ≠ .transferred

/-- A connection that is closed: its queue holds the marker and no frame. -/
def Terminated (d : Delivery) : Prop := d.cause.isSome = true ∧ d.reader = .off

/-- What a connection owns while `connect` is at a point. -/
def Owned (s : Leg) : Point → Prop
  | .notCalled =>
      s.sock = .absent ∧ s.writer = .absent ∧ s.connecting = false
        ∧ s.delivery.reader = .off ∧ s.delivery.connected = false
  | .connecting | .opening =>
      s.sock = .held ∧ s.writer = .absent ∧ s.connecting = true
        ∧ s.delivery.reader = .off ∧ s.delivery.connected = false
  | .requesting | .reading _ | .answering _ =>
      s.sock = .transferred ∧ s.writer ≠ .absent ∧ s.connecting = true
        ∧ s.delivery.reader = .off
        ∧ (s.delivery.cause = none → s.delivery.connected = true ∧ s.writer = .open_)
  | .cleaning cleanup =>
      s.sock ≠ .held ∧ Paired s ∧ s.connecting = true ∧ Terminated s.delivery
        ∧ (cleanup ≠ .created → s.writer ≠ .open_ ∧ s.delivery.closed = true)
  | .raised =>
      s.sock ≠ .held ∧ s.writer ≠ .open_ ∧ s.connecting = false ∧ Terminated s.delivery
        ∧ s.delivery.closed = true
  | .returned =>
      s.sock = .transferred ∧ s.writer ≠ .absent ∧ s.connecting = false
        ∧ s.delivery.reader ≠ .off
        ∧ (s.delivery.cause = none →
            s.delivery.connected = true ∧ s.writer = .open_ ∧ s.delivery.Active)
        ∧ (s.delivery.cause.isSome = true → s.writer = .open_ → ∃ k, s.closes k = .joining)

structure Inv (cfg : Config) (s : Leg) : Prop where
  owned : Owned s s.point
  /-- The receive queue sees a run of `Delivery`. -/
  delivered : ∃ es, exec (Delivery.step cfg.maxPayloadBytes) {} es = some s.delivery
  /-- A call of `close` waits only for a reader, and only `close` cancels one. -/
  joins : ∀ k, s.closes k = .joining → s.point = .returned ∧ s.delivery.cause.isSome = true
  cancels : s.delivery.readerCancelled = true → s.delivery.cause.isSome = true

namespace Inv

theorem ok (h : Inv cfg s) : s.delivery.Ok := by
  obtain ⟨es, hes⟩ := h.delivered
  exact Delivery.ok_run es hes

/-- One more step of the queue. -/
theorem delivers (h : Inv cfg s) {e : DeliveryEvent} {d : Delivery}
    (hstep : s.delivery.step cfg.maxPayloadBytes e = some d) :
    ∃ es, exec (Delivery.step cfg.maxPayloadBytes) {} es = some d := by
  obtain ⟨es, hes⟩ := h.delivered
  exact ⟨es ++ [e], exec_snoc hes hstep⟩

end Inv

/-! ## §2. The operations. -/

namespace Leg

theorem closeWriter_not_open (s : Leg) : s.closeWriter.writer ≠ .open_ := by
  unfold closeWriter
  dsimp only
  split <;> simp

theorem closeWriter_absent (s : Leg) : s.closeWriter.writer = .absent ↔ s.writer = .absent := by
  unfold closeWriter
  dsimp only
  split <;> simp [*]

theorem setClose_self (s : Leg) (k : CloseId) (c : Close) : (s.setClose k c).closes k = c := by
  unfold setClose
  simp

theorem setClose_joining {k j : CloseId} {c : Close} (hc : c ≠ .joining)
    (h : (s.setClose k c).closes j = .joining) : s.closes j = .joining := by
  unfold setClose at h
  dsimp only at h
  split at h
  · exact absurd h hc
  · exact h

end Leg

/-- `connect` is at work and has not failed; its point left aside. -/
structure Working (cfg : Config) (s : Leg) : Prop where
  connecting : s.connecting = true
  off : s.delivery.reader = .off
  paired : Paired s
  delivered : ∃ es, exec (Delivery.step cfg.maxPayloadBytes) {} es = some s.delivery
  joins : ∀ k, s.closes k ≠ .joining
  cancels : s.delivery.readerCancelled = true → s.delivery.cause.isSome = true

namespace Working

/-- **A failure closes the raw socket** and leaves the stream to the clean-up. -/
theorem fail (h : Working cfg s) : Inv cfg s.fail := by
  have hstep : s.delivery.step cfg.maxPayloadBytes .setupFails
      = some (s.delivery.markTerminal .setup true) := if_pos h.off
  refine ⟨⟨?_, ?_, h.connecting, ⟨rfl, h.off⟩, ?_⟩, ?_, ?_, fun _ => rfl⟩
  · show (if s.sock = .held then Sock.closed else s.sock) ≠ .held
    split
    · simp
    · assumption
  · show s.writer = .absent ↔ (if s.sock = .held then Sock.closed else s.sock) ≠ .transferred
    have hpaired : s.writer = .absent ↔ s.sock ≠ .transferred := h.paired
    rw [hpaired]
    split
    · rename_i hheld
      simp [hheld]
    · rfl
  · intro hcreated
    exact absurd rfl hcreated
  · obtain ⟨es, hes⟩ := h.delivered
    exact ⟨es ++ [.setupFails], exec_snoc hes hstep⟩
  · intro k hk
    exact absurd hk (h.joins k)

/-- A step that only moves the point, or writes. -/
theorem move (h : Working cfg s) (hdelivery : s'.delivery = s.delivery)
    (hcloses : s'.closes = s.closes) (howned : Owned s' s'.point) : Inv cfg s' where
  owned := howned
  delivered := by
    rw [hdelivery]
    exact h.delivered
  joins k hk := by
    rw [hcloses] at hk
    exact absurd hk (h.joins k)
  cancels := by
    rw [hdelivery]
    exact h.cancels

/-- The handshake is under way: the stream is open unless somebody closed it. -/
structure Attached (cfg : Config) (s : Leg) : Prop extends Working cfg s where
  sock : s.sock = .transferred
  stream : s.writer ≠ .absent
  live : s.delivery.cause = none → s.delivery.connected = true ∧ s.writer = .open_

theorem Attached.owned (h : Attached cfg s) {point : Point}
    (hpoint : point = .requesting ∨ ∃ left, point = .reading left ∨ point = .answering left) :
    Owned s point := by
  rcases hpoint with rfl | ⟨left, rfl | rfl⟩ <;>
    exact ⟨h.sock, h.stream, h.connecting, h.off, h.live⟩

theorem Attached.nextRound (h : Attached cfg s) (left : Nat) : Inv cfg (s.nextRound left) := by
  cases left with
  | zero => exact h.fail
  | succ left =>
      exact h.move rfl rfl (h.owned (.inr ⟨left, .inl rfl⟩))

theorem Attached.answer (h : Attached cfg s) (left : Nat) : Inv cfg (s.answer left) := by
  unfold Leg.answer
  split
  · exact h.fail
  · exact h.move rfl rfl (h.owned (.inr ⟨left, .inr rfl⟩))

/-- The reader is started, and answers for the stream from then on. -/
theorem Attached.finish (h : Attached cfg s) : Inv cfg s.finish := by
  unfold Leg.finish
  split
  · exact h.fail
  · rename_i hcause
    rw [Bool.not_eq_true, Option.isSome_eq_false_iff, Option.isNone_iff_eq_none] at hcause
    obtain ⟨hconnected, hopen⟩ := h.live hcause
    have hstep : s.delivery.step cfg.maxPayloadBytes .activate
        = some { s.delivery with reader := .reading } := if_pos ⟨h.off, hconnected, hcause⟩
    refine ⟨⟨h.sock, h.stream, rfl, by simp, ?_, ?_⟩, ?_, ?_, h.cancels⟩
    · intro _
      exact ⟨hconnected, hopen, by simp [Delivery.Active]⟩
    · intro hsome
      rw [show (s.delivery.cause.isSome = true) = _ from rfl, hcause] at hsome
      cases hsome
    · obtain ⟨es, hes⟩ := h.delivered
      exact ⟨es ++ [.activate], exec_snoc hes hstep⟩
    · intro k hk
      exact absurd hk (h.joins k)

theorem Attached.round (h : Attached cfg s) {left : Nat} (hround : Round cfg s left s') :
    Inv cfg s' := by
  -- the rest of the stream is nobody's business here
  have hrest : ∀ rest, Attached cfg { s with stream := rest } := fun rest =>
    ⟨⟨h.connecting, h.off, h.paired, h.delivered, h.joins, h.cancels⟩, h.sock, h.stream, h.live⟩
  cases hround with
  | ended | rejected => exact h.fail
  | denied raw rest => exact (hrest rest).fail
  | active raw rest => exact (hrest rest).finish
  | asked raw rest => exact (hrest rest).answer left
  | ignored raw rest => exact (hrest rest).nextRound left

end Working

/-- `open_connection` has returned. -/
theorem Working.attach (h : Working cfg s) : Inv cfg s.attach := by
  let held : Leg := { s with sock := .transferred, writer := .open_ }
  have hheld : Working cfg held := by
    refine ⟨h.connecting, h.off, ?_, h.delivered, h.joins, h.cancels⟩
    simp [Paired, held]
  unfold Leg.attach
  dsimp only
  split
  · exact hheld.fail
  · rename_i hcause
    rw [Bool.not_eq_true, Option.isSome_eq_false_iff, Option.isNone_iff_eq_none] at hcause
    have hstep : s.delivery.step cfg.maxPayloadBytes .beginSetup
        = some { s.delivery with connected := true } := if_pos ⟨h.off, hcause⟩
    have hattached : Attached cfg { held with delivery := { s.delivery with connected := true } } :=
      { connecting := h.connecting, off := h.off, paired := hheld.paired
        delivered := by
          obtain ⟨es, hes⟩ := h.delivered
          exact ⟨es ++ [.beginSetup], exec_snoc hes hstep⟩
        joins := h.joins, cancels := h.cancels, sock := rfl, stream := by simp [held]
        live := fun _ => ⟨rfl, rfl⟩ }
    split
    · exact hattached.fail
    · exact hattached.move rfl rfl (hattached.owned (.inl rfl))

/-! ## §3. A step. -/

namespace Inv

/-- A call of `close` waits for nobody while `connect` is at work. -/
theorem no_joins (h : Inv cfg s) (hpoint : s.point ≠ .returned) (k : CloseId) :
    s.closes k ≠ .joining := fun hk => hpoint (h.joins k hk).1

/-- Before the stream is there. -/
theorem working_early (h : Inv cfg s) (hpoint : s.point = .connecting ∨ s.point = .opening) :
    Working cfg s ∧ s.sock = .held := by
  have howned : Owned s .connecting := by
    have h := h.owned
    rcases hpoint with hpoint | hpoint <;> rw [hpoint] at h <;> exact h
  obtain ⟨hsock, hwriter, hconnecting, hoff, _⟩ := howned
  refine ⟨⟨hconnecting, hoff, ?_, h.delivered, h.no_joins ?_, h.cancels⟩, hsock⟩
  · simp [Paired, hsock, hwriter]
  · rcases hpoint with hpoint | hpoint <;> simp [hpoint]

/-- While the handshake runs. -/
theorem attached (h : Inv cfg s)
    (hpoint : s.point = .requesting ∨ ∃ left, s.point = .reading left ∨ s.point = .answering left) :
    Working.Attached cfg s := by
  have howned : Owned s .requesting := by
    have h := h.owned
    rcases hpoint with hpoint | ⟨left, hpoint | hpoint⟩ <;> rw [hpoint] at h <;> exact h
  obtain ⟨hsock, hwriter, hconnecting, hoff, hlive⟩ := howned
  refine ⟨⟨hconnecting, hoff, ?_, h.delivered, h.no_joins ?_, h.cancels⟩, hsock, hwriter, hlive⟩
  · simp [Paired, hsock, hwriter]
  · rcases hpoint with hpoint | ⟨left, hpoint | hpoint⟩ <;> simp [hpoint]

/-- Where the first checks of `connect` let it pass, it has never run. -/
theorem fresh (h : Inv cfg s) (hcause : s.delivery.cause = none)
    (hconnected : s.delivery.connected = false) (hconnecting : s.connecting = false) :
    s.point = .notCalled := by
  have howned := h.owned
  cases hpoint : s.point with
  | notCalled => rfl
  | connecting | opening | requesting | reading | answering =>
      rw [hpoint] at howned
      simp [Owned, hconnecting] at howned
  | cleaning | raised =>
      rw [hpoint] at howned
      simp [Owned, Terminated, hcause] at howned
  | returned =>
      rw [hpoint] at howned
      simp [Owned, hcause, hconnected] at howned

theorem begin (h : Inv cfg s) (hpoint : s.point = .notCalled) (tester : Nat)
    (preparation : Preparation) : Inv cfg (s.begin tester preparation) := by
  have howned := h.owned
  rw [hpoint] at howned
  obtain ⟨hsock, hwriter, _, hoff, hconnected⟩ := howned
  have hjoins := h.no_joins (by simp [hpoint])
  let busy : Leg := { s with connecting := true, tester := tester }
  have hworking : Working cfg busy := by
    refine ⟨rfl, hoff, ?_, h.delivered, hjoins, h.cancels⟩
    simp [Paired, busy, hsock, hwriter]
  cases preparation with
  | made => exact hworking.move rfl rfl ⟨rfl, hwriter, rfl, hoff, hconnected⟩
  | noInterface => exact hworking.fail
  | noSocket => exact hworking.fail

theorem resume (h : Inv cfg s) (outcome : Outcome) (hstep : s.resume cfg outcome = some s') :
    Inv cfg s' := by
  cases resumed_of_resume hstep with
  | connected hpoint =>
      have howned := h.owned
      rw [hpoint] at howned
      exact (h.working_early (.inl hpoint)).1.move rfl rfl howned
  | opened hpoint => exact (h.working_early (.inr hpoint)).1.attach
  | requested hpoint => exact (h.attached (.inl hpoint)).nextRound _
  | read left _ hpoint hround => exact (h.attached (.inr ⟨left, .inl hpoint⟩)).round hround
  | answered left hpoint => exact (h.attached (.inr ⟨left, .inr hpoint⟩)).nextRound left
  | failed _ _ htries =>
      -- wherever `connect` is at work, a failure goes to the clean-up
      cases hpoint : s.point with
      | connecting => exact (h.working_early (.inl hpoint)).1.fail
      | opening => exact (h.working_early (.inr hpoint)).1.fail
      | requesting => exact (h.attached (.inl hpoint)).fail
      | reading left => exact (h.attached (.inr ⟨left, .inl hpoint⟩)).fail
      | answering left => exact (h.attached (.inr ⟨left, .inr hpoint⟩)).fail
      | notCalled | cleaning | raised | returned =>
          rw [hpoint] at htries
          exact htries.elim
  | deferred => exact h

/-- `close` of a connection without a running reader. -/
theorem close_step (h : Inv cfg s) :
    ∃ es, exec (Delivery.step cfg.maxPayloadBytes) {} es = some s.delivery.close :=
  h.delivers (e := .close) rfl

theorem terminated_close {d : Delivery} (hoff : d.reader = .off) : Terminated d.close :=
  ⟨rfl, hoff⟩

/-- **The clean-up of a failed setup** closes the stream before it waits. -/
theorem cleanup (h : Inv cfg s) (hstep : s.cleanupStep = some s') : Inv cfg s' := by
  have howned := h.owned
  cases cleaned_of_cleanupStep hstep with
  | closed hpoint =>
      rw [hpoint] at howned
      obtain ⟨hsock, hpaired, hconnecting, ⟨_, hoff⟩, _⟩ := howned
      have hjoins := h.no_joins (by simp [hpoint])
      refine ⟨⟨hsock, ?_, hconnecting, terminated_close hoff, ?_⟩, h.close_step, ?_, fun _ => rfl⟩
      · exact (Leg.closeWriter_absent _).trans hpaired
      · intro _
        exact ⟨Leg.closeWriter_not_open _, rfl⟩
      · intro k hk
        exact absurd hk (hjoins k)
  | waited hpoint =>
      rw [hpoint] at howned
      obtain ⟨hsock, hpaired, hconnecting, hterminated, hclosed⟩ := howned
      have hjoins := h.no_joins (by simp [hpoint])
      refine ⟨⟨hsock, hpaired, hconnecting, hterminated, fun _ => hclosed (by simp)⟩, h.delivered,
        ?_, h.cancels⟩
      intro k hk
      exact absurd hk (hjoins k)
  | raised hpoint =>
      rw [hpoint] at howned
      obtain ⟨hsock, _, _, hterminated, hclosed⟩ := howned
      obtain ⟨hwriter, hclosed⟩ := hclosed (by simp)
      have hjoins := h.no_joins (by simp [hpoint])
      refine ⟨⟨hsock, hwriter, rfl, hterminated, hclosed⟩, h.delivered, ?_, h.cancels⟩
      intro k hk
      exact absurd hk (hjoins k)

end Inv

/-! ### The others. -/

/-- What somebody else's step leaves `connect`: the socket, and a stream that
is closed or as it was. -/
structure Beside (s s' : Leg) : Prop where
  point : s'.point = s.point
  sock : s'.sock = s.sock
  connecting : s'.connecting = s.connecting
  writer : s'.writer = s.writer ∨ s'.writer = s.closeWriter.writer
  reader : s'.delivery.reader = .off ↔ s.delivery.reader = .off
  connected : s'.delivery.connected = true → s.delivery.connected = true
  /-- Nobody revives a connection. -/
  cause : s'.delivery.cause = none → s.delivery.cause = none
    ∧ s'.delivery.connected = s.delivery.connected ∧ s'.writer = s.writer
    ∧ (s.delivery.Active → s'.delivery.Active)
  closed : s.delivery.closed = true → s'.delivery.closed = true
  /-- Who ends it answers for the stream. -/
  answers : s.point = .returned → s'.delivery.cause.isSome = true → s'.writer = .open_ →
    (s.delivery.cause.isSome = true ∧ ∀ k, s.closes k = .joining → s'.closes k = .joining)
      ∨ ∃ k, s'.closes k = .joining

namespace Beside

theorem writer_absent (h : Beside s s') : s'.writer = .absent ↔ s.writer = .absent := by
  rcases h.writer with hwriter | hwriter <;> rw [hwriter]
  exact s.closeWriter_absent

theorem writer_open (h : Beside s s') (hopen : s'.writer = .open_) : s.writer = .open_ := by
  rcases h.writer with hwriter | hwriter
  · rw [← hwriter]
    exact hopen
  · rw [hwriter] at hopen
    exact absurd hopen s.closeWriter_not_open

theorem terminated (h : Beside s s') (hterminated : Terminated s.delivery) :
    Terminated s'.delivery := by
  obtain ⟨hcause, hoff⟩ := hterminated
  refine ⟨?_, h.reader.mpr hoff⟩
  cases hnone : s'.delivery.cause with
  | some _ => rfl
  | none =>
      rw [(h.cause hnone).1] at hcause
      cases hcause

theorem paired (h : Beside s s') (hpaired : Paired s) : Paired s' := by
  show s'.writer = .absent ↔ s'.sock ≠ .transferred
  rw [h.writer_absent, h.sock]
  exact hpaired

theorem not_connected (h : Beside s s') (hno : s.delivery.connected = false) :
    s'.delivery.connected = false := by
  rw [← Bool.not_eq_true] at hno ⊢
  exact fun hyes => hno (h.connected hyes)

theorem early (h : Beside s s') (howned : Owned s .connecting) : Owned s' .connecting := by
  obtain ⟨hsock, hwriter, hconnecting, hoff, hconnected⟩ := howned
  exact ⟨h.sock.trans hsock, h.writer_absent.mpr hwriter, h.connecting.trans hconnecting,
    h.reader.mpr hoff, h.not_connected hconnected⟩

theorem handshaking (h : Beside s s') (howned : Owned s .requesting) : Owned s' .requesting := by
  obtain ⟨hsock, hwriter, hconnecting, hoff, hlive⟩ := howned
  refine ⟨h.sock.trans hsock, mt h.writer_absent.mp hwriter, h.connecting.trans hconnecting,
    h.reader.mpr hoff, ?_⟩
  intro hnone
  obtain ⟨hcause, hconnected, hsame, _⟩ := h.cause hnone
  obtain ⟨hlive, hopen⟩ := hlive hcause
  exact ⟨hconnected.trans hlive, hsame.trans hopen⟩

/-- **Whoever ends the connection of a `connect` that has returned closes its
stream**, or is a call of `close` that waits for the reader. -/
theorem returned (h : Beside s s') (hpoint : s.point = .returned) (howned : Owned s .returned) :
    Owned s' .returned := by
  obtain ⟨hsock, hwriter, hconnecting, hstarted, hlive, hanswers⟩ := howned
  refine ⟨h.sock.trans hsock, mt h.writer_absent.mp hwriter, h.connecting.trans hconnecting,
    mt h.reader.mp hstarted, ?_, ?_⟩
  · intro hnone
    obtain ⟨hcause, hconnected, hsame, hactive⟩ := h.cause hnone
    obtain ⟨hlive, hopen, hreader⟩ := hlive hcause
    exact ⟨hconnected.trans hlive, hsame.trans hopen, hactive hreader⟩
  · intro hsome hopen
    rcases h.answers hpoint hsome hopen with ⟨hcause, hkept⟩ | hjoins
    · obtain ⟨k, hk⟩ := hanswers hcause (h.writer_open hopen)
      exact ⟨k, hkept k hk⟩
    · exact hjoins

theorem owned (h : Beside s s') (howned : Owned s s.point) : Owned s' s'.point := by
  rw [h.point]
  cases hpoint : s.point with
  | notCalled =>
      rw [hpoint] at howned
      obtain ⟨hsock, hwriter, hconnecting, hoff, hconnected⟩ := howned
      exact ⟨h.sock.trans hsock, h.writer_absent.mpr hwriter, h.connecting.trans hconnecting,
        h.reader.mpr hoff, h.not_connected hconnected⟩
  | connecting | opening =>
      rw [hpoint] at howned
      exact h.early howned
  | requesting | reading | answering =>
      rw [hpoint] at howned
      exact h.handshaking howned
  | cleaning cleanup =>
      rw [hpoint] at howned
      obtain ⟨hsock, hpaired, hconnecting, hterminated, hclosed⟩ := howned
      refine ⟨by rwa [h.sock], h.paired hpaired, h.connecting.trans hconnecting,
        h.terminated hterminated, ?_⟩
      intro hcreated
      obtain ⟨hwriter, hclosed⟩ := hclosed hcreated
      exact ⟨fun hopen => hwriter (h.writer_open hopen), h.closed hclosed⟩
  | raised =>
      rw [hpoint] at howned
      obtain ⟨hsock, hwriter, hconnecting, hterminated, hclosed⟩ := howned
      exact ⟨by rwa [h.sock], fun hopen => hwriter (h.writer_open hopen),
        h.connecting.trans hconnecting, h.terminated hterminated, h.closed hclosed⟩
  | returned =>
      rw [hpoint] at howned
      exact h.returned hpoint howned

end Beside

/-- What a step of the reader or of a receiver leaves the connection. -/
structure Later (d d' : Delivery) : Prop where
  reader : d'.reader = .off ↔ d.reader = .off
  connected : d'.connected = true → d.connected = true
  cause : d'.cause = none → d.cause = none ∧ d'.connected = d.connected ∧ (d.Active → d'.Active)
  closed : d'.closed = d.closed
  cancelled : d'.readerCancelled = d.readerCancelled
  /-- The end of the reader is the end of the connection. -/
  ends : d'.cause.isSome = true → d.cause.isSome = true ∨ d'.reader = .done

namespace Later

variable {d d' : Delivery}

theorem received (d : Delivery) (r : CallId) (taken : AsyncQueue CallId Queued × Option Queued) :
    Later d (d.received r taken) := by
  obtain ⟨queue, taken⟩ := taken
  rcases taken with _ | _ | _ <;>
    exact ⟨.rfl, id, fun h => ⟨h, rfl, id⟩, rfl, rfl, .inl⟩

theorem readerEnds (d : Delivery) (hstarted : d.reader ≠ .off) (cause : TerminalCause) :
    Later d (d.readerEnds cause) := by
  refine ⟨?_, ?_, ?_, rfl, rfl, fun _ => .inr rfl⟩
  · simp [Delivery.readerEnds, hstarted]
  · intro h
    cases h
  · intro h
    cases h

theorem point (d : Delivery) (hactive : d.Active) {reader : ReaderPoint} (hoff : reader ≠ .off)
    (hdone : reader ≠ .done) : Later d { d with reader := reader } := by
  refine ⟨?_, id, fun h => ⟨h, rfl, fun _ => ⟨hoff, hdone⟩⟩, rfl, rfl, .inl⟩
  simp [hoff, hactive.1]

theorem frameRead (d : Delivery) (hreading : d.reader = .reading) (maxPayloadBytes : Nat)
    (f : Emitted) : Later d (d.frameRead maxPayloadBytes f) := by
  have hactive : d.Active := by simp [Delivery.Active, hreading]
  unfold Delivery.frameRead
  split
  · exact readerEnds d hactive.1 _
  split
  · exact point d hactive (by simp) (by simp)
  split
  · exact point d hactive (by simp) (by simp)
  · exact ⟨.rfl, id, fun h => ⟨h, rfl, id⟩, rfl, rfl, .inl⟩

end Later

/-- The events of the reader need a reader. -/
theorem reader_on {d d' : Delivery} {e : DeliveryEvent} (hreader : ReaderEvent e)
    (hstep : d.step cfg.maxPayloadBytes e = some d') : d.reader ≠ .off := by
  cases Delivery.effect_of_step hstep with
  | setupBegun | setupFailed | activated | readerCancelled | closed => exact hreader.elim
  | refused | called | resumed | recvCancelled => exact hreader.elim
  | arrived f hreading _ => simp [hreading]
  | atEof hreading _ => simp [hreading]
  | broken hpoint _ => rcases hpoint with hpoint | hpoint <;> simp [hpoint]
  | proceeded hpoint _ => rcases hpoint with hpoint | hpoint <;> simp [hpoint]
  | readerStopped hactive _ => exact hactive.1

theorem later_of_reader {d d' : Delivery} {e : DeliveryEvent} (hreader : ReaderEvent e)
    (hstep : d.step cfg.maxPayloadBytes e = some d') : Later d d' := by
  have hon := reader_on hreader hstep
  cases Delivery.effect_of_step hstep with
  | setupBegun | setupFailed | activated | readerCancelled | closed => exact hreader.elim
  | refused | called | resumed | recvCancelled => exact hreader.elim
  | arrived f hreading _ => exact .frameRead d hreading _ f
  | atEof | broken | readerStopped => exact .readerEnds d hon _
  | proceeded hpoint _ =>
      refine .point d ⟨hon, ?_⟩ (by simp) (by simp)
      rcases hpoint with hpoint | hpoint <;> simp [hpoint]

theorem later_of_receiver {d d' : Delivery} {e : DeliveryEvent} (hreceiver : ReceiverEvent e)
    (hstep : d.step cfg.maxPayloadBytes e = some d') : Later d d' := by
  cases Delivery.effect_of_step hstep with
  | setupBegun | setupFailed | activated | readerCancelled | closed => exact hreceiver.elim
  | arrived | atEof | broken | proceeded | readerStopped => exact hreceiver.elim
  | refused | recvCancelled => exact ⟨.rfl, id, fun h => ⟨h, rfl, id⟩, rfl, rfl, .inl⟩
  | called r => exact .received d r _
  | resumed r => exact .received d r _

theorem received_cause (d : Delivery) (r : CallId)
    (taken : AsyncQueue CallId Queued × Option Queued) : (d.received r taken).cause = d.cause := by
  obtain ⟨queue, taken⟩ := taken
  rcases taken with _ | _ | _ <;> rfl

/-- No call of `recv` ends a connection. -/
theorem receiver_cause {d d' : Delivery} {e : DeliveryEvent} (hreceiver : ReceiverEvent e)
    (hstep : d.step cfg.maxPayloadBytes e = some d') : d'.cause = d.cause := by
  cases Delivery.effect_of_step hstep with
  | setupBegun | setupFailed | activated | readerCancelled | closed => exact hreceiver.elim
  | arrived | atEof | broken | proceeded | readerStopped => exact hreceiver.elim
  | refused | recvCancelled => rfl
  | called r => exact received_cause d r _
  | resumed r => exact received_cause d r _

theorem Beside.of_delivery {d : Delivery} {writer : Writer} (hlater : Later s.delivery d)
    (hwriter : writer = s.writer ∨ writer = s.closeWriter.writer)
    (hopen : d.cause = none → writer = s.writer)
    (hends : d.cause.isSome = true → writer = .open_ → s.delivery.cause.isSome = true) :
    Beside s { s with delivery := d, writer := writer } where
  point := rfl
  sock := rfl
  connecting := rfl
  writer := hwriter
  reader := hlater.reader
  connected := hlater.connected
  cause hnone := by
    obtain ⟨hcause, hconnected, hactive⟩ := hlater.cause hnone
    exact ⟨hcause, hconnected, hopen hnone, hactive⟩
  closed := by
    show s.delivery.closed = true → d.closed = true
    rw [hlater.closed]
    exact id
  answers _ hsome hopen := .inl ⟨hends hsome hopen, fun _ hk => hk⟩

namespace Inv

/-- The point of `connect` tells whether there is a reader. -/
theorem off_iff (h : Inv cfg s) : s.delivery.reader = .off ↔ s.point ≠ .returned := by
  have howned := h.owned
  cases hpoint : s.point <;> rw [hpoint] at howned <;> simp [Owned, Terminated] at howned ⊢ <;>
    simp [howned]

/-- Where there is a reader, `connect` has returned. -/
theorem returned_of_reader (h : Inv cfg s) {e : DeliveryEvent} {d : Delivery}
    (hreader : ReaderEvent e) (hstep : s.delivery.step cfg.maxPayloadBytes e = some d) :
    s.point = .returned := by
  refine Classical.byContradiction fun hpoint => ?_
  exact reader_on hreader hstep (h.off_iff.mpr hpoint)

/-- A connection whose reader is done is over. -/
theorem done_terminal (h : Inv cfg s) {d : Delivery} (hlater : Later s.delivery d)
    (hdone : d.reader = .done) : d.cause.isSome = true := by
  cases hcause : d.cause with
  | some _ => rfl
  | none =>
      obtain ⟨hnone, _, hactive⟩ := hlater.cause hcause
      have hpoint : s.point = .returned := by
        refine Classical.byContradiction fun hpoint => ?_
        rw [hlater.reader.mpr (h.off_iff.mpr hpoint)] at hdone
        cases hdone
      have howned := h.owned
      rw [hpoint] at howned
      obtain ⟨_, _, _, _, hlive, _⟩ := howned
      exact absurd hdone (hactive (hlive hnone).2.2).2

/-- **A step of somebody else.** -/
theorem beside (h : Inv cfg s) (hbeside : Beside s s')
    (hdelivered : ∃ es, exec (Delivery.step cfg.maxPayloadBytes) {} es = some s'.delivery)
    (hjoins : ∀ k, s'.closes k = .joining →
      s.closes k = .joining ∨ s.point = .returned ∧ s'.delivery.cause.isSome = true)
    (hcancels : s'.delivery.readerCancelled = true → s'.delivery.cause.isSome = true) :
    Inv cfg s' where
  owned := hbeside.owned h.owned
  delivered := hdelivered
  joins k hk := by
    rw [hbeside.point]
    rcases hjoins k hk with hold | hnew
    · obtain ⟨hpoint, hcause⟩ := h.joins k hold
      refine ⟨hpoint, ?_⟩
      cases hnone : s'.delivery.cause with
      | some _ => rfl
      | none =>
          rw [(hbeside.cause hnone).1] at hcause
          cases hcause
    · exact hnew
  cancels := hcancels

theorem cancels_later (h : Inv cfg s) {d : Delivery} (hlater : Later s.delivery d)
    (hcancelled : d.readerCancelled = true) : d.cause.isSome = true := by
  rw [hlater.cancelled] at hcancelled
  have hcause := h.cancels hcancelled
  cases hnone : d.cause with
  | some _ => rfl
  | none =>
      rw [(hlater.cause hnone).1] at hcause
      cases hcause

/-- **The reader**: its end closes the stream. -/
theorem readerDoes (h : Inv cfg s) {e : DeliveryEvent} (hreader : ReaderEvent e)
    (hran : s.readerRan = true ∨ e = .proceed ∨ e = .readerStops)
    (hstep : s.readerDoes cfg e = some s') : Inv cfg s' := by
  unfold Leg.readerDoes at hstep
  obtain ⟨d, hd, rfl⟩ := Option.map_eq_some_iff.mp hstep
  have hlater : Later s.delivery d := later_of_reader hreader hd
  have hdelivered := h.delivers hd
  split
  · rename_i hdone
    refine h.beside (.of_delivery hlater (.inr rfl) ?_ ?_) hdelivered (fun k hk => .inl hk)
      (h.cancels_later hlater)
    · intro hnone
      have hsome := h.done_terminal hlater hdone.1
      rw [hnone] at hsome
      cases hsome
    · intro _ hopen
      exact absurd hopen s.closeWriter_not_open
  · rename_i hnot
    refine h.beside (.of_delivery hlater (.inl rfl) (fun _ => rfl) ?_) hdelivered
      (fun k hk => .inl hk) (h.cancels_later hlater)
    intro hsome _
    rcases hlater.ends hsome with hcause | hdone
    · exact hcause
    · -- a reader that ends without having run was cancelled, by `close`
      rcases hran with hran | rfl | rfl
      · exact absurd ⟨hdone, hran⟩ hnot
      · cases Delivery.effect_of_step hd
        cases hdone
      · cases Delivery.effect_of_step hd with
        | readerStopped _ hcancelled => exact h.cancels hcancelled

/-- **A call of `recv`** leaves connection and reader as they are. -/
theorem receives (h : Inv cfg s) {e : DeliveryEvent} (hreceiver : ReceiverEvent e)
    (hstep : s.receives cfg e = some s') : Inv cfg s' := by
  obtain ⟨d, hd, rfl⟩ := receives_eq hstep
  have hlater : Later s.delivery d := later_of_receiver hreceiver hd
  refine h.beside (.of_delivery hlater (.inl rfl) (fun _ => rfl) ?_) (h.delivers hd)
    (fun k hk => .inl hk) (h.cancels_later hlater)
  intro hsome _
  rw [← receiver_cause hreceiver hd]
  exact hsome

/-- **`close`** ends the connection, and closes its stream or waits for the
reader to do it. -/
theorem close (h : Inv cfg s) (k : CloseId) : Inv cfg (s.close k) := by
  have hcancels : s.delivery.close.readerCancelled = true →
      s.delivery.close.cause.isSome = true := fun _ => rfl
  show Inv cfg (if decide s.delivery.Active then _ else _)
  split
  · rename_i hactive
    rw [decide_eq_true_eq] at hactive
    have hpoint : s.point = .returned := by
      refine Classical.byContradiction fun hpoint => ?_
      exact hactive.1 (h.off_iff.mpr hpoint)
    refine h.beside ?_ h.close_step ?_ hcancels
    · exact
        { point := rfl, sock := rfl, connecting := rfl, writer := .inl rfl, reader := .rfl
          connected := by intro hc; cases hc
          cause := by intro hc; cases hc
          closed := fun _ => rfl
          answers := fun _ _ _ => .inr ⟨k, Leg.setClose_self _ k .joining⟩ }
    · intro _ _
      exact .inr ⟨hpoint, rfl⟩
  · refine h.beside ?_ h.close_step ?_ hcancels
    · exact
        { point := rfl, sock := rfl, connecting := rfl, writer := .inr rfl, reader := .rfl
          connected := by intro hc; cases hc
          cause := by intro hc; cases hc
          closed := fun _ => rfl
          answers := fun _ _ hopen => absurd hopen (Leg.closeWriter_not_open _) }
    · intro j hj
      refine .inl (Leg.setClose_joining ?_ hj)
      split <;> simp

/-- A call of `close` has seen the reader end. -/
theorem joined (h : Inv cfg s) {k : CloseId} (hjoining : s.closes k = .joining) :
    Inv cfg (s.closeStream k) := by
  have hcause := (h.joins k hjoining).2
  refine h.beside ?_ h.delivered ?_ h.cancels
  · exact
      { point := rfl, sock := rfl, connecting := rfl, writer := .inr rfl, reader := .rfl
        connected := id
        cause := by
          intro hnone
          rw [show s.delivery.cause = none from hnone] at hcause
          cases hcause
        closed := id
        answers := fun _ _ hopen => absurd hopen (Leg.closeWriter_not_open _) }
  · intro j hj
    refine .inl (Leg.setClose_joining ?_ hj)
    split <;> simp

/-- A call of `close` has waited for the stream. -/
theorem closeEnds (h : Inv cfg s) {k : CloseId} (hclosing : s.closes k = .closing) :
    Inv cfg (s.setClose k .ended) := by
  refine h.beside ?_ h.delivered (fun j hj => .inl (Leg.setClose_joining (by simp) hj)) h.cancels
  refine
    { point := rfl, sock := rfl, connecting := rfl, writer := .inl rfl, reader := .rfl
      connected := id, cause := fun hnone => ⟨hnone, rfl, rfl, id⟩, closed := id
      answers := fun _ hsome _ => .inl ⟨hsome, fun j hj => ?_⟩ }
  show (if j = k then Close.ended else s.closes j) = .joining
  rw [if_neg, hj]
  rintro rfl
  rw [hclosing] at hj
  cases hj

theorem step (h : Inv cfg s) (e : Event) (hstep : step cfg s e = some s') : Inv cfg s' := by
  cases effect_of_step hstep with
  | refused => exact h
  | begun tester preparation hcause hconnected hconnecting =>
      exact h.begin (h.fresh hcause hconnected hconnecting) tester preparation
  | resumed outcome _ hresume => exact h.resume outcome hresume
  | cleaned _ hcleanup => exact h.cleanup hcleanup
  | closed k => exact h.close k
  | joined k hjoining _ => exact h.joined hjoining
  | ended k hclosing => exact h.closeEnds hclosing
  | fed | fedEof | started => exact ⟨h.owned, h.delivered, h.joins, h.cancels⟩
  | reader _ rest d _ _ _ _ hreader hran hdoes =>
      have hrest : Inv cfg { s with stream := rest } := ⟨h.owned, h.delivered, h.joins, h.cancels⟩
      exact hrest.readerDoes hreader hran hdoes
  | receiver _ d _ _ hreceiver hdoes => exact h.receives hreceiver hdoes

end Inv

theorem inv_init (cfg : Config) : Inv cfg {} where
  owned := ⟨rfl, rfl, rfl, rfl, rfl⟩
  delivered := ⟨[], rfl⟩
  joins k hk := by cases hk
  cancels h := by cases h

theorem inv_run (es : List Event) (h : exec (step cfg) {} es = some s) : Inv cfg s :=
  exec_invariant (Inv cfg) (fun _ e _ hs hstep => hs.step e hstep) es {} s (inv_init cfg) h

/-! ## §4. Nothing is left open. -/

/-- The connection holds no socket any more. -/
def Released (s : Leg) : Prop := s.sock ≠ .held ∧ s.writer ≠ .open_

namespace Inv

/-- A `connect` that has raised: everything is closed, and whoever receives
finds the marker. -/
theorem raised (h : Inv cfg s) (hpoint : s.point = .raised) :
    Released s ∧ s.connecting = false ∧ s.delivery.connected = false
      ∧ s.delivery.reader = .off ∧ s.delivery.queue.items = [.terminal] := by
  have howned := h.owned
  rw [hpoint] at howned
  obtain ⟨hsock, hwriter, hconnecting, ⟨hcause, hoff⟩, hclosed⟩ := howned
  obtain ⟨frames, hholds⟩ := h.ok
  refine ⟨⟨hsock, hwriter⟩, hconnecting, ?_, hoff, ?_⟩
  · rw [← Bool.not_eq_true]
    intro hconnected
    rw [hholds.connected hconnected] at hcause
    cases hcause
  · rw [hholds.items, (hholds.closed hclosed).1, Delivery.itemsOf_some _ hcause]
    rfl

/-- A `connect` that has returned: until something ends the connection, it
is open and read. -/
theorem returned (h : Inv cfg s) (hpoint : s.point = .returned)
    (hcause : s.delivery.cause = none) :
    s.sock = .transferred ∧ s.writer = .open_ ∧ s.delivery.connected = true
      ∧ s.delivery.Active := by
  have howned := h.owned
  rw [hpoint] at howned
  obtain ⟨hsock, _, _, _, hlive, _⟩ := howned
  obtain ⟨hconnected, hopen, hactive⟩ := hlive hcause
  exact ⟨hsock, hopen, hconnected, hactive⟩

/-- A connection that has ended, and nobody is about to close it. -/
theorem ended (h : Inv cfg s) (hcause : s.delivery.cause.isSome = true)
    (hconnecting : s.connecting = false) (hcloses : ∀ k, s.closes k ≠ .joining) : Released s := by
  have howned := h.owned
  cases hpoint : s.point with
  | notCalled =>
      rw [hpoint] at howned
      obtain ⟨hsock, hwriter, _⟩ := howned
      simp [Released, hsock, hwriter]
  | connecting | opening | requesting | reading | answering | cleaning =>
      rw [hpoint] at howned
      simp [Owned, hconnecting] at howned
  | raised => exact (h.raised hpoint).1
  | returned =>
      rw [hpoint] at howned
      obtain ⟨hsock, _, _, _, _, hanswers⟩ := howned
      refine ⟨by simp [hsock], fun hopen => ?_⟩
      obtain ⟨k, hk⟩ := hanswers hcause hopen
      exact hcloses k hk

end Inv

/-- **Nobody is left alone with an open socket**: in every interleaving of a
plain `connect`, its failures and cancellations, the reader, the receivers and
any calls of `close`, a `connect` that has raised has closed all it opened, and so
has a connection that has ended, once no call of `close` waits for the reader.
The receive queue has seen nothing but steps of `Delivery`. -/
theorem connect_leaks_nothing (cfg : Config) (es : List Event) (s : Leg)
    (hrun : exec (step cfg) {} es = some s) :
    (s.point = .raised → Released s ∧ s.connecting = false ∧ s.delivery.connected = false
        ∧ s.delivery.reader = .off ∧ s.delivery.queue.items = [.terminal])
      ∧ (s.point = .returned → s.delivery.cause = none → s.sock = .transferred
          ∧ s.writer = .open_ ∧ s.delivery.connected = true ∧ s.delivery.Active)
      ∧ (s.delivery.cause.isSome = true → s.connecting = false →
          (∀ k, s.closes k ≠ .joining) → Released s)
      ∧ ∃ ds, exec (Delivery.step cfg.maxPayloadBytes) {} ds = some s.delivery := by
  have hinv : Inv cfg s := inv_run es hrun
  exact ⟨hinv.raised, hinv.returned, hinv.ended, hinv.delivered⟩

/-- Closed while the handshake runs, and cancelled twice after that. -/
def abandoned : List Event :=
  [.connect 0x0E00 .made, .resume .returns, .resume .returns, .close 0, .resume .cancelled,
   .cleanup, .resume .cancelled, .cleanup, .closeStep 0, .cleanup]

theorem connect_leaks_nothing_abandoned :
    ∃ s, exec (step ⟨4096, 0x0001⟩) {} abandoned = some s ∧ s.written.length = 1
      ∧ Released s ∧ s.delivery.queue.items = [.terminal] := by
  have hrun : (exec (step ⟨4096, 0x0001⟩) {} abandoned).map (fun s => (s.point, s.written.length))
      = some (.raised, 1) := by decide
  obtain ⟨s, hs, heq⟩ := Option.map_eq_some_iff.mp hrun
  obtain ⟨hraised, hwritten⟩ := Prod.mk.inj heq
  obtain ⟨hreleased, _, _, _, hitems⟩ :=
    (connect_leaks_nothing ⟨4096, 0x0001⟩ abandoned s hs).1 hraised
  exact ⟨s, hs, hwritten, hreleased, hitems⟩

end DoipPlayground.EdgeNode.EcuSetup
