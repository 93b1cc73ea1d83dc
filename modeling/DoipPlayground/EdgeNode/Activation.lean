/-
  DoipPlayground.EdgeNode.Activation
  ──────────────────────────────────
  **THE ROUTING ACTIVATION HANDSHAKE WITH AN ECU.**

  The handshake reads the bytes of the ECU as they come in, at most three
  frames of them.  `activates` looks at all of them at once.

    • `activates_append` — later bytes change no verdict,
    • `Heard` — at each point the handshake still has to look at the bytes
      that nobody has read,
    • `Alone` — where nobody disturbs it, it fails for want of a positive
      response only,
    • `drains` — and as soon as that is there, the rest is its own work,
    • `connect_iff_activates` — left alone, `connect` returns just where
      `activates` finds a positive response.
-/
import DoipPlayground.EdgeNode.SetupOwnership
import DoipPlayground.Lib.Drain

namespace DoipPlayground.EdgeNode.EcuSetup

open Wire Transition

variable {cfg : Config} {s s' : Leg} {tester left : Nat} {stream rest more : Bytes}

/-! ## §1. Bytes that come later. -/

/-- A frame that is there is read, whatever comes behind it. -/
theorem readFrame_append_ok {m : Nat} {raw : Bytes} (h : readFrame m stream = .ok (raw, rest)) :
    readFrame m (stream ++ more) = .ok (raw, rest ++ more) := by
  unfold readFrame at h ⊢
  split at h
  · cases h
  · rename_i h8
    have htake : (stream ++ more).take 8 = stream.take 8 := List.take_append_of_le_length (by omega)
    rw [htake, if_neg (by rw [List.length_append]; omega)]
    split at h
    · cases h
    · dsimp only at h ⊢
      split at h
      · cases h
      · rename_i hlen
        rw [Except.ok.injEq, Prod.mk.injEq] at h
        obtain ⟨rfl, rfl⟩ := h
        rw [if_neg (by rw [List.length_append]; omega)]
        rw [List.take_append_of_le_length (by omega), List.drop_append_of_le_length (by omega)]

/-- A header that is rejected stays rejected. -/
theorem readFrame_append_error {m : Nat} {e : ReadError} (h : readFrame m stream = .error e)
    (he : e ≠ .incomplete) : readFrame m (stream ++ more) = .error e := by
  unfold readFrame at h ⊢
  split at h
  · cases h
    exact absurd rfl he
  · rename_i h8
    have htake : (stream ++ more).take 8 = stream.take 8 := List.take_append_of_le_length (by omega)
    rw [htake, if_neg (by rw [List.length_append]; omega)]
    split at h
    · exact h
    · dsimp only at h
      split at h
      · cases h
        exact absurd rfl he
      · cases h

/-- One frame of the handshake. -/
theorem activates_ok {raw : Bytes} (h : readFrame cfg.maxPayloadBytes stream = .ok (raw, rest)) :
    activates cfg tester (left + 1) stream =
      match activationReply tester cfg.ecuLogicalAddr raw with
      | .denied => none
      | .active => some (0, rest)
      | .again =>
          (activates cfg tester left rest).map fun p =>
            (if ptype raw = ptAliveCheckRequest then p.1 + 1 else p.1, p.2) := by
  cases hreply : activationReply tester cfg.ecuLogicalAddr raw <;> simp [activates, h, hreply]

theorem activates_error {e : ReadError} (h : readFrame cfg.maxPayloadBytes stream = .error e) :
    activates cfg tester (left + 1) stream = none := by
  rw [activates, h]

/-- **What comes later is left to the reader.** -/
theorem activates_append {answered : Nat}
    (h : activates cfg tester left stream = some (answered, rest)) :
    activates cfg tester left (stream ++ more) = some (answered, rest ++ more) := by
  induction left generalizing stream answered with
  | zero => cases h
  | succ left ih =>
      cases hread : readFrame cfg.maxPayloadBytes stream with
      | error e =>
          rw [activates_error hread] at h
          cases h
      | ok read =>
          obtain ⟨raw, behind⟩ := read
          rw [activates_ok hread] at h
          rw [activates_ok (readFrame_append_ok hread)]
          cases hreply : activationReply tester cfg.ecuLogicalAddr raw with
          | denied =>
              rw [hreply] at h
              cases h
          | active =>
              rw [hreply] at h
              cases h
              rfl
          | again =>
              rw [hreply] at h
              obtain ⟨p, hp, heq⟩ := Option.map_eq_some_iff.mp h
              rw [Prod.mk.injEq] at heq
              obtain ⟨rfl, rfl⟩ := heq
              show (activates cfg tester left (behind ++ more)).map _ = _
              rw [ih hp]
              rfl

/-! ## §2. What the handshake has heard. -/

/-- The handshake may read `left` more frames: it will find in the rest of
the bytes what `activates` finds in all of them. -/
def Heading (cfg : Config) (s : Leg) (left : Nat) : Prop :=
  ∃ answered,
    (∀ more, activates cfg s.tester activationRounds (s.received ++ more)
      = (activates cfg s.tester left (s.stream ++ more)).map fun p => (answered + p.1, p.2))
    ∧ s.written = (buildRaRequest s.tester).toList
        ++ List.replicate answered (aliveCheckResponse s.tester)

/-- The handshake has found the positive response, and has answered every
Alive Check Request before it.  What is behind the response is what the
reader starts with. -/
def Activated (cfg : Config) (s : Leg) : Prop :=
  ∃ answered rest,
    activates cfg s.tester activationRounds s.received = some (answered, rest)
    ∧ s.stream <:+ rest
    ∧ (s.readerRan = false → s.stream = rest)
    ∧ s.written = (buildRaRequest s.tester).toList
        ++ List.replicate answered (aliveCheckResponse s.tester)

/-- What is known of the bytes of the ECU at each point of `connect`. -/
def Heard (cfg : Config) (s : Leg) : Point → Prop
  | .notCalled | .connecting | .opening => s.stream = s.received ∧ s.written = []
  | .requesting => Heading cfg s activationRounds
  | .reading left => Heading cfg s (left + 1)
  | .answering left => Heading cfg s left
  | .cleaning _ | .raised => True
  | .returned => Activated cfg s

/-- A frame that makes the handshake read on. -/
theorem Heading.again {raw : Bytes} (h : Heading cfg s (left + 1))
    (hread : readFrame cfg.maxPayloadBytes s.stream = .ok (raw, rest))
    (hreply : activationReply s.tester cfg.ecuLogicalAddr raw = .again) (written : List Bytes)
    (hwritten : written = s.written
      ++ if ptype raw = ptAliveCheckRequest then [aliveCheckResponse s.tester] else []) :
    Heading cfg { s with stream := rest, written := written } left := by
  obtain ⟨answered, hall, hold⟩ := h
  refine ⟨if ptype raw = ptAliveCheckRequest then answered + 1 else answered, ?_, ?_⟩
  · intro more
    show activates cfg s.tester activationRounds (s.received ++ more) = _
    rw [hall more, activates_ok (readFrame_append_ok hread), hreply]
    show ((activates cfg s.tester left (rest ++ more)).map _).map _ = _
    rw [Option.map_map]
    congr 1
    funext p
    show (answered + (if ptype raw = ptAliveCheckRequest then p.1 + 1 else p.1), p.2) = _
    split
    · rw [show answered + (p.1 + 1) = answered + 1 + p.1 by omega]
    · rfl
  · show written = _
    rw [hwritten, hold]
    split
    · rw [List.append_assoc, ← List.replicate_succ']
    · rw [List.append_nil]

/-- The positive response. -/
theorem Heading.active {raw : Bytes} (h : Heading cfg s (left + 1))
    (hread : readFrame cfg.maxPayloadBytes s.stream = .ok (raw, rest))
    (hreply : activationReply s.tester cfg.ecuLogicalAddr raw = .active) :
    Activated cfg { s with stream := rest } := by
  obtain ⟨answered, hall, hwritten⟩ := h
  refine ⟨answered, rest, ?_, List.suffix_refl rest, fun _ => rfl, hwritten⟩
  have hnow := hall []
  rw [List.append_nil, List.append_nil, activates_ok hread, hreply] at hnow
  exact hnow

/-! ## §3. A step hears. -/

/-- A step that hears nothing new, and writes nothing. -/
theorem Heard.move (h : Heard cfg s s.point) (hpoint : s'.point = s.point)
    (htester : s'.tester = s.tester) (hstream : s'.stream = s.stream)
    (hreceived : s'.received = s.received) (hwritten : s'.written = s.written)
    (hran : s'.readerRan = false → s.readerRan = false) : Heard cfg s' s'.point := by
  have hheading : ∀ left, Heading cfg s left → Heading cfg s' left := by
    intro left ⟨answered, hall, hsaid⟩
    refine ⟨answered, ?_, ?_⟩
    · rw [htester, hreceived, hstream]
      exact hall
    · rw [hwritten, htester]
      exact hsaid
  rw [hpoint]
  cases hat : s.point <;> rw [hat] at h
  case notCalled | connecting | opening =>
    exact ⟨hstream.trans (h.1.trans hreceived.symm), hwritten.trans h.2⟩
  case requesting => exact hheading _ h
  case reading left => exact hheading _ h
  case answering left => exact hheading _ h
  case cleaning | raised => trivial
  case returned =>
    obtain ⟨answered, rest, hall, hsuffix, hstart, hsaid⟩ := h
    refine ⟨answered, rest, ?_, ?_, ?_, ?_⟩
    · rw [htester, hreceived]
      exact hall
    · rw [hstream]
      exact hsuffix
    · intro hnot
      rw [hstream]
      exact hstart (hran hnot)
    · rw [hwritten, htester]
      exact hsaid

theorem heard_fail (s : Leg) : Heard cfg s.fail s.fail.point := trivial

theorem heard_nextRound (h : Heading cfg s left) : Heard cfg (s.nextRound left)
    (s.nextRound left).point := by
  cases left with
  | zero => exact heard_fail s
  | succ left => exact h

theorem heard_round (h : Heading cfg s (left + 1)) (hround : Round cfg s left s') :
    Heard cfg s' s'.point := by
  cases hround with
  | ended | rejected => exact heard_fail s
  | denied => exact heard_fail _
  | active raw rest hread hreply =>
      have hactivated := h.active hread hreply
      unfold Leg.finish
      split
      · exact heard_fail _
      · exact hactivated
  | asked raw rest hread hreply halive =>
      unfold Leg.answer
      split
      · exact heard_fail _
      · exact h.again hread hreply _ (by rw [if_pos halive])
  | ignored raw rest hread hreply hother =>
      exact heard_nextRound (h.again hread hreply _ (by rw [if_neg hother, List.append_nil]))

/-- The request goes out, and the handshake has heard nothing yet. -/
theorem heard_attach (hstream : s.stream = s.received) (hwritten : s.written = []) :
    Heard cfg s.attach s.attach.point := by
  unfold Leg.attach
  dsimp only
  split
  · exact heard_fail _
  split
  · exact heard_fail _
  · rename_i raw hraw
    refine ⟨0, ?_, ?_⟩
    · intro more
      show activates cfg s.tester activationRounds (s.received ++ more) = _
      rw [← hstream]
      simp
    · show s.written ++ [raw] = (buildRaRequest s.tester).toList ++ []
      rw [hwritten, show buildRaRequest s.tester = some raw from hraw]
      rfl

theorem heard_resume (h : Heard cfg s s.point) (outcome : Outcome)
    (hstep : s.resume cfg outcome = some s') : Heard cfg s' s'.point := by
  cases resumed_of_resume hstep with
  | connected hpoint =>
      rw [hpoint] at h
      exact h
  | opened hpoint =>
      rw [hpoint] at h
      exact heard_attach h.1 h.2
  | requested hpoint | answered left hpoint =>
      rw [hpoint] at h
      exact heard_nextRound h
  | read left _ hpoint hround =>
      rw [hpoint] at h
      exact heard_round h hround
  | failed => exact heard_fail s
  | deferred => exact h

/-- The ECU sends more. -/
theorem heard_feed (h : Heard cfg s s.point) (bytes : Bytes) :
    Heard cfg { s with stream := s.stream ++ bytes, received := s.received ++ bytes } s.point := by
  have hheading : ∀ left, Heading cfg s left →
      Heading cfg { s with stream := s.stream ++ bytes, received := s.received ++ bytes } left := by
    intro left ⟨answered, hall, hwritten⟩
    refine ⟨answered, ?_, hwritten⟩
    intro more
    show activates cfg s.tester activationRounds (s.received ++ bytes ++ more) = _
    rw [List.append_assoc, hall (bytes ++ more), ← List.append_assoc]
  cases hat : s.point <;> rw [hat] at h
  case notCalled | connecting | opening => exact ⟨by rw [h.1], h.2⟩
  case requesting => exact hheading _ h
  case reading left => exact hheading _ h
  case answering left => exact hheading _ h
  case cleaning | raised => trivial
  case returned =>
    obtain ⟨answered, rest, hall, ⟨before, hbefore⟩, hstart, hwritten⟩ := h
    refine ⟨answered, rest ++ bytes, activates_append hall, ⟨before, ?_⟩, ?_, hwritten⟩
    · show before ++ (s.stream ++ bytes) = rest ++ bytes
      rw [← List.append_assoc, hbefore]
    · intro hnot
      show s.stream ++ bytes = rest ++ bytes
      rw [hstart hnot]

/-- What the reader takes off the stream is behind the handshake. -/
theorem heard_reads (h : Heard cfg s s.point) (hpoint : s.point = .returned)
    (hrest : rest <:+ s.stream) (hkeeps : s.readerRan = false → rest = s.stream) :
    Heard cfg { s with stream := rest } s.point := by
  rw [hpoint] at h ⊢
  obtain ⟨answered, behind, hall, hsuffix, hstart, hwritten⟩ := h
  exact ⟨answered, behind, hall, hrest.trans hsuffix,
    fun hnot => (hkeeps hnot).trans (hstart hnot), hwritten⟩

theorem heard_step (hinv : Inv cfg s) (h : Heard cfg s s.point) (e : Event)
    (hstep : step cfg s e = some s') : Heard cfg s' s'.point := by
  cases effect_of_step hstep with
  | refused => exact h
  | begun tester preparation hcause hconnected hconnecting =>
      rw [hinv.fresh hcause hconnected hconnecting] at h
      cases preparation with
      | made => exact h
      | noInterface | noSocket => trivial
  | resumed outcome _ hresume => exact heard_resume h outcome hresume
  | cleaned _ hcleanup =>
      cases cleaned_of_cleanupStep hcleanup <;> trivial
  | closed k =>
      unfold Leg.close
      dsimp only
      split <;> exact h.move rfl rfl rfl rfl rfl id
  | joined | ended | fedEof => exact h.move rfl rfl rfl rfl rfl id
  | started => exact h.move rfl rfl rfl rfl rfl (fun hnot => by cases hnot)
  | fed bytes _ => exact heard_feed h bytes
  | reader _ rest d _ _ hsuffix hkeeps hreader _ hdoes =>
      obtain ⟨delivery, hdelivery, hs'⟩ := readerDoes_eq hdoes
      have hrest := heard_reads h (hinv.returned_of_reader hreader hdelivery) hsuffix hkeeps
      rcases hs' with rfl | ⟨rfl, _⟩ <;> exact Heard.move hrest rfl rfl rfl rfl rfl id
  | receiver _ d _ _ _ hdoes =>
      obtain ⟨delivery, _, rfl⟩ := receives_eq hdoes
      exact h.move rfl rfl rfl rfl rfl id

/-! ## §4. A connect nobody disturbs. -/

/-- The events of an undisturbed `connect`: the network does its part, and
nobody cancels or closes.  The ECU may do what it likes. -/
def Calm : Event → Prop
  | .connect _ preparation => preparation = .made
  | .resume outcome => outcome = .returns
  | .close _ => False
  | _ => True

def Point.Failed : Point → Prop
  | .cleaning _ | .raised => True
  | _ => False

/-- `connect` fails for one reason only: the ECU has not said what it has to
say, and will not. -/
structure Alone (cfg : Config) (s : Leg) : Prop where
  live : ¬ s.point.Failed → s.point ≠ .returned → s.delivery.cause = none
  failed : s.point.Failed → ∀ more, (s.eof = true → more = []) →
    activates cfg s.tester activationRounds (s.received ++ more) = none
  closes : ∀ k, s.closes k = .notCalled

theorem fromBytes_take_two (bs : Bytes) : fromBytes (bs.take 2) < 65536 := by
  match bs with
  | [] => decide
  | [a] =>
      have ha := a.toNat_lt
      show 0 * 256 + a.toNat < 65536
      omega
  | a :: b :: _ =>
      have ha := a.toNat_lt
      have hb := b.toNat_lt
      show (0 * 256 + a.toNat) * 256 + b.toNat < 65536
      omega

/-- No response names an address that does not fit. -/
theorem activates_wide (hwide : 65536 ≤ tester) : activates cfg tester left stream = none := by
  induction left generalizing stream with
  | zero => rfl
  | succ left ih =>
      cases hread : readFrame cfg.maxPayloadBytes stream with
      | error e => exact activates_error hread
      | ok read =>
          obtain ⟨raw, rest⟩ := read
          rw [activates_ok hread]
          cases hreply : activationReply tester cfg.ecuLogicalAddr raw with
          | denied => rfl
          | again =>
              show (activates cfg tester left rest).map _ = none
              rw [ih]
              rfl
          | active =>
              have hsmall := fromBytes_take_two (raw.drop 8)
              unfold activationReply at hreply
              dsimp only at hreply
              repeat' (split at hreply)
              all_goals first | omega | cases hreply

theorem Heading.fails (h : Heading cfg s left) {more : Bytes}
    (hnone : activates cfg s.tester left (s.stream ++ more) = none) :
    activates cfg s.tester activationRounds (s.received ++ more) = none := by
  obtain ⟨answered, hall, _⟩ := h
  rw [hall more, hnone]
  rfl

namespace Alone

/-- A failure that is the ECU's. -/
theorem fail (h : Alone cfg s) (hnone : ∀ more, (s.eof = true → more = []) →
    activates cfg s.tester activationRounds (s.received ++ more) = none) : Alone cfg s.fail where
  live hnot := absurd trivial hnot
  failed _ := hnone
  closes := h.closes

/-- A step that leaves the connection, and the bytes, as they are. -/
theorem move (h : Alone cfg s) (hnot : ¬ s.point.Failed) (hreturned : s.point ≠ .returned)
    (hdelivery : s'.delivery.cause = s.delivery.cause) (hcloses : s'.closes = s.closes)
    (hpoint : ¬ s'.point.Failed) : Alone cfg s' where
  live _ _ := hdelivery.trans (h.live hnot hreturned)
  failed hfailed := absurd hfailed hpoint
  closes k := by
    rw [hcloses]
    exact h.closes k

theorem nextRound (h : Alone cfg s) (hnot : ¬ s.point.Failed) (hreturned : s.point ≠ .returned)
    (hheading : Heading cfg s left) : Alone cfg (s.nextRound left) := by
  cases left with
  | zero => exact h.fail fun more _ => hheading.fails rfl
  | succ left => exact h.move hnot hreturned rfl rfl (by simp [Leg.nextRound, Point.Failed])

theorem round (h : Alone cfg s) (hpoint : s.point = .reading left)
    (hheading : Heading cfg s (left + 1)) (hround : Round cfg s left s') : Alone cfg s' := by
  have hnot : ¬ s.point.Failed := by simp [hpoint, Point.Failed]
  have hreturned : s.point ≠ .returned := by simp [hpoint]
  have hcause := h.live hnot hreturned
  have hrest : ∀ rest, Alone cfg { s with stream := rest } :=
    fun rest => ⟨h.live, h.failed, h.closes⟩
  cases hround with
  | ended hread heof =>
      -- the stream ends before the frame does
      refine h.fail fun more hmore => hheading.fails ?_
      rw [hmore heof, List.append_nil]
      exact activates_error hread
  | rejected e hincomplete hread =>
      refine h.fail fun more _ => hheading.fails (activates_error (readFrame_append_error hread ?_))
      exact hincomplete
  | denied raw rest hread hreply =>
      refine (hrest rest).fail fun more _ => hheading.fails ?_
      rw [activates_ok (readFrame_append_ok hread), hreply]
  | active raw rest =>
      unfold Leg.finish
      rw [if_neg (by simp [hcause])]
      exact (hrest rest).move hnot hreturned rfl rfl (by simp [Point.Failed])
  | asked raw rest =>
      unfold Leg.answer
      rw [if_neg (by simp [hcause])]
      exact (hrest rest).move hnot hreturned rfl rfl (by simp [Point.Failed])
  | ignored raw rest hread hreply hother =>
      refine (hrest rest).nextRound hnot hreturned (hheading.again hread hreply _ ?_)
      rw [if_neg hother, List.append_nil]

theorem attach (h : Alone cfg s) (hpoint : s.point = .opening) : Alone cfg s.attach := by
  have hnot : ¬ s.point.Failed := by simp [hpoint, Point.Failed]
  have hreturned : s.point ≠ .returned := by simp [hpoint]
  have hcause := h.live hnot hreturned
  unfold Leg.attach
  dsimp only
  rw [if_neg (by simp [hcause])]
  split
  · rename_i hwide
    have hheld : Alone cfg { s with
        sock := .transferred, writer := .open_
        delivery := { s.delivery with connected := true } } := ⟨h.live, h.failed, h.closes⟩
    refine hheld.fail fun more _ => activates_wide ?_
    unfold buildRaRequest at hwide
    split at hwide
    · cases hwide
    · show 65536 ≤ s.tester
      omega
  · exact h.move hnot hreturned rfl rfl (by simp [Point.Failed])

theorem resume (h : Alone cfg s) (hheard : Heard cfg s s.point)
    (hstep : s.resume cfg .returns = some s') : Alone cfg s' := by
  cases resumed_of_resume hstep with
  | connected hpoint =>
      exact h.move (by simp [hpoint, Point.Failed]) (by simp [hpoint]) rfl rfl
        (by simp [Point.Failed])
  | opened hpoint => exact h.attach hpoint
  | requested hpoint | answered left hpoint =>
      rw [hpoint] at hheard
      exact h.nextRound (by simp [hpoint, Point.Failed]) (by simp [hpoint]) hheard
  | read left _ hpoint hround =>
      rw [hpoint] at hheard
      exact h.round hpoint hheard hround
  | failed _ hfails => exact absurd rfl hfails

/-- A step that tells nothing about `connect`. -/
theorem beside (h : Alone cfg s) (hpoint : s'.point = s.point) (htester : s'.tester = s.tester)
    (hreceived : s'.received = s.received) (heof : s.eof = true → s'.eof = true)
    (hcloses : s'.closes = s.closes)
    (hcause : s.point = .returned ∨ s'.delivery.cause = s.delivery.cause) : Alone cfg s' where
  live hnot hreturned := by
    rw [hpoint] at hnot hreturned
    rcases hcause with hcause | hcause
    · exact absurd hcause hreturned
    · rw [hcause]
      exact h.live hnot hreturned
  failed hfailed more hmore := by
    rw [hpoint] at hfailed
    rw [htester, hreceived]
    exact h.failed hfailed more fun hold => hmore (heof hold)
  closes k := by
    rw [hcloses]
    exact h.closes k

theorem cleanup (h : Alone cfg s) (hstep : s.cleanupStep = some s') : Alone cfg s' := by
  cases cleaned_of_cleanupStep hstep with
  | closed hpoint | waited hpoint | raised hpoint =>
      have hfailed : s.point.Failed := by
        rw [hpoint]
        trivial
      exact ⟨fun hnot => absurd trivial hnot, fun _ => h.failed hfailed, h.closes⟩

theorem feed (h : Alone cfg s) (hopen : s.eof = false) (bytes : Bytes) :
    Alone cfg { s with stream := s.stream ++ bytes, received := s.received ++ bytes } := by
  refine ⟨h.live, fun hfailed more _ => ?_, h.closes⟩
  show activates cfg s.tester activationRounds (s.received ++ bytes ++ more) = none
  rw [List.append_assoc]
  refine h.failed hfailed (bytes ++ more) fun heof => ?_
  rw [hopen] at heof
  cases heof

end Alone

theorem alone_step (hinv : Inv cfg s) (hheard : Heard cfg s s.point) (h : Alone cfg s) (e : Event)
    (hcalm : Calm e) (hstep : step cfg s e = some s') : Alone cfg s' := by
  cases effect_of_step hstep with
  | refused => exact h
  | begun tester preparation hcause hconnected hconnecting =>
      obtain rfl : preparation = .made := hcalm
      have hpoint := hinv.fresh hcause hconnected hconnecting
      exact h.move (by simp [hpoint, Point.Failed]) (by simp [hpoint]) rfl rfl
        (by simp [Leg.begin, Point.Failed])
  | resumed outcome _ hresume =>
      obtain rfl : outcome = .returns := hcalm
      exact h.resume hheard hresume
  | cleaned _ hcleanup => exact h.cleanup hcleanup
  | closed k => exact hcalm.elim
  | joined k hjoining _ =>
      rw [h.closes k] at hjoining
      cases hjoining
  | ended k hclosing =>
      rw [h.closes k] at hclosing
      cases hclosing
  | fed bytes hopen => exact h.feed hopen bytes
  | fedEof => exact h.beside rfl rfl rfl (fun _ => rfl) rfl (.inr rfl)
  | started => exact h.beside rfl rfl rfl id rfl (.inr rfl)
  | reader _ rest d _ _ _ _ hreader _ hdoes =>
      obtain ⟨delivery, hdelivery, hs'⟩ := readerDoes_eq hdoes
      have hpoint : s.point = .returned := hinv.returned_of_reader hreader hdelivery
      rcases hs' with rfl | ⟨rfl, _⟩ <;> exact h.beside rfl rfl rfl id rfl (.inl hpoint)
  | receiver _ d _ _ hreceiver hdoes =>
      obtain ⟨delivery, hdelivery, rfl⟩ := receives_eq hdoes
      exact h.beside rfl rfl rfl id rfl (.inr (receiver_cause hreceiver hdelivery))

theorem alone_init (cfg : Config) : Alone cfg {} where
  live _ _ := rfl
  failed h := h.elim
  closes _ := rfl

/-! ## §5. The rest is its own work. -/

/-- How many awaits of `connect` may still come back before it has returned. -/
def rank : Point → Nat
  | .notCalled | .connecting => 9
  | .opening => 8
  | .requesting => 7
  | .reading left => 2 * left + 2
  | .answering left => 2 * left + 1
  | .cleaning _ | .raised | .returned => 0

theorem rank_nextRound (s : Leg) (left : Nat) : rank (s.nextRound left).point ≤ 2 * left := by
  cases left with
  | zero => exact Nat.le_refl 0
  | succ left =>
      show 2 * left + 2 ≤ 2 * (left + 1)
      omega

theorem rank_round (hround : Round cfg s left s') : rank s'.point ≤ 2 * left + 1 := by
  have hfail : ∀ t : Leg, rank t.fail.point ≤ 2 * left + 1 := fun t => Nat.zero_le _
  cases hround with
  | ended | rejected => exact hfail s
  | denied => exact hfail _
  | active =>
      unfold Leg.finish
      split
      · exact hfail _
      · exact Nat.zero_le _
  | asked =>
      unfold Leg.answer
      split
      · exact hfail _
      · exact Nat.le_refl _
  | ignored => exact Nat.le_succ_of_le (rank_nextRound _ left)

theorem rank_attach (s : Leg) : rank s.attach.point ≤ 7 := by
  unfold Leg.attach
  dsimp only
  split
  · exact Nat.zero_le _
  split
  · exact Nat.zero_le _
  · exact Nat.le_refl _

/-- Every await that comes back brings `connect` nearer to its end. -/
theorem rank_returns (hstep : s.resume cfg .returns = some s') : rank s'.point < rank s.point := by
  cases resumed_of_resume hstep with
  | connected hpoint =>
      rw [hpoint]
      exact Nat.le_refl _
  | opened hpoint =>
      rw [hpoint]
      exact Nat.succ_le_succ (rank_attach s)
  | requested hpoint =>
      rw [hpoint]
      have hround := rank_nextRound s activationRounds
      have hrounds : activationRounds = 3 := rfl
      show rank (s.nextRound activationRounds).point < 7
      omega
  | read left _ hpoint hround =>
      rw [hpoint]
      exact Nat.succ_le_succ (rank_round hround)
  | answered left hpoint =>
      rw [hpoint]
      exact Nat.succ_le_succ (rank_nextRound s left)
  | failed _ hfails => exact absurd rfl hfails

/-- The positive response is among the bytes, and nobody has disturbed
`connect` so far. -/
structure Promising (cfg : Config) (s : Leg) : Prop where
  inv : Inv cfg s
  heard : Heard cfg s s.point
  alone : Alone cfg s
  called : s.point ≠ .notCalled
  found : (activates cfg s.tester activationRounds s.received).isSome = true

namespace Promising

theorem step (h : Promising cfg s) (hstep : s.resume cfg .returns = some s') :
    Promising cfg s' := by
  have hmoves := Moves.resume hstep
  have hleg : EcuSetup.step cfg s (.resume .returns) = some s' := hstep
  refine ⟨h.inv.step _ hleg, heard_step h.inv h.heard _ hleg, h.alone.resume h.heard hstep, ?_, ?_⟩
  · intro hpoint
    exact h.called (hmoves.called.mp hpoint)
  · rw [hmoves.tester, hmoves.received]
    exact h.found

/-- The frame it waits for is there. -/
theorem reads (h : Promising cfg s) (hpoint : s.point = .reading left) :
    ∃ s', s.readReply cfg left = some s' := by
  have hheard := h.heard
  rw [hpoint] at hheard
  have hfound := h.found
  cases hread : readFrame cfg.maxPayloadBytes s.stream with
  | error e =>
      have hnone : activates cfg s.tester activationRounds (s.received ++ []) = none := by
        apply Heading.fails hheard
        rw [List.append_nil]
        exact activates_error hread
      rw [List.append_nil] at hnone
      rw [hnone] at hfound
      cases hfound
  | ok read =>
      obtain ⟨raw, rest⟩ := read
      unfold Leg.readReply
      rw [hread]
      exact ⟨_, rfl⟩

/-- It has not failed. -/
theorem not_failed (h : Promising cfg s) : ¬ s.point.Failed := by
  intro hfailed
  have hfound := h.found
  have hnone := h.alone.failed hfailed [] (by simp)
  rw [List.append_nil] at hnone
  rw [hnone] at hfound
  cases hfound

/-- Until it has returned, its await comes back. -/
theorem goes_on (h : Promising cfg s) (hnot : s.point ≠ .returned) :
    ∃ s', s.resume cfg .returns = some s' := by
  unfold Leg.resume
  dsimp only
  cases hpoint : s.point with
  | notCalled => exact absurd hpoint h.called
  | returned => exact absurd hpoint hnot
  | connecting | opening | requesting | answering => exact ⟨_, rfl⟩
  | reading left => exact h.reads hpoint
  | cleaning | raised => exact absurd (by rw [hpoint]; trivial) h.not_failed

end Promising

/-- **What is left of `connect` is its own work**, once the ECU has accepted. -/
theorem drains (cfg : Config) :
    Drains (step cfg) (Promising cfg) (· = .resume .returns) (fun s => s.point = .returned)
      (fun s => rank s.point) where
  keeps := by
    intro s e s' h hown hstep
    subst hown
    exact h.step hstep
  lowers := by
    intro s e s' _ hown hstep
    subst hown
    exact rank_returns hstep
  goes_on := by
    intro s h hnot
    obtain ⟨s', hs'⟩ := h.goes_on hnot
    exact ⟨.resume .returns, s', rfl, hs'⟩

/-- `connect` can and must return just where the positive response is among
the bytes that have come in. -/
theorem returns_iff (hinv : Inv cfg s) (hheard : Heard cfg s s.point) (halone : Alone cfg s)
    (hcalled : s.point ≠ .notCalled) :
    Inevitable (step cfg) (· = .resume .returns) (fun t => t.point = .returned) s
      ↔ (activates cfg s.tester activationRounds s.received).isSome = true := by
  constructor
  · intro hmust
    -- its own steps take in no bytes
    have hend : ∃ t, (Inv cfg t ∧ Heard cfg t t.point ∧ t.tester = s.tester
        ∧ t.received = s.received) ∧ t.point = .returned := by
      refine hmust.exists_of ⟨hinv, hheard, rfl, rfl⟩ ?_
      intro t e t' ⟨htinv, htheard, htester, hreceived⟩ hown hstep
      subst hown
      have hresume : t.resume cfg .returns = some t' := hstep
      have hmoves := Moves.resume hresume
      exact ⟨htinv.step _ hstep, heard_step htinv htheard _ hstep, hmoves.tester.trans htester,
        hmoves.received.trans hreceived⟩
    obtain ⟨t, ⟨_, htheard, htester, hreceived⟩, hpoint⟩ := hend
    rw [hpoint] at htheard
    obtain ⟨answered, rest, hall, _⟩ := htheard
    rw [← htester, ← hreceived, hall]
    rfl
  · intro hfound
    exact ((drains cfg).inevitable ⟨hinv, hheard, halone, hcalled, hfound⟩).mono fun _ h => h.2

/-! ## §6. What a run of connect comes to. -/

theorem heard_run (es : List Event) (h : exec (step cfg) {} es = some s) :
    Inv cfg s ∧ Heard cfg s s.point := by
  refine exec_invariant (fun s => Inv cfg s ∧ Heard cfg s s.point) ?_ es {} s ?_ h
  · intro s e s' hs hstep
    exact ⟨hs.1.step e hstep, heard_step hs.1 hs.2 e hstep⟩
  · exact ⟨inv_init cfg, rfl, rfl⟩

theorem alone_run (es : List Event) (hcalm : ∀ e ∈ es, Calm e)
    (h : exec (step cfg) {} es = some s) : Alone cfg s := by
  induction es using List.reverseRecOn generalizing s with
  | nil =>
      cases h
      exact alone_init cfg
  | append_singleton es e ih =>
      obtain ⟨u, hu, hlast⟩ := exec_append_eq_some.mp h
      obtain ⟨v, hv, hvs⟩ := exec_cons_eq_some.mp hlast
      cases hvs
      obtain ⟨hinv, hheard⟩ := heard_run es hu
      have hold := ih (fun e he => hcalm e (List.mem_append_left _ he)) hu
      exact alone_step hinv hheard hold e (hcalm e (by simp)) hv

/-- A `connect` that is not at work any more has returned or raised. -/
theorem Inv.at_end (h : Inv cfg s) (hcalled : s.point ≠ .notCalled)
    (hended : s.connecting = false) : s.point = .returned ∨ s.point = .raised := by
  have howned := h.owned
  cases hpoint : s.point with
  | notCalled => exact absurd hpoint hcalled
  | connecting | opening | requesting | reading | answering | cleaning =>
      rw [hpoint] at howned
      simp [Owned, hended] at howned
  | raised => exact .inr rfl
  | returned => exact .inl rfl

/-- **What `connect` takes for an activation**: in every run, when it has
returned, the bytes the ECU has sent began with a positive Routing Activation
Response for this tester and this ECU, behind at most two frames that the
handshake reads over, each Alive Check Request among them was answered once,
and the reader starts behind the response.  Where the network does its part
and nobody cancels or closes, it can and must return just then, and one that
is over has returned just then. -/
theorem connect_iff_activates (cfg : Config) (es : List Event) (s : Leg)
    (hrun : exec (step cfg) {} es = some s) :
    (s.point = .returned → Activated cfg s)
      ∧ ((∀ e ∈ es, Calm e) → s.point ≠ .notCalled →
          (Inevitable (step cfg) (· = .resume .returns) (fun t => t.point = .returned) s
            ↔ (activates cfg s.tester activationRounds s.received).isSome = true)
          ∧ (s.connecting = false → (s.point = .returned
            ↔ (activates cfg s.tester activationRounds s.received).isSome = true))) := by
  obtain ⟨hinv, hheard⟩ := heard_run es hrun
  have hactivated : s.point = .returned → Activated cfg s := by
    intro hpoint
    rw [hpoint] at hheard
    exact hheard
  refine ⟨hactivated, ?_⟩
  intro hcalm hcalled
  have halone := alone_run es hcalm hrun
  refine ⟨returns_iff hinv hheard halone hcalled, ?_⟩
  intro hended
  constructor
  · intro hpoint
    obtain ⟨answered, rest, hall, _⟩ := hactivated hpoint
    rw [hall]
    rfl
  · intro hsome
    rcases hinv.at_end hcalled hended with hpoint | hpoint
    · exact hpoint
    · have hnone := halone.failed (by simp [hpoint, Point.Failed]) [] (by simp)
      rw [List.append_nil] at hnone
      rw [hnone] at hsome
      cases hsome

/-- The ECU probes before it accepts. -/
def probed : List Event :=
  [.connect 0x0E00 .made, .resume .returns, .resume .returns, .resume .returns,
   .feed (buildFrame ptAliveCheckRequest []), .resume .returns, .resume .returns,
   .feed (buildFrame ptRoutingActivationResponse [0x0E, 0x00, 0x00, 0x01, 0x10, 0, 0, 0, 0]),
   .resume .returns]

theorem connect_iff_activates_probed :
    ∃ s, exec (step ⟨4096, 0x0001⟩) {} probed = some s ∧ s.written.length = 2
      ∧ Activated ⟨4096, 0x0001⟩ s
      ∧ (activates ⟨4096, 0x0001⟩ s.tester activationRounds s.received).isSome = true := by
  have hrun : (exec (step ⟨4096, 0x0001⟩) {} probed).map
      (fun s => (s.point, s.connecting, s.written.length)) = some (.returned, false, 2) := by decide
  obtain ⟨s, hs, heq⟩ := Option.map_eq_some_iff.mp hrun
  obtain ⟨hreturned, heq⟩ := Prod.mk.inj heq
  obtain ⟨hended, hwritten⟩ := Prod.mk.inj heq
  obtain ⟨hactivated, hiff⟩ := connect_iff_activates ⟨4096, 0x0001⟩ probed s hs
  have hcalm : ∀ e ∈ probed, Calm e := by simp [probed, Calm]
  have hcalled : s.point ≠ .notCalled := by simp [hreturned]
  exact ⟨s, hs, hwritten, hactivated hreturned,
    ((hiff hcalm hcalled).2 hended).mp hreturned⟩

end DoipPlayground.EdgeNode.EcuSetup
