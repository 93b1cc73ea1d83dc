/-
  DoipPlayground.EdgeNode.Freshness
  ─────────────────────────────────
  **AN ANSWER IS NEWER THAN ITS REQUEST.**

  A completed exchange keeps its connection, with whatever the ECU has put
  on it behind the final response.

    • `Ordered` — on every connection the frames lie in the order in which
      they were emitted,
    • `World.Guarded` — the oldest frame an exchange has not read yet is
      newer than its request, or ends the exchange unrelayed,
    • `relayed_fresh` — so no left-over frame is delivered, if each request
      meets no other one when it is sent,
    • `leftover_answers_next_request` — a second response to the first
      request is delivered as the answer to the second.
-/
import DoipPlayground.EdgeNode.Exchange

namespace DoipPlayground.EdgeNode.Ecu

open Wire

variable {cfg : Config} {w w' : World} {x : Exchange} {c : ConnId}

/-! ## §1. What an exchange has not read yet. -/

/-- The frame the read task holds for this connection. -/
def World.taken (w : World) (c : ConnId) : Option Emitted :=
  match w.readTask with
  | some ⟨owner, some r⟩ => if owner = c then r else none
  | _ => none

/-- The frames exchanges have yet to receive from this connection, oldest first. -/
def World.unread (cfg : Config) (w : World) (c : ConnId) : List Emitted :=
  (w.taken c).toList ++ (w.conns c).undelivered cfg.maxPayloadBytes

/-- The same with those that are still to be read off the stream. -/
def World.stream (w : World) (c : ConnId) : List Emitted := (w.taken c).toList ++ (w.conns c).stream

/-- A Diagnostic Message or one of its acknowledgements. -/
def IsDiagnostic (raw : Bytes) : Prop :=
  ptype raw = ptDiagnosticMessage ∨ ptype raw = ptDiagnosticPositiveAck
    ∨ ptype raw = ptDiagnosticNegativeAck

instance (raw : Bytes) : Decidable (IsDiagnostic raw) := inferInstanceAs (Decidable (_ ∨ _ ∨ _))

/-- The frame ends an exchange that has just begun, and is not relayed as an
answer: a Diagnostic Message for another SID, or a frame of another type. -/
def TurnedAway (cfg : Config) (x : Exchange) (raw : Bytes) : Prop :=
  if ptype raw = ptDiagnosticMessage then
    responseMatches cfg.strictResponseMatching raw x.requestSid = false
  else ¬ IsDiagnostic raw

instance (x : Exchange) (raw : Bytes) : Decidable (TurnedAway cfg x raw) := by
  unfold TurnedAway
  infer_instance

/-! ## §2. The invariant. -/

/-- On every connection the frames lie in the order of their emission. -/
def Ordered (w : World) : Prop :=
  ∀ c, (w.stream c).Pairwise (fun f g => f.requests ≤ g.requests)
    ∧ ∀ f ∈ w.stream c, f.requests ≤ w.sent

/-- The next frame of the connection is newer than the current request. -/
def World.Fresh (cfg : Config) (w : World) (c : ConnId) : Prop :=
  ∀ f ∈ (w.unread cfg c).head?, w.sent ≤ f.requests

/-- The next frame is newer than the current request, or turned away. -/
def World.Guarded (cfg : Config) (w : World) (x : Exchange) : Prop :=
  ∀ f ∈ (w.unread cfg x.conn).head?,
    w.sent ≤ f.requests ∨ (x.pendingSeen = false ∧ TurnedAway cfg x f.raw)

/-- The exchange goes on after the frame. -/
def After.Loops : After → Prop
  | .ack | .pending => True
  | .finish _ => False

/-- What holds where the session loop is. -/
def World.PhaseOk (cfg : Config) (w : World) : Prop :=
  match w.phase with
  | .sending x false => x.pendingSeen = false
  | .sending x true | .looping x => w.Guarded cfg x
  | .receiving x => w.Guarded cfg x ∧ ∀ t, w.readTask = some t → t.owner = x.conn
  | .relaying x f after =>
      (IsDiagnostic f.raw → w.sent ≤ f.requests) ∧ (after.Loops → w.Fresh cfg x.conn)
  | .draining x after => after.Loops → w.Fresh cfg x.conn
  | _ => True

/-- Every diagnostic frame relayed during the exchange of a request was
emitted after that request was sent. -/
def Freshness (w : World) : Prop :=
  ∀ k f, Outgoing.relayed k f ∈ w.tester → IsDiagnostic f.raw → k ≤ f.requests

structure Inv (cfg : Config) (w : World) : Prop where
  ordered : Ordered w
  phase : w.PhaseOk cfg
  freshness : Freshness w

theorem World.Fresh.guarded (h : w.Fresh cfg x.conn) : w.Guarded cfg x :=
  fun f hf => .inl (h f hf)

/-- Behind a frame newer than the request there are only such. -/
theorem Ordered.fresh (h : Ordered w) {f : Emitted} {rest : List Emitted}
    (hstream : w.stream c = f :: rest) (hf : w.sent ≤ f.requests) :
    ∀ g ∈ rest, w.sent ≤ g.requests := by
  intro g hg
  have hpair := (h c).1
  rw [hstream] at hpair
  have hfg := (List.pairwise_cons.mp hpair).1 g hg
  omega

/-! ## §3. Steps that relay nothing. -/

/-- No request is sent, no frame relayed, and none comes up. -/
structure Keeps (w w' : World) : Prop where
  sent : w'.sent = w.sent
  stream : ∀ c, (w'.stream c).Sublist (w.stream c)
  relayed : ∀ k f, Outgoing.relayed k f ∈ w'.tester → Outgoing.relayed k f ∈ w.tester

/-- Outside the loop of an exchange. -/
def Phase.Resting : Phase → Prop
  | .sending x false => x.pendingSeen = false
  | .sending _ true | .looping _ | .receiving _ | .relaying _ _ _ | .draining _ _ => False
  | _ => True

theorem phaseOk_of_resting (h : w.phase.Resting) : w.PhaseOk cfg := by
  unfold World.PhaseOk
  generalize w.phase = p at h ⊢
  cases p with
  | sending x written =>
      cases written with
      | false => exact h
      | true => exact h.elim
  | looping x => exact h.elim
  | receiving x => exact h.elim
  | relaying x f after => exact h.elim
  | draining x after => exact h.elim
  | _ => trivial

theorem Ordered.shrink (h : Ordered w) (hsent : w.sent ≤ w'.sent)
    (hstream : ∀ c, (w'.stream c).Sublist (w.stream c)) : Ordered w' := by
  intro c
  refine ⟨(h c).1.sublist (hstream c), ?_⟩
  intro f hf
  have hle := (h c).2 f ((hstream c).subset hf)
  omega

namespace Keeps

theorem of_eq (hsent : w'.sent = w.sent) (hconns : w'.conns = w.conns)
    (htask : w'.readTask = w.readTask) (htester : w'.tester = w.tester) : Keeps w w' where
  sent := hsent
  stream := by
    intro c
    unfold World.stream World.taken
    rw [hconns, htask]
  relayed := by
    intro k f hmem
    rwa [htester] at hmem

theorem refl (w : World) : Keeps w w := .of_eq rfl rfl rfl rfl

theorem trans {w₁ w₂ w₃ : World} (h : Keeps w₁ w₂) (h' : Keeps w₂ w₃) : Keeps w₁ w₃ where
  sent := h'.sent.trans h.sent
  stream c := (h'.stream c).trans (h.stream c)
  relayed k f hmem := h.relayed k f (h'.relayed k f hmem)

theorem nack (w : World) (raw : Bytes) : Keeps w (w.sendRaw (.nack raw)) := by
  unfold World.sendRaw
  split
  · exact .refl w
  · refine ⟨rfl, fun _ => .refl _, ?_⟩
    intro k f hmem
    simpa using hmem

theorem setConn (w : World) (c : ConnId) {conn : ECUConnection}
    (h : conn.stream.Sublist (w.conns c).stream) : Keeps w (w.setConn c conn) where
  sent := rfl
  stream := by
    intro c'
    refine List.Sublist.append_left ?_ _
    show (Function.update w.conns c conn c').stream.Sublist _
    by_cases hc : c' = c
    · subst hc
      rwa [Function.update_self]
    · rw [Function.update_of_ne hc]
  relayed _ _ hmem := hmem

/-- The read task is forgotten. -/
theorem dropTask (w : World) : Keeps w { w with readTask := none } where
  sent := rfl
  stream _ := List.sublist_append_right _ _
  relayed _ _ hmem := hmem

theorem phase (h : Keeps w w') (p : Phase) : Keeps w { w' with phase := p } :=
  h.trans (.of_eq rfl rfl rfl rfl)

/-- It is enough that the session loop has come to rest. -/
theorem inv (h : Keeps w w') (hinv : Inv cfg w) (hphase : w'.phase.Resting) : Inv cfg w' where
  ordered := hinv.ordered.shrink (Nat.le_of_eq h.sent.symm) h.stream
  phase := phaseOk_of_resting hphase
  freshness k f hmem := hinv.freshness k f (h.relayed k f hmem)

end Keeps

/-- The step keeps the streams and ends outside the loop of an exchange. -/
def Rests (w w' : World) : Prop := Keeps w w' ∧ w'.phase.Resting

theorem Rests.inv (h : Rests w w') (hinv : Inv cfg w) : Inv cfg w' := h.1.inv hinv h.2

theorem leaveExchange_rests (w : World) (x : Exchange) (completed : Bool) :
    Rests w (w.leaveExchange x completed) := by
  refine ⟨(Keeps.refl w).phase _, ?_⟩
  show Phase.Resting (if completed then _ else _)
  split <;> trivial

theorem nackUnanswered_rests (w : World) (x : Exchange) (handled : Bool) :
    Rests w (w.nackUnanswered x handled) := by
  unfold World.nackUnanswered
  split
  · exact leaveExchange_rests w x false
  · exact ⟨(Keeps.nack w _).phase _, trivial⟩

theorem refuse_rests (w : World) (request : Bytes) (nackCode : UInt8) :
    Rests w (w.refuse request nackCode) := by
  unfold World.refuse
  split
  · exact ⟨(Keeps.refl w).phase _, trivial⟩
  · exact ⟨(Keeps.nack w _).phase _, trivial⟩

theorem startExchange_rests (w : World) (request : Bytes) (c : ConnId) :
    Rests w (w.startExchange request c) := by
  unfold World.startExchange
  split
  · exact ⟨(Keeps.refl w).phase _, trivial⟩
  · exact ⟨(Keeps.refl w).phase _, rfl⟩

theorem connectToEcu_rests (cfg : Config) (w : World) (request : Bytes) :
    Rests w (w.connectToEcu cfg request) := by
  unfold World.connectToEcu
  split
  · exact ⟨(Keeps.refl w).phase _, trivial⟩
  split
  · exact refuse_rests w request _
  · have hnew : Keeps w (w.setConn w.nextConn { connected := true }) :=
      .setConn w _ (List.nil_sublist _)
    exact ⟨hnew.trans (.of_eq rfl rfl rfl rfl), trivial⟩

theorem close_keeps (w : World) (c : ConnId) : Keeps w (w.setConn c (w.conns c).close) :=
  .setConn w c ECUConnection.close_stream_sublist

theorem connectFails_rests (w : World) (request : Bytes) (c : ConnId) :
    Rests w (w.connectFails request c) := by
  have hrefuse := refuse_rests (w.setConn c (w.conns c).close) request nackTargetUnreachable
  exact ⟨(close_keeps w c).trans hrefuse.1, hrefuse.2⟩

theorem connected_rests (w : World) (request : Bytes) (c : ConnId) :
    Rests w (w.connected request c) := by
  unfold World.connected
  split
  · exact ⟨(close_keeps w c).phase _, trivial⟩
  · have hactive : Keeps w (w.setConn c (w.conns c).activate) := .setConn w c (.refl _)
    exact ⟨hactive.trans (.of_eq rfl rfl rfl rfl), trivial⟩

theorem handshake_rests {f : Emitted} {rest : List Emitted}
    (hf : (w.conns c).transit = f :: rest) (request : Bytes) (rounds : Nat) :
    Rests w (w.handshake cfg request c rounds f rest) := by
  have hread : Keeps w (w.setConn c { w.conns c with transit := rest }) := by
    refine .setConn w c (List.Sublist.append_left ?_ _)
    rw [hf]
    exact List.sublist_cons_self f rest
  have hthen : ∀ {w'}, Rests (w.setConn c { w.conns c with transit := rest }) w' → Rests w w' :=
    fun h => ⟨hread.trans h.1, h.2⟩
  unfold World.handshake
  dsimp only
  split
  · split
    · exact hthen (connected_rests _ request c)
    · exact hthen (connectFails_rests _ request c)
    · split
      · exact hthen (connectFails_rests _ request c)
      · exact hthen ⟨(Keeps.refl _).phase _, trivial⟩
  · exact hthen (connectFails_rests _ request c)

theorem forward_rests (w : World) (request : Bytes) : Rests w (w.forward cfg request) := by
  unfold World.forward
  split
  · exact ⟨(Keeps.refl w).phase _, trivial⟩
  split
  · exact connectToEcu_rests cfg w request
  · split
    · exact startExchange_rests w request _
    · exact ⟨(Keeps.refl w).phase _, trivial⟩

theorem retireEcuLeg_keeps (w : World) (c : ConnId) : Keeps w (w.retireEcuLeg c) := by
  have htask : Keeps w { w with
      readTask := if w.readTask.any (fun t => t.owner = c) then none else w.readTask } := by
    split
    · exact .dropTask w
    · exact .refl w
  exact (htask.trans (close_keeps _ c)).trans (.of_eq rfl rfl rfl rfl)

/-! ## §4. Steps beside the session loop. -/

theorem head_of_isPrefix {l₁ l₂ : List Emitted} (h : l₁ <+: l₂) {f : Emitted} (hf : f ∈ l₁.head?) :
    f ∈ l₂.head? := by
  obtain ⟨rest, rfl⟩ := h
  cases l₁ with
  | nil => cases hf
  | cons g l => exact hf

theorem head_of_append {l : List Emitted} {f g : Emitted} (hf : f ∈ (l ++ [g]).head?) :
    f ∈ l.head? ∨ f = g := by
  cases l with
  | nil =>
      rw [List.nil_append, List.head?_cons, Option.mem_some_iff] at hf
      exact .inr hf.symm
  | cons h l => exact .inl hf

/-- The session loop stays where it is, no frame is relayed, and all that
comes up on a connection is new. -/
theorem Inv.background (hinv : Inv cfg w) (hphase : w'.phase = w.phase) (hsent : w'.sent = w.sent)
    (htester : w'.tester = w.tester)
    (howner : ∀ t', w'.readTask = some t' → ∃ t, w.readTask = some t ∧ t.owner = t'.owner)
    (hordered : Ordered w')
    (hnext : ∀ c, ∀ f ∈ (w'.unread cfg c).head?,
      f ∈ (w.unread cfg c).head? ∨ w.sent ≤ f.requests) : Inv cfg w' := by
  have hguarded : ∀ {x}, w.Guarded cfg x → w'.Guarded cfg x := by
    intro x h f hf
    rw [hsent]
    exact (hnext x.conn f hf).elim (h f) .inl
  have hfresh : ∀ {c}, w.Fresh cfg c → w'.Fresh cfg c := by
    intro c h f hf
    rw [hsent]
    exact (hnext c f hf).elim (h f) id
  refine ⟨hordered, ?_, ?_⟩
  · have hok := hinv.phase
    unfold World.PhaseOk at hok ⊢
    rw [hphase]
    generalize w.phase = p at hok ⊢
    cases p with
    | sending x written =>
        cases written with
        | false => exact hok
        | true => exact hguarded hok
    | looping x => exact hguarded hok
    | receiving x =>
        refine ⟨hguarded hok.1, ?_⟩
        intro t' ht'
        obtain ⟨t, ht, heq⟩ := howner t' ht'
        exact heq ▸ hok.2 t ht
    | relaying x f after => exact ⟨hsent ▸ hok.1, fun hl => hfresh (hok.2 hl)⟩
    | draining x after => exact fun hl => hfresh (hok hl)
    | _ => trivial
  · intro k f hmem
    rw [htester] at hmem
    exact hinv.freshness k f hmem

@[simp] theorem setConn_unread_self (w : World) (c : ConnId) (conn : ECUConnection) :
    (w.setConn c conn).unread cfg c
      = (w.taken c).toList ++ conn.undelivered cfg.maxPayloadBytes := by
  show _ ++ (Function.update w.conns c conn c).undelivered _ = _
  rw [Function.update_self]
  rfl

theorem setConn_unread_ne (w : World) {c c' : ConnId} (h : c' ≠ c) (conn : ECUConnection) :
    (w.setConn c conn).unread cfg c' = w.unread cfg c' := by
  show _ ++ (Function.update w.conns c conn c').undelivered _ = _
  rw [Function.update_of_ne h]
  rfl

theorem emit_inv (hinv : Inv cfg w) (c : ConnId) (raw : Bytes) :
    Inv cfg (w.setConn c ((w.conns c).emit ⟨raw, w.sent⟩)) := by
  refine hinv.background rfl rfl rfl (fun t ht => ⟨t, ht, rfl⟩) ?_ ?_
  · intro c'
    by_cases hc : c' = c
    · subst hc
      have hstream : (w.setConn c' ((w.conns c').emit ⟨raw, w.sent⟩)).stream c'
          = w.stream c' ++ [⟨raw, w.sent⟩] := by
        show _ ++ (Function.update w.conns c' _ c').stream = _
        rw [Function.update_self, ECUConnection.emit_stream, ← List.append_assoc]
        rfl
      rw [hstream]
      obtain ⟨hpair, hle⟩ := hinv.ordered c'
      constructor
      · rw [List.pairwise_append]
        refine ⟨hpair, List.pairwise_singleton _ _, ?_⟩
        intro f hf g hg
        rw [List.mem_singleton.mp hg]
        exact hle f hf
      · intro f hf
        rw [List.mem_append, List.mem_singleton] at hf
        rcases hf with hf | rfl
        · exact hle f hf
        · exact Nat.le_refl _
    · have hstream : (w.setConn c ((w.conns c).emit ⟨raw, w.sent⟩)).stream c' = w.stream c' := by
        show _ ++ (Function.update w.conns c _ c').stream = _
        rw [Function.update_of_ne hc]
        rfl
      rw [hstream]
      exact hinv.ordered c'
  · intro c' f hf
    -- the oldest unread frame changes only where there was none
    by_cases hc : c' = c
    · subst hc
      rw [setConn_unread_self] at hf
      rcases ECUConnection.emit_undelivered cfg.maxPayloadBytes (w.conns c') ⟨raw, w.sent⟩
        with h | h
      · rw [h] at hf
        exact .inl hf
      · rw [h, ← List.append_assoc] at hf
        rcases head_of_append hf with hf | rfl
        · exact .inl hf
        · exact .inr (Nat.le_refl _)
    · rw [setConn_unread_ne w hc] at hf
      exact .inl hf

/-- The background reader or its end: nothing comes up. -/
theorem reader_inv (hinv : Inv cfg w) (c : ConnId) {conn : ECUConnection}
    (hstream : conn.stream.Sublist (w.conns c).stream)
    (hnext : conn.undelivered cfg.maxPayloadBytes
      <+: (w.conns c).undelivered cfg.maxPayloadBytes) : Inv cfg (w.setConn c conn) := by
  have hkeeps : Keeps w (w.setConn c conn) := .setConn w c hstream
  refine hinv.background rfl rfl rfl (fun t ht => ⟨t, ht, rfl⟩)
    (hinv.ordered.shrink (Nat.le_refl _) hkeeps.stream) ?_
  -- a reader that ends or drops frames brings up no frame it had not before
  intro c' f hf
  by_cases hc : c' = c
  · subst hc
    rw [setConn_unread_self] at hf
    exact .inl (head_of_isPrefix ((List.prefix_append_right_inj _).mpr hnext) hf)
  · rw [setConn_unread_ne w hc] at hf
    exact .inl hf

/-- The read task takes the oldest frame over from the queue. -/
theorem readRuns_inv (hinv : Inv cfg w) {owner : ConnId} (htask : w.readTask = some ⟨owner, none⟩)
    {conn : ECUConnection} {r : Option Emitted} (hrecv : (w.conns owner).recv = some (conn, r)) :
    Inv cfg { w.setConn owner conn with readTask := some ⟨owner, some r⟩ } := by
  -- the task held nothing, so the frame it takes is the oldest of the queue
  have hnone : ∀ c, w.taken c = none := by
    intro c
    unfold World.taken
    rw [htask]
  have hstream : ∀ c,
      World.stream { w.setConn owner conn with readTask := some ⟨owner, some r⟩ } c
        = w.stream c := by
    intro c
    unfold World.stream
    rw [hnone c]
    show (if owner = c then r else none).toList ++ (Function.update w.conns owner conn c).stream = _
    by_cases hc : owner = c
    · subst hc
      rw [if_pos rfl, Function.update_self]
      exact (ECUConnection.recv_undelivered hrecv).2.symm
    · rw [if_neg hc, Function.update_of_ne (Ne.symm hc)]
  have hunread : ∀ c,
      World.unread cfg { w.setConn owner conn with readTask := some ⟨owner, some r⟩ } c
        = w.unread cfg c := by
    intro c
    unfold World.unread
    rw [hnone c]
    show (if owner = c then r else none).toList
      ++ (Function.update w.conns owner conn c).undelivered _ = _
    by_cases hc : owner = c
    · subst hc
      rw [if_pos rfl, Function.update_self]
      exact ((ECUConnection.recv_undelivered hrecv).1 _).symm
    · rw [if_neg hc, Function.update_of_ne (Ne.symm hc)]
  -- it is still unread, and the first of them
  refine hinv.background rfl rfl rfl ?_ ?_ ?_
  · intro t' ht'
    cases ht'
    exact ⟨_, htask, rfl⟩
  · intro c
    rw [hstream]
    exact hinv.ordered c
  · intro c f hf
    rw [hunread] at hf
    exact .inl hf

/-! ## §5. The loop of an exchange. -/

/-- After the next frame comes a fresh one, if that frame was. -/
theorem World.Fresh.dropTask (hordered : Ordered w) (h : w.Fresh cfg c) :
    World.Fresh cfg { w with readTask := none } c := by
  intro g hg
  -- with no frame in hand the oldest one is in the queue
  have hg : g ∈ ((w.conns c).undelivered cfg.maxPayloadBytes).head? := hg
  cases htaken : w.taken c with
  | none =>
      have hunread : w.unread cfg c = (w.conns c).undelivered cfg.maxPayloadBytes := by
        unfold World.unread
        rw [htaken]
        rfl
      exact h g (by rwa [hunread])
  | some f =>
      have hstream : w.stream c = f :: (w.conns c).stream := by
        unfold World.stream
        rw [htaken]
        rfl
      have hf : f ∈ (w.unread cfg c).head? := by
        unfold World.unread
        rw [htaken]
        rfl
      -- the queue lies behind the frame in hand, and that one is fresh
      have hmem : g ∈ (w.conns c).stream :=
        ECUConnection.undelivered_sublist.subset (List.mem_of_mem_head? hg)
      exact hordered.fresh hstream (h f hf) g hmem

/-- After a relayed frame the exchange goes on to a fresh one, or leaves. -/
theorem continueWith_inv (hinv : Inv cfg w) (hkeeps : Keeps w w') (after : After)
    (hloops : after.Loops → w'.Fresh cfg x.conn) : Inv cfg (w'.continueWith x after) := by
  have hordered : Ordered w' := hinv.ordered.shrink (Nat.le_of_eq hkeeps.sent.symm) hkeeps.stream
  have hfreshness : Freshness w' :=
    fun k f hmem => hinv.freshness k f (hkeeps.relayed k f hmem)
  -- by what the exchange does behind the frame
  cases after with
  | ack => exact ⟨hordered, (hloops trivial).guarded, hfreshness⟩
  | pending =>
      have hnext : w'.Fresh cfg x.conn := hloops trivial
      exact ⟨hordered, hnext.guarded (x := { x with pendingSeen := true }), hfreshness⟩
  | finish completed =>
      have hleave := leaveExchange_rests w' x completed
      exact (hkeeps.trans hleave.1).inv hinv hleave.2

theorem relayEcuFrame_inv (hinv : Inv cfg w) (hkeeps : Keeps w w') {f : Emitted} {after : After}
    (hf : IsDiagnostic f.raw → w.sent ≤ f.requests)
    (hloops : after.Loops → w'.Fresh cfg x.conn) : Inv cfg (w'.relayEcuFrame x f after) := by
  unfold World.relayEcuFrame
  -- relayed through the chain, or dropped by it with the session closing
  split
  · exact continueWith_inv hinv hkeeps after hloops
  · refine ⟨?_, ⟨?_, hloops⟩, ?_⟩
    · exact hinv.ordered.shrink (Nat.le_of_eq hkeeps.sent.symm) hkeeps.stream
    · intro hd
      show w'.sent ≤ f.requests
      rw [hkeeps.sent]
      exact hf hd
    · exact fun k f hmem => hinv.freshness k f (hkeeps.relayed k f hmem)

/-- **The received frame is newer than the request, or it is turned away.** -/
theorem received_inv (hinv : Inv cfg w) (hphase : w.phase = .receiving x) {owner : ConnId}
    {f : Emitted} (htask : w.readTask = some ⟨owner, some (some f)⟩) :
    Inv cfg (World.handleEcuFrame cfg { w with readTask := none } x f) := by
  have hok := hinv.phase
  unfold World.PhaseOk at hok
  rw [hphase] at hok
  obtain ⟨hguarded, howner⟩ := hok
  -- the read belongs to the exchange that is under way
  have howner : owner = x.conn := howner _ htask
  have hhead : f ∈ (w.unread cfg x.conn).head? := by
    unfold World.unread World.taken
    rw [htask]
    dsimp only
    rw [if_pos howner]
    rfl
  have hkeeps : Keeps w { w with readTask := none } := .dropTask w
  have hleave := leaveExchange_rests { w with readTask := none } x false
  have hleave : Inv cfg (World.leaveExchange { w with readTask := none } x false) :=
    (hkeeps.trans hleave.1).inv hinv hleave.2
  unfold World.handleEcuFrame
  -- by the guard: newer than the request, or turned away
  rcases hguarded f hhead with hnew | ⟨_, hturned⟩
  · have hfresh : w.Fresh cfg x.conn := by
      intro g hg
      rw [Option.mem_unique hg hhead]
      exact hnew
    have hnext : World.Fresh cfg { w with readTask := none } x.conn :=
      hfresh.dropTask hinv.ordered
    -- an ACK, a Diagnostic Message, or anything else; each relayed at most once
    split
    · split
      · exact hleave
      · exact relayEcuFrame_inv hinv hkeeps (fun _ => hnew) (fun _ => hnext)
    split
    · split
      · exact hleave
      · exact relayEcuFrame_inv hinv hkeeps (fun _ => hnew) (fun _ => hnext)
    · exact relayEcuFrame_inv hinv hkeeps (fun _ => hnew) (fun _ => hnext)
  · -- nothing of the three types gets past the checks
    unfold TurnedAway at hturned
    split
    · rename_i hack
      rw [if_neg (by rw [hack]; decide)] at hturned
      exact absurd (.inr (.inl hack)) hturned
    split
    · rename_i hmessage
      rw [if_pos hmessage] at hturned
      rw [if_pos hturned]
      exact hleave
    · rename_i hmessage
      rw [if_neg hmessage] at hturned
      exact relayEcuFrame_inv hinv hkeeps (fun hd => absurd hd hturned) False.elim

theorem recvEcuFrame_inv (hinv : Inv cfg w) (hphase : w.phase = .looping x) :
    Inv cfg (w.recvEcuFrame x) := by
  have hguarded := hinv.phase
  unfold World.PhaseOk at hguarded
  rw [hphase] at hguarded
  unfold World.recvEcuFrame
  split
  -- a read is under way already: of this connection, or an error
  · rename_i t ht
    split
    · rename_i howner
      refine ⟨hinv.ordered, ⟨hguarded, ?_⟩, hinv.freshness⟩
      intro t' ht'
      have ht' : w.readTask = some t' := ht'
      rw [ht, Option.some.injEq] at ht'
      exact ht' ▸ howner
    · exact (nackUnanswered_rests w x true).inv hinv
  -- a new read holds no frame yet
  · rename_i ht
    have htaken : ∀ c, World.taken { w with
        readTask := some { owner := x.conn }, phase := .receiving x } c = w.taken c := by
      intro c
      unfold World.taken
      rw [ht]
    refine ⟨?_, ⟨?_, ?_⟩, hinv.freshness⟩
    · intro c
      unfold World.stream
      rw [htaken]
      exact hinv.ordered c
    · unfold World.Guarded World.unread
      rw [htaken]
      exact hguarded
    · intro t' ht'
      cases ht'
      rfl

theorem recvTimeout_inv (hinv : Inv cfg w) (hphase : w.phase = .receiving x) :
    Inv cfg (w.recvTimeout x) := by
  have hok := hinv.phase
  unfold World.PhaseOk at hok
  rw [hphase] at hok
  -- the task may go with its frame
  have hpop : Keeps w w.popDoneTask ∧ (w.Fresh cfg x.conn → w.popDoneTask.Fresh cfg x.conn) := by
    unfold World.popDoneTask
    split
    · exact ⟨.dropTask w, fun h => h.dropTask hinv.ordered⟩
    · exact ⟨.refl w, id⟩
  obtain ⟨hkeeps, hfresh⟩ := hpop
  unfold World.recvTimeout
  split
  -- behind a promise the exchange waits on
  · rename_i hseen
    have hnext : w.Fresh cfg x.conn := by
      intro f hf
      rcases hok.1 f hf with h | ⟨h, _⟩
      · exact h
      · rw [hseen] at h
        cases h
    exact continueWith_inv hinv hkeeps .ack (fun _ => hfresh hnext)
  -- otherwise it gives up, and leaves
  · have hgive := nackUnanswered_rests w.popDoneTask x false
    exact (hkeeps.trans hgive.1).inv hinv hgive.2

/-- The frame goes out under the number of the current request. -/
theorem relay_inv (hinv : Inv cfg w) {f : Emitted} {after : After}
    (hphase : w.phase = .relaying x f after) :
    Inv cfg { w.sendRaw (.relayed w.sent f) with phase := .draining x after } := by
  have hok := hinv.phase
  unfold World.PhaseOk at hok
  rw [hphase] at hok
  unfold World.sendRaw
  split
  -- closing: nothing is written
  · exact ⟨hinv.ordered, hok.2, hinv.freshness⟩
  · refine ⟨hinv.ordered, hok.2, ?_⟩
    intro k g hmem hd
    rw [List.mem_append, List.mem_singleton] at hmem
    -- what was relayed before, or this frame
    rcases hmem with hmem | heq
    · exact hinv.freshness k g hmem hd
    · cases heq
      exact hok.1 hd

/-! ## §6. Runs. -/

/-- When a request is about to be sent, the oldest frame left on its
connection, if there is one, is turned away. -/
def CleanSend (cfg : Config) (w : World) : Event → Prop
  | .write =>
      match w.phase with
      | .sending x false => ∀ f ∈ (w.unread cfg x.conn).head?, TurnedAway cfg x f.raw
      | _ => True
  | _ => True

theorem writeRequest_inv (hinv : Inv cfg w) (hphase : w.phase = .sending x false)
    (hclean : ∀ f ∈ (w.unread cfg x.conn).head?, TurnedAway cfg x f.raw) :
    Inv cfg (w.writeRequest x) := by
  have hseen := hinv.phase
  unfold World.PhaseOk at hseen
  rw [hphase] at hseen
  unfold World.writeRequest
  split
  -- the number of the request is that of all that comes from here on
  · refine ⟨hinv.ordered.shrink (Nat.le_succ _) (fun _ => .refl _), ?_, hinv.freshness⟩
    exact fun f hf => .inr ⟨hseen, hclean f hf⟩
  · exact (nackUnanswered_rests w x true).inv hinv

/-- **Every clean step keeps the invariant.** -/
theorem Inv.step (w : World) (e : Event) (w' : World) (hinv : Inv cfg w)
    (hclean : CleanSend cfg w e) (hstep : Ecu.step cfg w e = some w') : Inv cfg w' := by
  have hok := hinv.phase
  unfold World.PhaseOk at hok
  have hstay : ∀ p : Phase, p.Resting → Inv cfg { w with phase := p } :=
    fun p hp => ((Keeps.refl w).phase p).inv hinv hp
  -- only `write` needs the condition: from then on the request in flight is a new one
  cases e with
  | request raw =>
      simp only [Ecu.step, Option.ite_none_right_eq_some, Option.some.injEq] at hstep
      obtain ⟨_, rfl⟩ := hstep
      -- a request is taken up: nothing is sent yet
      exact hstay _ trivial
  | forwarded =>
      simp only [Ecu.step] at hstep
      -- the phases before the exchange rest: no frame is read in them
      split at hstep
      · cases hstep
        exact (forward_rests w _).inv hinv
      · cases hstep
  | handshake =>
      simp only [Ecu.step] at hstep
      split at hstep
      · split at hstep
        · rename_i htransit
          cases hstep
          exact (handshake_rests htransit _ _).inv hinv
        · cases hstep
      · cases hstep
  | connectFails =>
      simp only [Ecu.step] at hstep
      split at hstep
      · cases hstep
        exact (connectFails_rests w _ _).inv hinv
      · cases hstep
  | opened =>
      simp only [Ecu.step] at hstep
      split at hstep
      · cases hstep
        exact (startExchange_rests w _ _).inv hinv
      · cases hstep
  | write =>
      simp only [Ecu.step] at hstep
      split at hstep
      · rename_i hphase
        cases hstep
        unfold CleanSend at hclean
        rw [hphase] at hclean
        exact writeRequest_inv hinv hphase hclean
      · cases hstep
  | drained =>
      simp only [Ecu.step] at hstep
      split at hstep
      -- by what was being drained
      · cases hstep
        exact hstay _ trivial
      · rename_i hphase
        cases hstep
        rw [hphase] at hok
        exact ⟨hinv.ordered, hok, hinv.freshness⟩
      · rename_i hphase
        cases hstep
        rw [hphase] at hok
        exact continueWith_inv hinv (.refl w) _ hok
      · cases hstep
        exact (leaveExchange_rests w _ false).inv hinv
      · cases hstep
  | raises =>
      simp only [Ecu.step] at hstep
      -- by where it raises: in the send, a read, or a relay
      split at hstep
      · cases hstep
        exact hstay _ trivial
      · cases hstep
        exact (nackUnanswered_rests w _ true).inv hinv
      · cases hstep
        exact (nackUnanswered_rests w _ true).inv hinv
      · cases hstep
        exact (nackUnanswered_rests w _ true).inv hinv
      · cases hstep
        exact hstay _ trivial
      · cases hstep
  | receive =>
      simp only [Ecu.step] at hstep
      split at hstep
      · rename_i hphase
        -- the budget is over, or the next read begins
        split at hstep
        · cases hstep
          exact (leaveExchange_rests w _ false).inv hinv
        · cases hstep
          exact recvEcuFrame_inv hinv hphase
      · cases hstep
  | exhausted =>
      simp only [Ecu.step] at hstep
      split at hstep
      -- with a promise it retires the leg, without one it sends a NACK as well
      · split at hstep
        · cases hstep
          exact (leaveExchange_rests w _ false).inv hinv
        · cases hstep
          exact (nackUnanswered_rests w _ false).inv hinv
      · cases hstep
  | readRuns =>
      simp only [Ecu.step] at hstep
      split at hstep
      · rename_i htask
        obtain ⟨r, hrecv, rfl⟩ := Option.map_eq_some_iff.mp hstep
        exact readRuns_inv hinv htask hrecv
      · cases hstep
  | received =>
      simp only [Ecu.step] at hstep
      split at hstep
      · rename_i hphase htask
        cases hstep
        exact received_inv hinv hphase htask
      -- the queue's end came instead of a frame
      · cases hstep
        have hfail := nackUnanswered_rests { w with readTask := none } ‹Exchange› true
        exact ((Keeps.dropTask w).trans hfail.1).inv hinv hfail.2
      · cases hstep
  | timeout =>
      simp only [Ecu.step] at hstep
      split at hstep
      · rename_i hphase
        cases hstep
        exact recvTimeout_inv hinv hphase
      · cases hstep
  | relay =>
      simp only [Ecu.step] at hstep
      split at hstep
      · rename_i hphase
        cases hstep
        exact relay_inv hinv hphase
      · cases hstep
  | retired =>
      simp only [Ecu.step] at hstep
      split at hstep
      · rename_i request c _
        -- for the next connect, or as the end of an exchange
        cases hstep
        have hconnect := connectToEcu_rests cfg (w.retireEcuLeg c) request
        exact ((retireEcuLeg_keeps w c).trans hconnect.1).inv hinv hconnect.2
      · cases hstep
        refine ((retireEcuLeg_keeps w _).phase _).inv hinv ?_
        show Phase.Resting (if _ then _ else _)
        split <;> trivial
      · cases hstep
  | cancel =>
      -- wherever it is cancelled, the exchange ends in a phase that sends nothing more
      simp only [Ecu.step] at hstep
      split at hstep
      · cases hstep
        exact hstay _ trivial
      · cases hstep
        exact hstay _ trivial
      · cases hstep
        exact hstay _ trivial
      · cases hstep
        exact hstay _ trivial
      · cases hstep
        exact hstay _ trivial
      · cases hstep
        exact hstay _ trivial
      · cases hstep
        exact hstay _ trivial
      · cases hstep
        exact ((close_keeps w _).phase _).inv hinv trivial
      · cases hstep
        exact hstay _ trivial
      · cases hstep
      · cases hstep
        exact hstay _ trivial
  | close =>
      cases hstep
      -- `_closing` changes no frame and no connection
      exact hinv.background rfl rfl rfl (fun t ht => ⟨t, ht, rfl⟩) hinv.ordered
        (fun _ _ hf => .inl hf)
  | emit c raw =>
      simp only [Ecu.step, Option.ite_none_right_eq_some, Option.some.injEq] at hstep
      obtain ⟨_, rfl⟩ := hstep
      exact emit_inv hinv c raw
  | readerRuns c =>
      simp only [Ecu.step] at hstep
      -- what the reader has read is where it was, in order
      obtain ⟨conn, hconn, rfl⟩ := Option.map_eq_some_iff.mp hstep
      have hsame := ECUConnection.backgroundReader_undelivered hconn
      exact reader_inv hinv c (ECUConnection.backgroundReader_stream hconn)
        (hsame ▸ List.prefix_rfl)
  | readerEnds c =>
      simp only [Ecu.step, Option.ite_none_right_eq_some, Option.some.injEq] at hstep
      obtain ⟨_, rfl⟩ := hstep
      refine reader_inv hinv c ?_ ECUConnection.readerEnds_undelivered
      rw [ECUConnection.readerEnds_stream]

theorem Inv.init : Inv cfg {} where
  ordered _ := ⟨.nil, by simp [World.stream, World.taken, ECUConnection.stream]⟩
  phase := trivial
  freshness _ _ hmem := by cases hmem

/-- **Freshness**, in every run in which no request meets a left-over frame
that would pass for an answer. -/
theorem relayed_fresh (cfg : Config) (es : List Event) (w : World)
    (hal : Transition.Along (step cfg) (CleanSend cfg) {} es)
    (h : Transition.exec (step cfg) {} es = some w) : Freshness w :=
  (Transition.exec_invariant_along (Inv cfg) Inv.step es {} w Inv.init hal h).freshness

instance (w : World) (e : Event) : Decidable (CleanSend cfg w e) := by
  unfold CleanSend
  rcases e <;> dsimp only <;> try infer_instance
  rcases w.phase with _ | _ | _ | _ | _ | _ | ⟨x, _ | _⟩ <;> infer_instance

/-! ### Two requests on one connection. -/

def oneTarget : Config := { testerAddr := 0x0E00, entry := some 0x0001 }

/-- `22 F1 90` to the target. -/
def readRequest : Bytes :=
  buildFrame ptDiagnosticMessage (packH 0x0E00 ++ packH 0x0001 ++ [0x22, 0xF1, 0x90])

/-- `62 F1 90 41` from the target. -/
def readResponse : Bytes :=
  buildFrame ptDiagnosticMessage (packH 0x0001 ++ packH 0x0E00 ++ [0x62, 0xF1, 0x90, 0x41])

/-- The target confirms the Routing Activation. -/
def activationOk : Bytes :=
  buildFrame ptRoutingActivationResponse (packH 0x0E00 ++ packH 0x0001 ++ [0x10, 0, 0, 0, 0])

/-- The first request opens the connection. -/
def opens : List Event :=
  [.request readRequest, .forwarded, .emit 0 activationOk, .handshake, .opened, .write, .drained]

/-- The next request finds it. -/
def reuses : List Event := [.request readRequest, .forwarded, .write, .drained]

/-- The exchange receives the next frame and relays it. -/
def relays : List Event := [.receive, .readRuns, .received, .relay, .drained]

/-- Each request is answered once. -/
def answeredInTurn : List Event :=
  opens ++ [.emit 0 readResponse, .readerRuns 0] ++ relays
    ++ reuses ++ [.emit 0 readResponse, .readerRuns 0] ++ relays

set_option maxRecDepth 8000 in
theorem relayed_fresh_in_turn :
    ∃ w, Transition.exec (step oneTarget) {} answeredInTurn = some w
      ∧ w.tester = [.relayed 1 ⟨readResponse, 1⟩, .relayed 2 ⟨readResponse, 2⟩] ∧ Freshness w := by
  have hrun : ((Transition.exec (step oneTarget) {} answeredInTurn).map World.tester)
      = some [.relayed 1 ⟨readResponse, 1⟩, .relayed 2 ⟨readResponse, 2⟩] := by decide
  obtain ⟨w, hw, htester⟩ := Option.map_eq_some_iff.mp hrun
  exact ⟨w, hw, htester, relayed_fresh oneTarget answeredInTurn w (by decide) hw⟩

/-- The first request is answered twice. -/
def answeredTwice : List Event :=
  opens ++ [.emit 0 readResponse, .emit 0 readResponse, .readerRuns 0, .readerRuns 0] ++ relays
    ++ reuses ++ relays

set_option maxRecDepth 8000 in
/-- The second answer to the first request is delivered as that to the second. -/
theorem leftover_answers_next_request :
    ¬ ∀ (cfg : Config) (es : List Event) (w : World), cfg.strictResponseMatching = true →
      Transition.exec (step cfg) {} es = some w → Freshness w := by
  intro hall
  have hrun : ((Transition.exec (step oneTarget) {} answeredTwice).map World.tester)
      = some [.relayed 1 ⟨readResponse, 1⟩, .relayed 2 ⟨readResponse, 1⟩] := by decide
  obtain ⟨w, hw, htester⟩ := Option.map_eq_some_iff.mp hrun
  have hle : 2 ≤ 1 := by
    refine hall oneTarget answeredTwice w rfl hw 2 ⟨readResponse, 1⟩ ?_ (by decide)
    rw [htester]
    decide
  omega

end DoipPlayground.EdgeNode.Ecu
