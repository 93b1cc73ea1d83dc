/-
  DoipPlayground.VirtualEcu.ResetRevocation
  ─────────────────────────────────────────
  **WHAT AN ECURESET LEAVES OF THE RIGHTS OF A SESSION.**

  The worker of one socket serves its queue with the session state the
  socket holds.  Requests alternate with expiries of that state's S3
  timer; a teardown only cuts the sequence.

    • `RightsRevoked` — after each executed reset, a request is served with
      the rights earned since, and no others,
    • `rights_revoked_iff` — this holds exactly if no request follows a
      reset that dropped the table entry of a state that was not tidy.
-/
import DoipPlayground.VirtualEcu.Services

namespace DoipPlayground.VirtualEcu

open Wire

/-! ## §1. The worker of one socket. -/

/-- `resolve_uds` up to the outcome of the dispatcher: every request
restarts the S3 timer first. -/
def serve (cfg : EcuConfig) (request : UdsRequest) (st : StateId) (c : EcuCore) :
    EcuCore × Result :=
  dispatch cfg request st (c.setState st ((c.states st).refreshS3 cfg))

/-- What happens to the state a socket holds. -/
inductive WorkEvent where
  | request (r : UdsRequest)
  | s3Expiry
  deriving DecidableEq, Repr

def workStep (cfg : EcuConfig) (st : StateId) (c : EcuCore) : WorkEvent → Option EcuCore
  | .request r => some (serve cfg r st c).1
  | .s3Expiry => if (c.states st).s3Armed then some (c.s3Expiry cfg st) else none

/-! ## §2. Rights. -/

/-- What the session and security gates read. -/
structure Rights where
  sessionType : Int
  securityLevel : Nat
  seedPending : Option Nat
  deriving DecidableEq, Repr

def SessionState.rights (s : SessionState) : Rights :=
  ⟨s.sessionType, s.securityLevel, s.seedPending⟩

/-- Default session, locked, no seed. -/
def Rights.none (cfg : EcuConfig) : Rights := ⟨cfg.uds.defaultSession, 0, .none⟩

/-- A state that has these rights. -/
def Rights.state (R : Rights) : SessionState :=
  { sessionType := R.sessionType, securityLevel := R.securityLevel, seedPending := R.seedPending }

/-- The rights after one more request that is no executed reset: what its
service makes of them. -/
def Rights.after (cfg : EcuConfig) (R : Rights) (r : UdsRequest) : Rights :=
  match coreService cfg r.sid with
  | some service => (service cfg r R.state ⟨fun _ => .none, fun _ => .none⟩).1.rights
  | .none => R

/-- Each request is served with the rights `earned` since the last executed
reset; `none` before the first one. -/
def RightsRevoked (cfg : EcuConfig) (st : StateId) :
    EcuCore → Option Rights → List WorkEvent → Prop
  | _, _, [] => True
  | c, earned, e :: es =>
      match e, workStep cfg st c e with
      | .request r, some c' =>
          (earned = none ∨ earned = some (c.states st).rights)
            ∧ RightsRevoked cfg st c'
                (if r.IsSupportedReset then some (Rights.none cfg)
                  else earned.map (fun R => R.after cfg r)) es
      | .s3Expiry, some c' =>
          RightsRevoked cfg st c' (earned.map (fun _ => Rights.none cfg)) es
      | _, none => True

/-- No request directly follows an executed reset that closes the
connection while the state was not tidy. -/
def ResetsFinal (cfg : EcuConfig) (st : StateId) : EcuCore → List WorkEvent → Prop
  | _, [] => True
  | c, e :: es =>
      match e, workStep cfg st c e with
      | .request r, some c' =>
          (r.IsSupportedReset → cfg.uds.resetDropsConnection = true →
              ¬ (c.states st).Tidy cfg → ∀ q, es.head? ≠ some (.request q))
            ∧ ResetsFinal cfg st c' es
      | .s3Expiry, some c' => ResetsFinal cfg st c' es
      | _, none => True

/-! ## §3. How one event moves the rights. -/

variable {cfg : EcuConfig} {st : StateId}

@[simp] theorem refreshS3_rights (s : SessionState) : (s.refreshS3 cfg).rights = s.rights := by
  unfold SessionState.refreshS3
  split
  · rfl
  · split <;> rfl

theorem tidy_iff_rights (s : SessionState) : s.Tidy cfg ↔ s.rights = Rights.none cfg := by
  unfold SessionState.Tidy SessionState.rights Rights.none
  rw [Rights.mk.injEq]

theorem enterSession_rights (s : SessionState) (sub : Int) :
    (s.enterSession cfg sub).rights = ⟨sub, 0, none⟩ := by
  unfold SessionState.enterSession
  rw [refreshS3_rights]
  rfl

/-- The rights a service leaves depend on nothing but the rights it finds. -/
theorem coreService_rights {sid : UInt8} {service : Service}
    (h : coreService cfg sid = some service) (r : UdsRequest) {s s' : SessionState}
    (hs : s.rights = s'.rights) (d d' : EcuData) :
    (service cfg r s d).1.rights = (service cfg r s' d').1.rights := by
  have hparts : s.sessionType = s'.sessionType ∧ s.securityLevel = s'.securityLevel
      ∧ s.seedPending = s'.seedPending := by
    unfold SessionState.rights at hs
    rwa [Rights.mk.injEq] at hs
  -- the two states run through the same branches: no service looks at more than the rights
  cases coreService_cases h with
  | diagnosticSessionControl =>
      unfold diagnosticSessionControl
      dsimp only
      split
      · exact hs
      split
      · exact hs
      · rw [enterSession_rights, enterSession_rights]
  | testerPresent =>
      unfold testerPresent
      split
      · exact hs
      split
      · exact hs
      · rw [refreshS3_rights, refreshS3_rights]
        exact hs
  | securityAccess =>
      unfold securityAccess
      dsimp only
      split
      · exact hs
      split
      · exact hs
      split
      · unfold requestSeed
        dsimp only
        rw [hparts.2.1]
        split
        · exact hs
        split
        · exact hs
        · unfold SessionState.rights
          dsimp only
          rw [hparts.1]
      · unfold sendKey
        dsimp only
        rw [hparts.2.2]
        split
        · exact hs
        split
        · exact hs
        split
        · -- a wrong key: the count of attempts picks the code, not the rights
          unfold SessionState.rights
          split <;> split <;> simp [hparts.1, hparts.2.1]
        · unfold SessionState.rights
          dsimp only
          rw [hparts.1]
  | readDataByIdentifier =>
      rw [readDataByIdentifier_state, readDataByIdentifier_state]
      exact hs
  | writeDataByIdentifier =>
      rw [writeDataByIdentifier_state, writeDataByIdentifier_state]
      exact hs
  | routineControl =>
      rw [routineControl_state, routineControl_state]
      exact hs

/-- Forgetting an entry moves no rights. -/
theorem dropSessionState_rights (c : EcuCore) (sa : SA) (st : StateId) :
    ((c.dropSessionState sa).states st).rights = (c.states st).rights := by
  unfold EcuCore.dropSessionState
  split
  · rename_i st' _
    by_cases h : st = st'
    · subst h
      simp [SessionState.cancelS3, SessionState.rights]
    · simp [EcuCore.setState, h]
  · rfl

theorem s3Expiry_rights (c : EcuCore) (st : StateId) :
    ((c.s3Expiry cfg st).states st).rights = Rights.none cfg := by
  unfold EcuCore.s3Expiry EcuCore.maybeDropSessionState
  split
  · simp [SessionState.cancelS3, SessionState.reset, SessionState.rights, Rights.none]
  · simp [SessionState.cancelS3, SessionState.reset, SessionState.rights, Rights.none]

/-- A request that is no executed reset moves the rights as its service says. -/
theorem serve_rights {r : UdsRequest} (hr : ¬ r.IsSupportedReset) (c : EcuCore) :
    ((serve cfg r st c).1.states st).rights = ((c.states st).rights).after cfg r := by
  have hrefresh : ((c.setState st ((c.states st).refreshS3 cfg)).states st).rights
      = (c.states st).rights := by simp
  unfold serve Rights.after dispatch
  split
  · rename_i hsid
    have hnone : coreService cfg r.sid = none := by
      rw [hsid]
      rfl
    rw [hnone, ecuReset_refused hsid hr]
    exact hrefresh
  · cases hservice : coreService cfg r.sid with
    | none => exact hrefresh
    | some service =>
        dsimp only
        rw [EcuCore.setState_states, if_pos rfl]
        exact coreService_rights hservice r
          (show _ = (c.states st).rights.state.rights from hrefresh) _ _

/-- An executed reset in place takes all rights. -/
theorem serve_reset_rights {r : UdsRequest} (hr : r.IsSupportedReset)
    (hdrop : cfg.uds.resetDropsConnection = false) (c : EcuCore) :
    ((serve cfg r st c).1.states st).rights = Rights.none cfg := by
  unfold serve dispatch
  rw [if_pos hr.1, ecuReset_executed hr, hdrop]
  simp [SessionState.reset, SessionState.cancelS3, SessionState.rights, Rights.none]

/-- An executed reset that closes the connection leaves the rights of the
state the socket holds as they are. -/
theorem serve_drop_rights {r : UdsRequest} (hr : r.IsSupportedReset)
    (hdrop : cfg.uds.resetDropsConnection = true) (c : EcuCore) :
    ((serve cfg r st c).1.states st).rights = (c.states st).rights := by
  unfold serve dispatch
  rw [if_pos hr.1, ecuReset_executed hr, if_pos hdrop]
  show (((c.setState st _).dropSessionState r.sourceAddr).states st).rights = _
  rw [dropSessionState_rights]
  simp

/-! ## §4. The exact condition. -/

/-- If resets are final and the rights earned so far are the actual ones,
every later request is served with the rights earned. -/
theorem rights_revoked_of_final (es : List WorkEvent) :
    ∀ (c : EcuCore) (earned : Option Rights),
      (earned = none ∨ earned = some (c.states st).rights
        ∨ (∀ q, es.head? ≠ some (.request q)) ∧ earned = some (Rights.none cfg)) →
      ResetsFinal cfg st c es → RightsRevoked cfg st c earned es := by
  induction es with
  | nil => intro c earned _ _; trivial
  | cons e es ih =>
      intro c earned hearned hfinal
      cases e with
      | request r =>
          have hearned : earned = none ∨ earned = some (c.states st).rights := by
            rcases hearned with h | h | ⟨h, _⟩
            · exact .inl h
            · exact .inr h
            · exact absurd rfl (h r)
          obtain ⟨hsafe, hfinal⟩ := hfinal
          refine ⟨hearned, ih _ _ ?_ hfinal⟩
          by_cases hr : r.IsSupportedReset
          · rw [if_pos hr]
            by_cases hdrop : cfg.uds.resetDropsConnection = true
            · by_cases htidy : (c.states st).Tidy cfg
              · right; left
                rw [serve_drop_rights hr hdrop, (tidy_iff_rights _).mp htidy]
              · exact .inr (.inr ⟨hsafe hr hdrop htidy, rfl⟩)
            · rw [Bool.not_eq_true] at hdrop
              right; left
              rw [serve_reset_rights hr hdrop]
          · rw [if_neg hr]
            rcases hearned with rfl | rfl
            · exact .inl rfl
            · right; left
              rw [serve_rights hr]
              rfl
      | s3Expiry =>
          unfold ResetsFinal at hfinal
          unfold RightsRevoked
          cases hstep : workStep cfg st c .s3Expiry with
          | none => trivial
          | some c' =>
              rw [hstep] at hfinal
              dsimp only at hfinal ⊢
              refine ih c' _ ?_ hfinal
              -- the timer took all rights, whatever they were
              have hrights : (c'.states st).rights = Rights.none cfg := by
                unfold workStep at hstep
                rw [Option.ite_none_right_eq_some, Option.some.injEq] at hstep
                rw [← hstep.2, s3Expiry_rights]
              rw [hrights]
              cases earned with
              | none => exact .inl rfl
              | some R => exact .inr (.inl rfl)

/-- A request served after a reset shows whether the rights were gone. -/
theorem final_of_rights_revoked (es : List WorkEvent) :
    ∀ (c : EcuCore) (earned : Option Rights),
      RightsRevoked cfg st c earned es → ResetsFinal cfg st c es := by
  induction es with
  | nil => intro c earned _; trivial
  | cons e es ih =>
      intro c earned h
      cases e with
      | request r =>
          obtain ⟨_, hrest⟩ := h
          refine ⟨?_, ih _ _ hrest⟩
          intro hr hdrop htidy q hq
          rw [if_pos hr] at hrest
          cases es with
          | nil => cases hq
          | cons e' es' =>
              rw [List.head?_cons, Option.some.injEq] at hq
              subst hq
              obtain ⟨hnow, _⟩ := hrest
              rw [serve_drop_rights hr hdrop] at hnow
              refine htidy ((tidy_iff_rights _).mpr ?_)
              have hnone : Rights.none cfg = (c.states st).rights := by simpa using hnow
              exact hnone.symm
      | s3Expiry =>
          unfold RightsRevoked at h
          unfold ResetsFinal
          cases hstep : workStep cfg st c .s3Expiry with
          | none => trivial
          | some c' =>
              rw [hstep] at h
              exact ih c' _ h

/-- **Revocation, exactly**: every request behind an executed reset is
served with the rights earned since, if and only if none directly follows
a reset that closed the connection while the state was not tidy. -/
theorem rights_revoked_iff (cfg : EcuConfig) (st : StateId) (c : EcuCore) (es : List WorkEvent) :
    RightsRevoked cfg st c none es ↔ ResetsFinal cfg st c es :=
  ⟨final_of_rights_revoked es c none, rights_revoked_of_final es c none (.inl rfl)⟩

/-- A reset that closes the connection, with a write pipelined behind it. -/
def pipelinedWrite : List WorkEvent :=
  let request (raw : Bytes) : WorkEvent := .request ⟨raw, 0x0E00, 0x0003, false⟩
  [request [0x27, 0x01], request [0x27, 0x02, 0xB4, 0x87, 0x96, 0xE1], request [0x11, 0x01],
   request [0x2E, 0xF1, 0x90, 0x41]]

/-- The write behind the reset is served at security level 1, with the state
a new ECU has handed out to the tester. -/
theorem pipelined_write_keeps_rights :
    ¬ ∀ (cfg : EcuConfig) (testerAddr : SA) (es : List WorkEvent),
      let (c, st) := (EcuCore.init cfg).sessionFor cfg testerAddr
      RightsRevoked cfg st c none es := by
  intro hall
  let cfg : EcuConfig := { uds := { resetDropsConnection := true } }
  obtain ⟨_, _, _, hwrite, _⟩ := hall cfg 0x0E00 pipelinedWrite
  revert hwrite
  decide

/-- Without `reset_drops_connection` every sequence is fine. -/
theorem rights_revoked_in_place (cfg : EcuConfig) (hdrop : cfg.uds.resetDropsConnection = false)
    (st : StateId) (c : EcuCore) (es : List WorkEvent) : RightsRevoked cfg st c none es := by
  refine rights_revoked_of_final es c none (.inl rfl) ?_
  induction es generalizing c with
  | nil => trivial
  | cons e es ih =>
      unfold ResetsFinal
      cases hstep : workStep cfg st c e with
      | none => cases e <;> trivial
      | some c' =>
          cases e with
          | request r => exact ⟨fun _ hd => absurd hd (by simp [hdrop]), ih c'⟩
          | s3Expiry => exact ih c'

end DoipPlayground.VirtualEcu
