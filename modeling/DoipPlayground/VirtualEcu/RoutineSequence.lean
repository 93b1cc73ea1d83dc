/-
  DoipPlayground.VirtualEcu.RoutineSequence
  ─────────────────────────────────────────
  **WHICH ROUTINES RUN** (`services/routine.py`, `EcuCore.reset`).

  All testers share one table of started routines.  Only RoutineControl and
  ECUReset touch it, so what it says about a routine can be read off the
  requests that were dispatched and their outcomes.

    • `RoutineEffect` — all that a dispatch does to the table,
    • `WasStarted` — the same, told from the record of the exchanges,
    • `routine_sequencing` — stops and results, along every run.
-/
import DoipPlayground.VirtualEcu.DidIntegrity

namespace DoipPlayground.VirtualEcu

open Wire

variable {cfg : EcuConfig}

/-! ## §1. Requests about one routine. -/

/-- `31 <control> <rid>` with anything behind it; bit 7 of the control only
asks for no response. -/
structure UdsRequest.Controls (r : UdsRequest) (control rid : Nat) : Prop where
  sid : r.sid = sidRoutineControl
  length : 4 ≤ r.raw.length
  control : r.subFunction = some control
  routine : fromBytes ((r.raw.drop 2).take 2) = rid

/-- The gates of the YAML entry let the request pass. -/
structure RoutinePermitted (spec : RoutineSpec) (s : SessionState) : Prop where
  sessions : ∀ sessions, spec.sessions = some sessions → s.sessionType ∈ sessions
  security : spec.security ≤ s.securityLevel

/-- The canned record for a control. -/
def RoutineSpec.record (spec : RoutineSpec) (control : Nat) : Bytes :=
  if control = 0x01 then spec.start else if control = 0x02 then spec.stop else spec.results

/-- A positive response, sent or kept back because the request asked for it. -/
def Result.Positive : Result → Prop
  | .bytes _ | .abort _ => True
  | .noResponse | .negative _ _ | .suppress | .error => False

/-- A request with the outcome of its dispatch. -/
structure Exchange where
  request : UdsRequest
  result : Result
  deriving DecidableEq, Repr

namespace Exchange

def Starts (x : Exchange) (rid : Nat) : Prop := x.request.Controls 0x01 rid ∧ x.result.Positive

def Stops (x : Exchange) (rid : Nat) : Prop := x.request.Controls 0x02 rid ∧ x.result.Positive

def Resets (x : Exchange) : Prop := x.request.sid = sidEcuReset ∧ x.result.Positive

end Exchange

/-- The last start or stop of `rid` that was answered positively, after the
last reset that was, is a start. -/
def WasStarted (rid : Nat) (log : List Exchange) : Prop :=
  ∃ before x after, log = before ++ x :: after ∧ x.Starts rid
    ∧ ∀ y ∈ after, ¬ y.Stops rid ∧ ¬ y.Resets

theorem not_wasStarted_nil (rid : Nat) : ¬ WasStarted rid [] := by
  intro h
  obtain ⟨before, x, after, hsplit, _⟩ := h
  exact absurd hsplit.symm (by simp)

/-- One more exchange. -/
theorem wasStarted_snoc {rid : Nat} {log : List Exchange} {x : Exchange} :
    WasStarted rid (log ++ [x]) ↔
      x.Starts rid ∨ (¬ x.Stops rid ∧ ¬ x.Resets) ∧ WasStarted rid log := by
  constructor
  · intro h
    obtain ⟨before, y, after, hsplit, hstart, hafter⟩ := h
    rcases List.eq_nil_or_concat after with rfl | ⟨after, z, rfl⟩
    · obtain ⟨_, hy⟩ := List.append_inj' hsplit rfl
      cases hy
      exact Or.inl hstart
    · rw [List.concat_eq_append] at hsplit hafter
      rw [← List.cons_append, ← List.append_assoc] at hsplit
      obtain ⟨hlog, hz⟩ := List.append_inj' hsplit rfl
      cases hz
      refine Or.inr ⟨hafter x (by simp), before, y, after, hlog, hstart, ?_⟩
      intro w hw
      exact hafter w (List.mem_append_left _ hw)
  · intro h
    rcases h with hstart | ⟨hx, before, y, after, rfl, hstart, hafter⟩
    · exact ⟨log, x, [], rfl, hstart, fun _ hnone => absurd hnone List.not_mem_nil⟩
    · refine ⟨before, y, after ++ [x], by simp, hstart, ?_⟩
      intro w hw
      rcases List.mem_append.mp hw with hw | hw
      · exact hafter w hw
      · rw [List.mem_singleton.mp hw]
        exact hx

/-- An exchange that is about something else. -/
theorem wasStarted_snoc_other {rid : Nat} {log : List Exchange} {x : Exchange}
    (hstart : ¬ x.Starts rid) (hstop : ¬ x.Stops rid) (hreset : ¬ x.Resets) :
    WasStarted rid (log ++ [x]) ↔ WasStarted rid log := by
  rw [wasStarted_snoc]
  constructor
  · intro h
    exact (h.resolve_left hstart).2
  · intro h
    exact Or.inr ⟨⟨hstop, hreset⟩, h⟩

/-! ## §2. What a dispatch does to the table. -/

/-- `data["routines"]` -/
abbrev Routines := Nat → Option Bool

/-- The table after a dispatch, with its outcome. -/
inductive RoutineEffect (r : UdsRequest) (routines : Routines) : Routines → Result → Prop
  /-- Neither a reset nor RoutineControl was answered positively. -/
  | kept (result : Result)
      (h : r.sid = sidEcuReset ∨ r.sid = sidRoutineControl → ¬ result.Positive) :
      RoutineEffect r routines routines result
  | reset (result : Result) (hsid : r.sid = sidEcuReset) (hok : result.Positive) :
      RoutineEffect r routines (fun _ => none) result
  | started (rid : Nat) (hr : r.Controls 0x01 rid) (response : Bytes) :
      RoutineEffect r routines (Function.update routines rid (some true)) (.bytes response)
  | stopped (rid : Nat) (hr : r.Controls 0x02 rid) (response : Bytes) :
      RoutineEffect r routines (Function.update routines rid (some false)) (.bytes response)
  | queried (rid : Nat) (hr : r.Controls 0x03 rid) (response : Bytes) :
      RoutineEffect r routines routines (.bytes response)

theorem nrc_not_positive (r : UdsRequest) (code : UInt8) : ¬ (r.nrc code).Positive := id

/-- No other service touches the table. -/
theorem coreService_routines {sid : UInt8} {service : Service}
    (h : coreService cfg sid = some service) (hsid : sid ≠ sidRoutineControl) (r : UdsRequest)
    (s : SessionState) (d : EcuData) : (service cfg r s d).2.1.routines = d.routines := by
  by_cases hwrite : sid = sidWriteDataByIdentifier
  · rw [hwrite] at h
    cases h
    exact writeDataByIdentifier_routines r s d
  · rw [coreService_data h hwrite hsid]

theorem routineControl_effect {r : UdsRequest} (hsid : r.sid = sidRoutineControl)
    (s : SessionState) (d : EcuData) :
    RoutineEffect r d.routines (routineControl cfg r s d).2.1.routines
      (routineControl cfg r s d).2.2 := by
  unfold routineControl
  dsimp only
  split
  · exact .kept _ (fun _ => nrc_not_positive r _)
  rename_i hlen
  split
  · exact .kept _ (fun _ => nrc_not_positive r _)
  rename_i hcontrol
  split
  · exact .kept _ (fun _ => nrc_not_positive r _)
  split
  · rename_i refusal hgates
    obtain ⟨nrc, rfl⟩ := checkGates_refusal hgates
    exact .kept _ (fun _ => nrc_not_positive r nrc)
  split
  · exact .kept _ (fun _ => nrc_not_positive r _)
  split
  · exact .kept _ (fun _ => nrc_not_positive r _)
  -- what is left is answered positively, and tracked
  have hsub : r.subFunction = some (r.subFunction.getD 0) :=
    UdsRequest.subFunction_eq (by rw [hsid]; rfl) (by omega)
  generalize r.subFunction.getD 0 = control at hsub hcontrol ⊢
  have hr : r.Controls control (fromBytes ((r.raw.drop 2).take 2)) :=
    ⟨hsid, by omega, hsub, rfl⟩
  have hcases : control = 0x01 ∨ control = 0x02 ∨ control = 0x03 := by omega
  rcases hcases with rfl | rfl | rfl
  · exact .started _ hr _
  · exact .stopped _ hr _
  · exact .queried _ hr _

/-- An executed reset is answered positively, a refused one is not. -/
theorem ecuReset_positive {r : UdsRequest} (hsid : r.sid = sidEcuReset) (st : StateId)
    (c : EcuCore) : (ecuReset cfg r st c).2.Positive ↔ r.IsSupportedReset := by
  constructor
  · intro hok
    by_contra hr
    obtain ⟨nrc, heq⟩ : ∃ nrc, ecuReset cfg r st c = (c, r.nrc nrc) :=
      ecuReset_refusal hsid hr st c
    rw [heq] at hok
    exact nrc_not_positive r nrc hok
  · intro hr
    have hlen : r.raw.length = 2 := hr.2.1
    unfold ecuReset
    dsimp only
    rw [if_neg (by omega), if_neg hr.sub]
    split
    · trivial
    · trivial

/-- **All that a dispatch does to the table.** -/
theorem dispatch_routines (cfg : EcuConfig) (r : UdsRequest) (st : StateId) (c : EcuCore) :
    RoutineEffect r c.data.routines (dispatch cfg r st c).1.data.routines
      (dispatch cfg r st c).2 := by
  unfold dispatch
  split
  · rename_i hsid
    by_cases hr : r.IsSupportedReset
    · rw [ecuReset_data hr]
      exact .reset _ hsid ((ecuReset_positive hsid st c).mpr hr)
    · rw [ecuReset_refused hsid hr]
      exact .kept _ (fun _ hok => hr ((ecuReset_positive hsid st c).mp hok))
  rename_i hreset
  split
  · rename_i hnone
    refine .kept _ ?_
    intro hsid
    rcases hsid with hsid | hsid
    · exact absurd hsid hreset
    · rw [hsid] at hnone
      cases hnone
  · rename_i service hservice
    by_cases hsid : r.sid = sidRoutineControl
    · rw [hsid] at hservice
      cases hservice
      exact routineControl_effect hsid (c.states st) c.data
    · have hkept := coreService_routines hservice hsid r (c.states st) c.data
      show RoutineEffect r _ (service cfg r (c.states st) c.data).2.1.routines _
      rw [hkept]
      exact .kept _ (fun h => absurd h (not_or.mpr ⟨hreset, hsid⟩))

/-! ## §3. The table and the record. -/

/-- The table says what the record says. -/
def Agrees (routines : Routines) (log : List Exchange) : Prop :=
  ∀ rid, (routines rid).getD false = true ↔ WasStarted rid log

/-- A request controls one routine, in one way. -/
theorem UdsRequest.Controls.other {r : UdsRequest} {control control' rid rid' : Nat}
    (h : r.Controls control rid) (hne : control' ≠ control ∨ rid' ≠ rid) :
    ¬ r.Controls control' rid' := by
  intro h'
  rcases hne with hne | hne
  · exact hne (Option.some.inj (h'.control.symm.trans h.control))
  · exact hne (h'.routine.symm.trans h.routine)

theorem UdsRequest.Controls.not_reset {r : UdsRequest} {control rid : Nat}
    (h : r.Controls control rid) (result : Result) : ¬ (Exchange.mk r result).Resets := by
  intro hreset
  have hsid := h.sid.symm.trans hreset.1
  exact absurd hsid (by decide)

/-- One more dispatch, on both sides. -/
theorem Agrees.snoc {routines routines' : Routines} {log : List Exchange} {r : UdsRequest}
    {result : Result} (h : Agrees routines log)
    (heffect : RoutineEffect r routines routines' result) :
    Agrees routines' (log ++ [⟨r, result⟩]) := by
  intro rid
  cases heffect with
  | kept _ hkept =>
      rw [h rid, wasStarted_snoc_other]
      · exact fun hstart => hkept (Or.inr hstart.1.sid) hstart.2
      · exact fun hstop => hkept (Or.inr hstop.1.sid) hstop.2
      · exact fun hreset => hkept (Or.inl hreset.1) hreset.2
  | reset _ hsid hok =>
      rw [wasStarted_snoc]
      refine iff_of_false Bool.false_ne_true ?_
      intro hstarted
      rcases hstarted with hstart | hstarted
      · exact hstart.1.not_reset result ⟨hsid, hok⟩
      · exact hstarted.1.2 ⟨hsid, hok⟩
  | started rid' hr response =>
      by_cases hrid : rid = rid'
      · subst hrid
        rw [Function.update_self, wasStarted_snoc]
        exact iff_of_true rfl (Or.inl ⟨hr, trivial⟩)
      · rw [Function.update_of_ne hrid, h rid, wasStarted_snoc_other _ _ (hr.not_reset _)]
        · exact fun hstart => hr.other (Or.inr hrid) hstart.1
        · exact fun hstop => hr.other (Or.inr hrid) hstop.1
  | stopped rid' hr response =>
      by_cases hrid : rid = rid'
      · subst hrid
        rw [Function.update_self, wasStarted_snoc]
        refine iff_of_false Bool.false_ne_true ?_
        intro hstarted
        rcases hstarted with hstart | hstarted
        · exact hr.other (Or.inl (by decide)) hstart.1
        · exact hstarted.1.1 ⟨hr, trivial⟩
      · rw [Function.update_of_ne hrid, h rid, wasStarted_snoc_other _ _ (hr.not_reset _)]
        · exact fun hstart => hr.other (Or.inr hrid) hstart.1
        · exact fun hstop => hr.other (Or.inr hrid) hstop.1
  | queried rid' hr response =>
      rw [h rid, wasStarted_snoc_other _ _ (hr.not_reset _)]
      · exact fun hstart => hr.other (Or.inl (by decide)) hstart.1
      · exact fun hstop => hr.other (Or.inl (by decide)) hstop.1

/-! ## §4. Runs. -/

/-- The request an event dispatches, and for which session state. -/
def dispatched? (w : World) (e : Event) : Option (UdsRequest × StateId) :=
  match e with
  | .dispatch i =>
      (w.sessions i).worker.request?.bind fun r =>
        (w.sessions i).worker.state?.map fun st => (r, st)
  | _ => none

/-- Every dispatch enters the record with its outcome. -/
def recordExchange (cfg : EcuConfig) (w : World) (e : Event) (_ : World) (log : List Exchange) :
    List Exchange :=
  match dispatched? w e with
  | some (r, st) => log ++ [⟨r, (dispatch cfg r st w.core).2⟩]
  | none => log

/-- The system with the record of its exchanges. -/
abbrev recorded (cfg : EcuConfig) := Transition.logged (step cfg) (recordExchange cfg)

variable {w w' : World} {e : Event} {r : UdsRequest} {st : StateId} {log : List Exchange}

theorem dispatched?_eq_some : dispatched? w e = some (r, st) ↔ Dispatches w e r st := by
  unfold dispatched? Dispatches
  split
  · rename_i i
    rw [Option.bind_eq_some_iff]
    constructor
    · intro h
      obtain ⟨r', hr, h⟩ := h
      obtain ⟨st', hst, heq⟩ := Option.map_eq_some_iff.mp h
      cases heq
      exact ⟨i, rfl, hr, hst⟩
    · intro h
      obtain ⟨j, hj, hr, hst⟩ := h
      cases hj
      exact ⟨r, hr, by rw [hst]; rfl⟩
  · rename_i hother
    constructor
    · intro h
      cases h
    · intro h
      obtain ⟨i, rfl, _⟩ := h
      exact absurd rfl (hother i)

theorem agrees_run (es : List Event)
    (h : Transition.exec (recorded cfg) (World.init cfg, []) es = some (w, log)) :
    Agrees w.core.data.routines log := by
  refine (Transition.exec_invariant (fun s : World × List Exchange =>
    Shape s.1 ∧ Agrees s.1.core.data.routines s.2) ?_ es _ (w, log) ⟨shape_init cfg, ?_⟩ h).2
  · intro s e s' hs hstep
    obtain ⟨w, log⟩ := s
    obtain ⟨w', log'⟩ := s'
    obtain ⟨hw, hagrees⟩ := hs
    obtain ⟨hworld, rfl⟩ := Transition.logged_eq_some.mp hstep
    refine ⟨hw.step hworld, ?_⟩
    show Agrees w'.core.data.routines (recordExchange cfg w e w' log)
    unfold recordExchange
    cases hd : dispatched? w e with
    | none =>
        rcases step_data hw hworld with hdata | ⟨r, st, hdispatches⟩
        · rw [hdata]
          exact hagrees
        · rw [dispatched?_eq_some.mpr hdispatches] at hd
          cases hd
    | some request =>
        obtain ⟨r, st⟩ := request
        rw [dispatches_core (dispatched?_eq_some.mp hd) hworld]
        exact hagrees.snoc (dispatch_routines cfg r st w.core)
  · intro rid
    exact iff_of_false Bool.false_ne_true (not_wasStarted_nil rid)

/-! ## §5. Stops and results. -/

/-- The dispatch of a request for a routine of the table, past its gates. -/
theorem dispatch_controls {c : EcuCore} {control rid : Nat} {spec : RoutineSpec}
    (hr : r.Controls control rid) (hcontrol : control = 0x02 ∨ control = 0x03)
    (hspec : cfg.routines rid = some spec) (hpermitted : RoutinePermitted spec (c.states st)) :
    (dispatch cfg r st c).2 =
      if (c.data.routines rid).getD false
      then .bytes (0x71 :: UInt8.ofNat control :: (packH rid ++ spec.record control))
      else r.nrc (if control = 0x02 then nrcRequestSequenceError else nrcConditionsNotCorrect) := by
  have hservice : coreService cfg r.sid = some routineControl := by
    rw [hr.sid]
    rfl
  have hgates : checkGates r (c.states st) spec.sessions spec.security = none :=
    checkGates_permitted hpermitted.sessions hpermitted.security
  have hsupported : ¬ (control ≠ 0x01 ∧ control ≠ 0x02 ∧ control ≠ 0x03) := by omega
  have hlength : ¬ r.raw.length < 4 := Nat.not_lt.mpr hr.length
  unfold dispatch
  rw [if_neg (by rw [hr.sid]; decide), hservice]
  dsimp only
  unfold routineControl
  dsimp only
  rw [if_neg hlength, hr.control, Option.getD_some, if_neg hsupported, hr.routine, hspec]
  dsimp only
  rw [hgates]
  dsimp only
  unfold UdsRequest.positive RoutineSpec.record
  rw [hr.sid]
  cases (c.data.routines rid).getD false <;> rcases hcontrol with rfl | rfl <;> rfl

/-- A request with this control for a routine of the YAML table, past its
gates, is answered with its record if the routine was started, and with `nrc`
if not. -/
def Sequenced (cfg : EcuConfig) (control : Nat) (nrc : UInt8) : Prop :=
  ∀ (es : List Event) (w : World) (log : List Exchange) (e : Event) (r : UdsRequest)
    (st : StateId) (rid : Nat) (spec : RoutineSpec),
    Transition.exec (recorded cfg) (World.init cfg, []) es = some (w, log) →
    Dispatches w e r st → r.Controls control rid → cfg.routines rid = some spec →
    RoutinePermitted spec (w.core.states st) →
    ((dispatch cfg r st w.core).2.Positive ↔ WasStarted rid log)
      ∧ (WasStarted rid log → (dispatch cfg r st w.core).2 =
          .bytes (0x71 :: UInt8.ofNat control :: (packH rid ++ spec.record control)))
      ∧ (¬ WasStarted rid log → answer cfg w r st = some [0x7F, 0x31, nrc])

theorem sequenced {control : Nat} {nrc : UInt8}
    (hcontrol : control = 0x02 ∧ nrc = nrcRequestSequenceError
      ∨ control = 0x03 ∧ nrc = nrcConditionsNotCorrect) : Sequenced cfg control nrc := by
  intro es w log e r st rid spec hrun hd hr hspec hpermitted
  have hsub : control = 0x02 ∨ control = 0x03 := by omega
  have hcode : (if control = 0x02 then nrcRequestSequenceError else nrcConditionsNotCorrect)
      = nrc := by
    rcases hcontrol with ⟨rfl, rfl⟩ | ⟨rfl, rfl⟩ <;> rfl
  -- neither code is left out for a functional request
  have hsent : functionalSuppressedNrcs.contains nrc = false := by
    rcases hcontrol with ⟨_, rfl⟩ | ⟨_, rfl⟩ <;> rfl
  have hresult := dispatch_controls hr hsub hspec hpermitted
  have hagrees := agrees_run es hrun rid
  by_cases hstarted : (w.core.data.routines rid).getD false = true
  · rw [if_pos hstarted] at hresult
    have hlog := hagrees.mp hstarted
    rw [hresult]
    exact ⟨iff_of_true trivial hlog, fun _ => rfl, fun hno => absurd hlog hno⟩
  · rw [if_neg hstarted] at hresult
    have hlog := mt hagrees.mpr hstarted
    unfold answer
    rw [hresult]
    refine ⟨iff_of_false (nrc_not_positive r _) hlog, fun h => absurd h hlog, fun _ => ?_⟩
    unfold resolveUds UdsRequest.nrc
    dsimp only
    rw [hcode, hsent, Bool.and_false, if_neg Bool.false_ne_true, hr.sid]
    rfl

/-- How routines are sequenced along every run. -/
structure RoutineSequencing (cfg : EcuConfig) : Prop where
  stop : Sequenced cfg 0x02 nrcRequestSequenceError
  results : Sequenced cfg 0x03 nrcConditionsNotCorrect
  /-- A routine request that is refused leaves the table alone. -/
  refused : ∀ (w : World) (e : Event) (w' : World) (r : UdsRequest) (st : StateId),
    Dispatches w e r st → r.sid = sidRoutineControl →
    ¬ (dispatch cfg r st w.core).2.Positive → step cfg w e = some w' →
    w'.core.data.routines = w.core.data.routines

/-- **Routines are sequenced** by the starts, stops and resets of all testers,
for every config. -/
theorem routine_sequencing (cfg : EcuConfig) : RoutineSequencing cfg where
  stop := sequenced (Or.inl ⟨rfl, rfl⟩)
  results := sequenced (Or.inr ⟨rfl, rfl⟩)
  refused w e w' r st hd hsid hrefused hstep := by
    rw [dispatches_core hd hstep]
    have heffect := dispatch_routines cfg r st w.core
    generalize (dispatch cfg r st w.core).1.data.routines = routines' at heffect ⊢
    generalize (dispatch cfg r st w.core).2 = result at heffect hrefused
    cases heffect with
    | kept => rfl
    | reset _ _ hok => exact absurd hok hrefused
    | started => exact absurd trivial hrefused
    | stopped => exact absurd trivial hrefused
    | queried => rfl

end DoipPlayground.VirtualEcu
