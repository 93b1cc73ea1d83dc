/-
  DoipPlayground.Interop.Handshake
  ────────────────────────────────
  **BOTH ENDS OF A ROUTING ACTIVATION AGREE.**

  The EdgeNode opens a connection to the VirtualEcu and asks it to activate
  the tester.  Whatever goes on at its other sockets, the VirtualEcu writes
  nothing on the new one before it has decided, and decides once.

    • `Asked` — the three situations of a socket that was asked,
    • `Asked.step` — no step leads out of them,
    • `Asked.activates_iff` — the EdgeNode reads off the bytes which one it is,
    • `Link` — the leg and the ECU, with what is on its way between them,
    • `activation_agreed` — `connect` returns just if the ECU has activated
      the tester.
-/
import DoipPlayground.EdgeNode.Activation
import DoipPlayground.Interop.FrameCompat
import DoipPlayground.VirtualEcu.Pipeline

namespace DoipPlayground.Interop.Handshake

open Wire VirtualEcu

variable {cfg : VirtualEcu.EcuConfig} {w w' : VirtualEcu.World} {i j : VirtualEcu.Sid}
  {s s' : VirtualEcu.Session} {tester : VirtualEcu.SA}

/-! ## §1. A socket that was asked. -/

/-- The Routing Activation Response of the socket. -/
def activationAnswer (cfg : EcuConfig) (tester : SA) (code : UInt8) : Bytes :=
  buildFrame ptRoutingActResponse (World.activationResponse cfg tester code) 0x02

/-- Where the pump may be before it has answered. -/
def Deciding (tester : SA) : Pump → Prop
  | .hooking src _ | .probing src _ => src = tester
  | .sending _ => False
  | _ => True

/-- Where it may be when it has refused. -/
def Leaving : Pump → Prop
  | .sending .close => True
  | pump => pump.Past

/-- What the socket has made of the request. -/
inductive Asked (cfg : EcuConfig) (tester : SA) (s : Session) : Prop where
  | deciding (hwire : s.wire = []) (hfresh : s.activated = false)
      (hversion : s.currentReqVersion = 0x02) (hpump : Deciding tester s.pump)
  | refused (code : UInt8) (hcode : code ≠ 0x10)
      (hwire : s.wire = [activationAnswer cfg tester code]) (hfresh : s.activated = false)
      (hpump : Leaving s.pump)
  | accepted (more : List Bytes) (hwire : s.wire = activationAnswer cfg tester 0x10 :: more)
      (hactivated : s.activated = true) (haddr : s.testerAddr = some tester)

/-! ## §2. What leaves a fresh socket alone. -/

/-- Nothing is written, and the pump stays where it is or leaves its loop. -/
structure Still (s s' : Session) : Prop where
  wire : s'.wire = s.wire
  activated : s'.activated = s.activated
  version : s'.currentReqVersion = s.currentReqVersion
  pump : s'.pump = s.pump ∨ s'.pump.Past

namespace Still

theorem refl (s : Session) : Still s s := ⟨rfl, rfl, rfl, .inl rfl⟩

theorem trans {s'' : Session} (h : Still s s') (h' : Still s' s'') : Still s s'' where
  wire := h'.wire.trans h.wire
  activated := h'.activated.trans h.activated
  version := h'.version.trans h.version
  pump := by
    rcases h'.pump with heq | hpast
    · rw [heq]
      exact h.pump
    · exact .inr hpast

/-- A write to one socket leaves the others alone. -/
theorem set (w : World) (i j : Sid) (s : Session) (h : j = i → Still (w.sessions i) s) :
    Still (w.sessions j) ((w.set i s).sessions j) := by
  rw [World.set_sessions]
  by_cases hj : j = i
  · rw [if_pos hj, hj]
    exact h hj
  · rw [if_neg hj]
    exact refl _

theorem setPump (w : World) (i j : Sid) (pump : Pump) (h : j = i → pump.Past) :
    Still (w.sessions j) ((w.setPump i pump).sessions j) :=
  set w i j _ fun hj => ⟨rfl, rfl, rfl, .inr (h hj)⟩

theorem setWorker (w : World) (i j : Sid) (worker : Worker) :
    Still (w.sessions j) ((w.setWorker i worker).sessions j) :=
  set w i j _ fun _ => ⟨rfl, rfl, rfl, .inl rfl⟩

theorem finalize (w : World) (i j : Sid) : Still (w.sessions j) ((w.finalize i).sessions j) :=
  set w i j _ fun _ => ⟨rfl, rfl, rfl, .inl rfl⟩

theorem releaseState (w : World) (i j : Sid) :
    Still (w.sessions j) ((w.releaseState cfg i).sessions j) :=
  set w i j { w.sessions i with released := true } fun _ => ⟨rfl, rfl, rfl, .inl rfl⟩

theorem evict (w : World) (i j : Sid) (answered : Bool) :
    Still (w.sessions j) ((w.evict cfg i answered).sessions j) := by
  have hcancel : Still (w.sessions j) (((w.finalize i).cancelWorker i).sessions j) :=
    (finalize w i j).trans (setWorker (w.finalize i) i j _)
  have hrelease : Still (((w.finalize i).cancelWorker i).sessions j)
      ((((w.finalize i).cancelWorker i).releaseState cfg i).sessions j) :=
    releaseState ((w.finalize i).cancelWorker i) i j
  exact hcancel.trans hrelease

theorem endProbe (w : World) (i o j : Sid) (p : Probe) (alive : Bool) :
    Still (w.sessions j) ((w.endProbe i o p alive).sessions j) :=
  set w o j _ fun _ => ⟨rfl, rfl, rfl, .inl rfl⟩

theorem leaveLoop (w : World) (i j : Sid) : Still (w.sessions j) ((w.leaveLoop i).sessions j) := by
  have hlast : ∀ u : World, Still (w.sessions j) (u.sessions j) →
      Still (w.sessions j) (((u.finalize i).setPump i .stoppingSupervisor).sessions j) := by
    intro u hu
    exact (hu.trans (finalize u i j)).trans (setPump _ i j _ fun _ => trivial)
  unfold World.leaveLoop
  dsimp only
  split
  · rename_i src existing _
    split
    · rename_i p _
      split
      · exact hlast _ (endProbe w i existing j p false)
      · exact hlast _ (refl _)
    · exact hlast _ (refl _)
  · exact hlast _ (refl _)

/-- What one pump does concerns no other socket. -/
theorem pumped (h : Pumped w i w') (hj : j ≠ i) : Still (w.sessions j) (w'.sessions j) := by
  obtain ⟨wire, version, queue, pump, _, rfl⟩ := h
  exact set w i j _ fun heq => absurd heq hj

theorem occupied {src : SA} (h : Pumped (w.occupy cfg i src) i w') (hj : j ≠ i) :
    Still (w.sessions j) (w'.sessions j) := by
  have hoccupy : Still (w.sessions j) ((w.occupy cfg i src).sessions j) :=
    set w i j _ fun heq => absurd heq hj
  exact hoccupy.trans (pumped h hj)

/-- Only a socket that has an address is probed. -/
theorem startProbe (w : World) {i owner j : Sid} (hj : j ≠ owner) :
    Still (w.sessions j) ((w.startProbe i owner).sessions j) :=
  set w owner j _ fun heq => absurd heq hj

theorem probing (w : World) {i owner j : Sid} {src : SA} (howner : j ≠ owner) (hi : j ≠ i) :
    Still (w.sessions j) (((w.startProbe i owner).setPump i (.probing src owner)).sessions j) :=
  (startProbe w howner).trans (setPump _ i j _ fun heq => absurd heq hi)

theorem asked (h : Still s s') (hs : Asked cfg tester s) (hfresh : s.activated = false) :
    Asked cfg tester s' := by
  cases hs with
  | deciding hwire _ hversion hpump =>
      refine .deciding (h.wire.trans hwire) (h.activated.trans hfresh)
        (h.version.trans hversion) ?_
      rcases h.pump with heq | hpast
      · rw [heq]
        exact hpump
      · cases hp : s'.pump <;> rw [hp] at hpast <;> first | exact hpast.elim | trivial
  | refused code hcode hwire _ hpump =>
      refine .refused code hcode (h.wire.trans hwire) (h.activated.trans hfresh) ?_
      rcases h.pump with heq | hpast
      · rw [heq]
        exact hpump
      · cases hp : s'.pump <;> rw [hp] at hpast <;> first | exact hpast.elim | trivial
  | accepted more _ hactivated _ =>
      rw [hfresh] at hactivated
      cases hactivated

end Still

/-! ## §3. The decision. -/

theorem setPump_self (w : World) (i : Sid) (pump : Pump) :
    (w.setPump i pump).sessions i = { w.sessions i with pump := pump } := by
  unfold World.setPump
  rw [World.set_sessions, if_pos rfl]

/-- The socket answers the activation. -/
theorem respondActivation_self (w : World) (i : Sid) (src : SA) (code : UInt8) :
    (w.respondActivation cfg i src code).sessions i = { w.sessions i with
      wire := (w.sessions i).wire ++ [buildFrame ptRoutingActResponse
        (World.activationResponse cfg src code) (w.sessions i).currentReqVersion]
      pump := .sending (if code = 0x10 then .loop else .close) } := by
  unfold World.respondActivation World.sendResponse World.write World.setPump
  simp

theorem refused_of_respond (hwire : (w.sessions i).wire = [])
    (hfresh : (w.sessions i).activated = false) (hversion : (w.sessions i).currentReqVersion = 0x02)
    {code : UInt8} (hcode : code ≠ 0x10) :
    Asked cfg tester ((w.respondActivation cfg i tester code).sessions i) := by
  rw [respondActivation_self]
  refine .refused code hcode ?_ hfresh ?_
  · show (w.sessions i).wire ++ _ = _
    rw [hwire, hversion]
    rfl
  · show Leaving (.sending (if code = 0x10 then .loop else .close))
    rw [if_neg hcode]
    trivial

/-- It takes the address, or there is no room. -/
theorem asked_checkCapacity (hwire : (w.sessions i).wire = [])
    (hfresh : (w.sessions i).activated = false)
    (hversion : (w.sessions i).currentReqVersion = 0x02) :
    Asked cfg tester ((w.checkCapacity cfg i tester).sessions i) := by
  unfold World.checkCapacity
  split
  · exact refused_of_respond hwire hfresh hversion (by decide)
  · rw [commitActivation_eq, respondActivation_self]
    refine .accepted [] ?_ ?_ ?_
    · show ((w.occupy cfg i tester).sessions i).wire ++ _ = _
      unfold World.occupy
      simp [hwire, hversion, activationAnswer]
    · simp [World.occupy]
    · simp [World.occupy]

theorem asked_handleRoutingActivation (hwire : (w.sessions i).wire = [])
    (hfresh : (w.sessions i).activated = false)
    (hversion : (w.sessions i).currentReqVersion = 0x02) (activationType : Nat)
    (override : Option UInt8) :
    Asked cfg tester
      ((w.handleRoutingActivation cfg i tester activationType override).sessions i) := by
  unfold World.handleRoutingActivation
  dsimp only
  split
  · rename_i code hcode
    have hrefusal : code ≠ 0x10 := by
      have hmem := Option.filter_eq_some_iff.mp hcode
      simpa using hmem.2
    have hsame : w.sendResponse i ptRoutingActResponse
        (World.activationResponse cfg tester code) .close
          = w.respondActivation cfg i tester code := by
      unfold World.respondActivation
      rw [if_neg hrefusal]
    rw [hsame]
    exact refused_of_respond hwire hfresh hversion hrefusal
  split
  · exact refused_of_respond hwire hfresh hversion (by decide)
  split
  · exact refused_of_respond hwire hfresh hversion (by decide)
  split
  · exact refused_of_respond hwire hfresh hversion (by decide)
  split
  · rename_i hsame
    rw [hfresh] at hsame
    cases hsame.1
  split
  · exact asked_checkCapacity hwire hfresh hversion
  · rename_i existing hlookup
    split
    · exact asked_checkCapacity hwire hfresh hversion
    · rename_i hother
      have hstill := Still.startProbe w (i := i) (Ne.symm hother)
      rw [setPump_self]
      exact .deciding (hstill.wire.trans hwire) (hstill.activated.trans hfresh)
        (hstill.version.trans hversion) rfl

theorem asked_resumeActivation {existing : Sid} {alive answered : Bool}
    (hwire : (w.sessions i).wire = []) (hfresh : (w.sessions i).activated = false)
    (hversion : (w.sessions i).currentReqVersion = 0x02) :
    Asked cfg tester ((w.resumeActivation cfg i tester existing alive answered).sessions i) := by
  unfold World.resumeActivation
  split
  · exact refused_of_respond hwire hfresh hversion (by decide)
  · have hevict : Still (w.sessions i) ((w.evict cfg existing answered).sessions i) :=
      .evict w existing i answered
    exact asked_checkCapacity (hevict.wire.trans hwire) (hevict.activated.trans hfresh)
      (hevict.version.trans hversion)

/-! ## §4. The request. -/

/-- The request of the EdgeNode, as the VirtualEcu reads it. -/
theorem readFrame_buildRaRequest {raw : Bytes}
    (hraw : EdgeNode.EcuSetup.buildRaRequest tester = some raw)
    (hread : w.readFrame cfg i raw = some w') :
    w' = (w.set i { w.sessions i with currentReqVersion := 0x02 }).setPump i
      (.hooking tester 0) := by
  unfold EdgeNode.EcuSetup.buildRaRequest at hraw
  rw [Option.ite_none_right_eq_some, Option.some.injEq] at hraw
  obtain ⟨hsmall, rfl⟩ := hraw
  have hsrc : fromBytes (packH tester) = tester := fromBytes_packH hsmall
  have hlen : declaredLen (EdgeNode.buildFrame 0x0005 (packH tester ++ [0x00] ++ [0, 0, 0, 0]))
      = 7 := by
    show fromBytes (packI 7) = 7
    exact fromBytes_packI (by decide)
  have hlength : (EdgeNode.buildFrame 0x0005 (packH tester ++ [0x00] ++ [0, 0, 0, 0])).length
      = 15 := rfl
  have hslack : frameLenSlack = 65536 := rfl
  unfold World.readFrame at hread
  rw [hlength, hlen, if_neg (by omega), if_neg (by omega), if_pos (by omega),
    Option.some.injEq] at hread
  rw [← hread]
  let raw : Bytes := EdgeNode.buildFrame 0x0005 (packH tester ++ [0x00] ++ [0, 0, 0, 0])
  have hvalid : validateHeader raw = none := by
    show validateHeader [0x02, 0xFF ^^^ 0x02] = none
    decide
  have htype : ptype raw = ptRoutingActRequest := by
    show fromBytes (packH 5) = 5
    exact fromBytes_packH (by decide)
  have hminimum : ¬ (payload raw).length < routingActRequestMinLen := by
    show ¬ 7 < 7
    omega
  show w.handleFrame cfg i raw = _
  unfold World.handleFrame
  rw [hvalid]
  dsimp only
  rw [if_pos htype, if_neg hminimum]
  show (w.set i _).setPump i (.hooking (fromBytes (packH tester)) _) = _
  rw [hsrc]
  rfl

/-! ## §5. A step. -/

/-- A socket that is not activated serves nothing. -/
theorem idle_of_fresh (hw : Shape w) (hfresh : (w.sessions i).activated = false) :
    (w.sessions i).worker.state? = none := by
  cases hst : (w.sessions i).worker.state? with
  | none => rfl
  | some st =>
      have hstate := hw.worker i st hst
      rw [(hw.free i hfresh).2] at hstate
      cases hstate

/-- The socket reads a frame, or is told a verdict: what takes a decision on. -/
inductive Own (i : Sid) : VirtualEcu.Event → Prop where
  | frame (raw : Bytes) : Own i (.frame i raw)
  | hookReturned (override : Option UInt8) : Own i (.hookReturned i override)
  | probeReturned : Own i (.probeReturned i)

/-- A socket that is leaving reads nothing and asks nobody. -/
theorem not_own_of_leaving {e : VirtualEcu.Event} (hpump : Leaving (w.sessions i).pump)
    (h : VirtualEcu.step cfg w e = some w') : ¬ Own i e := by
  intro hown
  cases hown with
  | frame raw =>
      cases step_effect h with
      | frameRead _ _ _ _ hat _ =>
          rw [hat] at hpump
          exact hpump
  | hookReturned override =>
      cases step_effect h with
      | hookReturned _ _ _ _ hat =>
          rw [hat] at hpump
          exact hpump
  | probeReturned =>
      cases step_effect h with
      | probeReturned _ _ _ _ _ _ hat _ =>
          rw [hat] at hpump
          exact hpump

/-- Before it is activated a socket sends nothing but its refusal. -/
theorem closing_of_sent (hpump : Deciding tester (w.sessions i).pump ∨ Leaving (w.sessions i).pump)
    (h : VirtualEcu.step cfg w (.sent i) = some w') : (w.sessions i).pump = .sending .close := by
  cases step_effect h with
  | sentClose _ hat => exact hat
  | sentLoop _ hat =>
      rw [hat] at hpump
      exact hpump.elim False.elim False.elim
  | sentEnqueue _ _ _ hat =>
      rw [hat] at hpump
      exact hpump.elim False.elim False.elim

/-- A step that is not about the decision leaves a fresh socket alone. -/
theorem still_of_step {e : VirtualEcu.Event} (hw : Shape w) (hfresh : (w.sessions i).activated = false)
    (hown : ¬ Own i e) (hsent : e = .sent i → (w.sessions i).pump = .sending .close)
    (h : VirtualEcu.step cfg w e = some w') : Still (w.sessions i) (w'.sessions i) := by
  have hidle := idle_of_fresh hw hfresh
  cases step_effect h with
  | accepted => exact .refl _
  | frameRead j raw w' _ _ hread =>
      -- frames are the decision's own steps, so this one is read by another socket
      have hj : i ≠ j := by
        rintro rfl
        exact hown (.frame raw)
      rw [readFrame_sessions hread hj]
      exact .refl _
  | loopEnded j _ _ => exact .leaveLoop w j i
  | hookReturned j override src activationType hpump =>
      have hj : i ≠ j := by
        rintro rfl
        exact hown (.hookReturned override)
      rcases handleRoutingActivation_spec cfg w j src activationType override with
        hp | ⟨existing, htarget, heq⟩ | ⟨_, _, hp⟩
      · exact .pumped hp hj
      · rw [heq]
        -- the socket that is probed has an address, so it is another one
        obtain ⟨_, hlookup, _⟩ := probeTarget_eq_some htarget
        have howner : i ≠ existing := by
          rintro rfl
          rw [(hw.registered src i hlookup).1] at hfresh
          cases hfresh
        exact .probing w howner hj
      · exact .occupied hp hj
  -- the pump of the socket is on its way to close, which `hsent` says; no other send is pending
  | sentLoop j hpump =>
      refine .set w j i _ fun hj => ?_
      subst hj
      rw [hsent rfl] at hpump
      cases hpump
  | sentClose j _ => exact .leaveLoop w j i
  | sentEnqueue j request version hpump =>
      by_cases hj : i = j
      · subst hj
        rw [hsent rfl] at hpump
        cases hpump
      · exact .pumped (enqueue_pumped w j request version) hj
  | probeSent => exact .refl _
  | probeUnwaited j o event answered _ _ => exact .endProbe w j o i _ false
  | probeSendFailed j o event answered _ => exact .endProbe w j o i _ false
  | probeWoken j o event slot answered _ _ => exact .endProbe w j o i _ true
  | probeTimedOut j o event slot answered _ => exact .endProbe w j o i _ false
  -- whatever the probe found, an eviction only marks the evicted socket as ending
  | probeReturned j existing src event alive answered hpump _ =>
      have hj : i ≠ j := by
        rintro rfl
        exact hown .probeReturned
      have hevict : Still (w.sessions i)
          (((w.takeProbe j existing).evict cfg existing answered).sessions i) :=
        .evict (w.takeProbe j existing) existing i answered
      rcases resumeActivation_spec cfg (w.takeProbe j existing) j src existing alive answered with
        ⟨_, hp⟩ | ⟨_, ⟨_, hp⟩ | ⟨_, hp⟩⟩
      · show Still ((w.takeProbe j existing).sessions i) _
        exact .pumped hp hj
      · exact hevict.trans (.pumped hp hj)
      · exact hevict.trans (.occupied hp hj)
  | requestTaken j request version rest hworker hqueue =>
      by_cases hj : i = j
      · -- it has no state, so the worker drops the request
        subst hj
        unfold World.takeRequest
        dsimp only
        rw [(hw.free i hfresh).2]
        exact .set w i i _ fun _ => ⟨rfl, rfl, rfl, .inl rfl⟩
      · have hother : (w.takeRequest cfg j request version rest).sessions i = w.sessions i := by
          unfold World.takeRequest
          dsimp only
          split <;> simp [hj]
        rw [hother]
        exact .refl _
  | dispatched j request version st p2 p2' hworker hp2 => exact .setWorker w j i _
  | dispatchedLast j request st hworker => exact .setWorker w j i _
  -- a worker that responds holds a request, and this socket's worker is idle
  | resolved j e request version st p2 p2' hworker _ _ =>
      by_cases hj : i = j
      · subst hj
        rw [hworker] at hidle
        cases hidle
      · rw [advanceWorker_sessions (by rw [hworker]; rfl) _ _ hj]
        exact .refl _
  | responderStopped j request version st p2 response _ _ _ => exact .setWorker w j i _
  | responderFailed j request version st p2 hworker _ => exact .setWorker w j i _
  | inactive j _ _ => exact .finalize w j i
  | s3Expired => exact .refl _
  | supervisorStopped j _ =>
      exact (Still.setWorker w j i _).trans (.setPump _ j i _ fun _ => trivial)
  | workerStopped j _ =>
      have hrelease : Still ((w.setWorker j .stopped).sessions i)
          (((w.setWorker j .stopped).releaseState cfg j).sessions i) :=
        .releaseState (w.setWorker j .stopped) j i
      exact ((Still.setWorker w j i .stopped).trans hrelease).trans
        (.setPump _ j i _ fun _ => trivial)
  | writerClosed j _ => exact .setPump (w.unregister j) j i _ fun _ => trivial

/-- A socket only ever writes more. -/
theorem wire_grows {e : VirtualEcu.Event} (hw : Shape w)
    (h : VirtualEcu.step cfg w e = some w') (i : Sid) :
    ∃ more, (w'.sessions i).wire = (w.sessions i).wire ++ more := by
  obtain ⟨deed, hdoes⟩ : ∃ deed, Does cfg (w.sessions i) deed (w'.sessions i) :=
    ⟨_, step_does hw h i⟩
  generalize w'.sessions i = s' at hdoes ⊢
  cases hdoes with
  | acks raw _ _ => exact ⟨_, rfl⟩
  | replies raw _ h =>
      obtain ⟨frames, hframes, _⟩ := h.wire
      exact ⟨frames, hframes⟩
  | queues | takes | dispatches | dispatchesLast => exact ⟨[], by simp⟩
  | refuses => exact ⟨_, rfl⟩
  | responds _ _ _ _ _ h =>
      obtain ⟨frames, hframes, _⟩ := h.wire
      exact ⟨frames, hframes⟩
  | aside _ h =>
      obtain ⟨frames, hframes, _⟩ := h.wire
      exact ⟨frames, hframes⟩

/-- What a fresh socket does with a frame, or a verdict. -/
theorem Asked.decides {e : VirtualEcu.Event} {raw : Bytes}
    (hraw : EdgeNode.EcuSetup.buildRaRequest tester = some raw) (hwire : (w.sessions i).wire = [])
    (hfresh : (w.sessions i).activated = false) (hversion : (w.sessions i).currentReqVersion = 0x02)
    (hpump : Deciding tester (w.sessions i).pump)
    (hasks : ∀ frame, e = .frame i frame → frame = raw ∨ (w.sessions i).wire ≠ [])
    (hown : Own i e) (h : VirtualEcu.step cfg w e = some w') :
    Asked cfg tester (w'.sessions i) := by
  cases hown with
  | frame frame =>
      cases step_effect h with
      | frameRead _ _ _ _ _ hread =>
          rcases hasks frame rfl with rfl | hwritten
          · rw [readFrame_buildRaRequest hraw hread, setPump_self]
            simp only [World.set_sessions, if_pos]
            exact .deciding hwire hfresh rfl rfl
          · exact absurd hwire hwritten
  | hookReturned override =>
      cases step_effect h with
      | hookReturned _ _ src activationType hat =>
          rw [hat] at hpump
          obtain rfl : src = tester := hpump
          exact asked_handleRoutingActivation hwire hfresh hversion activationType override
  | probeReturned =>
      cases step_effect h with
      | probeReturned _ existing src event alive answered hat _ =>
          rw [hat] at hpump
          obtain rfl : src = tester := hpump
          exact asked_resumeActivation (w := w.takeProbe i existing) hwire hfresh hversion

/-- **No step leads out of the three situations**, while the client has sent
nothing but its request before it was answered. -/
theorem Asked.step {e : VirtualEcu.Event} {raw : Bytes} (hw : Shape w)
    (hraw : EdgeNode.EcuSetup.buildRaRequest tester = some raw)
    (h : Asked cfg tester (w.sessions i))
    (hasks : ∀ frame, e = .frame i frame → frame = raw ∨ (w.sessions i).wire ≠ [])
    (hstep : VirtualEcu.step cfg w e = some w') : Asked cfg tester (w'.sessions i) := by
  by_cases hactivated : (w.sessions i).activated = true
  · -- it stays activated, and writes more
    cases h with
    | deciding _ hfresh => exact absurd hactivated (by simp [hfresh])
    | refused _ _ _ hfresh => exact absurd hactivated (by simp [hfresh])
    | accepted more hwire _ haddr =>
        have hstays := Stays.step hw hstep hactivated
        obtain ⟨further, hgrows⟩ := wire_grows hw hstep i
        refine .accepted (more ++ further) ?_ (hstays.activated.trans hactivated)
          (hstays.testerAddr.trans haddr)
        rw [hgrows, hwire, List.cons_append]
  · rw [Bool.not_eq_true] at hactivated
    have hat : Deciding tester (w.sessions i).pump ∨ Leaving (w.sessions i).pump := by
      cases h with
      | deciding _ _ _ hpump => exact .inl hpump
      | refused _ _ _ _ hpump => exact .inr hpump
      | accepted _ _ hyes => exact absurd hyes (by simp [hactivated])
    by_cases hown : Own i e
    · cases h with
      | deciding hwire hfresh hversion hpump =>
          exact .decides hraw hwire hfresh hversion hpump hasks hown hstep
      | refused _ _ _ _ hpump => exact absurd hown (not_own_of_leaving hpump hstep)
      | accepted _ _ hyes => exact absurd hyes (by simp [hactivated])
    · refine (still_of_step hw hactivated hown ?_ hstep).asked h hactivated
      rintro rfl
      exact closing_of_sent hat hstep

/-! ## §6. What the EdgeNode makes of it. -/

variable {edge : EdgeNode.EcuSetup.Config} {left : Nat} {more : Bytes}

theorem readFrame_activationAnswer (hroom : 13 ≤ edge.maxPayloadBytes) (code : UInt8) :
    EdgeNode.readFrame edge.maxPayloadBytes (activationAnswer cfg tester code ++ more)
      = .ok (activationAnswer cfg tester code, more) := by
  have hout : Outbound (activationAnswer cfg tester code) :=
    .short (.routingActivation tester cfg.doip.ecuLogicalAddr code) (by decide) (by decide)
  have hlen : (payload (activationAnswer cfg tester code)).length = 13 := rfl
  rw [readFrame_outbound hout, if_neg (by omega)]

/-- Only the code 0x10 is a positive response. -/
theorem activationReply_activationAnswer (htester : tester < 65536) (hok : cfg.Accepted)
    (code : UInt8) :
    EdgeNode.activationReply tester cfg.doip.ecuLogicalAddr (activationAnswer cfg tester code)
      = if code = 0x10 then .active else .denied := by
  have htype : EdgeNode.ptype (activationAnswer cfg tester code) = 6 := by
    show fromBytes (packH 6) = 6
    exact fromBytes_packH (by decide)
  have hlen : ((activationAnswer cfg tester code).drop 8).length = 13 := rfl
  have hsrc : fromBytes (((activationAnswer cfg tester code).drop 8).take 2) = tester :=
    fromBytes_packH htester
  have haddr := hok.ecuLogicalAddr
  have hecu : fromBytes ((((activationAnswer cfg tester code).drop 8).drop 2).take 2)
      = cfg.doip.ecuLogicalAddr := fromBytes_packH (by omega)
  have hcode : (((activationAnswer cfg tester code).drop 8).drop 4).headD 0 = code := rfl
  unfold EdgeNode.activationReply
  dsimp only
  rw [htype, if_neg (by decide), if_neg (by decide), hlen, if_neg (by decide), hsrc,
    if_neg (by simp), hecu, if_neg (by simp), hcode]

/-- The first frame decides. -/
theorem activates_activationAnswer (htester : tester < 65536) (hok : cfg.Accepted)
    (hroom : 13 ≤ edge.maxPayloadBytes) (haddr : edge.ecuLogicalAddr = cfg.doip.ecuLogicalAddr)
    (code : UInt8) :
    EdgeNode.EcuSetup.activates edge tester (left + 1) (activationAnswer cfg tester code ++ more)
      = if code = 0x10 then some (0, more) else none := by
  rw [EdgeNode.EcuSetup.activates_ok (readFrame_activationAnswer hroom code), haddr,
    activationReply_activationAnswer htester hok]
  by_cases hcode : code = 0x10
  · rw [if_pos hcode, if_pos hcode]
  · rw [if_neg hcode, if_neg hcode]

/-- **The bytes of the socket tell whether it is activated.** -/
theorem Asked.activates_iff (h : Asked cfg tester s) (htester : tester < 65536) (hok : cfg.Accepted)
    (hroom : 13 ≤ edge.maxPayloadBytes) (haddr : edge.ecuLogicalAddr = cfg.doip.ecuLogicalAddr) :
    (EdgeNode.EcuSetup.activates edge tester EdgeNode.activationRounds s.wire.flatten).isSome = true
      ↔ s.activated = true := by
  have hrounds : EdgeNode.activationRounds = 2 + 1 := rfl
  cases h with
  | deciding hwire hfresh =>
      rw [hwire, hfresh, hrounds, EdgeNode.EcuSetup.activates_error (e := .incomplete) rfl]
      simp
  | refused code hcode hwire hfresh =>
      rw [hwire, hfresh, List.flatten_cons, hrounds,
        activates_activationAnswer htester hok hroom haddr, if_neg hcode]
      simp
  | accepted more hwire hactivated =>
      rw [hwire, hactivated, List.flatten_cons, hrounds,
        activates_activationAnswer htester hok hroom haddr, if_pos rfl]
      simp

/-- An activated socket belongs to the tester. -/
theorem Asked.testerAddr (h : Asked cfg tester s) (hactivated : s.activated = true) :
    s.testerAddr = some tester := by
  cases h with
  | deciding _ hfresh =>
      rw [hfresh] at hactivated
      cases hactivated
  | refused _ _ _ hfresh =>
      rw [hfresh] at hactivated
      cases hactivated
  | accepted _ _ _ haddr => exact haddr

/-! ## §7. The two of them. -/

/-- A connection in the making: the leg of the EdgeNode, and the ECU with
all its sockets. -/
structure Link where
  leg : EdgeNode.EcuSetup.Leg := {}
  ecu : World
  /-- How many frames of the leg its socket has read. -/
  read : Nat := 0

inductive Event where
  | edge (e : EdgeNode.EcuSetup.Event)
  | ecu (e : VirtualEcu.Event)
  deriving DecidableEq, Repr

namespace Link

variable (i : Sid) (tester : SA) (n : Link)

/-- The session connects with the address of its tester, and the leg gets
what the socket `i` writes. -/
def AdmitsEdge : EdgeNode.EcuSetup.Event → Prop
  | .connect addr _ => addr = tester
  | .feed bytes => n.leg.received ++ bytes <+: (n.ecu.sessions i).wire.flatten
  | _ => True

instance : (e : EdgeNode.EcuSetup.Event) → Decidable (n.AdmitsEdge i tester e)
  | .connect addr _ => inferInstanceAs (Decidable (addr = tester))
  | .feed bytes =>
      inferInstanceAs (Decidable (n.leg.received ++ bytes <+: (n.ecu.sessions i).wire.flatten))
  | .resume _ | .cleanup | .close _ | .closeStep _ | .feedEof => inferInstanceAs (Decidable True)
  | .readerStarts | .readerReads | .readerProceeds => inferInstanceAs (Decidable True)
  | .readerFails | .readerStops => inferInstanceAs (Decidable True)
  | .recv _ | .recvResumes _ | .recvCancelled _ => inferInstanceAs (Decidable True)

/-- The socket reads what `connect` has written, in its order.  On a
connection that is set up it may read anything. -/
def admitsEcu : VirtualEcu.Event → Option Nat
  | .frame j raw =>
      if j = i then
        if n.leg.written[n.read]? = some raw then some (n.read + 1)
        else if n.leg.point = .returned then some n.read
        else none
      else some n.read
  | _ => some n.read

end Link

def step (edge : EdgeNode.EcuSetup.Config) (cfg : EcuConfig) (i : Sid) (tester : SA) (n : Link) :
    Event → Option Link
  | .edge e =>
      if n.AdmitsEdge i tester e then
        (EdgeNode.EcuSetup.step edge n.leg e).map fun leg => { n with leg }
      else none
  | .ecu e => do
      let read ← n.admitsEcu i e
      let ecu ← VirtualEcu.step cfg n.ecu e
      some { n with ecu, read }

/-! ## §8. What the leg has said. -/

section Leg

open EdgeNode EcuSetup

variable {leg leg' : Leg}

/-- What a step of the leg is to the ECU: bytes that come in, the call of
`connect`, or a move. -/
inductive Change (leg : Leg) : EcuSetup.Event → Leg → Prop where
  | fed (bytes : Bytes) :
      Change leg (.feed bytes)
        { leg with stream := leg.stream ++ bytes, received := leg.received ++ bytes }
  | begun (addr : Nat) (preparation : Preparation) (hcause : leg.delivery.cause = none)
      (hconnected : leg.delivery.connected = false) (hconnecting : leg.connecting = false) :
      Change leg (.connect addr preparation) (leg.begin addr preparation)
  | moved (e : EcuSetup.Event) (leg' : Leg) (hmoves : Moves leg leg') : Change leg e leg'

theorem change_of_step {e : EcuSetup.Event} (h : EcuSetup.step edge leg e = some leg') :
    Change leg e leg' := by
  cases effect_of_step h with
  | fed bytes => exact .fed bytes
  | begun addr preparation hcause hconnected hconnecting =>
      exact .begun addr preparation hcause hconnected hconnecting
  | refused => exact .moved _ _ (.of_eq rfl rfl rfl .rfl rfl)
  | resumed _ _ hresume => exact .moved _ _ (.resume hresume)
  | cleaned _ hcleanup =>
      cases cleaned_of_cleanupStep hcleanup with
      | closed hpoint | waited hpoint | raised hpoint =>
          exact .moved _ _ (.of_eq rfl rfl rfl (iff_of_false (by simp) (by simp [hpoint])) rfl)
  | closed k =>
      unfold Leg.close
      dsimp only
      split <;> exact .moved _ _ (.of_eq rfl rfl rfl .rfl rfl)
  | joined | ended | fedEof | started => exact .moved _ _ (.of_eq rfl rfl rfl .rfl rfl)
  | reader _ rest d _ _ hsuffix _ _ _ hdoes =>
      -- the reader takes frames off the stream, and closes it at most
      obtain ⟨delivery, _, hs'⟩ := readerDoes_eq hdoes
      rcases hs' with rfl | ⟨rfl, _⟩ <;> exact .moved _ _ ⟨rfl, rfl, hsuffix, .rfl, .inl rfl⟩
  | receiver _ d _ _ _ hdoes =>
      obtain ⟨delivery, _, rfl⟩ := receives_eq hdoes
      exact .moved _ _ (.of_eq rfl rfl rfl .rfl rfl)

/-- Before the ECU has sent anything, the leg has written its request at most. -/
structure Modest (tester : VirtualEcu.SA) (leg : Leg) : Prop where
  addr : leg.point ≠ .notCalled → leg.tester = tester
  stream : leg.stream <:+ leg.received
  written : leg.received = [] → ∀ raw ∈ leg.written, buildRaRequest tester = some raw

namespace Modest

theorem step (hinv : Inv edge leg) (hheard : Heard edge leg leg.point) (h : Modest tester leg)
    {e : EcuSetup.Event} (hstep : EcuSetup.step edge leg e = some leg')
    (haddr : ∀ addr preparation, e = .connect addr preparation → addr = tester) :
    Modest tester leg' := by
  cases change_of_step hstep with
  | fed bytes =>
      obtain ⟨before, hbefore⟩ := h.stream
      refine ⟨h.addr, ⟨before, ?_⟩, fun hnil => h.written (List.append_eq_nil_iff.mp hnil).1⟩
      show before ++ (leg.stream ++ bytes) = leg.received ++ bytes
      rw [← List.append_assoc, hbefore]
  | begun addr preparation hcause hconnected hconnecting =>
      obtain rfl := haddr addr preparation rfl
      have hpoint := hinv.fresh hcause hconnected hconnecting
      rw [hpoint] at hheard
      have hwritten : (leg.begin addr preparation).written = [] := by
        rw [← hheard.2]
        cases preparation <;> rfl
      refine ⟨fun _ => by cases preparation <;> rfl, ?_, fun _ raw hraw => ?_⟩
      · cases preparation <;> exact h.stream
      · rw [hwritten] at hraw
        cases hraw
  | moved _ _ hmoves =>
      have hcalled : leg'.point ≠ .notCalled → leg.point ≠ .notCalled :=
        fun h' hpoint => h' (hmoves.called.mpr hpoint)
      refine ⟨fun hpoint => ?_, ?_, fun hnil raw hraw => ?_⟩
      · rw [hmoves.tester]
        exact h.addr (hcalled hpoint)
      · rw [hmoves.received]
        exact hmoves.stream.trans h.stream
      · rw [hmoves.received] at hnil
        rcases hmoves.written with heq | ⟨hpoint, request, hrequest, heq⟩ | hsome
        · rw [heq] at hraw
          exact h.written hnil raw hraw
        · rw [hpoint] at hheard
          rw [heq, hheard.2, List.nil_append, List.mem_singleton] at hraw
          rw [hraw, ← hrequest, h.addr (by simp [hpoint])]
        · -- the stream holds nothing that was not received
          have hnone := h.stream
          rw [hnil, List.suffix_nil] at hnone
          exact absurd hnone hsome

end Modest

end Leg

/-! ## §9. Both ends. -/

variable {n n' : Link}

/-- **What holds between the two.** -/
structure Linked (edge : EdgeNode.EcuSetup.Config) (cfg : EcuConfig) (i : Sid) (tester : SA)
    (n : Link) : Prop where
  inv : EdgeNode.EcuSetup.Inv edge n.leg
  heard : EdgeNode.EcuSetup.Heard edge n.leg n.leg.point
  modest : Modest tester n.leg
  shape : Shape n.ecu
  received : n.leg.received <+: (n.ecu.sessions i).wire.flatten
  asked : Asked cfg tester (n.ecu.sessions i)

namespace Linked

theorem step_edge (h : Linked edge cfg i tester n) {e : EdgeNode.EcuSetup.Event}
    {leg : EdgeNode.EcuSetup.Leg} (hadmits : n.AdmitsEdge i tester e)
    (hstep : EdgeNode.EcuSetup.step edge n.leg e = some leg) :
    Linked edge cfg i tester { n with leg } where
  inv := h.inv.step e hstep
  heard := EdgeNode.EcuSetup.heard_step h.inv h.heard e hstep
  modest := by
    refine h.modest.step h.inv h.heard hstep ?_
    rintro addr preparation rfl
    exact hadmits
  shape := h.shape
  received := by
    show leg.received <+: (n.ecu.sessions i).wire.flatten
    cases change_of_step hstep with
    | fed => exact hadmits
    | begun _ preparation => cases preparation <;> exact h.received
    | moved _ _ hmoves =>
        rw [hmoves.received]
        exact h.received
  asked := h.asked

/-- Before the socket has answered it reads the request, and nothing else. -/
theorem reads_request (h : Linked edge cfg i tester n) {raw request : Bytes} {read : Nat}
    (hrequest : EdgeNode.EcuSetup.buildRaRequest tester = some request)
    (hadmits : n.admitsEcu i (.frame i raw) = some read) :
    raw = request ∨ (n.ecu.sessions i).wire ≠ [] := by
  by_cases hwire : (n.ecu.sessions i).wire = []
  · refine .inl ?_
    have hnone : n.leg.received = [] := by
      have hprefix := h.received
      rw [hwire] at hprefix
      exact List.prefix_nil.mp hprefix
    unfold Link.admitsEcu at hadmits
    dsimp only at hadmits
    rw [if_pos rfl] at hadmits
    split at hadmits
    · rename_i hwritten
      have hsaid := h.modest.written hnone raw (List.mem_of_getElem? hwritten)
      rw [hrequest, Option.some.injEq] at hsaid
      exact hsaid.symm
    · rw [Option.ite_none_right_eq_some] at hadmits
      -- nothing was received, so `connect` has not returned
      have hheard := h.heard
      rw [hadmits.1] at hheard
      obtain ⟨answered, rest, hall, _⟩ := hheard
      rw [hnone] at hall
      cases hall
  · exact .inr hwire

theorem step_ecu (h : Linked edge cfg i tester n) (htester : tester < 65536) {e : VirtualEcu.Event}
    {read : Nat} {w : World} (hadmits : n.admitsEcu i e = some read)
    (hstep : VirtualEcu.step cfg n.ecu e = some w) :
    Linked edge cfg i tester { n with ecu := w, read } where
  inv := h.inv
  heard := h.heard
  modest := h.modest
  shape := h.shape.step hstep
  received := by
    obtain ⟨more, hgrows⟩ := wire_grows h.shape hstep i
    show n.leg.received <+: (w.sessions i).wire.flatten
    rw [hgrows, List.flatten_append]
    exact h.received.trans (List.prefix_append _ _)
  asked := by
    have hrequest : EdgeNode.EcuSetup.buildRaRequest tester = some _ := if_pos htester
    refine h.asked.step h.shape hrequest (fun frame heq => ?_) hstep
    subst heq
    exact h.reads_request hrequest hadmits

theorem step (htester : tester < 65536) (h : Linked edge cfg i tester n) (e : Event)
    (hstep : step edge cfg i tester n e = some n') : Linked edge cfg i tester n' := by
  cases e with
  | edge e =>
      change (if n.AdmitsEdge i tester e then _ else none) = _ at hstep
      rw [Option.ite_none_right_eq_some] at hstep
      obtain ⟨hadmits, hmap⟩ := hstep
      obtain ⟨leg, hleg, rfl⟩ := Option.map_eq_some_iff.mp hmap
      exact h.step_edge hadmits hleg
  | ecu e =>
      obtain ⟨read, hread, hrest⟩ := Option.bind_eq_some_iff.mp hstep
      obtain ⟨w, hw, heq⟩ := Option.bind_eq_some_iff.mp hrest
      rw [Option.some.injEq] at heq
      subst heq
      exact h.step_ecu htester hread hw

end Linked

theorem linked_init (edge : EdgeNode.EcuSetup.Config) (cfg : EcuConfig) (i : Sid) (tester : SA) :
    Linked edge cfg i tester { ecu := World.init cfg } where
  inv := EdgeNode.EcuSetup.inv_init edge
  heard := ⟨rfl, rfl⟩
  modest := ⟨fun h => absurd rfl h, List.suffix_refl _, fun _ _ h => by cases h⟩
  shape := shape_init cfg
  received := List.nil_prefix
  asked := .deciding rfl rfl rfl trivial

theorem linked_run (htester : tester < 65536) (es : List Event)
    (hrun : Transition.exec (step edge cfg i tester) { ecu := World.init cfg } es = some n) :
    Linked edge cfg i tester n :=
  Transition.exec_invariant (Linked edge cfg i tester) (fun _ e _ h hstep => h.step htester e hstep)
    es _ n (linked_init edge cfg i tester) hrun

def Event.edge? : Event → Option EdgeNode.EcuSetup.Event
  | .edge e => some e
  | .ecu _ => none

/-- The leg has a run of its own. -/
theorem leg_run (es : List Event) (hrun : Transition.exec (step edge cfg i tester) n es = some n') :
    Transition.exec (EdgeNode.EcuSetup.step edge) n.leg (es.filterMap Event.edge?)
      = some n'.leg := by
  induction es generalizing n with
  | nil =>
      cases hrun
      rfl
  | cons e es ih =>
      obtain ⟨u, hu, hrest⟩ := Transition.exec_cons_eq_some.mp hrun
      have ih := ih hrest
      cases e with
      | edge e =>
          change (if n.AdmitsEdge i tester e then _ else none) = _ at hu
          rw [Option.ite_none_right_eq_some] at hu
          obtain ⟨leg, hleg, rfl⟩ := Option.map_eq_some_iff.mp hu.2
          exact Transition.exec_cons_eq_some.mpr ⟨leg, hleg, ih⟩
      | ecu e =>
          obtain ⟨read, _, hmore⟩ := Option.bind_eq_some_iff.mp hu
          obtain ⟨w, _, heq⟩ := Option.bind_eq_some_iff.mp hmore
          rw [Option.some.injEq] at heq
          subst heq
          exact ih

/-- The leg begins where the socket's answer ends. -/
theorem Linked.returned (h : Linked edge cfg i tester n) (htester : tester < 65536)
    (hok : cfg.Accepted) (hroom : 13 ≤ edge.maxPayloadBytes)
    (haddr : edge.ecuLogicalAddr = cfg.doip.ecuLogicalAddr) (hpoint : n.leg.point = .returned) :
    (n.ecu.sessions i).activated = true
      ∧ n.leg.written = (EdgeNode.EcuSetup.buildRaRequest tester).toList
      ∧ ∃ more rest, (n.ecu.sessions i).wire = activationAnswer cfg tester 0x10 :: more
        ∧ rest <+: more.flatten ∧ n.leg.received = activationAnswer cfg tester 0x10 ++ rest
        ∧ n.leg.stream <:+ rest ∧ (n.leg.readerRan = false → n.leg.stream = rest) := by
  have hheard := h.heard
  rw [hpoint] at hheard
  obtain ⟨answered, rest, hall, hstream, hstart, hwritten⟩ := hheard
  have htaddr : n.leg.tester = tester := h.modest.addr (by simp [hpoint])
  rw [htaddr] at hall hwritten
  obtain ⟨unread, hunread⟩ := h.received
  have hwhole : EdgeNode.EcuSetup.activates edge tester EdgeNode.activationRounds
      (n.ecu.sessions i).wire.flatten = some (answered, rest ++ unread) := by
    rw [← hunread]
    exact EdgeNode.EcuSetup.activates_append hall
  have hactivated : (n.ecu.sessions i).activated = true := by
    rw [← h.asked.activates_iff htester hok hroom haddr, hwhole]
    rfl
  refine ⟨hactivated, ?_⟩
  cases h.asked with
  | deciding _ hfresh => exact absurd hactivated (by simp [hfresh])
  | refused _ _ _ hfresh => exact absurd hactivated (by simp [hfresh])
  | accepted more hwire =>
      have hrounds : EdgeNode.activationRounds = 2 + 1 := rfl
      rw [hwire, List.flatten_cons, hrounds, activates_activationAnswer htester hok hroom haddr,
        if_pos rfl, Option.some.injEq, Prod.mk.injEq] at hwhole
      obtain ⟨rfl, hrest⟩ := hwhole
      refine ⟨?_, more, rest, hwire, ⟨unread, hrest.symm⟩, ?_, hstream, hstart⟩
      · rw [hwritten]
        simp
      · -- what came in and what did not make up the answer and what follows it
        rw [hwire, List.flatten_cons, hrest, ← List.append_assoc] at hunread
        exact List.append_cancel_right hunread

/-- **Both ends agree.**  The EdgeNode opens a connection for a tester while
the ECU goes on serving its other sockets, probes and evicts them; the leg is
configured with the ECU's address, and takes a payload of 13 bytes.  In every
interleaving: when `connect` has returned, the ECU has activated the tester on
that socket, `connect` has sent nothing but its request, what has come in is
the ECU's answer and what the ECU wrote next, and the reader takes over right
behind the answer.  Where the network does its part, nobody cancels or closes,
and all the ECU wrote has come in, `connect` can and must return just if the
ECU has activated the tester. -/
theorem activation_agreed (edge : EdgeNode.EcuSetup.Config) (cfg : EcuConfig) (i : Sid)
    (tester : SA) (htester : tester < 65536) (hok : cfg.Accepted)
    (hroom : 13 ≤ edge.maxPayloadBytes) (haddr : edge.ecuLogicalAddr = cfg.doip.ecuLogicalAddr)
    (es : List Event) (n : Link)
    (hrun : Transition.exec (step edge cfg i tester) { ecu := World.init cfg } es = some n) :
    (n.leg.point = .returned →
        (n.ecu.sessions i).activated = true ∧ (n.ecu.sessions i).testerAddr = some tester
        ∧ n.leg.written = (EdgeNode.EcuSetup.buildRaRequest tester).toList
        ∧ ∃ more rest, (n.ecu.sessions i).wire = activationAnswer cfg tester 0x10 :: more
          ∧ rest <+: more.flatten ∧ n.leg.received = activationAnswer cfg tester 0x10 ++ rest
          ∧ n.leg.stream <:+ rest ∧ (n.leg.readerRan = false → n.leg.stream = rest))
      ∧ ((∀ e, .edge e ∈ es → EdgeNode.EcuSetup.Calm e) → n.leg.point ≠ .notCalled →
          n.leg.received = (n.ecu.sessions i).wire.flatten →
          (Transition.Inevitable (EdgeNode.EcuSetup.step edge) (· = .resume .returns)
              (fun leg => leg.point = .returned) n.leg
            ↔ (n.ecu.sessions i).activated = true)) := by
  have h : Linked edge cfg i tester n := linked_run htester es hrun
  have hreturned := h.returned htester hok hroom haddr
  refine ⟨fun hpoint => ?_, fun hcalm hcalled hall => ?_⟩
  · obtain ⟨hactivated, hwritten, hwire⟩ := hreturned hpoint
    exact ⟨hactivated, h.asked.testerAddr hactivated, hwritten, hwire⟩
  · -- the leg has a calm run of its own, and finds in the bytes what the socket says
    have hlegCalm : ∀ e ∈ es.filterMap Event.edge?, EdgeNode.EcuSetup.Calm e := by
      intro e he
      obtain ⟨link, hmem, hlink⟩ := List.mem_filterMap.mp he
      cases link with
      | edge e' =>
          cases hlink
          exact hcalm e hmem
      | ecu => cases hlink
    have halone : EdgeNode.EcuSetup.Alone edge n.leg :=
      EdgeNode.EcuSetup.alone_run _ hlegCalm (leg_run es hrun)
    rw [EdgeNode.EcuSetup.returns_iff h.inv h.heard halone hcalled, h.modest.addr hcalled, hall]
    exact h.asked.activates_iff htester hok hroom haddr

/-- The ECU takes the tester in, and the leg is told. -/
def takenIn : List Event :=
  [.edge (.connect 0x0E00 .made), .edge (.resume .returns), .ecu .accept,
   .edge (.resume .returns),
   .ecu (.frame 0 (EdgeNode.buildFrame 0x0005 [0x0E, 0x00, 0x00, 0, 0, 0, 0])),
   .edge (.resume .returns), .ecu (.hookReturned 0 none),
   .edge (.feed (activationAnswer {} 0x0E00 0x10)), .edge (.resume .returns)]

theorem activation_agreed_takenIn :
    ∃ n, Transition.exec (step ⟨4096, 0x0003⟩ {} 0 0x0E00) { ecu := World.init {} } takenIn = some n
      ∧ (n.ecu.sessions 0).testerAddr = some 0x0E00
      ∧ n.leg.written = (EdgeNode.EcuSetup.buildRaRequest 0x0E00).toList := by
  have hrun : (Transition.exec (step ⟨4096, 0x0003⟩ {} 0 0x0E00) { ecu := World.init {} }
      takenIn).map (fun n => n.leg.point) = some .returned := by decide
  obtain ⟨n, hn, hpoint⟩ := Option.map_eq_some_iff.mp hrun
  obtain ⟨_, haddr, hwritten, _⟩ :=
    (activation_agreed ⟨4096, 0x0003⟩ {} 0 0x0E00 (by decide) EcuConfig.accepted_default (by decide)
      rfl takenIn n hn).1 hpoint
  exact ⟨n, hn, haddr, hwritten⟩

end DoipPlayground.Interop.Handshake
