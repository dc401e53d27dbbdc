import VirtualLte.Engine.Sessions

/-!
# The user plane follows session management

The user plane should have a session for the host only while session management
holds one, so that no session is left behind for a reconnected transport to revive.

* `UserPlaneSound` and `NoRevival` are the two properties of a state.
* `userPlaneStep` names the steps that keep them.  Downlink messages always do.  The
  radio going off, the recovery from a lost cell, the loss of registration and a
  release that is abandoned all end the session in session management, and none of
  them unbinds it in the user plane.
* `userPlane_iff` says that these are exactly the steps that keep them along a run.
-/

namespace VirtualLte.Engine

open Nas Ran Mm Sm Up Rrc

variable {ctx : UeContext} (nowMs : UInt64)

/-- The host's session is bound only while session management holds it. -/
def UserPlaneSound (ctx : UeContext) : Prop :=
  ctx.up.hasSession = true → ctx.sm.holdsSession = true

/-- Without a held session a connected transport makes nothing ACTIVE. -/
def NoRevival (ctx : UeContext) : Prop :=
  ctx.sm.holdsSession = false → (ueUpTick ctx.up true).state ≠ .active

instance (ctx : UeContext) : Decidable (UserPlaneSound ctx) :=
  inferInstanceAs (Decidable (_ → _))

/-- The host's session outlives the network context: forgetting it unbinds the IMS
identity only. -/
def hostSurvives (ctx : UeContext) : Bool :=
  ctx.up.hasSession && ctx.up.hostPsi ≠ ctx.imsPsi.toNat

/-- The cell is lost under a registration or a session. -/
def ranLost (ctx : UeContext) : Bool :=
  ctx.net.ran.state = .lost && (ctx.mm.state = .registeredHome || ctx.sm.state = .active)

/-- The steps that keep the user plane sound. -/
def userPlaneStep (ctx : UeContext) : Step → Bool
  | .tickHead nowMs =>
    if ctx.radioOn = false then true
    else if ranLost ctx then !hostSurvives ctx
    else
      !ctx.up.hasSession || (ctx.mm.state = .registeredHome && !smAbandons ctx.sm nowMs)
  | .setRadio on => on || !hostSurvives ctx
  | _ => true

theorem userPlaneSound_of_unbound (h : ctx.up.hasSession = false) :
    UserPlaneSound ctx := fun hhas => absurd (h.symm.trans hhas) nofun

theorem UserPlaneSound.noRevival (h : UserPlaneSound ctx) (hup : ctx.up.Wf) : NoRevival ctx := by
  intro hholds
  have hhas : ctx.up.hasSession = false := by
    by_contra hhas
    rw [h (by simpa using hhas)] at hholds
    cases hholds
  rw [ueUpTick, if_neg (by simp [hhas]), (hup.unbound hhas).2.2]
  exact nofun

/-- The property moves to a later state that binds no more and holds no less. -/
theorem UserPlaneSound.mono {a b : UeContext} (h : UserPlaneSound a)
    (hup : b.up.hasSession = true → a.up.hasSession = true)
    (hsm : a.sm.holdsSession = true → b.sm.holdsSession = true) : UserPlaneSound b :=
  fun hhas => hsm (h (hup hhas))

/-- Without a held session the property says that nothing is bound. -/
theorem userPlaneSound_iff_of_not_holds (h : ctx.sm.holdsSession = false) :
    UserPlaneSound ctx ↔ ctx.up.hasSession = false := by
  constructor
  · intro hsound
    by_contra hhas
    rw [hsound (by simpa using hhas)] at h
    cases h
  · exact userPlaneSound_of_unbound

/-! ## Downlink messages -/

theorem onPduSessionEstAccept_userPlaneSound (ev : UeNasEvent) (h : UserPlaneSound ctx) :
    UserPlaneSound (onPduSessionEstAccept ctx ev) := by
  unfold onPduSessionEstAccept
  split
  · refine h.mono ?_ id
    exact (ueUpBindSessionEx_hasSession ctx.up _ _ _ _ _).symm.trans
  split
  · exact h
  · rename_i hstate
    -- the accept makes the session ACTIVE before it is bound
    intro _
    have hestablishing : ctx.sm.state = .establishing := by simpa using hstate
    simp [onHostAccept, ueSmOnPduSessionEstablished, hestablishing, UeSmCtx.holdsSession]

theorem onPduSessionReleaseCmd_userPlaneSound (ev : UeNasEvent) (hup : ctx.up.Wf)
    (h : UserPlaneSound ctx) : UserPlaneSound (onPduSessionReleaseCmd ctx ev) := by
  unfold onPduSessionReleaseCmd
  dsimp only
  split
  · refine h.mono ?_ id
    intro hhas
    have hunbind := ueUpUnbindSessionPsi_hasSession hup ctx.imsPsi.toNat
    rw [hunbind, Bool.and_eq_true] at hhas
    exact hhas.1
  · exact userPlaneSound_of_unbound rfl

theorem dispatchNasEvent_userPlaneSound (ctx : UeContext) (ev : UeNasEvent) (hup : ctx.up.Wf)
    (h : UserPlaneSound ctx) : UserPlaneSound (dispatchNasEvent ctx ev) := by
  unfold dispatchNasEvent
  split
  · obtain ⟨_, _, _, _, heq⟩ := onRegistrationAccept_frame ctx ev
    rw [heq]
    exact h
  · exact h
  · exact onPduSessionEstAccept_userPlaneSound ev h
  · unfold onPduSessionEstReject
    split
    · exact h
    split
    · exact h
    · exact h.mono id (ueSmOnPduSessionReject_holdsSession smNetwork ctx.sm _ ctx.net).trans
  · exact onPduSessionReleaseCmd_userPlaneSound ev hup h
  · obtain ⟨_, _, _, _, heq⟩ := onAuthenticationRequest_frame ctx ev
    rw [heq]
    exact h
  · obtain ⟨_, _, _, heq⟩ := onSecurityModeCommand_frame ctx ev
    rw [heq]
    exact h
  · exact h
  · unfold onConfigUpdateCommand
    split
    · exact h
    · exact h
  · exact h

theorem decodeAndProcessNas_userPlaneSound (pdu : Bytes) (hinv : EngineInv ctx)
    (h : UserPlaneSound ctx) : UserPlaneSound (decodeAndProcessNas ctx pdu) := by
  refine (decodeAndProcessNas_invariant (P := fun c => EngineInv c ∧ UserPlaneSound c)
    ?_ ?_ ?_ pdu ⟨hinv, h⟩).2
  · rintro c sec trace hdr payload ⟨hc, hs⟩
    exact ⟨hc.congr rfl rfl rfl rfl, hs⟩
  · rintro c ev ⟨hc, hs⟩
    exact ⟨dispatchNasEvent_engineInv c ev hc, dispatchNasEvent_userPlaneSound c ev hc.up hs⟩
  · rintro c flags ⟨hc, hs⟩
    exact ⟨hc.congr rfl rfl rfl rfl, hs⟩

theorem recvStep_userPlaneSound (hinv : EngineInv ctx) (h : UserPlaneSound ctx) :
    UserPlaneSound (recvStep ctx nowMs) := by
  obtain ⟨queue, count, -, hrecv⟩ := recvStep_eq ctx nowMs
  have htake : EngineInv (receiving ctx { ctx.net.ran with nasQueue := queue } count) :=
    hinv.congr rfl rfl rfl rfl
  rw [hrecv]
  cases recvAction ctx with
  | rrcSetup txId =>
    obtain ⟨net, hsend⟩ := sendSetupComplete_frame
      (receiving ctx { ctx.net.ran with nasQueue := queue } count) txId
    simp only [performDl, engineHandleRrcSetup, hsend]
    exact h
  | nas pdu => exact decodeAndProcessNas_userPlaneSound pdu htake h
  | ignore => exact h

/-! ## Ticks -/

theorem engineForgetNetworkContext_hasSession {ctx : UeContext} (hup : ctx.up.Wf) :
    (engineForgetNetworkContext ctx).up.hasSession = hostSurvives ctx :=
  ueUpUnbindSessionPsi_hasSession hup ctx.imsPsi.toNat

theorem ranLossRecovery_of_not_lost (h : ranLost ctx = false) : ranLossRecovery ctx = ctx := by
  rw [ranLossRecovery, if_neg]
  intro hlost
  rw [ranLost, Bool.eq_false_iff] at h
  exact h (by simpa using hlost)

/-- The recovery ends the session in session management. -/
theorem ranLossRecovery_of_lost (hup : ctx.up.Wf) (h : ranLost ctx = true) :
    (ranLossRecovery ctx).up.hasSession = hostSurvives ctx ∧
      (ranLossRecovery ctx).sm.holdsSession = false := by
  rw [ranLossRecovery, if_pos (by simpa [ranLost] using h)]
  exact ⟨engineForgetNetworkContext_hasSession hup, rfl⟩

/-- Timers end a held session when MM is not registered or the release is abandoned. -/
theorem mmSmTick_holdsSession (h : ctx.sm.holdsSession = true) :
    (mmSmTick ctx nowMs).sm.holdsSession =
      (ctx.mm.state = .registeredHome && !smAbandons ctx.sm nowMs) := by
  have hmm : ∀ mm : UeMmCtx, (mm.state = .registeredHome ↔ ctx.mm.state = .registeredHome) →
      (ueSmTick smNetwork ctx.sm nowMs (mm.state = .registeredHome) ctx.net).1.holdsSession =
        (ctx.mm.state = .registeredHome && !smAbandons ctx.sm nowMs) := by
    intro mm hiff
    by_cases hreg : ctx.mm.state = .registeredHome
    · rw [decide_eq_true (hiff.mpr hreg), decide_eq_true hreg, Bool.true_and]
      exact ueSmTick_holdsSession (fun _ _ => rfl) h nowMs ctx.net
    · rw [decide_eq_false (mt hiff.mp hreg), decide_eq_false hreg]
      rfl
  unfold mmSmTick
  dsimp only
  split
  · exact hmm ctx.mm Iff.rfl
  · exact hmm _ (ueMmTick_registeredHome ctx.mm nowMs)

theorem tickHead_userPlaneSound_iff (hinv : EngineInv ctx) (h : UserPlaneSound ctx) :
    userPlaneStep ctx (.tickHead nowMs) = true ↔ UserPlaneSound (tickHead ctx nowMs) := by
  simp only [userPlaneStep, tickHead]
  split
  · refine iff_of_true rfl (h.mono ?_ id)
    exact (ueUpTick_hasSession ctx.up _).symm.trans
  split
  · rename_i hlost
    obtain ⟨hhas, hsm⟩ := ranLossRecovery_of_lost hinv.up hlost
    have hholds : (mmSmTick (ranLossRecovery ctx) nowMs).sm.holdsSession = false :=
      ueSmTick_of_not_holdsSession smNetwork hsm nowMs _ _
    rw [userPlaneSound_iff_of_not_holds hholds, Bool.not_eq_true', ← hhas]
    rfl
  · rename_i hlost
    rw [ranLossRecovery_of_not_lost (by simpa using hlost)]
    cases hhas : ctx.up.hasSession with
    | false => exact iff_of_true rfl (userPlaneSound_of_unbound hhas)
    | true =>
      rw [Bool.not_true, Bool.false_or, ← mmSmTick_holdsSession nowMs (h hhas)]
      exact ⟨fun hholds _ => hholds, fun hsound => hsound hhas⟩

theorem tickTail_userPlaneSound (h : UserPlaneSound ctx) : UserPlaneSound (tickTail ctx nowMs) := by
  rcases tickTail_kept ctx nowMs with heq | ⟨mid, hkept, heq⟩
  · rw [heq]
    exact h
  · obtain ⟨requested, hsm⟩ := hkept.sm
    rw [heq]
    intro hhas
    have hmid : mid.up.hasSession = true := (ueUpTick_hasSession mid.up _).symm.trans hhas
    rw [hkept.up] at hmid
    have hholds : mid.sm.holdsSession = true := by
      rw [hsm]
      exact h hmid
    exact hholds

/-! ## Radio -/

theorem radioOnStart_userPlaneSound (hup : ctx.up.Wf) (h : UserPlaneSound ctx) :
    UserPlaneSound (radioOnStart ctx) := by
  obtain ⟨ran, hstart⟩ := radioOnStart_frame ctx
  rw [hstart]
  split
  · exact h
  · refine h.mono ?_ id
    intro hhas
    have hforget := @engineForgetNetworkContext_hasSession { ctx with radioOn := true } hup
    have hsurvives : hostSurvives { ctx with radioOn := true } = true := hforget ▸ hhas
    rw [hostSurvives, Bool.and_eq_true] at hsurvives
    exact hsurvives.1

theorem radioOffStop_hasSession (hup : ctx.up.Wf) :
    (radioOffStop ctx).up.hasSession = hostSurvives ctx := by
  obtain ⟨net, heq⟩ := radioOffStop_sessions ctx
  rw [heq]
  exact @engineForgetNetworkContext_hasSession { ctx with radioOn := false, net := net } hup

/-- Switching on keeps the property; switching off keeps it when nothing survives. -/
theorem ueEngineSetRadio_userPlaneSound_iff (on : Bool) (hup : ctx.up.Wf) (h : UserPlaneSound ctx) :
    userPlaneStep ctx (.setRadio on) = true ↔ UserPlaneSound (ueEngineSetRadio ctx on) := by
  have hrest : UserPlaneSound (ueEngineSetRadio ctx on) ↔
      UserPlaneSound { (if on then radioOnStart ctx else radioOffStop ctx) with
        sm := ueSmOnRadio (if on then radioOnStart ctx else radioOffStop ctx).sm on } := by
    unfold ueEngineSetRadio
    dsimp only
    generalize (if on = true then radioOnStart ctx else radioOffStop ctx) = c
    split
    · exact Iff.rfl
    · exact Iff.rfl
  rw [hrest]
  cases on with
  | true => exact iff_of_true rfl (radioOnStart_userPlaneSound hup h)
  | false =>
    have hhas := radioOffStop_hasSession hup
    rw [userPlaneSound_iff_of_not_holds rfl]
    simp only [userPlaneStep, Bool.false_or, Bool.not_eq_true', Bool.false_eq_true, if_false, hhas]

/-! ## Whole runs -/

/-- `userPlaneStep` names exactly the steps that keep the user plane sound. -/
theorem userPlaneStep_iff (ctx : UeContext) (e : Step) (h : EngineInv ctx ∧ UserPlaneSound ctx) :
    userPlaneStep ctx e = true ↔ EngineInv (step ctx e) ∧ UserPlaneSound (step ctx e) := by
  obtain ⟨hinv, hsound⟩ := h
  rw [and_iff_right (step_engineInv ctx e hinv)]
  cases e with
  | tickHead nowMs => exact tickHead_userPlaneSound_iff nowMs hinv hsound
  | recv nowMs => exact iff_of_true rfl (recvStep_userPlaneSound nowMs hinv hsound)
  | tickTail nowMs => exact iff_of_true rfl (tickTail_userPlaneSound nowMs hsound)
  | setRadio on => exact ueEngineSetRadio_userPlaneSound_iff on hinv.up hsound
  | requestRegister => exact iff_of_true rfl hsound
  | requestPeriodicUpdate => exact iff_of_true rfl hsound
  | requestMobilityUpdate => exact iff_of_true rfl hsound
  | requestConnect dnn => exact iff_of_true rfl hsound
  | requestDisconnect => exact iff_of_true rfl hsound
  | requestImsPdu =>
    refine iff_of_true rfl ?_
    obtain ⟨_, _, _, _, _, heq⟩ := ueEngineRequestImsPdu_frame ctx
    rw [step, heq]
    exact hsound
  | rx nowMs dgrams recvError => exact iff_of_true rfl hsound
  | os answers => exact iff_of_true rfl hsound

/-- A run keeps the user plane in step with session management, with nothing left to
revive, if and only if all its steps are `userPlaneStep`s. -/
theorem userPlane_iff (cfg : UeInstanceConfig) (os : OsAnswers) (es : List Step) :
    Transition.Along step (fun ctx e => userPlaneStep ctx e = true)
        (ueContextInitFromConfig cfg os) es ↔
      ∀ pre, pre <+: es →
        UserPlaneSound (run (ueContextInitFromConfig cfg os) pre) ∧
          NoRevival (run (ueContextInitFromConfig cfg os) pre) := by
  have hinit : UserPlaneSound (ueContextInitFromConfig cfg os) := userPlaneSound_of_unbound rfl
  rw [Transition.along_iff_prefixes userPlaneStep_iff ⟨engineInv_init cfg os, hinit⟩]
  constructor
  · intro h pre hpre
    obtain ⟨hinv, hsound⟩ := h pre hpre
    exact ⟨hsound, hsound.noRevival hinv.up⟩
  · intro h pre hpre
    exact ⟨reachable_engineInv ⟨_, pre, ⟨cfg, os, rfl⟩, rfl⟩, (h pre hpre).1⟩

/-- The host's session does survive the radio: its binding is still there once session
management is inactive. -/
theorem userPlane_survives_radioOff :
    ¬ ∀ ctx, Reachable ctx → UserPlaneSound ctx ∧ NoRevival ctx := by
  intro h
  have hleft : ¬ UserPlaneSound (run exampleUe (sessionRun ++ [.setRadio false])) := by
    decide +kernel
  exact hleft (h _ (exampleUe_reachable _)).1

end VirtualLte.Engine
