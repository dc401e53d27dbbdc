import VirtualLte.Engine.Link

/-!
# The core-response window

`waiting_core_response` is set when a Registration Request has gone out and is
cleared by its answer or by a time-out.  While it is set the MM timer rests and the
search step does not run, so it had better imply that MM is REGISTERING.

* `WindowSound` is that implication.
* `windowStep` names the steps that keep it: an RRCSetup is handled in REGISTERING
  only, and the radio is not switched on a second time while the window is open.
* `coreWindow_iff` says that these are exactly the steps that keep it along a run.
-/

namespace VirtualLte.Engine

open Nas Ran Mm Sm Up Rrc

/-- An open window belongs to a registration under way. -/
def WindowSound (ctx : UeContext) : Prop :=
  ctx.waitingCoreResponse = true → ctx.mm.state = .registering

/-- MM searches on behalf of a request, and the window holds back both its time-out and
its move to REGISTERING. -/
def RegistrationBlocked (ctx : UeContext) : Prop :=
  ctx.mm.state = .searching ∧ ctx.mm.registerRequested = true ∧ ctx.waitingCoreResponse = true

instance (ctx : UeContext) : Decidable (RegistrationBlocked ctx) :=
  inferInstanceAs (Decidable (_ ∧ _))

theorem WindowSound.not_blocked {ctx : UeContext} (h : WindowSound ctx) :
    ¬ RegistrationBlocked ctx := by
  rintro ⟨hsearching, -, hwait⟩
  rw [h hwait] at hsearching
  cases hsearching

/-- The steps that keep the window sound. -/
def windowStep (ctx : UeContext) : Step → Bool
  | .recv _ =>
    match recvAction ctx with
    | .rrcSetup _ => ctx.mm.state = .registering
    | _ => true
  | .setRadio on => !(on && ctx.radioOn && ctx.waitingCoreResponse)
  | _ => true

/-! ## One step -/

theorem tickHead_windowSound {ctx : UeContext} (nowMs : UInt64) (h : WindowSound ctx) :
    WindowSound (tickHead ctx nowMs) := by
  unfold tickHead
  split
  · intro hwait
    cases hwait
  · have hloss : WindowSound (ranLossRecovery ctx) := by
      unfold ranLossRecovery
      split
      · intro hwait
        cases hwait
      · exact h
    -- the MM timer runs only while the window is closed
    intro hwait
    have hwait' : (ranLossRecovery ctx).waitingCoreResponse = true := hwait
    simp only [mmSmTick, hwait', if_true]
    exact hloss hwait'

theorem tickTail_windowSound {ctx : UeContext} (nowMs : UInt64) (h : WindowSound ctx) :
    WindowSound (tickTail ctx nowMs) := by
  rcases tickTail_kept ctx nowMs with heq | ⟨mid, hkept, heq⟩
  · rw [heq]
    exact h
  · rw [heq]
    exact fun hwait => (hkept.window hwait).elim (fun ha => hkept.registering (h ha)) id

theorem decodeAndProcessNas_windowSound {ctx : UeContext} (pdu : Bytes) (h : WindowSound ctx) :
    WindowSound (decodeAndProcessNas ctx pdu) := by
  intro hwait
  obtain ⟨hreg, -, -⟩ := decodeAndProcessNas_reg ctx pdu
  cases hreg with
  | same hmm hsame =>
    rw [hmm]
    exact h (hsame ▸ hwait)
  | accept assigned hmm hclosed =>
    rw [hclosed] at hwait
    cases hwait
  | reject cause hmm hclosed =>
    rw [hclosed] at hwait
    cases hwait

/-- RRCSetup opens the window, so it keeps it sound in REGISTERING and nowhere else. -/
theorem engineHandleRrcSetup_windowSound_iff (ctx : UeContext) (txId : UInt8) (nowMs : UInt64) :
    WindowSound (engineHandleRrcSetup ctx txId nowMs) ↔ ctx.mm.state = .registering := by
  obtain ⟨net, hsend⟩ := sendSetupComplete_frame ctx txId
  simp only [engineHandleRrcSetup, hsend]
  exact ⟨fun h => h rfl, fun h _ => h⟩

theorem recvStep_windowSound_iff {ctx : UeContext} (nowMs : UInt64) (h : WindowSound ctx) :
    windowStep ctx (.recv nowMs) = true ↔ WindowSound (recvStep ctx nowMs) := by
  obtain ⟨queue, count, -, hrecv⟩ := recvStep_eq ctx nowMs
  rw [hrecv]
  simp only [windowStep]
  cases recvAction ctx with
  | rrcSetup txId =>
    simp only [performDl, engineHandleRrcSetup_windowSound_iff, decide_eq_true_eq, receiving]
  | nas pdu =>
    simp only [performDl, true_iff]
    exact decodeAndProcessNas_windowSound pdu h
  | ignore =>
    simp only [performDl, true_iff]
    exact h

theorem noteChanges_windowSound {a b : UeContext} : WindowSound (noteChanges a b) ↔ WindowSound b :=
  Iff.rfl

/-- Switching on keeps the window of a radio that was on already. -/
theorem radioOnStart_waiting (ctx : UeContext) :
    (radioOnStart ctx).waitingCoreResponse = (ctx.radioOn && ctx.waitingCoreResponse) := by
  obtain ⟨ran, hstart⟩ := radioOnStart_frame ctx
  rw [hstart]
  cases ctx.radioOn with
  | true => rfl
  | false => rfl

theorem ueMmRequestRegister_state_ne {mm : UeMmCtx} (h : mm.state = .deregistered) :
    (ueMmRequestRegister mm).state ≠ .registering := by
  simp [ueMmRequestRegister, mmRequest, mmInvokePendingRegistration, mmStartRegistrationProcedure,
    h]

/-- Switching the radio on leaves REGISTERING, so an open window must not survive it. -/
theorem ueEngineSetRadio_windowSound_iff (ctx : UeContext) (on : Bool) :
    WindowSound (ueEngineSetRadio ctx on) ↔
      ¬ (on = true ∧ ctx.radioOn = true ∧ ctx.waitingCoreResponse = true) := by
  unfold ueEngineSetRadio
  rw [noteChanges_windowSound]
  cases on with
  | false =>
    simp only [Bool.false_eq_true, false_and, if_false, not_false_eq_true, iff_true]
    intro hwait
    cases hwait
  | true =>
    simp only [if_true, true_and]
    have hstate : ∀ c : UeContext, c.mm.state ≠ .registering →
        (WindowSound c ↔ ¬ c.waitingCoreResponse = true) :=
      fun c hc => ⟨fun h hwait => hc (h hwait), fun h hwait => absurd hwait h⟩
    split
    · rename_i hdereg
      rw [hstate _ (ueMmRequestRegister_state_ne hdereg)]
      simp only [radioOnStart_waiting, Bool.and_eq_true]
    · rename_i hdereg
      rw [hstate]
      · simp only [radioOnStart_waiting, Bool.and_eq_true]
      · rcases ueMmOnRadio_state (radioOnStart ctx).mm true with h | h | h
        · rw [h]
          exact nofun
        · rw [h]
          exact nofun
        · exact absurd h hdereg

/-- `windowStep` names exactly the steps that keep the window sound. -/
theorem windowStep_iff (ctx : UeContext) (e : Step) (h : WindowSound ctx) :
    windowStep ctx e = true ↔ WindowSound (step ctx e) := by
  cases e with
  | recv nowMs => exact recvStep_windowSound_iff nowMs h
  | setRadio on =>
    simp only [step, ueEngineSetRadio_windowSound_iff, windowStep, Bool.not_eq_true',
      ← Bool.not_eq_true, Bool.and_eq_true, and_assoc]
  | tickHead nowMs => exact iff_of_true rfl (tickHead_windowSound nowMs h)
  | tickTail nowMs => exact iff_of_true rfl (tickTail_windowSound nowMs h)
  | requestRegister => exact iff_of_true rfl fun hwait => mmRequest_registering _ _ (h hwait)
  | requestPeriodicUpdate => exact iff_of_true rfl fun hwait => mmRequest_registering _ _ (h hwait)
  | requestMobilityUpdate => exact iff_of_true rfl fun hwait => mmRequest_registering _ _ (h hwait)
  | requestConnect dnn => exact iff_of_true rfl h
  | requestDisconnect => exact iff_of_true rfl h
  | requestImsPdu =>
    refine iff_of_true rfl ?_
    obtain ⟨_, _, _, _, _, heq⟩ := ueEngineRequestImsPdu_frame ctx
    rw [step, heq]
    exact h
  | rx nowMs dgrams recvError => exact iff_of_true rfl h
  | os answers => exact iff_of_true rfl h

/-! ## Whole runs -/

theorem windowSound_init (cfg : UeInstanceConfig) (os : OsAnswers) :
    WindowSound (ueContextInitFromConfig cfg os) := by
  intro hwait
  cases hwait

/-- A run keeps the window sound in every state it reaches, and so never blocks
registration, if and only if all its steps are `windowStep`s. -/
theorem coreWindow_iff (cfg : UeInstanceConfig) (os : OsAnswers) (es : List Step) :
    Transition.Along step (fun ctx e => windowStep ctx e = true)
        (ueContextInitFromConfig cfg os) es ↔
      ∀ pre, pre <+: es →
        WindowSound (run (ueContextInitFromConfig cfg os) pre) ∧
          ¬ RegistrationBlocked (run (ueContextInitFromConfig cfg os) pre) := by
  rw [Transition.along_iff_prefixes windowStep_iff (windowSound_init cfg os)]
  constructor
  · intro h pre hpre
    exact ⟨h pre hpre, (h pre hpre).not_blocked⟩
  · intro h pre hpre
    exact (h pre hpre).1

/-- An RRCSetup nobody asked for, right after power-on. -/
def unsolicitedSetup : List Step :=
  .setRadio true :: deliver exampleGnb 1 ueRrcChannelDlCcch [0x20]

/-- The window does open outside REGISTERING, and blocks the registration it was opened in. -/
theorem coreWindow_blocks :
    ¬ ∀ ctx, Reachable ctx → WindowSound ctx ∧ ¬ RegistrationBlocked ctx := by
  intro h
  have hblocked : RegistrationBlocked (run exampleUe unsolicitedSetup) := by decide +kernel
  exact (h _ (exampleUe_reachable unsolicitedSetup)).2 hblocked

end VirtualLte.Engine
