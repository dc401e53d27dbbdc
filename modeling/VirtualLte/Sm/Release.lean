import VirtualLte.Sm.Runs

/-!
# Waiting for the network to release a session

A disconnect request turns an ACTIVE session into RELEASING and submits a release request.
The machine should then wait: for the release command, for at most 16 seconds.

* `SmTimed` is the machine with the clock of the first tick that found it RELEASING; that is
  the tick that started the release, whose last part arms the wait.
* `LeavesProperly` is the property of one step, `Undisturbed` the steps that have it.
  `sm_start_release_procedure` does not clear the disconnect request it acts on, and the
  next tick takes it for a request to stop whatever is not ACTIVE.
* `smRun_release_waits_iff` is the result for runs.
-/

namespace VirtualLte.Sm

open Transition

variable {N : Type}

/-- The machine, and the clock of the first tick in RELEASING. -/
structure SmTimed (N : Type) where
  machine : SmMachine N
  since : Option UInt64 := none

abbrev SmTimed.sm (s : SmTimed N) : UeSmCtx := s.machine.1

/-- The clock after an event, by the state it leads to. -/
def releaseSince (since : Option UInt64) (state : UeSmState) (e : SmEvent N) : Option UInt64 :=
  if state = .releasing then
    match e with
    | .tick nowMs _ => some (since.getD nowMs)
    | _ => since
  else none

def timedStep (network : SmNetwork N) (s : SmTimed N) (e : SmEvent N) : SmTimed N where
  machine := smStep network s.machine e
  since := releaseSince s.since (smStep network s.machine e).1.state e

/-- The network, the radio or the registration ends the session. -/
def SmEvent.endsSession : SmEvent N → Bool
  | .released => true
  | .radio on => !on
  | .forget => true
  | .tick _ mmRegistered => !mmRegistered
  | _ => false

/-- The event is a tick that comes 16 seconds or more after the first one in RELEASING. -/
def SmEvent.waited (since : Option UInt64) : SmEvent N → Bool
  | .tick nowMs _ => since.any fun t => t.toNat + 16000 ≤ nowMs.toNat
  | _ => false

/-- RELEASING is left when the session ends or the wait is over, and with no disconnect
request pending. -/
def LeavesProperly (network : SmNetwork N) (s : SmTimed N) (e : SmEvent N) : Prop :=
  s.sm.state = .releasing → (timedStep network s e).sm.state ≠ .releasing →
    (e.endsSession = true ∨ e.waited s.since = true) ∧
      (timedStep network s e).sm.disconnectRequested = false

instance (network : SmNetwork N) (s : SmTimed N) (e : SmEvent N) :
    Decidable (LeavesProperly network s e) :=
  inferInstanceAs (Decidable (_ → _ → _ ∧ _))

/-- The event is a tick with MM registered. -/
def SmEvent.isTick : SmEvent N → Bool
  | .tick _ mmRegistered => mmRegistered
  | _ => false

/-- A tick during the wait finds no disconnect request. -/
def Undisturbed (s : SmTimed N) (e : SmEvent N) : Prop :=
  e.isTick = true → s.sm.state = .releasing → e.waited s.since = false →
    s.sm.disconnectRequested = false

instance (s : SmTimed N) (e : SmEvent N) : Decidable (Undisturbed s e) :=
  inferInstanceAs (Decidable (_ → _ → _ → _))

/-- The deadline of a wait that this event starts does not wrap around. -/
def SmEvent.clockFits : SmEvent N → Prop
  | .tick nowMs _ => nowMs.toNat + 16000 < 2 ^ 64
  | _ => True

/-! ## One tick -/

section Tick

variable (network : SmNetwork N)

/-- A tick that does not start a release leaves the state outside RELEASING. -/
theorem smTickDisconnect_enters {sm : UeSmCtx} (hne : sm.state ≠ .releasing) (net : N) :
    (smTickDisconnect network sm net).1.state ≠ .releasing ∨
      (smTickDisconnect network sm net).1.holdsSession = true ∧
        (smTickDisconnect network sm net).1.procStep = .waitReleaseComplete ∧
        (smTickDisconnect network sm net).1.nextStepDeadlineMs = 0 := by
  unfold smTickDisconnect
  split
  · split
    · unfold smStartReleaseProcedure smHandleReleaseSubmitResult
      dsimp only
      split
      · exact .inr ⟨rfl, rfl, rfl⟩
      · exact .inl nofun
    · exact .inl nofun
  · exact .inl hne

theorem smTickConnect_ne_releasing {sm : UeSmCtx} (hne : sm.state ≠ .releasing) (net : N) :
    (smTickConnect network sm net).1.state ≠ .releasing := by
  unfold smTickConnect
  split
  · exact (smStartEstablishProcedure_establishment network _ net).ne_releasing
  · exact hne

/-- The tick that starts a release arms the wait for it. -/
theorem ueSmTick_enters {sm : UeSmCtx} (hne : sm.state ≠ .releasing) {nowMs : UInt64}
    {mmRegistered : Bool} {net : N}
    (h : (ueSmTick network sm nowMs mmRegistered net).1.state = .releasing) :
    (ueSmTick network sm nowMs mmRegistered net).1.nextStepDeadlineMs =
      nowMs + ueSmReleaseWaitMs := by
  unfold ueSmTick at h ⊢
  split at h
  · cases h
  rw [if_neg (by assumption)]
  dsimp only at h ⊢
  generalize hd : smTickDisconnect network sm net = d at h ⊢
  rcases hd ▸ smTickDisconnect_enters network hne net with hother | ⟨hheld, hstep, hunarmed⟩
  · have ht := smTickT3580_ne_releasing network nowMs
      (smTickConnect_ne_releasing network hother d.2) (smTickConnect network d.1 d.2).2
    rw [smTickRelease, if_neg (fun hcond => ht hcond.1)] at h
    exact absurd h ht
  · rw [smTickConnect_of_holdsSession network hheld, smTickT3580_of_holdsSession network nowMs hheld]
      at h ⊢
    dsimp only at h ⊢
    have hreleasing : d.1.state = .releasing := by
      by_contra hother
      rw [smTickRelease, if_neg (fun hcond => hother hcond.1)] at h
      exact hother h
    rw [smTickRelease, if_pos ⟨hreleasing, hstep⟩, if_pos hunarmed]

end Tick

/-! ## Steps -/

/-- In RELEASING the wait runs from the first tick on. -/
structure ReleaseInv (s : SmTimed N) : Prop where
  sm : SmInv s.sm
  armed : s.sm.state = .releasing →
    ∃ t, s.since = some t ∧ t.toNat + 16000 < 2 ^ 64 ∧
      s.sm.nextStepDeadlineMs = t + ueSmReleaseWaitMs
  unset : s.sm.state ≠ .releasing → s.since = none

theorem deadline_toNat {t : UInt64} (h : t.toNat + 16000 < 2 ^ 64) :
    (t + ueSmReleaseWaitMs).toNat = t.toNat + 16000 := by
  rw [UInt64.toNat_add]
  exact Nat.mod_eq_of_lt h

/-- While a wait runs, a registered tick without a disconnect request leaves RELEASING exactly
when the wait is over. -/
theorem smTickRelease_waits {sm : UeSmCtx} (h : SmInv sm) (hstate : sm.state = .releasing)
    {t : UInt64} (hfits : t.toNat + 16000 < 2 ^ 64)
    (hdeadline : sm.nextStepDeadlineMs = t + ueSmReleaseWaitMs) (nowMs : UInt64) :
    smTickRelease nowMs sm =
      if t.toNat + 16000 ≤ nowMs.toNat then smEnterInactive sm .releaseComplete true true
      else sm := by
  have hstep : sm.procStep = .waitReleaseComplete := (h.consistent.releasing.mp hstate).2
  have hnat := deadline_toNat hfits
  have harmed : ¬sm.nextStepDeadlineMs = 0 := by
    intro hzero
    rw [← hdeadline, hzero] at hnat
    simp at hnat
  have hpassed : nowMs ≥ sm.nextStepDeadlineMs ↔ t.toNat + 16000 ≤ nowMs.toNat := by
    rw [hdeadline, ge_iff_le, UInt64.le_iff_toNat_le, hnat]
  rw [smTickRelease, if_pos ⟨hstate, hstep⟩, if_neg harmed]
  simp only [hpassed]

variable (network : SmNetwork N)

/-- Only a tick enters RELEASING, and nothing else moves the deadline there. -/
theorem smStep_releasing {s : SmMachine N} {e : SmEvent N} (he : ∀ nowMs reg, e ≠ .tick nowMs reg)
    (h : (smStep network s e).1.state = .releasing) :
    s.1.state = .releasing ∧ (smStep network s e).1.nextStepDeadlineMs = s.1.nextStepDeadlineMs := by
  cases e with
  | connect dnn => exact ⟨h, rfl⟩
  | disconnect => exact ⟨h, rfl⟩
  | autoConnect =>
    simp only [smStep, smAutoConnect] at h ⊢
    split at h
    · rw [if_pos (by assumption)]
      exact ⟨h, rfl⟩
    · rw [if_neg (by assumption)]
      exact ⟨h, rfl⟩
  | tick nowMs reg => exact absurd rfl (he nowMs reg)
  | established =>
    simp only [smStep, ueSmOnPduSessionEstablished] at h ⊢
    split at h
    · cases h
    · rw [if_neg (by assumption)]
      exact ⟨h, rfl⟩
  | reject cause =>
    simp only [smStep, ueSmOnPduSessionReject] at h ⊢
    split at h
    · exact absurd h (smHandleEstablishRejectByProcedure_establishment network.recorded s.1 cause
        s.2).ne_releasing
    · rw [if_neg (by assumption)]
      exact ⟨h, rfl⟩
  | released =>
    simp only [smStep, ueSmOnPduSessionReleased] at h ⊢
    split at h
    · cases h
    · rw [if_neg (by assumption)]
      exact ⟨h, rfl⟩
  | radio on =>
    cases on with
    | false => cases h
    | true => exact ⟨h, rfl⟩
  | forget => cases h
  | elsewhere net => exact ⟨h, rfl⟩

/-- What a registered tick does to a wait. -/
theorem timedStep_tick {s : SmTimed N} (h : ReleaseInv s) (hstate : s.sm.state = .releasing)
    (nowMs : UInt64) :
    let e : SmEvent N := .tick nowMs true
    (timedStep network s e).sm =
      if s.sm.disconnectRequested then smEnterInactive s.sm .disconnectRequested false true
      else if e.waited s.since then smEnterInactive s.sm .releaseComplete true true
      else s.sm := by
  obtain ⟨t, hsince, hfits, hdeadline⟩ := h.armed hstate
  show (ueSmTick network.recorded s.machine.1 nowMs true s.machine.2).1 = _
  cases hdisconnect : s.sm.disconnectRequested with
  | true =>
    rw [ueSmTick_disconnect network.recorded h.sm (by rw [hstate]; exact nofun) hdisconnect]
    rfl
  | false =>
    rw [ueSmTick_releasing network.recorded hstate hdisconnect,
      smTickRelease_waits h.sm hstate hfits hdeadline]
    simp only [SmEvent.waited, hsince, Option.any_some, decide_eq_true_eq, Bool.false_eq_true,
      if_false]

theorem timedStep_inv {s : SmTimed N} (h : ReleaseInv s) {e : SmEvent N} (hfits : e.clockFits) :
    ReleaseInv (timedStep network s e) := by
  refine ⟨(smStep_inv network h.sm e).1, ?_, fun hne => if_neg hne⟩
  intro hafter
  by_cases htick : ∃ nowMs reg, e = .tick nowMs reg
  · obtain ⟨nowMs, reg, rfl⟩ := htick
    have hsince : (timedStep network s (.tick nowMs reg)).since = some (s.since.getD nowMs) :=
      if_pos hafter
    by_cases hbefore : s.sm.state = .releasing
    · -- the wait goes on
      obtain ⟨t, ht, hfit, hdeadline⟩ := h.armed hbefore
      cases reg with
      | false => cases hafter
      | true =>
        have hsm := timedStep_tick network h hbefore nowMs
        dsimp only at hsm
        have hkept : (timedStep network s (.tick nowMs true)).sm = s.sm := by
          split at hsm
          · rw [hsm] at hafter
            cases hafter
          split at hsm
          · rw [hsm] at hafter
            cases hafter
          · exact hsm
        exact ⟨t, by rw [hsince, ht]; rfl, hfit, by rw [hkept]; exact hdeadline⟩
    · -- the wait starts
      refine ⟨nowMs, by rw [hsince, h.unset hbefore]; rfl, hfits, ?_⟩
      exact ueSmTick_enters network.recorded hbefore hafter
  · have hother : ∀ nowMs reg, e ≠ .tick nowMs reg := fun nowMs reg heq => htick ⟨nowMs, reg, heq⟩
    obtain ⟨hbefore, hkept⟩ := smStep_releasing network hother hafter
    obtain ⟨t, ht, hfit, hdeadline⟩ := h.armed hbefore
    refine ⟨t, ?_, hfit, hkept.trans hdeadline⟩
    cases e with
    | tick nowMs reg => exact absurd rfl (hother nowMs reg)
    | _ => exact (if_pos hafter).trans ht

/-- An event other than a registered tick leaves RELEASING only by ending the session. -/
theorem leavesProperly_of_not_tick {s : SmTimed N} {e : SmEvent N}
    (he : ∀ nowMs, e ≠ .tick nowMs true) : LeavesProperly network s e := by
  intro hbefore hafter
  cases e with
  | connect dnn => exact absurd hbefore hafter
  | disconnect => exact absurd hbefore hafter
  | autoConnect =>
    refine absurd ?_ hafter
    show (smAutoConnect s.machine.1).state = .releasing
    rw [smAutoConnect, if_neg (by simp [UeSmCtx.atRest, hbefore])]
    exact hbefore
  | tick nowMs reg =>
    cases reg with
    | false => exact ⟨.inl rfl, rfl⟩
    | true => exact absurd rfl (he nowMs)
  | established =>
    refine absurd ?_ hafter
    show (ueSmOnPduSessionEstablished s.machine.1).state = .releasing
    rw [ueSmOnPduSessionEstablished, if_neg (by rw [hbefore]; decide)]
    exact hbefore
  | reject cause =>
    refine absurd ?_ hafter
    show (ueSmOnPduSessionReject network.recorded s.machine.1 cause s.machine.2).1.state = _
    rw [ueSmOnPduSessionReject, if_neg (by rw [hbefore]; rintro ⟨⟨⟩, -⟩)]
    exact hbefore
  | released =>
    refine ⟨.inl rfl, ?_⟩
    show (ueSmOnPduSessionReleased s.machine.1).disconnectRequested = false
    rw [ueSmOnPduSessionReleased, if_pos (.inl hbefore)]
    rfl
  | radio on =>
    cases on with
    | false => exact ⟨.inl rfl, rfl⟩
    | true => exact absurd hbefore hafter
  | forget => exact ⟨.inl rfl, rfl⟩
  | elsewhere net => exact absurd hbefore hafter

/-- A step leaves RELEASING properly exactly if it does not find a disconnect request during
the wait. -/
theorem leavesProperly_iff {s : SmTimed N} (h : ReleaseInv s) (e : SmEvent N) :
    LeavesProperly network s e ↔ Undisturbed s e := by
  by_cases htick : ∃ nowMs, e = .tick nowMs true
  · obtain ⟨nowMs, rfl⟩ := htick
    constructor
    · intro hproper _ hbefore hwaited
      by_contra hset
      have hdisconnect : s.sm.disconnectRequested = true := by simpa using hset
      have hsm := timedStep_tick network h hbefore nowMs
      dsimp only at hsm
      rw [if_pos hdisconnect] at hsm
      rcases (hproper hbefore (by rw [hsm]; exact nofun)).1 with hends | hdone
      · cases hends
      · exact absurd (hwaited.symm.trans hdone) nofun
    · intro hundisturbed hbefore hafter
      have hsm := timedStep_tick network h hbefore nowMs
      dsimp only at hsm
      by_cases hwaited : (SmEvent.tick nowMs true : SmEvent N).waited s.since = true
      · refine ⟨.inr hwaited, ?_⟩
        rw [hsm, if_pos hwaited]
        split
        · rfl
        · rfl
      · rw [if_neg (by rw [hundisturbed rfl hbefore (by simpa using hwaited)]; exact nofun), if_neg hwaited]
          at hsm
        exact absurd (hsm ▸ hbefore) hafter
  · have hother : ∀ nowMs, e ≠ .tick nowMs true := fun nowMs heq => htick ⟨nowMs, heq⟩
    refine iff_of_true (leavesProperly_of_not_tick network hother) fun htick => ?_
    cases e with
    | tick nowMs reg =>
      cases reg with
      | false => cases htick
      | true => exact absurd rfl (hother nowMs)
    | _ => cases htick

/-! ## Runs -/

theorem smStart_releaseInv (dnn pduType : Bytes) (net : N) :
    ReleaseInv { machine := smStart dnn pduType net } :=
  ⟨smStart_inv dnn pduType net, nofun, fun _ => rfl⟩

/-- Every release of a run waits for the network exactly if no tick finds a disconnect request
while it does. -/
theorem smRun_release_waits_iff (dnn pduType : Bytes) (net : N) (es : List (SmEvent N))
    (hclock : ∀ e ∈ es, e.clockFits) :
    Along (timedStep network) (LeavesProperly network) { machine := smStart dnn pduType net } es ↔
      Along (timedStep network) Undisturbed { machine := smStart dnn pduType net } es :=
  along_congr (fun _ _ hinv hfits => timedStep_inv network hinv hfits)
    (fun _ e hinv _ => leavesProperly_iff network hinv e) (smStart_releaseInv dnn pduType net)
    (along_of_mem hclock _)

/-- A session is established and the host disconnects; the tick at `releaseMs` starts the
release. -/
def releaseStarted (releaseMs : UInt64) : List (SmEvent Unit) :=
  [.connect [0x61], .tick 1 true, .established, .disconnect, .tick releaseMs true]

/-- A connect request takes the disconnect request back: the release then waits. -/
theorem smRun_release_waits_connect :
    Along (timedStep acceptAll) (LeavesProperly acceptAll) { machine := smStart [0x61] [] () }
      (releaseStarted 2 ++ [.connect [0x61], .tick 3 true, .tick 16001 true, .tick 16002 true]) := by
  refine (smRun_release_waits_iff acceptAll [0x61] [] () _ ?_).mpr ?_
  · simp [releaseStarted, SmEvent.clockFits]
  · decide +kernel

/-- Otherwise the next tick ends it, 100 ms after it was started. -/
theorem release_abandoned :
    let s := run (timedStep acceptAll) { machine := smStart [0x61] [] () } (releaseStarted 2)
    s.sm.state = .releasing ∧ (timedStep acceptAll s (.tick 102 true)).sm.state = .inactive ∧
      ¬LeavesProperly acceptAll s (.tick 102 true) := by
  decide +kernel

end VirtualLte.Sm
