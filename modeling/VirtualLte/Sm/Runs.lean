import VirtualLte.Lib.Run
import VirtualLte.Sm

/-!
# The session machine over whole runs

The machine of `ue_sm.c` under everything that can happen to it, with a network adapter
that answers each submission as it likes.

* `SmNetwork.recorded` is an adapter that notes the establishment requests it is given.
* `SmEvent` is the list of the machine's entry points and of what the engine does to it:
  the automatic connect of `engine_real_tick`, and the clearing of the machine when the
  network context is forgotten.
* `SmPhase` says which procedure and step go with each state, `SmConsistent` is the same
  read from both sides, with the bounds on the two counters.
* `submissionsLeft` bounds the requests that can still be submitted without a new connect
  request.  Every other event pays for what it submits (`smStep_pays`).
* `smRun_consistent_and_bounded` is the result; an automatic connect counts as a connect
  request in it, and `autoConnect_resubmits` shows that it has to.
-/

namespace VirtualLte.Sm

open Transition Mm

/-! ## Events -/

/-- What the adapter acts on, and the establishment requests it was given. -/
structure Recorded (N : Type) where
  net : N
  submitted : List UeSmPduSessionEstRequest := []

def SmNetwork.recorded {N : Type} (network : SmNetwork N) : SmNetwork (Recorded N) where
  submitEstablish q r :=
    let answer := network.submitEstablish q r.net
    (answer.1, { net := answer.2, submitted := r.submitted ++ [q] })
  submitRelease q r :=
    let answer := network.submitRelease q r.net
    (answer.1, { r with net := answer.2 })

/-- The machine waits for a request, and there is none. -/
def UeSmCtx.atRest (sm : UeSmCtx) : Bool :=
  sm.state = .inactive && !sm.connectRequested && !sm.disconnectRequested

/-- The automatic connect: the flag is set without anything else that a connect request
does. -/
def smAutoConnect (sm : UeSmCtx) : UeSmCtx :=
  if sm.atRest then { sm with connectRequested := true } else sm

inductive SmEvent (N : Type) where
  | connect (dnn : Bytes)
  | disconnect
  | autoConnect
  | tick (nowMs : UInt64) (mmRegistered : Bool)
  | established
  | reject (cause : UeSmPduRejectCause)
  | released
  | radio (on : Bool)
  /-- The engine forgets the network context and takes the radio down. -/
  | forget
  /-- Another part of the engine uses the network. -/
  | elsewhere (net : N)

abbrev SmMachine (N : Type) := UeSmCtx × Recorded N

section Machine

variable {N : Type} (network : SmNetwork N)

def smStep (s : SmMachine N) : SmEvent N → SmMachine N
  | .connect dnn => (ueSmRequestConnect s.1 dnn, s.2)
  | .disconnect => (ueSmRequestDisconnect s.1, s.2)
  | .autoConnect => (smAutoConnect s.1, s.2)
  | .tick nowMs mmRegistered => ueSmTick network.recorded s.1 nowMs mmRegistered s.2
  | .established => (ueSmOnPduSessionEstablished s.1, s.2)
  | .reject cause => ueSmOnPduSessionReject network.recorded s.1 cause s.2
  | .released => (ueSmOnPduSessionReleased s.1, s.2)
  | .radio on => (ueSmOnRadio s.1 on, s.2)
  | .forget => (ueSmOnRadio (smClearRuntime s.1) false, s.2)
  | .elsewhere net => (s.1, { s.2 with net })

/-- The machine as `ue_context_init` leaves it. -/
def smStart (dnn pduType : Bytes) (net : N) : SmMachine N :=
  (ueSmSetProfile (ueSmInit dnn) dnn pduType, { net })

def SmEvent.isConnect : SmEvent N → Bool
  | .connect _ => true
  | _ => false

/-- The event is a connect request, or an automatic connect that takes effect. -/
def SmEvent.requestsConnect (s : SmMachine N) : SmEvent N → Bool
  | .connect _ => true
  | .autoConnect => s.1.atRest
  | _ => false

end Machine

/-! ## Invariant -/

/-- The procedure and step that go with each state. -/
inductive SmPhase (sm : UeSmCtx) : Prop
  | idle (hstate : sm.state = .inactive ∨ sm.state = .active) (hprocedure : sm.procedure = .idle)
      (hstep : sm.procStep = .none)
  | establishing (hstate : sm.state = .establishing) (hprocedure : sm.procedure = .establishPdu)
      (hstep : sm.procStep = .waitEstablishResponse)
  | releasing (hstate : sm.state = .releasing) (hprocedure : sm.procedure = .releasePdu)
      (hstep : sm.procStep = .waitReleaseComplete)

structure SmConsistent (sm : UeSmCtx) : Prop where
  establishing : sm.state = .establishing ↔
    sm.procedure = .establishPdu ∧ sm.procStep = .waitEstablishResponse
  releasing : sm.state = .releasing ↔
    sm.procedure = .releasePdu ∧ sm.procStep = .waitReleaseComplete
  idle : sm.state = .inactive ∨ sm.state = .active → sm.procedure = .idle ∧ sm.procStep = .none
  retransmissions : sm.estRetxCount ≤ ueSmT3580MaxRetx
  retries : sm.retryCount ≤ sm.maxRetries

structure SmInv (sm : UeSmCtx) : Prop where
  phase : SmPhase sm
  retransmissions : sm.estRetxCount ≤ ueSmT3580MaxRetx
  retries : sm.retryCount ≤ sm.maxRetries
  exclusive : sm.connectRequested = true → sm.disconnectRequested = false

theorem SmInv.consistent {sm : UeSmCtx} (h : SmInv sm) : SmConsistent sm := by
  refine ⟨?_, ?_, ?_, h.retransmissions, h.retries⟩
  all_goals
    cases h.phase with
    | idle hstate hprocedure hstep => rcases hstate with hstate | hstate <;> simp_all
    | establishing hstate hprocedure hstep => simp_all
    | releasing hstate hprocedure hstep => simp_all

theorem SmPhase.congr {sm sm' : UeSmCtx} (h : SmPhase sm) (hstate : sm'.state = sm.state)
    (hprocedure : sm'.procedure = sm.procedure) (hstep : sm'.procStep = sm.procStep) :
    SmPhase sm' := by
  cases h with
  | idle hs hp ht => exact .idle (hstate ▸ hs) (hprocedure.trans hp) (hstep.trans ht)
  | establishing hs hp ht =>
    exact .establishing (hstate.trans hs) (hprocedure.trans hp) (hstep.trans ht)
  | releasing hs hp ht =>
    exact .releasing (hstate.trans hs) (hprocedure.trans hp) (hstep.trans ht)

/-- A disconnect request has taken back the connect request. -/
theorem SmInv.not_connect {sm : UeSmCtx} (h : SmInv sm) (hdisconnect : sm.disconnectRequested = true) :
    sm.connectRequested = false := by
  by_contra hset
  exact absurd (h.exclusive (by simpa using hset)) (by simp [hdisconnect])

/-! ### One tick, by what it finds -/

section Tick

variable {N : Type} (network : SmNetwork N)

/-- A disconnect request stops whatever is not ACTIVE. -/
theorem ueSmTick_disconnect {sm : UeSmCtx} (h : SmInv sm) (hstate : sm.state ≠ .active)
    (hdisconnect : sm.disconnectRequested = true) (nowMs : UInt64) (net : N) :
    ueSmTick network sm nowMs true net =
      (smEnterInactive sm .disconnectRequested false true, net) := by
  have hconnect := h.not_connect hdisconnect
  have hd : smTickDisconnect network sm net =
      (smEnterInactive sm .disconnectRequested false true, net) := by
    simp [smTickDisconnect, hdisconnect, hstate]
  have hc : smTickConnect network (smEnterInactive sm .disconnectRequested false true) net =
      (smEnterInactive sm .disconnectRequested false true, net) := by
    simp [smTickConnect, smEnterInactive, hconnect]
  simp only [ueSmTick, hd, hc]
  rfl

/-- Without one only the deadline of a release counts. -/
theorem ueSmTick_releasing {sm : UeSmCtx} (hstate : sm.state = .releasing)
    (hdisconnect : sm.disconnectRequested = false) (nowMs : UInt64) (net : N) :
    ueSmTick network sm nowMs true net = (smTickRelease nowMs sm, net) := by
  have hheld : sm.holdsSession = true := by simp [UeSmCtx.holdsSession, hstate]
  have hd : smTickDisconnect network sm net = (sm, net) := by simp [smTickDisconnect, hdisconnect]
  simp only [ueSmTick, hd, smTickConnect_of_holdsSession network hheld,
    smTickT3580_of_holdsSession network nowMs hheld]
  rfl

theorem smTickT3580_ne_releasing (nowMs : UInt64) {sm : UeSmCtx} (hne : sm.state ≠ .releasing)
    (net : N) : (smTickT3580 network nowMs sm net).1.state ≠ .releasing := by
  unfold smTickT3580
  repeat' split
  all_goals first | exact hne | exact nofun

/-- A tick that finds neither a request nor a procedure does nothing. -/
theorem ueSmTick_idle {sm : UeSmCtx}
    (hdisconnect : sm.disconnectRequested = false)
    (hstate : sm.state = .inactive ∧ sm.connectRequested = false ∨ sm.state = .active)
    (nowMs : UInt64) (net : N) : ueSmTick network sm nowMs true net = (sm, net) := by
  have hd : smTickDisconnect network sm net = (sm, net) := by simp [smTickDisconnect, hdisconnect]
  have hc : smTickConnect network sm net = (sm, net) := by
    rcases hstate with ⟨_, hconnect⟩ | hactive
    · simp [smTickConnect, hconnect]
    · simp [smTickConnect, hactive]
  have ht : smTickT3580 network nowMs sm net = (sm, net) := by
    rcases hstate with ⟨hinactive, _⟩ | hactive
    · simp [smTickT3580, hinactive]
    · simp [smTickT3580, hactive]
  have hr : smTickRelease nowMs sm = sm := by
    rcases hstate with ⟨hinactive, _⟩ | hactive
    · simp [smTickRelease, hinactive]
    · simp [smTickRelease, hactive]
  simp only [ueSmTick, hd, hc, ht, hr]
  rfl

theorem ueSmTick_establishing {sm : UeSmCtx}
    (hdisconnect : sm.disconnectRequested = false) (hstate : sm.state = .establishing)
    (nowMs : UInt64) (net : N) :
    ueSmTick network sm nowMs true net = smTickT3580 network nowMs sm net := by
  have hd : smTickDisconnect network sm net = (sm, net) := by simp [smTickDisconnect, hdisconnect]
  have hc : smTickConnect network sm net = (sm, net) := by simp [smTickConnect, hstate]
  have hr : ∀ sm' : UeSmCtx, sm'.state ≠ .releasing → smTickRelease nowMs sm' = sm' := by
    intro sm' hne
    simp [smTickRelease, hne]
  have hne := smTickT3580_ne_releasing network nowMs (by rw [hstate]; decide) net
  simp only [ueSmTick, hd, hc, hr _ hne]
  rfl

theorem ueSmTick_connect {sm : UeSmCtx}
    (hdisconnect : sm.disconnectRequested = false) (hstate : sm.state = .inactive)
    (hconnect : sm.connectRequested = true) (nowMs : UInt64) (net : N) :
    ueSmTick network sm nowMs true net =
      let c := smStartEstablishProcedure network { sm with connectRequested := false } net
      let t := smTickT3580 network nowMs c.1 c.2
      (smTickRelease nowMs t.1, t.2) := by
  have hd : smTickDisconnect network sm net = (sm, net) := by simp [smTickDisconnect, hdisconnect]
  have hc : smTickConnect network sm net =
      smStartEstablishProcedure network { sm with connectRequested := false } net :=
    if_pos ⟨hconnect, hstate⟩
  simp only [ueSmTick, hd, hc]
  rfl

/-- A release that is submitted is armed by the same tick. -/
theorem ueSmTick_release {sm : UeSmCtx}
    (hrel : ∀ q n, (network.submitRelease q n).1.submitted = true)
    (hdisconnect : sm.disconnectRequested = true) (hstate : sm.state = .active) (nowMs : UInt64)
    (net : N) :
    ueSmTick network sm nowMs true net =
      ({ smAllocPti sm with
          state := .releasing
          procedure := .releasePdu
          procStep := .waitReleaseComplete
          lastRejectCauseCode := .none
          nextStepDeadlineMs := nowMs + ueSmReleaseWaitMs },
        (smStartReleaseProcedure network sm net).2) := by
  have hd : smTickDisconnect network sm net = smStartReleaseProcedure network sm net := by
    rw [smTickDisconnect, if_pos hdisconnect, if_pos hstate]
  have hsm : (smStartReleaseProcedure network sm net).1 =
      { smAllocPti sm with
        state := .releasing
        procedure := .releasePdu
        procStep := .waitReleaseComplete
        lastRejectCauseCode := .none
        nextStepDeadlineMs := 0 } := by
    simp only [smStartReleaseProcedure, smHandleReleaseSubmitResult, hrel, if_true]
  have hheld : (smStartReleaseProcedure network sm net).1.holdsSession = true := by
    rw [hsm]
    rfl
  unfold ueSmTick
  rw [if_neg (by decide)]
  dsimp only
  rw [hd, smTickConnect_of_holdsSession network hheld,
    smTickT3580_of_holdsSession network nowMs hheld, hsm]
  rfl

end Tick

/-! ## What is left of a connect request -/

/-- The requests of an attempt and of the retries that are left after it. -/
def UeSmCtx.attemptsLeft (sm : UeSmCtx) : Nat :=
  5 * (1 + (sm.maxRetries.toNat - sm.retryCount.toNat))

/-- The requests that can still be submitted without a new connect request. -/
def UeSmCtx.submissionsLeft (sm : UeSmCtx) : Nat :=
  match sm.state with
  | .inactive => if sm.connectRequested then sm.attemptsLeft else 0
  | .establishing => sm.attemptsLeft - 1 - sm.estRetxCount.toNat
  | .active => 0
  | .releasing => 0

/-- What an event other than a connect request does: it keeps the invariant and pays for the
requests it submits, out of `budget`. -/
structure SmPaysFrom {N : Type} (budget : Nat) (s s' : SmMachine N) : Prop where
  inv : SmInv s'.1
  maxRetries : s'.1.maxRetries = s.1.maxRetries
  pays : s'.2.submitted.length + s'.1.submissionsLeft ≤ s.2.submitted.length + budget

abbrev SmPays {N : Type} (s s' : SmMachine N) : Prop := SmPaysFrom s.1.submissionsLeft s s'

section Payments

variable {N : Type}

theorem SmPaysFrom.trans {s t u : SmMachine N} (hst : SmPays s t) (htu : SmPays t u) : SmPays s u :=
  ⟨htu.inv, htu.maxRetries.trans hst.maxRetries, Nat.le_trans htu.pays hst.pays⟩

theorem smPays_refl {s : SmMachine N} (h : SmInv s.1) : SmPays s s := ⟨h, rfl, Nat.le_refl _⟩

/-- What ends without a connect request in INACTIVE submits nothing any more. -/
theorem smPays_of_inactive {sm sm' : UeSmCtx} {net net' : Recorded N} {budget : Nat}
    (hstate : sm'.state = .inactive) (hprocedure : sm'.procedure = .idle) (hstep : sm'.procStep = .none)
    (hretx : sm'.estRetxCount ≤ ueSmT3580MaxRetx) (hretries : sm'.retryCount ≤ sm'.maxRetries)
    (hconnect : sm'.connectRequested = false) (hmax : sm'.maxRetries = sm.maxRetries)
    (hnet : net'.submitted.length ≤ net.submitted.length + budget) :
    SmPaysFrom budget (sm, net) (sm', net') where
  inv := ⟨.idle (.inl hstate) hprocedure hstep, hretx, hretries, by simp [hconnect]⟩
  maxRetries := hmax
  pays := by
    have hzero : sm'.submissionsLeft = 0 := by simp [UeSmCtx.submissionsLeft, hstate, hconnect]
    simp only [hzero]
    omega

theorem attemptsLeft_pos (sm : UeSmCtx) : 5 ≤ sm.attemptsLeft := by
  unfold UeSmCtx.attemptsLeft
  omega

/-- Arming a timer submits nothing. -/
theorem submissionsLeft_setDeadline (sm : UeSmCtx) (ms : UInt64) :
    { sm with nextStepDeadlineMs := ms }.submissionsLeft = sm.submissionsLeft := by
  unfold UeSmCtx.submissionsLeft UeSmCtx.attemptsLeft
  rfl

/-! ### Establishing -/

/-- The next attempt has five requests less. -/
theorem smRetry_left {sm : UeSmCtx} (h : sm.retryCount < sm.maxRetries)
    (cause : UeSmPduRejectCause) :
    (smRetry sm cause).retryCount ≤ (smRetry sm cause).maxRetries ∧
      (smRetry sm cause).attemptsLeft + 5 = sm.attemptsLeft := by
  have hcount := toNat_succ_of_lt h
  have hlt := UInt8.lt_iff_toNat_lt.mp h
  refine ⟨UInt8.le_iff_toNat_le.mpr (hcount.le.trans hlt), ?_⟩
  show 5 * (1 + (sm.maxRetries.toNat - (sm.retryCount + 1).toNat)) + 5 = _
  rw [hcount, UeSmCtx.attemptsLeft]
  omega

variable (network : SmNetwork N)

theorem smSubmitFirst_submitted (sm : UeSmCtx) (net : Recorded N) :
    (smSubmitFirst network.recorded sm net).2.submitted.length = net.submitted.length + 1 :=
  List.length_append

/-- Whatever the adapter answers, the recursion ends with the retries. -/
theorem smStartEstablishFuel_pays (fuel : Nat) (sm : UeSmCtx) (net : Recorded N) :
    fuel = sm.maxRetries.toNat - sm.retryCount.toNat → sm.retryCount ≤ sm.maxRetries →
      sm.disconnectRequested = false →
      SmPaysFrom sm.attemptsLeft (sm, net) (smStartEstablishFuel network.recorded fuel sm net) := by
  refine smStartEstablishFuel_induction network.recorded
    (motive := fun fuel sm net out => fuel = sm.maxRetries.toNat - sm.retryCount.toNat →
      sm.retryCount ≤ sm.maxRetries → sm.disconnectRequested = false →
      SmPaysFrom sm.attemptsLeft (sm, net) out) ?_ ?_ ?_ ?_ fuel sm net
  · intro fuel sm net _ hretries hdisconnect
    refine ⟨⟨.establishing rfl rfl rfl, UInt8.zero_le, hretries, fun _ => hdisconnect⟩, rfl, ?_⟩
    -- four retransmissions and the retries are left
    show (smSubmitFirst network.recorded sm net).2.submitted.length + (sm.attemptsLeft - 1 - 0) ≤
      net.submitted.length + sm.attemptsLeft
    have hpos := attemptsLeft_pos sm
    rw [smSubmitFirst_submitted]
    omega
  · intro fuel sm net cause _ _ _
    refine smPays_of_inactive rfl rfl rfl UInt8.zero_le UInt8.zero_le rfl rfl ?_
    have hpos := attemptsLeft_pos sm
    rw [smSubmitFirst_submitted]
    omega
  · -- without fuel there is no retry left
    intro sm net cause hleft hfuel
    have hlt := UInt8.lt_iff_toNat_lt.mp hleft
    omega
  · intro fuel sm net cause out hleft hnext hfuel _ _
    have hcount := toNat_succ_of_lt hleft
    obtain ⟨hretries, hattempts⟩ := @smRetry_left (smBeginEstablish sm) hleft cause
    obtain ⟨hinv, hmax, hpays⟩ := hnext
      (show fuel = sm.maxRetries.toNat - (sm.retryCount + 1).toNat by omega) hretries rfl
    refine ⟨hinv, hmax, Nat.le_trans hpays ?_⟩
    have hsame : (smBeginEstablish sm).attemptsLeft = sm.attemptsLeft := rfl
    dsimp only
    rw [smSubmitFirst_submitted]
    omega

/-! ### The parts of a tick -/

theorem smTickDisconnect_pays {sm : UeSmCtx} (h : SmInv sm) (net : Recorded N) :
    SmPays (sm, net) (smTickDisconnect network.recorded sm net) := by
  unfold smTickDisconnect
  split
  · rename_i hdisconnect
    have hconnect := h.not_connect hdisconnect
    split
    · unfold smStartReleaseProcedure smHandleReleaseSubmitResult
      dsimp only
      split
      · refine ⟨⟨.releasing rfl rfl rfl, h.retransmissions, h.retries, ?_⟩, rfl, ?_⟩
        · exact fun hset => absurd (hconnect.symm.trans hset) nofun
        · exact Nat.add_le_add_left (Nat.zero_le _) _
      · exact smPays_of_inactive rfl rfl rfl h.retransmissions UInt8.zero_le rfl rfl
          (Nat.le_add_right _ _)
    · exact smPays_of_inactive rfl rfl rfl h.retransmissions h.retries hconnect rfl
        (Nat.le_add_right _ _)
  · exact smPays_refl h

theorem smTickConnect_pays {sm : UeSmCtx} (h : SmInv sm) (net : Recorded N) :
    SmPays (sm, net) (smTickConnect network.recorded sm net) := by
  unfold smTickConnect
  split
  · rename_i hcond
    obtain ⟨hinv, hmax, hpays⟩ := smStartEstablishFuel_pays network _
      { sm with connectRequested := false } net rfl h.retries (h.exclusive hcond.1)
    refine ⟨hinv, hmax, Nat.le_trans hpays ?_⟩
    have hleft : sm.submissionsLeft = sm.attemptsLeft := by
      simp [UeSmCtx.submissionsLeft, hcond.1, hcond.2]
    simp only [hleft]
    exact Nat.le_refl _
  · exact smPays_refl h

theorem smTickT3580_pays (nowMs : UInt64) {sm : UeSmCtx} (h : SmInv sm) (net : Recorded N) :
    SmPays (sm, net) (smTickT3580 network.recorded nowMs sm net) := by
  unfold smTickT3580
  split
  · rename_i hcond
    split
    · refine ⟨⟨h.phase.congr rfl rfl rfl, h.retransmissions, h.retries, h.exclusive⟩, rfl, ?_⟩
      exact Nat.le_of_eq (by rw [submissionsLeft_setDeadline])
    split
    · split
      · rename_i hmore
        have hmoreNat := UInt8.lt_iff_toNat_lt.mp hmore
        have hfour : ueSmT3580MaxRetx.toNat = 4 := rfl
        have hcount := toNat_succ_of_lt hmore
        refine ⟨⟨h.phase.congr rfl rfl rfl, ?_, h.retries, h.exclusive⟩, rfl, ?_⟩
        · exact UInt8.le_iff_toNat_le.mpr (by rw [hcount]; exact hmoreNat)
        · have hpos := attemptsLeft_pos sm
          have hbefore : sm.submissionsLeft = sm.attemptsLeft - 1 - sm.estRetxCount.toNat := by
            simp [UeSmCtx.submissionsLeft, hcond.1]
          have hafter : { sm with
              estRetxCount := sm.estRetxCount + 1
              nextStepDeadlineMs := nowMs + ueSmT3580Ms }.submissionsLeft =
                sm.attemptsLeft - 1 - (sm.estRetxCount + 1).toNat := by
            simp only [UeSmCtx.submissionsLeft, hcond.1]
            rfl
          simp only [hbefore, hafter, SmNetwork.recorded, List.length_append, List.length_singleton]
          omega
      · exact smPays_of_inactive rfl rfl rfl UInt8.zero_le h.retries rfl rfl (Nat.le_add_right _ _)
    · exact smPays_refl h
  · exact smPays_refl h

theorem smTickRelease_pays (nowMs : UInt64) {sm : UeSmCtx} (h : SmInv sm) (net : Recorded N) :
    SmPays (sm, net) (smTickRelease nowMs sm, net) := by
  unfold smTickRelease
  split
  · split
    · refine ⟨⟨h.phase.congr rfl rfl rfl, h.retransmissions, h.retries, h.exclusive⟩, rfl, ?_⟩
      exact Nat.le_of_eq (by rw [submissionsLeft_setDeadline])
    split
    · exact smPays_of_inactive rfl rfl rfl h.retransmissions h.retries rfl rfl
        (Nat.le_add_right _ _)
    · exact smPays_refl h
  · exact smPays_refl h

theorem ueSmTick_pays (nowMs : UInt64) (mmRegistered : Bool) {s : SmMachine N} (h : SmInv s.1) :
    SmPays s (ueSmTick network.recorded s.1 nowMs mmRegistered s.2) := by
  unfold ueSmTick
  split
  · exact smPays_of_inactive rfl rfl rfl h.retransmissions UInt8.zero_le rfl rfl
      (Nat.le_add_right _ _)
  · have hdisconnect := smTickDisconnect_pays network h s.2
    have hconnect := hdisconnect.trans (smTickConnect_pays network hdisconnect.inv _)
    have htimer := hconnect.trans (smTickT3580_pays network nowMs hconnect.inv _)
    exact htimer.trans (smTickRelease_pays nowMs htimer.inv _)

/-! ### The other events -/

theorem ueSmOnPduSessionReject_pays (cause : UeSmPduRejectCause) {s : SmMachine N}
    (h : SmInv s.1) : SmPays s (ueSmOnPduSessionReject network.recorded s.1 cause s.2) := by
  unfold ueSmOnPduSessionReject
  split
  · rename_i hcond
    rcases smHandleEstablishRejectByProcedure_cases
      (smStartEstablishProcedure network.recorded) s.1 cause s.2 with heq | ⟨hleft, heq⟩
    · rw [heq]
      exact smPays_of_inactive rfl rfl rfl h.retransmissions UInt8.zero_le rfl rfl
        (Nat.le_add_right _ _)
    · obtain ⟨hretries, hattempts⟩ := smRetry_left hleft cause
      obtain ⟨hinv, hmax, hpays⟩ :=
        smStartEstablishFuel_pays network _ (smRetry s.1 cause) s.2 rfl hretries rfl
      rw [heq]
      refine ⟨hinv, hmax, Nat.le_trans hpays ?_⟩
      have hbefore : s.1.submissionsLeft = s.1.attemptsLeft - 1 - s.1.estRetxCount.toNat := by
        simp [UeSmCtx.submissionsLeft, hcond.1]
      have hretx := UInt8.le_iff_toNat_le.mp h.retransmissions
      have hfour : ueSmT3580MaxRetx.toNat = 4 := rfl
      dsimp only
      rw [hbefore]
      omega
  · exact smPays_refl h

/-- Every event other than a connect request pays for what it submits. -/
theorem smStep_pays {s : SmMachine N} (h : SmInv s.1) {e : SmEvent N}
    (he : e.requestsConnect s = false) : SmPays s (smStep network s e) := by
  cases e with
  | connect dnn => cases he
  | disconnect =>
    have hoff : (ueSmRequestDisconnect s.1).connectRequested = false := rfl
    refine ⟨⟨h.phase.congr rfl rfl rfl, h.retransmissions, h.retries, by simp [smStep, hoff]⟩, rfl,
      Nat.add_le_add_left ?_ _⟩
    cases hstate : s.1.state with
    | inactive => simp [smStep, UeSmCtx.submissionsLeft, ueSmRequestDisconnect, hstate]
    | establishing =>
      simp [smStep, UeSmCtx.submissionsLeft, ueSmRequestDisconnect, hstate, UeSmCtx.attemptsLeft]
    | active => simp [smStep, UeSmCtx.submissionsLeft, ueSmRequestDisconnect, hstate]
    | releasing => simp [smStep, UeSmCtx.submissionsLeft, ueSmRequestDisconnect, hstate]
  | autoConnect =>
    have hkept : smAutoConnect s.1 = s.1 := if_neg (by simpa [SmEvent.requestsConnect] using he)
    simp only [smStep, hkept]
    exact smPays_refl h
  | tick nowMs mmRegistered => exact ueSmTick_pays network nowMs mmRegistered h
  | established =>
    simp only [smStep, ueSmOnPduSessionEstablished]
    split
    · refine ⟨⟨.idle (.inr rfl) rfl rfl, h.retransmissions, UInt8.zero_le, nofun⟩, rfl, ?_⟩
      exact Nat.add_le_add_left (Nat.zero_le _) _
    · exact smPays_refl h
  | reject cause => exact ueSmOnPduSessionReject_pays network cause h
  | released =>
    simp only [smStep, ueSmOnPduSessionReleased]
    split
    · exact smPays_of_inactive rfl rfl rfl h.retransmissions UInt8.zero_le rfl rfl
        (Nat.le_add_right _ _)
    · exact smPays_refl h
  | radio on =>
    simp only [smStep, ueSmOnRadio]
    split
    · exact smPays_refl h
    · exact smPays_of_inactive rfl rfl rfl h.retransmissions UInt8.zero_le rfl rfl
        (Nat.le_add_right _ _)
  | forget =>
    exact smPays_of_inactive rfl rfl rfl UInt8.zero_le UInt8.zero_le rfl rfl
      (Nat.le_add_right _ _)
  | elsewhere net => exact ⟨h, rfl, Nat.le_refl _⟩

/-! ## Runs -/

/-- A connect request starts the count anew. -/
theorem smStep_connect {s : SmMachine N} (h : SmInv s.1) {e : SmEvent N}
    (he : e.requestsConnect s = true) :
    SmInv (smStep network s e).1 ∧ (smStep network s e).1.maxRetries = s.1.maxRetries ∧
      (smStep network s e).2.submitted = s.2.submitted := by
  cases e with
  | connect dnn =>
    exact ⟨⟨h.phase.congr rfl rfl rfl, h.retransmissions, UInt8.zero_le, fun _ => rfl⟩, rfl, rfl⟩
  | autoConnect =>
    have hrest : s.1.atRest = true := he
    have hdisconnect : s.1.disconnectRequested = false := by
      simp only [UeSmCtx.atRest, Bool.and_eq_true, Bool.not_eq_true'] at hrest
      exact hrest.2
    have hset : smAutoConnect s.1 = { s.1 with connectRequested := true } := if_pos hrest
    simp only [smStep, hset]
    exact ⟨⟨h.phase.congr rfl rfl rfl, h.retransmissions, h.retries, fun _ => hdisconnect⟩, trivial,
      trivial⟩
  | _ => cases he

theorem smStep_inv {s : SmMachine N} (h : SmInv s.1) (e : SmEvent N) :
    SmInv (smStep network s e).1 ∧ (smStep network s e).1.maxRetries = s.1.maxRetries := by
  cases he : e.requestsConnect s with
  | false =>
    have hpays := smStep_pays network h he
    exact ⟨hpays.inv, hpays.maxRetries⟩
  | true =>
    obtain ⟨hinv, hmax, -⟩ := smStep_connect network h he
    exact ⟨hinv, hmax⟩

theorem smStart_inv (dnn pduType : Bytes) (net : N) : SmInv (smStart dnn pduType net).1 :=
  ⟨.idle (.inl rfl) rfl rfl, UInt8.zero_le, UInt8.zero_le, nofun⟩

theorem smRun_inv {s : SmMachine N} (h : SmInv s.1) (es : List (SmEvent N)) :
    SmInv (run (smStep network) s es).1 ∧
      (run (smStep network) s es).1.maxRetries = s.1.maxRetries :=
  run_invariant (G := fun _ _ => True)
    (I := fun t => SmInv t.1 ∧ t.1.maxRetries = s.1.maxRetries)
    (fun _ e hinv _ =>
      have hstep := smStep_inv network hinv.1 e
      ⟨hstep.1, hstep.2.trans hinv.2⟩)
    ⟨h, rfl⟩ (along_of_forall (fun _ _ => trivial) s es)

/-- Without a connect request no more is submitted than is left. -/
theorem smRun_submitted_le {s : SmMachine N} (h : SmInv s.1) {es : List (SmEvent N)}
    (hquiet : Along (smStep network) (fun s e => e.requestsConnect s = false) s es) :
    (run (smStep network) s es).2.submitted.length ≤
      s.2.submitted.length + s.1.submissionsLeft := by
  have hbound := run_invariant
    (I := fun t : SmMachine N => SmInv t.1 ∧ t.2.submitted.length + t.1.submissionsLeft ≤
      s.2.submitted.length + s.1.submissionsLeft)
    (fun _ _ hinv hquiet =>
      have hpays := smStep_pays network hinv.1 hquiet
      ⟨hpays.inv, Nat.le_trans hpays.pays hinv.2⟩) ⟨h, Nat.le_refl _⟩ hquiet
  exact Nat.le_trans (Nat.le_add_right _ _) hbound.2

theorem submissionsLeft_le (sm : UeSmCtx) :
    sm.submissionsLeft ≤ (1 + sm.maxRetries.toNat) * 5 := by
  have hattempts : sm.attemptsLeft ≤ (1 + sm.maxRetries.toNat) * 5 := by
    unfold UeSmCtx.attemptsLeft
    omega
  unfold UeSmCtx.submissionsLeft
  split
  · split
    · exact hattempts
    · exact Nat.zero_le _
  · omega
  · exact Nat.zero_le _
  · exact Nat.zero_le _

/-- Whatever happens to the machine and however submissions are answered, its state, procedure
and step agree, and a connect request, automatic or not, is good for five establishment
requests and five for each retry. -/
theorem smRun_consistent_and_bounded (dnn pduType : Bytes) (net : N) (es : List (SmEvent N)) :
    let s := run (smStep network) (smStart dnn pduType net) es
    SmConsistent s.1 ∧
      ∀ e mid, e.requestsConnect s = true →
        Along (smStep network) (fun t f => f.requestsConnect t = false) (smStep network s e) mid →
        (run (smStep network) s (e :: mid)).2.submitted.length ≤
          s.2.submitted.length + (1 + s.1.maxRetries.toNat) * 5 := by
  intro s
  have hs : SmInv s.1 := (smRun_inv network (smStart_inv dnn pduType net) es).1
  refine ⟨hs.consistent, ?_⟩
  intro e mid he hquiet
  obtain ⟨hinv, hmax, hsubmitted⟩ := smStep_connect network hs he
  have hrest := smRun_submitted_le network hinv hquiet
  have hleft := submissionsLeft_le (smStep network s e).1
  rw [hmax] at hleft
  rw [hsubmitted] at hrest
  rw [run_cons]
  omega

end Payments

/-! ## The automatic connect -/

/-- An adapter that accepts every request. -/
def acceptAll : SmNetwork Unit where
  submitEstablish _ n := ({ submitted := true, selectedPsi := 1 }, n)
  submitRelease _ n := ({ submitted := true }, n)

/-- A request that nobody answers, submitted at `startMs`: its four retransmissions and the end
of the attempt. -/
def unansweredAttempt (startMs : UInt64) : List (SmEvent Unit) :=
  [.tick startMs true, .tick (startMs + 16000) true, .tick (startMs + 32000) true,
    .tick (startMs + 48000) true, .tick (startMs + 64000) true, .tick (startMs + 80000) true]

/-- A connect request whose answers never come stays within its ten requests. -/
theorem smRun_bounded_unanswered :
    let s := smStart [0x61] [] ()
    let mid : List (SmEvent Unit) := [.tick 1 true, .tick 16001 true, .tick 32001 true]
    Along (smStep acceptAll) (fun t f => f.requestsConnect t = false)
        (smStep acceptAll s (.connect [0x61])) mid ∧
      (run (smStep acceptAll) s (.connect [0x61] :: mid)).2.submitted.length ≤ 10 := by
  have hquiet : Along (smStep acceptAll) (fun t f => f.requestsConnect t = false)
      (smStep acceptAll (smStart [0x61] [] ()) (.connect [0x61]))
      [.tick 1 true, .tick 16001 true, .tick 32001 true] := by decide
  exact ⟨hquiet, (smRun_consistent_and_bounded acceptAll [0x61] [] () []).2 _ _ rfl hquiet⟩

/-- After one connect request the automatic connect resubmits as often as it likes. -/
theorem autoConnect_resubmits :
    let s := smStart [0x61] [] ()
    let es := .connect [0x61] :: unansweredAttempt 1 ++ .autoConnect :: unansweredAttempt 100000 ++
      [.autoConnect, .tick 200000 true]
    (∀ e ∈ es.tail, e.isConnect = false) ∧
      s.2.submitted.length + (1 + s.1.maxRetries.toNat) * 5 <
        (run (smStep acceptAll) s es).2.submitted.length := by
  decide +kernel

end VirtualLte.Sm
