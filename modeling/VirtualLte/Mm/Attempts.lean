import VirtualLte.Lib.Budget
import VirtualLte.Mm

/-!
# Registration attempts over whole runs

The machine of `ue_mm.c` under everything that can happen to it, in any order.

* `MmEvent` is the list of its entry points; `MmEvent.Issued` is the one rule the engine
  keeps: it moves on to REGISTERING from SEARCHING only.
* `MmPhase` says which procedure and step go with each state, `MmConsistent` is the same
  read from both sides, with the bound on the retry counter.
* `mmStarted` counts the attempts one event starts: calls of
  `mm_start_registration_procedure` and `mm_retry_registration_attempt`.
* `retriesLeft` is what is left of a request.  Every event other than a request pays for
  the attempts it starts from it (`mmStep_pays`), so a request is good for one attempt and
  its retries.
-/

namespace VirtualLte.Mm

open Transition

variable {mm : UeMmCtx}

/-! ## Events -/

inductive MmRequest where
  | register
  | mobilityUpdate
  | periodicUpdate
  deriving DecidableEq, Repr

inductive MmEvent where
  | request (kind : MmRequest)
  | radio (on : Bool)
  | sim (ready : Bool)
  | tick (nowMs : UInt64)
  | accept
  | reject (cause : UeMmRegRejectCause)
  | transitionToRegistering
  | cellFound (result : UeMmRegistrationResult)
  deriving DecidableEq, Repr

def mmStep (mm : UeMmCtx) : MmEvent → UeMmCtx
  | .request .register => ueMmRequestRegister mm
  | .request .mobilityUpdate => ueMmRequestMobilityUpdate mm
  | .request .periodicUpdate => ueMmRequestPeriodicUpdate mm
  | .radio on => ueMmOnRadio mm on
  | .sim ready => ueMmOnSim mm ready
  | .tick nowMs => ueMmTick mm nowMs
  | .accept => ueMmOnRegistrationAccept mm
  | .reject cause => ueMmOnRegistrationReject mm cause
  | .transitionToRegistering => ueMmTransitionToRegistering mm
  | .cellFound result => ueMmOnCellFound mm result

/-- The engine moves on to REGISTERING from SEARCHING only. -/
def MmEvent.Issued (mm : UeMmCtx) (e : MmEvent) : Prop :=
  e = .transitionToRegistering → mm.state = .searching

instance (mm : UeMmCtx) (e : MmEvent) : Decidable (e.Issued mm) :=
  inferInstanceAs (Decidable (_ → _))

def MmEvent.isRequest : MmEvent → Bool
  | .request _ => true
  | _ => false

/-- The timer of an attempt runs and has passed. -/
def mmTimesOut (mm : UeMmCtx) (nowMs : UInt64) : Bool :=
  mm.registerRequested &&
    (mm.state = .searching && mm.procStep = .waitCellSelection ||
      mm.state = .registering && mm.procStep = .waitRegistrationResponse) &&
    mmDeadline mm nowMs ≤ nowMs

/-- How many attempts the event starts. -/
def mmStarted (mm : UeMmCtx) : MmEvent → Nat
  | .request _ => if mm.state = .deregistered ∨ mm.state = .registeredHome then 1 else 0
  | .tick nowMs => if mmTimesOut mm nowMs = true ∧ mm.retryCount < mm.maxRetries then 1 else 0
  | .reject cause =>
    if mm.expectsResponse = true ∧ mm.procedure = .registration ∧
        mm.procStep = .waitRegistrationResponse ∧ mmRejectClassFromCause cause = .temporary ∧
        mm.retryCount < mm.maxRetries then 1 else 0
  | _ => 0

/-! ## Invariant -/

/-- The procedure and step that go with each state. -/
inductive MmPhase (mm : UeMmCtx) : Prop
  | idle (hsearching : mm.state ≠ .searching) (hregistering : mm.state ≠ .registering)
      (hprocedure : mm.procedure = .idle) (hstep : mm.procStep = .none)
  | searching (hstate : mm.state = .searching) (hprocedure : mm.procedure = .registration)
      (hstep : mm.procStep = .waitCellSelection) (hrequested : mm.registerRequested = true)
  | registering (hstate : mm.state = .registering) (hprocedure : mm.procedure = .registration)
      (hstep : mm.procStep = .waitRegistrationResponse) (hrequested : mm.registerRequested = true)

structure MmConsistent (mm : UeMmCtx) : Prop where
  searching : mm.state = .searching ↔
    mm.procedure = .registration ∧ mm.procStep = .waitCellSelection
  registering : mm.state = .registering ↔
    mm.procedure = .registration ∧ mm.procStep = .waitRegistrationResponse
  idle : ¬mm.attempting → mm.procedure = .idle ∧ mm.procStep = .none
  requested : mm.attempting → mm.registerRequested = true
  retries : mm.retryCount ≤ mm.maxRetries

theorem MmPhase.consistent (h : MmPhase mm) (hretries : mm.retryCount ≤ mm.maxRetries) :
    MmConsistent mm := by
  cases h with
  | idle hsearching hregistering hprocedure hstep =>
    have hnot : ¬mm.attempting := fun h => h.elim hsearching hregistering
    constructor <;> simp_all
  | searching hstate hprocedure hstep hrequested =>
    constructor <;> simp_all [UeMmCtx.attempting]
  | registering hstate hprocedure hstep hrequested =>
    constructor <;> simp_all [UeMmCtx.attempting]

/-- The retries that are left of the request being worked on. -/
def UeMmCtx.retriesLeft (mm : UeMmCtx) : Nat :=
  if mm.state = .searching ∨ mm.state = .registering then
    mm.maxRetries.toNat - mm.retryCount.toNat
  else 0

/-- The invariant of the machine with the number of retries it was set up with. -/
structure MmInv (mm : UeMmCtx) : Prop where
  phase : MmPhase mm
  retries : mm.retryCount ≤ mm.maxRetries

/-- What an event other than a request does: it starts `n` attempts, pays for them, and keeps
the invariant. -/
structure MmPays (mm : UeMmCtx) (n : Nat) (mm' : UeMmCtx) : Prop where
  inv : MmInv mm'
  maxRetries : mm'.maxRetries = mm.maxRetries
  attempts : mm'.registrationAttemptId = mm.registrationAttemptId + n
  pays : n + mm'.retriesLeft ≤ mm.retriesLeft

/-! ## The helpers -/

theorem retriesLeft_le (mm : UeMmCtx) : mm.retriesLeft ≤ mm.maxRetries.toNat := by
  unfold UeMmCtx.retriesLeft
  split
  · exact Nat.sub_le _ _
  · exact Nat.zero_le _

/-- Once no attempt is under way, nothing is left of the request. -/
theorem mmPays_of_idle {mm' : UeMmCtx} (hsearching : mm'.state ≠ .searching)
    (hregistering : mm'.state ≠ .registering) (hprocedure : mm'.procedure = .idle)
    (hstep : mm'.procStep = .none) (hretries : mm'.retryCount ≤ mm'.maxRetries)
    (hmax : mm'.maxRetries = mm.maxRetries)
    (hid : mm'.registrationAttemptId = mm.registrationAttemptId) : MmPays mm 0 mm' where
  inv := ⟨.idle hsearching hregistering hprocedure hstep, hretries⟩
  maxRetries := hmax
  attempts := hid
  pays := by
    have hzero : mm'.retriesLeft = 0 := if_neg (not_or.mpr ⟨hsearching, hregistering⟩)
    omega

theorem mmEnterDeregistered_pays (mm : UeMmCtx) (cause : UeMmLastCause) (class' : UeRejectClass) :
    MmPays mm 0 { mmEnterDeregistered mm cause true with lastRejectClass := class' } :=
  mmPays_of_idle nofun nofun rfl rfl (UInt8.zero_le) rfl rfl

/-- A retry is one more attempt and one retry less. -/
theorem mmRetryRegistrationAttempt_pays (mm : UeMmCtx) (hrequested : mm.registerRequested = true)
    (hattempting : mm.attempting) (hleft : mm.retryCount < mm.maxRetries) (deadline : UInt64) :
    MmPays mm 1 (mmRetryRegistrationAttempt mm deadline) := by
  have hcount := toNat_succ_of_lt hleft
  have hlt := UInt8.lt_iff_toNat_lt.mp hleft
  refine ⟨⟨.searching rfl rfl rfl hrequested, ?_⟩, rfl, rfl, ?_⟩
  · exact UInt8.le_iff_toNat_le.mpr (by rw [show (mmRetryRegistrationAttempt mm deadline).retryCount = mm.retryCount + 1 from rfl, hcount]; exact hlt)
  · have hbefore : mm.retriesLeft = mm.maxRetries.toNat - mm.retryCount.toNat := if_pos hattempting
    have hafter : (mmRetryRegistrationAttempt mm deadline).retriesLeft =
        mm.maxRetries.toNat - (mm.retryCount + 1).toNat := rfl
    omega

/-- What leaves the machine's bookkeeping alone costs nothing. -/
theorem MmInv.pays_of_eq {mm' : UeMmCtx} (h : MmInv mm) (hstate : mm'.state = mm.state)
    (hprocedure : mm'.procedure = mm.procedure) (hstep : mm'.procStep = mm.procStep)
    (hrequested : mm'.registerRequested = mm.registerRequested)
    (hcount : mm'.retryCount = mm.retryCount) (hmax : mm'.maxRetries = mm.maxRetries)
    (hid : mm'.registrationAttemptId = mm.registrationAttemptId) : MmPays mm 0 mm' := by
  refine ⟨⟨?_, by rw [hcount, hmax]; exact h.retries⟩, hmax, hid, ?_⟩
  · cases h.phase with
    | idle hs hr hp ht => exact .idle (hstate ▸ hs) (hstate ▸ hr) (hprocedure ▸ hp) (hstep ▸ ht)
    | searching hs hp ht hq =>
      exact .searching (hstate ▸ hs) (hprocedure ▸ hp) (hstep ▸ ht) (hrequested ▸ hq)
    | registering hs hp ht hq =>
      exact .registering (hstate ▸ hs) (hprocedure ▸ hp) (hstep ▸ ht) (hrequested ▸ hq)
  · refine Nat.le_of_eq ?_
    rw [Nat.zero_add, UeMmCtx.retriesLeft, UeMmCtx.retriesLeft, hstate, hcount, hmax]

/-- The step from SEARCHING to REGISTERING keeps the retries that are left. -/
theorem MmInv.pays_of_registering {mm' : UeMmCtx} (h : MmInv mm) (hs : mm.state = .searching)
    (hstate : mm'.state = .registering) (hprocedure : mm'.procedure = mm.procedure)
    (hstep : mm'.procStep = .waitRegistrationResponse)
    (hrequested : mm'.registerRequested = mm.registerRequested)
    (hcount : mm'.retryCount = mm.retryCount) (hmax : mm'.maxRetries = mm.maxRetries)
    (hid : mm'.registrationAttemptId = mm.registrationAttemptId) : MmPays mm 0 mm' := by
  cases h.phase with
  | idle hn _ _ _ => exact absurd hs hn
  | searching _ hp _ hq =>
    refine ⟨⟨.registering hstate (hprocedure.trans hp) hstep (hrequested.trans hq), ?_⟩, hmax,
      hid, ?_⟩
    · rw [hcount, hmax]
      exact h.retries
    · refine Nat.le_of_eq ?_
      rw [Nat.zero_add, UeMmCtx.retriesLeft, UeMmCtx.retriesLeft, if_pos (.inr hstate),
        if_pos (.inl hs), hcount, hmax]
  | registering hr _ _ _ => exact absurd (hs.symm.trans hr) nofun

/-! ## The events -/

theorem ueMmOnRadio_pays (h : MmInv mm) (on : Bool) : MmPays mm 0 (ueMmOnRadio mm on) := by
  unfold ueMmOnRadio
  split
  · exact mmPays_of_idle nofun nofun rfl rfl UInt8.zero_le rfl rfl
  split
  · exact h.pays_of_eq rfl rfl rfl rfl rfl rfl rfl
  · exact mmPays_of_idle nofun nofun rfl rfl UInt8.zero_le rfl rfl

theorem ueMmOnSim_pays (h : MmInv mm) (ready : Bool) : MmPays mm 0 (ueMmOnSim mm ready) := by
  unfold ueMmOnSim
  split
  · exact mmPays_of_idle nofun nofun rfl rfl UInt8.zero_le rfl rfl
  by_cases hsim : mm.state = .simNotReady
  · -- nothing was under way without a SIM
    rw [if_pos hsim]
    cases h.phase with
    | idle _ _ hprocedure hstep =>
      exact mmPays_of_idle nofun nofun hprocedure hstep h.retries rfl rfl
    | searching hstate _ _ _ => exact absurd (hsim.symm.trans hstate) nofun
    | registering hstate _ _ _ => exact absurd (hsim.symm.trans hstate) nofun
  · rw [if_neg hsim]
    exact h.pays_of_eq rfl rfl rfl rfl rfl rfl rfl

theorem mmHandleWait_pays (h : MmInv mm) (hrequested : mm.registerRequested = true)
    (hattempting : mm.attempting) (nowMs : UInt64) :
    MmPays mm (if mmDeadline mm nowMs ≤ nowMs ∧ mm.retryCount < mm.maxRetries then 1 else 0)
      (mmHandleWait mm nowMs) := by
  unfold mmHandleWait
  dsimp only
  by_cases hwait : nowMs < mmDeadline mm nowMs
  · rw [if_pos hwait, if_neg (fun hcond => absurd hwait (UInt64.not_lt.mpr hcond.1))]
    exact h.pays_of_eq rfl rfl rfl rfl rfl rfl rfl
  rw [if_neg hwait]
  have hpassed := UInt64.not_lt.mp hwait
  by_cases hleft : mm.retryCount < mm.maxRetries
  · rw [if_pos hleft, if_pos ⟨hpassed, hleft⟩]
    exact mmRetryRegistrationAttempt_pays { mm with nextStepDeadlineMs := _ } hrequested
      hattempting hleft _
  · rw [if_neg hleft, if_neg (fun hcond => hleft hcond.2)]
    exact mmEnterDeregistered_pays { mm with nextStepDeadlineMs := _ } _ _

theorem mmTimesOut_of_attempting (h : MmInv mm) (hattempting : mm.attempting) (nowMs : UInt64) :
    mmTimesOut mm nowMs = decide (mmDeadline mm nowMs ≤ nowMs) := by
  cases h.phase with
  | idle hs hr _ _ => exact absurd hattempting (not_or.mpr ⟨hs, hr⟩)
  | searching hs _ ht hq => simp [mmTimesOut, hs, ht, hq]
  | registering hs _ ht hq => simp [mmTimesOut, hs, ht, hq]

theorem ueMmTick_pays (h : MmInv mm) (nowMs : UInt64) :
    MmPays mm (mmStarted mm (.tick nowMs)) (ueMmTick mm nowMs) := by
  have hwait : mm.registerRequested = true → mm.attempting →
      MmPays mm (mmStarted mm (.tick nowMs)) (mmHandleWait mm nowMs) := by
    intro hrequested hattempting
    have hpays := mmHandleWait_pays h hrequested hattempting nowMs
    simpa [mmStarted, mmTimesOut_of_attempting h hattempting] using hpays
  unfold ueMmTick
  split
  · rename_i hcond
    exact hwait hcond.2.1 (.inl hcond.1)
  split
  · rename_i hcond
    exact hwait hcond.2.1 (.inr hcond.1)
  · rename_i hsearching hregistering
    -- no attempt is under way: the two branches above cover the waiting states
    cases h.phase with
    | idle hs hr hp ht =>
      have hnone : mmStarted mm (.tick nowMs) = 0 := by simp [mmStarted, mmTimesOut, hs, hr]
      rw [hnone, if_pos ⟨hr, hs⟩]
      exact mmPays_of_idle hs hr rfl rfl h.retries rfl rfl
    | searching hs _ ht hq => exact absurd ⟨hs, hq, ht⟩ hsearching
    | registering hs _ ht hq => exact absurd ⟨hs, hq, ht⟩ hregistering

theorem ueMmOnRegistrationAccept_pays (h : MmInv mm) :
    MmPays mm 0 (ueMmOnRegistrationAccept mm) := by
  unfold ueMmOnRegistrationAccept
  split
  · exact mmPays_of_idle nofun nofun rfl rfl UInt8.zero_le rfl rfl
  · exact h.pays_of_eq rfl rfl rfl rfl rfl rfl rfl

theorem ueMmOnRegistrationReject_pays (h : MmInv mm) (cause : UeMmRegRejectCause) :
    MmPays mm (mmStarted mm (.reject cause)) (ueMmOnRegistrationReject mm cause) := by
  unfold ueMmOnRegistrationReject mmHandleRejectByProcedure
  dsimp only [mmStarted]
  by_cases hexpects : mm.expectsResponse = true
  · have hstate := registering_of_expectsResponse hexpects
    cases h.phase with
    | idle _ hr _ _ => exact absurd hstate hr
    | searching hs _ _ _ => exact absurd (hs.symm.trans hstate) nofun
    | registering _ hp ht hq =>
      have hwaits : ¬(mm.procedure ≠ .registration ∨ mm.procStep ≠ .waitRegistrationResponse) := by
        simp [hp, ht]
      rw [if_pos hexpects, if_neg hwaits]
      by_cases hretry : mmRejectClassFromCause cause = .temporary ∧ mm.retryCount < mm.maxRetries
      · rw [if_pos hretry, if_pos ⟨hexpects, hp, ht, hretry.1, hretry.2⟩]
        exact mmRetryRegistrationAttempt_pays
          { mm with lastRejectClass := _, lastRejectCauseCode := _ } hq (.inr hstate) hretry.2 0
      · rw [if_neg hretry, if_neg (fun hcond => hretry ⟨hcond.2.2.2.1, hcond.2.2.2.2⟩)]
        exact mmPays_of_idle nofun nofun rfl rfl UInt8.zero_le rfl rfl
  · rw [if_neg hexpects, if_neg (fun hcond => hexpects hcond.1)]
    exact h.pays_of_eq rfl rfl rfl rfl rfl rfl rfl

theorem ueMmTransitionToRegistering_pays (h : MmInv mm) (hsearching : mm.state = .searching) :
    MmPays mm 0 (ueMmTransitionToRegistering mm) :=
  h.pays_of_registering hsearching rfl rfl rfl rfl rfl rfl rfl

/-- A submitted request goes the engine's way; a refused one ends the attempt, for the machine
does not wait for a response yet. -/
theorem ueMmOnCellFound_pays (h : MmInv mm) (result : UeMmRegistrationResult) :
    MmPays mm 0 (ueMmOnCellFound mm result) := by
  unfold ueMmOnCellFound
  split
  · rename_i hcond
    obtain ⟨hs, -, ht⟩ := hcond
    have hearly : mm.procedure ≠ .registration ∨ mm.procStep ≠ .waitRegistrationResponse :=
      .inr (by rw [ht]; exact nofun)
    unfold mmHandleRegistrationSubmitResult mmHandleRejectByProcedure
    dsimp only
    split
    · split
      · exact mmPays_of_idle nofun nofun rfl rfl UInt8.zero_le rfl rfl
      · rw [if_neg (not_not.mpr hs)]
        exact h.pays_of_registering hs rfl rfl rfl rfl rfl rfl rfl
    · exact mmPays_of_idle nofun nofun rfl rfl UInt8.zero_le rfl rfl
  · exact h.pays_of_eq rfl rfl rfl rfl rfl rfl rfl

theorem mmStep_pays (h : MmInv mm) {e : MmEvent} (hissued : e.Issued mm)
    (he : e.isRequest = false) : MmPays mm (mmStarted mm e) (mmStep mm e) := by
  cases e with
  | request kind => cases he
  | radio on => exact ueMmOnRadio_pays h on
  | sim ready => exact ueMmOnSim_pays h ready
  | tick nowMs => exact ueMmTick_pays h nowMs
  | accept => exact ueMmOnRegistrationAccept_pays h
  | reject cause => exact ueMmOnRegistrationReject_pays h cause
  | transitionToRegistering => exact ueMmTransitionToRegistering_pays h (hissued rfl)
  | cellFound result => exact ueMmOnCellFound_pays h result

/-! ## Requests -/

theorem mmRequest_inv (h : MmInv mm) (type : UeMmRegType) (trigger : UeMmRegTrigger) :
    MmInv (mmRequest mm type trigger) ∧
      (mmRequest mm type trigger).maxRetries = mm.maxRetries ∧
      (mmRequest mm type trigger).registrationAttemptId = mm.registrationAttemptId +
        (if mm.state = .deregistered ∨ mm.state = .registeredHome then 1 else 0) := by
  unfold mmRequest mmInvokePendingRegistration
  rw [if_neg (by exact nofun)]
  dsimp only
  by_cases hstart : mm.state = .deregistered ∨ mm.state = .registeredHome
  · rw [if_neg (fun hbusy => hstart.elim hbusy.1 hbusy.2), if_pos hstart]
    exact ⟨⟨.searching rfl rfl rfl rfl, UInt8.zero_le⟩, rfl, rfl⟩
  · rw [if_pos (not_or.mp hstart), if_neg hstart]
    refine ⟨⟨?_, UInt8.zero_le⟩, rfl, rfl⟩
    cases h.phase with
    | idle hs hr hp ht => exact .idle hs hr hp ht
    | searching hs hp ht _ => exact .searching hs hp ht rfl
    | registering hs hp ht _ => exact .registering hs hp ht rfl

theorem mmStep_request (h : MmInv mm) (kind : MmRequest) :
    MmInv (mmStep mm (.request kind)) ∧
      (mmStep mm (.request kind)).maxRetries = mm.maxRetries ∧
      (mmStep mm (.request kind)).registrationAttemptId =
        mm.registrationAttemptId + mmStarted mm (.request kind) := by
  cases kind with
  | register => exact mmRequest_inv h _ _
  | mobilityUpdate => exact mmRequest_inv h _ _
  | periodicUpdate => exact mmRequest_inv h _ _

theorem mmStep_inv (h : MmInv mm) {e : MmEvent} (hissued : e.Issued mm) :
    MmInv (mmStep mm e) ∧ (mmStep mm e).maxRetries = mm.maxRetries ∧
      (mmStep mm e).registrationAttemptId = mm.registrationAttemptId + mmStarted mm e := by
  cases hreq : e.isRequest with
  | false =>
    have hpays := mmStep_pays h hissued hreq
    exact ⟨hpays.inv, hpays.maxRetries, hpays.attempts⟩
  | true =>
    cases e with
    | request kind => exact mmStep_request h kind
    | _ => cases hreq

theorem ueMmInit_inv (radioOn simPresent : Bool) : MmInv (ueMmInit radioOn simPresent) := by
  unfold ueMmInit
  split
  · exact ⟨.idle nofun nofun rfl rfl, UInt8.zero_le⟩
  split
  · exact ⟨.idle nofun nofun rfl rfl, UInt8.zero_le⟩
  · exact ⟨.idle nofun nofun rfl rfl, UInt8.zero_le⟩

/-! ## Runs -/

theorem mmStarted_le_one (mm : UeMmCtx) (e : MmEvent) : mmStarted mm e ≤ 1 := by
  cases e <;> simp only [mmStarted] <;> (try split) <;> decide

theorem mmRun_inv (h : MmInv mm) {es : List MmEvent}
    (hrun : Along mmStep (fun mm e => e.Issued mm) mm es) :
    MmInv (run mmStep mm es) ∧ (run mmStep mm es).maxRetries = mm.maxRetries :=
  run_invariant (I := fun s => MmInv s ∧ s.maxRetries = mm.maxRetries)
    (fun _ _ hinv hissued =>
      have hstep := mmStep_inv hinv.1 hissued
      ⟨hstep.1, hstep.2.1.trans hinv.2⟩) ⟨h, rfl⟩ hrun

/-- Between two requests no more attempts are started than retries are left. -/
theorem mmRun_attempts_le (h : MmInv mm) {es : List MmEvent}
    (hrun : Along mmStep (fun mm e => e.Issued mm) mm es) (hquiet : ∀ e ∈ es, e.isRequest = false) :
    spent mmStep mmStarted mm es ≤ mm.retriesLeft := by
  have hboth := hrun.and (along_of_mem hquiet mm)
  refine spent_le_budget (I := MmInv) ?_ ?_ h hboth
  · exact fun mm e hinv hcond => (mmStep_pays hinv hcond.1 hcond.2).inv
  · exact fun mm e hinv hcond => (mmStep_pays hinv hcond.1 hcond.2).pays

/-- A request is good for one attempt and its retries. -/
theorem mmRun_attempts_of_request (h : MmInv mm) (kind : MmRequest) {es : List MmEvent}
    (hrun : Along mmStep (fun mm e => e.Issued mm) mm (.request kind :: es))
    (hquiet : ∀ e ∈ es, e.isRequest = false) :
    spent mmStep mmStarted mm (.request kind :: es) ≤ 1 + mm.maxRetries.toNat := by
  obtain ⟨hinv, hmax, -⟩ := mmStep_request h kind
  have hfirst := mmStarted_le_one mm (.request kind)
  have hrest := mmRun_attempts_le hinv hrun.2 hquiet
  have hleft := retriesLeft_le (mmStep mm (.request kind))
  rw [hmax] at hleft
  rw [spent_cons]
  omega

/-- Whatever happens to the machine, its state, procedure and step agree, a registration is
worked on for a request only, and a request starts at most one attempt and `maxRetries`
retries, each under the next number. -/
theorem mmRun_consistent_and_bounded (radioOn simPresent : Bool) (es : List MmEvent)
    (hrun : Along mmStep (fun mm e => e.Issued mm) (ueMmInit radioOn simPresent) es) :
    MmConsistent (run mmStep (ueMmInit radioOn simPresent) es) ∧
      (∀ pre e, pre ++ [e] <+: es →
        let mm := run mmStep (ueMmInit radioOn simPresent) pre
        mmStarted mm e ≤ 1 ∧
          (mmStep mm e).registrationAttemptId = mm.registrationAttemptId + mmStarted mm e) ∧
      ∀ pre kind mid, pre ++ .request kind :: mid <+: es → (∀ e ∈ mid, e.isRequest = false) →
        let mm := run mmStep (ueMmInit radioOn simPresent) pre
        spent mmStep mmStarted mm (.request kind :: mid) ≤ 1 + mm.maxRetries.toNat := by
  have hinit := ueMmInit_inv radioOn simPresent
  have hall := (mmRun_inv hinit hrun).1
  refine ⟨hall.phase.consistent hall.retries, ?_, ?_⟩
  · rintro pre e ⟨post, rfl⟩
    rw [List.append_assoc, along_append] at hrun
    exact ⟨mmStarted_le_one _ e, (mmStep_inv (mmRun_inv hinit hrun.1).1 hrun.2.1).2.2⟩
  · rintro pre kind mid ⟨post, rfl⟩ hquiet
    rw [List.append_assoc, along_append, along_append] at hrun
    exact mmRun_attempts_of_request (mmRun_inv hinit hrun.1).1 kind hrun.2.1 hquiet

/-- A request that is never answered: three attempts, then the machine gives up. -/
theorem mmRun_unanswered :
    let es : List MmEvent := [.request .register, .transitionToRegistering, .tick 1, .tick 1201,
      .tick 2401, .tick 3601]
    Along mmStep (fun mm e => e.Issued mm) (ueMmInit true true) es ∧
      spent mmStep mmStarted (ueMmInit true true) es = 3 ∧
      MmConsistent (run mmStep (ueMmInit true true) es) := by
  refine ⟨by decide, by decide, ?_⟩
  exact (mmRun_consistent_and_bounded true true _ (by decide)).1

end VirtualLte.Mm
