import VirtualLte.Bytes

/-!
# Mobility management

`ue_mm.c`: the registration state machine.

* A request leads from DEREGISTERED or REGISTERED_HOME to SEARCHING; the engine
  moves it on to REGISTERING when the link is up.
* In both states a deadline runs.  When it passes, the attempt is retried under a
  new attempt number until the retries are used up.
* An accept or a reject is looked at in REGISTERING only.

The attempt number is a plain counter here: the source's 32-bit one is shown to
the host and never compared.
-/

namespace VirtualLte.Mm

/-- What the machine is doing. -/
inductive UeMmState where
  | poweredOff
  | simNotReady
  | deregistered
  | searching
  | registering
  | registeredHome
  deriving DecidableEq, Repr

/-- The procedure under way. -/
inductive UeMmProcedure where
  | idle
  | registration
  deriving DecidableEq, Repr

/-- What a registration waits for. -/
inductive UeMmProcStep where
  | none
  | waitCellSelection
  | waitRegistrationResponse
  deriving DecidableEq, Repr

/-- Why the state changed last. -/
inductive UeMmLastCause where
  | none
  | powerOn
  | simBecameReady
  | registerRequested
  | registrationAccepted
  | registrationRejected
  | registrationTimeout
  | registrationRetry
  | radioOff
  | simNotReady
  deriving DecidableEq, Repr

/-- Whether another attempt may succeed. -/
inductive UeRejectClass where
  | temporary
  | permanent
  deriving DecidableEq, Repr

/-- The registration types that are sent. -/
inductive UeMmRegType where
  | initial
  | mobilityUpdate
  deriving DecidableEq, Repr

/-- What asked for a registration. -/
inductive UeMmRegTrigger where
  | explicitRequest
  | mobilityChange
  | periodicUpdate
  deriving DecidableEq, Repr

/-- The reject causes that are told apart. -/
inductive UeMmRegRejectCause where
  | none
  | illegalUe
  | congestion
  | plmnNotAllowed
  | taNotAllowed
  deriving DecidableEq, Repr

/-- The access an accept is for. -/
inductive UeMmRegAcceptResult where
  | threeGpp
  | nonThreeGpp
  deriving DecidableEq, Repr

/-- How the adapter answers a submission. -/
structure UeMmRegistrationResult where
  submitted : Bool
  rejectClass : UeRejectClass := .temporary
  rejectCause : UeMmRegRejectCause := .none
  acceptResult : UeMmRegAcceptResult := .threeGpp
  assignedGuti : Bytes := []
  deriving DecidableEq, Repr

/-- The context of the machine. -/
structure UeMmCtx where
  state : UeMmState
  procedure : UeMmProcedure := .idle
  procStep : UeMmProcStep := .none
  lastCause : UeMmLastCause := .none
  lastRejectClass : UeRejectClass := .temporary
  lastRejectCauseCode : UeMmRegRejectCause := .none
  registerRequested : Bool := false
  retryCount : UInt8 := 0
  maxRetries : UInt8 := 2
  registrationAttemptId : Nat := 0
  lastAssignedGuti : Bytes := []
  pendingRegType : UeMmRegType := .initial
  pendingRegTrigger : UeMmRegTrigger := .explicitRequest
  nextStepDeadlineMs : UInt64 := 0
  deriving DecidableEq, Repr

/-- How long each waiting state lasts. -/
def ueMmTimeoutMs : UInt64 := 1200

/-! ## Procedures -/

/-- Back to DEREGISTERED; the request may be kept. -/
def mmEnterDeregistered (mm : UeMmCtx) (cause : UeMmLastCause) (clearRequest : Bool) : UeMmCtx :=
  { mm with
    state := .deregistered
    procedure := .idle
    procStep := .none
    lastCause := cause
    registerRequested := if clearRequest then false else mm.registerRequested
    retryCount := if clearRequest then 0 else mm.retryCount
    lastRejectCauseCode := .none
    nextStepDeadlineMs := 0 }

/-- A first attempt, under a new number. -/
def mmStartRegistrationProcedure (mm : UeMmCtx) : UeMmCtx :=
  { mm with
    registrationAttemptId := mm.registrationAttemptId + 1
    state := .searching
    procedure := .registration
    procStep := .waitCellSelection
    lastCause := .registerRequested
    lastRejectClass := .temporary
    lastRejectCauseCode := .none
    nextStepDeadlineMs := 0 }

/-- Start a requested registration where one can start. -/
def mmInvokePendingRegistration (mm : UeMmCtx) : UeMmCtx :=
  if mm.registerRequested = false then mm
  else if mm.state ≠ .deregistered ∧ mm.state ≠ .registeredHome then mm
  else mmStartRegistrationProcedure mm

/-- Another attempt, under a new number. -/
def mmRetryRegistrationAttempt (mm : UeMmCtx) (nextDeadlineMs : UInt64) : UeMmCtx :=
  { mm with
    retryCount := mm.retryCount + 1
    registrationAttemptId := mm.registrationAttemptId + 1
    state := .searching
    procedure := .registration
    procStep := .waitCellSelection
    lastCause := .registrationRetry
    lastRejectClass := .temporary
    lastRejectCauseCode := .none
    nextStepDeadlineMs := nextDeadlineMs }

/-- Congestion passes; the other causes stay. -/
def mmRejectClassFromCause : UeMmRegRejectCause → UeRejectClass
  | .congestion => .temporary
  | .illegalUe => .permanent
  | .plmnNotAllowed => .permanent
  | .taNotAllowed => .permanent
  | .none => .temporary

/-- A temporary reject is retried while retries are left. -/
def mmHandleRejectByProcedure (mm : UeMmCtx) (rejectCause : UeMmRegRejectCause) : UeMmCtx :=
  let rejectClass := mmRejectClassFromCause rejectCause
  let mm := { mm with lastRejectClass := rejectClass, lastRejectCauseCode := rejectCause }
  if mm.procedure ≠ .registration ∨ mm.procStep ≠ .waitRegistrationResponse then
    mmEnterDeregistered mm .registrationRejected true
  else if rejectClass = .temporary ∧ mm.retryCount < mm.maxRetries then
    mmRetryRegistrationAttempt mm 0
  else mmEnterDeregistered mm .registrationRejected true

/-- An accept for access outside 3GPP counts as a final reject. -/
def mmHandleRegistrationSubmitResult (mm : UeMmCtx) (result : UeMmRegistrationResult) : UeMmCtx :=
  if result.submitted then
    if result.acceptResult = .nonThreeGpp then
      mmEnterDeregistered
        { mm with lastRejectClass := .permanent, lastRejectCauseCode := .plmnNotAllowed }
        .registrationRejected true
    else
      { mm with
        lastAssignedGuti := result.assignedGuti.take 31
        lastRejectClass := .temporary
        lastRejectCauseCode := .none }
  else
    mmHandleRejectByProcedure
      { mm with lastRejectClass := result.rejectClass, lastRejectCauseCode := result.rejectCause }
      result.rejectCause

/-- A deadline that was set, else one time-out from now. -/
def mmDeadline (mm : UeMmCtx) (nowMs : UInt64) : UInt64 :=
  if mm.nextStepDeadlineMs = 0 then nowMs + ueMmTimeoutMs else mm.nextStepDeadlineMs

/-- Both waiting states share this: set the deadline on the first tick, and when it
passes retry or give up. -/
def mmHandleWait (mm : UeMmCtx) (nowMs : UInt64) : UeMmCtx :=
  let mm := { mm with nextStepDeadlineMs := mmDeadline mm nowMs }
  if nowMs < mm.nextStepDeadlineMs then mm
  else if mm.retryCount < mm.maxRetries then
    mmRetryRegistrationAttempt mm (nowMs + ueMmTimeoutMs)
  else { mmEnterDeregistered mm .registrationTimeout true with lastRejectClass := .temporary }

/-- A tick in SEARCHING. -/
def mmHandleWaitCellSelection (mm : UeMmCtx) (nowMs : UInt64) : UeMmCtx := mmHandleWait mm nowMs

/-- A tick in REGISTERING. -/
def mmHandleWaitRegistrationResponse (mm : UeMmCtx) (nowMs : UInt64) : UeMmCtx :=
  mmHandleWait mm nowMs

/-! ## Entry points -/

/-- The first state depends on radio and SIM. -/
def ueMmInit (radioOn simPresent : Bool) : UeMmCtx :=
  if radioOn = false then { state := .poweredOff, lastCause := .radioOff }
  else if simPresent then { state := .deregistered, lastCause := .powerOn }
  else { state := .simNotReady, lastCause := .simNotReady }

/-- Switching off ends everything; switching on needs a SIM. -/
def ueMmOnRadio (mm : UeMmCtx) (on : Bool) : UeMmCtx :=
  if on = false then
    { mm with
      state := .poweredOff
      procedure := .idle
      procStep := .none
      lastCause := .radioOff
      lastRejectClass := .temporary
      lastRejectCauseCode := .none
      registerRequested := false
      retryCount := 0
      nextStepDeadlineMs := 0 }
  else if mm.state = .simNotReady then mm
  else
    { mmEnterDeregistered mm .powerOn true with
      lastRejectClass := .temporary
      lastRejectCauseCode := .none }

/-- Losing the SIM ends everything. -/
def ueMmOnSim (mm : UeMmCtx) (simReady : Bool) : UeMmCtx :=
  if simReady = false then
    { mm with
      state := .simNotReady
      procedure := .idle
      procStep := .none
      lastCause := .simNotReady
      lastRejectClass := .temporary
      lastRejectCauseCode := .none
      registerRequested := false
      retryCount := 0
      nextStepDeadlineMs := 0 }
  else
    { mm with
      state := if mm.state = .simNotReady then .deregistered else mm.state
      lastCause := .simBecameReady }

/-- The three kinds of registration request differ in the pending type and trigger. -/
def mmRequest (mm : UeMmCtx) (type : UeMmRegType) (trigger : UeMmRegTrigger) : UeMmCtx :=
  mmInvokePendingRegistration { mm with
    registerRequested := true
    retryCount := 0
    pendingRegType := type
    pendingRegTrigger := trigger }

/-- A registration that the host asks for. -/
def ueMmRequestRegister (mm : UeMmCtx) : UeMmCtx := mmRequest mm .initial .explicitRequest

/-- An update after the UE has moved. -/
def ueMmRequestMobilityUpdate (mm : UeMmCtx) : UeMmCtx :=
  mmRequest mm .mobilityUpdate .mobilityChange

/-- A periodic update. -/
def ueMmRequestPeriodicUpdate (mm : UeMmCtx) : UeMmCtx :=
  mmRequest mm .mobilityUpdate .periodicUpdate

/-- A cell was found and the request was submitted with this result.  The engine takes
`ueMmTransitionToRegistering` in its place. -/
def ueMmOnCellFound (mm : UeMmCtx) (result : UeMmRegistrationResult) : UeMmCtx :=
  if mm.state = .searching ∧ mm.registerRequested = true ∧ mm.procStep = .waitCellSelection then
    let mm := mmHandleRegistrationSubmitResult mm result
    if mm.state ≠ .searching then mm
    else
      { mm with
        state := .registering
        procStep := .waitRegistrationResponse
        nextStepDeadlineMs := 0 }
  else mm

/-- Enter REGISTERING without submitting anything: the engine sends the request. -/
def ueMmTransitionToRegistering (mm : UeMmCtx) : UeMmCtx :=
  { mm with
    state := .registering
    procStep := .waitRegistrationResponse
    nextStepDeadlineMs := 0 }

/-- Whether an accept or a reject is looked at. -/
def UeMmCtx.expectsResponse (mm : UeMmCtx) : Bool :=
  mm.state = .registering && mm.registerRequested

/-- An accept that is looked at ends the registration. -/
def ueMmOnRegistrationAccept (mm : UeMmCtx) : UeMmCtx :=
  if mm.expectsResponse then
    { mm with
      state := .registeredHome
      procedure := .idle
      procStep := .none
      lastCause := .registrationAccepted
      lastRejectClass := .temporary
      lastRejectCauseCode := .none
      registerRequested := false
      retryCount := 0
      nextStepDeadlineMs := 0 }
  else mm

/-- A reject that is looked at is retried or final. -/
def ueMmOnRegistrationReject (mm : UeMmCtx) (rejectCause : UeMmRegRejectCause) : UeMmCtx :=
  if mm.expectsResponse then mmHandleRejectByProcedure mm rejectCause else mm

/-- In a waiting state the deadline is looked at; elsewhere it is cleared. -/
def ueMmTick (mm : UeMmCtx) (nowMs : UInt64) : UeMmCtx :=
  if mm.state = .searching ∧ mm.registerRequested = true ∧ mm.procStep = .waitCellSelection then
    mmHandleWaitCellSelection mm nowMs
  else if mm.state = .registering ∧ mm.registerRequested = true ∧
      mm.procStep = .waitRegistrationResponse then
    mmHandleWaitRegistrationResponse mm nowMs
  else
    let mm :=
      if mm.state ≠ .registering ∧ mm.state ≠ .searching then
        { mm with procedure := .idle, procStep := .none }
      else mm
    { mm with nextStepDeadlineMs := 0 }

/-! ## Requests are remembered -/

/-- Whether the machine works on a registration. -/
def UeMmCtx.attempting (mm : UeMmCtx) : Prop := mm.state = .searching ∨ mm.state = .registering

/-- It does so on behalf of a request only. -/
def UeMmCtx.Requested (mm : UeMmCtx) : Prop := mm.attempting → mm.registerRequested = true

variable {mm : UeMmCtx} (type : UeMmRegType) (trigger : UeMmRegTrigger) (nowMs : UInt64)
  (cause : UeMmRegRejectCause)

theorem requested_of_idle (hs : mm.state ≠ .searching) (hr : mm.state ≠ .registering) :
    mm.Requested := by
  rintro (h | h)
  · exact absurd h hs
  · exact absurd h hr

theorem ueMmInit_requested (radioOn simPresent : Bool) : (ueMmInit radioOn simPresent).Requested := by
  unfold ueMmInit
  split
  · exact requested_of_idle nofun nofun
  split
  · exact requested_of_idle nofun nofun
  · exact requested_of_idle nofun nofun

theorem mmRequest_requested (mm : UeMmCtx) (type : UeMmRegType) (trigger : UeMmRegTrigger) :
    (mmRequest mm type trigger).Requested := by
  intro _
  unfold mmRequest mmInvokePendingRegistration
  split
  · rfl
  split
  · rfl
  · rfl

theorem ueMmOnRadio_state (mm : UeMmCtx) (on : Bool) :
    (ueMmOnRadio mm on).state = .poweredOff ∨ (ueMmOnRadio mm on).state = .simNotReady ∨
      (ueMmOnRadio mm on).state = .deregistered := by
  unfold ueMmOnRadio
  split
  · exact .inl rfl
  split
  · rename_i h
    exact .inr (.inl h)
  · exact .inr (.inr rfl)

theorem ueMmOnRadio_requested (mm : UeMmCtx) (on : Bool) : (ueMmOnRadio mm on).Requested := by
  rcases ueMmOnRadio_state mm on with h | h | h
  · exact requested_of_idle (by rw [h]; exact nofun) (by rw [h]; exact nofun)
  · exact requested_of_idle (by rw [h]; exact nofun) (by rw [h]; exact nofun)
  · exact requested_of_idle (by rw [h]; exact nofun) (by rw [h]; exact nofun)

theorem mmHandleWait_requested (h : mm.registerRequested = true) :
    (mmHandleWait mm nowMs).Requested := by
  unfold mmHandleWait
  dsimp only
  split
  · exact fun _ => h
  split
  · exact fun _ => h
  · exact requested_of_idle nofun nofun

theorem ueMmTick_requested (h : mm.Requested) : (ueMmTick mm nowMs).Requested := by
  unfold ueMmTick
  split
  · rename_i hcond
    exact mmHandleWait_requested nowMs hcond.2.1
  split
  · rename_i hcond
    exact mmHandleWait_requested nowMs hcond.2.1
  · dsimp only
    split
    · exact h
    · exact h

/-- The timer never brings the machine to REGISTERING. -/
theorem mmHandleWait_registering {nowMs : UInt64}
    (h : (mmHandleWait mm nowMs).state = .registering) : mm.state = .registering := by
  unfold mmHandleWait at h
  dsimp only at h
  split at h
  · exact h
  split at h
  · cases h
  · cases h

theorem ueMmTick_registering {nowMs : UInt64} (h : (ueMmTick mm nowMs).state = .registering) :
    mm.state = .registering := by
  unfold ueMmTick at h
  split at h
  · exact mmHandleWait_registering h
  split at h
  · exact mmHandleWait_registering h
  · dsimp only at h
    split at h
    · exact h
    · exact h

/-- An answer ends REGISTERING. -/
theorem ueMmOnRegistrationAccept_state (h : mm.Requested) :
    (ueMmOnRegistrationAccept mm).state ≠ .registering := by
  unfold ueMmOnRegistrationAccept
  split
  · exact nofun
  · rename_i hexpects
    intro hstate
    exact hexpects (by simp [UeMmCtx.expectsResponse, hstate, h (.inr hstate)])

theorem ueMmOnRegistrationReject_state (h : mm.Requested) :
    (ueMmOnRegistrationReject mm cause).state ≠ .registering := by
  unfold ueMmOnRegistrationReject mmHandleRejectByProcedure
  split
  · dsimp only
    split
    · exact nofun
    split
    · exact nofun
    · exact nofun
  · rename_i hexpects
    intro hstate
    exact hexpects (by simp [UeMmCtx.expectsResponse, hstate, h (.inr hstate)])

theorem ueMmOnRegistrationAccept_requested (h : mm.Requested) :
    (ueMmOnRegistrationAccept mm).Requested := by
  unfold ueMmOnRegistrationAccept
  split
  · exact requested_of_idle nofun nofun
  · exact h

theorem ueMmOnRegistrationReject_requested (h : mm.Requested) :
    (ueMmOnRegistrationReject mm cause).Requested := by
  unfold ueMmOnRegistrationReject mmHandleRejectByProcedure
  split
  · rename_i hexpects
    have hreq : mm.registerRequested = true := by
      simp only [UeMmCtx.expectsResponse, Bool.and_eq_true] at hexpects
      exact hexpects.2
    dsimp only
    split
    · exact requested_of_idle nofun nofun
    split
    · exact fun _ => hreq
    · exact requested_of_idle nofun nofun
  · exact h

/-- A request does not interrupt a registration. -/
theorem mmRequest_registering (h : mm.state = .registering) :
    (mmRequest mm type trigger).state = .registering := by
  simp [mmRequest, mmInvokePendingRegistration, h]

/-- A request leaves REGISTERING and its attempt as they are. -/
theorem mmRequest_of_registering (h : (mmRequest mm type trigger).state = .registering) :
    mm.state = .registering ∧
      (mmRequest mm type trigger).registrationAttemptId = mm.registrationAttemptId := by
  unfold mmRequest mmInvokePendingRegistration at h ⊢
  split at h
  · rename_i hreq
    cases hreq
  split at h
  · rename_i hbusy
    rw [if_neg (by simp), if_pos hbusy]
    exact ⟨h, rfl⟩
  · cases h

/-! ## What the machine keeps -/

theorem registering_of_expectsResponse (h : mm.expectsResponse = true) :
    mm.state = .registering := by
  simp only [UeMmCtx.expectsResponse, Bool.and_eq_true, decide_eq_true_eq] at h
  exact h.1

/-- An accept shows exactly when one is expected. -/
theorem ueMmOnRegistrationAccept_eq_iff (mm : UeMmCtx) :
    ueMmOnRegistrationAccept mm = mm ↔ mm.expectsResponse = false := by
  unfold ueMmOnRegistrationAccept
  cases hexpects : mm.expectsResponse with
  | false => simp
  | true =>
    refine iff_of_false ?_ nofun
    intro heq
    have hstate := congrArg UeMmCtx.state heq
    rw [if_pos rfl, registering_of_expectsResponse hexpects] at hstate
    cases hstate

/-- And so does a reject. -/
theorem ueMmOnRegistrationReject_eq_iff (mm : UeMmCtx) (cause : UeMmRegRejectCause) :
    ueMmOnRegistrationReject mm cause = mm ↔ mm.expectsResponse = false := by
  unfold ueMmOnRegistrationReject
  cases hexpects : mm.expectsResponse with
  | false => simp
  | true =>
    refine iff_of_false ?_ nofun
    intro heq
    have hregistering := registering_of_expectsResponse hexpects
    have hstate := congrArg UeMmCtx.state heq
    rw [if_pos rfl, hregistering, mmHandleRejectByProcedure] at hstate
    dsimp only at hstate
    split at hstate
    · cases hstate
    split at hstate
    · cases hstate
    · cases hstate

/-- The timer neither registers the UE nor ends a registration. -/
theorem ueMmTick_registeredHome (mm : UeMmCtx) (nowMs : UInt64) :
    (ueMmTick mm nowMs).state = .registeredHome ↔ mm.state = .registeredHome := by
  have hwait : mm.state ≠ .registeredHome → (mmHandleWait mm nowMs).state ≠ .registeredHome := by
    intro h
    unfold mmHandleWait
    dsimp only
    split
    · exact h
    split
    · exact nofun
    · exact nofun
  unfold ueMmTick
  split
  · rename_i hcond
    have hstate : mm.state ≠ .registeredHome := by
      rw [hcond.1]
      exact nofun
    exact iff_of_false (hwait hstate) hstate
  split
  · rename_i hcond
    have hstate : mm.state ≠ .registeredHome := by
      rw [hcond.1]
      exact nofun
    exact iff_of_false (hwait hstate) hstate
  · dsimp only
    split
    · exact Iff.rfl
    · exact Iff.rfl

/-- Only the engine writes the text of the assigned GUTI. -/
theorem mmHandleWait_lastAssignedGuti (mm : UeMmCtx) (nowMs : UInt64) :
    (mmHandleWait mm nowMs).lastAssignedGuti = mm.lastAssignedGuti := by
  unfold mmHandleWait
  dsimp only
  split
  · rfl
  split
  · rfl
  · rfl

theorem ueMmTick_lastAssignedGuti (mm : UeMmCtx) (nowMs : UInt64) :
    (ueMmTick mm nowMs).lastAssignedGuti = mm.lastAssignedGuti := by
  unfold ueMmTick
  split
  · exact mmHandleWait_lastAssignedGuti mm nowMs
  split
  · exact mmHandleWait_lastAssignedGuti mm nowMs
  · dsimp only
    split
    · rfl
    · rfl

theorem ueMmOnRadio_lastAssignedGuti (mm : UeMmCtx) (on : Bool) :
    (ueMmOnRadio mm on).lastAssignedGuti = mm.lastAssignedGuti := by
  unfold ueMmOnRadio
  split
  · rfl
  split
  · rfl
  · rfl

theorem mmRequest_lastAssignedGuti (mm : UeMmCtx) (type : UeMmRegType)
    (trigger : UeMmRegTrigger) :
    (mmRequest mm type trigger).lastAssignedGuti = mm.lastAssignedGuti := by
  unfold mmRequest mmInvokePendingRegistration
  split
  · rfl
  split
  · rfl
  · rfl

theorem ueMmOnRegistrationAccept_lastAssignedGuti (mm : UeMmCtx) :
    (ueMmOnRegistrationAccept mm).lastAssignedGuti = mm.lastAssignedGuti := by
  unfold ueMmOnRegistrationAccept
  split
  · rfl
  · rfl

theorem ueMmOnRegistrationReject_lastAssignedGuti (mm : UeMmCtx) (cause : UeMmRegRejectCause) :
    (ueMmOnRegistrationReject mm cause).lastAssignedGuti = mm.lastAssignedGuti := by
  unfold ueMmOnRegistrationReject mmHandleRejectByProcedure
  split
  · dsimp only
    split
    · rfl
    split
    · rfl
    · rfl
  · rfl

end VirtualLte.Mm
