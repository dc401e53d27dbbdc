import VirtualLte.Mm

/-!
# Session management

`ue_sm.c`: one PDU session for the host.

* A connect request is picked up by a tick and submitted; the answer comes back as
  an event.  T3580 repeats an unanswered request four times.
* A disconnect request turns an ACTIVE session into RELEASING and submits a
  release request; a bounded wait follows.

The two submit calls are parameters, so that the machine can be studied under any
behaviour of the network adapter.  `N` is what the adapter acts on.
-/

namespace VirtualLte.Sm

open Mm

/-- What the session is doing. -/
inductive UeSmState where
  | inactive
  | establishing
  | active
  | releasing
  deriving DecidableEq, Repr

/-- The procedure under way. -/
inductive UeSmProcedure where
  | idle
  | establishPdu
  | releasePdu
  deriving DecidableEq, Repr

/-- What a procedure waits for. -/
inductive UeSmProcStep where
  | none
  | waitEstablishResponse
  | waitReleaseComplete
  deriving DecidableEq, Repr

/-- Why the state changed last. -/
inductive UeSmLastCause where
  | none
  | connectRequested
  | establishAccepted
  | establishRejected
  | disconnectRequested
  | releaseComplete
  | mmNotRegistered
  | radioOff
  deriving DecidableEq, Repr

/-- The reject causes that are told apart. -/
inductive UeSmPduRejectCause where
  | none
  | insufficientResources
  | missingDnn
  | unknownPduSessionType
  | semanticError
  deriving DecidableEq, Repr

/-- The addresses of a session. -/
structure UeEngineRuntimeIp where
  ipv4Addr : Ipv4 := Vector.replicate 4 0
  ipv4Gw : Ipv4 := Vector.replicate 4 0
  dns1 : Ipv4 := Vector.replicate 4 0
  dns2 : Ipv4 := Vector.replicate 4 0
  mtu : UInt32 := 0
  deriving DecidableEq, Repr

/-- The context of the machine. -/
structure UeSmCtx where
  state : UeSmState := .inactive
  procedure : UeSmProcedure := .idle
  procStep : UeSmProcStep := .none
  lastCause : UeSmLastCause := .none
  lastRejectClass : UeRejectClass := .temporary
  lastRejectCauseCode : UeSmPduRejectCause := .none
  sessionId : UInt32 := 0
  activeDnn : Bytes := []
  ip : UeEngineRuntimeIp := {}
  connectRequested : Bool := false
  disconnectRequested : Bool := false
  retryCount : UInt8 := 0
  maxRetries : UInt8 := 1
  establishmentAttemptId : Nat := 0
  pti : UInt8 := 0
  nextPti : UInt8 := 0
  pduType : Bytes := []
  sNssaiSst : UInt8 := 1
  nextStepDeadlineMs : UInt64 := 0
  estRetxCount : UInt8 := 0
  deriving DecidableEq, Repr

/-- The request types that are sent. -/
inductive UeSmPduRequestType where
  | initial
  | existing
  deriving DecidableEq, Repr

/-- An establishment request, as the adapter gets it. -/
structure UeSmPduSessionEstRequest where
  attemptId : Nat
  pduSessionId : UInt32
  pti : UInt8
  requestType : UeSmPduRequestType
  dnn : Bytes
  pduType : Bytes
  sNssaiSst : UInt8
  hasExistingSession : Bool
  deriving DecidableEq, Repr

/-- How the adapter answers it. -/
structure UeSmPduSessionEstResult where
  submitted : Bool
  rejectCause : UeSmPduRejectCause := .none
  selectedPsi : UInt32 := 0
  assignedIpv4 : Ipv4 := Vector.replicate 4 0
  assignedMtu : UInt32 := 0
  deriving DecidableEq, Repr

/-- A release request, as the adapter gets it. -/
structure UeSmPduSessionRelRequest where
  attemptId : Nat
  pduSessionId : UInt32
  pti : UInt8
  deriving DecidableEq, Repr

/-- How the adapter answers it. -/
structure UeSmPduSessionRelResult where
  submitted : Bool
  rejectCause : UeSmPduRejectCause := .none
  deriving DecidableEq, Repr

/-- The network operations the session machine calls. -/
structure SmNetwork (N : Type) where
  submitEstablish : UeSmPduSessionEstRequest → N → UeSmPduSessionEstResult × N
  submitRelease : UeSmPduSessionRelRequest → N → UeSmPduSessionRelResult × N

/-- T3580 of TS 24.501. -/
def ueSmT3580Ms : UInt64 := 16000
/-- How often T3580 repeats a request. -/
def ueSmT3580MaxRetx : UInt8 := 4
/-- The wait for a release command. -/
def ueSmReleaseWaitMs : UInt64 := 16000

/-! ## Building blocks -/

/-- Transaction identities go round from 1 to 254. -/
def smAllocPti (sm : UeSmCtx) : UeSmCtx :=
  let next := if sm.nextPti < 1 ∨ sm.nextPti > 254 then 1 else sm.nextPti
  { sm with pti := next, nextPti := next % 254 + 1 }

/-- Missing resources may come back; the other causes stay. -/
def smRejectClassFromCause : UeSmPduRejectCause → UeRejectClass
  | .insufficientResources => .temporary
  | .missingDnn => .permanent
  | .unknownPduSessionType => .permanent
  | .semanticError => .permanent
  | .none => .temporary

/-- Back to INACTIVE; the requests may be kept. -/
def smEnterInactive (sm : UeSmCtx) (cause : UeSmLastCause)
    (clearConnect clearDisconnect : Bool) : UeSmCtx :=
  { sm with
    state := .inactive
    procedure := .idle
    procStep := .none
    lastCause := cause
    connectRequested := if clearConnect then false else sm.connectRequested
    disconnectRequested := if clearDisconnect then false else sm.disconnectRequested
    nextStepDeadlineMs := 0
    pti := 0 }

/-- The release request of the context. -/
def smBuildReleaseRequest (sm : UeSmCtx) : UeSmPduSessionRelRequest where
  attemptId := sm.establishmentAttemptId
  pduSessionId := sm.sessionId
  pti := sm.pti

/-- The establishment request of the context; absent identities are 1. -/
def smBuildEstablishRequest (sm : UeSmCtx) : UeSmPduSessionEstRequest where
  attemptId := sm.establishmentAttemptId
  pduSessionId := if sm.sessionId ≠ 0 then sm.sessionId else 1
  pti := if sm.pti ≠ 0 then sm.pti else 1
  requestType := .initial
  dnn := sm.activeDnn
  pduType := sm.pduType
  sNssaiSst := sm.sNssaiSst
  hasExistingSession := sm.sessionId ≠ 0

/-- A submitted establishment: the session takes the selected identity, and the
transaction identity is freed before any answer has come. -/
def smEstablishSubmitted (sm : UeSmCtx) (r : UeSmPduSessionEstResult) : UeSmCtx :=
  { sm with
    sessionId := r.selectedPsi
    ip := { sm.ip with
      ipv4Addr := r.assignedIpv4
      mtu := if r.assignedMtu ≠ 0 then r.assignedMtu else sm.ip.mtu }
    lastRejectCauseCode := .none
    pti := 0 }

/-- The context of a fresh establishment attempt, before it is submitted. -/
def smBeginEstablish (sm : UeSmCtx) : UeSmCtx :=
  { smAllocPti sm with
    establishmentAttemptId := sm.establishmentAttemptId + 1
    state := .establishing
    procedure := .establishPdu
    procStep := .waitEstablishResponse
    nextStepDeadlineMs := 0
    estRetxCount := 0 }

section Network

variable {N : Type} (network : SmNetwork N)

/-- A reject frees the transaction identity and, when it is temporary and a retry is
left, starts over through `restart`. -/
def smHandleEstablishRejectByProcedure (restart : UeSmCtx → N → UeSmCtx × N) (sm : UeSmCtx)
    (rejectCause : UeSmPduRejectCause) (net : N) : UeSmCtx × N :=
  let sm := { sm with
    lastRejectClass := smRejectClassFromCause rejectCause
    lastRejectCauseCode := rejectCause
    pti := 0 }
  if sm.procedure ≠ .establishPdu ∨ sm.procStep ≠ .waitEstablishResponse then
    ({ smEnterInactive sm .establishRejected true true with retryCount := 0 }, net)
  else
    let sm := smEnterInactive sm .establishRejected false true
    if rejectCause = .semanticError then
      ({ sm with connectRequested := false, retryCount := 0 }, net)
    else if sm.lastRejectClass = .temporary ∧ sm.retryCount < sm.maxRetries then
      restart { sm with
        retryCount := sm.retryCount + 1
        connectRequested := true
        disconnectRequested := false } net
    else ({ sm with connectRequested := false, retryCount := 0 }, net)

/-- The recursion of `sm_start_establish_procedure` through a refused submission.
`fuel` is the number of retries left. -/
def smStartEstablishFuel : Nat → UeSmCtx → N → UeSmCtx × N
  | fuel, sm, net =>
    let sm := smBeginEstablish sm
    let r := network.submitEstablish (smBuildEstablishRequest sm) net
    if r.1.submitted then (smEstablishSubmitted sm r.1, r.2)
    else
      smHandleEstablishRejectByProcedure
        (match fuel with
          | 0 => fun sm net => (sm, net)
          | fuel + 1 => smStartEstablishFuel fuel)
        sm r.1.rejectCause r.2

/-- An attempt, and the retries that are left. -/
def smStartEstablishProcedure (sm : UeSmCtx) (net : N) : UeSmCtx × N :=
  smStartEstablishFuel network (sm.maxRetries.toNat - sm.retryCount.toNat) sm net

/-- A release that cannot be submitted is over. -/
def smHandleReleaseSubmitResult (sm : UeSmCtx) (r : UeSmPduSessionRelResult) : UeSmCtx :=
  if r.submitted then { sm with lastRejectCauseCode := .none }
  else
    { smEnterInactive
        { sm with
          lastRejectClass := smRejectClassFromCause r.rejectCause
          lastRejectCauseCode := r.rejectCause }
        .releaseComplete true true with
      retryCount := 0 }

/-- A release request under a fresh transaction identity. -/
def smStartReleaseProcedure (sm : UeSmCtx) (net : N) : UeSmCtx × N :=
  let sm := { smAllocPti sm with
    state := .releasing
    procedure := .releasePdu
    procStep := .waitReleaseComplete
    nextStepDeadlineMs := 0 }
  let r := network.submitRelease (smBuildReleaseRequest sm) net
  (smHandleReleaseSubmitResult sm r.1, r.2)

/-! ## Entry points -/

/-- The part of a tick that acts on a disconnect request. -/
def smTickDisconnect (sm : UeSmCtx) (net : N) : UeSmCtx × N :=
  if sm.disconnectRequested then
    if sm.state = .active then smStartReleaseProcedure network sm net
    else (smEnterInactive sm .disconnectRequested false true, net)
  else (sm, net)

/-- The part of a tick that picks up a connect request. -/
def smTickConnect (sm : UeSmCtx) (net : N) : UeSmCtx × N :=
  if sm.connectRequested = true ∧ sm.state = .inactive then
    smStartEstablishProcedure network { sm with connectRequested := false } net
  else (sm, net)

/-- T3580: arm, retransmit, or give up. -/
def smTickT3580 (nowMs : UInt64) (sm : UeSmCtx) (net : N) : UeSmCtx × N :=
  if sm.state = .establishing ∧ sm.procStep = .waitEstablishResponse then
    if sm.nextStepDeadlineMs = 0 then
      ({ sm with nextStepDeadlineMs := nowMs + ueSmT3580Ms }, net)
    else if nowMs ≥ sm.nextStepDeadlineMs then
      if sm.estRetxCount < ueSmT3580MaxRetx then
        let sm := { sm with
          estRetxCount := sm.estRetxCount + 1
          nextStepDeadlineMs := nowMs + ueSmT3580Ms }
        (sm, (network.submitEstablish (smBuildEstablishRequest sm) net).2)
      else ({ smEnterInactive sm .establishRejected true true with estRetxCount := 0 }, net)
    else (sm, net)
  else (sm, net)

/-- The bounded wait for a release command. -/
def smTickRelease (nowMs : UInt64) (sm : UeSmCtx) : UeSmCtx :=
  if sm.state = .releasing ∧ sm.procStep = .waitReleaseComplete then
    if sm.nextStepDeadlineMs = 0 then
      { sm with nextStepDeadlineMs := nowMs + ueSmReleaseWaitMs }
    else if nowMs ≥ sm.nextStepDeadlineMs then smEnterInactive sm .releaseComplete true true
    else sm
  else sm

/-- Without a registration there is no session; else the four parts in turn. -/
def ueSmTick (sm : UeSmCtx) (nowMs : UInt64) (mmRegistered : Bool) (net : N) : UeSmCtx × N :=
  if mmRegistered = false then
    ({ smEnterInactive sm .mmNotRegistered true true with
        lastRejectClass := .temporary
        lastRejectCauseCode := .none
        retryCount := 0 }, net)
  else
    let d := smTickDisconnect network sm net
    let c := smTickConnect network d.1 d.2
    let t := smTickT3580 network nowMs c.1 c.2
    (smTickRelease nowMs t.1, t.2)

/-- A reject that is waited for. -/
def ueSmOnPduSessionReject (sm : UeSmCtx) (rejectCause : UeSmPduRejectCause) (net : N) :
    UeSmCtx × N :=
  if sm.state = .establishing ∧ sm.procStep = .waitEstablishResponse then
    smHandleEstablishRejectByProcedure (smStartEstablishProcedure network) sm rejectCause net
  else (sm, net)

/-! ## The attempts of an establishment -/

/-- What a reject makes of the context when it ends the attempts. -/
def smGiveUp (sm : UeSmCtx) (cause : UeSmPduRejectCause) : UeSmCtx :=
  { smEnterInactive sm .establishRejected true true with
    lastRejectClass := smRejectClassFromCause cause
    lastRejectCauseCode := cause
    retryCount := 0 }

/-- And when it starts the next one. -/
def smRetry (sm : UeSmCtx) (cause : UeSmPduRejectCause) : UeSmCtx :=
  { smGiveUp sm cause with retryCount := sm.retryCount + 1, connectRequested := true }

theorem smHandleEstablishRejectByProcedure_cases (restart : UeSmCtx → N → UeSmCtx × N)
    (sm : UeSmCtx) (cause : UeSmPduRejectCause) (net : N) :
    smHandleEstablishRejectByProcedure restart sm cause net = (smGiveUp sm cause, net) ∨
      sm.retryCount < sm.maxRetries ∧
        smHandleEstablishRejectByProcedure restart sm cause net = restart (smRetry sm cause) net := by
  unfold smHandleEstablishRejectByProcedure
  dsimp only
  split
  · exact .inl rfl
  split
  · exact .inl rfl
  split
  · rename_i hretry
    exact .inr ⟨hretry.2, rfl⟩
  · exact .inl rfl

/-- The first submission of an establishment. -/
def smSubmitFirst (sm : UeSmCtx) (net : N) : UeSmPduSessionEstResult × N :=
  network.submitEstablish (smBuildEstablishRequest (smBeginEstablish sm)) net

/-- Induction over the attempts of an establishment.  An attempt is submitted, ends for good,
or is followed by another, for which `fuel` may be missing. -/
theorem smStartEstablishFuel_induction {motive : Nat → UeSmCtx → N → UeSmCtx × N → Prop}
    (submitted : ∀ fuel sm net, motive fuel sm net
      (smEstablishSubmitted (smBeginEstablish sm) (smSubmitFirst network sm net).1,
        (smSubmitFirst network sm net).2))
    (ended : ∀ fuel sm net cause,
      motive fuel sm net (smGiveUp (smBeginEstablish sm) cause, (smSubmitFirst network sm net).2))
    (stuck : ∀ sm net cause, sm.retryCount < sm.maxRetries →
      motive 0 sm net (smRetry (smBeginEstablish sm) cause, (smSubmitFirst network sm net).2))
    (retried : ∀ fuel sm net cause out, sm.retryCount < sm.maxRetries →
      motive fuel (smRetry (smBeginEstablish sm) cause) (smSubmitFirst network sm net).2 out →
      motive (fuel + 1) sm net out)
    (fuel : Nat) (sm : UeSmCtx) (net : N) :
    motive fuel sm net (smStartEstablishFuel network fuel sm net) := by
  induction fuel generalizing sm net with
  | zero =>
    unfold smStartEstablishFuel
    dsimp only
    split
    · exact submitted 0 sm net
    · rcases smHandleEstablishRejectByProcedure_cases _ _ _ _ with heq | ⟨hleft, heq⟩
      · exact heq ▸ ended 0 sm net _
      · exact heq ▸ stuck sm net _ hleft
  | succ fuel ih =>
    unfold smStartEstablishFuel
    dsimp only
    split
    · exact submitted (fuel + 1) sm net
    · rcases smHandleEstablishRejectByProcedure_cases _ _ _ _ with heq | ⟨hleft, heq⟩
      · exact heq ▸ ended (fuel + 1) sm net _
      · exact heq ▸ retried fuel sm net _ _ hleft (ih _ _)

/-! ## What the machine does to the network -/

section Effects

variable {network} {R : N → N → Prop} (hrefl : ∀ n, R n n)
  (htrans : ∀ {a b c}, R a b → R b c → R a c)
  (hest : ∀ q n, R n (network.submitEstablish q n).2)
  (hrel : ∀ q n, R n (network.submitRelease q n).2)

include htrans hest in
theorem smStartEstablishFuel_net (fuel : Nat) (sm : UeSmCtx) (net : N) :
    R net (smStartEstablishFuel network fuel sm net).2 :=
  smStartEstablishFuel_induction network (motive := fun _ _ net out => R net out.2)
    (fun _ _ net => hest _ net) (fun _ _ net _ => hest _ net) (fun _ net _ _ => hest _ net)
    (fun _ _ net _ _ _ hnext => htrans (hest _ net) hnext) fuel sm net

include hrefl htrans hest in
/-- A reject acts on the network only by submitting again. -/
theorem ueSmOnPduSessionReject_net (sm : UeSmCtx) (cause : UeSmPduRejectCause) (net : N) :
    R net (ueSmOnPduSessionReject network sm cause net).2 := by
  unfold ueSmOnPduSessionReject
  split
  · rcases smHandleEstablishRejectByProcedure_cases (smStartEstablishProcedure network) sm cause net
      with heq | ⟨-, heq⟩
    · rw [heq]
      exact hrefl net
    · rw [heq]
      exact smStartEstablishFuel_net @htrans hest _ _ net
  · exact hrefl net

include hrefl htrans hest hrel in
/-- A tick acts on the network only by the two submit calls. -/
theorem ueSmTick_net (sm : UeSmCtx) (nowMs : UInt64) (mmRegistered : Bool) (net : N) :
    R net (ueSmTick network sm nowMs mmRegistered net).2 := by
  have hdis : ∀ sm n, R n (smTickDisconnect network sm n).2 := by
    intro sm n
    unfold smTickDisconnect
    split
    · split
      · exact hrel _ n
      · exact hrefl n
    · exact hrefl n
  have hcon : ∀ sm n, R n (smTickConnect network sm n).2 := by
    intro sm n
    unfold smTickConnect
    split
    · exact smStartEstablishFuel_net @htrans hest _ _ n
    · exact hrefl n
  have htim : ∀ sm n, R n (smTickT3580 network nowMs sm n).2 := by
    intro sm n
    unfold smTickT3580
    repeat' split
    · exact hrefl n
    · exact hest _ n
    all_goals exact hrefl n
  unfold ueSmTick
  split
  · exact hrefl net
  · exact htrans (htrans (hdis sm net) (hcon _ _)) (htim _ _)

end Effects

end Network

/-- Switching off ends the session. -/
def ueSmOnRadio (sm : UeSmCtx) (on : Bool) : UeSmCtx :=
  if on then sm
  else
    { smEnterInactive sm .radioOff true true with
      lastRejectClass := .temporary
      lastRejectCauseCode := .none
      retryCount := 0 }

/-- A connect request of the host; an empty name keeps the old one. -/
def ueSmRequestConnect (sm : UeSmCtx) (dnn : Bytes) : UeSmCtx :=
  { sm with
    activeDnn := if dnn.length > 0 then dnn.take 63 else sm.activeDnn
    connectRequested := true
    disconnectRequested := false
    lastCause := .connectRequested
    lastRejectClass := .temporary
    lastRejectCauseCode := .none
    retryCount := 0 }

/-- A disconnect request of the host. -/
def ueSmRequestDisconnect (sm : UeSmCtx) : UeSmCtx :=
  { sm with
    disconnectRequested := true
    connectRequested := false
    lastCause := .disconnectRequested
    lastRejectClass := .temporary
    lastRejectCauseCode := .none }

/-- An accept that is waited for. -/
def ueSmOnPduSessionEstablished (sm : UeSmCtx) : UeSmCtx :=
  if sm.state = .establishing then
    { sm with
      state := .active
      procedure := .idle
      procStep := .none
      lastCause := .establishAccepted
      lastRejectClass := .temporary
      lastRejectCauseCode := .none
      sessionId := 0
      connectRequested := false
      retryCount := 0
      nextStepDeadlineMs := 0 }
  else sm

/-- A release command for a session that is there. -/
def ueSmOnPduSessionReleased (sm : UeSmCtx) : UeSmCtx :=
  if sm.state = .releasing ∨ sm.state = .active then
    { smEnterInactive sm .releaseComplete true true with
      lastRejectClass := .temporary
      lastRejectCauseCode := .none
      retryCount := 0 }
  else sm

/-- Default addresses until the network assigns some. -/
def ueSmInit (defaultDnn : Bytes) : UeSmCtx where
  activeDnn := defaultDnn.take 63
  pduType := [0x69, 0x70, 0x76, 0x34]
  ip :=
    { ipv4Addr := #v[1, 2, 3, 4]
      ipv4Gw := #v[5, 6, 7, 8]
      dns1 := #v[9, 10, 11, 12]
      dns2 := #v[1, 1, 1, 1]
      mtu := 1500 }

/-- What `engine_clear_sm_runtime` clears. -/
def smClearRuntime (sm : UeSmCtx) : UeSmCtx :=
  { sm with
    sessionId := 0
    ip := {}
    pti := 0
    nextPti := 0
    estRetxCount := 0
    establishmentAttemptId := 0
    nextStepDeadlineMs := 0
    connectRequested := false
    disconnectRequested := false }

/-- Names from the configuration; empty ones keep the old. -/
def ueSmSetProfile (sm : UeSmCtx) (defaultDnn pduType : Bytes) : UeSmCtx :=
  { sm with
    activeDnn := if defaultDnn.length > 0 then defaultDnn.take 63 else sm.activeDnn
    pduType := if pduType.length > 0 then pduType.take 15 else sm.pduType }

/-! ## Invariants -/

/-- An establishing session waits for its answer. -/
def UeSmCtx.Wf (sm : UeSmCtx) : Prop :=
  sm.state = .establishing →
    sm.procedure = .establishPdu ∧ sm.procStep = .waitEstablishResponse

/-- The network has granted a session that has not been given back. -/
def UeSmCtx.holdsSession (sm : UeSmCtx) : Bool := sm.state = .active || sm.state = .releasing

theorem wf_of_inactive {sm : UeSmCtx} (h : sm.state = .inactive) : sm.Wf := by
  intro hestablishing
  rw [h] at hestablishing
  cases hestablishing

/-- Arming a timer keeps the wait, and the session. -/
theorem setDeadline_invariants (sm : UeSmCtx) (ms : UInt64) (retx : UInt8) :
    (sm.Wf → { sm with nextStepDeadlineMs := ms, estRetxCount := retx }.Wf) ∧
      { sm with nextStepDeadlineMs := ms, estRetxCount := retx }.holdsSession = sm.holdsSession :=
  ⟨id, rfl⟩

section Invariants

variable {N : Type} (network : SmNetwork N)

/-- What an establishment leaves: a wait for the answer, or an inactive session. -/
inductive Establishment (sm : UeSmCtx) : Prop
  | waiting (hstate : sm.state = .establishing) (hprocedure : sm.procedure = .establishPdu)
      (hstep : sm.procStep = .waitEstablishResponse)
  | inactive (hstate : sm.state = .inactive)

theorem Establishment.wf {sm : UeSmCtx} (h : Establishment sm) : sm.Wf := by
  intro hestablishing
  cases h with
  | waiting _ hprocedure hstep => exact ⟨hprocedure, hstep⟩
  | inactive hstate => exact wf_of_inactive hstate hestablishing

theorem Establishment.holdsSession {sm : UeSmCtx} (h : Establishment sm) :
    sm.holdsSession = false := by
  cases h with
  | waiting hstate _ _ => simp [UeSmCtx.holdsSession, hstate]
  | inactive hstate => simp [UeSmCtx.holdsSession, hstate]

theorem Establishment.ne_releasing {sm : UeSmCtx} (h : Establishment sm) :
    sm.state ≠ .releasing := by
  intro hstate
  simpa [UeSmCtx.holdsSession, hstate] using h.holdsSession

theorem smStartEstablishProcedure_establishment (sm : UeSmCtx) (net : N) :
    Establishment (smStartEstablishProcedure network sm net).1 :=
  smStartEstablishFuel_induction network (motive := fun _ _ _ out => Establishment out.1)
    (fun _ _ _ => .waiting rfl rfl rfl) (fun _ _ _ _ => .inactive rfl)
    (fun _ _ _ _ => .inactive rfl) (fun _ _ _ _ _ _ h => h) _ sm net

theorem smHandleEstablishRejectByProcedure_establishment (sm : UeSmCtx)
    (cause : UeSmPduRejectCause) (net : N) :
    Establishment (smHandleEstablishRejectByProcedure (smStartEstablishProcedure network) sm cause
      net).1 := by
  rcases smHandleEstablishRejectByProcedure_cases (smStartEstablishProcedure network) sm cause net
    with heq | ⟨-, heq⟩
  · rw [heq]
    exact .inactive rfl
  · rw [heq]
    exact smStartEstablishProcedure_establishment network _ net

/-- A connect request is picked up by an inactive session, which then holds none yet. -/
theorem smTickConnect_invariants (sm : UeSmCtx) (net : N) :
    (sm.Wf → (smTickConnect network sm net).1.Wf) ∧
      (smTickConnect network sm net).1.holdsSession = sm.holdsSession := by
  unfold smTickConnect
  split
  · rename_i hcond
    have hestablishment := smStartEstablishProcedure_establishment network
      { sm with connectRequested := false } net
    refine ⟨fun _ => hestablishment.wf, ?_⟩
    rw [hestablishment.holdsSession, UeSmCtx.holdsSession, hcond.2]
    rfl
  · exact ⟨id, rfl⟩

theorem smTickT3580_invariants (nowMs : UInt64) (sm : UeSmCtx) (net : N) :
    (sm.Wf → (smTickT3580 network nowMs sm net).1.Wf) ∧
      (smTickT3580 network nowMs sm net).1.holdsSession = sm.holdsSession := by
  unfold smTickT3580
  split
  · rename_i hcond
    split
    · exact setDeadline_invariants sm _ _
    split
    · split
      · exact setDeadline_invariants sm _ _
      · refine ⟨fun _ => wf_of_inactive rfl, ?_⟩
        rw [UeSmCtx.holdsSession, UeSmCtx.holdsSession, hcond.1]
        rfl
    · exact ⟨id, rfl⟩
  · exact ⟨id, rfl⟩

theorem smTickDisconnect_wf {sm : UeSmCtx} (h : sm.Wf) (net : N) :
    (smTickDisconnect network sm net).1.Wf := by
  unfold smTickDisconnect
  split
  · split
    · unfold smStartReleaseProcedure smHandleReleaseSubmitResult
      dsimp only
      split
      · exact nofun
      · exact nofun
    · exact wf_of_inactive rfl
  · exact h

theorem smTickRelease_wf {sm : UeSmCtx} (h : sm.Wf) (nowMs : UInt64) :
    (smTickRelease nowMs sm).Wf := by
  unfold smTickRelease
  split
  · rename_i hcond
    split
    · exact fun hstate => absurd (hcond.1.symm.trans hstate) nofun
    split
    · exact wf_of_inactive rfl
    · exact h
  · exact h

theorem ueSmTick_wf {sm : UeSmCtx} (h : sm.Wf) (nowMs : UInt64) (mmRegistered : Bool) (net : N) :
    (ueSmTick network sm nowMs mmRegistered net).1.Wf := by
  unfold ueSmTick
  split
  · exact wf_of_inactive rfl
  · apply smTickRelease_wf
    apply (smTickT3580_invariants network nowMs _ _).1
    apply (smTickConnect_invariants network _ _).1
    exact smTickDisconnect_wf network h net

theorem ueSmOnPduSessionReject_wf {sm : UeSmCtx} (h : sm.Wf) (cause : UeSmPduRejectCause)
    (net : N) : (ueSmOnPduSessionReject network sm cause net).1.Wf := by
  unfold ueSmOnPduSessionReject
  split
  · exact (smHandleEstablishRejectByProcedure_establishment network sm cause net).wf
  · exact h

/-- A reject neither takes nor gives a session. -/
theorem ueSmOnPduSessionReject_holdsSession (sm : UeSmCtx) (cause : UeSmPduRejectCause) (net : N) :
    (ueSmOnPduSessionReject network sm cause net).1.holdsSession = sm.holdsSession := by
  unfold ueSmOnPduSessionReject
  split
  · rename_i hcond
    have hestablishment := smHandleEstablishRejectByProcedure_establishment network sm cause net
    rw [hestablishment.holdsSession, UeSmCtx.holdsSession, hcond.1]
    rfl
  · rfl

/-- The tick at `nowMs` gives up a release that the network has not commanded. -/
def smAbandons (sm : UeSmCtx) (nowMs : UInt64) : Bool :=
  sm.state = .releasing &&
    (sm.disconnectRequested ||
      (sm.procStep = .waitReleaseComplete && sm.nextStepDeadlineMs ≠ 0 &&
        sm.nextStepDeadlineMs ≤ nowMs))

theorem smTickConnect_of_holdsSession {sm : UeSmCtx} (h : sm.holdsSession = true) (net : N) :
    smTickConnect network sm net = (sm, net) := by
  unfold smTickConnect
  rw [if_neg]
  rintro ⟨-, hinactive⟩
  simp [UeSmCtx.holdsSession, hinactive] at h

theorem smTickT3580_of_holdsSession (nowMs : UInt64) {sm : UeSmCtx}
    (h : sm.holdsSession = true) (net : N) : smTickT3580 network nowMs sm net = (sm, net) := by
  unfold smTickT3580
  rw [if_neg]
  rintro ⟨hestablishing, -⟩
  simp [UeSmCtx.holdsSession, hestablishing] at h

/-- The bounded wait ends a held session when its deadline has passed. -/
theorem smTickRelease_holdsSession (nowMs : UInt64) (sm : UeSmCtx) :
    (smTickRelease nowMs sm).holdsSession =
      (sm.holdsSession &&
        !(sm.state = .releasing && sm.procStep = .waitReleaseComplete &&
          sm.nextStepDeadlineMs ≠ 0 && sm.nextStepDeadlineMs ≤ nowMs)) := by
  unfold smTickRelease
  split
  · rename_i hcond
    split
    · rename_i hzero
      simp [UeSmCtx.holdsSession, hzero]
    split
    · rename_i hset hpassed
      simp [UeSmCtx.holdsSession, smEnterInactive, hcond, hset, hpassed]
    · rename_i hset hpassed
      simp [hset, hpassed]
  · rename_i hcond
    have hfalse : (decide (sm.state = .releasing) &&
        decide (sm.procStep = .waitReleaseComplete)) = false := by
      simpa using hcond
    rw [hfalse]
    simp

theorem smStartReleaseProcedure_state {network : SmNetwork N}
    (hrel : ∀ q n, (network.submitRelease q n).1.submitted = true) (sm : UeSmCtx) (net : N) :
    (smStartReleaseProcedure network sm net).1.state = .releasing ∧
      (smStartReleaseProcedure network sm net).1.nextStepDeadlineMs = 0 := by
  unfold smStartReleaseProcedure smHandleReleaseSubmitResult
  simp only [hrel, if_true, and_self]

/-- While MM is registered, a tick ends a held session exactly by abandoning its release. -/
theorem ueSmTick_holdsSession {network : SmNetwork N}
    (hrel : ∀ q n, (network.submitRelease q n).1.submitted = true) {sm : UeSmCtx}
    (h : sm.holdsSession = true) (nowMs : UInt64) (net : N) :
    (ueSmTick network sm nowMs true net).1.holdsSession = !smAbandons sm nowMs := by
  unfold ueSmTick
  simp only [Bool.true_eq_false, if_false]
  by_cases hdis : sm.disconnectRequested = true
  · by_cases hactive : sm.state = .active
    · -- a fresh release is given its deadline by the same tick
      have heq : smTickDisconnect network sm net = smStartReleaseProcedure network sm net := by
        rw [smTickDisconnect, if_pos hdis, if_pos hactive]
      obtain ⟨hstate, hdeadline⟩ := smStartReleaseProcedure_state hrel sm net
      have hholds : (smStartReleaseProcedure network sm net).1.holdsSession = true := by
        simp [UeSmCtx.holdsSession, hstate]
      rw [heq, smTickConnect_of_holdsSession network hholds,
        smTickT3580_of_holdsSession network nowMs hholds, smTickRelease_holdsSession]
      simp [hholds, hdeadline, smAbandons, hactive]
    · have hreleasing : sm.state = .releasing := by
        simpa [UeSmCtx.holdsSession, hactive] using h
      have heq : smTickDisconnect network sm net =
          (smEnterInactive sm .disconnectRequested false true, net) := by
        simp [smTickDisconnect, hdis, hactive]
      rw [heq, smTickRelease_holdsSession, (smTickT3580_invariants network nowMs _ _).2,
        (smTickConnect_invariants network _ _).2]
      simp [UeSmCtx.holdsSession, smEnterInactive, smAbandons, hreleasing, hdis]
  · have heq : smTickDisconnect network sm net = (sm, net) := by simp [smTickDisconnect, hdis]
    rw [heq, smTickConnect_of_holdsSession network h,
      smTickT3580_of_holdsSession network nowMs h, smTickRelease_holdsSession, h]
    simp [smAbandons, hdis, Bool.and_assoc]

/-- A tick never gives a session that was not held. -/
theorem ueSmTick_of_not_holdsSession {sm : UeSmCtx} (h : sm.holdsSession = false) (nowMs : UInt64)
    (mmRegistered : Bool) (net : N) :
    (ueSmTick network sm nowMs mmRegistered net).1.holdsSession = false := by
  have hdisconnect : (smTickDisconnect network sm net).1.holdsSession = false := by
    unfold smTickDisconnect
    split
    · rw [if_neg]
      · rfl
      · intro hactive
        simp [UeSmCtx.holdsSession, hactive] at h
    · exact h
  unfold ueSmTick
  split
  · rfl
  · rw [smTickRelease_holdsSession, (smTickT3580_invariants network nowMs _ _).2,
      (smTickConnect_invariants network _ _).2, hdisconnect]
    rfl

/-! ### Attempts are numbered -/

/-- Every establishment takes a new number. -/
theorem smStartEstablishFuel_attemptId (fuel : Nat) (sm : UeSmCtx) (net : N) :
    sm.establishmentAttemptId < (smStartEstablishFuel network fuel sm net).1.establishmentAttemptId :=
  smStartEstablishFuel_induction network
    (motive := fun _ sm _ out => sm.establishmentAttemptId < out.1.establishmentAttemptId)
    (fun _ sm _ => sm.establishmentAttemptId.lt_succ_self)
    (fun _ sm _ _ => sm.establishmentAttemptId.lt_succ_self)
    (fun sm _ _ _ => sm.establishmentAttemptId.lt_succ_self)
    (fun _ _ _ _ _ _ hnext => Nat.lt_of_succ_lt hnext) fuel sm net

/-- A reject that is looked at always shows: the machine is inactive, or at a new attempt. -/
theorem ueSmOnPduSessionReject_ne {sm : UeSmCtx} (hstate : sm.state = .establishing)
    (hstep : sm.procStep = .waitEstablishResponse) (cause : UeSmPduRejectCause) (net : N) :
    (ueSmOnPduSessionReject network sm cause net).1 ≠ sm := by
  have hinactive : ∀ sm' : UeSmCtx, sm'.state = .inactive → sm' ≠ sm := by
    rintro sm' hsm' rfl
    rw [hstate] at hsm'
    cases hsm'
  rw [ueSmOnPduSessionReject, if_pos ⟨hstate, hstep⟩]
  rcases smHandleEstablishRejectByProcedure_cases (smStartEstablishProcedure network) sm cause net
    with heq | ⟨-, heq⟩
  · rw [heq]
    exact hinactive _ rfl
  · rw [heq]
    intro hsame
    have hnew := smStartEstablishFuel_attemptId network
      (sm.maxRetries.toNat - (sm.retryCount + 1).toNat) (smRetry sm cause) net
    exact absurd (congrArg UeSmCtx.establishmentAttemptId hsame) (Nat.ne_of_gt hnew)

end Invariants

theorem ueSmOnRadio_wf {sm : UeSmCtx} (h : sm.Wf) (on : Bool) : (ueSmOnRadio sm on).Wf := by
  unfold ueSmOnRadio
  split
  · exact h
  · exact nofun

theorem ueSmOnPduSessionEstablished_wf {sm : UeSmCtx} (h : sm.Wf) :
    (ueSmOnPduSessionEstablished sm).Wf := by
  unfold ueSmOnPduSessionEstablished
  split
  · exact nofun
  · exact h

/-- A release shows exactly when a session was held. -/
theorem ueSmOnPduSessionReleased_eq_iff (sm : UeSmCtx) :
    ueSmOnPduSessionReleased sm = sm ↔ sm.holdsSession = false := by
  unfold ueSmOnPduSessionReleased UeSmCtx.holdsSession
  split
  · rename_i hheld
    refine iff_of_false ?_ ?_
    · intro heq
      have hstate := congrArg UeSmCtx.state heq
      rcases hheld with h | h
      · rw [h] at hstate
        cases hstate
      · rw [h] at hstate
        cases hstate
    · rcases hheld with h | h
      · simp [h]
      · simp [h]
  · rename_i hheld
    refine iff_of_true rfl ?_
    rw [not_or] at hheld
    simp [hheld.1, hheld.2]

theorem ueSmOnPduSessionReleased_wf {sm : UeSmCtx} (h : sm.Wf) :
    (ueSmOnPduSessionReleased sm).Wf := by
  unfold ueSmOnPduSessionReleased
  split
  · exact nofun
  · exact h

end VirtualLte.Sm
