import VirtualLte.Safety.CoreWindow

/-!
# Every registration attempt transmits

An attempt that is REGISTERING over an established RRC connection should have its
Registration Request under way, with the core-response window open for its answer.

* `AttemptSent` is that property of a state, `AttemptInv` the invariant behind it.
* `attemptStep` names the steps that keep it.  Two places send the request: the
  handling of RRCSetup, and the part of a tick that sends updates over an existing
  connection.  Both must be able to encode and send it, and the second one sends
  nothing for an initial registration.
* `registrationAttempts_transmit` is the result for runs.
-/

namespace VirtualLte.Engine

open Nas Ran Mm Sm Up Rrc

variable {ctx : UeContext} (nowMs : UInt64)

/-- The current attempt is REGISTERING over an established RRC connection. -/
def onAir (ctx : UeContext) : Bool :=
  ctx.mm.state = .registering && ctx.rrcState = .connected

/-- A Registration Request was sent for the attempt. -/
def requestSent (ctx : UeContext) (attemptId : Nat) : Prop :=
  .regRequest attemptId ∈ ctx.net.trace

/-- An attempt on the air waits for the answer to a request sent for it. -/
def AttemptSent (ctx : UeContext) : Prop :=
  onAir ctx = true →
    ctx.waitingCoreResponse = true ∧ requestSent ctx ctx.mm.registrationAttemptId

/-- The tick at `nowMs` finds the attempt's deadline passed. -/
def attemptTimesOut (ctx : UeContext) (nowMs : UInt64) : Prop :=
  ctx.radioOn = true ∧ ctx.waitingCoreResponse = false ∧ ctx.mm.attempting ∧
    ctx.mm.registerRequested = true ∧ mmDeadline ctx.mm nowMs ≤ nowMs

instance (ctx : UeContext) (nowMs : UInt64) : Decidable (attemptTimesOut ctx nowMs) :=
  inferInstanceAs (Decidable (_ ∧ _ ∧ (_ ∨ _) ∧ _ ∧ _))

/-- The steps that keep `AttemptSent`. -/
def attemptStep (ctx : UeContext) : Step → Bool
  | .recv _ =>
    match recvAction ctx with
    | .rrcSetup _ =>
      !ctx.mm.expectsResponse ||
        ((registrationRequest ctx true).ok && canTransmit ctx.net.ran)
    | _ => true
  | .tickTail _ =>
    !(ctx.radioOn && ctx.mm.state = .searching && ueRanTransportIsConnected ctx.net.ran &&
        !ctx.waitingCoreResponse && ctx.rrcState = .connected) ||
      (ctx.mm.pendingRegType ≠ .initial && (registrationRequest ctx false).ok &&
        canTransmit ctx.net.ran)
  | _ => true

/-! ## Sending the request -/

theorem registrationRequest_of_ok {cleartext : Bool}
    (h : (registrationRequest ctx cleartext).ok = true) :
    ∃ nas, (registrationRequest ctx cleartext).pdu? = some nas ∧ 0 < nas.length ∧
      nas.length ≤ 256 := by
  have hnas : (registrationRequest ctx cleartext).pdu? =
      some (registrationRequest ctx cleartext).written := by
    rw [Encoded.pdu?, if_pos h]
  exact ⟨_, hnas, ueNasEncodeRegistrationRequest_length hnas⟩

/-- An RRCSetup answered by an attempt that can send puts its request on record. -/
theorem sendSetupComplete_sent (txId : UInt8) (hexpects : ctx.mm.expectsResponse = true)
    (hok : (registrationRequest ctx true).ok = true) (hlink : canTransmit ctx.net.ran = true) :
    requestSent (sendSetupComplete ctx txId) ctx.mm.registrationAttemptId := by
  obtain ⟨nas, hnas, hpos, hmax⟩ := registrationRequest_of_ok hok
  obtain ⟨pdu, hpdu, hpduPos, hpduMax⟩ :=
    ueRrcEncodeSetupComplete_of_room txId (by decide : (1 : UInt32) ≤ 1 ∧ (1 : UInt32) ≤ 12) hpos (by omega)
      (show nas.length + 5 ≤ 8192 by omega)
  have hsetup : setupCompletePdu ctx txId = some pdu := by
    rw [setupCompletePdu, hnas]
    exact hpdu
  have hsent : (sendRrc ctx pdu ueRrcChannelUlDcch).2 = true :=
    ueRanTransportSendNasPdu_of_canTransmit hlink hpduPos
      (by simp only [Rls.ueRlsMaxPduSize]; omega) _
  unfold sendSetupComplete
  rw [if_pos hexpects, hsetup]
  dsimp only
  rw [logRegRequest, if_pos hsent]
  exact List.mem_cons_self

/-- An update sent over the existing connection opens the window and is on record. -/
theorem sendUpdate_sent {ctx : UeContext} (nowMs : UInt64)
    (hexpects : ctx.mm.expectsResponse = true) (hrrc : ctx.rrcState = .connected)
    (htype : ctx.mm.pendingRegType ≠ .initial) (hwait : ctx.waitingCoreResponse = false)
    (hok : (registrationRequest ctx false).ok = true) (hlink : canTransmit ctx.net.ran = true) :
    (sendUpdate ctx nowMs).waitingCoreResponse = true ∧
      requestSent (sendUpdate ctx nowMs) ctx.mm.registrationAttemptId := by
  obtain ⟨nas, hnas, hpos, hmax⟩ := registrationRequest_of_ok hok
  have hsent : (engineSendNasUplink ctx.net nas false).2 = true :=
    engineSendNasUplink_of_canTransmit hlink hpos (by omega) false
  unfold sendUpdate
  rw [if_pos ⟨hexpects, hrrc, htype, hwait⟩, hnas]
  dsimp only
  rw [logRegRequest, if_pos hsent]
  exact ⟨rfl, List.mem_cons_self⟩

/-! ## One step -/

/-- The invariant: attempts serve a request, and those on the air have sent theirs. -/
structure AttemptInv (ctx : UeContext) : Prop where
  requested : ctx.mm.Requested
  sent : AttemptSent ctx

theorem onAir_iff : onAir ctx = true ↔ ctx.mm.state = .registering ∧ ctx.rrcState = .connected := by
  simp [onAir]

/-- Nothing is claimed of an attempt that is not REGISTERING. -/
theorem attemptSent_of_state (h : ctx.mm.state ≠ .registering) :
    AttemptSent ctx := fun hair => absurd (onAir_iff.mp hair).1 h

theorem attemptSent_of_rrc (h : ctx.rrcState ≠ .connected) :
    AttemptSent ctx := fun hair => absurd (onAir_iff.mp hair).2 h

/-- The property moves to a later state of the same attempt. -/
theorem AttemptSent.mono {a b : UeContext} (h : AttemptSent a)
    (hstate : b.mm.state = .registering → a.mm.state = .registering)
    (hid : b.mm.state = .registering →
      b.mm.registrationAttemptId = a.mm.registrationAttemptId)
    (hrrc : b.rrcState = .connected → a.rrcState = .connected)
    (hwait : a.waitingCoreResponse = true → b.waitingCoreResponse = true)
    (htrace : a.net.trace <:+ b.net.trace) : AttemptSent b := by
  intro hair
  obtain ⟨hb, hbrrc⟩ := onAir_iff.mp hair
  obtain ⟨hwaiting, hsent⟩ := h (onAir_iff.mpr ⟨hstate hb, hrrc hbrrc⟩)
  refine ⟨hwait hwaiting, ?_⟩
  rw [requestSent, hid hb]
  exact htrace.subset hsent

theorem mmSmTick_attemptInv (h : AttemptInv ctx) : AttemptInv (mmSmTick ctx nowMs) := by
  have htrace := (mmSmTick_quiet ctx nowMs).sent.moves.trace
  by_cases hwait : ctx.waitingCoreResponse = true
  · have hmm : (mmSmTick ctx nowMs).mm = ctx.mm := by simp only [mmSmTick, hwait, if_true]
    refine ⟨by rw [hmm]; exact h.requested, ?_⟩
    exact h.sent.mono (by rw [hmm]; exact id) (by rw [hmm]; exact fun _ => rfl) id id htrace
  · have hmm : (mmSmTick ctx nowMs).mm = ueMmTick ctx.mm nowMs := by
      simp only [mmSmTick, if_neg hwait]
    refine ⟨by rw [hmm]; exact ueMmTick_requested nowMs h.requested, ?_⟩
    -- with the window closed no attempt is on the air, before or after the tick
    intro hair
    obtain ⟨hstate, hrrc⟩ := onAir_iff.mp hair
    rw [hmm] at hstate
    exact absurd (h.sent (onAir_iff.mpr ⟨ueMmTick_registering hstate, hrrc⟩)).1 hwait

theorem tickHead_attemptInv (h : AttemptInv ctx) : AttemptInv (tickHead ctx nowMs) := by
  unfold tickHead
  split
  · exact ⟨h.requested, attemptSent_of_rrc nofun⟩
  · apply mmSmTick_attemptInv
    unfold ranLossRecovery
    split
    · exact ⟨mmRequest_requested _ _ _, attemptSent_of_rrc nofun⟩
    · exact h

theorem decodeAndProcessNas_attemptInv (pdu : Bytes) (h : AttemptInv ctx) :
    AttemptInv (decodeAndProcessNas ctx pdu) := by
  obtain ⟨hreg, hrrc, -⟩ := decodeAndProcessNas_reg ctx pdu
  have htrace := (decodeAndProcessNas_moves ctx pdu).trace
  cases hreg with
  | same hmm hwait =>
    refine ⟨by rw [hmm]; exact h.requested, ?_⟩
    exact h.sent.mono (by rw [hmm]; exact id) (by rw [hmm]; exact fun _ => rfl)
      (by rw [hrrc]; exact id) (by rw [hwait]; exact id) htrace
  | accept assigned hmm hwait =>
    constructor
    · rw [hmm]
      exact ueMmOnRegistrationAccept_requested h.requested
    · apply attemptSent_of_state
      rw [hmm]
      exact ueMmOnRegistrationAccept_state h.requested
  | reject cause hmm hwait =>
    constructor
    · rw [hmm]
      exact ueMmOnRegistrationReject_requested cause h.requested
    · apply attemptSent_of_state
      rw [hmm]
      exact ueMmOnRegistrationReject_state cause h.requested

theorem expectsResponse_of_registering {mm : UeMmCtx} (h : mm.Requested)
    (hstate : mm.state = .registering) : mm.expectsResponse = true := by
  simp [UeMmCtx.expectsResponse, hstate, h (.inr hstate)]

theorem engineHandleRrcSetup_attemptInv (txId : UInt8) (nowMs : UInt64) (h : AttemptInv ctx)
    (hsend : ctx.mm.expectsResponse = true →
      (registrationRequest ctx true).ok = true ∧ canTransmit ctx.net.ran = true) :
    AttemptInv (engineHandleRrcSetup ctx txId nowMs) := by
  obtain ⟨net, hframe⟩ := sendSetupComplete_frame ctx txId
  have hmm : (sendSetupComplete ctx txId).mm = ctx.mm := by rw [hframe]
  refine ⟨by simp only [engineHandleRrcSetup, hmm]; exact h.requested, ?_⟩
  intro hair
  have hstate : ctx.mm.state = .registering := by
    rw [← hmm]
    exact (onAir_iff.mp hair).1
  have hexpects := expectsResponse_of_registering h.requested hstate
  have hsent := sendSetupComplete_sent txId hexpects (hsend hexpects).1 (hsend hexpects).2
  refine ⟨rfl, ?_⟩
  have hid : (engineHandleRrcSetup ctx txId nowMs).mm.registrationAttemptId =
      ctx.mm.registrationAttemptId := by simp only [engineHandleRrcSetup, hmm]
  rw [hid]
  exact hsent

theorem recvStep_attemptInv (h : AttemptInv ctx) (hguard : attemptStep ctx (.recv nowMs) = true) :
    AttemptInv (recvStep ctx nowMs) := by
  obtain ⟨queue, count, -, hrecv⟩ := recvStep_eq ctx nowMs
  have htake : AttemptInv (receiving ctx { ctx.net.ran with nasQueue := queue } count) :=
    ⟨h.requested, h.sent⟩
  rw [hrecv]
  simp only [attemptStep] at hguard
  cases haction : recvAction ctx with
  | rrcSetup txId =>
    rw [haction] at hguard
    refine engineHandleRrcSetup_attemptInv txId nowMs htake fun hexpects => ?_
    have hexpects' : ctx.mm.expectsResponse = true := hexpects
    have hable : (registrationRequest ctx true).ok = true ∧ canTransmit ctx.net.ran = true := by
      simpa [hexpects'] using hguard
    exact hable
  | nas pdu => exact decodeAndProcessNas_attemptInv pdu htake
  | ignore => exact htake

/-! ### After the receive loop -/

theorem rrcConnect_attemptInv (h : AttemptInv ctx) : AttemptInv (rrcConnect ctx nowMs) := by
  rcases rrcConnect_frame ctx nowMs with heq | ⟨-, net, heq⟩
  · rw [heq]
    exact h
  · rw [heq]
    exact ⟨h.requested, attemptSent_of_rrc nofun⟩

theorem sendUpdate_attemptInv (h : AttemptInv ctx) : AttemptInv (sendUpdate ctx nowMs) := by
  have htrace := (sendUpdate_quiet ctx nowMs).sent.moves.trace
  rcases sendUpdate_frame ctx nowMs with heq | ⟨-, -, net, heq⟩
  · rw [heq]
    exact h
  · rw [heq] at htrace ⊢
    exact ⟨h.requested, h.sent.mono id (fun _ => rfl) id (fun _ => rfl) htrace⟩

/-- The step that finds a cell may put an attempt on the air; the update sent right after
it makes up for that. -/
theorem cellFound_attemptInv (h : AttemptInv ctx)
    (hsend : ctx.mm.state = .searching → ueRanTransportIsConnected ctx.net.ran = true →
      ctx.waitingCoreResponse = false → ctx.rrcState = .connected →
      ctx.mm.pendingRegType ≠ .initial ∧ (registrationRequest ctx false).ok = true ∧
        canTransmit ctx.net.ran = true) :
    AttemptInv (sendUpdate (rrcConnect (cellFound ctx) nowMs) nowMs) := by
  unfold cellFound
  split
  · rename_i hcond
    obtain ⟨hsearching, hconnected, hwait⟩ := hcond
    have hreq : ctx.mm.registerRequested = true := h.requested (.inl hsearching)
    by_cases hrrc : ctx.rrcState = .connected
    · obtain ⟨htype, hok, hlink⟩ := hsend hsearching hconnected hwait hrrc
      have hsame : rrcConnect { ctx with mm := ueMmTransitionToRegistering ctx.mm } nowMs =
          { ctx with mm := ueMmTransitionToRegistering ctx.mm } := by
        rw [rrcConnect, if_neg]
        rintro ⟨hidle, -⟩
        have hidle' : ctx.rrcState = .idle := hidle
        rw [hrrc] at hidle'
        cases hidle'
      rw [hsame]
      obtain ⟨hopen, hsent⟩ := @sendUpdate_sent { ctx with
        mm := ueMmTransitionToRegistering ctx.mm } nowMs
        (by simp [UeMmCtx.expectsResponse, ueMmTransitionToRegistering, hreq]) hrrc htype hwait
        hok hlink
      rcases sendUpdate_frame { ctx with mm := ueMmTransitionToRegistering ctx.mm } nowMs with
        heq | ⟨-, -, net, heq⟩
      · rw [heq] at hopen hsent ⊢
        exact ⟨fun _ => hreq, fun _ => ⟨hopen, hsent⟩⟩
      · rw [heq] at hopen hsent ⊢
        exact ⟨fun _ => hreq, fun _ => ⟨hopen, hsent⟩⟩
    · apply sendUpdate_attemptInv
      apply rrcConnect_attemptInv
      exact ⟨fun _ => hreq, attemptSent_of_rrc hrrc⟩
  · exact sendUpdate_attemptInv nowMs (rrcConnect_attemptInv nowMs h)

theorem tickTimers_attemptInv (h : AttemptInv ctx) :
    AttemptInv (linkDown (windowTimeout (setupTimeout ctx nowMs) nowMs)) := by
  have hsetup : AttemptInv (setupTimeout ctx nowMs) := by
    unfold setupTimeout
    split
    · exact ⟨h.requested, attemptSent_of_rrc nofun⟩
    · exact h
  have hwindow : AttemptInv (windowTimeout (setupTimeout ctx nowMs) nowMs) := by
    unfold windowTimeout
    split
    · exact ⟨hsetup.requested, attemptSent_of_rrc nofun⟩
    · exact hsetup
  unfold linkDown
  split
  · exact ⟨hwindow.requested, attemptSent_of_rrc nofun⟩
  · exact hwindow

theorem tickTail_attemptInv (h : AttemptInv ctx)
    (hguard : attemptStep ctx (.tickTail nowMs) = true) : AttemptInv (tickTail ctx nowMs) := by
  have huser : ∀ c, AttemptInv c → AttemptInv (userPlaneTick c) := fun _ hc => ⟨hc.1, hc.2⟩
  unfold tickTail
  split
  · exact h
  · rename_i hon
    apply huser
    apply tickTimers_attemptInv
    obtain ⟨sm, hauto⟩ := autoConnect_frame ctx
    rw [hauto]
    refine cellFound_attemptInv nowMs ⟨h.requested, h.sent⟩ ?_
    intro hsearching hconnected hwait hrrc
    have hon' : ctx.radioOn = true := by simpa using hon
    have hsearching' : ctx.mm.state = .searching := hsearching
    have hconnected' : ueRanTransportIsConnected ctx.net.ran = true := hconnected
    have hwait' : ctx.waitingCoreResponse = false := hwait
    have hrrc' : ctx.rrcState = .connected := hrrc
    have hable : ctx.mm.pendingRegType ≠ .initial ∧ (registrationRequest ctx false).ok = true ∧
        canTransmit ctx.net.ran = true := by
      simpa [attemptStep, hon', hsearching', hconnected', hwait', hrrc', and_assoc] using hguard
    exact hable

/-! ### Radio and requests -/

theorem mmRequest_attemptInv (type : UeMmRegType) (trigger : UeMmRegTrigger) (flags : UInt32)
    (h : AttemptInv ctx) :
    AttemptInv { ctx with mm := mmRequest ctx.mm type trigger, changedFlags := flags } :=
  ⟨mmRequest_requested _ _ _, h.sent.mono (fun hb => (mmRequest_of_registering _ _ hb).1)
    (fun hb => (mmRequest_of_registering _ _ hb).2) id id List.suffix_rfl⟩

theorem ueEngineSetRadio_attemptInv (ctx : UeContext) (on : Bool) :
    AttemptInv (ueEngineSetRadio ctx on) := by
  have hnot : ∀ mm : UeMmCtx, (ueMmOnRadio mm on).state ≠ .registering := by
    intro mm
    rcases ueMmOnRadio_state mm on with h | h | h
    · rw [h]
      exact nofun
    · rw [h]
      exact nofun
    · rw [h]
      exact nofun
  unfold ueEngineSetRadio
  dsimp only
  generalize (if on = true then radioOnStart ctx else radioOffStop ctx) = c
  split
  · rename_i hcond
    refine ⟨mmRequest_requested _ _ _, attemptSent_of_state ?_⟩
    exact ueMmRequestRegister_state_ne hcond.2
  · exact ⟨ueMmOnRadio_requested _ _, attemptSent_of_state (hnot _)⟩

/-- `attemptStep`s keep the invariant. -/
theorem step_attemptInv (ctx : UeContext) (e : Step) (h : AttemptInv ctx)
    (hguard : attemptStep ctx e = true) : AttemptInv (step ctx e) := by
  cases e with
  | tickHead nowMs => exact tickHead_attemptInv nowMs h
  | recv nowMs => exact recvStep_attemptInv nowMs h hguard
  | tickTail nowMs => exact tickTail_attemptInv nowMs h hguard
  | setRadio on => exact ueEngineSetRadio_attemptInv ctx on
  | requestRegister => exact mmRequest_attemptInv _ _ _ h
  | requestPeriodicUpdate => exact mmRequest_attemptInv _ _ _ h
  | requestMobilityUpdate => exact mmRequest_attemptInv _ _ _ h
  | requestConnect dnn => exact ⟨h.requested, h.sent⟩
  | requestDisconnect => exact ⟨h.requested, h.sent⟩
  | requestImsPdu =>
    have htrace := (ueEngineRequestImsPdu_quiet ctx).sent.moves.trace
    obtain ⟨_, _, _, _, _, heq⟩ := ueEngineRequestImsPdu_frame ctx
    rw [step]
    rw [heq] at htrace ⊢
    exact ⟨h.requested, h.sent.mono id (fun _ => rfl) id id htrace⟩
  | rx nowMs dgrams recvError => exact ⟨h.requested, h.sent⟩
  | os answers => exact ⟨h.requested, h.sent⟩

/-! ## Whole runs -/

theorem attemptInv_init (cfg : UeInstanceConfig) (os : OsAnswers) :
    AttemptInv (ueContextInitFromConfig cfg os) :=
  ⟨ueMmInit_requested _ _, attemptSent_of_rrc nofun⟩

/-- In a run of `attemptStep`s where no attempt times out before it was on the air, an
attempt on the air waits for the answer to its request, and no attempt times out without
a request on record. -/
theorem registrationAttempts_transmit (cfg : UeInstanceConfig) (os : OsAnswers) (es : List Step)
    (hrun : Transition.Along step (fun ctx e => attemptStep ctx e = true)
      (ueContextInitFromConfig cfg os) es)
    (hair : ∀ pre nowMs, pre ++ [.tickHead nowMs] <+: es →
      attemptTimesOut (run (ueContextInitFromConfig cfg os) pre) nowMs →
      ∃ earlier, earlier <+: pre ∧ onAir (run (ueContextInitFromConfig cfg os) earlier) = true ∧
        (run (ueContextInitFromConfig cfg os) earlier).mm.registrationAttemptId =
          (run (ueContextInitFromConfig cfg os) pre).mm.registrationAttemptId) :
    AttemptSent (run (ueContextInitFromConfig cfg os) es) ∧
      ∀ pre nowMs, pre ++ [.tickHead nowMs] <+: es →
        attemptTimesOut (run (ueContextInitFromConfig cfg os) pre) nowMs →
        requestSent (run (ueContextInitFromConfig cfg os) pre)
          (run (ueContextInitFromConfig cfg os) pre).mm.registrationAttemptId := by
  have hinv : ∀ pre, pre <+: es → AttemptInv (run (ueContextInitFromConfig cfg os) pre) := by
    rintro pre ⟨post, rfl⟩
    exact Transition.run_invariant step_attemptInv (attemptInv_init cfg os)
      ((Transition.along_append step _ _ pre post).mp hrun).1
  refine ⟨(hinv es List.prefix_rfl).sent, ?_⟩
  intro pre nowMs hpre hout
  obtain ⟨earlier, hearlier, honAir, hid⟩ := hair pre nowMs hpre hout
  have hprefix : earlier <+: es := hearlier.trans ((List.prefix_append pre _).trans hpre)
  have hsent := ((hinv earlier hprefix).sent honAir).2
  -- the log of the earlier state is part of the later one's
  obtain ⟨post, rfl⟩ := hearlier
  rw [← hid]
  rw [run, Transition.run_append]
  exact (run_moves _ post).trace.subset hsent

/-- The step does not find an attempt's deadline passed. -/
def timerRests (ctx : UeContext) : Step → Bool
  | .tickHead nowMs => !decide (attemptTimesOut ctx nowMs)
  | _ => true

/-- The attach meets the conditions, and has its request on record. -/
theorem registrationAttempts_transmit_attach :
    onAir (run exampleUe attachRun) = true ∧ AttemptSent (run exampleUe attachRun) := by
  obtain ⟨hair, hsteps, htimers⟩ : onAir (run exampleUe attachRun) = true ∧
      Transition.Along step (fun ctx e => attemptStep ctx e = true) exampleUe attachRun ∧
      Transition.Along step (fun ctx e => timerRests ctx e = true) exampleUe attachRun := by
    decide +kernel
  refine ⟨hair, ?_⟩
  refine (registrationAttempts_transmit exampleCfg exampleOs attachRun hsteps ?_).1
  intro pre nowMs hpre hout
  have hrests := htimers.at_prefix hpre
  simp only [timerRests, Bool.not_eq_true', decide_eq_false_iff_not] at hrests
  exact absurd hout hrests

/-- The attach, answered with a Registration Reject for congestion. -/
def rejectedAttach : List Step :=
  attachRun ++ tickAfter 3 [rrcDatagram 0 [0x7E, 0x00, 0x44, 0x16]]

/-- The retry after a temporary reject is on the air at the end of its tick, and has sent
nothing. -/
theorem registrationAttempts_silent :
    ¬ ∀ cfg os es nowMs,
      (run (ueContextInitFromConfig cfg os) (es ++ [.tickTail nowMs])).radioOn = true →
      ueRanTransportIsConnected
        (run (ueContextInitFromConfig cfg os) (es ++ [.tickTail nowMs])).net.ran = true →
      AttemptSent (run (ueContextInitFromConfig cfg os) (es ++ [.tickTail nowMs])) := by
  intro h
  obtain ⟨hradio, hconnected, hair, hsilent⟩ :
      (run exampleUe (rejectedAttach.dropLast ++ [.tickTail 3])).radioOn = true ∧
      ueRanTransportIsConnected
        (run exampleUe (rejectedAttach.dropLast ++ [.tickTail 3])).net.ran = true ∧
      onAir (run exampleUe (rejectedAttach.dropLast ++ [.tickTail 3])) = true ∧
      (run exampleUe (rejectedAttach.dropLast ++ [.tickTail 3])).waitingCoreResponse = false := by
    decide +kernel
  have hsent := h exampleCfg exampleOs rejectedAttach.dropLast 3 hradio hconnected hair
  exact absurd (hsent.1.symm.trans hsilent) (by decide)

end VirtualLte.Engine
