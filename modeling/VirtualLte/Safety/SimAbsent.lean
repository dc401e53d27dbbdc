import VirtualLte.Engine.Link

/-!
# Without a SIM

A UE configured without a SIM starts in SIM_NOT_READY.  It should stay off the air:
MM neither searches nor registers, and no PDU is handed to the transport.

* `OffAir` is that property of a state.
* The SIM condition is an MM state and nothing else, so that three kinds of step
  overwrite or bypass it.  `simlessStep` leaves them out: the radio is not switched
  on again once it is off, no registration is asked for while it is on, and no
  message arrives that the engine answers in any state.
* `simAbsent_offAir` says that every run of the other steps keeps the UE off the air.
-/

namespace VirtualLte.Engine

open Crypto Nas Ran Mm Sm Up Rrc Rls

variable {ctx : UeContext} {t : UeRanTransportCtx}

/-! ## Off the air -/

/-- Whether a datagram carries a PDU, not a heartbeat or an acknowledgement. -/
def carriesPdu (dgram : Bytes) : Bool :=
  match ueRlsDecode dgram with
  | some (.pduTx _ _ _ _ _) => true
  | _ => false

/-- No PDU was handed to the transport: none was numbered, and none was sent. -/
structure NoUplink (t : UeRanTransportCtx) : Prop where
  unnumbered : t.nextPduId = 1
  unsent : ∀ d ∈ t.sent, carriesPdu d.2 = false

def OffAir (ctx : UeContext) : Prop :=
  (ctx.mm.state = .simNotReady ∨ ctx.mm.state = .poweredOff) ∧ NoUplink ctx.net.ran

theorem carriesPdu_eq_false {dgram : Bytes} (h : octet dgram 4 ≠ 6) : carriesPdu dgram = false := by
  unfold carriesPdu
  split
  · rename_i heq
    exact absurd (ueRlsDecode_type heq) h
  · rfl

theorem carriesPdu_heartbeat {d : SockAddrIn × Bytes} (h : IsHeartbeat t d) :
    carriesPdu d.2 = false := by
  obtain ⟨ep, -, -, bufLen, henc⟩ := h
  unfold ueRlsEncodeHeartbeat at henc
  split at henc
  · cases henc
  · rw [← Option.some.inj henc]
    exact carriesPdu_eq_false nofun

theorem carriesPdu_ack {d : SockAddrIn × Bytes} (h : IsAck t d) : carriesPdu d.2 = false := by
  obtain ⟨-, henc⟩ := h
  unfold ueRlsEncodePduAck at henc
  split at henc
  · cases henc
  · rw [← Option.some.inj henc]
    exact carriesPdu_eq_false nofun

theorem ranStep_nextPduId (t : UeRanTransportCtx) {e : RanStep} (he : e.isSend = false) :
    (ranStep t e).nextPduId = t.nextPduId := by
  have hchange := ranStep_change t e
  generalize ranStep t e = t' at hchange ⊢
  cases hchange with
  | sent hsend _ =>
    rw [he] at hsend
    cases hsend
  | _ => rfl

/-- Only the two send calls hand over a PDU. -/
theorem NoUplink.ranStep (h : NoUplink t) {e : RanStep} (he : e.isSend = false) :
    NoUplink (ranStep t e) where
  unnumbered := (ranStep_nextPduId t he).trans h.unnumbered
  unsent := by
    intro d hd
    rcases ranStep_sent t e d hd with hold | hnew
    · exact h.unsent d hold
    · cases hnew with
      | heartbeat hbeat => exact carriesPdu_heartbeat hbeat
      | ack nowMs _ hack => exact carriesPdu_ack hack
      | pdu hsend _ =>
        rw [he] at hsend
        cases hsend

theorem NoUplink.tick (h : NoUplink t) (nowMs : UInt64) (dgrams : List (SockAddrIn × Bytes))
    (recvError : Bool) : NoUplink (ueRanTransportTick t nowMs dgrams recvError) := by
  obtain ⟨es, heq, htick⟩ := ueRanTransportTick_run t nowMs dgrams recvError
  rw [heq]
  clear heq
  induction es generalizing t with
  | nil => exact h
  | cons e es ih =>
    have he : e.isSend = false := by
      have := htick e (.head _)
      cases e with
      | sendNas pdu rrcChannel => cases this
      | sendData psi data => cases this
      | _ => rfl
    exact ih (h.ranStep he) fun e he => htick e (.tail _ he)

/-! ## The steps left out -/

/-- The events the engine answers whatever its state. -/
def answeredAnyway (cfg : UeInstanceConfig) (ev : UeNasEvent) : Bool :=
  match ev.type with
  | .registrationAccept => (storableGuti ev).isSome
  | .registrationReject => false
  | .pduSessionEstAccept => true
  | .pduSessionEstReject => true
  | .pduSessionReleaseCmd => true
  | .authenticationRequest => (challengeOf cfg ev).isSome
  | .securityModeCommand => false
  | .identityRequest => true
  | .configUpdateCommand => ev.configUpdateAckRequested
  | .dlNasTransport => false

/-- A message that carries such an event. -/
def asksForAnswer (ctx : UeContext) (pdu : Bytes) : Bool :=
  match unwrapNas ctx pdu with
  | none => false
  | some (_, plain) =>
    match ueNasDecodeEvent plain with
    | none => false
    | some ev => answeredAnyway ctx.cfg ev

/-- The steps that respect the absence of a SIM. -/
def simlessStep (ctx : UeContext) : Step → Bool
  | .setRadio on => !on || ctx.radioOn
  | .requestRegister | .requestPeriodicUpdate | .requestMobilityUpdate => !ctx.radioOn
  | .recv nowMs =>
    match nasDelivered ctx (.recv nowMs) with
    | none => true
    | some pdu => !asksForAnswer ctx pdu
  | _ => true

/-! ## One step -/

/-- What those steps keep.  While the radio is on no request is pending, and there is no
security context an answer could come from. -/
structure Simless (ctx : UeContext) : Prop where
  mm : ctx.radioOn = true ∧ ctx.mm.state = .simNotReady ∧ ctx.mm.registerRequested = false ∨
    ctx.radioOn = false ∧ ctx.mm.state = .poweredOff
  sm : ctx.sm.state = .inactive
  unsecured : ctx.net.nasSec.active = false
  nonCurrent : ctx.nasSecNonCurrent = none
  uplink : NoUplink ctx.net.ran

theorem Simless.offAir (h : Simless ctx) : OffAir ctx :=
  ⟨h.mm.imp (fun hon => hon.2.1) fun hoff => hoff.2, h.uplink⟩

theorem Simless.state_ne (h : Simless ctx) :
    ctx.mm.state ≠ .registeredHome ∧ ctx.mm.state ≠ .searching ∧ ctx.mm.state ≠ .registering ∧
      ctx.mm.state ≠ .deregistered := by
  rcases h.mm with ⟨-, hstate, -⟩ | ⟨-, hstate⟩
  · rw [hstate]
    exact ⟨nofun, nofun, nofun, nofun⟩
  · rw [hstate]
    exact ⟨nofun, nofun, nofun, nofun⟩

theorem Simless.expectsResponse (h : Simless ctx) : ctx.mm.expectsResponse = false := by
  simp [UeMmCtx.expectsResponse, h.state_ne.2.2.1]

/-- The MM timer does nothing outside a registration. -/
theorem Simless.mmTick (h : Simless ctx) (nowMs : UInt64) :
    (ueMmTick ctx.mm nowMs).state = ctx.mm.state ∧
      (ueMmTick ctx.mm nowMs).registerRequested = ctx.mm.registerRequested := by
  obtain ⟨-, hsearching, hregistering, -⟩ := h.state_ne
  unfold ueMmTick
  rw [if_neg fun hc => hsearching hc.1, if_neg fun hc => hregistering hc.1]
  dsimp only
  split
  · exact ⟨rfl, rfl⟩
  · exact ⟨rfl, rfl⟩

theorem tickHead_simless (h : Simless ctx) (nowMs : UInt64) : Simless (tickHead ctx nowMs) := by
  obtain ⟨hhome, -, -, -⟩ := h.state_ne
  unfold tickHead
  split
  · exact ⟨h.mm, h.sm, h.unsecured, h.nonCurrent, h.uplink⟩
  have hloss : ranLossRecovery ctx = ctx := by
    unfold ranLossRecovery
    rw [if_neg]
    rintro ⟨-, hstate | hactive⟩
    · exact hhome hstate
    · rw [h.sm] at hactive
      cases hactive
  rw [hloss]
  have hmm : ∀ mm : UeMmCtx, mm.state = ctx.mm.state →
      mm.registerRequested = ctx.mm.registerRequested →
      ueSmTick smNetwork ctx.sm nowMs (mm.state = .registeredHome) ctx.net =
          ueSmTick smNetwork ctx.sm nowMs false ctx.net ∧
        (ctx.radioOn = true ∧ mm.state = .simNotReady ∧ mm.registerRequested = false ∨
          ctx.radioOn = false ∧ mm.state = .poweredOff) := by
    intro mm hstate hreq
    rw [hstate, hreq, decide_eq_false hhome]
    exact ⟨rfl, h.mm⟩
  unfold mmSmTick
  dsimp only
  split
  · obtain ⟨hsm, hmm'⟩ := hmm ctx.mm rfl rfl
    rw [hsm]
    exact ⟨hmm', rfl, h.unsecured, h.nonCurrent, h.uplink⟩
  · obtain ⟨hsm, hmm'⟩ := hmm _ (h.mmTick nowMs).1 (h.mmTick nowMs).2
    rw [hsm]
    exact ⟨hmm', rfl, h.unsecured, h.nonCurrent, h.uplink⟩

theorem tickTail_simless (h : Simless ctx) (nowMs : UInt64) : Simless (tickTail ctx nowMs) := by
  obtain ⟨hhome, hsearching, -, -⟩ := h.state_ne
  unfold tickTail
  split
  · exact h
  rename_i hon
  have hreq : ctx.mm.registerRequested = false := by
    rcases h.mm with ⟨-, -, hreq⟩ | ⟨hoff, -⟩
    · exact hreq
    · exact absurd hoff hon
  have hauto : autoConnect ctx = ctx := if_neg fun hc => hhome hc.1
  have hcell : cellFound ctx = ctx := if_neg fun hc => hsearching hc.1
  have hconnect : rrcConnect ctx nowMs = ctx := by
    refine if_neg fun hc => ?_
    rw [hreq] at hc
    exact absurd hc.2.2 nofun
  have hupdate : sendUpdate ctx nowMs = ctx := by
    refine if_neg fun hc => ?_
    rw [h.expectsResponse] at hc
    exact absurd hc.1 nofun
  rw [hauto, hcell, hconnect, hupdate]
  -- the time-outs touch the RRC connection only
  unfold userPlaneTick linkDown windowTimeout setupTimeout
  repeat' split
  all_goals exact ⟨h.mm, h.sm, h.unsecured, h.nonCurrent, h.uplink⟩

/-- An event the engine does not answer leaves a UE without a SIM as it is. -/
theorem dispatchNasEvent_simless (h : Simless ctx) {ev : UeNasEvent}
    (hev : answeredAnyway ctx.cfg ev = false) : Simless (dispatchNasEvent ctx ev) := by
  have haccept : ueMmOnRegistrationAccept ctx.mm = ctx.mm :=
    (ueMmOnRegistrationAccept_eq_iff ctx.mm).mpr h.expectsResponse
  have hreject : ∀ cause, ueMmOnRegistrationReject ctx.mm cause = ctx.mm :=
    fun cause => (ueMmOnRegistrationReject_eq_iff ctx.mm cause).mpr h.expectsResponse
  unfold answeredAnyway at hev
  unfold dispatchNasEvent
  split <;> rename_i htype <;> rw [htype] at hev <;> dsimp only at hev
  · have hguti : storableGuti ev = none := Option.not_isSome_iff_eq_none.mp (by rw [hev]; exact nofun)
    simp only [onRegistrationAccept, hguti, haccept]
    exact ⟨h.mm, h.sm, h.unsecured, h.nonCurrent, h.uplink⟩
  · simp only [onRegistrationReject, hreject]
    exact ⟨h.mm, h.sm, h.unsecured, h.nonCurrent, h.uplink⟩
  · cases hev
  · cases hev
  · cases hev
  · have hnone : challengeOf ctx.cfg ev = none :=
      Option.not_isSome_iff_eq_none.mp (by rw [hev]; exact nofun)
    simp only [onAuthenticationRequest, hnone]
    exact h
  · have htarget : smcTarget ctx (smcSelection ev).ngksi = none := by
      simp [smcTarget, h.unsecured, h.nonCurrent]
    simp only [onSecurityModeCommand, htarget]
    exact h
  · cases hev
  · simp only [onConfigUpdateCommand, hev, Bool.false_eq_true, if_false]
    exact h
  · exact h

theorem decodeAndProcessNas_simless (h : Simless ctx) {pdu : Bytes}
    (hpdu : asksForAnswer ctx pdu = false) : Simless (decodeAndProcessNas ctx pdu) := by
  unfold asksForAnswer at hpdu
  unfold decodeAndProcessNas
  split
  · exact h
  · rename_i c plain hunwrap
    simp only [hunwrap] at hpdu
    have hc : Simless c ∧ c.cfg = ctx.cfg := by
      cases unwrapNas_cases hunwrap with
      | plain hprot heq hplain =>
        subst heq
        exact ⟨h, rfl⟩
      | newCtx hprot hsht hlen heq hplain =>
        subst heq
        exact ⟨⟨h.mm, h.sm, h.unsecured, h.nonCurrent, h.uplink⟩, rfl⟩
      | verified hprot hsht hact hmac heq =>
        rw [h.unsecured] at hact
        cases hact
    split
    · exact hc.1
    · rename_i ev hdecode
      simp only [hdecode] at hpdu
      have hevent := dispatchNasEvent_simless hc.1 (by rw [hc.2]; exact hpdu)
      exact ⟨hevent.mm, hevent.sm, hevent.unsecured, hevent.nonCurrent, hevent.uplink⟩

theorem recvStep_simless (h : Simless ctx) (nowMs : UInt64)
    (hstep : simlessStep ctx (.recv nowMs) = true) : Simless (recvStep ctx nowMs) := by
  obtain ⟨queue, count, -, hrecv⟩ := recvStep_eq ctx nowMs
  have htaken : Simless (receiving ctx { ctx.net.ran with nasQueue := queue } count) :=
    ⟨h.mm, h.sm, h.unsecured, h.nonCurrent, ⟨h.uplink.unnumbered, h.uplink.unsent⟩⟩
  rw [hrecv]
  simp only [simlessStep, nasDelivered] at hstep
  cases haction : recvAction ctx with
  | rrcSetup txId =>
    have hsend : sendSetupComplete (receiving ctx { ctx.net.ran with nasQueue := queue } count) txId =
        receiving ctx { ctx.net.ran with nasQueue := queue } count := by
      unfold sendSetupComplete
      rw [htaken.expectsResponse]
      rfl
    simp only [performDl, engineHandleRrcSetup]
    rw [hsend]
    exact ⟨h.mm, h.sm, h.unsecured, h.nonCurrent, htaken.uplink⟩
  | nas pdu =>
    simp only [haction, Bool.not_eq_true'] at hstep
    refine decodeAndProcessNas_simless htaken ?_
    unfold asksForAnswer at hstep ⊢
    rw [unwrapNas_receiving]
    cases hunwrap : unwrapNas ctx pdu with
    | none => rfl
    | some r =>
      rw [hunwrap] at hstep
      exact hstep
  | ignore => exact htaken

theorem ueEngineSetRadio_simless (h : Simless ctx) (on : Bool)
    (hstep : simlessStep ctx (.setRadio on) = true) : Simless (ueEngineSetRadio ctx on) := by
  cases on with
  | false =>
    have hdetach : sendDetach { ctx with radioOn := false } = { ctx with radioOn := false } := by
      refine if_neg fun hc => ?_
      have hactive : ctx.net.nasSec.active = true := hc.2.1
      rw [h.unsecured] at hactive
      cases hactive
    have hstop : (radioOffStop ctx).radioOn = false ∧ NoUplink (radioOffStop ctx).net.ran := by
      unfold radioOffStop
      rw [hdetach]
      dsimp only
      split
      · exact ⟨rfl, ⟨h.uplink.unnumbered, h.uplink.unsent⟩⟩
      · exact ⟨rfl, ⟨h.uplink.unnumbered, h.uplink.unsent⟩⟩
    exact ⟨.inr ⟨hstop.1, rfl⟩, rfl, rfl, rfl, hstop.2⟩
  | true =>
    have hon : ctx.radioOn = true := by simpa [simlessStep] using hstep
    have hstate : ctx.mm.state = .simNotReady := by
      rcases h.mm with ⟨-, hstate, -⟩ | ⟨hoff, -⟩
      · exact hstate
      · rw [hon] at hoff
        cases hoff
    have hmm : ueMmOnRadio ctx.mm true = ctx.mm := by simp [ueMmOnRadio, hstate]
    obtain ⟨ran, hstart⟩ : ∃ ran, radioOnStart ctx = { ctx with net := { ctx.net with ran := ran } } ∧
        NoUplink ran := by
      unfold radioOnStart
      simp only [hon, if_true]
      split
      · exact ⟨_, rfl, h.uplink.ranStep (e := .start) rfl⟩
      · exact ⟨ctx.net.ran, by rw [← hon], h.uplink⟩
    unfold ueEngineSetRadio
    simp only [if_true, hstart.1, hmm, hstate]
    exact ⟨h.mm, h.sm, h.unsecured, h.nonCurrent, hstart.2⟩

theorem mmRequest_of_simless (h : Simless ctx) (type : UeMmRegType) (trigger : UeMmRegTrigger) :
    (mmRequest ctx.mm type trigger).state = ctx.mm.state := by
  obtain ⟨hhome, -, -, hdereg⟩ := h.state_ne
  simp [mmRequest, mmInvokePendingRegistration, hhome, hdereg]

/-- A registration is asked for with the radio off. -/
theorem Simless.request {ctx : UeContext} (h : Simless ctx) (hoff : ctx.radioOn = false)
    (type : UeMmRegType) (trigger : UeMmRegTrigger) :
    Simless (noteChanges ctx { ctx with mm := mmRequest ctx.mm type trigger }) := by
  have hstate : ctx.mm.state = .poweredOff := by
    rcases h.mm with ⟨hon, -, -⟩ | ⟨-, hstate⟩
    · rw [hoff] at hon
      cases hon
    · exact hstate
  exact ⟨.inr ⟨hoff, (mmRequest_of_simless h type trigger).trans hstate⟩, h.sm, h.unsecured,
    h.nonCurrent, h.uplink⟩

theorem step_simless (ctx : UeContext) (e : Step) (h : Simless ctx)
    (hstep : simlessStep ctx e = true) : Simless (step ctx e) := by
  cases e with
  | tickHead nowMs => exact tickHead_simless h nowMs
  | recv nowMs => exact recvStep_simless h nowMs hstep
  | tickTail nowMs => exact tickTail_simless h nowMs
  | setRadio on => exact ueEngineSetRadio_simless h on hstep
  | requestRegister => exact h.request (by simpa [simlessStep] using hstep) _ _
  | requestPeriodicUpdate => exact h.request (by simpa [simlessStep] using hstep) _ _
  | requestMobilityUpdate => exact h.request (by simpa [simlessStep] using hstep) _ _
  | requestConnect dnn => exact ⟨h.mm, h.sm, h.unsecured, h.nonCurrent, h.uplink⟩
  | requestDisconnect => exact ⟨h.mm, h.sm, h.unsecured, h.nonCurrent, h.uplink⟩
  | requestImsPdu =>
    have hrefused : ueEngineRequestImsPdu ctx = ctx := if_pos (.inr (.inl h.state_ne.1))
    rw [step, hrefused]
    exact h
  | rx nowMs dgrams recvError =>
    exact ⟨h.mm, h.sm, h.unsecured, h.nonCurrent, h.uplink.tick nowMs dgrams recvError⟩
  | os answers => exact ⟨h.mm, h.sm, h.unsecured, h.nonCurrent, h.uplink.ranStep (e := .os answers) rfl⟩

/-! ## Whole runs -/

theorem simless_init {cfg : UeInstanceConfig} (hsim : cfg.sim.simPresent = false) (os : OsAnswers) :
    Simless (ueContextInitFromConfig cfg os) where
  mm := by
    left
    simp [ueContextInitFromConfig, ueMmInit, hsim]
  sm := rfl
  unsecured := rfl
  nonCurrent := rfl
  uplink := by
    obtain ⟨os', eps, heq⟩ := ranInit_init cfg os
    rw [heq]
    exact ⟨rfl, nofun⟩

/-- Without a SIM, a run of steps that respect its absence stays off the air all the way. -/
theorem simAbsent_offAir {cfg : UeInstanceConfig} (hsim : cfg.sim.simPresent = false)
    (os : OsAnswers) (es : List Step)
    (hrun : Transition.Along step (fun ctx e => simlessStep ctx e = true)
      (ueContextInitFromConfig cfg os) es) (pre : List Step) (hpre : pre <+: es) :
    OffAir (run (ueContextInitFromConfig cfg os) pre) := by
  obtain ⟨post, rfl⟩ := hpre
  have hrun' := ((Transition.along_append step _ _ pre post).mp hrun).1
  exact (Transition.run_invariant step_simless (simless_init hsim os) hrun').offAir

/-- The packaged configuration with the SIM taken out. -/
def simlessCfg : UeInstanceConfig :=
  { exampleCfg with sim := { exampleCfg.sim with simPresent := false } }

/-- The radio is on and a cell is found; then it is switched off and a request is made. -/
def simlessRun : List Step :=
  .setRadio true :: tickAfter 1 [heartbeatAck] ++ tickAfter 2 [rrcDatagram ueRrcChannelDlCcch [0x20]] ++
    [.setRadio false, .requestRegister]

theorem simAbsent_offAir_simlessRun :
    OffAir (run (ueContextInitFromConfig simlessCfg exampleOs) simlessRun) :=
  simAbsent_offAir rfl exampleOs simlessRun (by decide +kernel) simlessRun ⟨[], by simp⟩

/-- Switching the radio off and on makes a UE without a SIM search, and a request made with
the radio on puts an RRCSetupRequest on the air. -/
theorem simAbsent_onAir :
    (run (ueContextInitFromConfig simlessCfg exampleOs) [.setRadio false, .setRadio true]).mm.state =
        .searching ∧
      ((run (ueContextInitFromConfig simlessCfg exampleOs)
        ([.setRadio true, .requestRegister] ++ tickAfter 1 [heartbeatAck])).net.ran.sent.any
          fun d => carriesPdu d.2) = true := by
  decide +kernel

end VirtualLte.Engine
