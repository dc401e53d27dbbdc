import VirtualLte.Ims.Worker

/-!
# What the worker's actions do

One lemma for each function that sends: which fields it changes and which calls it makes.

* `Calls p events` says that the events are transmissions of the kinds `p`, and `Sends` that
  those among them are.
* `imsHandleRxIp_ok` and `imsHandleRxIp_other` split the packets by the one thing that
  matters to the registration: a 200 response to a REGISTER.
* `imsHandleRxIp_sends`: a packet makes the service send a REGISTER only while the PDU
  session and the P-CSCF are there, and never an SMS.
-/

namespace VirtualLte.Ims

open Engine

variable {p : ImsTxKind → Prop} {events : List ImsEvent} (env : ImsEnv) (svc : ImsService)

/-! ## Transmissions -/

/-- The events are calls of the transmit callback, of the kinds `p`. -/
def Calls (p : ImsTxKind → Prop) (events : List ImsEvent) : Prop :=
  ∀ ev ∈ events, ∃ kind packet rc, p kind ∧ ev = .tx kind packet rc

theorem Calls.nil (p : ImsTxKind → Prop) : Calls p [] := nofun

theorem Calls.mono {q : ImsTxKind → Prop} (h : Calls p events) (hpq : ∀ kind, p kind → q kind) :
    Calls q events := by
  intro ev hev
  obtain ⟨kind, packet, rc, hkind, rfl⟩ := h ev hev
  exact ⟨kind, packet, rc, hpq kind hkind, rfl⟩

theorem imsTransmit_calls (kind : ImsTxKind) (packet : Option Bytes) :
    Calls (· = kind) (imsTransmit env kind packet).2 := by
  cases packet with
  | none => exact .nil _
  | some packet =>
    intro ev hev
    exact ⟨kind, packet, env.txAnswer kind, rfl, List.mem_singleton.mp hev⟩

/-- The calls of the transmit callback among the events are of the kinds `p`. -/
def Sends (p : ImsTxKind → Prop) (events : List ImsEvent) : Prop :=
  ∀ kind packet rc, ImsEvent.tx kind packet rc ∈ events → p kind

theorem Calls.sends (h : Calls p events) : Sends p events := by
  intro kind packet rc hev
  obtain ⟨kind', packet', rc', hkind, heq⟩ := h _ hev
  cases heq
  exact hkind

theorem Sends.mono {q : ImsTxKind → Prop} (h : Sends p events) (hpq : ∀ kind, p kind → q kind) :
    Sends q events :=
  fun kind packet rc hev => hpq kind (h kind packet rc hev)

theorem Sends.append {a b : List ImsEvent} (ha : Sends p a) (hb : Sends p b) : Sends p (a ++ b) :=
  fun kind packet rc hev => (List.mem_append.mp hev).elim (ha kind packet rc) (hb kind packet rc)

/-- An event that is no transmission does not matter. -/
theorem Sends.cons {ev : ImsEvent} (hev : ∀ kind packet rc, ev ≠ .tx kind packet rc)
    (h : Sends p events) : Sends p (ev :: events) :=
  fun kind packet rc hmem =>
    (List.mem_cons.mp hmem).elim (fun heq => absurd heq.symm (hev kind packet rc)) (h kind packet rc)

/-- Without REGISTERs there is nothing to count. -/
theorem Sends.registersSent (h : Sends p events) (hp : ¬ p .register) :
    registersSent events = 0 := by
  unfold Ims.registersSent
  rw [List.countP_eq_zero]
  intro ev hev
  split
  · exact absurd (h _ _ _ hev) hp
  · exact Bool.false_ne_true

theorem Calls.registersSent (h : Calls p events) (hp : ¬ p .register) : registersSent events = 0 :=
  h.sends.registersSent hp

theorem imsSendSipMessageOk_calls (hdr : Bytes) :
    Calls (· = .messageOk) (imsSendSipMessageOk env svc hdr) := by
  unfold imsSendSipMessageOk
  split
  · exact .nil _
  · split
    · exact .nil _
    · exact imsTransmit_calls env _ _

theorem imsSendRpAck_calls (hdr rpdu : Bytes) (rpMr : UInt8) :
    (∃ cseq, (imsSendRpAck env svc hdr rpdu rpMr).1 = { svc with nextSipCseq := cseq }) ∧
      Calls (· = .rpAck rpdu) (imsSendRpAck env svc hdr rpdu rpMr).2 := by
  unfold imsSendRpAck
  split
  · exact ⟨⟨svc.nextSipCseq, rfl⟩, .nil _⟩
  · dsimp only
    split
    · exact ⟨⟨svc.nextSipCseq, rfl⟩, .nil _⟩
    · split
      · exact ⟨⟨_, rfl⟩, .nil _⟩
      · exact ⟨⟨_, rfl⟩, imsTransmit_calls env _ _⟩

theorem imsSendInitialRegister_calls (identity : ImsIdentity) (localIp pcscfIp : Ipv4)
    (txCb : Bool) :
    Calls (· = .register) (imsSendInitialRegister env identity localIp pcscfIp txCb).2 := by
  unfold imsSendInitialRegister
  split
  · exact .nil _
  · split
    · exact .nil _
    · dsimp only
      split
      · exact .nil _
      · exact imsTransmit_calls env _ _

/-- An authorized REGISTER is sent only through a session that is up. -/
theorem imsSendAuthorizedRegister_calls (challenge : SipAuthChallenge) :
    (∃ cseq, (imsSendAuthorizedRegister env svc challenge).1 = { svc with nextSipCseq := cseq }) ∧
      Calls (fun kind => kind = .register ∧ txReadyLocked svc = true)
        (imsSendAuthorizedRegister env svc challenge).2.2 := by
  unfold imsSendAuthorizedRegister
  split
  · exact ⟨⟨svc.nextSipCseq, rfl⟩, .nil _⟩
  · split
    · exact ⟨⟨svc.nextSipCseq, rfl⟩, .nil _⟩
    · split
      · exact ⟨⟨svc.nextSipCseq, rfl⟩, .nil _⟩
      · rename_i hready
        dsimp only
        split
        · exact ⟨⟨_, rfl⟩, .nil _⟩
        · split
          · exact ⟨⟨_, rfl⟩, .nil _⟩
          · refine ⟨⟨_, rfl⟩, (imsTransmit_calls env _ _).mono fun kind hkind => ⟨hkind, ?_⟩⟩
            simpa using hready

theorem imsSendSmsMessage_calls (sms : ImsSmsItem) (localIp pcscfIp : Ipv4) (txCb : Bool) :
    (∃ cseq, (imsSendSmsMessage env svc sms localIp pcscfIp txCb).1 =
        { svc with nextSipCseq := cseq }) ∧
      Calls (· = .sms sms.reference) (imsSendSmsMessage env svc sms localIp pcscfIp txCb).2.2 := by
  unfold imsSendSmsMessage
  split
  · exact ⟨⟨svc.nextSipCseq, rfl⟩, .nil _⟩
  · split
    · exact ⟨⟨svc.nextSipCseq, rfl⟩, .nil _⟩
    · dsimp only
      split
      · exact ⟨⟨_, rfl⟩, .nil _⟩
      · exact ⟨⟨_, rfl⟩, imsTransmit_calls env _ _⟩

/-! ## Packets -/

/-- What an incoming SMS is answered with. -/
def SmsAnswer (kind : ImsTxKind) : Prop := kind = .messageOk ∨ ∃ rpdu, kind = .rpAck rpdu

theorem imsDeliverRpdu_quiet (hdr rpdu pdu : Bytes) (rpMr : UInt8) :
    (∃ cseq last, (imsDeliverRpdu env svc hdr rpdu pdu rpMr).1 =
        { svc with nextSipCseq := cseq, lastMtRpdu := last }) ∧
      Sends SmsAnswer (imsDeliverRpdu env svc hdr rpdu pdu rpMr).2 := by
  have hanswer : ∀ kind, kind = .rpAck rpdu → SmsAnswer kind := fun _ hkind => .inr ⟨rpdu, hkind⟩
  unfold imsDeliverRpdu
  split
  · obtain ⟨⟨cseq, hsvc⟩, hcalls⟩ := imsSendRpAck_calls env svc hdr rpdu rpMr
    exact ⟨⟨cseq, svc.lastMtRpdu, hsvc⟩, (hcalls.mono hanswer).sends.cons nofun⟩
  · dsimp only
    split
    · obtain ⟨⟨cseq, hsvc⟩, hcalls⟩ :=
        imsSendRpAck_calls env { svc with lastMtRpdu := rpdu } hdr rpdu rpMr
      exact ⟨⟨cseq, rpdu, hsvc⟩, (hcalls.mono hanswer).sends.cons nofun⟩
    · obtain ⟨⟨cseq, hsvc⟩, hcalls⟩ := imsSendRpAck_calls env svc hdr rpdu rpMr
      exact ⟨⟨cseq, svc.lastMtRpdu, hsvc⟩, (hcalls.mono hanswer).sends.cons nofun⟩

/-- An incoming MESSAGE has no part in the registration. -/
theorem imsHandleSipMessage_quiet (payload : Bytes) :
    (∃ cseq last, (imsHandleSipMessage env svc payload).1 =
        { svc with nextSipCseq := cseq, lastMtRpdu := last }) ∧
      Sends SmsAnswer (imsHandleSipMessage env svc payload).2 := by
  unfold imsHandleSipMessage
  split
  · exact ⟨⟨_, _, rfl⟩, (Calls.nil _).sends⟩
  · rename_i hdr rpdu _
    have hok : Sends SmsAnswer (imsSendSipMessageOk env svc hdr) :=
      ((imsSendSipMessageOk_calls env svc hdr).mono fun _ hkind => .inl hkind).sends
    dsimp only
    split
    · exact ⟨⟨_, _, rfl⟩, hok⟩
    · rename_i pdu rpMr _
      obtain ⟨hsvc, hevents⟩ := imsDeliverRpdu_quiet env svc hdr rpdu pdu rpMr
      exact ⟨hsvc, hok.append hevents⟩

theorem imsRegisterChallenged_calls (payload : Bytes) :
    (∃ cseq auth authValid sent sentMs, (imsRegisterChallenged env svc payload).1 =
        { svc with
          nextSipCseq := cseq, registerAuth := auth, registerAuthValid := authValid
          registerSent := sent, registerSentMs := sentMs }) ∧
      Calls (fun kind => kind = .register ∧ txReadyLocked svc = true)
        (imsRegisterChallenged env svc payload).2 := by
  unfold imsRegisterChallenged
  split
  · exact ⟨⟨_, _, _, _, _, rfl⟩, .nil _⟩
  · rename_i challenge _
    obtain ⟨⟨cseq, hsvc⟩, hready⟩ := imsSendAuthorizedRegister_calls env
      { svc with registerAuth := challenge, registerAuthValid := true } challenge
    dsimp only
    split
    · refine ⟨⟨cseq, challenge, true, true, env.now, ?_⟩, hready⟩
      rw [hsvc]
    · exact ⟨⟨cseq, challenge, true, svc.registerSent, svc.registerSentMs, hsvc⟩, hready⟩

theorem packetResponse_eq {packet payload : Bytes} (h : sipPayload packet = some payload) :
    packetResponse packet = registerResponse payload := by
  unfold packetResponse
  rw [h]
  rfl

/-- A 200 response registers. -/
theorem imsHandleRxIp_ok {packet : Bytes} (h : packetResponse packet = some .ok) :
    ∃ payload cseq last, sipPayload packet = some payload ∧
      (imsHandleRxIp env svc packet).1 =
        imsRegisterAccepted env { svc with nextSipCseq := cseq, lastMtRpdu := last } payload := by
  cases hpayload : sipPayload packet with
  | none =>
    unfold packetResponse at h
    rw [hpayload] at h
    cases h
  | some payload =>
    rw [packetResponse_eq hpayload] at h
    obtain ⟨⟨cseq, last, hsvc⟩, -⟩ := imsHandleSipMessage_quiet env svc payload
    refine ⟨payload, cseq, last, rfl, ?_⟩
    unfold imsHandleRxIp
    rw [hpayload]
    dsimp only
    rw [h, hsvc]

/-- Any other packet leaves the registration and its refresh alone. -/
theorem imsHandleRxIp_other {packet : Bytes} (h : packetResponse packet ≠ some .ok) :
    ∃ cseq last auth authValid sent sentMs, (imsHandleRxIp env svc packet).1 =
      { svc with
        nextSipCseq := cseq, lastMtRpdu := last, registerAuth := auth
        registerAuthValid := authValid, registerSent := sent, registerSentMs := sentMs } := by
  unfold imsHandleRxIp
  split
  · exact ⟨_, _, _, _, _, _, rfl⟩
  · rename_i payload hpayload
    rw [packetResponse_eq hpayload] at h
    obtain ⟨⟨cseq, last, hsvc⟩, -⟩ := imsHandleSipMessage_quiet env svc payload
    dsimp only
    split
    · rename_i hok
      exact absurd hok h
    · obtain ⟨⟨cseq', auth, authValid, sent, sentMs, hsvc'⟩, -⟩ :=
        imsRegisterChallenged_calls env (imsHandleSipMessage env svc payload).1 payload
      refine ⟨cseq', last, auth, authValid, sent, sentMs, ?_⟩
      rw [hsvc', hsvc]
    · exact ⟨cseq, last, _, _, _, _, hsvc⟩

theorem txReadyLocked_iff {svc : ImsService} :
    txReadyLocked svc = true ↔
      svc.pduActive = true ∧ svc.hasPcscf = true ∧ svc.txCb = true := by
  simp [txReadyLocked, and_assoc]

/-- A packet is answered like an incoming SMS or, while the session is up, with a REGISTER. -/
theorem imsHandleRxIp_sends (packet : Bytes) :
    Sends (fun kind => SmsAnswer kind ∨ kind = .register ∧ txReadyLocked svc = true)
      (imsHandleRxIp env svc packet).2 := by
  unfold imsHandleRxIp
  split
  · exact (Calls.nil _).sends
  · rename_i payload _
    obtain ⟨⟨cseq, last, hsvc⟩, hanswers⟩ := imsHandleSipMessage_quiet env svc payload
    have hquiet := hanswers.mono fun kind hkind =>
      show SmsAnswer kind ∨ kind = .register ∧ txReadyLocked svc = true from .inl hkind
    dsimp only
    split
    · exact hquiet
    · obtain ⟨-, hcalls⟩ :=
        imsRegisterChallenged_calls env (imsHandleSipMessage env svc payload).1 payload
      refine hquiet.append (hcalls.sends.mono fun kind hkind => .inr ⟨hkind.1, ?_⟩)
      have hready := hkind.2
      rwa [hsvc] at hready
    · exact hquiet

theorem imsHandleRxIp_registers (packet : Bytes) (hdown : txReadyLocked svc = false) :
    registersSent (imsHandleRxIp env svc packet).2 = 0 := by
  refine (imsHandleRxIp_sends env svc packet).registersSent ?_
  simp [SmsAnswer, hdown]

/-! ## Under the lock -/

theorem rearmRegister_eq (now : Nat) :
    ∃ sent authValid, rearmRegister svc now =
      { svc with registerSent := sent, registerAuthValid := authValid } := by
  unfold rearmRegister
  split
  · exact ⟨_, _, rfl⟩
  · exact ⟨svc.registerSent, svc.registerAuthValid, rfl⟩

/-- The critical section takes the heads of the queues and clears a refresh that is due. -/
theorem takeWork_eq (now : Nat) :
    ∃ sent sentMs authValid attempts, takeWork (rearmRegister svc now) now =
      { svc with
        registerSent := sent, registerSentMs := sentMs, registerAuthValid := authValid
        registerAttempts := attempts
        registerRefreshMs := if registerRefreshNeededLocked svc now then 0 else svc.registerRefreshMs
        smsQueue := svc.smsQueue.tail, ipQueue := svc.ipQueue.tail } := by
  obtain ⟨sent, authValid, hsvc⟩ := rearmRegister_eq svc now
  rw [hsvc]
  simp only [takeWork]
  split
  · exact ⟨_, _, _, _, rfl⟩
  · exact ⟨_, _, _, _, rfl⟩

theorem imsServiceSetPduActive_up (ipv4 : Ipv4) (hasPcscf : Bool) (pcscfIpv4 : Ipv4) :
    ∃ sent sentMs attempts pcscfIpv4', imsServiceSetPduActive svc true ipv4 hasPcscf pcscfIpv4 =
      { svc with
        registerSent := sent, registerSentMs := sentMs, registerAttempts := attempts
        pduActive := true, ipv4, hasPcscf, pcscfIpv4 := pcscfIpv4' } := by
  simp only [imsServiceSetPduActive, Bool.true_and, if_true]
  split
  · exact ⟨_, _, _, _, rfl⟩
  · exact ⟨_, _, _, _, rfl⟩

theorem imsServiceSetPduActive_down (ipv4 : Ipv4) (hasPcscf : Bool) (pcscfIpv4 : Ipv4) :
    imsServiceSetPduActive svc false ipv4 hasPcscf pcscfIpv4 =
      { svc with
        registerSent := false, registerSentMs := 0, registerAttempts := 0, registered := false
        registerAuthValid := false, registerRefreshMs := 0, registerAuth := {}, smsQueue := []
        ipQueue := [], pduActive := false, hasPcscf := false } := by
  simp [imsServiceSetPduActive]

theorem imsServiceSubmitSms_eq {svc svc' : ImsService} {pdu : Bytes} {reference : UInt32}
    (h : imsServiceSubmitSms svc pdu = some (reference, svc')) :
    ∃ next queue, svc' = { svc with nextSmsReference := next, smsQueue := queue } := by
  unfold imsServiceSubmitSms at h
  split at h
  · cases h
  split at h
  · cases h
  · cases h
    exact ⟨_, _, rfl⟩

theorem imsServiceReceiveIp_eq {svc svc' : ImsService} {item : ImsIpItem}
    (h : imsServiceReceiveIp svc item = some svc') :
    svc' = { svc with ipQueue := svc.ipQueue ++ [item] } := by
  unfold imsServiceReceiveIp at h
  split at h
  · cases h
  split at h
  · cases h
  · cases h
    rfl

/-! ## Steps of the machine -/

/-- The worker's next step is its critical section or one action of its plan. -/
theorem workerStep_cases {P : ImsMachine → Prop} {m : ImsMachine} {env : ImsEnv}
    (hsection : m.plan = none → P (workerSection m env.now))
    (hregister : ∀ p ∈ m.plan, p.doRegister = true → P (workerRegister m p env))
    (hrefresh : ∀ p ∈ m.plan, p.doRefresh = true → P (workerRefresh m p env))
    (hrx : ∀ p ∈ m.plan, p.doRegister = false ∧ p.doRefresh = false →
      ∀ item ∈ p.ip, P (workerRx m p item env))
    (hsms : ∀ p ∈ m.plan, ∀ sms ∈ p.sms, P (workerSms m p sms env))
    (hdone : ∀ p ∈ m.plan, p.sms = none → P { m with plan := none }) : P (workerStep m env) := by
  unfold workerStep
  split
  · rename_i hidle
    exact hsection hidle
  · rename_i p hp
    split
    · rename_i hdo
      exact hregister p hp hdo
    split
    · rename_i hdo
      exact hrefresh p hp hdo
    · rename_i hnoRegister hnoRefresh
      split
      · rename_i item hitem
        exact hrx p hp ⟨by simpa using hnoRegister, by simpa using hnoRefresh⟩ item hitem
      · split
        · rename_i sms hsome
          exact hsms p hp sms hsome
        · rename_i hnone
          exact hdone p hp hnone

theorem imsStep_submitSms (m : ImsMachine) (pdu : Bytes) :
    ∃ next queue, imsStep m (.submitSms pdu) =
      { m with svc := { m.svc with nextSmsReference := next, smsQueue := queue } } := by
  simp only [imsStep]
  split
  · exact ⟨m.svc.nextSmsReference, m.svc.smsQueue, rfl⟩
  · rename_i svc hsubmit
    obtain ⟨next, queue, rfl⟩ := imsServiceSubmitSms_eq hsubmit
    exact ⟨next, queue, rfl⟩

theorem machineReceiveIp_eq (m : ImsMachine) (psi : Int) (packet : Bytes) :
    machineReceiveIp m psi packet = m ∨
      ∃ outstanding ≤ m.outstanding, machineReceiveIp m psi packet =
        { m with
          svc := { m.svc with ipQueue := m.svc.ipQueue ++ [⟨psi, packet, m.receipt⟩] }
          outstanding } := by
  unfold machineReceiveIp
  split
  · exact .inl rfl
  · rename_i svc hreceive
    rw [imsServiceReceiveIp_eq hreceive]
    exact .inr ⟨_, Nat.sub_le _ _, rfl⟩

end VirtualLte.Ims
