import VirtualLte.Ims.WorkerSteps

/-!
# Acknowledged SMS

The network forgets an SMS that was acknowledged to it.

* `Acknowledged` is the contract of the relay layer over a whole log: an RP-ACK goes out,
  and an SMS is taken for a duplicate, only after the host has accepted that RPDU.
* The service remembers an RPDU before it offers it and acknowledges it whatever the host
  says; `HandsOver` are the steps on which the host accepts.
* `imsRun_acknowledged`: along such steps the log keeps the contract.
-/

namespace VirtualLte.Ims

open Transition Engine

/-! ## The contract -/

/-- The host accepted the RPDU. -/
def accepted (events : List ImsEvent) (rpdu : Bytes) : Bool :=
  events.any fun
    | .offered r _ .accepted => r = rpdu
    | _ => false

/-- What may happen after `seen`. -/
def HandedOver (seen : List ImsEvent) : ImsEvent → Prop
  | .tx (.rpAck rpdu) _ _ => accepted seen rpdu = true
  | .suppressed rpdu => accepted seen rpdu = true
  | .tx .register _ _ | .tx .messageOk _ _ | .tx (.sms _) _ _ | .offered _ _ _ => True

instance (seen : List ImsEvent) : ∀ ev, Decidable (HandedOver seen ev)
  | .tx (.rpAck _) _ _ => inferInstanceAs (Decidable (_ = _))
  | .suppressed _ => inferInstanceAs (Decidable (_ = _))
  | .tx .register _ _ | .tx .messageOk _ _ | .tx (.sms _) _ _ | .offered _ _ _ => isTrue trivial

/-- The log one event later. -/
def logged (seen : List ImsEvent) (ev : ImsEvent) : List ImsEvent := seen ++ [ev]

/-- Every event of the log was allowed by those before it. -/
def Acknowledged (log : List ImsEvent) : Prop := Along logged HandedOver [] log

instance (log : List ImsEvent) : Decidable (Acknowledged log) :=
  inferInstanceAs (Decidable (Along logged HandedOver [] log))

theorem run_logged (seen events : List ImsEvent) : run logged seen events = seen ++ events := by
  induction events generalizing seen with
  | nil => exact (List.append_nil seen).symm
  | cons ev events ih =>
    rw [run_cons, ih]
    exact List.append_assoc seen [ev] events

theorem Acknowledged.append {log events : List ImsEvent} (h : Acknowledged log)
    (hevents : Along logged HandedOver log events) : Acknowledged (log ++ events) := by
  refine (along_append logged HandedOver [] log events).mpr ⟨h, ?_⟩
  rw [run_logged]
  exact hevents

theorem accepted_append {seen : List ImsEvent} {rpdu : Bytes} (h : accepted seen rpdu = true)
    (more : List ImsEvent) : accepted (seen ++ more) rpdu = true := by
  unfold accepted at *
  rw [List.any_append, h]
  rfl

/-- Transmissions are allowed if the RPDUs they acknowledge were accepted before. -/
theorem Calls.handedOver {p : ImsTxKind → Prop} {events seen : List ImsEvent} (h : Calls p events)
    (hp : ∀ rpdu, p (.rpAck rpdu) → accepted seen rpdu = true) :
    Along logged HandedOver seen events := by
  induction events generalizing seen with
  | nil => trivial
  | cons ev events ih =>
    obtain ⟨hev, hrest⟩ := List.forall_mem_cons.mp h
    refine ⟨?_, ih hrest fun rpdu hrpdu => accepted_append (hp rpdu hrpdu) [ev]⟩
    obtain ⟨kind, packet, rc, hkind, rfl⟩ := hev
    cases kind with
    | rpAck rpdu => exact hp rpdu hkind
    | register | messageOk | sms => trivial

/-! ## The steps that keep it -/

/-- The packet the worker handles next. -/
def nextRx (m : ImsMachine) : Option ImsIpItem :=
  match m.plan with
  | none => none
  | some p => if p.doRegister || p.doRefresh then none else p.ip

/-- The RPDU of an SMS in a packet. -/
def mtRpdu (packet : Bytes) : Option Bytes := do
  let payload ← sipPayload packet
  let (_, rpdu) ← sipSmsMessage payload
  let _ ← imsRpDataToMbimPdu rpdu (imsSmsPduMax + 16)
  return rpdu

/-- A new SMS is accepted by the host. -/
def HandsOver (m : ImsMachine) : ImsStep → Prop
  | .worker env => ∀ item ∈ nextRx m, ∀ rpdu ∈ mtRpdu item.packet,
      isDuplicateRpdu m.svc rpdu = false → smsHandover env m.svc = .accepted
  | _ => True

instance (m : ImsMachine) : ∀ e, Decidable (HandsOver m e)
  | .worker env => inferInstanceAs (Decidable (∀ item ∈ nextRx m, ∀ rpdu ∈ mtRpdu item.packet,
      isDuplicateRpdu m.svc rpdu = false → smsHandover env m.svc = .accepted))
  | .setPduActive .. | .setTxCallback _ | .setSmsDownlinkCallback _ | .submitSms _ | .receiveIp ..
  | .stop => isTrue trivial

/-- The RPDU that is remembered was accepted. -/
def Remembered (seen : List ImsEvent) (svc : ImsService) : Prop :=
  svc.lastMtRpdu ≠ [] → accepted seen svc.lastMtRpdu = true

theorem Remembered.append {seen : List ImsEvent} {svc : ImsService} (h : Remembered seen svc)
    (more : List ImsEvent) : Remembered (seen ++ more) svc :=
  fun hne => accepted_append (h hne) more

theorem imsRpDataToMbimPdu_ne_nil {rpdu : Bytes} {cap : Nat} {r : Bytes × UInt8}
    (h : imsRpDataToMbimPdu rpdu cap = some r) : rpdu ≠ [] := by
  rintro rfl
  cases h

/-- One new or repeated SMS. -/
theorem imsDeliverRpdu_acknowledged {env : ImsEnv} {svc : ImsService} {rpdu : Bytes}
    (seen : List ImsEvent) (hdr pdu : Bytes) (rpMr : UInt8) (hne : rpdu ≠ [])
    (hseen : Remembered seen svc)
    (haccepts : isDuplicateRpdu svc rpdu = false → smsHandover env svc = .accepted) :
    Along logged HandedOver seen (imsDeliverRpdu env svc hdr rpdu pdu rpMr).2 ∧
      Remembered (seen ++ (imsDeliverRpdu env svc hdr rpdu pdu rpMr).2)
        (imsDeliverRpdu env svc hdr rpdu pdu rpMr).1 := by
  unfold imsDeliverRpdu
  by_cases hdup : isDuplicateRpdu svc rpdu = true
  · rw [if_pos hdup]
    have hlast : rpdu = svc.lastMtRpdu := by
      simpa using (Bool.and_eq_true_iff.mp hdup).2
    have haccepted : accepted seen rpdu = true := by
      rw [hlast] at hne ⊢
      exact hseen hne
    obtain ⟨⟨cseq, hsvc⟩, hcalls⟩ := imsSendRpAck_calls env svc hdr rpdu rpMr
    dsimp only
    refine ⟨⟨haccepted, hcalls.handedOver ?_⟩, ?_⟩
    · rintro r hr
      cases hr
      exact accepted_append haccepted _
    · rw [hsvc]
      exact hseen.append _
  · have hnew : isDuplicateRpdu svc rpdu = false := by simpa using hdup
    rw [if_neg hdup]
    -- the RPDU is remembered, if it is short enough, and offered
    generalize hsvc₁ : (if rpdu.length ≤ 256 then { svc with lastMtRpdu := rpdu } else svc) = svc₁
    have hover : smsHandover env svc₁ = .accepted := by
      rw [← haccepts hnew, ← hsvc₁]
      split <;> rfl
    have haccepted : accepted (seen ++ [.offered rpdu pdu .accepted]) rpdu = true := by
      simp [accepted]
    have hremembered : Remembered (seen ++ [.offered rpdu pdu .accepted]) svc₁ := by
      rw [← hsvc₁]
      split
      · exact fun _ => haccepted
      · exact hseen.append _
    obtain ⟨⟨cseq, hsvc⟩, hcalls⟩ := imsSendRpAck_calls env svc₁ hdr rpdu rpMr
    dsimp only
    rw [hover]
    refine ⟨⟨trivial, hcalls.handedOver ?_⟩, ?_⟩
    · rintro r hr
      cases hr
      exact haccepted
    · rw [hsvc, List.append_cons]
      exact hremembered.append _

theorem imsHandleSipMessage_acknowledged {env : ImsEnv} {svc : ImsService} (payload : Bytes)
    (seen : List ImsEvent) (hseen : Remembered seen svc)
    (haccepts : ∀ hdr rpdu r, sipSmsMessage payload = some (hdr, rpdu) →
      imsRpDataToMbimPdu rpdu (imsSmsPduMax + 16) = some r → isDuplicateRpdu svc rpdu = false →
      smsHandover env svc = .accepted) :
    Along logged HandedOver seen (imsHandleSipMessage env svc payload).2 ∧
      Remembered (seen ++ (imsHandleSipMessage env svc payload).2)
        (imsHandleSipMessage env svc payload).1 := by
  unfold imsHandleSipMessage
  split
  · exact ⟨trivial, hseen.append _⟩
  · rename_i hdr rpdu hmessage
    have hok : Along logged HandedOver seen (imsSendSipMessageOk env svc hdr) :=
      (imsSendSipMessageOk_calls env svc hdr).handedOver nofun
    dsimp only
    split
    · exact ⟨hok, hseen.append _⟩
    · rename_i pdu rpMr hrpdu
      obtain ⟨halong, hremembered⟩ := imsDeliverRpdu_acknowledged
        (seen ++ imsSendSipMessageOk env svc hdr) hdr pdu rpMr (imsRpDataToMbimPdu_ne_nil hrpdu)
        (hseen.append _) (haccepts hdr rpdu _ hmessage hrpdu)
      refine ⟨?_, ?_⟩
      · rw [along_append, run_logged]
        exact ⟨hok, halong⟩
      · rw [← List.append_assoc]
        exact hremembered

theorem imsHandleRxIp_acknowledged {env : ImsEnv} {svc : ImsService} {packet : Bytes}
    (seen : List ImsEvent) (hseen : Remembered seen svc)
    (haccepts : ∀ rpdu ∈ mtRpdu packet, isDuplicateRpdu svc rpdu = false →
      smsHandover env svc = .accepted) :
    Along logged HandedOver seen (imsHandleRxIp env svc packet).2 ∧
      Remembered (seen ++ (imsHandleRxIp env svc packet).2) (imsHandleRxIp env svc packet).1 := by
  unfold imsHandleRxIp
  split
  · exact ⟨trivial, hseen.append _⟩
  · rename_i payload hpayload
    obtain ⟨halong, hremembered⟩ := imsHandleSipMessage_acknowledged payload seen hseen
      fun hdr rpdu r hmessage hrpdu => haccepts rpdu (by simp [mtRpdu, hpayload, hmessage, hrpdu])
    dsimp only
    split
    · exact ⟨halong, hremembered⟩
    · obtain ⟨⟨cseq, auth, authValid, sent, sentMs, hsvc⟩, hcalls⟩ :=
        imsRegisterChallenged_calls env (imsHandleSipMessage env svc payload).1 payload
      refine ⟨?_, ?_⟩
      · rw [along_append]
        exact ⟨halong, hcalls.handedOver nofun⟩
      · rw [hsvc, ← List.append_assoc]
        exact hremembered.append _
    · exact ⟨halong, hremembered⟩

/-! ## Whole runs -/

/-- The log keeps the contract, and so does what the service remembers of it. -/
def Delivered (m : ImsMachine) : Prop := Acknowledged m.log ∧ Remembered m.log m.svc

/-- Events are noted and what is remembered stays. -/
theorem Delivered.note {m m' : ImsMachine} {events : List ImsEvent} (h : Delivered m)
    (hlog : m'.log = m.log ++ events) (hevents : Along logged HandedOver m.log events)
    (hsvc : m'.svc.lastMtRpdu = m.svc.lastMtRpdu) : Delivered m' := by
  refine ⟨hlog ▸ h.1.append hevents, ?_⟩
  unfold Remembered
  rw [hlog, hsvc]
  exact h.2.append events

theorem Delivered.quiet {m m' : ImsMachine} (h : Delivered m) (hlog : m'.log = m.log)
    (hsvc : m'.svc.lastMtRpdu = m.svc.lastMtRpdu) : Delivered m' :=
  h.note (hlog.trans (List.append_nil _).symm) trivial hsvc

theorem Delivered.worker {m : ImsMachine} (h : Delivered m) {env : ImsEnv}
    (hover : HandsOver m (.worker env)) : Delivered (workerStep m env) := by
  apply workerStep_cases
  case hsection =>
    intro _
    unfold workerSection
    split
    · exact h
    · obtain ⟨_, _, _, _, hsvc⟩ := takeWork_eq m.svc env.now
      dsimp only
      rw [hsvc]
      exact h.quiet rfl rfl
  case hregister =>
    intro p _ _
    exact h.note rfl ((imsSendInitialRegister_calls env _ _ _ _).handedOver nofun) rfl
  case hrefresh =>
    intro p _ _
    unfold workerRefresh
    dsimp only
    split
    · obtain ⟨⟨cseq, hsvc⟩, hcalls⟩ := imsSendAuthorizedRegister_calls env m.svc p.refreshAuth
      exact h.note rfl (hcalls.handedOver nofun) (by rw [hsvc])
    · exact h.note rfl ((imsSendInitialRegister_calls env _ _ _ _).handedOver nofun) rfl
  case hrx =>
    intro p hp hdo item hitem
    have hnext : nextRx m = some item := by
      simp [nextRx, Option.mem_def.mp hp, hdo, Option.mem_def.mp hitem]
    obtain ⟨halong, hremembered⟩ :=
      imsHandleRxIp_acknowledged m.log h.2 fun rpdu hrpdu => hover item hnext rpdu hrpdu
    exact ⟨h.1.append halong, hremembered⟩
  case hsms =>
    intro p _ sms _
    unfold workerSms
    dsimp only
    split
    · obtain ⟨⟨cseq, hsvc⟩, hcalls⟩ :=
        imsSendSmsMessage_calls env m.svc sms p.localIp p.pcscfIp p.txCb
      exact h.note rfl (hcalls.handedOver nofun) (by rw [hsvc])
    · exact h.quiet rfl rfl
  case hdone => exact fun _ _ _ => h.quiet rfl rfl

theorem Delivered.step {m : ImsMachine} (h : Delivered m) {e : ImsStep} (hover : HandsOver m e) :
    Delivered (imsStep m e) := by
  cases e with
  | worker env => exact h.worker hover
  | setPduActive active ipv4 hasPcscf pcscfIpv4 =>
    have hlast : (imsServiceSetPduActive m.svc active ipv4 hasPcscf pcscfIpv4).lastMtRpdu =
        m.svc.lastMtRpdu := by
      cases active with
      | true =>
        obtain ⟨_, _, _, _, hsvc⟩ := imsServiceSetPduActive_up m.svc ipv4 hasPcscf pcscfIpv4
        rw [hsvc]
      | false => rw [imsServiceSetPduActive_down]
    simp only [imsStep, machineSetPduActive]
    split
    · exact h.quiet rfl hlast
    · exact h.quiet rfl hlast
  | setTxCallback set => exact h.quiet rfl rfl
  | setSmsDownlinkCallback set => exact h.quiet rfl rfl
  | submitSms pdu =>
    obtain ⟨next, queue, heq⟩ := imsStep_submitSms m pdu
    rw [heq]
    exact h.quiet rfl rfl
  | receiveIp psi packet =>
    simp only [imsStep]
    rcases machineReceiveIp_eq m psi packet with heq | ⟨outstanding, -, heq⟩
    · rw [heq]
      exact h
    · rw [heq]
      exact h.quiet rfl rfl
  | stop => exact h.quiet rfl rfl

/-- Along steps on which the host accepts, only what it accepted is acknowledged. -/
theorem imsRun_acknowledged (cfg : UeInstanceConfig) (enabled smsEnabled : Bool)
    (es : List ImsStep) (hover : Along imsStep HandsOver (imsMachineInit cfg enabled smsEnabled) es) :
    Acknowledged (run imsStep (imsMachineInit cfg enabled smsEnabled) es).log := by
  have hinit : Delivered (imsMachineInit cfg enabled smsEnabled) :=
    ⟨trivial, fun hne => absurd rfl hne⟩
  exact (run_invariant (fun _ _ h hg => h.step hg) hinit hover).1

/-- A MESSAGE of the network with an RPDU of six octets. -/
def mtMessage : Bytes :=
  fromPcscf (asciiText "MESSAGE sip:ue SIP/2.0\r\nVia: SIP/2.0/UDP gw\r\nFrom: <sip:smsc>\r\n" ++
    asciiText "To: <sip:ue>\r\nCall-ID: 1\r\nCSeq: 1 MESSAGE\r\n" ++
    asciiText "Content-Type: application/vnd.3gpp.sms\r\nContent-Length: 6\r\n\r\n" ++
    [0x01, 0x07, 0x00, 0x00, 0x01, 0x04])

/-- The session comes up, a first REGISTER finds no way out, and then the MESSAGE comes. -/
def smsArrives (smsAnswer : Int) : List ImsStep :=
  [.setSmsDownlinkCallback true, .setPduActive true sampleIp true samplePcscf,
    .worker { now := 1 }, .worker { now := 1 }, .worker { now := 1 },
    .setTxCallback true, .receiveIp 5 mtMessage, .worker { now := 2 },
    .worker { now := 2, smsAnswer }]

attribute [local irreducible] imsStep

theorem imsRun_acknowledged_sms :
    accepted (run imsStep (imsMachineInit sampleConfig true true) (smsArrives 0)).log
        [0x01, 0x07, 0x00, 0x00, 0x01, 0x04] = true ∧
      Acknowledged (run imsStep (imsMachineInit sampleConfig true true) (smsArrives 0)).log :=
  ⟨by decide +kernel, imsRun_acknowledged _ _ _ _ (by decide +kernel)⟩

/-- The host's queue is full, and the network is told that the SMS has arrived. -/
theorem smsRefused_acknowledged :
    ¬ ∀ (cfg : UeInstanceConfig) (enabled smsEnabled : Bool) (es : List ImsStep),
      Acknowledged (run imsStep (imsMachineInit cfg enabled smsEnabled) es).log := by
  simp only [not_forall]
  refine ⟨sampleConfig, true, true, smsArrives (-1), ?_⟩
  decide +kernel

end VirtualLte.Ims
