import VirtualLte.Ims.WorkerSteps
import VirtualLte.Lib.Relay

/-!
# The SMS of the host

From `ims_service_submit_sms` to the SIP MESSAGE that the worker sends.

* `messageText_length_le`: the header of a MESSAGE fits its buffer whatever the subscriber,
  the destination and the addresses, so `imsSendSmsMessage_sends` needs nothing else.
* `workerStep_sms` says what a step of the worker does to the accepted PDUs: nothing, take
  one, or be done with one.  With the calls of the other threads the queue and the worker
  are a relay for them (`imsStep_relays`), which is empty after some steps (`worker_drains`).
* `imsRun_transmits_iff`: every accepted PDU is sent, once and in order, exactly if each
  of them can be encoded and the P-CSCF is known when the worker takes it.
-/

namespace VirtualLte.Ims

open Transition Engine

variable {identity : ImsIdentity} {m : ImsMachine} {svc : ImsService}

/-! ## The size of a MESSAGE -/

theorem snprintf_length_le (size : Nat) (text : Bytes) : (snprintf size text).length ≤ size - 1 := by
  rw [snprintf, List.length_take]
  exact Nat.min_le_left _ _

theorem decimalText_length_le {n k : Nat} (hk : 0 < k) (h : n < 10 ^ k) :
    (decimalText n).length ≤ k := by
  rw [decimalText, List.length_map]
  exact (Nat.length_toDigits_le_iff (by decide) hk).mpr h

theorem decimalText_word_le (v : UInt32) : (decimalText v.toNat).length ≤ 10 :=
  decimalText_length_le (by decide) (Nat.lt_trans v.toNat_lt (by decide))

theorem dottedText_length_le (ip : Ipv4) : (dottedText ip).length ≤ 15 := by
  have hoctet : ∀ x : UInt8, (decimalText x.toNat).length ≤ 3 := fun x =>
    decimalText_length_le (by decide) (Nat.lt_trans x.toNat_lt (by decide))
  have hdot : (asciiText ".").length = 1 := by decide
  have h0 := hoctet ip[0]
  have h1 := hoctet ip[1]
  have h2 := hoctet ip[2]
  have h3 := hoctet ip[3]
  simp only [dottedText, List.length_append, hdot]
  omega

theorem smsRequestUri_length_le (identity : ImsIdentity) (pdu : Bytes) :
    (smsRequestUri identity pdu).length ≤ 199 := by
  unfold smsRequestUri
  split <;> exact snprintf_length_le _ _

/-- The parts of a MESSAGE that are the same in all of them. -/
def messageFixed : List String :=
  ["MESSAGE ", " SIP/2.0\r\n", "Via: SIP/2.0/UDP ", ":", ";branch=z9hG4bK-virtlte-", "sms", "-",
    "Max-Forwards: 70\r\nFrom: <", ">;tag=virtlte-sms\r\nTo: <", ">\r\nCall-ID: virtlte-", "sms", "-",
    "@", "\r\nCSeq: ", " MESSAGE\r\nContent-Type: application/vnd.3gpp.sms\r\nContent-Length: ",
    "\r\n\r\n"]

theorem messageText_length_le (id : ImsIdentity) (localIp : Ipv4) (requestUri kind : Bytes)
    (number cseq : UInt32) {contentLength : Nat} (hlength : contentLength < 1000) :
    (messageText id localIp requestUri kind number cseq contentLength).length ≤
      279 + 2 * kind.length + 2 * requestUri.length + id.preferredImpu.length := by
  have hip := dottedText_length_le localIp
  have hnumber := decimalText_word_le number
  have hcseq := decimalText_word_le cseq
  have hcontent : (decimalText contentLength).length ≤ 3 := decimalText_length_le (by decide) hlength
  have hport : (decimalText imsSipLocalPort).length = 4 := by decide
  have hascii : ∀ s, (asciiText s).length = s.length := fun s => by
    rw [asciiText, List.length_map, String.length_toList]
  have hfixed : (messageFixed.map String.length).sum = 216 := by decide +kernel
  have hsms : "sms".length = 3 := by decide +kernel
  simp only [messageFixed, List.map_cons, List.map_nil, List.sum_cons, List.sum_nil] at hfixed
  unfold messageText viaText
  simp only [List.length_append, hascii, hport, crlf, List.length_cons, List.length_nil]
  omega

/-! ## One MESSAGE -/

/-- The identity is one that was derived from a configuration. -/
def FromConfig (identity : ImsIdentity) : Prop := ∃ cfg, identity = imsBuildIdentity cfg

theorem FromConfig.preferredImpu_length_le (h : FromConfig identity) :
    identity.preferredImpu.length ≤ 179 := by
  obtain ⟨cfg, rfl⟩ := h
  exact snprintf_length_le _ _

/-- The SIP text of an SMS: a MESSAGE whose body is the RP-DATA of the PDU under the low
octet of the reference, and whose Content-Length is the length of that. -/
def smsMessage (identity : ImsIdentity) (localIp : Ipv4) (cseq : UInt32) (sms : ImsSmsItem) : Bytes :=
  let rpdu := rpData sms.reference.toUInt8 (pduSca sms.pdu) (pduTpdu sms.pdu)
  messageText identity localIp (smsRequestUri identity sms.pdu) (asciiText "sms") sms.reference cseq
    rpdu.length ++ rpdu

/-- The packet carries that MESSAGE to the P-CSCF. -/
def IsMessageOf (identity : ImsIdentity) (sms : ImsSmsItem) (packet : Bytes) : Prop :=
  ∃ localIp pcscfIp cseq,
    sipPacket 2048 localIp pcscfIp (smsMessage identity localIp cseq sms) = some packet

theorem sipPacket_of_le (localIp pcscfIp : Ipv4) (sip : Bytes) (h : sip.length ≤ 2020) :
    ∃ packet, sipPacket 2048 localIp pcscfIp sip = some packet := by
  unfold sipPacket imsIpBuildUdpIpv4
  dsimp only
  rw [if_neg (by omega)]
  exact ⟨_, rfl⟩

section Send

variable {svc : ImsService} {sms : ImsSmsItem} {txCb : Bool} (env : ImsEnv) (localIp pcscfIp : Ipv4)

/-- A PDU that can be encoded is sent, whatever its destination. -/
theorem imsSendSmsMessage_sends (hidentity : FromConfig svc.identity) (h : Encodable sms.pdu) :
    ∃ packet, (imsSendSmsMessage env svc sms localIp pcscfIp true).2.2 =
        [.tx (.sms sms.reference) packet (env.txAnswer (.sms sms.reference))] ∧
      IsMessageOf svc.identity sms packet := by
  have hlong := h.length_le
  have hbody := rpData_length h sms.reference.toUInt8
  have huri := smsRequestUri_length_le svc.identity sms.pdu
  have himpu := hidentity.preferredImpu_length_le
  have hsmall : (rpData sms.reference.toUInt8 (pduSca sms.pdu) (pduTpdu sms.pdu)).length < 1000 := by
    omega
  have hhead := messageText_length_le svc.identity localIp (smsRequestUri svc.identity sms.pdu)
    (asciiText "sms") sms.reference svc.nextSipCseq hsmall
  have hsms : (asciiText "sms").length = 3 := by decide
  have hgate : ¬ (true = false ∨ sms.pdu.length > imsSmsPduMax) := by
    rintro (hno | hlonger)
    · cases hno
    · change sms.pdu.length > 512 at hlonger
      omega
  obtain ⟨packet, hpacket⟩ := sipPacket_of_le localIp pcscfIp
    (smsMessage svc.identity localIp svc.nextSipCseq sms)
    (by rw [smsMessage, List.length_append]; omega)
  unfold imsSendSmsMessage
  rw [if_neg hgate, imsBuildRpData_eq, if_pos ⟨h, by change _ ≤ 528; omega⟩]
  dsimp only
  rw [if_neg (by omega)]
  change ∃ packet, (imsTransmit env (.sms sms.reference) (sipPacket 2048 localIp pcscfIp
    (smsMessage svc.identity localIp svc.nextSipCseq sms))).2 = _ ∧ _
  rw [hpacket]
  exact ⟨packet, rfl, localIp, pcscfIp, _, hpacket⟩

/-- A PDU that cannot is dropped, and so is every PDU while there is no callback. -/
theorem imsSendSmsMessage_drops (h : txCb = false ∨ ¬ Encodable sms.pdu) :
    (imsSendSmsMessage env svc sms localIp pcscfIp txCb).2.2 = [] := by
  unfold imsSendSmsMessage
  split
  · rfl
  · rename_i hgate
    rw [imsBuildRpData_eq, if_neg fun hok => h.resolve_left (fun hno => hgate (.inl hno)) hok.1]

end Send

/-! ## What is on its way -/

/-- The MESSAGEs that the transmit callback took. -/
def smsSent (log : List ImsEvent) : List Bytes :=
  log.filterMap fun
    | .tx (.sms _) packet rc => if rc = 0 then some packet else none
    | _ => none

theorem smsSent_append (a b : List ImsEvent) : smsSent (a ++ b) = smsSent a ++ smsSent b :=
  List.filterMap_append

/-- An SMS in the hands of the worker, with what the worker read under the lock. -/
structure SmsTask where
  sms : ImsSmsItem
  registered : Bool
  pduReady : Bool
  txCb : Bool

def SmsTask.Sendable (t : SmsTask) : Prop :=
  t.registered = true ∧ t.pduReady = true ∧ t.txCb = true ∧ Encodable t.sms.pdu

instance (t : SmsTask) : Decidable t.Sendable := inferInstanceAs (Decidable (_ ∧ _ ∧ _ ∧ _))

def WorkerPlan.smsTask (p : WorkerPlan) : Option SmsTask :=
  p.sms.map fun sms => ⟨sms, p.registered, p.pduReady, p.txCb⟩

def ImsMachine.smsTask (m : ImsMachine) : Option SmsTask := m.plan.bind WorkerPlan.smsTask

/-- The SMS that were accepted and that the worker is not done with, oldest first. -/
def pendingSms (m : ImsMachine) : List ImsSmsItem :=
  (m.smsTask.map (·.sms)).toList ++ m.svc.smsQueue

/-- All of them can still be sent. -/
def SmsSound (m : ImsMachine) : Prop :=
  (∀ t ∈ m.smsTask, t.Sendable) ∧ ∀ sms ∈ m.svc.smsQueue, Encodable sms.pdu

/-! ## Submission -/

/-- What `ims_service_submit_sms` looks at. -/
def Admissible (svc : ImsService) (pdu : Bytes) : Prop :=
  (pdu.length ≠ 0 ∧ svc.enabled = true ∧ svc.smsEnabled = true ∧ pdu.length ≤ imsSmsPduMax) ∧
    svc.registered = true ∧ svc.smsQueue.length < imsSmsQueueRoom

instance (svc : ImsService) (pdu : Bytes) : Decidable (Admissible svc pdu) :=
  inferInstanceAs (Decidable (_ ∧ _))

theorem imsServiceSubmitSms_admissible {pdu : Bytes} (h : Admissible svc pdu) :
    imsServiceSubmitSms svc pdu = some (svc.nextSmsReference,
      { svc with
        nextSmsReference := svc.nextSmsReference + 1
        smsQueue := svc.smsQueue ++ [⟨svc.nextSmsReference, pdu⟩] }) := by
  obtain ⟨⟨hne, henabled, hsms, hlong⟩, hregistered, hroom⟩ := h
  unfold imsServiceSubmitSms
  rw [if_neg (by simp [hne, henabled, hsms, hlong]), if_neg (by simp [hregistered, hroom])]

theorem imsServiceSubmitSms_refused {pdu : Bytes} (h : ¬ Admissible svc pdu) :
    imsServiceSubmitSms svc pdu = none := by
  unfold imsServiceSubmitSms
  split
  · rfl
  · rename_i hsize
    split
    · rfl
    · rename_i hstate
      simp only [not_or, Nat.not_lt, Bool.not_eq_false, ge_iff_le, Nat.not_le] at hsize hstate
      exact absurd ⟨hsize, hstate⟩ h

/-- The SMS that a step accepts, under the reference that it returns. -/
def acceptedSms (m : ImsMachine) : ImsStep → List ImsSmsItem
  | .submitSms pdu => ((imsServiceSubmitSms m.svc pdu).map fun r => ⟨r.1, pdu⟩).toList
  | _ => []

/-! ## One step -/

/-- What an action that has nothing to do with outgoing SMS leaves alone. -/
structure SmsFrame (svc svc' : ImsService) : Prop where
  identity : svc'.identity = svc.identity
  smsQueue : svc'.smsQueue = svc.smsQueue
  running : svc'.running = svc.running
  pduActive : svc'.pduActive = svc.pduActive
  txCb : svc'.txCb = svc.txCb
  registered : svc.registered = true → svc'.registered = true

theorem SmsFrame.refl (svc : ImsService) : SmsFrame svc svc := ⟨rfl, rfl, rfl, rfl, rfl, id⟩

/-- A packet does not end the registration. -/
theorem imsHandleRxIp_smsFrame (env : ImsEnv) (svc : ImsService) (packet : Bytes) :
    SmsFrame svc (imsHandleRxIp env svc packet).1 := by
  by_cases hok : packetResponse packet = some .ok
  · obtain ⟨payload, cseq, last, -, hsvc⟩ := imsHandleRxIp_ok env svc hok
    rw [hsvc]
    exact ⟨rfl, rfl, rfl, rfl, rfl, fun _ => rfl⟩
  · obtain ⟨cseq, last, auth, authValid, sent, sentMs, hsvc⟩ := imsHandleRxIp_other env svc hok
    rw [hsvc]
    exact ⟨rfl, rfl, rfl, rfl, rfl, id⟩

theorem takeWork_smsFrame (svc : ImsService) (now : Nat) :
    SmsFrame { svc with smsQueue := svc.smsQueue.tail } (takeWork (rearmRegister svc now) now) := by
  obtain ⟨sent, sentMs, authValid, attempts, hsvc⟩ := takeWork_eq svc now
  rw [hsvc]
  exact ⟨rfl, rfl, rfl, rfl, rfl, id⟩

theorem makePlan_smsTask (svc : ImsService) (now activation : Nat) :
    (makePlan (rearmRegister svc now) now activation).smsTask =
      svc.smsQueue.head?.map fun sms =>
        ⟨sms, svc.registered, svc.pduActive && svc.hasPcscf,
          (registerNeededLocked (rearmRegister svc now) || svc.pduActive && svc.hasPcscf) &&
            svc.txCb⟩ := by
  obtain ⟨sent, authValid, hsvc⟩ := rearmRegister_eq svc now
  rw [hsvc]
  rfl

theorem Sends.smsSent {p : ImsTxKind → Prop} {events : List ImsEvent} (h : Sends p events)
    (hp : ∀ reference, ¬ p (.sms reference)) : smsSent events = [] := by
  unfold Ims.smsSent
  rw [List.filterMap_eq_nil_iff]
  intro ev hev
  split
  · exact absurd (h _ _ _ hev) (hp _)
  · rfl

/-- A step that has nothing to do with outgoing SMS. -/
structure Untouched (m m' : ImsMachine) : Prop where
  frame : SmsFrame m.svc m'.svc
  task : m'.smsTask = m.smsTask
  sent : smsSent m'.log = smsSent m.log

/-- An action of the worker that sends no SMS. -/
theorem Untouched.act {m' : ImsMachine} {p p' : WorkerPlan} {events : List ImsEvent}
    {q : ImsTxKind → Prop} (hp : m.plan = some p) (hplan : m'.plan = some p')
    (htask : p'.smsTask = p.smsTask) (hframe : SmsFrame m.svc m'.svc)
    (hlog : m'.log = m.log ++ events) (hevents : Sends q events)
    (hq : ∀ reference, ¬ q (.sms reference)) : Untouched m m' where
  frame := hframe
  task := by rw [ImsMachine.smsTask, ImsMachine.smsTask, hp, hplan, Option.bind_some,
    Option.bind_some, htask]
  sent := by rw [hlog, smsSent_append, hevents.smsSent hq, List.append_nil]

/-- The worker takes an SMS out of the queue. -/
structure Takes (m : ImsMachine) (sms : ImsSmsItem) (rest : List ImsSmsItem) (m' : ImsMachine) :
    Prop where
  frame : SmsFrame { m.svc with smsQueue := rest } m'.svc
  task : ∃ reads, m'.smsTask = some ⟨sms, m.svc.registered, m.svc.pduActive && m.svc.hasPcscf,
    (reads || m.svc.pduActive && m.svc.hasPcscf) && m.svc.txCb⟩
  log : m'.log = m.log

/-- Under the lock the worker takes the first SMS of the queue, if there is one. -/
theorem workerSection_sms (hidle : m.plan = none) (now : Nat) :
    (Untouched m (workerSection m now) ∧ (m.svc.running = true → m.svc.smsQueue = [])) ∨
      ∃ sms rest, m.svc.smsQueue = sms :: rest ∧ Takes m sms rest (workerSection m now) := by
  unfold workerSection
  split
  · rename_i hwaits
    refine .inl ⟨⟨.refl m.svc, rfl, rfl⟩, fun hrunning => ?_⟩
    rcases hwaits with hstopped | hnothing
    · exact absurd (hstopped.symm.trans hrunning) Bool.false_ne_true
    · simp only [nothingToDo, Bool.and_eq_true, List.isEmpty_iff] at hnothing
      exact hnothing.1.1.1.1
  · have hframe := takeWork_smsFrame m.svc now
    have htask := makePlan_smsTask m.svc now m.activation
    cases hqueue : m.svc.smsQueue with
    | nil =>
      rw [hqueue] at hframe htask
      refine .inl ⟨⟨⟨hframe.1, hframe.2.trans hqueue.symm, hframe.3, hframe.4, hframe.5, hframe.6⟩,
        ?_, rfl⟩, fun _ => rfl⟩
      rw [ImsMachine.smsTask, ImsMachine.smsTask, hidle]
      exact htask
    | cons sms rest =>
      rw [hqueue] at hframe htask
      exact .inr ⟨sms, rest, rfl, hframe, ⟨_, htask⟩, rfl⟩

/-- A step of the worker leaves the outgoing SMS alone, takes one or is done with one. -/
theorem workerStep_sms {P : ImsMachine → Prop} {env : ImsEnv} (hquiet : ∀ m', Untouched m m' →
      (m.plan = none → m.svc.running = true → m.svc.smsQueue = []) → P m')
    (htake : m.plan = none → ∀ sms rest, m.svc.smsQueue = sms :: rest →
      ∀ m', Takes m sms rest m' → P m')
    (hsms : ∀ p ∈ m.plan, ∀ sms ∈ p.sms, P (workerSms m p sms env)) : P (workerStep m env) := by
  have hbusy : ∀ p ∈ m.plan, m.plan = none → m.svc.running = true → m.svc.smsQueue = [] :=
    fun p hp hidle => absurd (hidle.symm.trans hp) nofun
  have hregisters : ∀ reference, ¬ ImsTxKind.sms reference = .register := nofun
  apply workerStep_cases
  case hsection =>
    intro hidle
    rcases workerSection_sms hidle env.now with ⟨hm', hempty⟩ | ⟨sms, rest, hqueue, hm'⟩
    · exact hquiet _ hm' fun _ => hempty
    · exact htake hidle sms rest hqueue _ hm'
  case hregister =>
    intro p hp _
    exact hquiet _ (.act hp rfl rfl (.refl m.svc) rfl (imsSendInitialRegister_calls env _ _ _ _).sends
      hregisters) (hbusy p hp)
  case hrefresh =>
    intro p hp _
    unfold workerRefresh
    dsimp only
    split
    · obtain ⟨⟨cseq, hsvc⟩, hcalls⟩ := imsSendAuthorizedRegister_calls env m.svc p.refreshAuth
      refine hquiet _ (.act hp rfl rfl ?_ rfl hcalls.sends fun reference hkind =>
        hregisters reference hkind.1) (hbusy p hp)
      rw [hsvc]
      exact ⟨rfl, rfl, rfl, rfl, rfl, id⟩
    · exact hquiet _ (.act hp rfl rfl (.refl m.svc) rfl
        (imsSendInitialRegister_calls env _ _ _ _).sends hregisters) (hbusy p hp)
  case hrx =>
    intro p hp _ item _
    refine hquiet _ (.act hp rfl rfl (imsHandleRxIp_smsFrame env m.svc item.packet) rfl
      (imsHandleRxIp_sends env m.svc item.packet) fun reference hkind => ?_) (hbusy p hp)
    simp [SmsAnswer] at hkind
  case hsms => exact hsms
  case hdone =>
    intro p hp hnone
    refine hquiet _ ⟨.refl m.svc, ?_, rfl⟩ (hbusy p hp)
    rw [ImsMachine.smsTask, ImsMachine.smsTask, hp, Option.bind_some, WorkerPlan.smsTask, hnone]
    rfl

theorem workerSms_smsFrame (m : ImsMachine) (p : WorkerPlan) (sms : ImsSmsItem) (env : ImsEnv) :
    SmsFrame m.svc (workerSms m p sms env).svc ∧
      (workerSms m p sms env).plan = some { p with sms := none } := by
  unfold workerSms
  dsimp only
  split
  · obtain ⟨⟨cseq, hsvc⟩, -⟩ := imsSendSmsMessage_calls env m.svc sms p.localIp p.pcscfIp p.txCb
    rw [hsvc]
    exact ⟨⟨rfl, rfl, rfl, rfl, rfl, id⟩, rfl⟩
  · exact ⟨.refl m.svc, rfl⟩

/-- What becomes of an SMS in the hands of the worker. -/
theorem workerSms_outcome {env : ImsEnv} (p : WorkerPlan) (sms : ImsSmsItem)
    (hidentity : FromConfig m.svc.identity) (htx : ∀ reference, env.txAnswer (.sms reference) = 0) :
    ∃ out, smsSent (workerSms m p sms env).log = smsSent m.log ++ Option.toList out ∧
      (out.isSome = true ↔ SmsTask.Sendable ⟨sms, p.registered, p.pduReady, p.txCb⟩) ∧
      ∀ packet ∈ out, IsMessageOf m.svc.identity sms packet := by
  by_cases h : SmsTask.Sendable ⟨sms, p.registered, p.pduReady, p.txCb⟩
  · have hparts : p.registered = true ∧ p.pduReady = true ∧ p.txCb = true ∧ Encodable sms.pdu := h
    obtain ⟨hregistered, hready, htxCb, hpdu⟩ := hparts
    obtain ⟨packet, hevents, hpacket⟩ :=
      imsSendSmsMessage_sends env p.localIp p.pcscfIp hidentity hpdu
    refine ⟨some packet, ?_, ⟨fun _ => h, fun _ => rfl⟩, ?_⟩
    · rw [workerSms, if_pos ⟨hregistered, hready⟩, htxCb]
      change smsSent (m.log ++ _) = _
      rw [hevents, smsSent_append, htx]
      rfl
    · rintro _ ⟨⟩
      exact hpacket
  · refine ⟨none, ?_, by simp [h], nofun⟩
    unfold workerSms
    dsimp only
    split
    · rename_i hup
      change smsSent (m.log ++ _) = _
      rw [imsSendSmsMessage_drops, List.append_nil, Option.toList_none, List.append_nil]
      cases htxCb : p.txCb with
      | false => exact .inl rfl
      | true => exact .inr fun hpdu => h ⟨hup.1, hup.2, htxCb, hpdu⟩
    · exact (List.append_nil _).symm

/-! ## The relay -/

/-- What `ims_service_submit_sms` would have to look at besides: the PDU can be encoded.
And the P-CSCF is known when the worker takes an SMS. -/
def Transmittable (m : ImsMachine) : ImsStep → Prop
  | .submitSms pdu => Admissible m.svc pdu → Encodable pdu
  | .worker _ => m.plan = none → m.svc.smsQueue ≠ [] → m.svc.hasPcscf = true
  | _ => True

instance (m : ImsMachine) : ∀ e, Decidable (Transmittable m e)
  | .submitSms _ | .worker _ => inferInstanceAs (Decidable (_ → _))
  | .setPduActive .. | .setTxCallback _ | .setSmsDownlinkCallback _ | .receiveIp .. | .stop =>
    inferInstanceAs (Decidable True)

/-- A step that leaves the session, the callback and the worker in place, and at which the
callback takes the MESSAGEs. -/
def StaysUp : ImsStep → Prop
  | .worker env => ∀ reference, env.txAnswer (.sms reference) = 0
  | .setPduActive active _ _ _ => active = true
  | .setTxCallback set => set = true
  | .stop => False
  | _ => True

/-- Only a registered service has SMS in its queue. -/
structure SmsInv (identity : ImsIdentity) (svc : ImsService) : Prop where
  identity_eq : svc.identity = identity
  registered : svc.smsQueue ≠ [] → svc.registered = true

/-- SMS can be sent. -/
structure Up (svc : ImsService) : Prop where
  running : svc.running = true
  pduActive : svc.pduActive = true
  txCb : svc.txCb = true

theorem SmsInv.frame {svc' : ImsService} (h : SmsInv identity svc) (hframe : SmsFrame svc svc') :
    SmsInv identity svc' where
  identity_eq := hframe.identity.trans h.identity_eq
  registered hne := hframe.registered (h.registered (hframe.smsQueue ▸ hne))

theorem SmsInv.tail (h : SmsInv identity svc) {sms : ImsSmsItem} {rest : List ImsSmsItem}
    (hqueue : svc.smsQueue = sms :: rest) :
    SmsInv identity { svc with smsQueue := rest } where
  identity_eq := h.identity_eq
  registered _ := h.registered (hqueue ▸ List.cons_ne_nil sms rest)

theorem Up.frame {svc' : ImsService} (h : Up svc) (hframe : SmsFrame svc svc') : Up svc' where
  running := hframe.running.trans h.running
  pduActive := hframe.pduActive.trans h.pduActive
  txCb := hframe.txCb.trans h.txCb

theorem SmsInv.step (h : SmsInv identity m.svc) (e : ImsStep) :
    SmsInv identity (imsStep m e).svc := by
  cases e with
  | worker env =>
    apply workerStep_sms (P := fun m' => SmsInv identity m'.svc)
    case hquiet => exact fun _ hm' _ => h.frame hm'.frame
    case htake => exact fun _ sms rest hqueue _ hm' => (h.tail hqueue).frame hm'.frame
    case hsms => exact fun p _ sms _ => h.frame (workerSms_smsFrame m p sms env).1
  | setPduActive active ipv4 hasPcscf pcscfIpv4 =>
    have hsvc : SmsInv identity (imsServiceSetPduActive m.svc active ipv4 hasPcscf pcscfIpv4) := by
      cases active with
      | true =>
        obtain ⟨_, _, _, _, hsvc⟩ := imsServiceSetPduActive_up m.svc ipv4 hasPcscf pcscfIpv4
        rw [hsvc]
        exact ⟨h.identity_eq, h.registered⟩
      | false =>
        rw [imsServiceSetPduActive_down]
        exact ⟨h.identity_eq, fun hne => absurd rfl hne⟩
    simp only [imsStep, machineSetPduActive]
    split
    · exact hsvc
    · exact hsvc
  | setTxCallback set | setSmsDownlinkCallback set | stop => exact ⟨h.identity_eq, h.registered⟩
  | submitSms pdu =>
    by_cases hpdu : Admissible m.svc pdu
    · simp only [imsStep, imsServiceSubmitSms_admissible hpdu]
      exact ⟨h.identity_eq, fun _ => hpdu.2.1⟩
    · simp only [imsStep, imsServiceSubmitSms_refused hpdu]
      exact h
  | receiveIp psi packet =>
    simp only [imsStep]
    rcases machineReceiveIp_eq m psi packet with heq | ⟨outstanding, -, heq⟩
    · rw [heq]
      exact h
    · rw [heq]
      exact ⟨h.identity_eq, h.registered⟩

section Progress

open Relay

variable {identity : ImsIdentity} {m m' : ImsMachine} {guard : Prop}

/-- What happens to the accepted SMS between two states. -/
abbrev SmsProgress (identity : ImsIdentity) :=
  Progress pendingSms (fun m => smsSent m.log) SmsSound (IsMessageOf identity)

theorem Untouched.progress (h : Untouched m m') (hguard : guard) :
    SmsProgress identity m m' [] guard [] := by
  refine .quiet ?_ h.sent ?_ hguard
  · rw [pendingSms, pendingSms, h.task, h.frame.smsQueue]
  · rw [SmsSound, SmsSound, h.task, h.frame.smsQueue]

/-- Taking an SMS settles whether it can be sent. -/
theorem Takes.progress {sms : ImsSmsItem} {rest : List ImsSmsItem} (h : Takes m sms rest m')
    (hidle : m.plan = none) (hqueue : m.svc.smsQueue = sms :: rest) (hup : Up m.svc)
    (hregistered : m.svc.registered = true) :
    SmsProgress identity m m' [] (m.plan = none → m.svc.smsQueue ≠ [] → m.svc.hasPcscf = true) [] := by
  obtain ⟨reads, htask⟩ := h.task
  have hrest : m'.svc.smsQueue = rest := h.frame.smsQueue
  have hidleTask : m.smsTask = none := by rw [ImsMachine.smsTask, hidle, Option.bind_none]
  constructor
  · simp [pendingSms, htask, hidleTask, hqueue, hrest]
  · simp [h.log]
  · nofun
  · simp [SmsSound, SmsTask.Sendable, htask, hidleTask, hqueue, hrest, hidle, hup.pduActive, hup.txCb,
      hregistered]
    tauto

theorem workerSms_progress {p : WorkerPlan} {sms : ImsSmsItem} {env : ImsEnv}
    (hinv : SmsInv identity m.svc) (hidentity : FromConfig identity)
    (htx : ∀ reference, env.txAnswer (.sms reference) = 0) (hp : m.plan = some p)
    (hsms : p.sms = some sms) (hguard : guard) :
    ∃ finished, SmsProgress identity m (workerSms m p sms env) [] guard finished := by
  obtain ⟨hframe, hplan⟩ := workerSms_smsFrame m p sms env
  have hdone : (workerSms m p sms env).smsTask = none := by
    rw [ImsMachine.smsTask, hplan]
    rfl
  have hfrom : FromConfig m.svc.identity := by rwa [hinv.identity_eq]
  obtain ⟨out, hlog, hout, hmessage⟩ := workerSms_outcome p sms hfrom htx
  have htask : m.smsTask = some ⟨sms, p.registered, p.pduReady, p.txCb⟩ := by
    rw [ImsMachine.smsTask, hp, Option.bind_some, WorkerPlan.smsTask, hsms, Option.map_some]
  refine ⟨[(sms, out)], ?_, ?_, ?_, ?_⟩
  · simp [pendingSms, htask, hdone, hframe.smsQueue]
  · rw [hlog]
    cases out <;> rfl
  · simpa [hinv.identity_eq] using hmessage
  · simp [SmsSound, htask, hdone, hframe.smsQueue, hguard, hout]

/-- Submission adds to the queue what it does not refuse. -/
theorem submitSms_progress (pdu : Bytes) :
    SmsProgress identity m (imsStep m (.submitSms pdu)) (acceptedSms m (.submitSms pdu))
      (Transmittable m (.submitSms pdu)) [] := by
  by_cases hpdu : Admissible m.svc pdu
  · have hstep := imsServiceSubmitSms_admissible hpdu
    constructor
    · simp [imsStep, acceptedSms, hstep, pendingSms, ImsMachine.smsTask]
    · simp [imsStep, hstep]
    · intro _ h
      cases h
    · simp [imsStep, hstep, Transmittable, hpdu, SmsSound, ImsMachine.smsTask, or_imp, forall_and,
        and_assoc]
  · have hstep := imsServiceSubmitSms_refused hpdu
    simp only [imsStep, acceptedSms, hstep]
    exact .quiet rfl rfl Iff.rfl fun h => absurd h hpdu

theorem Up.untouched (hup : Up m.svc) (h : Untouched m m') (hguard : guard) :
    Up m'.svc ∧ ∃ finished, SmsProgress identity m m' [] guard finished :=
  ⟨hup.frame h.frame, [], h.progress hguard⟩

theorem workerStep_relays {env : ImsEnv} (hidentity : FromConfig identity)
    (hinv : SmsInv identity m.svc) (hup : Up m.svc)
    (htx : ∀ reference, env.txAnswer (.sms reference) = 0) :
    Up (workerStep m env).svc ∧ ∃ finished,
      SmsProgress identity m (workerStep m env) [] (Transmittable m (.worker env)) finished := by
  apply workerStep_sms (P := fun m' => Up m'.svc ∧ ∃ finished,
    SmsProgress identity m m' [] (Transmittable m (.worker env)) finished)
  case hquiet =>
    intro m' hm' hempty
    exact hup.untouched hm' fun hidle hne => absurd (hempty hidle hup.running) hne
  case htake =>
    intro hidle sms rest hqueue m' hm'
    have hregistered := hinv.registered (hqueue ▸ List.cons_ne_nil sms rest)
    have hrest : Up { m.svc with smsQueue := rest } := ⟨hup.running, hup.pduActive, hup.txCb⟩
    exact ⟨hrest.frame hm'.frame, [], hm'.progress hidle hqueue hup hregistered⟩
  case hsms =>
    intro p hp sms hsms
    exact ⟨hup.frame (workerSms_smsFrame m p sms env).1,
      workerSms_progress hinv hidentity htx hp hsms fun hidle => absurd (hidle.symm.trans hp) nofun⟩

/-- A step accepts SMS at one end of the relay and finishes them at the other. -/
theorem imsStep_relays {e : ImsStep} (hidentity : FromConfig identity) (hinv : SmsInv identity m.svc)
    (hup : Up m.svc) (he : StaysUp e) :
    Up (imsStep m e).svc ∧ ∃ finished,
      SmsProgress identity m (imsStep m e) (acceptedSms m e) (Transmittable m e) finished := by
  cases e with
  | worker env => exact workerStep_relays hidentity hinv hup he
  | setPduActive active ipv4 hasPcscf pcscfIpv4 =>
    obtain rfl : active = true := he
    obtain ⟨_, _, _, _, hsvc⟩ := imsServiceSetPduActive_up m.svc ipv4 hasPcscf pcscfIpv4
    have hsame : imsStep m (.setPduActive true ipv4 hasPcscf pcscfIpv4) =
        { m with svc := imsServiceSetPduActive m.svc true ipv4 hasPcscf pcscfIpv4 } :=
      if_pos hup.pduActive
    rw [hsame, hsvc]
    refine hup.untouched ⟨?_, rfl, rfl⟩ trivial
    exact ⟨rfl, rfl, rfl, hup.pduActive.symm, rfl, id⟩
  | setTxCallback set =>
    obtain rfl : set = true := he
    refine hup.untouched ⟨?_, rfl, rfl⟩ trivial
    exact ⟨rfl, rfl, rfl, rfl, hup.txCb.symm, id⟩
  | setSmsDownlinkCallback set =>
    refine hup.untouched ⟨?_, rfl, rfl⟩ trivial
    exact ⟨rfl, rfl, rfl, rfl, rfl, id⟩
  | submitSms pdu =>
    refine ⟨?_, [], submitSms_progress pdu⟩
    obtain ⟨next, queue, heq⟩ := imsStep_submitSms m pdu
    rw [heq]
    exact ⟨hup.running, hup.pduActive, hup.txCb⟩
  | receiveIp psi packet =>
    refine hup.untouched ?_ trivial
    simp only [imsStep]
    rcases machineReceiveIp_eq m psi packet with heq | ⟨outstanding, -, heq⟩
    · rw [heq]
      exact ⟨.refl m.svc, rfl, rfl⟩
    · rw [heq]
      exact ⟨⟨rfl, rfl, rfl, rfl, rfl, id⟩, rfl, rfl⟩
  | stop => exact he.elim

end Progress

/-! ## The worker gets done -/

/-- The steps that are left of a plan. -/
def WorkerPlan.actions (p : WorkerPlan) : Nat :=
  p.doRegister.toNat + p.doRefresh.toNat + p.ip.isSome.toNat + p.sms.isSome.toNat + 1

/-- The steps until nothing is pending, at most: a plan has up to five, and one step makes
it. -/
def workLeft (m : ImsMachine) : Nat :=
  m.plan.elim 0 WorkerPlan.actions + 6 * m.svc.smsQueue.length

theorem WorkerPlan.actions_le (p : WorkerPlan) : p.actions ≤ 5 := by
  have h1 := p.doRegister.toNat_le
  have h2 := p.doRefresh.toNat_le
  have h3 := p.ip.isSome.toNat_le
  have h4 := p.sms.isSome.toNat_le
  unfold actions
  omega

theorem workLeft_le (m : ImsMachine) : workLeft m ≤ 6 * m.svc.smsQueue.length + 5 := by
  unfold workLeft
  cases m.plan with
  | none => exact Nat.add_comm _ _ ▸ Nat.add_le_add_left (Nat.zero_le 5) _
  | some p =>
    have := p.actions_le
    change p.actions + _ ≤ _
    omega

theorem pendingSms_eq_nil : pendingSms m = [] ↔ m.smsTask = none ∧ m.svc.smsQueue = [] := by
  simp [pendingSms]

theorem pendingSms_of_workLeft (h : workLeft m = 0) : pendingSms m = [] := by
  rw [workLeft, Nat.add_eq_zero_iff] at h
  refine pendingSms_eq_nil.mpr ⟨?_, List.length_eq_zero_iff.mp (by omega)⟩
  cases hplan : m.plan with
  | none => rw [ImsMachine.smsTask, hplan, Option.bind_none]
  | some p => simp [hplan, WorkerPlan.actions] at h

theorem workLeft_act {m' : ImsMachine} {p p' : WorkerPlan} (hp : m.plan = some p)
    (hplan : m'.plan = some p') (hqueue : m'.svc.smsQueue = m.svc.smsQueue)
    (h : p'.actions < p.actions) : workLeft m' < workLeft m := by
  rw [workLeft, workLeft, hp, hplan, hqueue]
  exact Nat.add_lt_add_right h _

/-- A plan that takes an SMS is shorter than what it takes off the queue. -/
theorem workerSection_workLeft (hrunning : m.svc.running = true) (hidle : m.plan = none)
    (hqueue : m.svc.smsQueue ≠ []) (now : Nat) : workLeft (workerSection m now) < workLeft m := by
  have hwork : ¬ (m.svc.running = false ∨ nothingToDo m.svc now = true) := by
    simp [hrunning, nothingToDo, hqueue]
  have htail := (takeWork_smsFrame m.svc now).smsQueue
  have hpos := List.length_pos_iff.mpr hqueue
  have hplan := (makePlan (rearmRegister m.svc now) now m.activation).actions_le
  rw [workerSection, if_neg hwork]
  simp only [workLeft, hidle, Option.elim_none, Option.elim_some, htail, List.length_tail]
  omega

/-- While something is pending, every step of the worker counts. -/
theorem workerStep_workLeft (env : ImsEnv) (hrunning : m.svc.running = true)
    (hpending : pendingSms m ≠ []) : workLeft (workerStep m env) < workLeft m := by
  apply workerStep_cases (P := fun m' => workLeft m' < workLeft m)
  case hsection =>
    intro hidle
    refine workerSection_workLeft hrunning hidle (fun hnil => hpending ?_) env.now
    exact pendingSms_eq_nil.mpr ⟨by rw [ImsMachine.smsTask, hidle, Option.bind_none], hnil⟩
  case hregister =>
    intro p hp hdo
    refine workLeft_act hp rfl rfl ?_
    simp [WorkerPlan.actions, hdo]
  case hrefresh =>
    intro p hp hdo
    have hless : ({ p with doRefresh := false } : WorkerPlan).actions < p.actions := by
      simp [WorkerPlan.actions, hdo]
    unfold workerRefresh
    dsimp only
    split
    · obtain ⟨⟨cseq, hsvc⟩, -⟩ := imsSendAuthorizedRegister_calls env m.svc p.refreshAuth
      exact workLeft_act hp rfl (by rw [hsvc]) hless
    · exact workLeft_act hp rfl rfl hless
  case hrx =>
    intro p hp _ item hitem
    refine workLeft_act hp rfl (imsHandleRxIp_smsFrame env m.svc item.packet).smsQueue ?_
    simp [WorkerPlan.actions, Option.mem_def.mp hitem]
  case hsms =>
    intro p hp sms hsms
    obtain ⟨hframe, hplan⟩ := workerSms_smsFrame m p sms env
    refine workLeft_act hp hplan hframe.smsQueue ?_
    simp [WorkerPlan.actions, Option.mem_def.mp hsms]
  case hdone =>
    intro p hp _
    simp [workLeft, Option.mem_def.mp hp, WorkerPlan.actions]

/-- The worker takes no SMS but those in its queue. -/
theorem workerStep_idle (env : ImsEnv) (hrunning : m.svc.running = true) :
    (workerStep m env).svc.running = true ∧
      (pendingSms m = [] → pendingSms (workerStep m env) = []) := by
  apply workerStep_sms (P := fun m' => m'.svc.running = true ∧ (pendingSms m = [] → pendingSms m' = []))
  case hquiet =>
    intro m' hm' _
    refine ⟨hm'.frame.running.trans hrunning, fun hnil => ?_⟩
    rwa [pendingSms, hm'.task, hm'.frame.smsQueue]
  case htake =>
    intro _ sms rest hqueue m' hm'
    refine ⟨hm'.frame.running.trans hrunning, fun hnil => ?_⟩
    rw [(pendingSms_eq_nil.mp hnil).2] at hqueue
    cases hqueue
  case hsms =>
    intro p hp sms hsms
    refine ⟨(workerSms_smsFrame m p sms env).1.running.trans hrunning, fun hnil => ?_⟩
    have htask := (pendingSms_eq_nil.mp hnil).1
    rw [ImsMachine.smsTask, hp, Option.bind_some, WorkerPlan.smsTask, hsms] at htask
    cases htask

/-- Left alone for long enough, the worker is done with every SMS. -/
theorem worker_drains (ds : List ImsEnv) (hrunning : m.svc.running = true)
    (hlong : pendingSms m = [] ∨ workLeft m ≤ ds.length) :
    pendingSms (run imsStep m (ds.map .worker)) = [] := by
  induction ds generalizing m with
  | nil => exact hlong.elim id fun hdone => pendingSms_of_workLeft (Nat.le_zero.mp hdone)
  | cons env ds ih =>
    obtain ⟨hstill, hempty⟩ := workerStep_idle env hrunning
    refine ih hstill ?_
    by_cases hnil : pendingSms m = []
    · exact .inl (hempty hnil)
    · have hless := workerStep_workLeft env hrunning hnil
      have hle := hlong.resolve_left hnil
      rw [List.length_cons] at hle
      exact .inr (by change workLeft (workerStep m env) ≤ _; omega)

/-! ## Whole runs -/

/-- What was pending and what the window accepts is sent, each in one MESSAGE and in order. -/
def Transmitted (identity : ImsIdentity) (m : ImsMachine) (window : List ImsStep) : Prop :=
  ∃ packets, smsSent (run imsStep m window).log = smsSent m.log ++ packets ∧
    List.Forall₂ (IsMessageOf identity)
      (pendingSms m ++ Relay.collect imsStep acceptedSms m window) packets

/-- An SMS was accepted, and nothing was sent since. -/
theorem not_transmitted {e : ImsStep} {es : List ImsStep} (haccepted : acceptedSms m e ≠ [])
    (hsent : smsSent (run imsStep m (e :: es)).log = smsSent m.log) :
    ¬ Transmitted identity m (e :: es) := by
  rintro ⟨packets, hpackets, hmatch⟩
  have hnone : packets = [] := List.self_eq_append_right.mp (hsent.symm.trans hpackets)
  rw [hnone, List.forall₂_nil_right_iff, List.append_eq_nil_iff, Relay.collect,
    List.append_eq_nil_iff] at hmatch
  exact haccepted hmatch.2.1

/-- What cannot be encoded is refused. -/
def RefusesUnencodable (m : ImsMachine) : ImsStep → Prop
  | .submitSms pdu => ¬ Encodable pdu → imsServiceSubmitSms m.svc pdu = none
  | _ => True

theorem Transmittable.refuses {e : ImsStep} (h : Transmittable m e) : RefusesUnencodable m e := by
  cases e with
  | submitSms pdu => exact fun hpdu => imsServiceSubmitSms_refused fun hadmissible => hpdu (h hadmissible)
  | worker | setPduActive | setTxCallback | setSmsDownlinkCallback | receiveIp | stop => trivial

/-- While the session stays up, and once the worker had the time, every accepted SMS was
sent and every other one refused, exactly if what was submitted can be encoded and the
P-CSCF was known when the worker took it. -/
theorem imsRun_transmits_iff (cfg : UeInstanceConfig) (enabled smsEnabled : Bool)
    (before during : List ImsStep) (ds : List ImsEnv) (m : ImsMachine)
    (hm : m = run imsStep (imsMachineInit cfg enabled smsEnabled) before) (hup : Up m.svc)
    (hduring : ∀ e ∈ during, StaysUp e) (hds : ∀ env ∈ ds, StaysUp (.worker env))
    (hlong : 6 * (run imsStep m during).svc.smsQueue.length + 5 ≤ ds.length) :
    (Transmitted (imsBuildIdentity cfg) m (during ++ ds.map .worker) ∧
        Along imsStep RefusesUnencodable m (during ++ ds.map .worker)) ↔
      SmsSound m ∧ Along imsStep Transmittable m (during ++ ds.map .worker) := by
  have hinit : SmsInv (imsBuildIdentity cfg) (imsMachineInit cfg enabled smsEnabled).svc :=
    ⟨rfl, fun hne => absurd rfl hne⟩
  have hinv : SmsInv (imsBuildIdentity cfg) m.svc :=
    hm ▸ run_invariant (G := fun _ _ => True)
      (I := fun m : ImsMachine => SmsInv (imsBuildIdentity cfg) m.svc) (fun _ e h _ => h.step e) hinit
      (along_of_forall (fun _ _ => trivial) _ _)
  have hwindow : ∀ e ∈ during ++ ds.map .worker, StaysUp e := by
    rw [List.forall_mem_append, List.forall_mem_map]
    exact ⟨hduring, hds⟩
  have hstep : ∀ m e, SmsInv (imsBuildIdentity cfg) m.svc ∧ Up m.svc → StaysUp e →
      (SmsInv (imsBuildIdentity cfg) (imsStep m e).svc ∧ Up (imsStep m e).svc) ∧ ∃ finished,
        SmsProgress (imsBuildIdentity cfg) m (imsStep m e) (acceptedSms m e) (Transmittable m e)
          finished := by
    intro m e h he
    obtain ⟨hup, hprogress⟩ := imsStep_relays ⟨cfg, rfl⟩ h.1 h.2 he
    exact ⟨⟨h.1.step e, hup⟩, hprogress⟩
  obtain ⟨⟨-, hmid⟩, -⟩ := Relay.progress_run hstep ⟨hinv, hup⟩ (along_of_mem hduring m)
  obtain ⟨-, finished, hprogress⟩ := Relay.progress_run hstep ⟨hinv, hup⟩ (along_of_mem hwindow m)
  have hend : pendingSms (run imsStep m (during ++ ds.map .worker)) = [] := by
    rw [run_append]
    exact worker_drains ds hmid.running (.inr (Nat.le_trans (workLeft_le _) hlong))
  have hsound : SmsSound (run imsStep m (during ++ ds.map .worker)) := by
    obtain ⟨htask, hqueue⟩ := pendingSms_eq_nil.mp hend
    simp [SmsSound, htask, hqueue]
  rw [Transmitted, hprogress.relays_iff hend hsound]
  refine ⟨And.left, fun h => ⟨h, ?_⟩⟩
  exact along_of_invariant (I := fun _ => True) (fun _ _ _ _ => trivial)
    (fun _ _ _ hguard => hguard.refuses) trivial h.2

/-- The service registers, and the worker is idle. -/
def registeredRun : List ImsStep :=
  firstRegister ++
    [.receiveIp 5 registerOk, .worker { now := 2 }, .worker { now := 2 }, .worker { now := 2 }]

/-- Room for one SMS. -/
def drainSteps : List ImsEnv := List.replicate 11 { now := 3 }

theorem staysUp_drainSteps : ∀ env ∈ drainSteps, StaysUp (.worker env) := by
  intro env henv
  rw [List.eq_of_mem_replicate henv]
  exact fun _ => rfl

instance (svc : ImsService) : Decidable (Up svc) :=
  decidable_of_iff (svc.running = true ∧ svc.pduActive = true ∧ svc.txCb = true)
    ⟨fun h => ⟨h.1, h.2.1, h.2.2⟩, fun h => ⟨h.1, h.2, h.3⟩⟩

instance (m : ImsMachine) : Decidable (SmsSound m) := inferInstanceAs (Decidable (_ ∧ _))

attribute [local irreducible] imsStep

theorem up_registeredRun :
    Up (run imsStep (imsMachineInit sampleConfig true true) registeredRun).svc := by
  decide +kernel

/-- An SMS-SUBMIT without an address of the service centre. -/
theorem imsRun_transmits_submit :
    let m := run imsStep (imsMachineInit sampleConfig true true) registeredRun
    let window := .submitSms [0x00, 0x01, 0x07, 0x04] :: drainSteps.map .worker
    acceptedSms m (.submitSms [0x00, 0x01, 0x07, 0x04]) ≠ [] ∧
      Transmitted (imsBuildIdentity sampleConfig) m window ∧
      Along imsStep RefusesUnencodable m window := by
  refine ⟨by decide +kernel, (imsRun_transmits_iff sampleConfig true true registeredRun
    [.submitSms [0x00, 0x01, 0x07, 0x04]] drainSteps _ rfl up_registeredRun ?_ staysUp_drainSteps
    (by decide +kernel)).mpr ⟨by decide +kernel, by decide +kernel⟩⟩
  intro e he
  rw [List.mem_singleton.mp he]
  trivial

/-- A PDU that ends inside the address of the service centre is accepted and never sent. -/
theorem submitSms_truncated_lost :
    ¬ ∀ (cfg : UeInstanceConfig) (enabled smsEnabled : Bool) (before during : List ImsStep)
      (ds : List ImsEnv) (m : ImsMachine),
      m = run imsStep (imsMachineInit cfg enabled smsEnabled) before → Up m.svc →
      (∀ e ∈ during, StaysUp e) → (∀ env ∈ ds, StaysUp (.worker env)) →
      6 * (run imsStep m during).svc.smsQueue.length + 5 ≤ ds.length →
      Transmitted (imsBuildIdentity cfg) m (during ++ ds.map .worker) ∧
        Along imsStep RefusesUnencodable m (during ++ ds.map .worker) := by
  intro h
  have hlost := (h sampleConfig true true registeredRun [.submitSms [0x07, 0x91, 0x33]] drainSteps _ rfl
    up_registeredRun (fun e he => List.mem_singleton.mp he ▸ trivial) staysUp_drainSteps
    (by decide +kernel)).1
  exact not_transmitted (by decide +kernel) (by decide +kernel) hlost

end VirtualLte.Ims
