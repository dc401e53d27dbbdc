import VirtualLte.Ims.WorkerSteps

/-!
# Registered only by an answer

The worker takes a packet off the queue under the lock and acts on it without, so the PDU
session may go down and up again in between; and a 200 response registers whatever the state.

* `RegisteredSoundly` is what `registered` promises: the session and the P-CSCF are there,
  and the last 200 response came in this activation while one of its REGISTERs was open.
* `AnsweredInTime` are the steps of a network that answers what it is asked and of a session
  that does not go down under the worker's hands.
* `RegistrationInvariant` follows a 200 response from its arrival to the worker's hands.
* `imsRun_registeredSoundly`: along such steps `registered` keeps its promise.
-/

namespace VirtualLte.Ims

open Transition Engine

/-! ## The promise -/

/-- Packets of the session can be sent to a P-CSCF. -/
def ImsMachine.Ready (m : ImsMachine) : Prop := m.svc.pduActive = true ∧ m.svc.hasPcscf = true

instance (m : ImsMachine) : Decidable m.Ready := inferInstanceAs (Decidable (_ ∧ _))

/-- The receipt is of the current activation, and was for an open REGISTER of it. -/
def ImsMachine.Current (m : ImsMachine) (receipt : Receipt) : Prop :=
  receipt = ⟨m.activation, true⟩

instance (m : ImsMachine) (receipt : Receipt) : Decidable (m.Current receipt) :=
  inferInstanceAs (Decidable (_ = _))

def RegisteredSoundly (m : ImsMachine) : Prop :=
  m.svc.registered = true → m.Ready ∧ m.Current m.grant.receipt

instance (m : ImsMachine) : Decidable (RegisteredSoundly m) := inferInstanceAs (Decidable (_ → _))

/-! ## The steps that keep it -/

def isRegisterOk (packet : Bytes) : Bool := packetResponse packet = some .ok

/-- The worker has taken a 200 response off the queue. -/
def holdsOk (m : ImsMachine) : Bool :=
  (m.plan.bind (·.ip)).any fun item => isRegisterOk item.packet

/-- A 200 response answers an open REGISTER; the session does not go down while the worker
holds one, and does not lose its P-CSCF. -/
def AnsweredInTime (m : ImsMachine) : ImsStep → Prop
  | .receiveIp _ packet => isRegisterOk packet = true → 0 < m.outstanding
  | .setPduActive active _ hasPcscf _ =>
    (active = false → holdsOk m = false) ∧
      (active = true → hasPcscf = true ∨ m.svc.hasPcscf = false)
  | .worker _ | .setTxCallback _ | .setSmsDownlinkCallback _ | .submitSms _ | .stop => True

instance (m : ImsMachine) : ∀ e, Decidable (AnsweredInTime m e)
  | .receiveIp _ _ => inferInstanceAs (Decidable (_ → _))
  | .setPduActive _ _ _ _ => inferInstanceAs (Decidable ((_ → _) ∧ (_ → _)))
  | .worker _ | .setTxCallback _ | .setSmsDownlinkCallback _ | .submitSms _ | .stop => isTrue trivial

/-- A 200 response on its way is for the current activation, and the session is up. -/
def OnItsWay (m : ImsMachine) (item : ImsIpItem) : Prop :=
  isRegisterOk item.packet = true → m.Ready ∧ m.Current item.receipt

structure RegistrationInvariant (m : ImsMachine) : Prop where
  registered : RegisteredSoundly m
  queued : ∀ item ∈ m.svc.ipQueue, OnItsWay m item
  held : ∀ p ∈ m.plan, ∀ item ∈ p.ip, OnItsWay m item
  outstanding : 0 < m.outstanding → m.Ready
  /-- A REGISTER that is planned for this activation is planned for a session that is up. -/
  planned : ∀ p ∈ m.plan, p.activation ≤ m.activation ∧
    (p.activation = m.activation → p.doRegister = true ∨ p.doRefresh = true → m.Ready)

/-! ## The worker's steps -/

section Worker

variable {m m' : ImsMachine}

/-- The registration and the session are as before. -/
structure SameSession (m m' : ImsMachine) : Prop where
  registered : m'.svc.registered = m.svc.registered
  pduActive : m'.svc.pduActive = m.svc.pduActive
  hasPcscf : m'.svc.hasPcscf = m.svc.hasPcscf
  activation : m'.activation = m.activation
  grant : m'.grant = m.grant

theorem SameSession.ready (h : SameSession m m') : m'.Ready ↔ m.Ready := by
  unfold ImsMachine.Ready
  rw [h.pduActive, h.hasPcscf]

theorem SameSession.onItsWay (h : SameSession m m') {item : ImsIpItem} :
    OnItsWay m' item ↔ OnItsWay m item := by
  unfold OnItsWay ImsMachine.Current
  rw [h.ready, h.activation]

theorem SameSession.registeredSoundly (h : SameSession m m') :
    RegisteredSoundly m' ↔ RegisteredSoundly m := by
  unfold RegisteredSoundly ImsMachine.Current
  rw [h.registered, h.ready, h.activation, h.grant]

/-- In the same session only the queue, the worker's plan and the REGISTERs matter. -/
theorem RegistrationInvariant.sameSession (h : RegistrationInvariant m) (hsame : SameSession m m')
    (hqueue : ∀ item ∈ m'.svc.ipQueue, OnItsWay m item)
    (hheld : ∀ p ∈ m'.plan, ∀ item ∈ p.ip, OnItsWay m item)
    (hout : 0 < m'.outstanding → m.Ready)
    (hplanned : ∀ p ∈ m'.plan, p.activation ≤ m.activation ∧
      (p.activation = m.activation → p.doRegister = true ∨ p.doRefresh = true → m.Ready)) :
    RegistrationInvariant m' where
  registered := hsame.registeredSoundly.mpr h.registered
  queued item hitem := hsame.onItsWay.mpr (hqueue item hitem)
  held p hp item hitem := hsame.onItsWay.mpr (hheld p hp item hitem)
  outstanding hpos := hsame.ready.mpr (hout hpos)
  planned p hp := by
    rw [hsame.activation, hsame.ready]
    exact hplanned p hp

theorem registrarKnown_ready {svc : ImsService} (h : registrarKnown svc = true) :
    svc.pduActive = true ∧ svc.hasPcscf = true := by
  simp only [registrarKnown, Bool.and_eq_true] at h
  exact ⟨h.1.2, h.2⟩

/-- A REGISTER is planned for a session that is up. -/
theorem makePlan_ready {svc : ImsService} {now activation : Nat}
    (h : (makePlan svc now activation).doRegister = true ∨
      (makePlan svc now activation).doRefresh = true) :
    svc.pduActive = true ∧ svc.hasPcscf = true := by
  simp only [makePlan, registerNeededLocked, registerRefreshNeededLocked, Bool.and_eq_true] at h
  rcases h with h | h
  · exact registrarKnown_ready h.1.1
  · exact registrarKnown_ready h.1.1.1

theorem RegistrationInvariant.workerSection (h : RegistrationInvariant m) (now : Nat) :
    RegistrationInvariant (workerSection m now) := by
  unfold Ims.workerSection
  split
  · exact h
  · obtain ⟨sent, authValid, hrearm⟩ := rearmRegister_eq m.svc now
    obtain ⟨_, _, _, _, hsvc⟩ := takeWork_eq m.svc now
    dsimp only
    rw [hsvc]
    refine h.sameSession ⟨rfl, rfl, rfl, rfl, rfl⟩ ?_ ?_ h.outstanding ?_
    · intro item hitem
      exact h.queued item (List.mem_of_mem_tail hitem)
    · intro p hp item hitem
      cases hp
      rw [hrearm] at hitem
      exact h.queued item (List.mem_of_mem_head? hitem)
    · intro p hp
      cases hp
      refine ⟨Nat.le_refl _, fun _ hdo => ?_⟩
      have hready := makePlan_ready hdo
      rw [hrearm] at hready
      exact hready

/-- A REGISTER under the plan's addresses is open only if the plan is of this activation. -/
theorem RegistrationInvariant.workerRegister (h : RegistrationInvariant m) {p : WorkerPlan}
    (hp : p ∈ m.plan) (hdo : p.doRegister = true) (env : ImsEnv) :
    RegistrationInvariant (workerRegister m p env) := by
  obtain ⟨hle, hready⟩ := h.planned p hp
  refine h.sameSession ⟨rfl, rfl, rfl, rfl, rfl⟩ h.queued ?_ ?_ ?_
  · intro q hq
    cases hq
    exact h.held p hp
  · intro hpos
    by_cases hcurrent : p.activation = m.activation
    · exact hready hcurrent (.inl hdo)
    · simp only [Ims.workerRegister, ImsMachine.note, hcurrent, decide_false, Bool.false_eq_true,
        if_false, Nat.add_zero] at hpos
      exact h.outstanding hpos
  · intro q hq
    cases hq
    exact ⟨hle, fun hcurrent _ => hready hcurrent (.inl hdo)⟩

theorem RegistrationInvariant.workerRefresh (h : RegistrationInvariant m) {p : WorkerPlan}
    (hp : p ∈ m.plan) (hdo : p.doRefresh = true) (env : ImsEnv) :
    RegistrationInvariant (workerRefresh m p env) := by
  obtain ⟨hle, hready⟩ := h.planned p hp
  have hheld : ∀ q ∈ some { p with doRefresh := false }, ∀ item ∈ q.ip, OnItsWay m item := by
    intro q hq
    cases hq
    exact h.held p hp
  have hplanned : ∀ q ∈ some { p with doRefresh := false }, q.activation ≤ m.activation ∧
      (q.activation = m.activation → q.doRegister = true ∨ q.doRefresh = true → m.Ready) := by
    intro q hq
    cases hq
    exact ⟨hle, fun hcurrent _ => hready hcurrent (.inr hdo)⟩
  unfold Ims.workerRefresh
  dsimp only
  split
  · obtain ⟨⟨cseq, hsvc⟩, hcalls⟩ := imsSendAuthorizedRegister_calls env m.svc p.refreshAuth
    rw [hsvc]
    refine h.sameSession ⟨rfl, rfl, rfl, rfl, rfl⟩ h.queued hheld ?_ hplanned
    intro hpos
    by_cases hup : txReadyLocked m.svc = true
    · obtain ⟨hactive, hpcscf, -⟩ := txReadyLocked_iff.mp hup
      exact ⟨hactive, hpcscf⟩
    · have hnone : registersSent (imsSendAuthorizedRegister env m.svc p.refreshAuth).2.2 = 0 :=
        hcalls.registersSent fun hkind => hup hkind.2
      simp only [ImsMachine.note, hnone] at hpos
      exact h.outstanding hpos
  · refine h.sameSession ⟨rfl, rfl, rfl, rfl, rfl⟩ h.queued hheld ?_ hplanned
    intro hpos
    by_cases hcurrent : p.activation = m.activation
    · exact hready hcurrent (.inr hdo)
    · simp only [ImsMachine.note, hcurrent, decide_false, Bool.false_eq_true, if_false,
        Nat.add_zero] at hpos
      exact h.outstanding hpos

/-- The worker acts on a packet: a 200 response that it holds is one it may act on. -/
theorem RegistrationInvariant.workerRx (h : RegistrationInvariant m) {p : WorkerPlan}
    (hp : p ∈ m.plan) (hdo : p.doRegister = false ∧ p.doRefresh = false) {item : ImsIpItem}
    (hitem : item ∈ p.ip) (env : ImsEnv) : RegistrationInvariant (workerRx m p item env) := by
  obtain ⟨hle, -⟩ := h.planned p hp
  have hplanned : ∀ q ∈ some { p with ip := none }, q.activation ≤ m.activation ∧
      (q.activation = m.activation → q.doRegister = true ∨ q.doRefresh = true → m.Ready) := by
    intro q hq
    cases hq
    refine ⟨hle, fun _ hdo' => ?_⟩
    simp [hdo] at hdo'
  have hheld : ∀ q ∈ some { p with ip := none }, ∀ item ∈ q.ip, OnItsWay m item := by
    intro q hq
    cases hq
    exact nofun
  have hout : 0 < m.outstanding + registersSent (imsHandleRxIp env m.svc item.packet).2 → m.Ready := by
    intro hpos
    by_cases hup : txReadyLocked m.svc = true
    · obtain ⟨hactive, hpcscf, -⟩ := txReadyLocked_iff.mp hup
      exact ⟨hactive, hpcscf⟩
    · rw [imsHandleRxIp_registers env m.svc item.packet (by simpa using hup)] at hpos
      exact h.outstanding hpos
  by_cases hok : packetResponse item.packet = some .ok
  · obtain ⟨hready, hcurrent⟩ := h.held p hp item hitem (by simpa [isRegisterOk] using hok)
    obtain ⟨payload, cseq, last, -, hsvc⟩ := imsHandleRxIp_ok env m.svc hok
    simp only [Ims.workerRx, hsvc, hok, if_true]
    exact ⟨fun _ => ⟨hready, hcurrent⟩, h.queued, hheld, hout, hplanned⟩
  · obtain ⟨cseq, last, auth, authValid, sent, sentMs, hsvc⟩ := imsHandleRxIp_other env m.svc hok
    simp only [Ims.workerRx, hsvc, hok, if_false]
    exact h.sameSession ⟨rfl, rfl, rfl, rfl, rfl⟩ h.queued hheld hout hplanned

theorem RegistrationInvariant.workerSms (h : RegistrationInvariant m) {p : WorkerPlan}
    (hp : p ∈ m.plan) (sms : ImsSmsItem) (env : ImsEnv) :
    RegistrationInvariant (workerSms m p sms env) := by
  have hheld : ∀ q ∈ some { p with sms := none }, ∀ item ∈ q.ip, OnItsWay m item := by
    intro q hq
    cases hq
    exact h.held p hp
  have hplanned : ∀ q ∈ some { p with sms := none }, q.activation ≤ m.activation ∧
      (q.activation = m.activation → q.doRegister = true ∨ q.doRefresh = true → m.Ready) := by
    intro q hq
    cases hq
    exact h.planned p hp
  unfold Ims.workerSms
  dsimp only
  split
  · obtain ⟨⟨cseq, hsvc⟩, hcalls⟩ :=
      imsSendSmsMessage_calls env m.svc sms p.localIp p.pcscfIp p.txCb
    rw [hsvc]
    refine h.sameSession ⟨rfl, rfl, rfl, rfl, rfl⟩ h.queued hheld ?_ hplanned
    intro hpos
    simp only [ImsMachine.note, hcalls.registersSent nofun] at hpos
    exact h.outstanding hpos
  · exact h.sameSession ⟨rfl, rfl, rfl, rfl, rfl⟩ h.queued hheld h.outstanding hplanned

theorem RegistrationInvariant.worker (h : RegistrationInvariant m) (env : ImsEnv) :
    RegistrationInvariant (workerStep m env) := by
  apply workerStep_cases
  case hsection => exact fun _ => h.workerSection env.now
  case hregister =>
    intro p hp hdo
    exact h.workerRegister hp hdo env
  case hrefresh =>
    intro p hp hdo
    exact h.workerRefresh hp hdo env
  case hrx =>
    intro p hp hdo item hitem
    exact h.workerRx hp hdo hitem env
  case hsms =>
    intro p hp sms _
    exact h.workerSms hp sms env
  case hdone =>
    intro p _ _
    exact h.sameSession ⟨rfl, rfl, rfl, rfl, rfl⟩ h.queued (fun _ hp => nomatch hp) h.outstanding
      fun _ hp => nomatch hp

end Worker

/-! ## The steps of the other threads -/

section Calls

variable {m : ImsMachine}

theorem not_onItsWay_of_not_ready (h : RegistrationInvariant m) (hready : ¬ m.Ready) :
    (∀ item ∈ m.svc.ipQueue, isRegisterOk item.packet = false) ∧
      ∀ p ∈ m.plan, ∀ item ∈ p.ip, isRegisterOk item.packet = false := by
  refine ⟨fun item hitem => ?_, fun p hp item hitem => ?_⟩
  · by_contra hok
    exact hready (h.queued item hitem (by simpa using hok)).1
  · by_contra hok
    exact hready (h.held p hp item hitem (by simpa using hok)).1

/-- The session goes down: the queue is dropped, and the worker holds no 200 response. -/
theorem RegistrationInvariant.setDown (h : RegistrationInvariant m) (hholds : holdsOk m = false)
    (ipv4 : Ipv4) (hasPcscf : Bool) (pcscfIpv4 : Ipv4) :
    RegistrationInvariant (machineSetPduActive m false ipv4 hasPcscf pcscfIpv4) := by
  have hheld : ∀ p ∈ m.plan, ∀ item ∈ p.ip, isRegisterOk item.packet = false := by
    intro p hp item hitem
    simpa [holdsOk, Option.mem_def.mp hp, Option.mem_def.mp hitem] using hholds
  unfold machineSetPduActive
  rw [imsServiceSetPduActive_down]
  dsimp only
  split
  · rename_i hsame
    have hdown : ¬ m.Ready := fun hready => by
      rw [hready.1] at hsame
      cases hsame
    refine ⟨nofun, nofun, ?_, fun hpos => absurd (h.outstanding hpos) hdown, ?_⟩
    · intro p hp item hitem hok
      rw [hheld p hp item hitem] at hok
      cases hok
    · intro p hp
      refine ⟨(h.planned p hp).1, fun hcurrent hdo => ?_⟩
      exact absurd ((h.planned p hp).2 hcurrent hdo) hdown
  · refine ⟨nofun, nofun, ?_, nofun, ?_⟩
    · intro p hp item hitem hok
      rw [hheld p hp item hitem] at hok
      cases hok
    · intro p hp
      have hle := (h.planned p hp).1
      exact ⟨Nat.le_succ_of_le hle, fun hcurrent => absurd hcurrent (by dsimp only; omega)⟩

/-- The session comes up, or is told its addresses again. -/
theorem RegistrationInvariant.setUp (h : RegistrationInvariant m) (ipv4 : Ipv4) {hasPcscf : Bool}
    (hkeeps : hasPcscf = true ∨ m.svc.hasPcscf = false) (pcscfIpv4 : Ipv4) :
    RegistrationInvariant (machineSetPduActive m true ipv4 hasPcscf pcscfIpv4) := by
  obtain ⟨sent, sentMs, attempts, pcscf, hsvc⟩ :=
    imsServiceSetPduActive_up m.svc ipv4 hasPcscf pcscfIpv4
  unfold machineSetPduActive
  rw [hsvc]
  dsimp only
  split
  · -- whatever needed a P-CSCF still has it
    have hready : m.Ready → hasPcscf = true := fun hr => hkeeps.resolve_right fun hno => by
      rw [hr.2] at hno
      cases hno
    refine ⟨?_, ?_, ?_, fun hpos => ⟨rfl, hready (h.outstanding hpos)⟩, ?_⟩
    · intro hreg
      obtain ⟨hr, hcurrent⟩ := h.registered hreg
      exact ⟨⟨rfl, hready hr⟩, hcurrent⟩
    · intro item hitem hok
      obtain ⟨hr, hcurrent⟩ := h.queued item hitem hok
      exact ⟨⟨rfl, hready hr⟩, hcurrent⟩
    · intro p hp item hitem hok
      obtain ⟨hr, hcurrent⟩ := h.held p hp item hitem hok
      exact ⟨⟨rfl, hready hr⟩, hcurrent⟩
    · intro p hp
      obtain ⟨hle, hplanned⟩ := h.planned p hp
      exact ⟨hle, fun hcurrent hdo => ⟨rfl, hready (hplanned hcurrent hdo)⟩⟩
  · rename_i hchanged
    have hdown : ¬ m.Ready := fun hr => hchanged hr.1
    obtain ⟨hqueue, hheld⟩ := not_onItsWay_of_not_ready h hdown
    refine ⟨?_, ?_, ?_, nofun, ?_⟩
    · intro hreg
      exact absurd (h.registered hreg).1 hdown
    · intro item hitem hok
      rw [hqueue item hitem] at hok
      cases hok
    · intro p hp item hitem hok
      rw [hheld p hp item hitem] at hok
      cases hok
    · intro p hp
      have hle := (h.planned p hp).1
      exact ⟨Nat.le_succ_of_le hle, fun hcurrent => absurd hcurrent (by dsimp only; omega)⟩

theorem RegistrationInvariant.receiveIp (h : RegistrationInvariant m) (psi : Int) {packet : Bytes}
    (hanswers : isRegisterOk packet = true → 0 < m.outstanding) :
    RegistrationInvariant (machineReceiveIp m psi packet) := by
  rcases machineReceiveIp_eq m psi packet with heq | ⟨outstanding, hle, heq⟩
  · rw [heq]
    exact h
  · rw [heq]
    refine h.sameSession ⟨rfl, rfl, rfl, rfl, rfl⟩ ?_ h.held
      (fun hpos => h.outstanding (Nat.lt_of_lt_of_le hpos hle)) h.planned
    intro item hitem
    rcases List.mem_append.mp hitem with hitem | hitem
    · exact h.queued item hitem
    · intro hok
      rw [List.mem_singleton.mp hitem] at hok ⊢
      have hopen := hanswers hok
      refine ⟨h.outstanding hopen, ?_⟩
      simp [ImsMachine.Current, ImsMachine.receipt, hopen]

theorem RegistrationInvariant.step (h : RegistrationInvariant m) {e : ImsStep}
    (hstep : AnsweredInTime m e) : RegistrationInvariant (imsStep m e) := by
  cases e with
  | worker env => exact h.worker env
  | setPduActive active ipv4 hasPcscf pcscfIpv4 =>
    cases active with
    | false => exact h.setDown (hstep.1 rfl) ipv4 hasPcscf pcscfIpv4
    | true => exact h.setUp ipv4 (hstep.2 rfl) pcscfIpv4
  | setTxCallback set =>
    exact h.sameSession ⟨rfl, rfl, rfl, rfl, rfl⟩ h.queued h.held h.outstanding h.planned
  | setSmsDownlinkCallback set =>
    exact h.sameSession ⟨rfl, rfl, rfl, rfl, rfl⟩ h.queued h.held h.outstanding h.planned
  | submitSms pdu =>
    obtain ⟨next, queue, heq⟩ := imsStep_submitSms m pdu
    rw [heq]
    exact h.sameSession ⟨rfl, rfl, rfl, rfl, rfl⟩ h.queued h.held h.outstanding h.planned
  | receiveIp psi packet => exact h.receiveIp psi hstep
  | stop =>
    exact h.sameSession ⟨rfl, rfl, rfl, rfl, rfl⟩ h.queued h.held h.outstanding h.planned

end Calls

/-! ## Whole runs -/

theorem RegistrationInvariant.init (cfg : UeInstanceConfig) (enabled smsEnabled : Bool) :
    RegistrationInvariant (imsMachineInit cfg enabled smsEnabled) :=
  ⟨nofun, (fun _ hitem => nomatch hitem), (fun _ hp => nomatch hp), nofun, fun _ hp => nomatch hp⟩

/-- Along such steps `registered` keeps its promise in every state. -/
theorem imsRun_registeredSoundly (cfg : UeInstanceConfig) (enabled smsEnabled : Bool)
    (es : List ImsStep)
    (hsteps : Along imsStep AnsweredInTime (imsMachineInit cfg enabled smsEnabled) es) :
    ∀ pre, pre <+: es →
      RegisteredSoundly (run imsStep (imsMachineInit cfg enabled smsEnabled) pre) := by
  rintro pre ⟨post, rfl⟩
  have hpre := ((along_append imsStep AnsweredInTime _ pre post).mp hsteps).1
  have hinv := run_invariant (I := RegistrationInvariant) (fun _ _ h hstep => h.step hstep)
    (RegistrationInvariant.init cfg enabled smsEnabled) hpre
  exact hinv.registered

attribute [local irreducible] imsStep

theorem imsRun_registeredSoundly_answered :
    let es := firstRegister ++ [.receiveIp 5 registerOk, .worker { now := 2 }, .worker { now := 2 }]
    let m := run imsStep (imsMachineInit sampleConfig true true) es
    m.svc.registered = true ∧ RegisteredSoundly m :=
  ⟨by decide +kernel, imsRun_registeredSoundly _ _ _ _ (by decide +kernel) _ List.prefix_rfl⟩

/-- Before there is a PDU session a 200 response that nothing asked for registers. -/
theorem unsolicited_registers :
    ¬ ∀ (cfg : UeInstanceConfig) (enabled smsEnabled : Bool) (es : List ImsStep),
      RegisteredSoundly (run imsStep (imsMachineInit cfg enabled smsEnabled) es) := by
  simp only [not_forall]
  refine ⟨sampleConfig, true, true,
    [.receiveIp 5 registerOk, .worker { now := 1 }, .worker { now := 1 }], ?_⟩
  decide +kernel

end VirtualLte.Ims
