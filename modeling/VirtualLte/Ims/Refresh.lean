import VirtualLte.Ims.WorkerSteps

/-!
# Keeping the registration alive

A 200 response says how long the registration lasts, and the worker sends another REGISTER
before that.  It forgets the deadline as it takes up the refresh, and it repeats only a
REGISTER that was sent while it was not registered.

* `KeptAlive` is what a registered worker should wait with: a deadline before the expiry, or
  an open REGISTER that will be repeated.
* `RefreshAnswered` are the waits on which it does: no refresh was taken up since the last
  200 response, and that response does not expire within the margin.
* `RefreshInvariant` ties the deadline to that response.
* `imsRun_keptAlive_iff`: on a run the worker waits like that if and only if these are its
  waits.
-/

namespace VirtualLte.Ims

open Transition Engine

/-! ## What the worker should wait with -/

/-- When the registration that the last 200 response granted is over. -/
def Grant.expiry (g : Grant) : Nat := g.time + g.expires * 1000

/-- The worker wakes up before the registration is over. -/
def refreshInTime (m : ImsMachine) : Bool :=
  match nextRegisterRefreshDeadlineLocked m.svc with
  | none => false
  | some deadline => m.grant.expires = 0 || deadline < m.grant.expiry

def KeptAlive (m : ImsMachine) : Prop :=
  refreshInTime m = true ∨ registerRetryArmed m.svc = true ∧ 0 < m.outstanding

/-- The worker waits, and the service is registered. -/
def waitsRegistered (m : ImsMachine) (now : Nat) : Bool :=
  waits m now && m.svc.registered && m.svc.pduActive && m.svc.hasPcscf

def WaitsKeptAlive (m : ImsMachine) : ImsStep → Prop
  | .worker env => waitsRegistered m env.now = true → KeptAlive m
  | .setPduActive .. | .setTxCallback _ | .setSmsDownlinkCallback _ | .submitSms _
  | .receiveIp .. | .stop => True

/-! ## The waits on which it does -/

/-- The last 200 response is in force: it was not followed by a refresh, and its expiry is
outside the margin or not given. -/
def GrantInForce (m : ImsMachine) : Prop :=
  m.refreshing = false ∧
    (m.grant.expires = 0 ∨ imsRegisterRefreshMarginSeconds < m.grant.expires)

def RefreshAnswered (m : ImsMachine) : ImsStep → Prop
  | .worker env => waitsRegistered m env.now = true → GrantInForce m
  | .setPduActive .. | .setTxCallback _ | .setSmsDownlinkCallback _ | .submitSms _
  | .receiveIp .. | .stop => True

instance (m : ImsMachine) : Decidable (KeptAlive m) := inferInstanceAs (Decidable (_ ∨ _))

instance (m : ImsMachine) : ∀ e, Decidable (WaitsKeptAlive m e)
  | .worker _ => inferInstanceAs (Decidable (_ → _))
  | .setPduActive .. | .setTxCallback _ | .setSmsDownlinkCallback _ | .submitSms _
  | .receiveIp .. | .stop => isTrue trivial

/-! ## The deadline -/

/-- Reducing after every digit or once at the end is the same. -/
theorem digitsValue_eq (width : Nat) (digits : Bytes) :
    digitsValue width digits =
      digits.foldl (fun v c => v * 10 + (c - 0x30).toNat) 0 % 2 ^ width := by
  have hhom : digits.foldl (fun v c => (v * 10 + (c - 0x30).toNat) % 2 ^ width) (0 % 2 ^ width) =
      digits.foldl (fun v c => v * 10 + (c - 0x30).toNat) 0 % 2 ^ width := by
    refine List.foldl_hom (· % 2 ^ width) fun v c => ?_
    rw [Nat.add_mod, Nat.mul_mod, Nat.mod_mod, ← Nat.mul_mod, ← Nat.add_mod]
  rw [Nat.zero_mod] at hhom
  exact hhom

/-- The service reads the number of the Expires line in 32 bits. -/
theorem headerGetUint_expires {packet payload : Bytes} (h : sipPayload packet = some payload) :
    (headerGetUint payload (asciiText "Expires:")).getD 0 = packetExpires packet % 2 ^ 32 := by
  unfold headerGetUint packetExpires
  rw [h]
  dsimp only
  cases headerDigits payload (asciiText "Expires:") with
  | none => rfl
  | some digits => exact digitsValue_eq 32 digits

theorem refreshDeadline_pos (now expires : Nat) : 0 < refreshDeadline now expires := by
  unfold refreshDeadline
  dsimp only
  split <;> simp only [imsRegisterRefreshMarginSeconds, imsRegisterExpiresSeconds] at * <;> omega

/-- The deadline is before the expiry unless that is inside the margin; a number that does
not fit into 32 bits only makes it earlier. -/
theorem refreshDeadline_lt_iff {now expires : Nat} (hpos : 0 < expires) :
    refreshDeadline now (expires % 2 ^ 32) < now + expires * 1000 ↔
      imsRegisterRefreshMarginSeconds < expires := by
  unfold refreshDeadline
  dsimp only
  split <;> simp only [imsRegisterRefreshMarginSeconds, imsRegisterExpiresSeconds] at * <;> omega

theorem nextRegisterRefreshDeadlineLocked_registered {svc : ImsService}
    (hknown : registrarKnown svc = true) (hregistered : svc.registered = true) :
    nextRegisterRefreshDeadlineLocked svc =
      if 0 < svc.registerRefreshMs then some svc.registerRefreshMs else none := by
  simp [nextRegisterRefreshDeadlineLocked, registerRetryArmed, hknown, hregistered]

/-! ## The invariant -/

/-- A registered service has the deadline of the last 200 response, until the worker takes
up the refresh. -/
structure RefreshInvariant (m : ImsMachine) : Prop where
  enabled : m.svc.running = true → m.svc.enabled = true
  deadline : m.svc.registered = true → m.svc.registerRefreshMs =
    if m.refreshing then 0 else refreshDeadline m.grant.time (m.grant.expires % 2 ^ 32)

section Steps

variable {m m' : ImsMachine}

/-- The registration and its deadline are as before. -/
structure SameRegistration (m m' : ImsMachine) : Prop where
  running : m'.svc.running = true → m.svc.running = true
  enabled : m'.svc.enabled = m.svc.enabled
  registered : m'.svc.registered = m.svc.registered
  refreshMs : m'.svc.registerRefreshMs = m.svc.registerRefreshMs
  grant : m'.grant = m.grant
  refreshing : m'.refreshing = m.refreshing

theorem RefreshInvariant.same (h : RefreshInvariant m) (hsame : SameRegistration m m') :
    RefreshInvariant m' where
  enabled hrunning := by
    rw [hsame.enabled]
    exact h.enabled (hsame.running hrunning)
  deadline hregistered := by
    rw [hsame.refreshMs, hsame.refreshing, hsame.grant]
    exact h.deadline (hsame.registered.symm.trans hregistered)

/-- Under the lock the deadline is dropped if the refresh is due. -/
theorem RefreshInvariant.workerSection (h : RefreshInvariant m) (now : Nat) :
    RefreshInvariant (workerSection m now) := by
  unfold Ims.workerSection
  split
  · exact h
  · obtain ⟨sent, authValid, hrearm⟩ := rearmRegister_eq m.svc now
    have hneeded : registerRefreshNeededLocked (rearmRegister m.svc now) now =
        registerRefreshNeededLocked m.svc now := by
      rw [hrearm]
      rfl
    obtain ⟨_, _, _, _, hsvc⟩ := takeWork_eq m.svc now
    dsimp only
    rw [hsvc, hneeded]
    refine ⟨h.enabled, fun hregistered => ?_⟩
    dsimp only
    cases registerRefreshNeededLocked m.svc now with
    | true => simp
    | false => simpa using h.deadline hregistered

theorem RefreshInvariant.workerRefresh (h : RefreshInvariant m) (p : WorkerPlan) (env : ImsEnv) :
    RefreshInvariant (workerRefresh m p env) := by
  unfold Ims.workerRefresh
  dsimp only
  split
  · obtain ⟨⟨cseq, hsvc⟩, -⟩ := imsSendAuthorizedRegister_calls env m.svc p.refreshAuth
    rw [hsvc]
    exact h.same ⟨id, rfl, rfl, rfl, rfl, rfl⟩
  · exact h.same ⟨id, rfl, rfl, rfl, rfl, rfl⟩

/-- A 200 response sets the deadline; no other packet touches it. -/
theorem RefreshInvariant.workerRx (h : RefreshInvariant m) (p : WorkerPlan) (item : ImsIpItem)
    (env : ImsEnv) : RefreshInvariant (workerRx m p item env) := by
  by_cases hok : packetResponse item.packet = some .ok
  · obtain ⟨payload, cseq, last, hpayload, hsvc⟩ := imsHandleRxIp_ok env m.svc hok
    simp only [Ims.workerRx, hsvc, hok, if_true]
    refine ⟨h.enabled, fun _ => ?_⟩
    simp only [imsRegisterAccepted, headerGetUint_expires hpayload, Bool.false_eq_true, if_false]
  · obtain ⟨cseq, last, auth, authValid, sent, sentMs, hsvc⟩ := imsHandleRxIp_other env m.svc hok
    simp only [Ims.workerRx, hsvc, hok, if_false]
    exact h.same ⟨id, rfl, rfl, rfl, rfl, rfl⟩

theorem RefreshInvariant.workerSms (h : RefreshInvariant m) (p : WorkerPlan) (sms : ImsSmsItem)
    (env : ImsEnv) : RefreshInvariant (workerSms m p sms env) := by
  unfold Ims.workerSms
  dsimp only
  split
  · obtain ⟨⟨cseq, hsvc⟩, -⟩ := imsSendSmsMessage_calls env m.svc sms p.localIp p.pcscfIp p.txCb
    rw [hsvc]
    exact h.same ⟨id, rfl, rfl, rfl, rfl, rfl⟩
  · exact h.same ⟨id, rfl, rfl, rfl, rfl, rfl⟩

theorem RefreshInvariant.worker (h : RefreshInvariant m) (env : ImsEnv) :
    RefreshInvariant (workerStep m env) := by
  apply workerStep_cases
  case hsection => exact fun _ => h.workerSection env.now
  case hregister =>
    intro p _ _
    exact h.same ⟨id, rfl, rfl, rfl, rfl, rfl⟩
  case hrefresh =>
    intro p _ _
    exact h.workerRefresh p env
  case hrx =>
    intro p _ _ item _
    exact h.workerRx p item env
  case hsms =>
    intro p _ sms _
    exact h.workerSms p sms env
  case hdone => exact fun _ _ _ => h.same ⟨id, rfl, rfl, rfl, rfl, rfl⟩

theorem RefreshInvariant.setPduActive (h : RefreshInvariant m) (active : Bool) (ipv4 : Ipv4)
    (hasPcscf : Bool) (pcscfIpv4 : Ipv4) :
    RefreshInvariant (machineSetPduActive m active ipv4 hasPcscf pcscfIpv4) := by
  unfold machineSetPduActive
  cases active with
  | true =>
    obtain ⟨sent, sentMs, attempts, pcscf, hsvc⟩ :=
      imsServiceSetPduActive_up m.svc ipv4 hasPcscf pcscfIpv4
    rw [hsvc]
    dsimp only
    split
    · exact h.same ⟨id, rfl, rfl, rfl, rfl, rfl⟩
    · exact h.same ⟨id, rfl, rfl, rfl, rfl, rfl⟩
  | false =>
    rw [imsServiceSetPduActive_down]
    dsimp only
    split
    · exact ⟨h.enabled, nofun⟩
    · exact ⟨h.enabled, nofun⟩

theorem RefreshInvariant.step (h : RefreshInvariant m) (e : ImsStep) :
    RefreshInvariant (imsStep m e) := by
  cases e with
  | worker env => exact h.worker env
  | setPduActive active ipv4 hasPcscf pcscfIpv4 =>
    exact h.setPduActive active ipv4 hasPcscf pcscfIpv4
  | setTxCallback set => exact h.same ⟨id, rfl, rfl, rfl, rfl, rfl⟩
  | setSmsDownlinkCallback set => exact h.same ⟨id, rfl, rfl, rfl, rfl, rfl⟩
  | submitSms pdu =>
    obtain ⟨next, queue, heq⟩ := imsStep_submitSms m pdu
    rw [heq]
    exact h.same ⟨id, rfl, rfl, rfl, rfl, rfl⟩
  | receiveIp psi packet =>
    simp only [imsStep]
    rcases machineReceiveIp_eq m psi packet with heq | ⟨outstanding, -, heq⟩
    · rw [heq]
      exact h
    · rw [heq]
      exact h.same ⟨id, rfl, rfl, rfl, rfl, rfl⟩
  | stop => exact h.same ⟨fun h => (by cases h), rfl, rfl, rfl, rfl, rfl⟩

/-- A registered worker waits with a deadline before the expiry exactly while the last 200
response is in force; a REGISTER is not repeated while it is registered. -/
theorem RefreshInvariant.keptAlive_iff (h : RefreshInvariant m) {now : Nat}
    (hwaits : waitsRegistered m now = true) : KeptAlive m ↔ GrantInForce m := by
  simp only [waitsRegistered, waits, Bool.and_eq_true] at hwaits
  obtain ⟨⟨⟨⟨⟨-, hrunning⟩, -⟩, hregistered⟩, hactive⟩, hpcscf⟩ := hwaits
  have hknown : registrarKnown m.svc = true := by
    simp [registrarKnown, h.enabled hrunning, hactive, hpcscf]
  have hretry : registerRetryArmed m.svc = false := by
    simp [registerRetryArmed, hregistered]
  have hdeadline := h.deadline hregistered
  unfold KeptAlive refreshInTime GrantInForce
  rw [hretry, nextRegisterRefreshDeadlineLocked_registered hknown hregistered, hdeadline]
  cases m.refreshing with
  | true => simp
  | false =>
    simp only [Bool.false_eq_true, if_false, refreshDeadline_pos, if_true, false_and, or_false,
      true_and, Bool.or_eq_true, decide_eq_true_eq]
    rcases Nat.eq_zero_or_pos m.grant.expires with hzero | hpos
    · simp [hzero]
    · rw [Grant.expiry, refreshDeadline_lt_iff hpos]

end Steps

/-! ## Whole runs -/

theorem RefreshInvariant.init (cfg : UeInstanceConfig) (enabled smsEnabled : Bool) :
    RefreshInvariant (imsMachineInit cfg enabled smsEnabled) :=
  ⟨id, nofun⟩

theorem RefreshInvariant.waits_iff {m : ImsMachine} (h : RefreshInvariant m) (e : ImsStep) :
    WaitsKeptAlive m e ↔ RefreshAnswered m e := by
  cases e with
  | worker env =>
    exact ⟨fun hkept hwaits => (h.keptAlive_iff hwaits).mp (hkept hwaits),
      fun hforce hwaits => (h.keptAlive_iff hwaits).mpr (hforce hwaits)⟩
  | setPduActive | setTxCallback | setSmsDownlinkCallback | submitSms | receiveIp | stop =>
    exact Iff.rfl

/-- On a run the worker always waits with the registration kept alive if and only if it
always waits with the last 200 response in force. -/
theorem imsRun_keptAlive_iff (cfg : UeInstanceConfig) (enabled smsEnabled : Bool)
    (es : List ImsStep) :
    Along imsStep WaitsKeptAlive (imsMachineInit cfg enabled smsEnabled) es ↔
      Along imsStep RefreshAnswered (imsMachineInit cfg enabled smsEnabled) es := by
  have hinit := RefreshInvariant.init cfg enabled smsEnabled
  constructor
  · exact along_of_invariant (fun _ e h _ => RefreshInvariant.step h e)
      (fun _ e h => (h.waits_iff e).mp) hinit
  · exact along_of_invariant (fun _ e h _ => RefreshInvariant.step h e)
      (fun _ e h => (h.waits_iff e).mpr) hinit

/-- The refresh is sent and its answer is lost: the worker stays registered and waits for
nothing. -/
theorem refreshLost_unscheduled :
    ¬ ∀ (cfg : UeInstanceConfig) (enabled smsEnabled : Bool) (es : List ImsStep),
      Along imsStep WaitsKeptAlive (imsMachineInit cfg enabled smsEnabled) es := by
  simp only [not_forall]
  refine ⟨sampleConfig, true, true, firstRegister ++
    [.receiveIp 5 registerOk, .worker { now := 2 }, .worker { now := 2 }, .worker { now := 2 },
      .worker { now := 540002 }, .worker { now := 540002 }, .worker { now := 540002 },
      .worker { now := 540003 }], ?_⟩
  decide +kernel

end VirtualLte.Ims
