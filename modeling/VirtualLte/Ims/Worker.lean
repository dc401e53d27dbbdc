import VirtualLte.Ims.Service
import VirtualLte.Lib.Run

/-!
# The worker of the IMS service

The thread of `ims_service.c` and the threads that call into it, as one machine.

* The worker holds the lock to decide what to do, `workerSection`, and does it afterwards:
  a `WorkerPlan` is what it carries out of the lock, and each of its actions is a step of
  its own.  The calls of the other threads come in between.
* `imsStep` is the machine.  Its history counts the activations of the PDU session and the
  REGISTERs of the current one that are not answered yet.
-/

namespace VirtualLte.Ims

open Transition Engine

/-! ## State -/

/-- What the worker read under the lock and has still to do. -/
structure WorkerPlan where
  doRegister : Bool := false
  doRefresh : Bool := false
  refreshAuth : SipAuthChallenge := {}
  localIp : Ipv4 := Vector.replicate 4 0
  pcscfIp : Ipv4 := Vector.replicate 4 0
  txCb : Bool := false
  pduReady : Bool := false
  registered : Bool := false
  ip : Option ImsIpItem := none
  sms : Option ImsSmsItem := none
  /-- History: the activation in which it was made. -/
  activation : Nat := 0
  deriving DecidableEq, Repr

/-- History: the last 200 response to a REGISTER. -/
structure Grant where
  receipt : Receipt := {}
  /-- When it was handled. -/
  time : Nat := 0
  /-- The number in its Expires line, 0 if there is none. -/
  expires : Nat := 0
  deriving DecidableEq, Repr

structure ImsMachine where
  svc : ImsService
  plan : Option WorkerPlan := none
  /-- History: what was sent and what was offered to the host. -/
  log : List ImsEvent := []
  /-- History: how often the PDU session went up or down. -/
  activation : Nat := 0
  /-- History: REGISTERs sent for the current activation, less the final responses received. -/
  outstanding : Nat := 0
  grant : Grant := {}
  /-- History: a refresh was taken up since the last 200 response. -/
  refreshing : Bool := false
  deriving DecidableEq, Repr

/-! ## The worker -/

/-- The condition of the wait loop, besides `running`. -/
def nothingToDo (svc : ImsService) (now : Nat) : Bool :=
  svc.smsQueue.isEmpty && svc.ipQueue.isEmpty && !registerNeededLocked svc &&
    !registerRefreshNeededLocked svc now && !registerRetryNeededLocked svc now

/-- The worker is in its wait loop and stays there. -/
def waits (m : ImsMachine) (now : Nat) : Bool :=
  m.plan.isNone && m.svc.running && nothingToDo m.svc now

/-- A REGISTER that was not answered is forgotten when its time is up. -/
def rearmRegister (svc : ImsService) (now : Nat) : ImsService :=
  if registerRetryNeededLocked svc now then
    { svc with registerSent := false, registerAuthValid := false }
  else svc

/-- What is taken out of the lock. -/
def makePlan (svc : ImsService) (now activation : Nat) : WorkerPlan :=
  let doRegister := registerNeededLocked svc
  let doRefresh := registerRefreshNeededLocked svc now
  let pduReady := svc.pduActive && svc.hasPcscf
  let reads := doRegister || pduReady
  { doRegister
    doRefresh
    refreshAuth := if doRefresh then svc.registerAuth else {}
    localIp := if reads then svc.ipv4 else Vector.replicate 4 0
    pcscfIp := if reads then svc.pcscfIpv4 else Vector.replicate 4 0
    txCb := reads && svc.txCb
    pduReady
    registered := svc.registered
    ip := svc.ipQueue.head?
    sms := svc.smsQueue.head?
    activation }

/-- What is left under the lock. -/
def takeWork (svc : ImsService) (now : Nat) : ImsService :=
  let refreshMs := if registerRefreshNeededLocked svc now then 0 else svc.registerRefreshMs
  let svc' := { svc with registerRefreshMs := refreshMs, smsQueue := svc.smsQueue.tail
                         ipQueue := svc.ipQueue.tail }
  if registerNeededLocked svc then
    { svc' with
      registerSent := true, registerSentMs := now, registerAttempts := svc.registerAttempts + 1 }
  else svc'

/-- The critical section of the worker. -/
def workerSection (m : ImsMachine) (now : Nat) : ImsMachine :=
  if m.svc.running = false ∨ nothingToDo m.svc now = true then m
  else
    let svc := rearmRegister m.svc now
    { m with
      svc := takeWork svc now
      plan := some (makePlan svc now m.activation)
      refreshing := m.refreshing || registerRefreshNeededLocked svc now }

/-- The REGISTERs that were accepted for transmission. -/
def registersSent (events : List ImsEvent) : Nat :=
  events.countP fun
    | .tx .register _ rc => rc = 0
    | _ => false

/-- Note events; a REGISTER counts if it belongs to the current activation. -/
def ImsMachine.note (m : ImsMachine) (current : Bool) (events : List ImsEvent) : ImsMachine :=
  { m with
    log := m.log ++ events
    outstanding := m.outstanding + if current then registersSent events else 0 }

def workerRegister (m : ImsMachine) (p : WorkerPlan) (env : ImsEnv) : ImsMachine :=
  let sent := imsSendInitialRegister env m.svc.identity p.localIp p.pcscfIp p.txCb
  { m.note (p.activation = m.activation) sent.2 with plan := some { p with doRegister := false } }

/-- A refresh answers the stored challenge, if there is one, under the current addresses. -/
def workerRefresh (m : ImsMachine) (p : WorkerPlan) (env : ImsEnv) : ImsMachine :=
  let plan := some { p with doRefresh := false }
  if p.refreshAuth.nonce.length ≠ 0 then
    let sent := imsSendAuthorizedRegister env m.svc p.refreshAuth
    { m.note true sent.2.2 with svc := sent.1, plan }
  else
    let sent := imsSendInitialRegister env m.svc.identity p.localIp p.pcscfIp p.txCb
    { m.note (p.activation = m.activation) sent.2 with plan }

/-- The response that a packet is, if it answers a REGISTER. -/
def packetResponse (packet : Bytes) : Option RegisterResponse := sipPayload packet >>= registerResponse

/-- A packet that ends a REGISTER: a response to one that is not provisional. -/
def isFinalResponse (packet : Bytes) : Bool :=
  match sipPayload packet with
  | none => false
  | some payload =>
    (asciiText "SIP/2.0 ").isPrefixOf payload && 0x32 ≤ octet payload 8 && octet payload 8 ≤ 0x36 &&
      headerHasCseqMethod payload (asciiText "REGISTER")

/-- The number in the Expires line of a packet. -/
def packetExpires (packet : Bytes) : Nat :=
  match sipPayload packet with
  | none => 0
  | some payload =>
    ((headerDigits payload (asciiText "Expires:")).map
      (List.foldl (fun v c => v * 10 + (c - 0x30).toNat) 0)).getD 0

def workerRx (m : ImsMachine) (p : WorkerPlan) (item : ImsIpItem) (env : ImsEnv) : ImsMachine :=
  let handled := imsHandleRxIp env m.svc item.packet
  let accepted := packetResponse item.packet = some .ok
  { m.note true handled.2 with
    svc := handled.1
    plan := some { p with ip := none }
    grant := if accepted then ⟨item.receipt, env.now, packetExpires item.packet⟩ else m.grant
    refreshing := if accepted then false else m.refreshing }

def workerSms (m : ImsMachine) (p : WorkerPlan) (sms : ImsSmsItem) (env : ImsEnv) : ImsMachine :=
  let plan := some { p with sms := none }
  if p.registered = true ∧ p.pduReady = true then
    let sent := imsSendSmsMessage env m.svc sms p.localIp p.pcscfIp p.txCb
    { m.note true sent.2.2 with svc := sent.1, plan }
  else { m with plan }

/-- The next thing the worker does. -/
def workerStep (m : ImsMachine) (env : ImsEnv) : ImsMachine :=
  match m.plan with
  | none => workerSection m env.now
  | some p =>
    if p.doRegister then workerRegister m p env
    else if p.doRefresh then workerRefresh m p env
    else
      match p.ip with
      | some item => workerRx m p item env
      | none =>
        match p.sms with
        | some sms => workerSms m p sms env
        | none => { m with plan := none }

/-! ## The machine -/

inductive ImsStep where
  | worker (env : ImsEnv)
  | setPduActive (active : Bool) (ipv4 : Ipv4) (hasPcscf : Bool) (pcscfIpv4 : Ipv4)
  | setTxCallback (set : Bool)
  | setSmsDownlinkCallback (set : Bool)
  | submitSms (pdu : Bytes)
  | receiveIp (psi : Int) (packet : Bytes)
  | stop

/-- The session goes up or down with every change. -/
def machineSetPduActive (m : ImsMachine) (active : Bool) (ipv4 : Ipv4) (hasPcscf : Bool)
    (pcscfIpv4 : Ipv4) : ImsMachine :=
  let svc := imsServiceSetPduActive m.svc active ipv4 hasPcscf pcscfIpv4
  if m.svc.pduActive = active then { m with svc }
  else { m with svc, activation := m.activation + 1, outstanding := 0 }

def ImsMachine.receipt (m : ImsMachine) : Receipt := ⟨m.activation, 0 < m.outstanding⟩

def machineReceiveIp (m : ImsMachine) (psi : Int) (packet : Bytes) : ImsMachine :=
  match imsServiceReceiveIp m.svc { psi, packet, receipt := m.receipt } with
  | none => m
  | some svc =>
    { m with
      svc
      outstanding := m.outstanding - if isFinalResponse packet then 1 else 0 }

def imsStep (m : ImsMachine) : ImsStep → ImsMachine
  | .worker env => workerStep m env
  | .setPduActive active ipv4 hasPcscf pcscfIpv4 =>
    machineSetPduActive m active ipv4 hasPcscf pcscfIpv4
  | .setTxCallback set => { m with svc := { m.svc with txCb := set } }
  | .setSmsDownlinkCallback set => { m with svc := { m.svc with smsDlCb := set } }
  | .submitSms pdu =>
    match imsServiceSubmitSms m.svc pdu with
    | none => m
    | some (_, svc) => { m with svc }
  | .receiveIp psi packet => machineReceiveIp m psi packet
  | .stop => { m with svc := { m.svc with running := false } }

/-- The machine right after `ims_service_init`. -/
def imsMachineInit (cfg : UeInstanceConfig) (enabled smsEnabled : Bool) : ImsMachine :=
  { svc := imsServiceInit cfg enabled smsEnabled }

/-! ## A network to talk to -/

def sampleConfig : UeInstanceConfig where
  sim := ⟨true, asciiText "208930000000001", [], [], []⟩
  network := ⟨asciiText "208", asciiText "93", asciiText "internet", asciiText "ipv4", 1⟩
  ran := ⟨asciiText "127.0.0.1", 4997⟩

def sampleIp : Ipv4 := #v[10, 46, 0, 2]
def samplePcscf : Ipv4 := #v[10, 46, 0, 1]

/-- A packet of the P-CSCF. -/
def fromPcscf (sip : Bytes) : Bytes :=
  (imsIpBuildUdpIpv4 imsIpPacketMax samplePcscf sampleIp imsSipRemotePort imsSipLocalPort sip).getD []

/-- The network accepts a REGISTER. -/
def registerOk : Bytes :=
  fromPcscf (asciiText "SIP/2.0 200 OK\r\nCSeq: 1 REGISTER\r\nExpires: 600\r\n\r\n")

/-- The session comes up, and the worker sends its first REGISTER. -/
def firstRegister : List ImsStep :=
  [.setTxCallback true, .setPduActive true sampleIp true samplePcscf, .worker { now := 1 },
    .worker { now := 1 }, .worker { now := 1 }]

end VirtualLte.Ims
