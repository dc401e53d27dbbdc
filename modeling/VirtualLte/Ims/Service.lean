import VirtualLte.Ims.Ip
import VirtualLte.Ims.RpData
import VirtualLte.Ims.Sip

/-!
# The IMS service

`ims_service.c` without its thread: the state under the lock, the functions that other
threads call, and what the worker does with a packet.

* A function that sends returns the calls it makes as `ImsEvent`s, next to the new state;
  `ImsEnv` is what it gets from outside.
* `imsHandleSipMessage` is an incoming SMS, `imsHandleRxIp` any packet of the P-CSCF.
* The three `register…NeededLocked` conditions decide when a REGISTER is due.
-/

namespace VirtualLte.Ims

open Engine

def imsSmsQueueRoom : Nat := 15
def imsSmsPduMax : Nat := 512
def imsIpQueueRoom : Nat := 31
def imsIpPacketMax : Nat := 2048
def imsRegisterExpiresSeconds : Nat := 600
def imsRegisterRefreshMarginSeconds : Nat := 60
def imsRegisterRetryMs : Nat := 4000
def imsRegisterMaxAttempts : Nat := 5

/-! ## State -/

structure ImsSmsItem where
  reference : UInt32
  pdu : Bytes
  deriving DecidableEq, Repr

/-- History: when a packet was received, counted in activations of the PDU session, and
whether an answer to a REGISTER of that activation was awaited. -/
structure Receipt where
  activation : Nat := 0
  solicited : Bool := false
  deriving DecidableEq, Repr

structure ImsIpItem where
  psi : Int
  packet : Bytes
  receipt : Receipt
  deriving DecidableEq, Repr

structure ImsService where
  enabled : Bool := false
  smsEnabled : Bool := false
  running : Bool := false
  registered : Bool := false
  pduActive : Bool := false
  hasPcscf : Bool := false
  registerSent : Bool := false
  registerAuthValid : Bool := false
  registerRefreshMs : Nat := 0
  registerSentMs : Nat := 0
  registerAttempts : Nat := 0
  ipv4 : Ipv4 := Vector.replicate 4 0
  pcscfIpv4 : Ipv4 := Vector.replicate 4 0
  /-- The callbacks are set. -/
  txCb : Bool := false
  smsDlCb : Bool := false
  nextSmsReference : UInt32 := 1
  nextSipCseq : UInt32 := 2
  identity : ImsIdentity := {}
  registerAuth : SipAuthChallenge := {}
  /-- `last_mt_rpdu[0..last_mt_rpdu_len)`. -/
  lastMtRpdu : Bytes := []
  smsQueue : List ImsSmsItem := []
  ipQueue : List ImsIpItem := []
  deriving DecidableEq, Repr

/-- A new service; its worker runs if it is enabled. -/
def imsServiceInit (cfg : UeInstanceConfig) (enabled smsEnabled : Bool) : ImsService :=
  { enabled, smsEnabled, running := enabled, identity := imsBuildIdentity cfg }

/-! ## Environment and events -/

inductive ImsTxKind where
  | register
  | messageOk
  /-- The RP-ACK of an RPDU. -/
  | rpAck (rpdu : Bytes)
  | sms (reference : UInt32)
  deriving DecidableEq, Repr

/-- What became of an SMS that was offered to the host. -/
inductive Handover where
  | accepted
  | refused
  /-- There is no callback. -/
  | absent
  deriving DecidableEq, Repr

inductive ImsEvent where
  /-- The transmit callback was called. -/
  | tx (kind : ImsTxKind) (packet : Bytes) (rc : Int)
  | offered (rpdu pdu : Bytes) (handover : Handover)
  /-- The SMS was taken for one that was offered before. -/
  | suppressed (rpdu : Bytes)
  deriving DecidableEq, Repr

/-- The clock, the answers of the callbacks, eight random octets, and what stands in memory
behind a buffer. -/
structure ImsEnv where
  now : Nat := 0
  txAnswer : ImsTxKind → Int := fun _ => 0
  smsAnswer : Int := 0
  entropy : Vector UInt8 8 := Vector.replicate 8 0
  outside : Nat → UInt8 := fun _ => 0

/-- Send a packet that could be built. -/
def imsTransmit (env : ImsEnv) (kind : ImsTxKind) : Option Bytes → Int × List ImsEvent
  | none => (-1, [])
  | some packet => (env.txAnswer kind, [.tx kind packet (env.txAnswer kind)])

/-- The PDU session is there and packets can be sent. -/
def txReadyLocked (svc : ImsService) : Bool := svc.pduActive && svc.hasPcscf && svc.txCb

/-- A SIP text in a packet to the P-CSCF. -/
def sipPacket (outLen : Nat) (localIp pcscfIp : Ipv4) (sip : Bytes) : Option Bytes :=
  imsIpBuildUdpIpv4 outLen localIp pcscfIp imsSipLocalPort imsSipRemotePort sip

/-! ## Incoming SMS -/

def imsSendSipMessageOk (env : ImsEnv) (svc : ImsService) (hdr : Bytes) : List ImsEvent :=
  match messageOkText hdr with
  | none => []
  | some sip =>
    if txReadyLocked svc = false ∨ sip.length ≥ 2048 then []
    else (imsTransmit env .messageOk (sipPacket 2200 svc.ipv4 svc.pcscfIpv4 sip)).2

/-- What is read from a buffer of `size` octets that was given a text: behind a text that
does not fit, the terminator and whatever follows the buffer. -/
def readBack (size : Nat) (outside : Nat → UInt8) (text : Bytes) : Bytes :=
  if text.length < size then text
  else text.take (size - 1) ++ [0] ++ (List.range' size (text.length - size)).map outside

/-- RP-ACK with an empty SMS-DELIVER-REPORT. -/
def rpAckBody (rpMr : UInt8) : Bytes := [0x02, rpMr, 0x41, 0x02, 0x00, 0x00]

/-- Acknowledge the RPDU of a MESSAGE to its sender. -/
def imsSendRpAck (env : ImsEnv) (svc : ImsService) (hdr rpdu : Bytes) (rpMr : UInt8) :
    ImsService × List ImsEvent :=
  match headerCopyLine hdr (asciiText "From:") 256 with
  | none => (svc, [])
  | some fromLine =>
    let origUri := imsExtractAngleUri fromLine 200
    if origUri.length = 0 ∨ txReadyLocked svc = false then (svc, [])
    else
      let text := messageText svc.identity svc.ipv4 origUri (asciiText "rpack") svc.nextSipCseq
        svc.nextSipCseq 6
      let svc' := { svc with nextSipCseq := svc.nextSipCseq + 1 }
      if text.length + 6 > 1024 then (svc', [])
      else
        let sip := readBack 768 env.outside text ++ rpAckBody rpMr
        (svc', (imsTransmit env (.rpAck rpdu) (sipPacket 1280 svc.ipv4 svc.pcscfIpv4 sip)).2)

/-- The header and the body of a MESSAGE with an SMS. -/
def sipSmsMessage (payload : Bytes) : Option (Bytes × Bytes) :=
  if (asciiText "MESSAGE ").isPrefixOf payload = false then none
  else
    match findBytes payload (asciiText "\r\n\r\n") with
    | none => none
    | some hdrLen =>
      let hdr := payload.take hdrLen
      let body := payload.drop (hdrLen + 4)
      if headerHasContentTypeSms hdr = false then none
      else
        match headerGetContentLength hdr with
        | none => none
        | some contentLen =>
          if contentLen = 0 ∨ contentLen > body.length then none
          else some (hdr, body.take contentLen)

/-- The same RPDU as the last one; only RPDUs of up to 256 octets are remembered. -/
def isDuplicateRpdu (svc : ImsService) (rpdu : Bytes) : Bool :=
  rpdu.length ≤ 256 && rpdu = svc.lastMtRpdu

def smsHandover (env : ImsEnv) (svc : ImsService) : Handover :=
  if svc.smsDlCb = false then .absent else if env.smsAnswer = 0 then .accepted else .refused

/-- A new SMS is offered to the host and acknowledged; one that came before is only
acknowledged again. -/
def imsDeliverRpdu (env : ImsEnv) (svc : ImsService) (hdr rpdu pdu : Bytes) (rpMr : UInt8) :
    ImsService × List ImsEvent :=
  if isDuplicateRpdu svc rpdu then
    let (svc, events) := imsSendRpAck env svc hdr rpdu rpMr
    (svc, .suppressed rpdu :: events)
  else
    let svc := if rpdu.length ≤ 256 then { svc with lastMtRpdu := rpdu } else svc
    let handover := smsHandover env svc
    let (svc, events) := imsSendRpAck env svc hdr rpdu rpMr
    (svc, .offered rpdu pdu handover :: events)

def imsHandleSipMessage (env : ImsEnv) (svc : ImsService) (payload : Bytes) :
    ImsService × List ImsEvent :=
  match sipSmsMessage payload with
  | none => (svc, [])
  | some (hdr, rpdu) =>
    let ok := imsSendSipMessageOk env svc hdr
    match imsRpDataToMbimPdu rpdu (imsSmsPduMax + 16) with
    | none => (svc, ok)
    | some (pdu, rpMr) =>
      let (svc, events) := imsDeliverRpdu env svc hdr rpdu pdu rpMr
      (svc, ok ++ events)

/-! ## When a REGISTER is due -/

def registrarKnown (svc : ImsService) : Bool := svc.enabled && svc.pduActive && svc.hasPcscf

def registerNeededLocked (svc : ImsService) : Bool :=
  registrarKnown svc && !svc.registered && !svc.registerSent

def registerRefreshNeededLocked (svc : ImsService) (now : Nat) : Bool :=
  registrarKnown svc && svc.registered && 0 < svc.registerRefreshMs && svc.registerRefreshMs ≤ now

/-- An unanswered REGISTER will be repeated. -/
def registerRetryArmed (svc : ImsService) : Bool :=
  registrarKnown svc && !svc.registered && svc.registerSent && 0 < svc.registerSentMs &&
    svc.registerAttempts < imsRegisterMaxAttempts

def registerRetryNeededLocked (svc : ImsService) (now : Nat) : Bool :=
  registerRetryArmed svc && svc.registerSentMs + imsRegisterRetryMs ≤ now

/-- The earliest deadline the worker wakes up for. -/
def nextRegisterRefreshDeadlineLocked (svc : ImsService) : Option Nat :=
  let refresh :=
    if registrarKnown svc && svc.registered && 0 < svc.registerRefreshMs then
      some svc.registerRefreshMs
    else none
  if registerRetryArmed svc then
    let retry := svc.registerSentMs + imsRegisterRetryMs
    match refresh with
    | none => some retry
    | some best => some (if retry < best then retry else best)
  else refresh

/-! ## REGISTER -/

/-- An unauthorized REGISTER under addresses that were read before. -/
def imsSendInitialRegister (env : ImsEnv) (identity : ImsIdentity) (localIp pcscfIp : Ipv4)
    (txCb : Bool) : Int × List ImsEvent :=
  if txCb = false then (-1, [])
  else
    match imsBuildContactUri identity localIp 256 with
    | none => (-1, [])
    | some contactUri =>
      let sip := registerText identity localIp contactUri (asciiText "1") 1
        (emptyAuthorization identity)
      if sip.length ≥ 1600 then (-1, [])
      else imsTransmit env .register (sipPacket 1800 localIp pcscfIp sip)

def isDigestAlgorithm (algorithm : Bytes) : Bool :=
  algorithm.map asciiLower = asciiText "akav1-md5" || algorithm.map asciiLower = asciiText "md5"

/-- A REGISTER that answers a challenge. -/
def imsSendAuthorizedRegister (env : ImsEnv) (svc : ImsService) (challenge : SipAuthChallenge) :
    ImsService × Int × List ImsEvent :=
  if isDigestAlgorithm challenge.algorithm = false then (svc, -1, [])
  else
    match imsComputeAkaRes svc.identity challenge.nonce with
    | none => (svc, -1, [])
    | some res =>
      if txReadyLocked svc = false then (svc, -1, [])
      else
        let svc' := { svc with nextSipCseq := svc.nextSipCseq + 1 }
        match imsBuildContactUri svc.identity svc.ipv4 256 with
        | none => (svc', -1, [])
        | some contactUri =>
          let cnonce := hexText env.entropy.toList
          let cseq := svc.nextSipCseq.toNat
          let sip := registerText svc.identity svc.ipv4 contactUri
            (asciiText "auth-" ++ decimalText cseq) cseq
            (digestAuthorization svc.identity challenge res cnonce)
          if sip.length ≥ 1600 then (svc', -1, [])
          else (svc', imsTransmit env .register (sipPacket 2048 svc.ipv4 svc.pcscfIpv4 sip))

/-! ## Packets of the P-CSCF -/

inductive RegisterResponse where
  | ok
  | challenged
  deriving DecidableEq, Repr

/-- The SIP text of a packet between the two SIP ports. -/
def sipPayload (packet : Bytes) : Option Bytes :=
  match imsIpParseUdpIpv4 packet with
  | none => none
  | some udp =>
    if udp.srcPort ≠ imsSipRemotePort ∨ udp.dstPort ≠ imsSipLocalPort then none
    else some udp.payload

/-- A response to a REGISTER, by its status and its CSeq line. -/
def registerResponse (payload : Bytes) : Option RegisterResponse :=
  if (asciiText "SIP/2.0 200").isPrefixOf payload &&
      headerHasCseqMethod payload (asciiText "REGISTER") then
    some .ok
  else if (asciiText "SIP/2.0 401").isPrefixOf payload &&
      headerHasCseqMethod payload (asciiText "REGISTER") then
    some .challenged
  else none

/-- When the registration is refreshed: a margin before its expiry.  An expiry inside the
margin is replaced by the one that was asked for. -/
def refreshDeadline (now expires : Nat) : Nat :=
  let expires :=
    if expires ≤ imsRegisterRefreshMarginSeconds then imsRegisterExpiresSeconds else expires
  now + (expires - imsRegisterRefreshMarginSeconds) * 1000

/-- A 200 response registers, whatever the state. -/
def imsRegisterAccepted (env : ImsEnv) (svc : ImsService) (payload : Bytes) : ImsService :=
  let expires := (headerGetUint payload (asciiText "Expires:")).getD 0
  { svc with
    registered := true
    registerSent := false
    registerSentMs := 0
    registerAttempts := 0
    registerRefreshMs := refreshDeadline env.now expires }

/-- A 401 response is answered if its challenge can be. -/
def imsRegisterChallenged (env : ImsEnv) (svc : ImsService) (payload : Bytes) :
    ImsService × List ImsEvent :=
  match parseWwwAuthenticate payload with
  | none => (svc, [])
  | some challenge =>
    let svc := { svc with registerAuth := challenge, registerAuthValid := true }
    let (svc, rc, events) := imsSendAuthorizedRegister env svc challenge
    if rc = 0 then ({ svc with registerSent := true, registerSentMs := env.now }, events)
    else (svc, events)

def imsHandleRxIp (env : ImsEnv) (svc : ImsService) (packet : Bytes) : ImsService × List ImsEvent :=
  match sipPayload packet with
  | none => (svc, [])
  | some payload =>
    let (svc, events) := imsHandleSipMessage env svc payload
    match registerResponse payload with
    | some .ok => (imsRegisterAccepted env svc payload, events)
    | some .challenged =>
      let (svc, more) := imsRegisterChallenged env svc payload
      (svc, events ++ more)
    | none => (svc, events)

/-! ## Outgoing SMS -/

/-- The subscriber an SMS goes to; without one, the own identity. -/
def smsRequestUri (identity : ImsIdentity) (pdu : Bytes) : Bytes :=
  match imsSmsExtractDestination pdu 64 with
  | some dst =>
    snprintf 200 (asciiText "sip:" ++ dst ++ asciiText "@" ++ identity.realm ++
      asciiText ";user=phone")
  | none => snprintf 200 identity.preferredImpu

def imsSendSmsMessage (env : ImsEnv) (svc : ImsService) (sms : ImsSmsItem) (localIp pcscfIp : Ipv4)
    (txCb : Bool) : ImsService × Int × List ImsEvent :=
  if txCb = false ∨ sms.pdu.length > imsSmsPduMax then (svc, -1, [])
  else
    match imsBuildRpData sms.pdu sms.reference.toUInt8 (imsSmsPduMax + 16) with
    | none => (svc, -1, [])
    | some rpdu =>
      let svc' := { svc with nextSipCseq := svc.nextSipCseq + 1 }
      let header := messageText svc.identity localIp (smsRequestUri svc.identity sms.pdu)
        (asciiText "sms") sms.reference svc.nextSipCseq rpdu.length
      if header.length ≥ 1024 ∨ header.length + rpdu.length > 1600 then (svc', -1, [])
      else
        (svc', imsTransmit env (.sms sms.reference) (sipPacket 2048 localIp pcscfIp (header ++ rpdu)))

/-! ## Calls of other threads -/

def imsServiceSetPduActive (svc : ImsService) (active : Bool) (ipv4 : Ipv4) (hasPcscf : Bool)
    (pcscfIpv4 : Ipv4) : ImsService :=
  let changed := svc.pduActive != active
  let svc :=
    if changed || !active then
      { svc with registerSent := false, registerSentMs := 0, registerAttempts := 0 }
    else svc
  let svc :=
    if active then svc
    else
      { svc with
        registered := false, registerAuthValid := false, registerRefreshMs := 0
        registerAuth := {}, smsQueue := [], ipQueue := [] }
  { svc with
    pduActive := active
    ipv4 := if active then ipv4 else svc.ipv4
    hasPcscf := active && hasPcscf
    pcscfIpv4 := if active && hasPcscf then pcscfIpv4 else svc.pcscfIpv4 }

/-- Queue an SMS of the host; its reference, or `none` if it is refused. -/
def imsServiceSubmitSms (svc : ImsService) (pdu : Bytes) : Option (UInt32 × ImsService) :=
  if pdu.length = 0 ∨ svc.enabled = false ∨ svc.smsEnabled = false ∨ pdu.length > imsSmsPduMax then
    none
  else if svc.registered = false ∨ svc.smsQueue.length ≥ imsSmsQueueRoom then none
  else
    let reference := svc.nextSmsReference
    some (reference,
      { svc with
        nextSmsReference := reference + 1
        smsQueue := svc.smsQueue ++ [{ reference, pdu }] })

/-- Queue a packet of the IMS session; `none` if it is refused. -/
def imsServiceReceiveIp (svc : ImsService) (item : ImsIpItem) : Option ImsService :=
  if item.packet.length = 0 ∨ svc.enabled = false ∨ item.packet.length > imsIpPacketMax then none
  else if svc.ipQueue.length ≥ imsIpQueueRoom then none
  else some { svc with ipQueue := svc.ipQueue ++ [item] }

end VirtualLte.Ims
