import VirtualLte.Engine.Security

/-!
# Downlink NAS

From an octet string to the state machines.

* `unwrapNas` is the security header dispatch of `decode_and_process_nas`: plain
  messages go through as they are, header type 3 is only parsed, the other types
  are verified under the active context.
* `engineProcessNasEvent` is the switch over the decoded message, one function per
  branch.
-/

namespace VirtualLte.Engine

open Crypto Nas Ran Mm Sm Up

/-! ## Registration -/

/-- A lower-case hexadecimal digit. -/
def hexDigit (d : UInt8) : UInt8 := if d < 10 then 0x30 + d else 0x57 + d

/-- Two hexadecimal digits per octet, as `%02x` prints them. -/
def hexText (b : Bytes) : Bytes :=
  b.flatMap fun (x : UInt8) => [hexDigit (x >>> 4), hexDigit (x &&& 0x0F)]

/-- Store an assigned 5G-GUTI and acknowledge it.  The text copy has room for fifteen
octets. -/
def storeGuti (ctx : UeContext) (g : Bytes) : UeContext :=
  { ctx with
    guti := g
    mm := { ctx.mm with lastAssignedGuti := hexText (g.take 15) }
    net := sendEncoded ctx.net (ueNasEncodeRegistrationComplete 16) false }

/-- A GUTI that fits the context's field. -/
def storableGuti (ev : UeNasEvent) : Option Bytes :=
  ev.guti.filter fun g => 0 < g.length && g.length ≤ 16

def onRegistrationAccept (ctx : UeContext) (ev : UeNasEvent) : UeContext :=
  let ctx := { ctx with
    waitingCoreResponse := false
    mm := ueMmOnRegistrationAccept ctx.mm }
  let ctx :=
    match storableGuti ev with
    | some g => storeGuti ctx g
    | none => ctx
  { ctx with t3512Seconds := ev.t3512Seconds.getD ctx.t3512Seconds }

def regRejectCauseOf (mmCause : UInt8) : UeMmRegRejectCause :=
  if mmCause = 3 then .illegalUe
  else if mmCause = 11 then .plmnNotAllowed
  else if mmCause = 12 then .taNotAllowed
  else .congestion

def onRegistrationReject (ctx : UeContext) (ev : UeNasEvent) : UeContext :=
  { ctx with
    waitingCoreResponse := false
    mm := ueMmOnRegistrationReject ctx.mm (regRejectCauseOf ev.mmCause) }

/-! ## PDU sessions -/

/-- The identities of the outstanding IMS request. -/
def imsMatch (ctx : UeContext) (ev : UeNasEvent) : Bool :=
  ctx.imsPduEstablishing && ev.psi = ctx.imsPsi && ev.pti = ctx.imsPti

/-- The address and name server of an accept, over those already there. -/
def acceptedIp (ip : UeEngineRuntimeIp) (ev : UeNasEvent) : UeEngineRuntimeIp :=
  { ip with
    ipv4Addr :=
      match ev.pduAddress with
      | some (addrType, addr) => if addrType = 1 then addr else ip.ipv4Addr
      | none => ip.ipv4Addr
    dns1 := ev.dnsIpv4.getD ip.dns1 }

def imsDnn : Bytes := asciiText "ims"
def imsPduType : Bytes := asciiText "ipv4"

/-- 5GSM STATUS #98 for a response no one waits for. -/
def sendIncompatState (ctx : UeContext) (ev : UeNasEvent) : UeContext :=
  { ctx with
    net := sendEncoded ctx.net
      (ueNasEncodeSmStatus 16 ev.psi ev.pti nas5gsmCauseMsgIncompatState) false }

def onImsAccept (ctx : UeContext) (ev : UeNasEvent) : UeContext :=
  let ip := acceptedIp ctx.imsIp ev
  let ip := { ip with mtu := if ip.mtu ≠ 0 then ip.mtu else 1500 }
  { ctx with
    imsIp := ip
    imsPcscfIpv4 := if ev.pcscfIpv4.isSome then ev.pcscfIpv4 else ctx.imsPcscfIpv4
    imsPduEstablishing := false
    imsPduActive := true
    up := ueUpBindSessionEx ctx.up ev.psi.toNat imsDnn imsPduType ip false
      (ueRanTransportIsConnected ctx.net.ran) }

/-- The host's accept: neither the session nor the transaction identity is compared
with the request. -/
def onHostAccept (ctx : UeContext) (ev : UeNasEvent) : UeContext :=
  let sm := ueSmOnPduSessionEstablished { ctx.sm with
    ip := acceptedIp ctx.sm.ip ev
    sessionId := ev.psi.toUInt32 }
  { ctx with
    sm
    up :=
      if sm.state = .active then
        ueUpBindSession ctx.up (if ev.psi ≠ 0 then ev.psi.toNat else 1) sm.activeDnn sm.pduType
          sm.ip (ueRanTransportIsConnected ctx.net.ran)
      else ctx.up }

def onPduSessionEstAccept (ctx : UeContext) (ev : UeNasEvent) : UeContext :=
  if imsMatch ctx ev then onImsAccept ctx ev
  else if ctx.sm.state ≠ .establishing then sendIncompatState ctx ev
  else onHostAccept ctx ev

def pduRejectCauseOf (smCause : UInt8) : UeSmPduRejectCause :=
  if smCause = 27 then .missingDnn
  else if smCause = 28 then .unknownPduSessionType
  else .insufficientResources

def onImsReject (ctx : UeContext) : UeContext :=
  { ctx with
    imsPduEstablishing := false
    imsPduRequested := false
    imsPduActive := false }

def onHostReject (ctx : UeContext) (ev : UeNasEvent) : UeContext :=
  let r := ueSmOnPduSessionReject smNetwork ctx.sm (pduRejectCauseOf ev.smCause) ctx.net
  { ctx with sm := r.1, net := r.2 }

def onPduSessionEstReject (ctx : UeContext) (ev : UeNasEvent) : UeContext :=
  if imsMatch ctx ev then onImsReject ctx
  else if ctx.sm.state ≠ .establishing then sendIncompatState ctx ev
  else onHostReject ctx ev

/-- A release command is acknowledged, and then ends the IMS session if it names its
identity and the host's session otherwise. -/
def onPduSessionReleaseCmd (ctx : UeContext) (ev : UeNasEvent) : UeContext :=
  let ctx := { ctx with
    net := sendEncoded ctx.net (ueNasEncodePduSessionReleaseComplete 16 ev.psi ev.pti) false }
  if ctx.imsPduActive = true ∧ ev.psi = ctx.imsPsi then
    { ctx with
      imsPduActive := false
      imsPduRequested := false
      imsPduEstablishing := false
      up := ueUpUnbindSessionPsi ctx.up ctx.imsPsi.toNat }
  else
    { ctx with
      up := ueUpUnbindSession ctx.up
      sm := ueSmOnPduSessionReleased ctx.sm }

/-! ## Identity and configuration -/

def onIdentityRequest (ctx : UeContext) : UeContext :=
  { ctx with
    net := sendEncoded ctx.net
      (ueNasEncodeIdentityResponse 64 ctx.cfg.sim.imsi ctx.cfg.network.mcc ctx.cfg.network.mnc)
      false }

def onConfigUpdateCommand (ctx : UeContext) (ev : UeNasEvent) : UeContext :=
  if ev.configUpdateAckRequested then
    { ctx with net := sendEncoded ctx.net (ueNasEncodeConfigurationUpdateComplete 8) false }
  else ctx

/-! ## Dispatch -/

def dispatchNasEvent (ctx : UeContext) (ev : UeNasEvent) : UeContext :=
  match ev.type with
  | .registrationAccept => onRegistrationAccept ctx ev
  | .registrationReject => onRegistrationReject ctx ev
  | .pduSessionEstAccept => onPduSessionEstAccept ctx ev
  | .pduSessionEstReject => onPduSessionEstReject ctx ev
  | .pduSessionReleaseCmd => onPduSessionReleaseCmd ctx ev
  | .authenticationRequest => onAuthenticationRequest ctx ev
  | .securityModeCommand => onSecurityModeCommand ctx ev
  | .identityRequest => onIdentityRequest ctx
  | .configUpdateCommand => onConfigUpdateCommand ctx ev
  | .dlNasTransport => ctx

def engineProcessNasEvent (ctx : UeContext) (ev : UeNasEvent) : UeContext :=
  noteChanges ctx (dispatchNasEvent ctx ev)

/-- A message with a security header other than plain. -/
def isProtected (pdu : Bytes) : Bool :=
  2 ≤ pdu.length && octet pdu 0 = nasEpd5gmm && octet pdu 1 ≠ nasShtNotProtected

/-- Remember the header of a protected message. -/
def cacheHdr (ctx : UeContext) (pdu : Bytes) : UeContext :=
  let h := secHeaderOf pdu
  { ctx with dlSecHdr := some ⟨h.sht, h.mac, h.sqn⟩ }

/-- The payload kept for a Security Mode Command, if it fits. -/
def cachedPayload (pdu : Bytes) : Bytes :=
  if 7 < pdu.length ∧ pdu.length - 7 ≤ 256 then pdu.drop 7 else []

/-- Take a header of type 3 apart without any check. -/
def unwrapNewCtx (ctx : UeContext) (pdu : Bytes) : Option (UeContext × Bytes) :=
  match ueNasSecurityUnwrapParseOnly pdu with
  | none => none
  | some (_, inner) => some ({ cacheHdr ctx pdu with smcLastPayload := cachedPayload pdu }, inner)

/-- Verify and decipher under the active context. -/
def unwrapProtected (ctx : UeContext) (pdu : Bytes) : Option (UeContext × Bytes) :=
  match ueNasSecurityUnprotect ctx.net.nasSec pdu with
  | none => none
  | some (plain, sec) =>
    let v : DlVerified :=
      ⟨sec.keys.knasInt, sec.dlCount, sec.bearer, (secHeaderOf pdu).mac, pdu.drop 6⟩
    some (cacheHdr { ctx with
      net := { ctx.net with
        nasSec := sec
        trace := logVerified sec.intAlg v ctx.net.trace } } pdu, plain)

/-- The message inside, with what its header leaves behind; `none` drops it. -/
def unwrapNas (ctx : UeContext) (pdu : Bytes) : Option (UeContext × Bytes) :=
  if isProtected pdu = false then some (ctx, pdu)
  else if octet pdu 1 = nasShtIntegrityProtectedNewCtx then unwrapNewCtx ctx pdu
  else if ctx.net.nasSec.active then unwrapProtected ctx pdu
  else none

def decodeAndProcessNas (ctx : UeContext) (pdu : Bytes) : UeContext :=
  match unwrapNas ctx pdu with
  | none => ctx
  | some (ctx, plain) =>
    match ueNasDecodeEvent plain with
    | none => ctx
    | some ev => engineProcessNasEvent ctx ev

end VirtualLte.Engine
