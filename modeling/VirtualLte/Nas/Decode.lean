import VirtualLte.Nas.Security

/-!
# NAS decoding

`ue_nas_decode.c`: recognise a downlink message and pull out the few fields the
state machines need.

* A pair `has_x`, `x` of the source's event is one `Option` field.
* The scans that move a position through the buffer are recursions on the rest
  of the buffer.  Where a scan skips a length it read, the recursion carries the
  number of octets left as fuel, which always suffices since every turn skips at
  least one octet.
-/

namespace VirtualLte.Nas

open Crypto

/-! ## Message types -/

/-- Registration Request. -/
def nasMsgRegistrationRequest : UInt8 := 0x41
/-- Registration Accept. -/
def nasMsgRegistrationAccept : UInt8 := 0x42
/-- Registration Complete. -/
def nasMsgRegistrationComplete : UInt8 := 0x43
/-- Registration Reject. -/
def nasMsgRegistrationReject : UInt8 := 0x44
/-- Deregistration Request, from the UE. -/
def nasMsgDeregistrationRequestUe : UInt8 := 0x45
/-- Configuration Update Command. -/
def nasMsgConfigurationUpdateCommand : UInt8 := 0x54
/-- Configuration Update Complete. -/
def nasMsgConfigurationUpdateComplete : UInt8 := 0x55
/-- Authentication Request. -/
def nasMsgAuthenticationRequest : UInt8 := 0x56
/-- Authentication Response. -/
def nasMsgAuthenticationResponse : UInt8 := 0x57
/-- Authentication Failure. -/
def nasMsgAuthenticationFailure : UInt8 := 0x59
/-- Identity Request. -/
def nasMsgIdentityRequest : UInt8 := 0x5B
/-- Security Mode Command. -/
def nasMsgSecurityModeCommand : UInt8 := 0x5D
/-- Security Mode Complete. -/
def nasMsgSecurityModeComplete : UInt8 := 0x5E
/-- DL NAS Transport. -/
def nasMsgDlNasTransport : UInt8 := 0x68
/-- PDU Session Establishment Request. -/
def nasMsgPduSessionEstRequest : UInt8 := 0xC1
/-- PDU Session Establishment Accept. -/
def nasMsgPduSessionEstAccept : UInt8 := 0xC2
/-- PDU Session Establishment Reject. -/
def nasMsgPduSessionEstReject : UInt8 := 0xC3
/-- PDU Session Release Request. -/
def nasMsgPduSessionReleaseRequest : UInt8 := 0xD1
/-- PDU Session Release Command. -/
def nasMsgPduSessionReleaseCommand : UInt8 := 0xD3
/-- PDU Session Release Complete. -/
def nasMsgPduSessionReleaseComplete : UInt8 := 0xD4
/-- 5GSM Status. -/
def nasMsgFivegSmStatus : UInt8 := 0xD6

/-- Cause 98: the message is not compatible with the protocol state. -/
def nas5gsmCauseMsgIncompatState : UInt8 := 0x62

/-- The messages that are recognised. -/
inductive UeNasEventType where
  | registrationAccept
  | registrationReject
  | pduSessionEstAccept
  | pduSessionEstReject
  | pduSessionReleaseCmd
  | authenticationRequest
  | securityModeCommand
  | identityRequest
  | configUpdateCommand
  | dlNasTransport
  deriving DecidableEq, Repr

/-- The extracted fields of a recognised message.  An unrecognised one has no
event: the decoder fails on it. -/
structure UeNasEvent where
  type : UeNasEventType
  mmCause : UInt8 := 0
  guti : Option Bytes := none
  t3512Seconds : Option UInt32 := none
  psi : UInt8 := 0
  pti : UInt8 := 0
  smCause : UInt8 := 0
  /-- Address type and IPv4 address; the address stays zero for other types. -/
  pduAddress : Option (UInt8 × Ipv4) := none
  dnsIpv4 : Option Ipv4 := none
  pcscfIpv4 : Option Ipv4 := none
  authRand : Option Block := none
  authAutn : Option Block := none
  authAbba : Option Bytes := none
  /-- Ciphering and integrity algorithm nibbles. -/
  secAlgs : Option (UInt8 × UInt8) := none
  ngksi : Option UInt8 := none
  additional5gSecInfo : Option UInt8 := none
  configUpdateAckRequested : Bool := false
  deriving DecidableEq, Repr

/-- A two-octet length field. -/
def getBe16 (a b : UInt8) : Nat := a.toNat * 256 + b.toNat

/-! ## 5GMM -/

/-- A GPRS timer 3: its unit in three bits, its value in five. -/
def gprsTimer3Seconds (v : UInt8) : UInt32 :=
  let value := (v &&& 0x1F).toUInt32
  match ((v >>> 5) &&& 0x07).toNat with
  | 0 => value * 600
  | 1 => value * 3600
  | 2 => value * 36000
  | 3 => value * 2
  | 4 => value * 30
  | 5 => value * 60
  | 6 => value * 1152000
  | _ => 0

/-- The first `5E 01 v` signature. -/
def parseT3512 : Bytes → Option UInt32
  | a :: b :: c :: rest =>
    if a = 0x5E ∧ b = 0x01 then some (gprsTimer3Seconds c) else parseT3512 (b :: c :: rest)
  | _ => none

/-- The half-octet elements that may stand in front of the 5G-GUTI. -/
def isHalfOctetIe (x : UInt8) : Bool :=
  let hi := (x >>> 4) &&& 0x0F
  hi = 0x9 || hi = 0xA || hi = 0xB

/-- The 5G-GUTI at the start of the optional part, if it is one. -/
def parseGuti (rest : Bytes) : Option Bytes :=
  let glen := getBe16 (octet rest 1) (octet rest 2)
  if 3 ≤ rest.length ∧ octet rest 0 = 0x77 ∧ 0 < glen ∧ glen ≤ 16 ∧ 3 + glen ≤ rest.length ∧
      octet rest 3 &&& 0x07 = 0x02 then
    some ((rest.drop 3).take glen)
  else none

/-- The 5G-GUTI is looked for behind the result, T3512 anywhere from the sixth octet on. -/
def decodeRegistrationAccept (pdu : Bytes) : UeNasEvent :=
  if 5 ≤ pdu.length then
    { type := .registrationAccept
      guti := parseGuti ((pdu.drop (4 + (octet pdu 3).toNat)).dropWhile isHalfOctetIe)
      t3512Seconds := parseT3512 (pdu.drop 5) }
  else { type := .registrationAccept }

/-- RAND and AUTN after the ABBA. -/
def parseAuthVector (rest : Bytes) : Option Block × Option Block :=
  let hasRand := 17 ≤ rest.length ∧ octet rest 0 = 0x21
  let rand := if hasRand then some (vecOf 16 (rest.drop 1)) else none
  let rest := if hasRand then rest.drop 17 else rest
  let autn := if 18 ≤ rest.length ∧ octet rest 0 = 0x20 ∧ octet rest 1 = 16 then
      some (vecOf 16 (rest.drop 2))
    else none
  (rand, autn)

/-- A request too short for RAND and AUTN has no fields. -/
def decodeAuthenticationRequest (pdu : Bytes) : UeNasEvent :=
  if 3 + 1 + 2 + 17 + 18 ≤ pdu.length then
    let abbaLen := (octet pdu 4).toNat
    let v := parseAuthVector (pdu.drop (5 + abbaLen))
    { type := .authenticationRequest
      ngksi := some (octet pdu 3 &&& 0x07)
      authAbba :=
        if 5 + abbaLen ≤ pdu.length ∧ abbaLen ≤ 16 then some ((pdu.drop 5).take abbaLen) else none
      authRand := v.1
      authAutn := v.2 }
  else { type := .authenticationRequest }

/-- The first octet of the additional 5G security information, whose type octet is
searched for octet by octet. -/
def parseAdditional5gSecInfo : Bytes → Option UInt8
  | a :: b :: rest =>
    if a = 0x36 then
      if 1 ≤ b ∧ b.toNat ≤ rest.length then some (octet rest 0) else none
    else parseAdditional5gSecInfo (b :: rest)
  | _ => none

/-- A command too short for its key set identifier has no fields. -/
def decodeSecurityModeCommand (pdu : Bytes) : UeNasEvent :=
  if 5 ≤ pdu.length then
    { type := .securityModeCommand
      secAlgs := some ((octet pdu 3 >>> 4) &&& 0x0F, octet pdu 3 &&& 0x0F)
      ngksi := some (octet pdu 4 &&& 0x07)
      additional5gSecInfo := parseAdditional5gSecInfo (pdu.drop 5) }
  else { type := .securityModeCommand }

/-! ## 5GSM -/

/-- Walk the items `id(2) len(1) value` of a protocol configuration container for
`wantedId` with a four-octet value. -/
def epcoItems (wantedId : Nat) : Nat → Bytes → Option Ipv4
  | 0, _ => none
  | fuel + 1, items =>
    let clen := (octet items 2).toNat
    if items.length < 3 then none
    else if items.length < 3 + clen then none
    else if getBe16 (octet items 0) (octet items 1) = wantedId ∧ clen = 4 then
      some (vecOf 4 (items.drop 3))
    else epcoItems wantedId fuel (items.drop (3 + clen))

/-- Try the extended protocol configuration options whose type octet heads the
buffer. -/
def epcoAt (wantedId : Nat) (rest : Bytes) : Option Ipv4 :=
  let epcoLen := getBe16 (octet rest 1) (octet rest 2)
  if octet rest 0 = 0x7B ∧ 1 ≤ epcoLen ∧ 3 + epcoLen ≤ rest.length ∧ octet rest 3 = 0x80 then
    epcoItems wantedId rest.length ((rest.drop 4).take (epcoLen - 1))
  else none

/-- Search every position with at least five octets left. -/
def parseEpcoContainerIpv4 (wantedId : Nat) : Bytes → Option Ipv4
  | [] => none
  | x :: rest =>
    if (x :: rest).length < 5 then none
    else
      match epcoAt wantedId (x :: rest) with
      | some ip => some ip
      | none => parseEpcoContainerIpv4 wantedId rest

/-- The DNS server, looked for from the selected type on. -/
def parseEpcoDns (pdu : Bytes) : Option Ipv4 := parseEpcoContainerIpv4 0x000D (pdu.drop 4)

/-- The P-CSCF address, looked for from the selected type on. -/
def parseEpcoPcscf (pdu : Bytes) : Option Ipv4 := parseEpcoContainerIpv4 0x000C (pdu.drop 4)

/-- Walk the optional part for the PDU address (type octet `0x29`). -/
def scanPduAddress : Nat → Bytes → Option (UInt8 × Ipv4)
  | 0, _ => none
  | fuel + 1, rest =>
    let ieLen := (octet rest 1).toNat
    if rest.length < 3 then none
    else if octet rest 0 = 0x29 then
      if 2 + ieLen ≤ rest.length ∧ 5 ≤ ieLen then
        let addrType := octet rest 2
        some (addrType, if addrType = 1 then vecOf 4 (rest.drop 3) else Vector.replicate 4 0)
      else none
    else if octet rest 0 ≥ 0x80 then scanPduAddress fuel (rest.drop 1)
    else scanPduAddress fuel (rest.drop (2 + ieLen))

/-- Skip the selected type, the QoS rules and the session AMBR. -/
def skipEstAcceptMandatory (pdu : Bytes) : Bytes :=
  let rest := pdu.drop 5
  let rest :=
    if 2 ≤ rest.length then rest.drop (2 + getBe16 (octet rest 0) (octet rest 1)) else rest
  if 1 ≤ rest.length then rest.drop (1 + (octet rest 0).toNat) else rest

/-- Three 5GSM messages are recognised. -/
def decodeSmMessage (pdu : Bytes) : Option UeNasEvent :=
  if pdu.length < 4 then none
  else if octet pdu 0 ≠ nasEpd5gsm then none
  else
    let psi := octet pdu 1
    let pti := octet pdu 2
    let smCause := if 5 ≤ pdu.length then octet pdu 4 else 0
    let msgType := octet pdu 3
    if msgType = nasMsgPduSessionEstAccept then
      some
        { type := .pduSessionEstAccept, psi, pti
          pduAddress :=
            if 5 ≤ pdu.length then scanPduAddress pdu.length (skipEstAcceptMandatory pdu)
            else none
          dnsIpv4 := parseEpcoDns pdu
          pcscfIpv4 := parseEpcoPcscf pdu }
    else if msgType = nasMsgPduSessionEstReject then
      some { type := .pduSessionEstReject, psi, pti, smCause }
    else if msgType = nasMsgPduSessionReleaseCommand then
      some { type := .pduSessionReleaseCmd, psi, pti, smCause }
    else none

/-! ## Dispatch -/

/-- The 5GSM message carried by a DL NAS Transport, if its container holds one. -/
def innerSmOf (pdu : Bytes) : Option Bytes :=
  let containerLen := getBe16 (octet pdu 4) (octet pdu 5)
  if 6 ≤ pdu.length ∧ octet pdu 3 &&& 0x0F = 0x01 ∧ 0 < containerLen ∧
      containerLen + 6 ≤ pdu.length then
    some ((pdu.drop 6).take containerLen)
  else none

/-- The PDU session identity right after the container. -/
def dlNasTransportPsi (pdu : Bytes) : UInt8 :=
  let rest := pdu.drop (6 + ((innerSmOf pdu).map List.length).getD 0)
  if 6 ≤ pdu.length ∧ 2 ≤ rest.length ∧ octet rest 0 = 0x12 then octet rest 1 else 0

/-- The message in a container has to be a 5GSM one. -/
def ueNasDecodeInnerSm (smPdu : Bytes) : Option UeNasEvent :=
  if smPdu.length < 4 then none
  else if octet smPdu 0 ≠ nasEpd5gsm then none
  else decodeSmMessage smPdu

/-- Seven 5GMM messages are recognised. -/
def decodeMmMessage (pdu : Bytes) : Option UeNasEvent :=
  if pdu.length < 3 then none
  else if octet pdu 0 ≠ nasEpd5gmm then none
  else
    let msgType := octet pdu 2
    if msgType = nasMsgRegistrationAccept then some (decodeRegistrationAccept pdu)
    else if msgType = nasMsgRegistrationReject then
      some { type := .registrationReject, mmCause := if 4 ≤ pdu.length then octet pdu 3 else 0 }
    else if msgType = nasMsgAuthenticationRequest then some (decodeAuthenticationRequest pdu)
    else if msgType = nasMsgSecurityModeCommand then some (decodeSecurityModeCommand pdu)
    else if msgType = nasMsgIdentityRequest then some { type := .identityRequest }
    else if msgType = nasMsgConfigurationUpdateCommand then
      some
        { type := .configUpdateCommand
          configUpdateAckRequested :=
            4 ≤ pdu.length && octet pdu 3 >>> 4 = 0x0D && octet pdu 3 &&& 0x01 ≠ 0 }
    else if msgType = nasMsgDlNasTransport then
      some { type := .dlNasTransport, psi := dlNasTransportPsi pdu }
    else none

/-- A plain message; a container with a 5GSM message gives the event of that. -/
def ueNasDecodeEvent (pdu : Bytes) : Option UeNasEvent :=
  if pdu.length < 2 then none
  else if octet pdu 0 = nasEpd5gmm ∧ octet pdu 1 ≠ nasShtNotProtected then none
  else if octet pdu 0 = nasEpd5gmm then
    match decodeMmMessage pdu with
    | none => none
    | some ev =>
      if ev.type = .dlNasTransport then
        match innerSmOf pdu with
        | some sm => ueNasDecodeInnerSm sm
        | none => some ev
      else some ev
  else if octet pdu 0 = nasEpd5gsm then decodeSmMessage pdu
  else none

end VirtualLte.Nas
