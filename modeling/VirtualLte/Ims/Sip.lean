import VirtualLte.Ims.Digest
import VirtualLte.Ims.Text

/-!
# SIP messages of the IMS service

The texts that `ims_service.c` sends and what it reads from a challenge.

* `ImsIdentity` is the subscriber as IMS knows it, derived from the configuration.
* `registerText`, `messageText` and `messageOkText` are the three kinds of messages.
* `parseWwwAuthenticate` reads a challenge and `imsComputeAkaRes` answers it with Milenage.
-/

namespace VirtualLte.Ims

open Crypto Engine

def imsSipLocalPort : Nat := 5062
def imsSipRemotePort : Nat := 5060

/-! ## Identity -/

structure ImsIdentity where
  realm : Bytes := []
  impi : Bytes := []
  impuUser : Bytes := []
  preferredImpu : Bytes := []
  simKey : Bytes := []
  simOpc : Bytes := []
  simAmf : Bytes := []
  deriving DecidableEq, Repr

def imsBuildIdentity (cfg : UeInstanceConfig) : ImsIdentity :=
  let realm := snprintf 96 (asciiText "ims.mnc" ++ threeDigits cfg.network.mnc ++ asciiText ".mcc" ++
    threeDigits cfg.network.mcc ++ asciiText ".3gppnetwork.org")
  let impuUser := snprintf 64 cfg.sim.imsi
  { realm
    impi := snprintf 160 (cfg.sim.imsi ++ asciiText "@" ++ realm)
    impuUser
    preferredImpu := snprintf 180 (asciiText "sip:" ++ impuUser ++ asciiText "@" ++ realm)
    simKey := snprintf 64 cfg.sim.key
    simOpc := snprintf 64 cfg.sim.opc
    simAmf := snprintf 16 cfg.sim.amf }

/-- `%u.%u.%u.%u`. -/
def dottedText (ip : Ipv4) : Bytes :=
  decimalText ip[0].toNat ++ asciiText "." ++ decimalText ip[1].toNat ++ asciiText "." ++
    decimalText ip[2].toNat ++ asciiText "." ++ decimalText ip[3].toNat

@[irreducible] def imsBuildContactUri (id : ImsIdentity) (localIp : Ipv4) (outLen : Nat) : Option Bytes :=
  let text := asciiText "sip:" ++ id.impuUser ++ asciiText "@" ++ dottedText localIp ++
    asciiText ":" ++ decimalText imsSipLocalPort
  if text.length ≥ outLen then none else some text

/-! ## Messages -/

/-- The Via line of a request, under a branch of its own. -/
def viaText (localIp : Ipv4) (branch : Bytes) : Bytes :=
  asciiText "Via: SIP/2.0/UDP " ++ dottedText localIp ++ asciiText ":" ++
    decimalText imsSipLocalPort ++ asciiText ";branch=z9hG4bK-virtlte-" ++ branch ++ crlf

/-- A REGISTER; the two senders differ in the branch, the sequence number and the
Authorization line. -/
@[irreducible] def registerText (id : ImsIdentity) (localIp : Ipv4) (contactUri branch : Bytes) (cseq : Nat)
    (authorization : Bytes) : Bytes :=
  asciiText "REGISTER sip:" ++ id.realm ++ asciiText " SIP/2.0\r\n" ++
    viaText localIp branch ++
    asciiText "Max-Forwards: 70\r\nFrom: <" ++ id.preferredImpu ++
    asciiText ">;tag=virtlte-1\r\nTo: <" ++ id.preferredImpu ++
    asciiText ">\r\nCall-ID: virtlte-register-1@" ++ dottedText localIp ++
    asciiText "\r\nCSeq: " ++ decimalText cseq ++
    asciiText " REGISTER\r\nSupported: path\r\nContact: <" ++ contactUri ++
    asciiText ">;+g.3gpp.smsip\r\nAuthorization: Digest " ++ authorization ++
    asciiText "\r\nExpires: 600\r\nContent-Length: 0\r\n\r\n"

/-- `name="value"` -/
def quotedParam (name : String) (value : Bytes) : Bytes :=
  asciiText name ++ asciiText "=\"" ++ value ++ asciiText "\""

/-- The Authorization of an initial REGISTER, without an answer. -/
def emptyAuthorization (id : ImsIdentity) : Bytes :=
  quotedParam "username" id.impi ++ asciiText ", " ++ quotedParam "realm" id.realm ++
    asciiText ", " ++ quotedParam "nonce" [] ++ asciiText ", " ++
    quotedParam "uri" (asciiText "sip:" ++ id.realm) ++ asciiText ", " ++ quotedParam "response" []

/-- A MESSAGE with an SMS body; `kind` and `number` name its branch and its Call-ID. -/
@[irreducible] def messageText (id : ImsIdentity) (localIp : Ipv4) (requestUri kind : Bytes) (number cseq : UInt32)
    (contentLength : Nat) : Bytes :=
  asciiText "MESSAGE " ++ requestUri ++ asciiText " SIP/2.0\r\n" ++
    viaText localIp (kind ++ asciiText "-" ++ decimalText number.toNat) ++
    asciiText "Max-Forwards: 70\r\nFrom: <" ++ id.preferredImpu ++
    asciiText ">;tag=virtlte-sms\r\nTo: <" ++ requestUri ++
    asciiText ">\r\nCall-ID: virtlte-" ++ kind ++ asciiText "-" ++ decimalText number.toNat ++
    asciiText "@" ++ dottedText localIp ++
    asciiText "\r\nCSeq: " ++ decimalText cseq.toNat ++
    asciiText " MESSAGE\r\nContent-Type: application/vnd.3gpp.sms\r\nContent-Length: " ++
    decimalText contentLength ++ asciiText "\r\n\r\n"

/-- The 200 OK to a MESSAGE with the given header lines; `none` if one is missing. -/
@[irreducible] def messageOkText (hdr : Bytes) : Option Bytes :=
  match headerCopyAllLines hdr (asciiText "Via:") 768, headerCopyLine hdr (asciiText "From:") 256,
      headerCopyLine hdr (asciiText "To:") 288, headerCopyLine hdr (asciiText "Call-ID:") 256,
      headerCopyLine hdr (asciiText "CSeq:") 128 with
  | (vias, count), some fromLine, some toLine, some callId, some cseq =>
    if count = 0 then none
    else
      let toLine :=
        if (findBytes toLine (asciiText "tag=")).isSome then toLine
        else snprintf 288 (toLine ++ asciiText ";tag=virtlte-mt")
      some (asciiText "SIP/2.0 200 OK\r\n" ++ cstr vias ++ fromLine ++ crlf ++ toLine ++ crlf ++
        callId ++ crlf ++ cseq ++ crlf ++ asciiText "Content-Length: 0\r\n\r\n")
  | _, _, _, _, _ => none

/-! ## Destination of an SMS -/

def smsAddrDigit (semi : UInt8) (high : Bool) : Option UInt8 :=
  let v := if high then semi >>> 4 else semi &&& (0x0f : UInt8)
  if v ≤ 9 then some (0x30 + v)
  else if v = 0x0a then some 0x2A
  else if v = 0x0b then some 0x23
  else none

/-- The first `n` digits of an address. -/
def addrDigits (addr : Bytes) (n : Nat) : Option Bytes :=
  (List.range n).mapM fun i => smsAddrDigit (octet addr (i / 2)) (i % 2 = 1)

/-- The destination address of an SMS-SUBMIT, in `outLen` octets. -/
@[irreducible] def imsSmsExtractDestination (pdu : Bytes) (outLen : Nat) : Option Bytes :=
  if outLen < 4 ∨ pdu.length < 5 then none
  else
    let tpdu := if (octet pdu 0).toNat + 1 < pdu.length then (octet pdu 0).toNat + 1 else 0
    if tpdu + 4 > pdu.length then none
    else if octet pdu tpdu &&& 0x03 ≠ 0x01 then none
    else
      let daLen := (octet pdu (tpdu + 2)).toNat
      let toa := octet pdu (tpdu + 3)
      if daLen = 0 ∨ tpdu + 4 + (daLen + 1) / 2 > pdu.length then none
      else
        let plus := if toa &&& 0x70 = 0x10 then asciiText "+" else []
        (addrDigits (pdu.drop (tpdu + 4)) (min daLen (outLen - 1 - plus.length))).map (plus ++ ·)

/-! ## Challenges -/

structure SipAuthChallenge where
  realm : Bytes := []
  nonce : Bytes := []
  algorithm : Bytes := []
  qop : Bytes := []
  deriving DecidableEq, Repr

@[irreducible] def parseWwwAuthenticate (hdr : Bytes) : Option SipAuthChallenge :=
  match headerCopyLine hdr (asciiText "WWW-Authenticate:") 1024 with
  | none => none
  | some line =>
    if (findAsciiCase line (asciiText "Digest")).isNone then none
    else
      match authParamCopy line (asciiText "realm") 128, authParamCopy line (asciiText "nonce") 512 with
      | some realm, some nonce =>
        let qop := (authParamCopy line (asciiText "qop") 32).getD []
        some {
          realm
          nonce
          algorithm := (authParamCopy line (asciiText "algorithm") 32).getD (asciiText "MD5")
          qop := if (findAsciiCase qop (asciiText "auth")).isSome then asciiText "auth" else qop }
      | _, _ => none

/-- RES for the challenge in the nonce, if its MAC is right. -/
@[irreducible] def imsComputeAkaRes (id : ImsIdentity) (nonce : Bytes) : Option Bytes :=
  match base64Decode nonce 256, parseHexBytes 16 id.simKey, parseHexBytes 16 id.simOpc,
      parseHexBytes 2 id.simAmf with
  | some decoded, some k, some opc, some amf =>
    if decoded.length < 32 then none
    else
      let compute := fun (sqn : Vector UInt8 6) =>
        ueMilenageCompute (vecOf 16 opc) (vecOf 16 k) (vecOf 16 decoded) sqn (vecOf 2 amf)
      let ak := (compute (Vector.replicate 6 0)).ak
      let sqn := Vector.zipWith (· ^^^ ·) (vecOf 6 (decoded.drop 16)) ak
      let result := compute sqn
      if result.macA.toList = (decoded.drop 24).take 8 then some result.res.toList else none
  | _, _, _, _ => none

/-- The Authorization of an authorized REGISTER. -/
@[irreducible] def digestAuthorization (id : ImsIdentity) (challenge : SipAuthChallenge) (res cnonce : Bytes) :
    Bytes :=
  let realm := if challenge.realm.length ≠ 0 then challenge.realm else id.realm
  let nc := asciiText "00000001"
  let uri := snprintf 128 (asciiText "sip:" ++ id.realm)
  let qop := if challenge.qop.length ≠ 0 then some (nc, cnonce, challenge.qop) else none
  let qopClause :=
    if challenge.qop.length ≠ 0 then
      snprintf 80 (asciiText ", qop=auth, nc=" ++ nc ++ asciiText ", " ++ quotedParam "cnonce" cnonce)
    else []
  let response :=
    imsDigestMd5Response id.impi realm res (asciiText "REGISTER") uri challenge.nonce qop
  quotedParam "username" id.impi ++ asciiText ", " ++ quotedParam "realm" realm ++
    asciiText ", " ++ quotedParam "nonce" challenge.nonce ++ asciiText ", " ++ quotedParam "uri" uri ++
    asciiText ", " ++ quotedParam "response" response ++ asciiText ", algorithm=" ++
    (if challenge.algorithm.length ≠ 0 then challenge.algorithm else asciiText "AKAv1-MD5") ++ qopClause

end VirtualLte.Ims
