import VirtualLte.Nas.Decode

/-!
# NAS encoding

`ue_nas_encode.c`.  Every encoder writes a caller's buffer from index zero
upwards and returns a length or `-1`.  An encoder here takes the buffer's size
and returns what was written together with whether the call succeeded, so that
a failing call still shows how far it wrote.
-/

namespace VirtualLte.Nas

open Crypto

/-- The octets an encoder wrote, and whether it returned their number or `-1`. -/
structure Encoded where
  written : Bytes
  ok : Bool
  deriving DecidableEq, Repr

def Encoded.refused : Encoded := ⟨[], false⟩
def Encoded.done (b : Bytes) : Encoded := ⟨b, true⟩

/-- The encoded message, when there is one. -/
def Encoded.pdu? (e : Encoded) : Option Bytes := if e.ok then some e.written else none

theorem pdu?_done (b : Bytes) : (Encoded.done b).pdu? = some b := rfl

/-- A two-octet big-endian length, from a C `int` or `size_t`. -/
def putBe16 (n : Nat) : Bytes := [UInt8.ofNat (n / 256), UInt8.ofNat n]

/-! ## Mobile identity -/

/-- A decimal digit's value; the source's `-1` is `none`. -/
def digitVal (c : UInt8) : Option UInt8 :=
  if 0x30 ≤ c ∧ c ≤ 0x39 then some (c - 0x30) else none

/-- Two semi-octets, low one first, with `0xF` as filler. -/
def bcdPack (a b : Option UInt8) : UInt8 :=
  (((b.map (· &&& 0x0F)).getD 0x0F) <<< 4) ||| ((a.map (· &&& 0x0F)).getD 0x0F)

def bcdValidateStrict (x : UInt8) : Bool := x &&& 0x0F ≤ 9 && (x >>> 4) &&& 0x0F ≤ 9

/-- The third MNC digit, and only it, may be a filler. -/
def bcdValidatePlmn (plmn : Bytes) : Bool :=
  let hi := (octet plmn 1 >>> 4) &&& 0x0F
  bcdValidateStrict (octet plmn 0) &&
    (octet plmn 1 &&& 0x0F ≤ 9 && (hi ≤ 9 || hi = 0x0F)) &&
    bcdValidateStrict (octet plmn 2)

def suciValidateBcd (suci : Bytes) : Bool :=
  bcdValidatePlmn (suci.drop 1) && bcdValidateStrict (octet suci 4) &&
    bcdValidateStrict (octet suci 5) && (suci.drop 8).all bcdValidateStrict

/-- The MSIN two digits at a time. -/
def encodeMsin : Bytes → Bytes
  | [] => []
  | [a] => [bcdPack (digitVal a) none]
  | a :: b :: rest => bcdPack (digitVal a) (digitVal b) :: encodeMsin rest

def ueNasEncodeSuci (bufLen : Nat) (imsi mcc mnc : Bytes) : Encoded :=
  if mcc.length ≠ 3 ∨ (mnc.length ≠ 2 ∧ mnc.length ≠ 3) then .refused
  else if imsi.length < mcc.length + mnc.length then .refused
  else if bufLen < 8 + (imsi.length - (mcc.length + mnc.length) + 1) / 2 then .refused
  else
    let mnc3 := if mnc.length = 3 then digitVal (octet mnc 2) else none
    let suci :=
      [0x01,
        bcdPack (digitVal (octet mcc 0)) (digitVal (octet mcc 1)),
        bcdPack (digitVal (octet mcc 2)) mnc3,
        bcdPack (digitVal (octet mnc 0)) (digitVal (octet mnc 1)),
        0x00, 0x00, 0x00, 0x00] ++ encodeMsin (imsi.drop (mcc.length + mnc.length))
    ⟨suci, suciValidateBcd suci⟩

/-- The identity of a registration request: the stored 5G-GUTI, else a fresh SUCI. -/
def mobileIdentity (imsi mcc mnc : Bytes) (guti : Option Bytes) : Option Bytes :=
  match guti with
  | some (x :: g) => some (x :: g)
  | _ => (ueNasEncodeSuci 64 imsi mcc mnc).pdu?

/-! ## 5GMM -/

def ueNasEncodeRegistrationRequest (bufLen : Nat) (imsi mcc mnc : Bytes)
    (sliceSst regType : UInt8) (guti : Option Bytes) (ngksi : UInt8)
    (initialCleartext : Bool) : Encoded :=
  let regType := if regType < 1 ∨ regType > 3 then 1 else regType
  let ngksi := if ngksi > 7 then 7 else ngksi
  match mobileIdentity imsi mcc mnc guti with
  | none => .refused
  | some mid =>
    if bufLen < 20 + mid.length then .refused
    else
      .done ([nasEpd5gmm, nasShtNotProtected, nasMsgRegistrationRequest,
          ((ngksi &&& 0x07) <<< 4) ||| 0x08 ||| (regType &&& 0x07)] ++
        putBe16 mid.length ++ mid ++
        (if initialCleartext then [] else [0x10, 0x01, 0x00]) ++
        [0x2E, 0x02, 0xA0, 0xA0] ++
        (if sliceSst > 0 then [0x2F, 0x02, 0x01, sliceSst] else []) ++
        (if initialCleartext then [] else [0x53, 0x01, 0x00]))

/-- A request that encodes fits its buffer. -/
theorem ueNasEncodeRegistrationRequest_length {bufLen : Nat} {imsi mcc mnc : Bytes}
    {sliceSst regType : UInt8} {guti : Option Bytes} {ngksi : UInt8} {initialCleartext : Bool}
    {nas : Bytes} (h : (ueNasEncodeRegistrationRequest bufLen imsi mcc mnc sliceSst regType guti
      ngksi initialCleartext).pdu? = some nas) :
    0 < nas.length ∧ nas.length ≤ bufLen := by
  unfold ueNasEncodeRegistrationRequest at h
  dsimp only at h
  split at h
  · cases h
  · rename_i mid _
    by_cases hroom : bufLen < 20 + mid.length
    · rw [if_pos hroom] at h
      cases h
    · rw [if_neg hroom] at h
      cases h
      have hcap : (if initialCleartext then ([] : Bytes) else [0x10, 0x01, 0x00]).length ≤ 3 := by
        split
        · exact Nat.zero_le 3
        · exact Nat.le_refl 3
      have hslice : (if sliceSst > 0 then ([0x2F, 0x02, 0x01, sliceSst] : Bytes) else []).length
          ≤ 4 := by
        split
        · exact Nat.le_refl 4
        · exact Nat.zero_le 4
      have hstatus : (if initialCleartext then ([] : Bytes) else [0x53, 0x01, 0x00]).length ≤ 3 := by
        split
        · exact Nat.zero_le 3
        · exact Nat.le_refl 3
      simp only [Encoded.done, List.length_append, putBe16, List.length_cons, List.length_nil]
      omega

/-- A message that is its three header octets. -/
def encodeBareMm (bufLen : Nat) (msgType : UInt8) : Encoded :=
  if bufLen < 3 then .refused else .done [nasEpd5gmm, nasShtNotProtected, msgType]

def ueNasEncodeRegistrationComplete (bufLen : Nat) : Encoded :=
  encodeBareMm bufLen nasMsgRegistrationComplete

def ueNasEncodeConfigurationUpdateComplete (bufLen : Nat) : Encoded :=
  encodeBareMm bufLen nasMsgConfigurationUpdateComplete

def ueNasEncodeDeregistrationRequest (bufLen : Nat) (switchOff : Bool) (guti : Bytes)
    (ngksi : UInt8) : Encoded :=
  let ngksi := if ngksi > 7 then 7 else ngksi
  if guti.length = 0 then .refused
  else if bufLen < 6 + guti.length then .refused
  else
    .done ([nasEpd5gmm, nasShtNotProtected, nasMsgDeregistrationRequestUe,
        ((ngksi &&& 0x07) <<< 4) ||| (if switchOff then 0x08 else 0x00) ||| 0x01] ++
      putBe16 guti.length ++ guti)

def ueNasEncodeAuthResponse (bufLen : Nat) (res : Bytes) : Encoded :=
  if res.length = 0 ∨ res.length > 32 then .refused
  else if bufLen < 3 + 2 + res.length then .refused
  else
    .done ([nasEpd5gmm, nasShtNotProtected, nasMsgAuthenticationResponse, 0x2D,
      UInt8.ofNat res.length] ++ res)

/-- Causes 20 (MAC failure) and 21 (synch failure, with the AUTS). -/
def ueNasEncodeAuthFailure (bufLen : Nat) (cause : UInt8) (auts : Bytes) : Encoded :=
  if bufLen < 4 then .refused
  else
    let head := [nasEpd5gmm, nasShtNotProtected, nasMsgAuthenticationFailure, cause]
    if auts.length > 0 then
      if 4 + 2 + auts.length > bufLen then ⟨head, false⟩
      else .done (head ++ [0x30, UInt8.ofNat auts.length] ++ auts)
    else .done head

def ueNasEncodeSecurityModeComplete (bufLen : Nat) (nasContainer : Option Bytes) : Encoded :=
  let head := [nasEpd5gmm, nasShtNotProtected, nasMsgSecurityModeComplete]
  match nasContainer with
  | none => if bufLen < 3 then .refused else .done head
  | some c =>
    if bufLen < 3 + (3 + c.length) then .refused
    else if c.length > 0 then .done (head ++ [0x71] ++ putBe16 c.length ++ c)
    else .done head

def ueNasEncodeIdentityResponse (bufLen : Nat) (imsi mcc mnc : Bytes) : Encoded :=
  if bufLen < 16 then .refused
  else
    match (ueNasEncodeSuci 64 imsi mcc mnc).pdu? with
    | none => .refused
    | some suci =>
      let head := [nasEpd5gmm, nasShtNotProtected, 0x5C]
      if 3 + 2 + suci.length > bufLen then ⟨head, false⟩
      else .done (head ++ putBe16 suci.length ++ suci)

/-! ## 5GSM, inside UL NAS Transport -/

/-- UL NAS Transport around a 5GSM message, with the PDU session identity after it. -/
def ulNasTransport (psi : UInt8) (sm : Bytes) : Bytes :=
  [nasEpd5gmm, nasShtNotProtected, 0x67, 0x01] ++ putBe16 sm.length ++ sm ++ [0x12, psi]

/-- The three short session messages differ in the inner message alone. -/
def encodeShortSm (bufLen : Nat) (psi : UInt8) (sm : Bytes) : Encoded :=
  if bufLen < 16 then .refused else .done (ulNasTransport psi sm)

def ueNasEncodeSmStatus (bufLen : Nat) (psi pti cause : UInt8) : Encoded :=
  encodeShortSm bufLen psi [nasEpd5gsm, psi, pti, nasMsgFivegSmStatus, cause]

def ueNasEncodePduSessionReleaseComplete (bufLen : Nat) (psi pti : UInt8) : Encoded :=
  encodeShortSm bufLen psi [nasEpd5gsm, psi, pti, nasMsgPduSessionReleaseComplete]

def ueNasEncodePduSessionReleaseRequest (bufLen : Nat) (psi pti : UInt8) : Encoded :=
  encodeShortSm bufLen psi
    [nasEpd5gsm, psi, if pti ≠ 0 then pti else 1, nasMsgPduSessionReleaseRequest, 0x59, 0x24]

/-- The inner establishment request with its protocol configuration options. -/
def encodePduSessionEstRequestInner (psi pti pduSessionType : UInt8) : Bytes :=
  [nasEpd5gsm, psi, pti, nasMsgPduSessionEstRequest, 0xFF, 0xFF,
    0x90 ||| (pduSessionType &&& 0x0F), 0xA1, 0x28, 0x01, 0x00,
    0x7B, 0x00, 0x0A, 0x80, 0x00, 0x0A, 0x00, 0x00, 0x0D, 0x00, 0x00, 0x0C, 0x00]

def ueNasEncodePduSessionEstRequest (bufLen : Nat)
    (psi pti pduSessionType requestType : UInt8) (dnn : Bytes) (sNssaiSst : UInt8) : Encoded :=
  if bufLen < 32 then .refused
  else
    let sm := encodePduSessionEstRequestInner psi pti pduSessionType
    let requestType := if requestType = 0 then 1 else requestType
    let head := ulNasTransport psi sm ++ [0x80 ||| (requestType &&& 0x0F)] ++
      (if sNssaiSst > 0 then [0x22, 0x01, sNssaiSst] else [])
    if dnn.length > 0 then
      let dnn := dnn.take 100
      if head.length + 3 + dnn.length > bufLen then ⟨head, false⟩
      else
        .done (head ++ [0x25, UInt8.ofNat (dnn.length + 1), UInt8.ofNat dnn.length] ++ dnn)
    else .done head

end VirtualLte.Nas
