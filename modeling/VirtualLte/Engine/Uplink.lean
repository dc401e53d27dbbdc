import VirtualLte.Engine.Context
import VirtualLte.Ran.Machine

/-!
# Uplink NAS

Every uplink NAS message takes the same way out: protect it when a security
context is active, wrap it in an RRC message, hand it to the transport.  The
engine (`engine_send_nas_uplink`) and the network adapter (`send_nas_in_rrc`) do
this with the same context and transport.
-/

namespace VirtualLte.Engine

open Crypto Nas Ran Mm Sm Up Rrc

/-- Size of the buffers a message is protected and wrapped in. -/
def uplinkBufLen : Nat := 8192 + 64

/-- Wrap and send; the flag is the transport's answer. -/
def sendInRrc (net : UeNet) (pdu : Bytes) : UeNet × Bool :=
  match ueRrcEncodeUlInfoTransfer uplinkBufLen pdu with
  | none => (net, false)
  | some rrc =>
    let r := ueRanTransportSendNasPdu net.ran rrc ueRrcChannelUlDcch
    ({ net with ran := r.1 }, r.2)

/-- Protect with `sht` under an active context, then wrap and send.  A message that
was protected has used up its COUNT whether or not it is sent. -/
def sendUplink (net : UeNet) (nas : Bytes) (sht : UInt8) : UeNet × Bool :=
  if nas.length = 0 then (net, false)
  else if net.nasSec.active then
    match ueNasSecurityProtectWithSht uplinkBufLen net.nasSec nas sht with
    | none => (net, false)
    | some (pdu, sec) =>
      sendInRrc { net with
        nasSec := sec
        trace := .ulProtected
          ⟨net.nasSec.keys.knasInt, net.nasSec.keys.knasEnc, net.nasSec.ulCount⟩ :: net.trace } pdu
  else sendInRrc net nas

/-- `integrityOnly` is set for the Security Mode Complete alone and selects the
header of a new security context. -/
def engineSendNasUplink (net : UeNet) (nas : Bytes) (integrityOnly : Bool) : UeNet × Bool :=
  sendUplink net nas
    (if integrityOnly then nasShtIntegrityProtectedCipheredNewCtx
      else nasShtIntegrityProtectedCiphered)

def sendNasInRrc (net : UeNet) (nas : Bytes) : UeNet × Bool :=
  sendUplink net nas nasShtIntegrityProtectedCiphered

/-- Send what an encoder produced, if it produced anything. -/
def sendEncoded (net : UeNet) (e : Encoded) (integrityOnly : Bool) : UeNet :=
  match e.pdu? with
  | none => net
  | some nas => (engineSendNasUplink net nas integrityOnly).1

/-! ## The network adapter -/

/-- `ipv4`, `ipv6` and `ipv4v6` as session type octets, by their fourth and fifth
letters. -/
def pduTypeFromString (s : Bytes) : UInt8 :=
  if s.length = 0 then 1
  else if octet s 0 = 0x69 ∨ octet s 0 = 0x49 then
    if octet s 3 = 0x34 ∧ octet s 4 = 0x76 then 3
    else if octet s 3 = 0x36 then 2
    else 1
  else 1

/-- A session identity outside 1 … 15 is sent as 1. -/
def requestPsi (pduSessionId : UInt32) : UInt8 :=
  if 0 < pduSessionId ∧ pduSessionId ≤ 15 then pduSessionId.toUInt8 else 1

/-- Submitting always succeeds; the answer comes as an event. -/
def ueNetworkSmSubmitEstablish (req : UeSmPduSessionEstRequest) (net : UeNet) :
    UeSmPduSessionEstResult × UeNet :=
  let psi := requestPsi req.pduSessionId
  let pti := if req.pti ≠ 0 then req.pti else 1
  let requestType : UInt8 := if req.requestType = .existing then 2 else 1
  let e := ueNasEncodePduSessionEstRequest 512 psi pti (pduTypeFromString req.pduType) requestType
    req.dnn req.sNssaiSst
  let (net, sent) :=
    match e.pdu? with
    | none => (net, false)
    | some nas => sendNasInRrc net nas
  let ids := if sent then some (psi, pti) else none
  ({ submitted := true, selectedPsi := psi.toUInt32 },
    { net with trace := .estRequest ids :: net.trace })

def ueNetworkSmSubmitRelease (req : UeSmPduSessionRelRequest) (net : UeNet) :
    UeSmPduSessionRelResult × UeNet :=
  let e := ueNasEncodePduSessionReleaseRequest 64 (requestPsi req.pduSessionId)
    (if req.pti ≠ 0 then req.pti else 1)
  ({ submitted := true },
    match e.pdu? with
    | none => net
    | some nas => (sendNasInRrc net nas).1)

/-- The adapter behind the session machine. -/
def smNetwork : SmNetwork UeNet where
  submitEstablish := ueNetworkSmSubmitEstablish
  submitRelease := ueNetworkSmSubmitRelease

/-! ## What sending changes -/

/-- Whether an entry of the log is a request, not the use of a key. -/
def Obs.isRequest : Obs → Bool
  | .estRequest _ => true
  | .regRequest _ => true
  | _ => false

/-- One message is protected: its COUNT is used up and logged. -/
abbrev UeNet.protectedOnce (net : UeNet) : UeNet :=
  { net with
    nasSec := { net.nasSec with ulCount := ueNasCountIncrement net.nasSec.ulCount }
    trace := .ulProtected
      ⟨net.nasSec.keys.knasInt, net.nasSec.keys.knasEnc, net.nasSec.ulCount⟩ :: net.trace }

/-- One thing a sender may do to the shared state. -/
inductive SendStep (net : UeNet) : UeNet → Prop
  /-- Use the transport. -/
  | transport (rs : List RanStep) : SendStep net { net with ran := ranRun net.ran rs }
  /-- Protect one message under the active context. -/
  | protect (hact : net.nasSec.active = true) : SendStep net net.protectedOnce
  /-- Log a request. -/
  | request {o : Obs} (ho : o.isRequest = true) :
      SendStep net { net with trace := o :: net.trace }

/-- `net'` comes from `net` by sending any number of messages. -/
def SentFrom (net net' : UeNet) : Prop := Relation.ReflTransGen SendStep net net'

theorem SentFrom.refl (net : UeNet) : SentFrom net net := Relation.ReflTransGen.refl

theorem SentFrom.trans {a b c : UeNet} (hab : SentFrom a b) (hbc : SentFrom b c) :
    SentFrom a c := Relation.ReflTransGen.trans hab hbc

theorem SentFrom.single {a b : UeNet} (h : SendStep a b) : SentFrom a b :=
  Relation.ReflTransGen.single h

/-- What every send step keeps, any number of sends keeps. -/
theorem SentFrom.invariant {I : UeNet → Prop} (hstep : ∀ a b, SendStep a b → I a → I b)
    {net net' : UeNet} (h : SentFrom net net') (hnet : I net) : I net' := by
  induction h with
  | refl => exact hnet
  | tail _ hab ih => exact hstep _ _ hab ih

/-- The transport went through some of its own steps, and the log grew. -/
structure NetMoves (a b : UeNet) : Prop where
  ran : ∃ rs, b.ran = ranRun a.ran rs
  trace : a.trace <:+ b.trace

theorem NetMoves.refl (net : UeNet) : NetMoves net net := ⟨⟨[], rfl⟩, List.suffix_rfl⟩

theorem NetMoves.trans {a b c : UeNet} (hab : NetMoves a b) (hbc : NetMoves b c) :
    NetMoves a c := by
  obtain ⟨rs, hrs⟩ := hab.ran
  obtain ⟨ss, hss⟩ := hbc.ran
  exact ⟨⟨rs ++ ss, by rw [hss, hrs, ranRun_append]⟩, hab.trace.trans hbc.trace⟩

theorem SentFrom.moves {net net' : UeNet} (h : SentFrom net net') : NetMoves net net' := by
  induction h with
  | refl => exact .refl net
  | tail _ hstep ih =>
    refine ih.trans ?_
    cases hstep with
    | transport rs => exact ⟨⟨rs, rfl⟩, List.suffix_rfl⟩
    | protect hact => exact ⟨⟨[], rfl⟩, List.suffix_cons _ _⟩
    | request ho => exact ⟨⟨[], rfl⟩, List.suffix_cons _ _⟩

/-- Sending moves the uplink COUNT and nothing else of the security context. -/
theorem SentFrom.nasSec {net net' : UeNet} (h : SentFrom net net') :
    ∃ ul, net'.nasSec = { net.nasSec with ulCount := ul } := by
  induction h with
  | refl => exact ⟨net.nasSec.ulCount, rfl⟩
  | tail _ hstep ih =>
    obtain ⟨ul, hul⟩ := ih
    cases hstep with
    | transport rs => exact ⟨ul, hul⟩
    | protect hact => exact ⟨_, by rw [UeNet.protectedOnce, hul]⟩
    | request ho => exact ⟨ul, hul⟩

theorem sendInRrc_sent (net : UeNet) (pdu : Bytes) : SentFrom net (sendInRrc net pdu).1 := by
  unfold sendInRrc
  split
  · exact .refl net
  · exact .single (.transport [.sendNas _ _])

theorem sendUplink_sent (net : UeNet) (nas : Bytes) (sht : UInt8) :
    SentFrom net (sendUplink net nas sht).1 := by
  unfold sendUplink
  split
  · exact .refl net
  split
  · rename_i hact
    split
    · exact .refl net
    · rename_i pdu sec hprot
      rw [ueNasSecurityProtectWithSht_ctx hprot]
      exact (SentFrom.single (.protect hact)).trans (sendInRrc_sent _ pdu)
  · exact sendInRrc_sent net nas

theorem sendEncoded_sent (net : UeNet) (e : Encoded) (integrityOnly : Bool) :
    SentFrom net (sendEncoded net e integrityOnly) := by
  unfold sendEncoded
  split
  · exact .refl net
  · exact sendUplink_sent net _ _

theorem ueNetworkSmSubmitEstablish_sent (req : UeSmPduSessionEstRequest) (net : UeNet) :
    SentFrom net (ueNetworkSmSubmitEstablish req net).2 := by
  unfold ueNetworkSmSubmitEstablish
  dsimp only
  split
  · exact .single (.request rfl)
  · exact (sendUplink_sent _ _ _).trans (.single (.request rfl))

theorem ueNetworkSmSubmitRelease_sent (req : UeSmPduSessionRelRequest) (net : UeNet) :
    SentFrom net (ueNetworkSmSubmitRelease req net).2 := by
  unfold ueNetworkSmSubmitRelease
  dsimp only
  split
  · exact .refl net
  · exact sendUplink_sent _ _ _

/-! ## When sending works -/

theorem sendInRrc_of_canTransmit {net : UeNet} {pdu : Bytes} (h : canTransmit net.ran = true)
    (hpos : 0 < pdu.length) (hmax : pdu.length ≤ 8192) : (sendInRrc net pdu).2 = true := by
  obtain ⟨rrc, henc, hrrcPos, hrrcMax⟩ :=
    ueRrcEncodeUlInfoTransfer_of_room hpos hmax
      (show pdu.length + 4 ≤ uplinkBufLen by simp only [uplinkBufLen]; omega)
  rw [sendInRrc, henc]
  exact ueRanTransportSendNasPdu_of_canTransmit h hrrcPos
    (by simp only [Rls.ueRlsMaxPduSize]; omega) _

theorem isProtectedSht_uplink (integrityOnly : Bool) :
    isProtectedSht (if integrityOnly then nasShtIntegrityProtectedCipheredNewCtx
      else nasShtIntegrityProtectedCiphered) = true := by
  cases integrityOnly with
  | true => rfl
  | false => rfl

/-- A NAS message that leaves room for the security header goes out, protected or not. -/
theorem engineSendNasUplink_of_canTransmit {net : UeNet} {nas : Bytes}
    (h : canTransmit net.ran = true) (hpos : 0 < nas.length) (hmax : nas.length ≤ 8185)
    (integrityOnly : Bool) : (engineSendNasUplink net nas integrityOnly).2 = true := by
  unfold engineSendNasUplink sendUplink
  rw [if_neg (by omega)]
  split
  · rename_i hact
    obtain ⟨⟨pdu, sec⟩, hprot⟩ := ueNasSecurityProtectWithSht_isSome hact
      (isProtectedSht_uplink integrityOnly) hpos
      (show 7 + nas.length ≤ uplinkBufLen by simp only [uplinkBufLen]; omega)
    have hlen := ueNasSecurityProtectWithSht_length hprot
    rw [hprot]
    exact sendInRrc_of_canTransmit h (by omega) (by omega)
  · exact sendInRrc_of_canTransmit h hpos (by omega)

theorem sendInRrc_frame (net : UeNet) (pdu : Bytes) :
    ∃ ran, (sendInRrc net pdu).1 = { net with ran := ran } := by
  unfold sendInRrc
  split
  · exact ⟨net.ran, rfl⟩
  · exact ⟨_, rfl⟩

/-- Under an active context every message that was encoded is protected, sent or not. -/
theorem sendEncoded_of_active {net : UeNet} {e : Encoded} (hact : net.nasSec.active = true)
    (hok : e.ok = true) (hpos : 0 < e.written.length) (hmax : e.written.length ≤ 8185)
    (integrityOnly : Bool) :
    ∃ ran, sendEncoded net e integrityOnly = { net.protectedOnce with ran := ran } := by
  have hpdu : e.pdu? = some e.written := by rw [Encoded.pdu?, if_pos hok]
  obtain ⟨⟨pdu, sec⟩, hprot⟩ := ueNasSecurityProtectWithSht_isSome hact
    (isProtectedSht_uplink integrityOnly) hpos
    (show 7 + e.written.length ≤ uplinkBufLen by simp only [uplinkBufLen]; omega)
  unfold sendEncoded engineSendNasUplink sendUplink
  rw [hpdu]
  dsimp only
  rw [if_neg (by omega), if_pos hact, hprot, ueNasSecurityProtectWithSht_ctx hprot]
  exact sendInRrc_frame net.protectedOnce pdu

/-- Without a security context nothing but the transport is used. -/
theorem sendEncoded_of_inactive {net : UeNet} (hact : net.nasSec.active = false) (e : Encoded)
    (integrityOnly : Bool) : ∃ ran, sendEncoded net e integrityOnly = { net with ran := ran } := by
  unfold sendEncoded engineSendNasUplink sendUplink
  split
  · exact ⟨net.ran, rfl⟩
  split
  · exact ⟨net.ran, rfl⟩
  · rw [if_neg (by simp [hact])]
    exact sendInRrc_frame net _

end VirtualLte.Engine
