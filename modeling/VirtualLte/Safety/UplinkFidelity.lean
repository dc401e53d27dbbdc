import VirtualLte.Engine.Network
import VirtualLte.Rrc.RoundTrip

/-!
# Uplink fidelity

A NAS message passes through three codecs on its way out: the security envelope, the
RRC message and the RLS datagram.  `CarriesNas` says what the gNB and the core find in
the datagram, with their own readings of each layer, and `engineSendNasUplink_fidelity`
that they find the message the engine was given.
-/

namespace VirtualLte.Engine

open Crypto Nas Ran Rrc Rls

/-- The datagram decodes to an RRC PDU on UL-DCCH, whose NAS octet string is the header and
the payload of `nas`; the core opens it at the COUNT of `sec`. -/
def CarriesNas (snow : Snow3g) (sec : UeNasSecurityCtx) (t : UeRanTransportCtx) (sht : UInt8)
    (nas dgram : Bytes) : Prop :=
  ∃ rrc env, ueRlsDecode dgram = some (.pduTx t.sti .rrc t.nextPduId ueRrcChannelUlDcch rrc) ∧
    ulInfoTransferNas rrc = some env ∧ env.length = 7 + nas.length ∧ octet env 1 = sht ∧
    peerOpen snow sec dirUplink sec.ulCount env = some nas

/-- The header type the engine uses. -/
def uplinkSht (integrityOnly : Bool) : UInt8 :=
  if integrityOnly then nasShtIntegrityProtectedCipheredNewCtx else nasShtIntegrityProtectedCiphered

/-- The datagrams on the wire after one more was handed to `sendto`. -/
def sentAfter (t : UeRanTransportCtx) (addr : SockAddrIn) (dgram : Bytes) :
    List (SockAddrIn × Bytes) :=
  if t.socketOpen && t.os.sendtoOk then (addr, dgram) :: t.sent else t.sent

/-- With a serving cell, a PDU goes to `sendto` in one datagram. -/
theorem ueRanTransportSendNasPdu_sent {t : UeRanTransportCtx} {addr : SockAddrIn}
    (haddr : servingAddr t = some addr) {pdu : Bytes} (hpos : 0 < pdu.length)
    (hmax : pdu.length ≤ ueRlsMaxPduSize) (rrcChannel : UInt32) :
    ∃ dgram, ueRlsDecode dgram = some (.pduTx t.sti .rrc t.nextPduId rrcChannel pdu) ∧
      (ueRanTransportSendNasPdu t pdu rrcChannel).1.sent = sentAfter t addr dgram := by
  have hmax' : pdu.length ≤ 16384 := hmax
  obtain ⟨dgram, henc⟩ : ∃ dgram, ueRlsEncodePduTransmission ueRanTxBufLen t.sti .rrc t.nextPduId
      rrcChannel pdu = some dgram := by
    unfold ueRlsEncodePduTransmission
    rw [if_neg (by simp only [ueRanTxBufLen, ueRlsHeaderSize]; omega),
      if_neg (by simp only [ueRlsMaxPduSize]; omega)]
    exact ⟨_, rfl⟩
  refine ⟨dgram, ueRlsDecode_encodePduTransmission henc, ?_⟩
  unfold ueRanTransportSendNasPdu
  rw [if_neg (by omega), haddr]
  dsimp only
  rw [henc]
  unfold sentAfter sendToAddr
  cases hopen : t.socketOpen with
  | false => simp
  | true =>
    cases hsendto : t.os.sendtoOk with
    | false => simp
    | true => simp

theorem sendInRrc_sent_nas (net : UeNet) {addr : SockAddrIn}
    (haddr : servingAddr net.ran = some addr) {env : Bytes} (hpos : 0 < env.length)
    (hmax : env.length ≤ 8192) :
    ∃ rrc dgram, ulInfoTransferNas rrc = some env ∧
      ueRlsDecode dgram =
        some (.pduTx net.ran.sti .rrc net.ran.nextPduId ueRrcChannelUlDcch rrc) ∧
      (sendInRrc net env).1.ran.sent = sentAfter net.ran addr dgram := by
  obtain ⟨rrc, henc, hrrcPos, hrrcMax⟩ :=
    ueRrcEncodeUlInfoTransfer_of_room hpos hmax
      (show env.length + 4 ≤ uplinkBufLen by simp only [uplinkBufLen]; omega)
  obtain ⟨dgram, hdecode, hsent⟩ := ueRanTransportSendNasPdu_sent haddr hrrcPos
    (by simp only [ueRlsMaxPduSize]; omega) ueRrcChannelUlDcch
  refine ⟨rrc, dgram, ulInfoTransferNas_encode henc, hdecode, ?_⟩
  rw [sendInRrc, henc]
  exact hsent

/-- Under an active context the envelope of a message is sent, and the COUNT moves on. -/
theorem engineSendNasUplink_envelope (snow : Snow3g) {net : UeNet} {nas : Bytes}
    (hact : net.nasSec.active = true) (hint : net.nasSec.intAlg ≠ .nia1)
    (henc : net.nasSec.encAlg ≠ .nea1) (hpos : 0 < nas.length) (hmax : nas.length ≤ 8185)
    (integrityOnly : Bool) :
    ∃ env trace, env.length = 7 + nas.length ∧ octet env 1 = uplinkSht integrityOnly ∧
      peerOpen snow net.nasSec dirUplink net.nasSec.ulCount env = some nas ∧
      engineSendNasUplink net nas integrityOnly = sendInRrc { net with
        nasSec := { net.nasSec with ulCount := ueNasCountIncrement net.nasSec.ulCount }
        trace := trace } env := by
  have hsht : isProtectedSht (uplinkSht integrityOnly) = true := by
    cases integrityOnly with
    | true => rfl
    | false => rfl
  obtain ⟨⟨env, sec⟩, hprot⟩ := ueNasSecurityProtectWithSht_isSome hact hsht hpos
    (show 7 + nas.length ≤ uplinkBufLen by simp only [uplinkBufLen]; omega)
  have hlen := ueNasSecurityProtectWithSht_length hprot
  have hpeer := ueNasSecurityProtectWithSht_eq_peerEnvelope snow hint henc (by omega) hprot
  refine ⟨env, .ulProtected ⟨net.nasSec.keys.knasInt, net.nasSec.keys.knasEnc,
    net.nasSec.ulCount⟩ :: net.trace, hlen, ?_, ?_, ?_⟩
  · rw [hpeer]
    exact octet_one_protectedPdu _ _ _ _
  · rw [hpeer]
    exact peerOpen_peerEnvelope snow henc dirUplink _ hsht nas
  · unfold engineSendNasUplink sendUplink
    rw [if_neg (by omega), if_pos hact, ← uplinkSht, hprot, ueNasSecurityProtectWithSht_ctx hprot]

/-- The message is in the datagram that goes out. -/
theorem engineSendNasUplink_carried (snow : Snow3g) {net : UeNet} {addr : SockAddrIn} {nas : Bytes}
    (hact : net.nasSec.active = true) (hint : net.nasSec.intAlg ≠ .nia1)
    (henc : net.nasSec.encAlg ≠ .nea1) (haddr : servingAddr net.ran = some addr)
    (hpos : 0 < nas.length) (hmax : nas.length ≤ 8185) (integrityOnly : Bool) :
    ∃ dgram, CarriesNas snow net.nasSec net.ran (uplinkSht integrityOnly) nas dgram ∧
      (engineSendNasUplink net nas integrityOnly).1.ran.sent = sentAfter net.ran addr dgram := by
  obtain ⟨env, trace, hlen, hsht, hopen, hsend⟩ :=
    engineSendNasUplink_envelope snow hact hint henc hpos hmax integrityOnly
  -- the transport is as it was when the message is handed over
  obtain ⟨rrc, dgram, hnas, hdecode, hsent⟩ := sendInRrc_sent_nas { net with
      nasSec := { net.nasSec with ulCount := ueNasCountIncrement net.nasSec.ulCount }
      trace := trace }
    haddr (show 0 < env.length by omega) (by omega)
  rw [hsend]
  exact ⟨dgram, ⟨rrc, env, hdecode, hnas, hlen, hsht, hopen⟩, hsent⟩

/-- Under every active context with an algorithm of the source, and with a serving cell, a
NAS message of up to 8185 octets goes out in one datagram that carries it, and the uplink
COUNT moves on by one. -/
theorem engineSendNasUplink_fidelity (snow : Snow3g) {net : UeNet} {addr : SockAddrIn} {nas : Bytes}
    (hact : net.nasSec.active = true) (hint : net.nasSec.intAlg ≠ .nia1)
    (henc : net.nasSec.encAlg ≠ .nea1) (haddr : servingAddr net.ran = some addr)
    (hpos : 0 < nas.length) (hmax : nas.length ≤ 8185) (integrityOnly : Bool) :
    (∃ dgram, CarriesNas snow net.nasSec net.ran (uplinkSht integrityOnly) nas dgram ∧
        (engineSendNasUplink net nas integrityOnly).1.ran.sent = sentAfter net.ran addr dgram) ∧
      ∃ ul : UeNasCount, ul.toNat = (net.nasSec.ulCount.toNat + 1) % 2 ^ 24 ∧
        (engineSendNasUplink net nas integrityOnly).1.nasSec = { net.nasSec with ulCount := ul } := by
  obtain ⟨env, trace, -, -, -, hsend⟩ :=
    engineSendNasUplink_envelope snow hact hint henc hpos hmax integrityOnly
  refine ⟨engineSendNasUplink_carried snow hact hint henc haddr hpos hmax integrityOnly, ?_⟩
  obtain ⟨ran, hframe⟩ := sendInRrc_frame { net with
    nasSec := { net.nasSec with ulCount := ueNasCountIncrement net.nasSec.ulCount }
    trace := trace } env
  rw [hsend, hframe]
  exact ⟨_, ueNasCountIncrement_toNat_mod _, rfl⟩

/-- A gNB the packaged UE is connected to, and a context with both AES algorithms. -/
def connectedNet : UeNet where
  nasSec := aesCtx
  ran := (run exampleUe (.setRadio true :: tickAfter 1 [heartbeatAck])).net.ran
  trace := []

theorem engineSendNasUplink_fidelity_connected :
    (∃ dgram, CarriesNas noSnow3g connectedNet.nasSec connectedNet.ran (uplinkSht false)
          configUpdate dgram ∧
        (engineSendNasUplink connectedNet configUpdate false).1.ran.sent =
          sentAfter connectedNet.ran exampleGnb dgram) ∧
      ∃ ul : UeNasCount, ul.toNat = (connectedNet.nasSec.ulCount.toNat + 1) % 2 ^ 24 ∧
        (engineSendNasUplink connectedNet configUpdate false).1.nasSec =
          { connectedNet.nasSec with ulCount := ul } :=
  engineSendNasUplink_fidelity noSnow3g rfl (by decide) (by decide) (by decide +kernel) (by decide)
    (by decide) false

end VirtualLte.Engine
