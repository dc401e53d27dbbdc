import VirtualLte.Rls.RoundTrip
import VirtualLte.Engine.Transport

/-!
# A UE that listens

How an octet string sent by a configured gNB reaches the NAS entry point.

* `deliver` is the pair of steps: the receive thread takes a datagram from the
  socket, and the next turn of the receive loop takes the PDU from the queue.
* `Listening` is a transport that is started and has no cell yet.  It receives, and
  what it is told to send goes nowhere (`sendEncoded_of_unserved`), so it stays as it
  is.
* `run_deliver`: on a listening UE, `deliver` hands the octets to
  `decode_and_process_nas` and to nothing else.
* `exampleCfg` is the configuration packaged with the program, and `attachRun` and
  the runs after it take its UE to a registration and a session, without security.
-/

namespace VirtualLte.Engine

open Crypto Nas Ran Mm Sm Up Rrc Rls

variable {peer : SockAddrIn} {ctx : UeContext} {t : UeRanTransportCtx}

/-! ## Sending without a cell -/

/-- Without a serving cell the transport is left as it is. -/
theorem sendEncoded_of_unserved {net : UeNet} (h : servingAddr net.ran = none) (e : Encoded)
    (integrityOnly : Bool) : (sendEncoded net e integrityOnly).ran = net.ran := by
  have hrrc : ∀ (n : UeNet) (pdu : Bytes), n.ran = net.ran → (sendInRrc n pdu).1.ran = net.ran := by
    intro n pdu hn
    unfold sendInRrc
    split
    · exact hn
    · simp only [ueRanTransportSendNasPdu, hn, h]
      split <;> rfl
  unfold sendEncoded engineSendNasUplink sendUplink
  repeat' split
  all_goals first | rfl | exact hrrc _ _ rfl

/-! ## Listening -/

/-- A started transport without a cell, to which `peer` is a configured gNB. -/
structure Listening (peer : SockAddrIn) (t : UeRanTransportCtx) : Prop where
  state : t.state = .searching
  socketOpen : t.socketOpen = true
  cells : t.cells = Vector.replicate 16 {}
  serving : t.servingCellId = -1
  queue : t.nasQueue = []
  acks : t.pendingAckIds = []
  known : (t.gnbList.any fun ep => resolveEndpoint t ep = some peer) = true

theorem Listening.servingAddr (h : Listening peer t) : servingAddr t = none := by
  unfold Ran.servingAddr
  rw [if_pos (.inr (by rw [h.serving]; decide))]

theorem Listening.expireCells (h : Listening peer t) (nowMs : UInt64) :
    expireCells t nowMs = t := by
  have hstale : cellStale t nowMs {} = false := rfl
  have hcells : t.cells = Vector.replicate 16 {} := h.cells
  unfold Ran.expireCells
  simp [hcells, hstale]
  rw [← hcells]

/-- The datagram that carries an RRC PDU. -/
def rrcDatagram (channel : UInt32) (pdu : Bytes) : Bytes :=
  (ueRlsEncodePduTransmission ueRanTxBufLen 1 .rrc 0 channel pdu).getD []

theorem ueRlsDecode_rrcDatagram (channel : UInt32) {pdu : Bytes} (h : pdu.length ≤ 8192) :
    ueRlsDecode (rrcDatagram channel pdu) = some (.pduTx 1 .rrc 0 channel pdu) := by
  have henc : ∃ d, ueRlsEncodePduTransmission ueRanTxBufLen 1 .rrc 0 channel pdu = some d := by
    unfold ueRlsEncodePduTransmission
    rw [if_neg (by simp only [ueRanTxBufLen, ueRlsHeaderSize]; omega),
      if_neg (by simp only [ueRlsMaxPduSize]; omega)]
    exact ⟨_, rfl⟩
  obtain ⟨d, hd⟩ := henc
  rw [rrcDatagram, hd]
  exact ueRlsDecode_encodePduTransmission hd

theorem rrcDatagram_length (channel : UInt32) {pdu : Bytes} (h : pdu.length ≤ 8192) :
    (rrcDatagram channel pdu).length = 26 + pdu.length := by
  unfold rrcDatagram ueRlsEncodePduTransmission
  rw [if_neg (by simp only [ueRanTxBufLen, ueRlsHeaderSize]; omega),
    if_neg (by simp only [ueRlsMaxPduSize]; omega)]
  simp [rlsWriteHeader, putBe64, putBe32]
  omega

theorem Listening.receiveDatagram (h : Listening peer t) (nowMs : UInt64) (channel : UInt32)
    {pdu : Bytes} (hlen : pdu.length ≤ 8192) :
    ∃ bytes count, receiveDatagram t nowMs peer (rrcDatagram channel pdu) = { t with
      rxBytes := bytes
      rxPduCount := count
      nasQueue := [⟨.rrc, 0, channel, pdu⟩] } := by
  have hpeer : ∀ bytes, peerIsKnown { t with rxBytes := bytes } peer = true := by
    intro bytes
    have hknown : ((({ t with rxBytes := bytes } : UeRanTransportCtx).gnbList.any fun ep =>
      resolveEndpoint { t with rxBytes := bytes } ep = some peer)) = true := h.known
    rw [peerIsKnown, hknown, Bool.or_true]
  have hcut : pdu.take ueRanRxPduMax = pdu := List.take_of_length_le hlen
  unfold Ran.receiveDatagram
  dsimp only
  rw [hpeer, if_neg (by decide), ueRlsDecode_rrcDatagram channel hlen]
  simp only [handlePduTransmission, h.queue, hcut]
  exact ⟨_, _, rfl⟩

/-- A listening transport queues the PDU of a datagram and goes on listening. -/
theorem Listening.tick (h : Listening peer t) (nowMs : UInt64) (channel : UInt32) {pdu : Bytes}
    (hlen : pdu.length ≤ 8192) :
    ∃ t', ueRanTransportTick t nowMs [(peer, rrcDatagram channel pdu)] false =
        { t' with nasQueue := [⟨.rrc, 0, channel, pdu⟩] } ∧ Listening peer t' := by
  obtain ⟨t₁, hbeat, hl⟩ : ∃ t₁,
      (if t.lastHeartbeatMs = 0 ∨ nowMs - t.lastHeartbeatMs ≥ t.heartbeatIntervalMs then
        sendHeartbeats t nowMs else t) = t₁ ∧ Listening peer t₁ := by
    split
    · obtain ⟨sent, tx, hsend, -⟩ := sendHeartbeats_frame t nowMs
      exact ⟨_, hsend, ⟨h.state, h.socketOpen, h.cells, h.serving, h.queue, h.acks, h.known⟩⟩
    · exact ⟨t, rfl, h⟩
  have hdgram := rrcDatagram_length channel hlen
  have htake : (rrcDatagram channel pdu).take ueRanTxBufLen = rrcDatagram channel pdu := by
    apply List.take_of_length_le
    simp only [ueRanTxBufLen]
    omega
  obtain ⟨bytes, count, hrecv⟩ := hl.receiveDatagram nowMs channel hlen
  have hpending : receivePending nowMs 64 t₁ [(peer, rrcDatagram channel pdu)] = { t₁ with
      rxBytes := bytes
      rxPduCount := count
      nasQueue := [⟨.rrc, 0, channel, pdu⟩] } := by
    rw [receivePending, if_neg (by omega), htake, hrecv]
    rfl
  have hidle : ¬ t.state = .idle := by
    rw [h.state]
    decide
  refine ⟨{ t₁ with rxBytes := bytes, rxPduCount := count }, ?_,
    ⟨hl.state, hl.socketOpen, hl.cells, hl.serving, hl.queue, hl.acks, hl.known⟩⟩
  unfold ueRanTransportTick
  rw [if_neg hidle, h.expireCells]
  simp only [hbeat, hl.socketOpen, if_true, hpending, hl.acks]
  simp [transportTransition, hl.state, hl.serving]

/-! ## Delivery -/

/-- The receive thread takes a datagram with an RRC PDU, and the receive loop the PDU. -/
def deliver (peer : SockAddrIn) (nowMs : UInt64) (channel : UInt32) (pdu : Bytes) : List Step :=
  [.rx nowMs [(peer, rrcDatagram channel pdu)] false, .recv nowMs]

/-- Octets that start as a 5GMM message are no RRC message, so they are tried as NAS. -/
theorem dlDispatch_nas (waiting : Bool) (rest : Bytes) :
    dlDispatch waiting 0 (nasEpd5gmm :: rest) = .nas (nasEpd5gmm :: rest) := by
  have hbits : ueRrcBrInit (nasEpd5gmm :: rest) =
      false :: true :: true :: true :: true :: true :: true :: false :: bitsOfBytes rest := rfl
  have hdcch : ueRrcDecodeDlDcch (nasEpd5gmm :: rest) = none := by
    simp [ueRrcDecodeDlDcch, hbits, ueRrcBrGetBits, natOfBits]
  have hccch : ueRrcDecodeDlCcch (nasEpd5gmm :: rest) = none := by
    simp [ueRrcDecodeDlCcch, hbits, ueRrcBrGetBits, natOfBits]
  simp [dlDispatch, dlFallback, hdcch, hccch, ueRrcChannelDlCcch, ueRrcChannelDlDcch]

/-- The receive thread queues what a configured gNB sends to a listening UE, and the next
turn of the receive loop delivers it. -/
theorem step_rx_deliver (hl : Listening peer ctx.net.ran) (hon : ctx.radioOn = true)
    (nowMs : UInt64) {rest : Bytes} (hlen : rest.length < 8192) :
    ∃ ran, Listening peer { ran with nasQueue := [] } ∧
      step ctx (.rx nowMs [(peer, rrcDatagram 0 (nasEpd5gmm :: rest))] false) =
        receiving ctx ran ctx.postSetupPduCount ∧
      ran.nasQueue = [⟨.rrc, 0, 0, nasEpd5gmm :: rest⟩] ∧
      nasDelivered (receiving ctx ran ctx.postSetupPduCount) (.recv nowMs) =
        some (nasEpd5gmm :: rest) := by
  have hfits : (nasEpd5gmm :: rest).length ≤ 8192 := hlen
  obtain ⟨t, htick, ht⟩ := hl.tick nowMs 0 hfits
  have hcut : (nasEpd5gmm :: rest).take 8192 = nasEpd5gmm :: rest :=
    List.take_of_length_le hfits
  refine ⟨{ t with nasQueue := [⟨.rrc, 0, 0, nasEpd5gmm :: rest⟩] },
    ⟨ht.state, ht.socketOpen, ht.cells, ht.serving, rfl, ht.acks, ht.known⟩, ?_, rfl, ?_⟩
  · rw [step, htick]
    rfl
  · simp only [nasDelivered, recvAction, receiving, hon, ueRanTransportRecvNasPdu, hcut, dlDispatch_nas]
    rfl

/-- What a configured gNB sends to a listening UE is handed to the NAS entry point. -/
theorem run_deliver (hl : Listening peer ctx.net.ran) (hon : ctx.radioOn = true) (nowMs : UInt64)
    {rest : Bytes} (hlen : rest.length < 8192) :
    ∃ ran count, Listening peer ran ∧
      run ctx (deliver peer nowMs 0 (nasEpd5gmm :: rest)) =
        decodeAndProcessNas (receiving ctx ran count) (nasEpd5gmm :: rest) := by
  have hfits : (nasEpd5gmm :: rest).length ≤ 8192 := hlen
  have hcut : (nasEpd5gmm :: rest).take 8192 = nasEpd5gmm :: rest :=
    List.take_of_length_le hfits
  obtain ⟨t, hl', hrx, hqueue, -⟩ := step_rx_deliver hl hon nowMs hlen
  refine ⟨{ t with nasQueue := [] },
    ctx.postSetupPduCount + if ctx.waitingCoreResponse then 1 else 0, hl', ?_⟩
  simp only [run, deliver, Transition.run_cons, Transition.run_nil, hrx]
  simp only [step, recvStep, receiving, hon, ueRanTransportRecvNasPdu, hqueue, hcut, handleDlPdu,
    dlDispatch_nas, performDl]
  rfl

/-- What holds of a message in a listening UE, whatever its transport, holds along its
delivery. -/
theorem along_deliver (hl : Listening peer ctx.net.ran) (hon : ctx.radioOn = true) (nowMs : UInt64)
    {rest : Bytes} (hlen : rest.length < 8192) {P : UeContext → Bytes → Prop}
    (h : ∀ ran count, P (receiving ctx ran count) (nasEpd5gmm :: rest)) :
    Transition.Along step (fun c e => ∀ pdu, nasDelivered c e = some pdu → P c pdu) ctx
      (deliver peer nowMs 0 (nasEpd5gmm :: rest)) := by
  obtain ⟨t, -, hrx, -, hnas⟩ := step_rx_deliver hl hon nowMs hlen
  refine ⟨nofun, ?_, trivial⟩
  rw [hrx]
  intro pdu hpdu
  rw [hnas] at hpdu
  cases hpdu
  exact h t ctx.postSetupPduCount

/-- What holds along a delivery holds of the message delivered. -/
theorem along_deliver_handled (hl : Listening peer ctx.net.ran) (hon : ctx.radioOn = true)
    (nowMs : UInt64) {rest : Bytes} (hlen : rest.length < 8192)
    {Q : UeContext → Bytes → UeContext → Prop}
    (h : Transition.Along step (fun c e => ∀ pdu, nasDelivered c e = some pdu → Q c pdu (step c e))
      ctx (deliver peer nowMs 0 (nasEpd5gmm :: rest))) :
    ∃ ran count ran' count', Q (receiving ctx ran count) (nasEpd5gmm :: rest)
      (decodeAndProcessNas (receiving ctx ran' count') (nasEpd5gmm :: rest)) := by
  obtain ⟨t, -, hrx, -, hnas⟩ := step_rx_deliver hl hon nowMs hlen
  obtain ⟨-, hrecv, -⟩ := h
  rw [hrx] at hrecv
  have hhandled := hrecv _ hnas
  obtain ⟨ran', count', hstep⟩ := step_of_delivered hnas
  rw [hstep] at hhandled
  exact ⟨t, ctx.postSetupPduCount, ran', count', hhandled⟩

/-! ## The packaged configuration -/

/-- The values of `ue.conf.example`. -/
def exampleCfg : UeInstanceConfig where
  sim :=
    { simPresent := true
      imsi := asciiText "208010123456789"
      key := asciiText "00112233445566778899aabbccddeeff"
      opc := asciiText "4dc418d2c117c82115ce5fa6e9d9c103"
      amf := asciiText "8000" }
  network :=
    { mcc := asciiText "208"
      mnc := asciiText "01"
      dnn := asciiText "internet"
      pduType := asciiText "ipv4"
      sliceSst := 1 }
  ran := { gnbAddress := asciiText "10.203.0.2", gnbPort := 4997 }

/-- The address of the packaged configuration's gNB. -/
def exampleGnb : SockAddrIn := ⟨#v[10, 203, 0, 2], 4997⟩

/-- An operating system where every call succeeds. -/
def exampleOs : OsAnswers := { hosts := [(asciiText "10.203.0.2", exampleGnb.addr)] }

/-- A heartbeat acknowledgement at -60 dBm. -/
def heartbeatAck : Bytes := rlsWriteHeader .heartbeatAck 1 ++ putBe32 0xFFFFFFC4

/-- A tick, with what the receive thread found just before it. -/
def tickAfter (nowMs : UInt64) (dgrams : List Bytes) : List Step :=
  [.rx nowMs (dgrams.map fun d => (exampleGnb, d)) false, .tickHead nowMs, .recv nowMs,
    .tickTail nowMs]

/-- The UE of the packaged configuration. -/
def exampleUe : UeContext := ueContextInitFromConfig exampleCfg exampleOs

theorem exampleUe_reachable (es : List Step) : Reachable (run exampleUe es) :=
  ⟨exampleUe, es, ⟨exampleCfg, exampleOs, rfl⟩, rfl⟩

/-- Switched on, it listens to its gNB. -/
theorem exampleUe_listening : Listening exampleGnb (run exampleUe [.setRadio true]).net.ran where
  state := by decide +kernel
  socketOpen := by decide +kernel
  cells := by decide +kernel
  serving := by decide +kernel
  queue := by decide +kernel
  acks := by decide +kernel
  known := by decide +kernel

/-! ## A session without security -/

/-- The UE finds a cell, connects, and sends its Registration Request. -/
def attachRun : List Step :=
  .setRadio true :: tickAfter 1 [heartbeatAck] ++ tickAfter 2 [rrcDatagram ueRrcChannelDlCcch [0x20]]

/-- A plain Registration Accept. -/
def plainRegistrationAccept : Bytes := [nasEpd5gmm, 0x00, nasMsgRegistrationAccept, 0x01, 0x01]

/-- A plain DL NAS Transport with a 5GSM message of at most 255 octets in it. -/
def plainDlNasTransport (sm : Bytes) : Bytes :=
  [nasEpd5gmm, 0x00, nasMsgDlNasTransport, 0x01, 0x00, UInt8.ofNat sm.length] ++ sm

/-- The attach is accepted, and the host's establishment request goes out with the
identities 1 and 1. -/
def connectRun : List Step :=
  attachRun ++ tickAfter 3 [rrcDatagram 0 plainRegistrationAccept] ++ tickAfter 4 []

/-- The request is accepted. -/
def sessionRun : List Step :=
  connectRun ++ tickAfter 5
    [rrcDatagram 0 (plainDlNasTransport [nasEpd5gsm, 1, 1, nasMsgPduSessionEstAccept, 0x11])]

end VirtualLte.Engine
