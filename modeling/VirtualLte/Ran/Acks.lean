import VirtualLte.Rls.RoundTrip
import VirtualLte.Ran.Machine

/-!
# Acknowledged PDUs

An acknowledgement tells the gNB that it need not send a PDU again.  The receive
queues should then hold that PDU until the consumer takes it.

* The log beside the transport (`RxLog`) records what was received, how its
  acknowledgement stands, and what the consumers have read.
* `AckedDelivered` is the property of a state: every acknowledged PDU was stored, and
  what the consumer of a queue has read and will read is, in order, a part of what was
  received that leaves out no acknowledged PDU.
* The identifier is noted for acknowledgement before the queue is looked at, a slot
  holds 8192 octets, and an empty PDU is read like an empty queue.  `deliverable` is the
  condition on a received PDU that excludes the three, and `acked_delivered` follows the
  runs that meet it.
-/

namespace VirtualLte.Ran

open Rls

/-! ## The log -/

/-- How the acknowledgement of a received PDU stands. -/
inductive AckStatus where
  | unasked
  | pending
  | acked
  deriving DecidableEq, Repr

structure RxRecord where
  pduType : UeRlsPduType
  pduId : UInt32
  pdu : Bytes
  stored : Bool
  ack : AckStatus
  deriving DecidableEq, Repr

/-- What was received and what was read, in order. -/
structure RxLog where
  records : List RxRecord := []
  nasRead : List Bytes := []
  dataRead : List Bytes := []
  deriving DecidableEq, Repr

def RxLog.read (log : RxLog) : UeRlsPduType → List Bytes
  | .rrc => log.nasRead
  | .data => log.dataRead

theorem RxLog.read_records (log : RxLog) (records : List RxRecord) (pduType : UeRlsPduType) :
    RxLog.read { log with records } pduType = log.read pduType := by
  cases pduType with
  | rrc => rfl
  | data => rfl

def queueOf (t : UeRanTransportCtx) : UeRlsPduType → List UeRanRxEntry
  | .rrc => t.nasQueue
  | .data => t.dataQueue

/-- The PDU a step hands to `handle_pdu_transmission`. -/
def receivedPdu (t : UeRanTransportCtx) : RanStep → Option (UeRlsPduType × UInt32 × Bytes)
  | .datagram _ peer dgram =>
    if peerIsKnown t peer then
      match ueRlsDecode dgram with
      | some (.pduTx _ pduType pduId _ pdu) => some (pduType, pduId, pdu)
      | _ => none
    else none
  | _ => none

/-- Whether the identifier is noted for acknowledgement. -/
def asksAck (t : UeRanTransportCtx) (pduId : UInt32) : Bool :=
  pduId ≠ 0 && t.pendingAckIds.length < ueRanPendingAckMax

def hasRoom (t : UeRanTransportCtx) (pduType : UeRlsPduType) : Bool :=
  (queueOf t pduType).length < ueRanRxQueueRoom

def recordOf (t : UeRanTransportCtx) (pduType : UeRlsPduType) (pduId : UInt32) (pdu : Bytes) :
    RxRecord where
  pduType
  pduId
  pdu
  stored := hasRoom t pduType
  ack := if asksAck t pduId then .pending else .unasked

/-- After the pending identifiers went out, or were dropped. -/
def RxRecord.settle (sent : Bool) (r : RxRecord) : RxRecord :=
  if r.ack = .pending then { r with ack := if sent then .acked else .unasked } else r

/-- What a receive call shows its caller.  A result of zero octets means an empty queue to it. -/
def readOf (result : Option (UInt32 × Bytes × UeRanTransportCtx)) : List Bytes :=
  (result.map fun r => r.2.1).toList.filter (· ≠ [])

/-- The log of one step. -/
def logStep (t : UeRanTransportCtx) (log : RxLog) (e : RanStep) : RxLog :=
  match e with
  | .acks nowMs =>
    { log with records := log.records.map (.settle ((sendPendingAcks t nowMs).sent ≠ t.sent)) }
  | .recvNas =>
    { log with nasRead := log.nasRead ++ readOf (ueRanTransportRecvNasPdu t engineRecvBufLen) }
  | .recvData =>
    { log with dataRead := log.dataRead ++ readOf (ueRanTransportRecvDataPdu t downlinkBufLen) }
  | e =>
    match receivedPdu t e with
    | some (pduType, pduId, pdu) =>
      { log with records := log.records ++ [recordOf t pduType pduId pdu] }
    | none => log

theorem logStep_acks (t : UeRanTransportCtx) (log : RxLog) (nowMs : UInt64) :
    logStep t log (.acks nowMs) =
      { log with records := log.records.map (.settle ((sendPendingAcks t nowMs).sent ≠ t.sent)) } :=
  rfl

theorem logStep_datagram (t : UeRanTransportCtx) (log : RxLog) (nowMs : UInt64) (peer : SockAddrIn)
    (dgram : Bytes) :
    logStep t log (.datagram nowMs peer dgram) =
      match receivedPdu t (.datagram nowMs peer dgram) with
      | some (pduType, pduId, pdu) =>
        { log with records := log.records ++ [recordOf t pduType pduId pdu] }
      | none => log :=
  rfl

/-- The transport with its log. -/
def loggedStep (s : UeRanTransportCtx × RxLog) (e : RanStep) : UeRanTransportCtx × RxLog :=
  (ranStep s.1 e, logStep s.1 s.2 e)

/-! ## The property -/

/-- What the consumer of a queue will still read. -/
def unread (queue : List UeRanRxEntry) : List Bytes := (queue.map (·.data)).filter (· ≠ [])

/-- Read and unread PDUs are a part of the received ones that has every acknowledged one. -/
def DeliveredInOrder (s : UeRanTransportCtx × RxLog) (pduType : UeRlsPduType) : Prop :=
  ∃ delivered : List RxRecord,
    delivered.Sublist (s.2.records.filter (·.pduType = pduType)) ∧
    (s.2.records.filter fun r => r.pduType = pduType && r.ack = .acked).Sublist delivered ∧
    s.2.read pduType ++ unread (queueOf s.1 pduType) = delivered.map (·.pdu)

/-- An identifier in an acknowledgement is that of an acknowledged PDU. -/
def Outgoing (s : UeRanTransportCtx × RxLog) (d : SockAddrIn × Bytes) : Prop :=
  ∀ sti ids, ueRlsDecode d.2 = some (.pduAck sti ids) →
    ∀ id ∈ ids, ∃ r ∈ s.2.records, r.pduId = id ∧ r.ack = .acked

structure AckedDelivered (sent₀ : List (SockAddrIn × Bytes)) (s : UeRanTransportCtx × RxLog) :
    Prop where
  outgoing : ∀ d ∈ s.1.sent, d ∈ sent₀ ∨ Outgoing s d
  stored : ∀ r ∈ s.2.records, r.ack = .acked → r.stored = true
  delivered : ∀ pduType, DeliveredInOrder s pduType

/-- A received PDU that can be delivered if it is acknowledged: the queue has room and the
PDU is not empty; and what is stored fits its slot. -/
def deliverable (t : UeRanTransportCtx) (pduType : UeRlsPduType) (pduId : UInt32)
    (pdu : Bytes) : Bool :=
  (!asksAck t pduId || hasRoom t pduType && pdu ≠ []) &&
    (!hasRoom t pduType || pdu.length ≤ ueRanRxPduMax)

/-- The steps within one session of the transport, with deliverable PDUs only. -/
def deliverableStep (t : UeRanTransportCtx) (e : RanStep) : Bool :=
  match e with
  | .start => false
  | .stop => false
  | e =>
    match receivedPdu t e with
    | some (pduType, pduId, pdu) => deliverable t pduType pduId pdu
    | none => true

theorem deliverableStep_datagram (t : UeRanTransportCtx) (nowMs : UInt64) (peer : SockAddrIn)
    (dgram : Bytes) :
    deliverableStep t (.datagram nowMs peer dgram) =
      match receivedPdu t (.datagram nowMs peer dgram) with
      | some (pduType, pduId, pdu) => deliverable t pduType pduId pdu
      | none => true :=
  rfl

/-! ## What a step does to the queues -/

/-- The parts the log follows are untouched. -/
structure SameQueues (t t' : UeRanTransportCtx) : Prop where
  queue : ∀ pduType, queueOf t' pduType = queueOf t pduType
  pending : t'.pendingAckIds = t.pendingAckIds

theorem sameQueues_of_fields {t t' : UeRanTransportCtx} (hnas : t'.nasQueue = t.nasQueue)
    (hdata : t'.dataQueue = t.dataQueue) (hpending : t'.pendingAckIds = t.pendingAckIds) :
    SameQueues t t' where
  queue := by
    intro pduType
    cases pduType with
    | rrc => exact hnas
    | data => exact hdata
  pending := hpending

theorem handlePduTransmission_queues (t : UeRanTransportCtx) (pduType : UeRlsPduType)
    (pduId payload : UInt32) (pdu : Bytes) :
    (handlePduTransmission t pduType pduId payload pdu).pendingAckIds =
        (if asksAck t pduId then t.pendingAckIds ++ [pduId] else t.pendingAckIds) ∧
      ∃ entry : UeRanRxEntry, entry.data = pdu.take ueRanRxPduMax ∧ ∀ pduType',
        queueOf (handlePduTransmission t pduType pduId payload pdu) pduType' =
          if pduType' = pduType ∧ hasRoom t pduType = true then queueOf t pduType' ++ [entry]
          else queueOf t pduType' := by
  unfold handlePduTransmission asksAck hasRoom
  simp only [Bool.and_eq_true, decide_eq_true_eq]
  generalize (if pduId ≠ 0 ∧ t.pendingAckIds.length < ueRanPendingAckMax then
    t.pendingAckIds ++ [pduId] else t.pendingAckIds) = pending
  cases pduType with
  | rrc =>
    dsimp only
    by_cases hfull : t.nasQueue.length ≥ ueRanRxQueueRoom
    · rw [if_pos hfull]
      refine ⟨rfl, ⟨.rrc, 0, payload, pdu.take ueRanRxPduMax⟩, rfl, fun pduType' => ?_⟩
      rw [if_neg fun h => Nat.not_lt.mpr hfull h.2]
      cases pduType' with
      | rrc => rfl
      | data => rfl
    · rw [if_neg hfull]
      refine ⟨rfl, ⟨.rrc, 0, payload, pdu.take ueRanRxPduMax⟩, rfl, fun pduType' => ?_⟩
      cases pduType' with
      | rrc => rw [if_pos ⟨rfl, Nat.not_le.mp hfull⟩]; rfl
      | data => rw [if_neg fun h => UeRlsPduType.noConfusion h.1]; rfl
  | data =>
    dsimp only
    by_cases hfull : t.dataQueue.length ≥ ueRanRxQueueRoom
    · rw [if_pos hfull]
      refine ⟨rfl, ⟨.data, payload, 0, pdu.take ueRanRxPduMax⟩, rfl, fun pduType' => ?_⟩
      rw [if_neg fun h => Nat.not_lt.mpr hfull h.2]
      cases pduType' with
      | rrc => rfl
      | data => rfl
    · rw [if_neg hfull]
      refine ⟨rfl, ⟨.data, payload, 0, pdu.take ueRanRxPduMax⟩, rfl, fun pduType' => ?_⟩
      cases pduType' with
      | rrc => rw [if_neg fun h => UeRlsPduType.noConfusion h.1]; rfl
      | data => rw [if_pos ⟨rfl, Nat.not_le.mp hfull⟩]; rfl

/-- A datagram that hands over a PDU does nothing else to the queues. -/
theorem receiveDatagram_received {t : UeRanTransportCtx} {nowMs : UInt64} {peer : SockAddrIn}
    {dgram : Bytes} {pduType : UeRlsPduType} {pduId : UInt32} {pdu : Bytes}
    (h : receivedPdu t (.datagram nowMs peer dgram) = some (pduType, pduId, pdu)) :
    ∃ payload, receiveDatagram t nowMs peer dgram = handlePduTransmission
      { t with rxBytes := t.rxBytes + UInt64.ofNat dgram.length } pduType pduId payload pdu := by
  unfold receivedPdu at h
  dsimp only at h
  split at h
  · rename_i hknown
    split at h
    · rename_i sti pduType' pduId' payload pdu' hdecode
      cases h
      refine ⟨payload, ?_⟩
      have hpeer : ¬ peerIsKnown { t with rxBytes := t.rxBytes + UInt64.ofNat dgram.length } peer = false :=
        fun hunknown => Bool.noConfusion (hknown.symm.trans hunknown)
      unfold receiveDatagram
      dsimp only
      rw [if_neg hpeer, hdecode]
    · cases h
  · cases h

theorem receiveDatagram_other {t : UeRanTransportCtx} {nowMs : UInt64} {peer : SockAddrIn}
    {dgram : Bytes} (h : receivedPdu t (.datagram nowMs peer dgram) = none) :
    SameQueues t (receiveDatagram t nowMs peer dgram) := by
  unfold receiveDatagram
  dsimp only
  split
  · exact sameQueues_of_fields rfl rfl rfl
  rename_i hpeer
  split
  · rename_i sti dbm _
    obtain ⟨_, _, _, _, heq⟩ := handleHeartbeatAck_frame
      { t with rxBytes := t.rxBytes + UInt64.ofNat dgram.length } sti dbm peer nowMs
    rw [heq]
    exact sameQueues_of_fields rfl rfl rfl
  · rename_i hdecode
    have hknown : peerIsKnown t peer = true := Bool.not_eq_false _ ▸ hpeer
    simp [receivedPdu, hknown, hdecode] at h
  · exact sameQueues_of_fields rfl rfl rfl

/-- The steps that touch the queues. -/
def RanStep.isQuiet : RanStep → Bool
  | .start | .stop | .datagram _ _ _ | .acks _ | .recvNas | .recvData => false
  | _ => true

theorem ranStep_quiet (t : UeRanTransportCtx) {e : RanStep} (he : e.isQuiet = true) :
    SameQueues t (ranStep t e) := by
  have hchange := ranStep_change t e
  generalize ranStep t e = t' at hchange ⊢
  cases hchange with
  | failed => cases he
  | started => cases he
  | stopped => cases he
  | received => cases he
  | acked => cases he
  | read hread =>
    rcases hread with rfl | rfl
    · cases he
    · cases he
  | _ => exact sameQueues_of_fields rfl rfl rfl

/-! ## The invariant -/

/-- What the consumer of a queue gets to see of the received PDUs. -/
def RxRecord.isDelivered (pduType : UeRlsPduType) (r : RxRecord) : Bool :=
  r.pduType = pduType && r.stored && r.pdu ≠ []

structure AckInv (sent₀ : List (SockAddrIn × Bytes)) (s : UeRanTransportCtx × RxLog) : Prop where
  /-- The pending identifiers are those of the records marked so. -/
  pending : s.1.pendingAckIds = (s.2.records.filter (·.ack = .pending)).map (·.pduId)
  bounded : s.1.pendingAckIds.length ≤ ueRanPendingAckMax
  kept : ∀ r ∈ s.2.records, r.ack ≠ .unasked → r.stored = true ∧ r.pdu ≠ []
  slots : ∀ pduType, ∀ e ∈ queueOf s.1 pduType, e.data.length ≤ ueRanRxPduMax
  queues : ∀ pduType, s.2.read pduType ++ unread (queueOf s.1 pduType) =
    (s.2.records.filter (·.isDelivered pduType)).map (·.pdu)
  outgoing : ∀ d ∈ s.1.sent, d ∈ sent₀ ∨ Outgoing s d

theorem AckInv.ackedDelivered {sent₀ : List (SockAddrIn × Bytes)}
    {s : UeRanTransportCtx × RxLog} (h : AckInv sent₀ s) : AckedDelivered sent₀ s where
  outgoing := h.outgoing
  stored := fun r hr hack => (h.kept r hr (by rw [hack]; decide)).1
  delivered := by
    intro pduType
    refine ⟨s.2.records.filter (·.isDelivered pduType), ?_, ?_, h.queues pduType⟩
    · have hsplit : s.2.records.filter (·.isDelivered pduType) =
          (s.2.records.filter (·.pduType = pduType)).filter fun r => r.stored && r.pdu ≠ [] := by
        rw [List.filter_filter]
        refine List.filter_congr fun r _ => ?_
        rw [RxRecord.isDelivered, Bool.and_assoc, Bool.and_comm]
      rw [hsplit]
      exact List.filter_sublist
    · have hsplit : (s.2.records.filter fun r => r.pduType = pduType && r.ack = .acked) =
          (s.2.records.filter (·.isDelivered pduType)).filter (·.ack = .acked) := by
        rw [List.filter_filter]
        refine List.filter_congr fun r hr => ?_
        by_cases hack : r.ack = .acked
        · obtain ⟨hstored, hpdu⟩ := h.kept r hr (by rw [hack]; decide)
          simp [RxRecord.isDelivered, hack, hstored, hpdu]
        · simp [hack]
      rw [hsplit]
      exact List.filter_sublist

/-- An outgoing acknowledgement stays accounted for while acknowledged records stay. -/
theorem Outgoing.mono {s s' : UeRanTransportCtx × RxLog} {d : SockAddrIn × Bytes}
    (h : Outgoing s d)
    (hrec : ∀ r ∈ s.2.records, r.ack = .acked → r ∈ s'.2.records) : Outgoing s' d := by
  intro sti ids hdecode id hid
  obtain ⟨r, hr, heq, hack⟩ := h sti ids hdecode id hid
  exact ⟨r, hrec r hr hack, heq, hack⟩

/-- Heartbeats and PDUs acknowledge nothing. -/
theorem outgoing_of_type {s : UeRanTransportCtx × RxLog} {d : SockAddrIn × Bytes}
    (h : octet d.2 4 ≠ 7) : Outgoing s d :=
  fun _ _ hdecode => absurd (ueRlsDecode_type hdecode) h

theorem IsHeartbeat.octet_type {t : UeRanTransportCtx} {d : SockAddrIn × Bytes}
    (h : IsHeartbeat t d) : octet d.2 4 = 4 := by
  obtain ⟨ep, -, -, bufLen, henc⟩ := h
  unfold ueRlsEncodeHeartbeat at henc
  split at henc
  · cases henc
  · rw [← Option.some.inj henc]
    rfl

theorem IsPdu.octet_type {t : UeRanTransportCtx} {d : SockAddrIn × Bytes} (h : IsPdu t d) :
    octet d.2 4 = 6 := by
  obtain ⟨-, pduType, pduId, payload, pdu, henc⟩ := h
  exact ueRlsDecode_type (ueRlsDecode_encodePduTransmission henc)

/-- A step that sends no acknowledgement keeps the account of them. -/
theorem AckInv.outgoing_step {sent₀ : List (SockAddrIn × Bytes)} {s : UeRanTransportCtx × RxLog}
    (h : AckInv sent₀ s) (e : RanStep) (log : RxLog) (he : ∀ nowMs, e ≠ .acks nowMs)
    (hrec : ∀ r ∈ s.2.records, r.ack = .acked → r ∈ log.records) :
    ∀ d ∈ (ranStep s.1 e).sent, d ∈ sent₀ ∨ Outgoing (ranStep s.1 e, log) d := by
  intro d hd
  rcases ranStep_sent s.1 e d hd with hold | hnew
  · exact (h.outgoing d hold).imp_right fun hout => hout.mono hrec
  · right
    cases hnew with
    | heartbeat hbeat => exact outgoing_of_type (by rw [hbeat.octet_type]; decide)
    | ack nowMs heq _ => exact absurd heq (he nowMs)
    | pdu _ hpdu => exact outgoing_of_type (by rw [hpdu.octet_type]; decide)

/-! ## One step -/

variable {sent₀ : List (SockAddrIn × Bytes)} {s : UeRanTransportCtx × RxLog}

theorem AckInv.same (h : AckInv sent₀ s) {e : RanStep} (hsame : SameQueues s.1 (ranStep s.1 e))
    (hlog : logStep s.1 s.2 e = s.2) (he : ∀ nowMs, e ≠ .acks nowMs) :
    AckInv sent₀ (loggedStep s e) := by
  rw [loggedStep, hlog]
  refine ⟨?_, ?_, h.kept, ?_, ?_, h.outgoing_step e s.2 he fun r hr _ => hr⟩
  · rw [hsame.pending]
    exact h.pending
  · rw [hsame.pending]
    exact h.bounded
  · intro pduType
    rw [hsame.queue]
    exact h.slots pduType
  · intro pduType
    rw [hsame.queue]
    exact h.queues pduType

/-- What a deliverable PDU adds to both sides. -/
theorem recordOf_delivered {t : UeRanTransportCtx} {pduType : UeRlsPduType} {pduId : UInt32}
    {pdu : Bytes} (hdel : deliverable t pduType pduId pdu = true) {entry : UeRanRxEntry}
    (hentry : entry.data = pdu.take ueRanRxPduMax) (pduType' : UeRlsPduType) :
    unread (if pduType' = pduType ∧ hasRoom t pduType = true then queueOf t pduType' ++ [entry]
        else queueOf t pduType') =
      unread (queueOf t pduType') ++
        ([recordOf t pduType pduId pdu].filter (·.isDelivered pduType')).map (·.pdu) := by
  simp only [deliverable, Bool.and_eq_true, Bool.or_eq_true, Bool.not_eq_true',
    decide_eq_true_eq] at hdel
  split
  · rename_i hstored
    obtain ⟨rfl, hroom⟩ := hstored
    have hfits : pdu.length ≤ ueRanRxPduMax := by
      rcases hdel.2 with hno | hfits
      · rw [hroom] at hno
        cases hno
      · exact hfits
    rw [unread, List.map_append, List.filter_append, List.map_singleton, hentry,
      List.take_of_length_le hfits, ← unread]
    by_cases hpdu : pdu = []
    · simp [RxRecord.isDelivered, recordOf, hpdu]
    · simp [RxRecord.isDelivered, recordOf, hpdu, hroom]
  · rename_i hnot
    have hout : (recordOf t pduType pduId pdu).isDelivered pduType' = false := by
      by_cases htype : pduType = pduType'
      · have hroom : hasRoom t pduType = false := by
          simpa using fun hroom => hnot ⟨htype.symm, hroom⟩
        simp [RxRecord.isDelivered, recordOf, hroom]
      · simp [RxRecord.isDelivered, recordOf, htype]
    simp [hout]

theorem AckInv.receive (h : AckInv sent₀ s) {nowMs : UInt64} {peer : SockAddrIn} {dgram : Bytes}
    {pduType : UeRlsPduType} {pduId : UInt32} {pdu : Bytes}
    (hrecv : receivedPdu s.1 (.datagram nowMs peer dgram) = some (pduType, pduId, pdu))
    (hdel : deliverable s.1 pduType pduId pdu = true) :
    AckInv sent₀ (loggedStep s (.datagram nowMs peer dgram)) := by
  obtain ⟨payload, heq⟩ := receiveDatagram_received hrecv
  obtain ⟨hpending, entry, hentry, hqueue⟩ := handlePduTransmission_queues
    { s.1 with rxBytes := s.1.rxBytes + UInt64.ofNat dgram.length } pduType pduId payload pdu
  rw [← heq] at hpending hqueue
  have hpending' : (receiveDatagram s.1 nowMs peer dgram).pendingAckIds =
      if asksAck s.1 pduId then s.1.pendingAckIds ++ [pduId] else s.1.pendingAckIds := hpending
  have hqueue' : ∀ pduType', queueOf (receiveDatagram s.1 nowMs peer dgram) pduType' =
      if pduType' = pduType ∧ hasRoom s.1 pduType = true then queueOf s.1 pduType' ++ [entry]
      else queueOf s.1 pduType' := hqueue
  have hlog : logStep s.1 s.2 (.datagram nowMs peer dgram) =
      { s.2 with records := s.2.records ++ [recordOf s.1 pduType pduId pdu] } := by
    rw [logStep_datagram, hrecv]
  rw [loggedStep, hlog]
  refine ⟨?_, ?_, ?_, ?_, ?_, h.outgoing_step _ _ (fun _ => nofun) fun r hr _ =>
    List.mem_append_left _ hr⟩
  · dsimp only [ranStep]
    rw [hpending', List.filter_append, List.map_append, ← h.pending]
    cases hask : asksAck s.1 pduId with
    | true => simp [recordOf, hask]
    | false => simp [recordOf, hask]
  · dsimp only [ranStep]
    rw [hpending']
    split
    · rename_i hask
      simp only [asksAck, Bool.and_eq_true, decide_eq_true_eq] at hask
      rw [List.length_append, List.length_singleton]
      exact hask.2
    · exact h.bounded
  · intro r hr hack
    rcases List.mem_append.mp hr with hold | hnew
    · exact h.kept r hold hack
    · rw [List.mem_singleton.mp hnew] at hack ⊢
      simp only [deliverable, Bool.and_eq_true, Bool.or_eq_true, Bool.not_eq_true',
        decide_eq_true_eq] at hdel
      cases hask : asksAck s.1 pduId with
      | true =>
        rw [hask] at hdel
        exact hdel.1.resolve_left nofun
      | false => simp [recordOf, hask] at hack
  · intro pduType' e he
    dsimp only [ranStep] at he
    rw [hqueue'] at he
    split at he
    · rcases List.mem_append.mp he with hold | hnew
      · exact h.slots pduType' e hold
      · rw [List.mem_singleton.mp hnew, hentry]
        exact List.length_take_le _ _
    · exact h.slots pduType' e he
  · intro pduType'
    dsimp only [ranStep]
    rw [RxLog.read_records, hqueue', recordOf_delivered hdel hentry, ← List.append_assoc, h.queues,
      List.filter_append, List.map_append]

section Settle

variable (sent : Bool) (r : RxRecord)

@[simp] theorem settle_pduId : (r.settle sent).pduId = r.pduId := by
  unfold RxRecord.settle
  split
  · rfl
  · rfl

@[simp] theorem settle_pdu : (r.settle sent).pdu = r.pdu := by
  unfold RxRecord.settle
  split
  · rfl
  · rfl

theorem settle_isDelivered (pduType : UeRlsPduType) :
    (r.settle sent).isDelivered pduType = r.isDelivered pduType := by
  unfold RxRecord.settle
  split
  · rfl
  · rfl

theorem settle_of_ne (h : r.ack ≠ .pending) : r.settle sent = r :=
  if_neg h

theorem settle_ack_ne_pending : (r.settle sent).ack ≠ .pending := by
  unfold RxRecord.settle
  split
  · cases sent with
    | true => exact nofun
    | false => exact nofun
  · assumption

end Settle

theorem AckInv.settle (h : AckInv sent₀ s) (nowMs : UInt64) :
    AckInv sent₀ (loggedStep s (.acks nowMs)) := by
  obtain ⟨sent, tx, heq, hsent⟩ := sendPendingAcks_frame s.1 nowMs
  rw [loggedStep, logStep_acks, ranStep, heq]
  dsimp only
  generalize hout : decide (sent ≠ s.1.sent) = out
  refine ⟨?_, Nat.zero_le _, ?_, h.slots, ?_, ?_⟩
  · rw [List.filter_eq_nil_iff.mpr, List.map_nil]
    intro r hr
    obtain ⟨r₀, -, rfl⟩ := List.mem_map.mp hr
    simpa using settle_ack_ne_pending out r₀
  · intro r hr hack
    obtain ⟨r₀, hr₀, rfl⟩ := List.mem_map.mp hr
    have hack₀ : r₀.ack ≠ .unasked := by
      intro hun
      rw [settle_of_ne _ _ (by rw [hun]; decide)] at hack
      exact hack hun
    obtain ⟨hstored, hpdu⟩ := h.kept r₀ hr₀ hack₀
    rw [RxRecord.settle]
    split
    · exact ⟨hstored, hpdu⟩
    · exact ⟨hstored, hpdu⟩
  · intro pduType
    have hsame : (RxRecord.isDelivered pduType) ∘ (RxRecord.settle out) =
        RxRecord.isDelivered pduType := funext fun r => settle_isDelivered out r pduType
    have hpdu : (fun r : RxRecord => r.pdu) ∘ (RxRecord.settle out) = fun r => r.pdu :=
      funext fun r => settle_pdu out r
    rw [RxLog.read_records, List.filter_map, hsame, List.map_map, hpdu]
    exact h.queues pduType
  · -- the identifiers that went out are those of the records that were pending
    intro d hd
    have hold : ∀ d ∈ s.1.sent, d ∈ sent₀ ∨ Outgoing (({ s.1 with
        sent := sent, txBytes := tx, pendingAckIds := [], lastAckSendMs := nowMs } :
          UeRanTransportCtx), { s.2 with records := s.2.records.map (RxRecord.settle out) }) d := by
      intro d hd
      refine (h.outgoing d hd).imp_right fun hout => hout.mono fun r hr hack => ?_
      exact List.mem_map.mpr ⟨r, hr, settle_of_ne _ _ (by rw [hack]; decide)⟩
    rcases hsent with rfl | ⟨d', rfl, hack⟩
    · exact hold d hd
    · rcases List.mem_cons.mp hd with rfl | hd
      · right
        have hout' : out = true := by
          rw [← hout]
          exact decide_eq_true (List.cons_ne_self d s.1.sent)
        intro sti ids hdecode id hid
        rw [ueRlsDecode_encodePduAck h.bounded hack.2] at hdecode
        cases hdecode
        rw [h.pending] at hid
        obtain ⟨r, hr, rfl⟩ := List.mem_map.mp hid
        obtain ⟨hr, hpend⟩ := List.mem_filter.mp hr
        refine ⟨r.settle out, List.mem_map.mpr ⟨r, hr, rfl⟩, settle_pduId out r, ?_⟩
        rw [RxRecord.settle, if_pos (of_decide_eq_true hpend), hout']
        rfl
      · exact hold d hd

/-- Reading moves a PDU from the unread to the read ones. -/
theorem readOf_append_unread {queue : List UeRanRxEntry} {bufLen : Nat}
    (h : ∀ e ∈ queue, e.data.length ≤ bufLen) {result : Option (UInt32 × Bytes × UeRanTransportCtx)}
    (hresult : (result.map fun r => r.2.1) = queue.head?.map fun e => e.data.take bufLen) :
    readOf result ++ unread queue.tail = unread queue := by
  rw [readOf, hresult]
  cases queue with
  | nil => rfl
  | cons e rest =>
    have hfits : e.data.take bufLen = e.data := List.take_of_length_le (h e (.head _))
    simp only [unread, List.head?_cons, Option.map_some, Option.toList_some, hfits,
      List.tail_cons, List.map_cons, List.filter_cons, List.filter_nil]
    split
    · rfl
    · rfl

theorem recvNas_head (t : UeRanTransportCtx) (bufLen : Nat) :
    ((ueRanTransportRecvNasPdu t bufLen).map fun r => r.2.1) =
      t.nasQueue.head?.map fun e => e.data.take bufLen := by
  unfold ueRanTransportRecvNasPdu
  cases t.nasQueue with
  | nil => rfl
  | cons e rest => rfl

theorem recvData_head (t : UeRanTransportCtx) (bufLen : Nat) :
    ((ueRanTransportRecvDataPdu t bufLen).map fun r => r.2.1) =
      t.dataQueue.head?.map fun e => e.data.take bufLen := by
  unfold ueRanTransportRecvDataPdu
  cases t.dataQueue with
  | nil => rfl
  | cons e rest => rfl

theorem AckInv.readNas (h : AckInv sent₀ s) : AckInv sent₀ (loggedStep s .recvNas) := by
  have hout := h.outgoing_step .recvNas (logStep s.1 s.2 .recvNas) (fun _ => nofun) fun r hr _ => hr
  rw [loggedStep]
  rw [ranStep_recvNas] at hout ⊢
  refine ⟨h.pending, h.bounded, h.kept, ?_, ?_, hout⟩
  · intro pduType e he
    cases pduType with
    | rrc => exact h.slots .rrc e (List.mem_of_mem_tail he)
    | data => exact h.slots .data e he
  · intro pduType
    cases pduType with
    | rrc =>
      refine Eq.trans ?_ (h.queues .rrc)
      exact (List.append_assoc _ _ _).trans
        (congrArg (s.2.nasRead ++ ·) (readOf_append_unread (h.slots .rrc) (recvNas_head _ _)))
    | data => exact h.queues .data

theorem AckInv.readData (h : AckInv sent₀ s) : AckInv sent₀ (loggedStep s .recvData) := by
  have hout := h.outgoing_step .recvData (logStep s.1 s.2 .recvData) (fun _ => nofun)
    fun r hr _ => hr
  rw [loggedStep]
  rw [ranStep_recvData] at hout ⊢
  refine ⟨h.pending, h.bounded, h.kept, ?_, ?_, hout⟩
  · intro pduType e he
    cases pduType with
    | rrc => exact h.slots .rrc e he
    | data => exact h.slots .data e (List.mem_of_mem_tail he)
  · intro pduType
    cases pduType with
    | rrc => exact h.queues .rrc
    | data =>
      have hslots : ∀ e ∈ s.1.dataQueue, e.data.length ≤ downlinkBufLen :=
        fun e he => Nat.le_trans (h.slots .data e he) (by decide)
      refine Eq.trans ?_ (h.queues .data)
      exact (List.append_assoc _ _ _).trans
        (congrArg (s.2.dataRead ++ ·) (readOf_append_unread hslots (recvData_head _ _)))

theorem AckInv.step (s : UeRanTransportCtx × RxLog) (e : RanStep) (h : AckInv sent₀ s)
    (he : deliverableStep s.1 e = true) : AckInv sent₀ (loggedStep s e) := by
  cases e with
  | start => cases he
  | stop => cases he
  | acks nowMs => exact h.settle nowMs
  | recvNas => exact h.readNas
  | recvData => exact h.readData
  | datagram nowMs peer dgram =>
    rw [deliverableStep_datagram] at he
    cases hrecv : receivedPdu s.1 (.datagram nowMs peer dgram) with
    | none =>
      refine h.same (receiveDatagram_other hrecv) ?_ fun _ => nofun
      rw [logStep_datagram, hrecv]
    | some p =>
      obtain ⟨pduType, pduId, pdu⟩ := p
      rw [hrecv] at he
      exact h.receive hrecv he
  | refreshSti => exact h.same (ranStep_quiet s.1 rfl) rfl fun _ => nofun
  | expire nowMs => exact h.same (ranStep_quiet s.1 rfl) rfl fun _ => nofun
  | heartbeats nowMs => exact h.same (ranStep_quiet s.1 rfl) rfl fun _ => nofun
  | transition => exact h.same (ranStep_quiet s.1 rfl) rfl fun _ => nofun
  | hbWorker => exact h.same (ranStep_quiet s.1 rfl) rfl fun _ => nofun
  | sendNas pdu rrcChannel => exact h.same (ranStep_quiet s.1 rfl) rfl fun _ => nofun
  | sendData psi data => exact h.same (ranStep_quiet s.1 rfl) rfl fun _ => nofun
  | os answers => exact h.same (ranStep_quiet s.1 rfl) rfl fun _ => nofun

/-! ## Whole runs -/

/-- From empty queues, a run of steps with deliverable PDUs delivers all it acknowledges. -/
theorem acked_delivered {t : UeRanTransportCtx} (hnas : t.nasQueue = []) (hdata : t.dataQueue = [])
    (hpending : t.pendingAckIds = []) (es : List RanStep)
    (hrun : Transition.Along loggedStep (fun s e => deliverableStep s.1 e = true) (t, {}) es)
    (pre : List RanStep) (hpre : pre <+: es) :
    AckedDelivered t.sent (Transition.run loggedStep (t, {}) pre) := by
  obtain ⟨post, rfl⟩ := hpre
  have hrun' := ((Transition.along_append loggedStep _ _ pre post).mp hrun).1
  have hqueue : ∀ pduType, queueOf t pduType = [] := by
    intro pduType
    cases pduType with
    | rrc => exact hnas
    | data => exact hdata
  have hinit : AckInv t.sent (t, {}) := by
    refine ⟨hpending, ?_, nofun, ?_, ?_, fun d hd => .inl hd⟩
    · dsimp only
      rw [hpending]
      exact Nat.zero_le _
    · intro pduType e he
      rw [hqueue] at he
      cases he
    · intro pduType
      rw [hqueue]
      cases pduType with
      | rrc => rfl
      | data => rfl
  exact (Transition.run_invariant AckInv.step hinit hrun').ackedDelivered

/-- A downlink RRC PDU of one octet. -/
def smallPdu (pduId : UInt32) : RanStep :=
  fromGnb (rlsWriteHeader .pduTransmission 1 ++ [1] ++ putBe32 pduId ++ putBe32 3 ++ putBe32 1 ++ [0x28])

theorem acked_delivered_smallPdu :
    AckedDelivered oneGnb.sent (Transition.run loggedStep (oneGnb, {})
      [gnbHeard, smallPdu 1, smallPdu 2, .acks 1, .recvNas]) :=
  acked_delivered (by decide +kernel) (by decide +kernel) (by decide +kernel)
    [gnbHeard, smallPdu 1, smallPdu 2, .acks 1, .recvNas] (by decide +kernel) _ (List.prefix_refl _)

/-- Thirty-two PDUs in a row are acknowledged, and the last one is dropped. -/
theorem acked_dropped :
    ¬ AckedDelivered oneGnb.sent (Transition.run loggedStep (oneGnb, {})
      (gnbHeard :: ((List.range 32).map fun i => smallPdu (UInt32.ofNat (i + 1))) ++ [.acks 1])) := by
  intro h
  have hlost : ((Transition.run loggedStep (oneGnb, {})
      (gnbHeard :: ((List.range 32).map fun i => smallPdu (UInt32.ofNat (i + 1))) ++
        [.acks 1])).2.records.any fun r => r.ack = .acked && !r.stored) = true := by
    decide +kernel
  obtain ⟨r, hr, hacked⟩ := List.any_eq_true.mp hlost
  simp only [Bool.and_eq_true, decide_eq_true_eq, Bool.not_eq_true'] at hacked
  rw [h.stored r hr hacked.1] at hacked
  cases hacked.2

end VirtualLte.Ran
