import VirtualLte.Lib.Run
import VirtualLte.Ran

/-!
# The transport as a machine

Everything that can happen to the transport, in steps small enough for the
receive thread, the heartbeat thread, the engine and the user plane to interleave.

* A tick of the receive thread is a run of steps (`ueRanTransportTick_run`); unless
  a receive error cut it short, the state machine has the last word
  (`ueRanTransportTick_transition`).
* `Sends` says what a step may hand to the socket and for whom (`ranStep_sent`).
-/

namespace VirtualLte.Ran

open Rls

variable (t : UeRanTransportCtx) (nowMs : UInt64) (dgrams : List (SockAddrIn × Bytes))

/-! ## Steps -/

/-- The buffer the engine receives into. -/
def engineRecvBufLen : Nat := 8192

/-- The buffer the user plane receives into. -/
def downlinkBufLen : Nat := 16384

inductive RanStep where
  | start
  | stop
  | refreshSti
  | expire (nowMs : UInt64)
  | heartbeats (nowMs : UInt64)
  | datagram (nowMs : UInt64) (peer : SockAddrIn) (dgram : Bytes)
  | acks (nowMs : UInt64)
  | transition
  | hbWorker
  | sendNas (pdu : Bytes) (rrcChannel : UInt32)
  | sendData (psi : Int) (data : Bytes)
  | recvNas
  | recvData
  /-- The operating system changes its answers. -/
  | os (answers : OsAnswers)
  deriving DecidableEq, Repr

def ranStep (t : UeRanTransportCtx) : RanStep → UeRanTransportCtx
  | .start => (ueRanTransportStart t).1
  | .stop => ueRanTransportStop t
  | .refreshSti => ueRanTransportRefreshSti t
  | .expire nowMs => expireCells t nowMs
  | .heartbeats nowMs => sendHeartbeats t nowMs
  | .datagram nowMs peer dgram => receiveDatagram t nowMs peer dgram
  | .acks nowMs => sendPendingAcks t nowMs
  | .transition => transportTransition t
  | .hbWorker => ranHbWorker t
  | .sendNas pdu rrcChannel => (ueRanTransportSendNasPdu t pdu rrcChannel).1
  | .sendData psi data => (ueRanTransportSendDataPdu t psi data).1
  | .recvNas =>
    match ueRanTransportRecvNasPdu t engineRecvBufLen with
    | some (_, _, t') => t'
    | none => t
  | .recvData =>
    match ueRanTransportRecvDataPdu t downlinkBufLen with
    | some (_, _, t') => t'
    | none => t
  | .os answers => { t with os := answers }

abbrev ranRun (t : UeRanTransportCtx) (es : List RanStep) : UeRanTransportCtx :=
  Transition.run ranStep t es

theorem ranRun_append (es fs : List RanStep) :
    ranRun t (es ++ fs) = ranRun (ranRun t es) fs := Transition.run_append ranStep t es fs

/-- The transport a configured UE starts with. -/
def RanInit (t : UeRanTransportCtx) : Prop :=
  ∃ os eps, t = { ueRanTransportInit os with gnbList := eps }

abbrev RanReachable (t : UeRanTransportCtx) : Prop := Transition.Reachable ranStep RanInit t

/-- A read takes the head of its queue. -/
theorem ranStep_recvNas : ranStep t .recvNas = { t with nasQueue := t.nasQueue.tail } := by
  unfold ranStep ueRanTransportRecvNasPdu
  cases hqueue : t.nasQueue with
  | nil =>
    show t = { t with nasQueue := [] }
    rw [← hqueue]
  | cons e rest => rfl

theorem ranStep_recvData : ranStep t .recvData = { t with dataQueue := t.dataQueue.tail } := by
  unfold ranStep ueRanTransportRecvDataPdu
  cases hqueue : t.dataQueue with
  | nil =>
    show t = { t with dataQueue := [] }
    rw [← hqueue]
  | cons e rest => rfl

/-- The steps that send a PDU for the engine or the user plane. -/
def RanStep.isSend : RanStep → Bool
  | .sendNas _ _ | .sendData _ _ => true
  | _ => false

/-- The steps a tick is made of. -/
def RanStep.ofTick : RanStep → Bool
  | .expire _ | .heartbeats _ | .datagram _ _ _ | .acks _ | .transition => true
  | _ => false

/-! ## A tick is a run -/

theorem receivePending_run (fuel : Nat) (t : UeRanTransportCtx)
    (dgrams : List (SockAddrIn × Bytes)) :
    ∃ es, receivePending nowMs fuel t dgrams = ranRun t es ∧ ∀ e ∈ es, e.ofTick = true := by
  induction fuel generalizing t dgrams with
  | zero => exact ⟨[], by simp [receivePending], nofun⟩
  | succ fuel ih =>
    cases dgrams with
    | nil => exact ⟨[], by simp [receivePending], nofun⟩
    | cons d rest =>
      obtain ⟨peer, dgram⟩ := d
      rw [receivePending]
      split
      · exact ⟨[], rfl, nofun⟩
      · obtain ⟨es, hes, htick⟩ :=
          ih (receiveDatagram t nowMs peer (dgram.take ueRanTxBufLen)) rest
        exact ⟨.datagram nowMs peer (dgram.take ueRanTxBufLen) :: es, hes,
          List.forall_mem_cons.mpr ⟨rfl, htick⟩⟩

/-- A tick up to its end: what it does before the acknowledgements. -/
private theorem tick_prefix_run (t : UeRanTransportCtx) (nowMs : UInt64)
    (dgrams : List (SockAddrIn × Bytes)) :
    ∃ es,
      (let t := expireCells t nowMs
        let t :=
          if t.lastHeartbeatMs = 0 ∨ nowMs - t.lastHeartbeatMs ≥ t.heartbeatIntervalMs then
            sendHeartbeats t nowMs
          else t
        if t.socketOpen then receivePending nowMs 64 t dgrams else t) = ranRun t es ∧
      ∀ e ∈ es, e.ofTick = true := by
  obtain ⟨bs, hbs, hbsTick⟩ : ∃ bs,
      (if (expireCells t nowMs).lastHeartbeatMs = 0 ∨
          nowMs - (expireCells t nowMs).lastHeartbeatMs ≥ (expireCells t nowMs).heartbeatIntervalMs
        then sendHeartbeats (expireCells t nowMs) nowMs else expireCells t nowMs) =
        ranRun (expireCells t nowMs) bs ∧ ∀ e ∈ bs, e.ofTick = true := by
    split
    · exact ⟨[.heartbeats nowMs], rfl, List.forall_mem_singleton.mpr rfl⟩
    · exact ⟨[], rfl, nofun⟩
  dsimp only
  rw [hbs]
  split
  · obtain ⟨rs, hrs, hrsTick⟩ :=
      receivePending_run nowMs 64 (ranRun (expireCells t nowMs) bs) dgrams
    refine ⟨.expire nowMs :: bs ++ rs, ?_, ?_⟩
    · rw [hrs, ranRun_append]
      rfl
    · simp only [List.cons_append, List.mem_cons, List.mem_append]
      rintro e (rfl | he | he)
      · rfl
      · exact hbsTick e he
      · exact hrsTick e he
  · exact ⟨.expire nowMs :: bs, rfl, List.forall_mem_cons.mpr ⟨rfl, hbsTick⟩⟩

/-- A tick that no receive error cuts short ends in the state machine. -/
theorem ueRanTransportTick_transition (hidle : t.state ≠ .idle) :
    ∃ es, ueRanTransportTick t nowMs dgrams false = transportTransition (ranRun t es) ∧
      ∀ e ∈ es, e.ofTick = true := by
  obtain ⟨es, hes, htick⟩ := tick_prefix_run t nowMs dgrams
  unfold ueRanTransportTick
  rw [if_neg hidle]
  dsimp only at hes ⊢
  rw [hes]
  simp only [Bool.false_eq_true, if_false]
  split
  · refine ⟨es ++ [.acks nowMs], ?_, ?_⟩
    · rw [ranRun_append]
      rfl
    · simp only [List.mem_append, List.mem_singleton]
      rintro e (he | rfl)
      · exact htick e he
      · rfl
  · exact ⟨es, rfl, htick⟩

/-- A tick is a run of steps. -/
theorem ueRanTransportTick_run (recvError : Bool) :
    ∃ es, ueRanTransportTick t nowMs dgrams recvError = ranRun t es ∧
      ∀ e ∈ es, e.ofTick = true := by
  by_cases hidle : t.state = .idle
  · exact ⟨[], by simp [ueRanTransportTick, hidle], nofun⟩
  cases recvError with
  | false =>
    obtain ⟨es, hes, htick⟩ := ueRanTransportTick_transition t nowMs dgrams hidle
    refine ⟨es ++ [.transition], ?_, ?_⟩
    · rw [hes, ranRun_append]
      rfl
    · simp only [List.mem_append, List.mem_singleton]
      rintro e (he | rfl)
      · exact htick e he
      · rfl
  | true =>
    obtain ⟨es, hes, htick⟩ := tick_prefix_run t nowMs dgrams
    refine ⟨es, ?_, htick⟩
    unfold ueRanTransportTick
    rw [if_neg hidle]
    exact hes

/-! ## What a step sends -/

theorem sendToAddr_frame (addr : SockAddrIn) (data : Bytes) :
    ∃ sent tx, (sendToAddr t addr data).1 = { t with sent := sent, txBytes := tx } ∧
      (sent = t.sent ∨ sent = (addr, data) :: t.sent) := by
  unfold sendToAddr
  split
  · exact ⟨t.sent, t.txBytes, rfl, .inl rfl⟩
  · exact ⟨_, _, rfl, .inr rfl⟩

/-- A heartbeat to a configured endpoint. -/
def IsHeartbeat (t : UeRanTransportCtx) (d : SockAddrIn × Bytes) : Prop :=
  ∃ ep ∈ t.gnbList, resolveEndpoint t ep = some d.1 ∧
    ∃ bufLen, ueRlsEncodeHeartbeat bufLen t.sti 0 0 0 = some d.2

/-- Any way of sending heartbeats to all endpoints only adds heartbeats to what was sent. -/
theorem heartbeats_frame {send : UeRanTransportCtx → UeRanGnbEndpoint → UeRanTransportCtx}
    (hsend : ∀ t ep, ∃ sent tx, send t ep = { t with sent := sent, txBytes := tx } ∧
      (sent = t.sent ∨ ∃ d, sent = d :: t.sent ∧ resolveEndpoint t ep = some d.1 ∧
        ∃ bufLen, ueRlsEncodeHeartbeat bufLen t.sti 0 0 0 = some d.2))
    (t : UeRanTransportCtx) (eps : List UeRanGnbEndpoint) (heps : ∀ ep ∈ eps, ep ∈ t.gnbList) :
    ∃ sent tx, eps.foldl send t = { t with sent := sent, txBytes := tx } ∧
      ∀ d ∈ sent, d ∈ t.sent ∨ IsHeartbeat t d := by
  induction eps generalizing t with
  | nil => exact ⟨t.sent, t.txBytes, rfl, fun d hd => .inl hd⟩
  | cons ep eps ih =>
    obtain ⟨sent, tx, hone, hsent⟩ := hsend t ep
    obtain ⟨sent', tx', hall, hsent'⟩ := ih { t with sent := sent, txBytes := tx }
      fun ep hep => heps ep (.tail _ hep)
    refine ⟨sent', tx', by rw [List.foldl_cons, hone, hall], ?_⟩
    intro d hd
    rcases hsent' d hd with hold | hbeat
    · rcases hsent with heq | ⟨d', heq, haddr, henc⟩
      · rw [heq] at hold
        exact .inl hold
      · rw [heq] at hold
        rcases List.mem_cons.mp hold with rfl | hold
        · exact .inr ⟨ep, heps ep (.head _), haddr, henc⟩
        · exact .inl hold
    · exact .inr hbeat

theorem sendHeartbeats_frame :
    ∃ sent tx, sendHeartbeats t nowMs =
        { t with sent := sent, txBytes := tx, lastHeartbeatMs := nowMs } ∧
      ∀ d ∈ sent, d ∈ t.sent ∨ IsHeartbeat t d := by
  obtain ⟨sent, tx, heq, hsent⟩ := @heartbeats_frame sendHeartbeat (by
    intro t ep
    unfold sendHeartbeat
    split
    · rename_i addr hb haddr henc
      obtain ⟨sent, tx, heq, hsent⟩ := sendToAddr_frame t addr hb
      exact ⟨sent, tx, heq, hsent.imp_right fun h => ⟨(addr, hb), h, haddr, _, henc⟩⟩
    · exact ⟨t.sent, t.txBytes, rfl, .inl rfl⟩) t t.gnbList fun _ h => h
  exact ⟨sent, tx, by rw [sendHeartbeats, heq], hsent⟩

theorem ranHbWorker_frame :
    ∃ sent tx, ranHbWorker t = { t with sent := sent, txBytes := tx } ∧
      ∀ d ∈ sent, d ∈ t.sent ∨ IsHeartbeat t d := by
  unfold ranHbWorker
  split
  · refine heartbeats_frame ?_ t t.gnbList fun _ h => h
    intro t ep
    unfold hbWorkerSend
    split
    · rename_i addr hb haddr henc
      split
      · exact ⟨_, t.txBytes, rfl, .inr ⟨(addr, hb), rfl, haddr, _, henc⟩⟩
      · exact ⟨t.sent, t.txBytes, rfl, .inl rfl⟩
    · exact ⟨t.sent, t.txBytes, rfl, .inl rfl⟩
  · exact ⟨t.sent, t.txBytes, rfl, fun d hd => .inl hd⟩

/-- A start either fails or begins a fresh session with an empty cell table. -/
theorem ueRanTransportStart_cases :
    (ueRanTransportStart t).1 = t ∨ (ueRanTransportStart t).1 = { t with
      lastHeartbeatMs := 0, lastAckSendMs := 0, pendingAckIds := [], dataQueue := []
      nasQueue := [], cells := Vector.replicate 16 {}, cellCount := 0, servingCellId := -1
      socketOpen := true, state := .searching } := by
  unfold ueRanTransportStart
  split
  · exact .inl rfl
  split
  · exact .inl rfl
  · exact .inr rfl

theorem transportTransition_frame : ∃ state, transportTransition t = { t with state := state } := by
  unfold transportTransition
  repeat' split
  all_goals exact ⟨_, rfl⟩

theorem expireCells_frame :
    ∃ cells count serving state, expireCells t nowMs = { t with
      cells := cells, cellCount := count, servingCellId := serving, state := state } := by
  unfold expireCells selectBestServingCell
  dsimp only
  split
  · split
    · exact ⟨_, _, _, _, rfl⟩
    · exact ⟨_, _, _, _, rfl⟩
  · exact ⟨_, _, _, _, rfl⟩

theorem handleHeartbeatAck_frame (sti : UInt64) (dbm : Int) (peer : SockAddrIn) (nowMs : UInt64) :
    ∃ cells count serving next, handleHeartbeatAck t sti dbm peer nowMs = { t with
      cells := cells, cellCount := count, servingCellId := serving, nextCellId := next } := by
  unfold handleHeartbeatAck
  split
  · exact ⟨_, _, _, _, rfl⟩
  split
  · exact ⟨_, _, _, _, rfl⟩
  · exact ⟨_, _, _, _, rfl⟩

theorem handlePduTransmission_frame (pduType : UeRlsPduType) (pduId payload : UInt32)
    (pdu : Bytes) :
    ∃ count bytes pending nas data, handlePduTransmission t pduType pduId payload pdu = { t with
      rxPduCount := count, rxBytes := bytes, pendingAckIds := pending
      nasQueue := nas, dataQueue := data } := by
  unfold handlePduTransmission
  cases pduType with
  | rrc =>
    dsimp only
    split
    · exact ⟨_, _, _, _, _, rfl⟩
    · exact ⟨_, _, _, _, _, rfl⟩
  | data =>
    dsimp only
    split
    · exact ⟨_, _, _, _, _, rfl⟩
    · exact ⟨_, _, _, _, _, rfl⟩

theorem receiveDatagram_frame (peer : SockAddrIn) (dgram : Bytes) :
    ∃ rxBytes rxPduCount cells cellCount servingCellId nextCellId pendingAckIds nasQueue dataQueue,
      receiveDatagram t nowMs peer dgram = { t with
        rxBytes, rxPduCount, cells, cellCount, servingCellId, nextCellId, pendingAckIds, nasQueue,
        dataQueue } := by
  unfold receiveDatagram
  dsimp only
  split
  · exact ⟨_, _, _, _, _, _, _, _, _, rfl⟩
  split
  · rename_i sti dbm _
    obtain ⟨_, _, _, _, heq⟩ := handleHeartbeatAck_frame
      { t with rxBytes := t.rxBytes + UInt64.ofNat dgram.length } sti dbm peer nowMs
    rw [heq]
    exact ⟨_, _, _, _, _, _, _, _, _, rfl⟩
  · rename_i sti pduType pduId payload pdu _
    obtain ⟨_, _, _, _, _, heq⟩ := handlePduTransmission_frame
      { t with rxBytes := t.rxBytes + UInt64.ofNat dgram.length } pduType pduId payload pdu
    rw [heq]
    exact ⟨_, _, _, _, _, _, _, _, _, rfl⟩
  · exact ⟨_, _, _, _, _, _, _, _, _, rfl⟩

/-- An acknowledgement of all that is pending, for the serving cell. -/
def IsAck (t : UeRanTransportCtx) (d : SockAddrIn × Bytes) : Prop :=
  (findCellById t t.servingCellId).bind (·.addr) = some d.1 ∧
    ueRlsEncodePduAck ueRanTxBufLen t.sti t.pendingAckIds = some d.2

theorem sendPendingAcks_frame :
    ∃ sent tx, sendPendingAcks t nowMs = { t with
        sent := sent, txBytes := tx, pendingAckIds := [], lastAckSendMs := nowMs } ∧
      (sent = t.sent ∨ ∃ d, sent = d :: t.sent ∧ IsAck t d) := by
  unfold sendPendingAcks
  dsimp only
  split
  · rename_i addr ack haddr henc
    obtain ⟨sent, tx, heq, hsent⟩ := sendToAddr_frame t addr ack
    exact ⟨sent, tx, by rw [heq], hsent.imp_right fun h => ⟨(addr, ack), h, haddr, henc⟩⟩
  · exact ⟨t.sent, t.txBytes, rfl, .inl rfl⟩

/-- A PDU for the serving cell. -/
def IsPdu (t : UeRanTransportCtx) (d : SockAddrIn × Bytes) : Prop :=
  servingAddr t = some d.1 ∧ ∃ pduType pduId payload pdu,
    ueRlsEncodePduTransmission ueRanTxBufLen t.sti pduType pduId payload pdu = some d.2

theorem ueRanTransportSendNasPdu_frame (pdu : Bytes) (rrcChannel : UInt32) :
    ∃ next sent tx count, (ueRanTransportSendNasPdu t pdu rrcChannel).1 = { t with
        nextPduId := next, sent := sent, txBytes := tx, txPduCount := count } ∧
      (sent = t.sent ∨ ∃ d, sent = d :: t.sent ∧ IsPdu t d) := by
  unfold ueRanTransportSendNasPdu
  split
  · exact ⟨_, _, _, _, rfl, .inl rfl⟩
  split
  · exact ⟨_, _, _, _, rfl, .inl rfl⟩
  rename_i addr haddr
  dsimp only
  split
  · exact ⟨_, _, _, _, rfl, .inl rfl⟩
  rename_i dgram henc
  obtain ⟨sent, tx, heq, hsent⟩ := sendToAddr_frame { t with nextPduId := t.nextPduId + 1 } addr dgram
  have hsent' : sent = t.sent ∨ ∃ d, sent = d :: t.sent ∧ IsPdu t d :=
    hsent.imp_right fun h => ⟨(addr, dgram), h, haddr, _, _, _, _, henc⟩
  split
  · exact ⟨_, _, _, _, by rw [heq], hsent'⟩
  · exact ⟨_, _, _, _, heq, hsent'⟩

theorem ueRanTransportSendDataPdu_frame (psi : Int) (data : Bytes) :
    ∃ sent tx count, (ueRanTransportSendDataPdu t psi data).1 = { t with
        sent := sent, txBytes := tx, txPduCount := count } ∧
      (sent = t.sent ∨ ∃ d, sent = d :: t.sent ∧ IsPdu t d) := by
  unfold ueRanTransportSendDataPdu
  split
  · exact ⟨_, _, _, rfl, .inl rfl⟩
  split
  · exact ⟨_, _, _, rfl, .inl rfl⟩
  split
  · exact ⟨_, _, _, rfl, .inl rfl⟩
  rename_i addr haddr
  split
  · exact ⟨_, _, _, rfl, .inl rfl⟩
  rename_i dgram henc
  obtain ⟨sent, tx, heq, hsent⟩ := sendToAddr_frame t addr dgram
  have hsent' : sent = t.sent ∨ ∃ d, sent = d :: t.sent ∧ IsPdu t d :=
    hsent.imp_right fun h => ⟨(addr, dgram), h, haddr, _, _, _, _, henc⟩
  dsimp only
  split
  · exact ⟨_, _, _, by rw [heq], hsent'⟩
  · exact ⟨_, _, _, heq, hsent'⟩

/-- What a step may hand to the socket. -/
inductive Sends (t : UeRanTransportCtx) (e : RanStep) (d : SockAddrIn × Bytes) : Prop
  | heartbeat (h : IsHeartbeat t d)
  | ack (nowMs : UInt64) (he : e = .acks nowMs) (h : IsAck t d)
  | pdu (he : e.isSend = true) (h : IsPdu t d)

private theorem mem_sent_of_cons {α : Type} {sent old : List α} {P : α → Prop}
    (h : sent = old ∨ ∃ d, sent = d :: old ∧ P d) : ∀ d ∈ sent, d ∈ old ∨ P d := by
  intro d hd
  rcases h with rfl | ⟨d', rfl, hp⟩
  · exact .inl hd
  · rcases List.mem_cons.mp hd with rfl | hd
    · exact .inr hp
    · exact .inl hd

/-- What a step changes, one case for each part of the transport. -/
inductive RanChange (t : UeRanTransportCtx) : RanStep → UeRanTransportCtx → Prop
  | failed : RanChange t .start t
  | started : RanChange t .start { t with
      lastHeartbeatMs := 0, lastAckSendMs := 0, pendingAckIds := [], dataQueue := []
      nasQueue := [], cells := Vector.replicate 16 {}, cellCount := 0, servingCellId := -1
      socketOpen := true, state := .searching }
  | stopped : RanChange t .stop (ueRanTransportStop t)
  | renamed : RanChange t .refreshSti (ueRanTransportRefreshSti t)
  | environment (answers : OsAnswers) : RanChange t (.os answers) { t with os := answers }
  | moved {state : UeRanTransportState} (heq : transportTransition t = { t with state }) :
    RanChange t .transition { t with state }
  | expired (nowMs : UInt64) {cells : Vector UeRanCellInfo 16}
    {cellCount servingCellId : Int} {state : UeRanTransportState}
    (heq : expireCells t nowMs = { t with cells, cellCount, servingCellId, state }) :
    RanChange t (.expire nowMs) { t with cells, cellCount, servingCellId, state }
  | received (nowMs : UInt64) (peer : SockAddrIn) (dgram : Bytes) {rxBytes rxPduCount : UInt64}
    {cells : Vector UeRanCellInfo 16} {cellCount servingCellId nextCellId : Int}
    {pendingAckIds : List UInt32} {nasQueue dataQueue : List UeRanRxEntry}
    (heq : receiveDatagram t nowMs peer dgram = { t with
      rxBytes, rxPduCount, cells, cellCount, servingCellId, nextCellId, pendingAckIds, nasQueue,
      dataQueue }) :
    RanChange t (.datagram nowMs peer dgram) { t with
      rxBytes, rxPduCount, cells, cellCount, servingCellId, nextCellId, pendingAckIds, nasQueue,
      dataQueue }
  | read {e : RanStep} {nasQueue dataQueue : List UeRanRxEntry} (he : e = .recvNas ∨ e = .recvData) :
    RanChange t e { t with nasQueue, dataQueue }
  | beat {e : RanStep} {sent : List (SockAddrIn × Bytes)} {txBytes lastHeartbeatMs : UInt64}
    (he : (∃ nowMs, e = .heartbeats nowMs) ∨ e = .hbWorker)
    (hsent : ∀ d ∈ sent, d ∈ t.sent ∨ IsHeartbeat t d) :
    RanChange t e { t with sent, txBytes, lastHeartbeatMs }
  | acked (nowMs : UInt64) {sent : List (SockAddrIn × Bytes)} {txBytes : UInt64}
    (hsent : ∀ d ∈ sent, d ∈ t.sent ∨ IsAck t d) :
    RanChange t (.acks nowMs) { t with
      sent, txBytes, pendingAckIds := [], lastAckSendMs := nowMs }
  | sent {e : RanStep} {nextPduId : UInt32} {sent : List (SockAddrIn × Bytes)}
    {txBytes txPduCount : UInt64} (he : e.isSend = true)
    (hsent : ∀ d ∈ sent, d ∈ t.sent ∨ IsPdu t d) :
    RanChange t e { t with nextPduId, sent, txBytes, txPduCount }

theorem ranStep_change (e : RanStep) : RanChange t e (ranStep t e) := by
  cases e with
  | start =>
    rcases ueRanTransportStart_cases t with heq | heq
    · rw [ranStep, heq]
      exact .failed
    · rw [ranStep, heq]
      exact .started
  | stop => exact .stopped
  | refreshSti => exact .renamed
  | expire nowMs =>
    obtain ⟨_, _, _, _, heq⟩ := expireCells_frame t nowMs
    rw [ranStep, heq]
    exact .expired nowMs heq
  | heartbeats nowMs =>
    obtain ⟨_, _, heq, hsent⟩ := sendHeartbeats_frame t nowMs
    rw [ranStep, heq]
    exact .beat (.inl ⟨nowMs, rfl⟩) hsent
  | datagram nowMs peer dgram =>
    obtain ⟨_, _, _, _, _, _, _, _, _, heq⟩ := receiveDatagram_frame t nowMs peer dgram
    rw [ranStep, heq]
    exact .received nowMs peer dgram heq
  | acks nowMs =>
    obtain ⟨_, _, heq, hsent⟩ := sendPendingAcks_frame t nowMs
    rw [ranStep, heq]
    exact .acked nowMs (mem_sent_of_cons hsent)
  | transition =>
    obtain ⟨_, heq⟩ := transportTransition_frame t
    rw [ranStep, heq]
    exact .moved heq
  | hbWorker =>
    obtain ⟨_, _, heq, hsent⟩ := ranHbWorker_frame t
    rw [ranStep, heq]
    exact .beat (.inr rfl) hsent
  | sendNas pdu rrcChannel =>
    obtain ⟨_, _, _, _, heq, hsent⟩ := ueRanTransportSendNasPdu_frame t pdu rrcChannel
    rw [ranStep, heq]
    exact .sent rfl (mem_sent_of_cons hsent)
  | sendData psi data =>
    obtain ⟨_, _, _, heq, hsent⟩ := ueRanTransportSendDataPdu_frame t psi data
    rw [ranStep, heq]
    exact .sent rfl (mem_sent_of_cons hsent)
  | recvNas =>
    rw [ranStep_recvNas]
    exact .read (.inl rfl)
  | recvData =>
    rw [ranStep_recvData]
    exact .read (.inr rfl)
  | os answers => exact .environment answers

theorem ranStep_sent (e : RanStep) : ∀ d ∈ (ranStep t e).sent, d ∈ t.sent ∨ Sends t e d := by
  intro d hd
  have hchange := ranStep_change t e
  generalize ranStep t e = t' at hchange hd
  cases hchange with
  | beat he hsent => exact (hsent d hd).imp_right .heartbeat
  | acked nowMs hsent => exact (hsent d hd).imp_right (.ack nowMs rfl)
  | sent he hsent => exact (hsent d hd).imp_right (.pdu he)
  | _ => exact .inl hd

/-! ## One gNB -/

/-- A transport with one gNB, `g` on the configured port. -/
def oneGnbInit : UeRanTransportCtx :=
  { ueRanTransportInit { hosts := [([0x67], #v[127, 0, 0, 1])] } with gnbList := [⟨[0x67], 4997⟩] }

theorem ranInit_oneGnbInit : RanInit oneGnbInit := ⟨_, _, rfl⟩

/-- The same, started. -/
def oneGnb : UeRanTransportCtx := ranRun oneGnbInit [.start]

/-- A datagram of that gNB. -/
def fromGnb (dgram : Bytes) : RanStep := .datagram 1 ⟨#v[127, 0, 0, 1], 4997⟩ dgram

/-- Its heartbeat acknowledgement, at -60 dBm. -/
def gnbHeard : RanStep := fromGnb (rlsWriteHeader .heartbeatAck 1 ++ putBe32 0xFFFFFFC4)

end VirtualLte.Ran
