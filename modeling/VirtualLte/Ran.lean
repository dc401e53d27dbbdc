import VirtualLte.Rls

/-!
# RAN transport

`ue_ran_transport.c`: the link to the gNBs over UDP.

* **State** is IDLE without a socket, SEARCHING until a cell answers, then
  CONNECTED or LOST as cells come and expire.
* **Cells** are learned from heartbeat acknowledgements; the strongest one serves.
* **The receive thread** runs `ueRanTransportTick` over the datagrams that
  arrived; the engine takes RRC PDUs from the queue it fills.

What the operating system answers (socket creation, sending, name resolution and
the random numbers) is part of the state and changes only by steps of the
environment.  Ring buffers are lists bounded by the number of usable slots.
-/

namespace VirtualLte.Ran

open Rls

/-! ## State -/

def ueRrcChannelDlCcch : UInt32 := 2
def ueRrcChannelDlDcch : UInt32 := 3
def ueRrcChannelUlCcch : UInt32 := 5
def ueRrcChannelUlDcch : UInt32 := 7

inductive UeRanTransportState where
  | idle
  | searching
  | connected
  | lost
  deriving DecidableEq, Repr

/-- An IPv4 socket address. -/
structure SockAddrIn where
  addr : Ipv4
  port : UInt16
  deriving DecidableEq, Repr

structure UeRanGnbEndpoint where
  address : Bytes
  port : UInt16
  deriving DecidableEq, Repr

structure UeRanCellInfo where
  valid : Bool := false
  sti : UInt64 := 0
  cellId : Int := 0
  dbm : Int := 0
  lastSeenMs : UInt64 := 0
  /-- The peer's address; `none` is an `addr_len` of zero. -/
  addr : Option SockAddrIn := none
  deriving DecidableEq, Repr

structure UeRanRxEntry where
  pduType : UeRlsPduType
  psi : UInt32
  rrcChannel : UInt32
  data : Bytes
  deriving DecidableEq, Repr

/-- The answers of the operating system. -/
structure OsAnswers where
  socketOk : Bool := true
  sendtoOk : Bool := true
  /-- Host names, and dotted addresses, with what they resolve to. -/
  hosts : List (Bytes × Ipv4) := []
  /-- The values `rand()` will return. -/
  rand : List UInt32 := []
  deriving DecidableEq, Repr

def ueRanTransportMaxGnb : Nat := 8
def ueRanRxPduMax : Nat := 8192
def ueRanPendingAckMax : Nat := 64

/-- A ring of `UE_RAN_RX_QUEUE_SIZE` slots holds one entry less. -/
def ueRanRxQueueRoom : Nat := 31

structure UeRanTransportCtx where
  state : UeRanTransportState := .idle
  gnbList : List UeRanGnbEndpoint := []
  cells : Vector UeRanCellInfo 16 := Vector.replicate 16 {}
  cellCount : Int := 0
  servingCellId : Int := -1
  nextCellId : Int := 1
  sti : UInt64 := 0
  socketOpen : Bool := false
  lastHeartbeatMs : UInt64 := 0
  heartbeatIntervalMs : UInt64 := 1000
  heartbeatTimeoutMs : UInt64 := 2000
  nextPduId : UInt32 := 1
  nasQueue : List UeRanRxEntry := []
  dataQueue : List UeRanRxEntry := []
  pendingAckIds : List UInt32 := []
  lastAckSendMs : UInt64 := 0
  txPduCount : UInt64 := 0
  rxPduCount : UInt64 := 0
  txBytes : UInt64 := 0
  rxBytes : UInt64 := 0
  os : OsAnswers := {}
  /-- The datagrams handed to `sendto`, newest first. -/
  sent : List (SockAddrIn × Bytes) := []
  deriving DecidableEq, Repr

/-! ## Start and stop -/

/-- Two draws from `rand()` make an STI. -/
def drawSti (t : UeRanTransportCtx) : UeRanTransportCtx :=
  { t with
    sti := ((t.os.rand.headD 0).toUInt64 <<< 32) ||| (t.os.rand.tail.headD 0).toUInt64
    os := { t.os with rand := t.os.rand.drop 2 } }

/-- A fresh context under the answers `os`. -/
def ueRanTransportInit (os : OsAnswers) : UeRanTransportCtx := drawSti { os }

def ueRanTransportAddGnb (t : UeRanTransportCtx) (address : Bytes) (port : UInt16) :
    Option UeRanTransportCtx :=
  if t.gnbList.length ≥ ueRanTransportMaxGnb then none
  else
    some { t with
      gnbList := t.gnbList ++ [⟨address.take 63, if port ≠ 0 then port else 4997⟩] }

/-- The transport, and whether it started. -/
def ueRanTransportStart (t : UeRanTransportCtx) : UeRanTransportCtx × Bool :=
  if t.gnbList.length = 0 then (t, false)
  else if t.os.socketOk = false then (t, false)
  else
    ({ t with
        lastHeartbeatMs := 0
        lastAckSendMs := 0
        pendingAckIds := []
        dataQueue := []
        nasQueue := []
        cells := Vector.replicate 16 {}
        cellCount := 0
        servingCellId := -1
        socketOpen := true
        state := .searching }, true)

def ueRanTransportStop (t : UeRanTransportCtx) : UeRanTransportCtx :=
  { t with
    socketOpen := false
    state := .idle
    cells := Vector.replicate 16 {}
    cellCount := 0
    servingCellId := -1
    nasQueue := []
    dataQueue := []
    pendingAckIds := [] }

def ueRanTransportRefreshSti (t : UeRanTransportCtx) : UeRanTransportCtx := drawSti t

/-! ## Cells -/

/-- The first slot that satisfies `p`. -/
def cellSlot (t : UeRanTransportCtx) (p : UeRanCellInfo → Bool) : Option (Fin 16) :=
  (List.finRange 16).find? fun i => p (t.cells.get i)

def findCellById (t : UeRanTransportCtx) (cellId : Int) : Option UeRanCellInfo :=
  (cellSlot t fun c => c.valid && c.cellId = cellId).map t.cells.get

/-- The strongest valid cell above -999 dBm, the earliest slot on a tie. -/
def selectBestServingCell (t : UeRanTransportCtx) : UeRanTransportCtx :=
  let best := t.cells.toList.foldl
    (fun (best : Int × Int) c => if c.valid && c.dbm > best.1 then (c.dbm, c.cellId) else best)
    (-999, -1)
  { t with servingCellId := best.2 }

/-- Unsigned subtraction, as in the source: a cell seen in the future is stale. -/
def cellStale (t : UeRanTransportCtx) (nowMs : UInt64) (c : UeRanCellInfo) : Bool :=
  c.valid && nowMs - c.lastSeenMs > t.heartbeatTimeoutMs

def expireCells (t : UeRanTransportCtx) (nowMs : UInt64) : UeRanTransportCtx :=
  let stale := t.cells.toList.filter (cellStale t nowMs)
  let servingLost := stale.any fun c => c.cellId = t.servingCellId
  let t' := { t with
    cells := t.cells.map fun c => if cellStale t nowMs c then { c with valid := false } else c
    cellCount := t.cellCount - stale.length }
  if servingLost then
    let t' := selectBestServingCell t'
    if t'.servingCellId < 0 then { t' with state := .lost } else t'
  else t'

theorem cell_lt (i : Fin 16) : i.val < 16 := i.isLt

/-- Store a heartbeat acknowledgement in slot `i` and reselect. -/
def learnCell (t : UeRanTransportCtx) (i : Fin 16) (cell : UeRanCellInfo) (dbm : Int)
    (peer : SockAddrIn) (nowMs : UInt64) : UeRanTransportCtx :=
  selectBestServingCell { t with
    cells := t.cells.set i { cell with dbm, lastSeenMs := nowMs, addr := some peer } (cell_lt i) }

def handleHeartbeatAck (t : UeRanTransportCtx) (sti : UInt64) (dbm : Int) (peer : SockAddrIn)
    (nowMs : UInt64) : UeRanTransportCtx :=
  match cellSlot t fun c => c.valid && c.sti = sti with
  | some i => learnCell t i (t.cells.get i) dbm peer nowMs
  | none =>
    match cellSlot t fun c => !c.valid with
    | none => t
    | some i =>
      learnCell { t with nextCellId := t.nextCellId + 1, cellCount := t.cellCount + 1 } i
        { valid := true, cellId := t.nextCellId, sti } dbm peer nowMs

/-! ## Sending -/

def resolveEndpoint (t : UeRanTransportCtx) (ep : UeRanGnbEndpoint) : Option SockAddrIn :=
  (t.os.hosts.find? fun h => h.1 = ep.address).map fun h => ⟨h.2, ep.port⟩

def sendToAddr (t : UeRanTransportCtx) (addr : SockAddrIn) (data : Bytes) :
    UeRanTransportCtx × Bool :=
  if t.socketOpen = false ∨ t.os.sendtoOk = false then (t, false)
  else
    ({ t with
        sent := (addr, data) :: t.sent
        txBytes := t.txBytes + UInt64.ofNat data.length }, true)

def ueRanTxBufLen : Nat := 16384 + 64

/-- A heartbeat to one endpoint, if its name resolves. -/
def sendHeartbeat (t : UeRanTransportCtx) (ep : UeRanGnbEndpoint) : UeRanTransportCtx :=
  match resolveEndpoint t ep, ueRlsEncodeHeartbeat ueRanTxBufLen t.sti 0 0 0 with
  | some addr, some hb => (sendToAddr t addr hb).1
  | _, _ => t

def sendHeartbeats (t : UeRanTransportCtx) (nowMs : UInt64) : UeRanTransportCtx :=
  { t.gnbList.foldl sendHeartbeat t with lastHeartbeatMs := nowMs }

def sendPendingAcks (t : UeRanTransportCtx) (nowMs : UInt64) : UeRanTransportCtx :=
  let t' :=
    match (findCellById t t.servingCellId).bind (·.addr),
        ueRlsEncodePduAck ueRanTxBufLen t.sti t.pendingAckIds with
    | some addr, some ack => (sendToAddr t addr ack).1
    | _, _ => t
  { t' with pendingAckIds := [], lastAckSendMs := nowMs }

/-- The address of the serving cell, when the link is up. -/
def servingAddr (t : UeRanTransportCtx) : Option SockAddrIn :=
  if t.state ≠ .connected ∨ t.servingCellId < 0 then none
  else (findCellById t t.servingCellId).bind (·.addr)

def ueRanTransportSendNasPdu (t : UeRanTransportCtx) (pdu : Bytes) (rrcChannel : UInt32) :
    UeRanTransportCtx × Bool :=
  if pdu.length = 0 then (t, false)
  else
    match servingAddr t with
    | none => (t, false)
    | some addr =>
      let t' := { t with nextPduId := t.nextPduId + 1 }
      match ueRlsEncodePduTransmission ueRanTxBufLen t.sti .rrc t.nextPduId rrcChannel pdu with
      | none => (t', false)
      | some dgram =>
        let r := sendToAddr t' addr dgram
        if r.2 then ({ r.1 with txPduCount := r.1.txPduCount + 1 }, true) else (r.1, false)

/-- User data carries its session identity in the payload word, and PDU id zero: no one
waits for its acknowledgement. -/
def ueRanTransportSendDataPdu (t : UeRanTransportCtx) (psi : Int) (data : Bytes) :
    UeRanTransportCtx × Bool :=
  if data.length = 0 then (t, false)
  else if psi < 1 ∨ psi > 15 then (t, false)
  else
    match servingAddr t with
    | none => (t, false)
    | some addr =>
      match ueRlsEncodePduTransmission ueRanTxBufLen t.sti .data 0 (UInt32.ofNat psi.toNat) data with
      | none => (t, false)
      | some dgram =>
        let r := sendToAddr t addr dgram
        if r.2 then ({ r.1 with txPduCount := r.1.txPduCount + 1 }, true) else (r.1, false)

/-- One heartbeat of the heartbeat thread, which counts nothing. -/
def hbWorkerSend (t : UeRanTransportCtx) (ep : UeRanGnbEndpoint) : UeRanTransportCtx :=
  match resolveEndpoint t ep, ueRlsEncodeHeartbeat 64 t.sti 0 0 0 with
  | some addr, some hb => if t.os.sendtoOk then { t with sent := (addr, hb) :: t.sent } else t
  | _, _ => t

/-- One turn of the heartbeat thread. -/
def ranHbWorker (t : UeRanTransportCtx) : UeRanTransportCtx :=
  if t.socketOpen = true ∧ t.state ≠ .idle then t.gnbList.foldl hbWorkerSend t else t

/-- A serving cell with an address, an open socket and a `sendto` that works. -/
def canTransmit (t : UeRanTransportCtx) : Bool :=
  (servingAddr t).isSome && t.socketOpen && t.os.sendtoOk

/-- Then a PDU of any permitted size is sent. -/
theorem ueRanTransportSendNasPdu_of_canTransmit {t : UeRanTransportCtx} {pdu : Bytes}
    (h : canTransmit t = true) (hpos : 0 < pdu.length) (hmax : pdu.length ≤ ueRlsMaxPduSize)
    (rrcChannel : UInt32) : (ueRanTransportSendNasPdu t pdu rrcChannel).2 = true := by
  simp only [canTransmit, Bool.and_eq_true] at h
  obtain ⟨⟨hserving, hopen⟩, hsendto⟩ := h
  obtain ⟨addr, haddr⟩ := Option.isSome_iff_exists.mp hserving
  have hmax' : pdu.length ≤ 16384 := hmax
  unfold ueRanTransportSendNasPdu ueRlsEncodePduTransmission
  rw [if_neg (by omega), haddr]
  dsimp only
  rw [if_neg (by simp only [ueRanTxBufLen, ueRlsHeaderSize]; omega),
    if_neg (by simp only [ueRlsMaxPduSize]; omega)]
  simp [sendToAddr, hopen, hsendto]

/-! ## Receiving -/

def handlePduTransmission (t : UeRanTransportCtx) (pduType : UeRlsPduType)
    (pduId payload : UInt32) (pdu : Bytes) : UeRanTransportCtx :=
  let t := { t with
    rxPduCount := t.rxPduCount + 1
    rxBytes := t.rxBytes + UInt64.ofNat pdu.length
    pendingAckIds :=
      if pduId ≠ 0 ∧ t.pendingAckIds.length < ueRanPendingAckMax then t.pendingAckIds ++ [pduId]
      else t.pendingAckIds }
  match pduType with
  | .rrc =>
    if t.nasQueue.length ≥ ueRanRxQueueRoom then t
    else { t with nasQueue := t.nasQueue ++ [⟨.rrc, 0, payload, pdu.take ueRanRxPduMax⟩] }
  | .data =>
    if t.dataQueue.length ≥ ueRanRxQueueRoom then t
    else { t with dataQueue := t.dataQueue ++ [⟨.data, payload, 0, pdu.take ueRanRxPduMax⟩] }

def peerIsKnown (t : UeRanTransportCtx) (peer : SockAddrIn) : Bool :=
  t.cells.toList.any (fun c => c.valid && c.addr = some peer) ||
    t.gnbList.any fun ep => resolveEndpoint t ep = some peer

/-- One datagram, from the byte counter to the handler. -/
def receiveDatagram (t : UeRanTransportCtx) (nowMs : UInt64) (peer : SockAddrIn)
    (dgram : Bytes) : UeRanTransportCtx :=
  let t := { t with rxBytes := t.rxBytes + UInt64.ofNat dgram.length }
  if peerIsKnown t peer = false then t
  else
    match ueRlsDecode dgram with
    | some (.heartbeatAck sti dbm) => handleHeartbeatAck t sti dbm peer nowMs
    | some (.pduTx _ pduType pduId payload pdu) => handlePduTransmission t pduType pduId payload pdu
    | _ => t

/-- Take datagrams until the turn is used up or an empty one arrives. -/
def receivePending (nowMs : UInt64) :
    Nat → UeRanTransportCtx → List (SockAddrIn × Bytes) → UeRanTransportCtx
  | 0, t, _ => t
  | _, t, [] => t
  | fuel + 1, t, (peer, dgram) :: rest =>
    if dgram.length = 0 then t
    else receivePending nowMs fuel (receiveDatagram t nowMs peer (dgram.take ueRanTxBufLen)) rest

/-- The state machine at the end of a transport tick. -/
def transportTransition (t : UeRanTransportCtx) : UeRanTransportCtx :=
  match t.state with
  | .searching => if t.servingCellId ≥ 0 then { t with state := .connected } else t
  | .connected => if t.servingCellId < 0 then { t with state := .lost } else t
  | .lost => if t.servingCellId ≥ 0 then { t with state := .connected } else t
  | .idle => t

/-- One turn of the receive thread over the datagrams waiting in the socket;
`recvError` is a receive error other than an empty socket. -/
def ueRanTransportTick (t : UeRanTransportCtx) (nowMs : UInt64)
    (dgrams : List (SockAddrIn × Bytes)) (recvError : Bool) : UeRanTransportCtx :=
  if t.state = .idle then t
  else
    let t := expireCells t nowMs
    let t :=
      if t.lastHeartbeatMs = 0 ∨ nowMs - t.lastHeartbeatMs ≥ t.heartbeatIntervalMs then
        sendHeartbeats t nowMs
      else t
    let t := if t.socketOpen then receivePending nowMs 64 t dgrams else t
    if recvError then t
    else
      let t :=
        if t.pendingAckIds.length > 0 ∧
            (t.lastAckSendMs = 0 ∨ nowMs - t.lastAckSendMs ≥ 2250) then
          sendPendingAcks t nowMs
        else t
      transportTransition t

/-- Take the oldest RRC PDU, cut to the caller's buffer. -/
def ueRanTransportRecvNasPdu (t : UeRanTransportCtx) (bufLen : Nat) :
    Option (UInt32 × Bytes × UeRanTransportCtx) :=
  match t.nasQueue with
  | [] => none
  | e :: rest => some (e.rrcChannel, e.data.take bufLen, { t with nasQueue := rest })

/-- Take the oldest DATA PDU, with its session identity. -/
def ueRanTransportRecvDataPdu (t : UeRanTransportCtx) (bufLen : Nat) :
    Option (UInt32 × Bytes × UeRanTransportCtx) :=
  match t.dataQueue with
  | [] => none
  | e :: rest => some (e.psi, e.data.take bufLen, { t with dataQueue := rest })

def ueRanTransportIsConnected (t : UeRanTransportCtx) : Bool := t.state = .connected

end VirtualLte.Ran
