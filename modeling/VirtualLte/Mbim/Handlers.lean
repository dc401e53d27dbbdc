import VirtualLte.Mbim.SmsStore

/-!
# The command handlers

`mbim_handlers.c`: what a COMMAND of each service and CID does and answers.

* `cmd` is the whole command buffer and `cmdLen` the number of octets received into
  it; what lies behind them was left by earlier commands.
* A handler gives an `Outcome`: the status and the information buffer of the
  COMMAND_DONE, the calls made into the modem, and the state left behind; or the
  vendor event, whose answer the channel makes itself.
* `mbimHandlersHandleCommand` frames the outcome.  `mbimHandlersHandleCommand_outcome`
  is all the channel needs to know of it: the frame, and what it leaves of the messages.
-/

namespace VirtualLte.Mbim

variable (st : HandlerState) (cmd : Bytes) (cmdLen cmdType : UInt32)

/-- Capacity of the information buffer: the response buffer less the header. -/
def mbimInfobufCap : UInt32 := 4096 - 48

/-! ## State -/

structure ModemIdentity where
  imei : Bytes := []
  imsi : Bytes := []
  iccid : Bytes := []
  model : Bytes := []
  firmware : Bytes := []
  deriving DecidableEq, Repr

structure ModemOperator where
  plmn : Bytes := []
  name : Bytes := []
  deriving DecidableEq, Repr

structure ModemIpConfig where
  ipv4Addr : Ipv4 := Vector.replicate 4 0
  ipv4Gw : Ipv4 := Vector.replicate 4 0
  ipv4Dns1 : Ipv4 := Vector.replicate 4 0
  mtu : UInt32 := 0
  deriving DecidableEq, Repr

structure ModemState where
  simReady : Bool := false
  radioHwOn : Bool := false
  radioSwOn : Bool := false
  registeredHome : Bool := false
  packetAttached : Bool := false
  connectActivated : Bool := false
  connectSessionId : UInt32 := 0
  apn : Bytes := []
  identity : ModemIdentity := {}
  oper : ModemOperator := {}
  ip : ModemIpConfig := {}
  deriving DecidableEq, Repr

/-- `"internet"`. -/
def apnInternet : Bytes := [0x69, 0x6e, 0x74, 0x65, 0x72, 0x6e, 0x65, 0x74]

structure MbimBceState where
  attachApn : Bytes := apnInternet
  attachApnSet : Bool := false
  deriving DecidableEq, Repr

/-- What the handlers read and write. -/
structure HandlerState where
  modem : ModemState := {}
  bce : MbimBceState := {}
  sms : SmsStore := {}
  deriving DecidableEq, Repr

/-- The calls behind `struct mbim_handler_actions`. -/
inductive HandlerCall where
  | requestRegister
  | requestConnect (apn : Bytes)
  | requestDisconnect
  | setRadio (on : Bool)
  | sendSmsIms (pdu : Bytes)
  deriving DecidableEq, Repr

/-- The values of `struct mbim_handler_actions`, and how the IMS service answers a
submission: the message reference, if it takes it. -/
structure HandlerActions where
  smsEnabled : Bool
  imsEnabled : Bool
  sendSmsIms : Bytes → Option UInt32

/-- A QMI_CTL_SYNC request, with the place of its payload in the command buffer. -/
structure MbimVendorEvent where
  tid : UInt32
  cid : UInt32
  qmiPayload : Nat
  qmiPayloadLen : UInt32
  deriving DecidableEq, Repr

inductive Outcome where
  | done (st : HandlerState) (calls : List HandlerCall) (status : UInt32) (info : Bytes)
  | qmiCtlSync (event : MbimVendorEvent)

/-- An answer without a call into the modem. -/
def Outcome.reply (st : HandlerState) (info : Bytes) : Outcome :=
  .done st [] mbimStatusSuccess info

/-! ## Services of extensions and SMS -/

/-- At most `room` characters, up to a zero or to the last whole pair. -/
def utf16leAsciiToCstr : Nat → Bytes → Bytes
  | room + 1, c :: _ :: rest => if c = 0 then [] else c :: utf16leAsciiToCstr room rest
  | _, _ => []

def contextTypeInternet : Bytes :=
  [0xb4, 0x3f, 0x75, 0x8c, 0xa5, 0x60, 0x4b, 0x46, 0xb3, 0x5e, 0xc5, 0x86, 0x96, 0x41, 0xfb, 0x54]

/-- MBIM_MS_PROVISIONED_CONTEXTS_INFO_V2: one context of 72 octets. -/
def provisionedContextV2Info (st : HandlerState) : Bytes :=
  let apn := if st.modem.apn ≠ [] then st.modem.apn else apnInternet
  let b := mbimWireInit mbimInfobufCap
  let (_, b) := mbimWireReserve b 4
  let (reflistOff, b) := mbimWireReserve b 8
  let (elemOff, b) := mbimWireReserve b 72
  let (apnRef, b) := mbimWireAppendString { b with frameBase := elemOff } apn
  let b := { b with frameBase := 0 }
  let elemSize := b.len - elemOff
  let el := elemOff.toNat
  let b := b.putLe32 el 1
  let b := b.put (el + 4) contextTypeInternet
  let b := b.putLe32s (el + 20) [1, 1, 6, 0, 0]
  let b := mbimWirePutString b (el + 40) apnRef
  let b := b.putLe32 0 1
  (mbimWirePutString b reflistOff.toNat { offset := elemOff, length := elemSize }).info

/-- The APN a LTE_ATTACH_CONFIG set takes from the tail of its payload. -/
def lteAttachConfigSet (bce : MbimBceState) (cmd : Bytes) (vendorPayloadLen : UInt32) :
    MbimBceState :=
  let tail := if vendorPayloadLen > 64 then 64 else vendorPayloadLen
  let cand := slice cmd (48 + (vendorPayloadLen - tail).toNat) tail.toNat
  let apn := utf16leAsciiToCstr 63 cand
  if apn.length > 0 then { attachApn := apn, attachApnSet := true } else bce

def attachApn (st : HandlerState) : Bytes :=
  if st.bce.attachApnSet then st.bce.attachApn else st.modem.apn

/-- One `mbim_ms_lte_attach_configuration` of 44 octets, and its pair. -/
def lteAttachConfiguration (apn : Bytes) (reflistOff : UInt32) (b : MbimWireBuilder) (i : Nat) :
    MbimWireBuilder :=
  let (cfgOff, b) := mbimWireReserve b 44
  let (apnRef, b) := mbimWireAppendString { b with frameBase := cfgOff } apn
  let b := { b with frameBase := 0 }
  let b := b.putLe32s cfgOff.toNat [1, UInt32.ofNat i, 0]
  let b := mbimWirePutString b (cfgOff.toNat + 12) apnRef
  mbimWirePutString b (reflistOff.toNat + i * 8) { offset := cfgOff, length := b.len - cfgOff }

def lteAttachConfigInfo (apn : Bytes) : Bytes :=
  let b := mbimWireInit mbimInfobufCap
  let (_, b) := mbimWireReserve b 4
  let (reflistOff, b) := mbimWireReserve b (8 * 3)
  let b := [0, 1, 2].foldl (lteAttachConfiguration apn reflistOff) b
  (b.putLe32 0 3).info

/-- `mbim_ms_lte_attach_status` of 40 octets and its strings. -/
def lteAttachStatus (cap : UInt32) (attached : Bool) (apn : Bytes) : Bytes :=
  let b := mbimWireInit cap
  let (_, b) := mbimWireReserve b 40
  let (accRef, b) := mbimWireAppendString b (if attached then apn else [])
  let (usrRef, b) := mbimWireAppendString b []
  let (pwdRef, b) := mbimWireAppendString b []
  let b := b.putLe32s 0 [if attached then 1 else 0, 1]
  let b := mbimWirePutString b 8 accRef
  let b := mbimWirePutString b 16 usrRef
  let b := mbimWirePutString b 24 pwdRef
  (b.putLe32s 32 [0, 0]).info

def basicConnectExtensions (st : HandlerState) (cmd : Bytes) (cid cmdType vendorPayloadLen : UInt32) :
    Outcome :=
  match cid.toNat with
  -- PROVISIONED_CONTEXT_V2
  | 1 => .reply st (provisionedContextV2Info st)
  -- LTE_ATTACH_CONFIG
  | 3 =>
    let st :=
      if cmdType = 1 && vendorPayloadLen ≥ 8 then
        { st with bce := lteAttachConfigSet st.bce cmd vendorPayloadLen }
      else st
    .reply st (lteAttachConfigInfo (attachApn st))
  -- LTE_ATTACH_STATUS
  | 4 => .reply st (lteAttachStatus mbimInfobufCap st.modem.packetAttached (attachApn st))
  | _ => .reply st []

/-- `mbim_sms_configuration` of 24 octets: PDU format, store ready, no service centre. -/
def smsConfigurationInfo : Bytes :=
  let b := mbimWireInit mbimInfobufCap
  let (_, b) := mbimWireReserve b 24
  let (scaRef, b) := mbimWireAppendString b []
  let b := b.putLe32s 0 [1, 0, 100, 0]
  (mbimWirePutString b 16 scaRef).info

/-- The PDU of a SMS_SEND: its offset counts from the record behind the format word. -/
def smsExtractSendPdu (cmd : Bytes) (ibLen : UInt32) : Option Bytes :=
  if ibLen < 12 then none
  else if getLe32 cmd 48 ≠ 0 then none
  else
    let off := (getLe32 cmd 52).toNat
    let size := (getLe32 cmd 56).toNat
    if size = 0 ∨ size > mbimSmsPduMax ∨ 4 + off + size > ibLen.toNat then none
    else some (slice cmd (48 + 4 + off) size)

def mbimSmsFlagNew : UInt32 := 2
def mbimSmsStatusFlagNewMessage : UInt32 := 2

def smsCommand (acts : HandlerActions) (st : HandlerState) (cmd : Bytes)
    (cmdLen cid vendorPayloadLen : UInt32) : Outcome :=
  match cid.toNat with
  -- SMS_CONFIGURATION
  | 1 => .reply st smsConfigurationInfo
  -- SMS_READ: a poll with Flag=New gives each message once
  | 2 =>
    let flag := if cmdLen ≥ 56 then getLe32 cmd 52 else 0
    let mode := if flag = mbimSmsFlagNew then SmsReadMode.queryNew else .query
    let (b, sms) := smsBuildReadInfo st.sms mbimInfobufCap mode
    .reply { st with sms } (smsReadInfo b)
  -- SMS_MESSAGE_STORE_STATUS
  | 5 =>
    match mbimHandlersSmsStoreHasUnread st.sms with
    | some index => .reply st (le32s [mbimSmsStatusFlagNewMessage, index])
    | none => .reply st (le32s [0, 0])
  -- SMS_SEND
  | 3 =>
    match smsExtractSendPdu cmd vendorPayloadLen with
    | none => .done st [] mbimStatusFailure []
    | some pdu =>
      match acts.sendSmsIms pdu with
      | none => .done st [.sendSmsIms pdu] mbimStatusFailure []
      | some reference => .done st [.sendSmsIms pdu] mbimStatusSuccess (le32s [reference])
  -- SMS_DELETE
  | 4 =>
    let index := if vendorPayloadLen ≥ 12 then getLe32 cmd (48 + 8) else 0
    .reply { st with sms := smsStoreDelete st.sms index } []
  | _ => .reply st []

/-! ## Vendor commands -/

/-- The twelve octets of a QMI_CTL_SYNC request; the transaction number is free. -/
def isQmiCtlSync (cmd : Bytes) : Bool :=
  slice cmd 48 7 = [0x01, 0x0b, 0x00, 0x00, 0x00, 0x00, 0x00] &&
    slice cmd 56 4 = [0x27, 0x00, 0x00, 0x00]

/-- Length of the QMUX payload.  The declared length is taken when it fits, by a 32-bit sum. -/
def qmuxPayloadLen (cmdLen ibLen : UInt32) : Option UInt32 :=
  if ibLen > 0 && 48 + ibLen ≤ cmdLen then some ibLen
  else if cmdLen > 48 then some (cmdLen - 48)
  else none

def handleVendorCommand (acts : HandlerActions) (st : HandlerState) (cmd : Bytes)
    (cmdLen tid cid ibLen cmdType : UInt32) : Outcome :=
  let service := slice cmd 20 16
  let vendorPayloadLen := if cmdLen > 48 then cmdLen - 48 else 0
  if service = uuidExtQmux then
    match qmuxPayloadLen cmdLen ibLen with
    | some qmiPayloadLen =>
      if qmiPayloadLen ≥ 12 && isQmiCtlSync cmd then
        .qmiCtlSync { tid, cid, qmiPayload := 48, qmiPayloadLen }
      else .done st [] mbimStatusFailure []
    | none => .done st [] mbimStatusFailure []
  else if service = uuidBasicConnectExtensions then
    basicConnectExtensions st cmd cid cmdType vendorPayloadLen
  else if service = uuidSms then smsCommand acts st cmd cmdLen cid vendorPayloadLen
  else
    -- an unknown service gets its payload back
    .reply st (slice cmd 48 vendorPayloadLen.toNat)

/-! ## Basic connect -/

/-- `mbim_basic_connect_device_caps` of 64 octets and its strings.  SMS is advertised only
when it can be sent over IMS. -/
def deviceCapsInfo (acts : HandlerActions) (st : HandlerState) : Bytes :=
  let b := mbimWireInit mbimInfobufCap
  let (_, b) := mbimWireReserve b 64
  let (customRef, b) := mbimWireAppendString b []
  let (devidRef, b) := mbimWireAppendString b st.modem.identity.imei
  let (fwRef, b) := mbimWireAppendString b st.modem.identity.firmware
  let (hwRef, b) := mbimWireAppendString b st.modem.identity.model
  let smscaps : UInt32 := if acts.smsEnabled && acts.imsEnabled then 3 else 0
  let b := b.putLe32s 0 [2, 1, 1, 2, 0x20, smscaps, 1, 1]
  let b := mbimWirePutString b 32 customRef
  let b := mbimWirePutString b 40 devidRef
  let b := mbimWirePutString b 48 fwRef
  (mbimWirePutString b 56 hwRef).info

/-- `mbim_basic_connect_subscriber_ready_status` of 32 octets and its strings. -/
def subscriberReadyStatusInfo (st : HandlerState) : Bytes :=
  let imsi := if st.modem.simReady then st.modem.identity.imsi else []
  let iccid := if st.modem.simReady then st.modem.identity.iccid else []
  let b := mbimWireInit mbimInfobufCap
  let (_, b) := mbimWireReserve b 32
  let (idRef, b) := mbimWireAppendString b imsi
  let (iccRef, b) := mbimWireAppendString b iccid
  let b := b.putLe32 0 (if st.modem.simReady then 1 else 0)
  let b := mbimWirePutString b 4 idRef
  let b := mbimWirePutString b 12 iccRef
  (b.putLe32s 20 [0, 0, 0]).info

/-- One provisioned context of 60 octets. -/
def provisionedContextsInfo (st : HandlerState) : Bytes :=
  let apn := if st.modem.apn ≠ [] then st.modem.apn else apnInternet
  let b := mbimWireInit mbimInfobufCap
  let (_, b) := mbimWireReserve b 4
  let (reflistOff, b) := mbimWireReserve b 8
  let (elemOff, b) := mbimWireReserve b 60
  let (apnRef, b) := mbimWireAppendString { b with frameBase := elemOff } apn
  let b := { b with frameBase := 0 }
  let elemSize := b.len - elemOff
  let b := b.putLe32 elemOff.toNat 1
  let b := b.put (elemOff.toNat + 4) contextTypeInternet
  let b := mbimWirePutString b (elemOff.toNat + 20) apnRef
  let b := b.putLe32 0 1
  (mbimWirePutString b reflistOff.toNat { offset := elemOff, length := elemSize }).info

/-- The answer to a set has all 48 octets, that to a query leaves the last word out. -/
def registerState (st : HandlerState) (cmdType : UInt32) : Outcome :=
  if cmdType ≠ 0 then
    .done st [.requestRegister] mbimStatusSuccess (le32s [0, 1, 1, 0, 1, 0, 0, 0, 0, 0, 0, 2])
  else
    .reply st (le32s [0, if st.modem.registeredHome then 3 else 1, 1,
      if st.modem.packetAttached then 0x20 else 0, 1, 0, 0, 0, 0, 0, 0])

def packetServiceInfo (st : HandlerState) : Bytes :=
  if st.modem.packetAttached then le32s [0, 2, 0x20, 50000000, 0, 100000000, 0]
  else le32s [0, 0, 0, 0, 0, 0, 0]

def uuidContextTypeInternet : Bytes :=
  [0x7e, 0x5e, 0x2a, 0x7e, 0x4e, 0x6f, 0x72, 0x72, 0x73, 0x6b, 0x65, 0x6e, 0x7e, 0x5e, 0x2a, 0x7e]

def connectInfo (sessionId activationState : UInt32) : Bytes :=
  le32s [sessionId, activationState, 0, 1] ++ uuidContextTypeInternet ++ le32s [0]

def connect (st : HandlerState) (cmd : Bytes) (cmdLen cmdType ibLen : UInt32) : Outcome :=
  if cmdType = 1 then
    let activationCommand := if ibLen ≥ 8 && cmdLen ≥ 56 then getLe32 cmd 52 else 1
    if activationCommand = 0 then
      .done { st with modem := { st.modem with connectActivated := false, connectSessionId := 0 } }
        [.requestDisconnect] mbimStatusSuccess (connectInfo 0 3)
    else
      .done { st with modem := { st.modem with connectActivated := true, connectSessionId := 0 } }
        [.requestConnect st.modem.apn] mbimStatusSuccess (connectInfo 0 1)
  else
    .reply st (connectInfo st.modem.connectSessionId (if st.modem.connectActivated then 1 else 3))

/-- 60 octets, then the address with its prefix length, the gateway and the DNS server. -/
def ipConfigurationInfo (st : HandlerState) : Bytes :=
  le32s [st.modem.connectSessionId, 0x0f, 0, 1, 60, 0, 0, 68, 0, 1, 72, 0, 0, st.modem.ip.mtu, 0] ++
    le32s [24] ++ st.modem.ip.ipv4Addr.toList ++ st.modem.ip.ipv4Gw.toList ++
    st.modem.ip.ipv4Dns1.toList

/-- A set answers with what was asked for: the modem state follows at the next poll. -/
def radioState (st : HandlerState) (cmd : Bytes) (cmdLen cmdType ibLen : UInt32) : Outcome :=
  if cmdType = 1 && ibLen ≥ 4 && cmdLen ≥ 52 then
    let requested := getLe32 cmd 48 ≠ 0
    .done st [.setRadio requested] mbimStatusSuccess (le32s [1, if requested then 1 else 0])
  else
    .reply st (le32s [if st.modem.radioHwOn then 1 else 0, if st.modem.radioSwOn then 1 else 0])

/-- The announced services and their CIDs. -/
def announcedServices : List (Bytes × List UInt32) :=
  [(uuidExtQmux, [1]), (uuidBasicConnectExtensions, [1, 3, 4]), (uuidSms, [1, 2, 3, 4, 5])]

def deviceServiceElement (reflistOff : UInt32) (b : MbimWireBuilder)
    (entry : (Bytes × List UInt32) × Nat) : MbimWireBuilder :=
  let ((uuid, cids), i) := entry
  let elemSize := 28 + UInt32.ofNat cids.length * 4
  let (elemOff, b) := mbimWireReserve b elemSize
  let b := b.put elemOff.toNat uuid
  let b := b.putLe32s (elemOff.toNat + 16) [0, 0, UInt32.ofNat cids.length]
  let b := b.putLe32s (elemOff.toNat + 28) cids
  mbimWirePutString b (reflistOff.toNat + i * 8) { offset := elemOff, length := elemSize }

def deviceServicesInfo : Bytes :=
  let b := mbimWireInit mbimInfobufCap
  let (_, b) := mbimWireReserve b 8
  let (reflistOff, b) := mbimWireReserve b (8 * UInt32.ofNat announcedServices.length)
  let b := announcedServices.zipIdx.foldl (deviceServiceElement reflistOff) b
  (b.putLe32s 0 [UInt32.ofNat announcedServices.length, 0]).info

/-- The CIDs of `UUID_BASIC_CONNECT`. -/
def basicConnect (acts : HandlerActions) (st : HandlerState) (cmd : Bytes)
    (cmdLen cid cmdType ibLen : UInt32) : Outcome :=
  match cid.toNat with
  -- DEVICE_CAPS
  | 1 => if cmdType ≠ 0 then .reply st [] else .reply st (deviceCapsInfo acts st)
  -- SUBSCRIBER_READY_STATUS
  | 2 => .reply st (subscriberReadyStatusInfo st)
  -- PROVISIONED_CONTEXTS
  | 13 => .reply st (provisionedContextsInfo st)
  -- REGISTER_STATE
  | 9 => registerState st cmdType
  -- PACKET_SERVICE
  | 10 => .reply st (packetServiceInfo st)
  -- CONNECT
  | 12 => connect st cmd cmdLen cmdType ibLen
  -- IP_CONFIGURATION
  | 15 => .reply st (ipConfigurationInfo st)
  -- RADIO_STATE
  | 3 => radioState st cmd cmdLen cmdType ibLen
  -- DEVICE_SERVICES
  | 16 => .reply st deviceServicesInfo
  -- SIGNAL_STATE and every other CID
  | _ => .reply st []

/-! ## Dispatch -/

/-- What `mbim_handlers_handle_command` leaves: `resp[0..*resp_len)` and the vendor event. -/
structure CommandResult where
  st : HandlerState
  calls : List HandlerCall
  resp : Bytes
  vendorEvent : Option MbimVendorEvent

def mbimHandlersHandleCommand (acts : HandlerActions) (st : HandlerState) (cmd : Bytes)
    (cmdLen : UInt32) : Option CommandResult :=
  if cmdLen < 48 then none
  else
    let tid := getLe32 cmd 8
    let cid := getLe32 cmd 36
    let cmdType := getLe32 cmd 40
    let ibLen := getLe32 cmd 44
    let outcome :=
      if slice cmd 20 16 = uuidBasicConnect then basicConnect acts st cmd cmdLen cid cmdType ibLen
      else handleVendorCommand acts st cmd cmdLen tid cid ibLen cmdType
    match outcome with
    | .done st calls status info =>
      some { st, calls, resp := commandDone cmd tid cid status info, vendorEvent := none }
    | .qmiCtlSync event => some { st, calls := [], resp := [], vendorEvent := some event }

/-! ## What the channel relies on -/

/-- What a command leaves of the store. -/
inductive HostOp (store : SmsStore) : SmsStore → Prop
  | none : HostOp store store
  | read (cap : UInt32) {mode : SmsReadMode} (h : mode ≠ .notify) :
    HostOp store (smsBuildReadInfo store cap mode).2
  | delete (index : UInt32) : HostOp store (smsStoreDelete store index)

/-- An answer made here, and the store behind it. -/
def Outcome.Serves (store : SmsStore) : Outcome → Prop
  | .done st _ _ _ => HostOp store st.sms
  | .qmiCtlSync _ => False

theorem basicConnectExtensions_serves (cid cmdType vendorPayloadLen : UInt32) :
    (basicConnectExtensions st cmd cid cmdType vendorPayloadLen).Serves st.sms := by
  unfold basicConnectExtensions
  dsimp only
  split <;> try split_ifs
  all_goals exact .none

theorem smsCommand_serves (acts : HandlerActions) (st : HandlerState) (cmd : Bytes)
    (cmdLen cid vendorPayloadLen : UInt32) :
    (smsCommand acts st cmd cmdLen cid vendorPayloadLen).Serves st.sms := by
  unfold smsCommand
  split
  · exact .none
  · refine .read mbimInfobufCap ?_
    split_ifs <;> decide
  · split <;> exact .none
  · split
    · exact .none
    · split <;> exact .none
  · exact .delete _
  · exact .none

theorem basicConnect_serves (acts : HandlerActions) (st : HandlerState) (cmd : Bytes)
    (cmdLen cid cmdType ibLen : UInt32) :
    (basicConnect acts st cmd cmdLen cid cmdType ibLen).Serves st.sms := by
  unfold basicConnect
  split
  · split_ifs <;> exact .none
  · exact .none
  · exact .none
  · unfold registerState
    split <;> exact .none
  · exact .none
  · unfold connect
    dsimp only
    split_ifs <;> exact .none
  · exact .none
  · unfold radioState
    split <;> exact .none
  · exact .none
  · exact .none

/-- The event is that of a QMI_CTL_SYNC of twelve octets at least. -/
structure IsCtlSync (cmd : Bytes) (cmdLen tid ibLen : UInt32) (event : MbimVendorEvent) : Prop where
  tid : event.tid = tid
  payload : event.qmiPayload = 48
  payloadLen : qmuxPayloadLen cmdLen ibLen = some event.qmiPayloadLen
  long : 12 ≤ event.qmiPayloadLen
  service : slice cmd 20 16 = uuidExtQmux
  request : isQmiCtlSync cmd = true

/-- A vendor command is answered here, or is a QMI_CTL_SYNC. -/
theorem handleVendorCommand_serves (acts : HandlerActions) (st : HandlerState) (cmd : Bytes)
    (cmdLen tid cid ibLen cmdType : UInt32) :
    (handleVendorCommand acts st cmd cmdLen tid cid ibLen cmdType).Serves st.sms ∨
      ∃ event, handleVendorCommand acts st cmd cmdLen tid cid ibLen cmdType = .qmiCtlSync event ∧
        IsCtlSync cmd cmdLen tid ibLen event := by
  unfold handleVendorCommand
  dsimp only
  split
  · rename_i hservice
    split
    · rename_i qmiPayloadLen hlen
      split
      · rename_i hsync
        rw [Bool.and_eq_true, decide_eq_true_eq] at hsync
        exact .inr ⟨_, rfl, rfl, rfl, hlen, hsync.1, hservice, hsync.2⟩
      · exact .inl .none
    · exact .inl .none
  split
  · exact .inl (basicConnectExtensions_serves st cmd cid cmdType _)
  split
  · exact .inl (smsCommand_serves acts st cmd cmdLen cid _)
  · exact .inl .none

/-- A command of 48 octets is always handled. -/
theorem mbimHandlersHandleCommand_handled (acts : HandlerActions) (st : HandlerState) (cmd : Bytes)
    {cmdLen : UInt32} (hlen : ¬ cmdLen < 48) :
    ∃ r, mbimHandlersHandleCommand acts st cmd cmdLen = some r := by
  unfold mbimHandlersHandleCommand
  rw [if_neg hlen]
  dsimp only
  split <;> exact ⟨_, rfl⟩

/-- It is handled with a COMMAND_DONE that has its transaction id, or with a vendor event that
has it. -/
theorem mbimHandlersHandleCommand_outcome {acts : HandlerActions} {st : HandlerState} {cmd : Bytes}
    {cmdLen : UInt32} {r : CommandResult}
    (h : mbimHandlersHandleCommand acts st cmd cmdLen = some r) :
    HostOp st.sms r.st.sms ∧
      ((∃ status info, r.resp = commandDone cmd (getLe32 cmd 8) (getLe32 cmd 36) status info ∧
          r.vendorEvent = none) ∨
        ∃ event, r.resp = [] ∧ r.vendorEvent = some event ∧
          IsCtlSync cmd cmdLen (getLe32 cmd 8) (getLe32 cmd 44) event) := by
  unfold mbimHandlersHandleCommand at h
  split at h
  · cases h
  dsimp only at h
  generalize hout : (if slice cmd 20 16 = uuidBasicConnect then
    basicConnect acts st cmd cmdLen (getLe32 cmd 36) (getLe32 cmd 40) (getLe32 cmd 44)
    else handleVendorCommand acts st cmd cmdLen (getLe32 cmd 8) (getLe32 cmd 36) (getLe32 cmd 44)
      (getLe32 cmd 40)) = outcome at h
  have hserves : outcome.Serves st.sms ∨ ∃ event, outcome = .qmiCtlSync event ∧
      IsCtlSync cmd cmdLen (getLe32 cmd 8) (getLe32 cmd 44) event := by
    rw [← hout]
    split
    · exact .inl (basicConnect_serves acts st cmd cmdLen _ _ _)
    · exact handleVendorCommand_serves acts st cmd cmdLen _ _ _ _
  obtain hdone | ⟨event, rfl, hsync⟩ := hserves
  · cases outcome with
    | done st' calls status info =>
      cases h
      exact ⟨hdone, .inl ⟨status, info, rfl, rfl⟩⟩
    | qmiCtlSync event => exact hdone.elim
  · cases h
    exact ⟨.none, .inr ⟨event, rfl, rfl, hsync⟩⟩

end VirtualLte.Mbim
