import VirtualLte.Mbim.Bridge
import VirtualLte.Mbim.Indications
import VirtualLte.Lib.Run

/-!
# The encapsulated channel

`core.c`: the host's commands, the device's responses, and the notification that
tells the host to fetch one.

* A response or an indication waits in the response queue until the host fetches it
  with GET_ENCAPSULATED_RESPONSE.
* A COMMAND that arrives while a command response is queued is held; a GET that
  empties the response queue releases one held command.
* RESPONSE_AVAILABLE is sent when the queue is not empty, no GET is being served, and
  none was sent since the last GET (`notifArmed`).

The two queues are 16-slot rings with one slot kept free, here lists of at most 15.
`history` and the fields marked so follow a run for the statements about it; no
behaviour of the channel depends on them.
-/

namespace VirtualLte.Mbim

/-! ## State -/

/-- Entries a 16-slot ring holds. -/
def mbimQueueRoom : Nat := 15

structure MbimRespItem where
  data : Bytes
  /-- History: the arrival number of the message this answers, none for an indication. -/
  origin : Option Nat
  deriving DecidableEq, Repr

structure MbimCmdItem where
  data : Bytes
  /-- History: the arrival number of the command. -/
  arrival : Nat
  deriving DecidableEq, Repr

/-- What happened on the channel so far, oldest first. -/
structure History where
  /-- The messages of the host; their places are the arrival numbers. -/
  received : List Bytes := []
  /-- The arrival numbers in the order in which the messages were executed. -/
  executed : List Nat := []
  /-- What was placed in the response queue. -/
  placed : List MbimRespItem := []
  /-- What the host fetched. -/
  handed : List MbimRespItem := []
  /-- The number of RESPONSE_AVAILABLE notifications sent. -/
  doorbells : Nat := 0
  deriving DecidableEq, Repr

structure Channel where
  gadgetFd : Int := -1
  epsEnabled : Bool := false
  mbimEpInt : Int := -1
  handlers : HandlerState := {}
  bridge : StateBridge := {}
  qmuxState : MbimVendorQmuxState := {}
  pendingLteAttachStatusInd : Bool := false
  notifPending : Bool := false
  notifArmed : Bool := false
  ep0GetInProgress : Bool := false
  respQueue : List MbimRespItem := []
  heldQueue : List MbimCmdItem := []
  /-- The command buffer; zero behind what was ever written. -/
  lastMbimCmd : Bytes := []
  lastMbimCmdLen : Nat := 0
  /-- `last_mbim_resp[0..last_mbim_resp_len)`. -/
  lastMbimResp : Bytes := []
  /-- History: the arrival number of the message in the command buffer. -/
  lastArrival : Nat := 0
  /-- History: the arrival number of the message the response was built for. -/
  respOrigin : Option Nat := none
  history : History := {}
  deriving DecidableEq, Repr

/-! ## Queues -/

def mbimRespQueueFull (s : Channel) : Bool := s.respQueue.length ≥ mbimQueueRoom

/-- A response that finds no room is dropped. -/
def mbimRespEnqueue (s : Channel) (item : MbimRespItem) : Channel :=
  if item.data.length = 0 then s
  else if mbimRespQueueFull s then s
  else
    { s with
      respQueue := s.respQueue ++ [item]
      history := { s.history with placed := s.history.placed ++ [item] } }

/-- Something other than an indication waits in the queue. -/
def hasCommandResponse (queue : List MbimRespItem) : Bool :=
  queue.any fun item => msgType item.data ≠ mbimIndicateStatusMsg

def mbimRespHasCommandResponse (s : Channel) : Bool := hasCommandResponse s.respQueue

/-- A command that finds no room is dropped. -/
def mbimHoldCommand (s : Channel) (item : MbimCmdItem) : Channel :=
  if s.heldQueue.length ≥ mbimQueueRoom then s
  else { s with heldQueue := s.heldQueue ++ [item] }

/-! ## Notification -/

def mbimMarkNotificationNeeded (s : Channel) : Channel := { s with notifPending := true }

/-- The endpoint on which RESPONSE_AVAILABLE goes out. -/
def notifEndpointUp (s : Channel) : Bool := 0 ≤ s.gadgetFd && 0 ≤ s.mbimEpInt

/-- `mbim_send_response_available_notification`.  The result of the write is only logged. -/
def mbimSendResponseAvailableNotification (s : Channel) : Channel :=
  { s with history := { s.history with doorbells := s.history.doorbells + 1 } }

def mbimTrySendDeferredNotification (s : Channel) : Channel :=
  if !notifEndpointUp s then s
  else if !s.notifPending then s
  else if s.ep0GetInProgress then s
  else if s.notifArmed then s
  else if s.respQueue.isEmpty then { s with notifPending := false }
  else
    { mbimSendResponseAvailableNotification s with notifArmed := true, notifPending := false }

/-! ## Indications -/

/-- `mbim_enqueue_indication_blob` on a message that could be framed; whether it was queued. -/
def emitIndication (s : Channel) : Option Bytes → Bool × Channel
  | none => (false, s)
  | some msg =>
    if mbimRespQueueFull s then (false, s)
    else (true, mbimMarkNotificationNeeded (mbimRespEnqueue s { data := msg, origin := none }))

def drainQmuxIndication (s : Channel) : Channel :=
  if !mbimRespQueueFull s && s.qmuxState.syncIndPending then
    let (ind, qmuxState) := takePendingIndication s.qmuxState
    mbimMarkNotificationNeeded
      (mbimRespEnqueue { s with qmuxState } { data := ind, origin := none })
  else s

def drainLteAttachStatus (s : Channel) : Channel :=
  if !mbimRespQueueFull s && s.pendingLteAttachStatusInd then
    { (emitIndication s (lteAttachStatusIndication s.handlers.modem)).2 with
      pendingLteAttachStatusInd := false }
  else s

/-- One indication of the bridge.  A change of the packet service schedules
LTE_ATTACH_STATUS behind it. -/
def drainBridgeIndication (s : Channel) (ind : MbimBridgeIndication) : Channel :=
  match ind with
  | .registerSearching => (emitIndication s registerStateSearching).2
  | .registerDeregistered => (emitIndication s registerStateDeregistered).2
  | .registerHome => (emitIndication s (registerStateHome s.handlers.modem)).2
  | .packetAttaching => (emitIndication s packetServiceAttaching).2
  | .packetAttached =>
    let (ok, s) := emitIndication s packetServiceAttached
    if ok then { s with pendingLteAttachStatusInd := true } else s
  | .packetDetached =>
    let (ok, s) := emitIndication s packetServiceDetached
    if ok then { s with pendingLteAttachStatusInd := true } else s

/-- The loop over the bridge's queue, until it is empty or the response queue is full. -/
def drainBridgeIndications : List MbimBridgeIndication → Channel → Channel
  | [], s => s
  | ind :: rest, s =>
    if mbimRespQueueFull s then s
    else
      drainBridgeIndications rest
        (drainBridgeIndication { s with bridge := { s.bridge with indQueue := rest } } ind)

/-- The loop over the incoming SMS; whether one was stored. -/
def drainSms : List Bytes → Channel → Bool → Bool × Channel
  | [], s, arrived => (arrived, s)
  | pdu :: rest, s, arrived =>
    if mbimRespQueueFull s then (arrived, s)
    -- `state_bridge_pop_sms` leaves what does not fit the buffer
    else if pdu.length > 512 then (arrived, s)
    else
      let s := { s with bridge := { s.bridge with smsQueue := rest } }
      match mbimHandlersSmsStoreAppend s.handlers.sms pdu with
      | none => drainSms rest s arrived
      | some (messageIndex, sms) =>
        let s := { s with handlers := { s.handlers with sms } }
        drainSms rest (emitIndication s (smsMessageStoreStatus messageIndex)).2 true

def mbimEmitSmsReadIndication (s : Channel) : Channel :=
  match mbimHandlersBuildSmsReadIndication s.handlers.sms 512 with
  | none => s
  | some (info, sms) =>
    (emitIndication { s with handlers := { s.handlers with sms } } (smsReadIndication info)).2

/-- Held commands are answered before any indication. -/
def drainPendingIndications (s : Channel) : Channel :=
  if !s.heldQueue.isEmpty then s
  else
    let s := drainQmuxIndication s
    let s := drainLteAttachStatus s
    let s := drainBridgeIndications s.bridge.indQueue s
    let (smsArrived, s) := drainSms s.bridge.smsQueue s false
    if smsArrived && !mbimRespQueueFull s then mbimEmitSmsReadIndication s else s

/-! ## Commands -/

/-- OPEN_DONE and CLOSE_DONE. -/
def statusDone (type tid : UInt32) : Bytes :=
  putLe32 type ++ putLe32 16 ++ putLe32 tid ++ putLe32 mbimStatusSuccess

/-- `mbim_vendor_qmux_handle_ctl_sync` and what follows when its answer was queued. -/
def handleCtlSync (s : Channel) (event : MbimVendorEvent) : Channel :=
  if event.qmiPayloadLen < 12 then s
  else if mbimRespQueueFull s then s
  else
    let done : MbimRespItem :=
      { data := ctlSyncDone s.lastMbimCmd event, origin := some s.lastArrival }
    let s := { mbimRespEnqueue s done with qmuxState := deferSyncInd s.qmuxState event.cid }
    mbimTrySendDeferredNotification (mbimMarkNotificationNeeded s)

def resetMbimStandardIndicationState (s : Channel) : Channel :=
  { s with
    pendingLteAttachStatusInd := false
    notifPending := false
    notifArmed := false
    ep0GetInProgress := false }

/-- What the handler of a command leaves behind. -/
def Channel.handled (s : Channel) (r : CommandResult) : Channel :=
  { s with
    handlers := r.st
    bridge := r.calls.foldl bridgeCall s.bridge
    lastMbimResp := r.resp
    respOrigin := some s.lastArrival }

/-- A message too short for a transaction id leaves the last response where it is. -/
def prepareMbimResponse (acts : HandlerActions) (s : Channel) : Channel :=
  let s := { s with history := { s.history with executed := s.history.executed ++ [s.lastArrival] } }
  if s.lastMbimCmdLen < 12 then s
  else
    let cmd := s.lastMbimCmd
    let type := getLe32 cmd 0
    let tid := getLe32 cmd 8
    let s := { s with lastMbimResp := [] }
    if type = mbimOpenMsg then
      { s with
        qmuxState := {}
        lastMbimResp := statusDone mbimOpenDone tid
        respOrigin := some s.lastArrival }
    else if type = mbimCloseMsg then
      { resetMbimStandardIndicationState s with
        qmuxState := {}
        lastMbimResp := statusDone mbimCloseDone tid
        respOrigin := some s.lastArrival }
    else if type = mbimCommandMsg then
      if s.lastMbimCmdLen < 48 then s
      else
        match mbimHandlersHandleCommand acts s.handlers cmd (UInt32.ofNat s.lastMbimCmdLen) with
        | none => s
        | some r =>
          match r.vendorEvent with
          | some event => handleCtlSync (s.handled r) event
          | none => s.handled r
    else s

/-- Put a message in the command buffer, over what earlier ones left there. -/
def loadCommand (s : Channel) (msg : Bytes) (arrival : Nat) : Channel :=
  { s with
    lastMbimCmd := msg ++ s.lastMbimCmd.drop msg.length
    lastMbimCmdLen := msg.length
    lastArrival := arrival }

/-- Execute the message in the command buffer and queue the response. -/
def executeCommand (acts : HandlerActions) (s : Channel) : Channel :=
  let s := prepareMbimResponse acts s
  if s.lastMbimResp.length > 0 then
    mbimMarkNotificationNeeded
      (mbimRespEnqueue s { data := s.lastMbimResp, origin := s.respOrigin })
  else s

def mbimProcessHeldCommand (acts : HandlerActions) (s : Channel) : Channel :=
  match s.heldQueue with
  | [] => s
  | item :: rest =>
    executeCommand acts (loadCommand { s with heldQueue := rest } item.data item.arrival)

/-! ## Requests of the host -/

/-- Octets of the control buffer and of the command buffer. -/
def mbimCmdMax : Nat := 4096

def coreOnSendEncapsulatedCommand (acts : HandlerActions) (s : Channel) (data : Bytes) : Channel :=
  let msg := data.take mbimCmdMax
  let arrival := s.history.received.length
  let s := { s with history := { s.history with received := s.history.received ++ [msg] } }
  let s := loadCommand s msg arrival
  if msgType msg = mbimCommandMsg ∧ mbimRespHasCommandResponse s then
    mbimHoldCommand s { data := msg, arrival }
  else mbimTrySendDeferredNotification (executeCommand acts s)

def mbimRespDequeue (s : Channel) : Bytes × Channel :=
  match s.respQueue with
  | [] => ([], s)
  | item :: rest =>
    (item.data,
      { s with
        respQueue := rest
        history := { s.history with handed := s.history.handed ++ [item] } })

/-- The reply and the channel.  The dispatcher cuts the reply to what the host asked for. -/
def coreOnGetEncapsulatedResponse (acts : HandlerActions) (s : Channel) (wLength : UInt16) :
    Bytes × Channel :=
  let (resp, s) := mbimRespDequeue s
  let s := { s with ep0GetInProgress := true, notifArmed := false }
  let s :=
    if s.respQueue.isEmpty && !s.heldQueue.isEmpty then mbimProcessHeldCommand acts s else s
  let s := drainPendingIndications s
  let s := { s with ep0GetInProgress := false }
  let s := if s.respQueue.isEmpty then s else mbimMarkNotificationNeeded s
  (resp.take wLength.toNat, s)

/-- The tick between two events of the device.  The engine's tick may fail, and then there
is no snapshot to follow. -/
def coreEp0Tick (s : Channel) (snap : Option UeEngineSnapshot) : Channel :=
  let s :=
    match snap with
    | some snap =>
      { s with
        bridge := stateBridgePoll s.bridge snap
        handlers := { s.handlers with modem := modemStateOf snap } }
    | none => s
  if 0 ≤ s.gadgetFd then
    let s := drainPendingIndications s
    if s.respQueue.isEmpty then s
    else mbimTrySendDeferredNotification (mbimMarkNotificationNeeded s)
  else s

/-- SET_CONFIGURATION enables the endpoints once; `epInt` is what the kernel answers. -/
def setConfiguration (s : Channel) (epInt : Int) : Channel :=
  if s.epsEnabled then s else { s with mbimEpInt := epInt, epsEnabled := true }

/-! ## Runs -/

inductive CoreStep where
  | tick (snap : Option UeEngineSnapshot)
  | sendEncapsulatedCommand (acts : HandlerActions) (data : Bytes)
  | getEncapsulatedResponse (acts : HandlerActions) (wLength : UInt16)
  | setConfiguration (epInt : Int)
  /-- CONNECT, RESET and DISCONNECT of the bus: the loop only logs them. -/
  | busEvent
  /-- The IMS service hands over an SMS, on its own thread. -/
  | smsDownlink (pdu : Bytes)

def coreStep (s : Channel) : CoreStep → Channel
  | .tick snap => coreEp0Tick s snap
  | .sendEncapsulatedCommand acts data => coreOnSendEncapsulatedCommand acts s data
  | .getEncapsulatedResponse acts wLength => (coreOnGetEncapsulatedResponse acts s wLength).2
  | .setConfiguration epInt => setConfiguration s epInt
  | .busEvent => s
  | .smsDownlink pdu =>
    match bridgeSmsDownlinkCb s.bridge pdu with
    | some bridge => { s with bridge }
    | none => s

abbrev coreRun (s : Channel) (es : List CoreStep) : Channel := Transition.run coreStep s es

/-- The channel when `ep0_loop` starts, whatever the modem and the bridge hold. -/
structure ChannelInit (s : Channel) : Prop where
  qmux : s.qmuxState = {}
  armed : s.notifArmed = false
  inGet : s.ep0GetInProgress = false
  resp : s.respQueue = []
  held : s.heldQueue = []
  lastResp : s.lastMbimResp = []
  history : s.history = {}

/-! ## A host for the concrete runs -/

/-- A modem that sends no SMS. -/
def noSms : HandlerActions where
  smsEnabled := false
  imsEnabled := false
  sendSmsIms := fun _ => none

/-- The gadget is open, and nothing happened. -/
def openGadget : Channel := { gadgetFd := 3 }

theorem openGadget_init : ChannelInit openGadget := ⟨rfl, rfl, rfl, rfl, rfl, rfl, rfl⟩

def hostOpen (tid : UInt32) : CoreStep :=
  .sendEncapsulatedCommand noSms (le32s [mbimOpenMsg, 16, tid, 4096])

def hostClose (tid : UInt32) : CoreStep :=
  .sendEncapsulatedCommand noSms (le32s [mbimCloseMsg, 12, tid])

/-- A query of the signal state. -/
def hostQuery (tid : UInt32) : CoreStep :=
  .sendEncapsulatedCommand noSms
    (le32s [mbimCommandMsg, 48, tid, 1, 0] ++ uuidBasicConnect ++ le32s [11, 0, 0])

def hostGet : CoreStep := .getEncapsulatedResponse noSms 4096

/-- The network registers the modem. -/
def tickRegistered : CoreStep := .tick (some { mmState := .registeredHome })

end VirtualLte.Mbim
