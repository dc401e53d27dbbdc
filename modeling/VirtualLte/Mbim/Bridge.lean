import VirtualLte.Mbim.Handlers
import VirtualLte.Sm

/-!
# The state bridge

`state_bridge.c` between the engine and the MBIM frontend: it follows the engine's
snapshots, queues an indication for each change the host has to hear of, and holds
the incoming SMS of the IMS service.

Both queues are 16-slot rings with one slot kept free, here lists of at most 15.
-/

namespace VirtualLte.Mbim

open Mm Sm

inductive MbimBridgeIndication where
  | registerSearching
  | registerDeregistered
  | registerHome
  | packetAttaching
  | packetAttached
  | packetDetached
  deriving DecidableEq, Repr

/-- The part of `struct ue_engine_snapshot` the bridge reads. -/
structure UeEngineSnapshot where
  radioOn : Bool := false
  simReady : Bool := false
  mmState : UeMmState := .poweredOff
  smState : UeSmState := .inactive
  sessionId : UInt32 := 0
  activeDnn : Bytes := []
  imei : Bytes := []
  imsi : Bytes := []
  iccid : Bytes := []
  model : Bytes := []
  firmware : Bytes := []
  plmn : Bytes := []
  operatorName : Bytes := []
  ip : UeEngineRuntimeIp := {}
  deriving DecidableEq, Repr

/-- Entries a 16-slot ring holds. -/
def bridgeQueueRoom : Nat := 15

structure StateBridge where
  indQueue : List MbimBridgeIndication := []
  smsQueue : List Bytes := []
  prevMm : UeMmState := .poweredOff
  prevSm : UeSmState := .inactive
  deriving DecidableEq, Repr

/-- The bridge of an engine that was just started: nothing is queued, and the first snapshot counts
as polled. -/
def stateBridgeInit (snap : UeEngineSnapshot) : StateBridge :=
  { prevMm := snap.mmState, prevSm := snap.smState }

def indEnqueue (b : StateBridge) (ind : MbimBridgeIndication) : StateBridge :=
  if b.indQueue.length ≥ bridgeQueueRoom then b
  else { b with indQueue := b.indQueue ++ [ind] }

def indDropFirst (b : StateBridge) (target : MbimBridgeIndication) : StateBridge :=
  { b with indQueue := b.indQueue.erase target }

/-- An incoming PDU of the IMS service; a refused one is reported to it. -/
def bridgeSmsDownlinkCb (b : StateBridge) (pdu : Bytes) : Option StateBridge :=
  if pdu.length = 0 ∨ pdu.length > 512 then none
  else if b.smsQueue.length ≥ bridgeQueueRoom then none
  else some { b with smsQueue := b.smsQueue ++ [pdu] }

/-- The modem state the host sees, from the engine's snapshot. -/
def modemStateOf (snap : UeEngineSnapshot) : ModemState where
  simReady := snap.simReady
  radioHwOn := true
  radioSwOn := snap.radioOn
  registeredHome := snap.mmState = .registeredHome
  packetAttached := snap.smState = .active
  connectActivated := snap.smState = .active
  connectSessionId := snap.sessionId
  apn := snap.activeDnn
  identity :=
    { imei := snap.imei, imsi := snap.imsi, iccid := snap.iccid, model := snap.model
      firmware := snap.firmware }
  oper := { plmn := snap.plmn, name := snap.operatorName }
  ip :=
    { ipv4Addr := snap.ip.ipv4Addr, ipv4Gw := snap.ip.ipv4Gw, ipv4Dns1 := snap.ip.dns1
      mtu := snap.ip.mtu }

/-- The indications of one poll, in the source's order. -/
def stateBridgePoll (b : StateBridge) (snap : UeEngineSnapshot) : StateBridge :=
  let mm := snap.mmState
  let sm := snap.smState
  let b :=
    if b.prevMm ≠ .registeredHome ∧ mm = .registeredHome then indEnqueue b .registerHome else b
  let b :=
    if b.prevMm = .registeredHome ∧ mm ≠ .registeredHome then indEnqueue b .registerDeregistered
    else b
  let b :=
    if b.prevSm ≠ .establishing ∧ sm = .establishing then indEnqueue b .packetAttaching else b
  let b :=
    if b.prevSm ≠ .active ∧ sm = .active then
      indEnqueue (indDropFirst b .packetAttaching) .packetAttached
    else b
  let b :=
    if b.prevSm = .active ∧ sm ≠ .active then
      indEnqueue (indDropFirst b .packetAttaching) .packetDetached
    else b
  { b with prevMm := mm, prevSm := sm }

/-- The bridge's side of a handler's call.  The others go to the engine and the IMS service. -/
def bridgeCall (b : StateBridge) : HandlerCall → StateBridge
  | .requestRegister => indEnqueue b .registerSearching
  | _ => b

end VirtualLte.Mbim
