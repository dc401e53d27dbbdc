import VirtualLte.Engine.Events

/-!
# The engine tick

`engine_real_tick` in three parts, cut where the receive thread can interleave
most: what comes before the receive loop, one turn of that loop, and what comes
after it.  Each numbered step of the source is a function of its own.
-/

namespace VirtualLte.Engine

open Crypto Nas Ran Mm Sm Up Rrc

/-! ## Forgetting the network -/

def engineResetRrcTracking (ctx : UeContext) : UeContext :=
  { ctx with
    rrcState := .idle
    rrcSetupRequestMs := 0
    rrcSetupCompleteMs := 0
    postSetupPduCount := 0
    waitingCoreResponse := false }

def engineClearNasIdentityContext (ctx : UeContext) : UeContext :=
  { ctx with
    net := { ctx.net with nasSec := nasSecNone }
    nasSecNonCurrent := none
    dlSecHdr := none
    smcLast := none
    smcLastPayload := []
    guti := []
    authSqnMs := none
    regNgksi := none
    t3512Seconds := 0
    mm := { ctx.mm with lastAssignedGuti := [] } }

def engineClearSmRuntime (ctx : UeContext) : UeContext := { ctx with sm := smClearRuntime ctx.sm }

/-- Of the user plane only the IMS session is dropped. -/
def engineForgetNetworkContext (ctx : UeContext) : UeContext :=
  let ctx := engineClearSmRuntime (engineClearNasIdentityContext (engineResetRrcTracking ctx))
  { ctx with
    net := { ctx.net with ran := ueRanTransportRefreshSti ctx.net.ran }
    up := ueUpUnbindSessionPsi ctx.up ctx.imsPsi.toNat
    imsPduRequested := false
    imsPduEstablishing := false
    imsPduActive := false
    imsPcscfIpv4 := none
    imsIp := {} }

/-! ## RRC connection -/

/-- Hand an RRC message to the transport. -/
def sendRrc (ctx : UeContext) (pdu : Bytes) (channel : UInt32) : UeContext × Bool :=
  let r := ueRanTransportSendNasPdu ctx.net.ran pdu channel
  ({ ctx with net := { ctx.net with ran := r.1 } }, r.2)

/-- Note a request that reached the transport, for the current attempt. -/
def logRegRequest (r : UeContext × Bool) : UeContext :=
  if r.2 then
    { r.1 with
      net := { r.1.net with
        trace := .regRequest r.1.mm.registrationAttemptId :: r.1.net.trace } }
  else r.1

/-- RRCSetupComplete with the Registration Request in it. -/
def setupCompletePdu (ctx : UeContext) (txId : UInt8) : Option Bytes :=
  (registrationRequest ctx true).pdu?.bind fun reg => ueRrcEncodeSetupComplete 8192 txId 1 reg

def sendSetupComplete (ctx : UeContext) (txId : UInt8) : UeContext :=
  if ctx.mm.expectsResponse then
    match setupCompletePdu ctx txId with
    | none => ctx
    | some pdu => logRegRequest (sendRrc ctx pdu ueRrcChannelUlDcch)
  else ctx

/-- RRCSetup opens the core-response window whatever the MM state, and whether or not a
request went out. -/
def engineHandleRrcSetup (ctx : UeContext) (txId : UInt8) (nowMs : UInt64) : UeContext :=
  { sendSetupComplete ctx txId with
    rrcState := .connected
    rrcSetupCompleteMs := nowMs
    postSetupPduCount := 0
    waitingCoreResponse := true }

def engineInitiateRrcSetup (ctx : UeContext) (nowMs : UInt64) : UeContext :=
  match ueRrcEncodeSetupRequest 32 ctx.net.ran.sti 3 with
  | none => ctx
  | some pdu =>
    { (sendRrc ctx pdu ueRrcChannelUlCcch).1 with
      rrcState := .setupRequested
      rrcSetupRequestMs := nowMs }

/-! ## Before the receive loop -/

/-- 1b. The cell is lost while registered or with a session: start over. -/
def ranLossRecovery (ctx : UeContext) : UeContext :=
  if ctx.net.ran.state = .lost ∧ (ctx.mm.state = .registeredHome ∨ ctx.sm.state = .active) then
    let ctx := engineForgetNetworkContext ctx
    { ctx with
      sm := ueSmOnRadio ctx.sm false
      mm := ueMmRequestRegister (ueMmOnRadio (ueMmOnRadio ctx.mm false) true) }
  else ctx

/-- 2. Timers; the MM timer rests while a core response is awaited. -/
def mmSmTick (ctx : UeContext) (nowMs : UInt64) : UeContext :=
  let mm := if ctx.waitingCoreResponse then ctx.mm else ueMmTick ctx.mm nowMs
  let r := ueSmTick smNetwork ctx.sm nowMs (mm.state = .registeredHome) ctx.net
  { ctx with mm, sm := r.1, net := r.2 }

/-- 6. -/
def userPlaneTick (ctx : UeContext) : UeContext :=
  { ctx with up := ueUpTick ctx.up (ueRanTransportIsConnected ctx.net.ran) }

/-- All of a tick with the radio off, else its part before the receive loop. -/
def tickHead (ctx : UeContext) (nowMs : UInt64) : UeContext :=
  if ctx.radioOn = false then userPlaneTick (engineResetRrcTracking ctx)
  else mmSmTick (ranLossRecovery ctx) nowMs

/-! ## The receive loop -/

/-- What a received RRC PDU asks for. -/
inductive DlAction where
  | rrcSetup (txId : UInt8)
  | nas (pdu : Bytes)
  | ignore
  deriving DecidableEq, Repr

/-- The action of a decoded RRC message. -/
def rrcAction (msg : UeRrcMessage) : DlAction :=
  match msg.type with
  | .setup => .rrcSetup msg.rrcTransactionId
  | .dlInfoTransfer => if msg.nasPdu.length > 0 then .nas msg.nasPdu else .ignore

/-- Both decoders in turn, then the octets as NAS.  While a core response is awaited a
PDU of the dedicated channel is not tried as a common-channel one. -/
def dlFallback (waiting : Bool) (channel : UInt32) (pdu : Bytes) : DlAction :=
  match ueRrcDecodeDlDcch pdu with
  | some msg => rrcAction msg
  | none =>
    if waiting = true ∧ channel = ueRrcChannelDlDcch then .ignore
    else
      match ueRrcDecodeDlCcch pdu with
      | some msg => rrcAction msg
      | none => .nas pdu

/-- The decoder of the named channel first. -/
def dlDispatch (waiting : Bool) (channel : UInt32) (pdu : Bytes) : DlAction :=
  let first :=
    if channel = ueRrcChannelDlCcch then ueRrcDecodeDlCcch pdu
    else if channel = ueRrcChannelDlDcch then ueRrcDecodeDlDcch pdu
    else none
  match first with
  | some msg => rrcAction msg
  | none => dlFallback waiting channel pdu

def performDl (ctx : UeContext) (nowMs : UInt64) : DlAction → UeContext
  | .rrcSetup txId => engineHandleRrcSetup ctx txId nowMs
  | .nas pdu => decodeAndProcessNas ctx pdu
  | .ignore => ctx

/-- Handle one PDU taken from the queue. -/
def handleDlPdu (ctx : UeContext) (nowMs : UInt64) (channel : UInt32) (pdu : Bytes) : UeContext :=
  let ctx := { ctx with
    postSetupPduCount := ctx.postSetupPduCount + if ctx.waitingCoreResponse then 1 else 0 }
  performDl ctx nowMs (dlDispatch ctx.waitingCoreResponse channel pdu)

/-- 3. One turn of the loop.  An empty PDU is taken from the queue and ends the loop. -/
def recvStep (ctx : UeContext) (nowMs : UInt64) : UeContext :=
  if ctx.radioOn = false then ctx
  else
    match ueRanTransportRecvNasPdu ctx.net.ran 8192 with
    | none => ctx
    | some (channel, pdu, ran) =>
      let ctx := { ctx with net := { ctx.net with ran } }
      if pdu.length = 0 then ctx else handleDlPdu ctx nowMs channel pdu

/-- The loop as it runs when nothing arrives meanwhile. -/
def drainLoop (nowMs : UInt64) : Nat → UeContext → UeContext
  | 0, ctx => ctx
  | fuel + 1, ctx =>
    match ctx.net.ran.nasQueue with
    | [] => ctx
    | e :: _ =>
      if e.data.length = 0 then recvStep ctx nowMs else drainLoop nowMs fuel (recvStep ctx nowMs)

/-! ## After the receive loop -/

/-- 4. -/
def autoConnect (ctx : UeContext) : UeContext :=
  if ctx.mm.state = .registeredHome ∧ ctx.sm.state = .inactive ∧
      ctx.sm.connectRequested = false ∧ ctx.sm.disconnectRequested = false then
    { ctx with sm := { ctx.sm with connectRequested := true } }
  else ctx

/-- 5. -/
def cellFound (ctx : UeContext) : UeContext :=
  if ctx.mm.state = .searching ∧ ueRanTransportIsConnected ctx.net.ran = true ∧
      ctx.waitingCoreResponse = false then
    { ctx with mm := ueMmTransitionToRegistering ctx.mm }
  else ctx

/-- 5b. -/
def rrcConnect (ctx : UeContext) (nowMs : UInt64) : UeContext :=
  if ctx.rrcState = .idle ∧ ueRanTransportIsConnected ctx.net.ran = true ∧
      ctx.mm.registerRequested = true then
    engineInitiateRrcSetup ctx nowMs
  else ctx

/-- 5b-bis. Updates go out over the existing connection; an initial registration has no
way out here. -/
def sendUpdate (ctx : UeContext) (nowMs : UInt64) : UeContext :=
  if ctx.mm.expectsResponse = true ∧ ctx.rrcState = .connected ∧
      ctx.mm.pendingRegType ≠ .initial ∧ ctx.waitingCoreResponse = false then
    match (registrationRequest ctx false).pdu? with
    | none => ctx
    | some nas =>
      let r := engineSendNasUplink ctx.net nas false
      { logRegRequest ({ ctx with net := r.1 }, r.2) with
        waitingCoreResponse := true
        rrcSetupCompleteMs := nowMs
        postSetupPduCount := 0 }
  else ctx

/-- 5c. -/
def setupTimeout (ctx : UeContext) (nowMs : UInt64) : UeContext :=
  if ctx.rrcState = .setupRequested ∧ nowMs - ctx.rrcSetupRequestMs > 3000 then
    { ctx with rrcState := .idle }
  else ctx

/-- 5e. -/
def windowTimeout (ctx : UeContext) (nowMs : UInt64) : UeContext :=
  if ctx.waitingCoreResponse = true ∧ ctx.rrcState = .connected ∧ ctx.mm.state = .registering ∧
      nowMs - ctx.rrcSetupCompleteMs > 15000 then
    { ctx with waitingCoreResponse := false, rrcState := .idle }
  else ctx

/-- 5d. -/
def linkDown (ctx : UeContext) : UeContext :=
  if ueRanTransportIsConnected ctx.net.ran = false then { ctx with rrcState := .idle } else ctx

def tickTail (ctx : UeContext) (nowMs : UInt64) : UeContext :=
  if ctx.radioOn = false then ctx
  else
    userPlaneTick (linkDown (windowTimeout (setupTimeout (sendUpdate
      (rrcConnect (cellFound (autoConnect ctx)) nowMs) nowMs) nowMs) nowMs))

/-- A whole tick, when the receive thread is at rest. -/
def engineRealTick (ctx : UeContext) (nowMs : UInt64) : UeContext :=
  let ctx := tickHead ctx nowMs
  tickTail (drainLoop nowMs ctx.net.ran.nasQueue.length ctx) nowMs

end VirtualLte.Engine
