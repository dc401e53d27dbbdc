import VirtualLte.Mbim.Channel

/-!
# What the channel's operations do

One lemma for each operation of the channel.

* `Traffic` is the channel without its notification flags and without the modem: the
  queues, the response buffer and the messages of the run.
* `Indicated`: draining appends indications to the response queue and touches nothing
  that the commands depend on.
* `Answer` says what executing a message queues and what it leaves in the response
  buffer, `Rang` how it moves the notification flags; `executeCommand_executed` is the
  two together.
* `TrafficStep` is the channel seen from the traffic alone, and `coreStep_simulated` says
  that every step of the channel is one of its steps.
-/

namespace VirtualLte.Mbim

variable {msg : Bytes} {s t : Channel} (acts : HandlerActions)

/-! ## Queueing -/

/-- What becomes of an item: it is queued if it is not empty and there is room. -/
def admitted (queue : List MbimRespItem) (item : MbimRespItem) : List MbimRespItem :=
  if item.data.length = 0 ∨ queue.length ≥ mbimQueueRoom then [] else [item]

/-- The channel with more items in its response queue. -/
def Channel.place (s : Channel) (items : List MbimRespItem) : Channel :=
  { s with
    respQueue := s.respQueue ++ items
    history := { s.history with placed := s.history.placed ++ items } }

theorem mbimRespEnqueue_eq (s : Channel) (item : MbimRespItem) :
    mbimRespEnqueue s item = s.place (admitted s.respQueue item) := by
  unfold mbimRespEnqueue admitted Channel.place mbimRespQueueFull
  by_cases hempty : item.data.length = 0
  · rw [if_pos hempty, if_pos (Or.inl hempty), List.append_nil, List.append_nil]
  rw [if_neg hempty]
  by_cases hfull : s.respQueue.length ≥ mbimQueueRoom
  · rw [if_pos (decide_eq_true hfull), if_pos (Or.inr hfull), List.append_nil, List.append_nil]
  · rw [if_neg (by simpa using hfull), if_neg fun h => h.elim hempty hfull]

theorem place_nil (s : Channel) : s.place [] = s := by
  unfold Channel.place
  rw [List.append_nil, List.append_nil]

/-! ## Traffic -/

/-- The queues, the response buffer and the messages of the run. -/
structure Traffic where
  queue : List MbimRespItem
  held : List MbimCmdItem
  lastResp : Bytes
  lastOrigin : Option Nat
  received : List Bytes
  executed : List Nat
  placed : List MbimRespItem
  handed : List MbimRespItem

def Channel.traffic (s : Channel) : Traffic where
  queue := s.respQueue
  held := s.heldQueue
  lastResp := s.lastMbimResp
  lastOrigin := s.respOrigin
  received := s.history.received
  executed := s.history.executed
  placed := s.history.placed
  handed := s.history.handed

def Traffic.place (v : Traffic) (items : List MbimRespItem) : Traffic :=
  { v with queue := v.queue ++ items, placed := v.placed ++ items }

def Traffic.receive (v : Traffic) (msg : Bytes) : Traffic :=
  { v with received := v.received ++ [msg] }

def Traffic.hold (v : Traffic) (item : MbimCmdItem) : Traffic :=
  { v with held := v.held ++ [item] }

/-- The host fetches the oldest item. -/
def Traffic.hand (v : Traffic) : Traffic :=
  { v with queue := v.queue.tail, handed := v.handed ++ v.queue.head?.toList }

/-- An item that nobody asked for. -/
def MbimRespItem.IsIndication (item : MbimRespItem) : Prop :=
  item.origin = none ∧ msgType item.data = mbimIndicateStatusMsg

/-- Indications are queued. -/
def Traffic.Indicates (v w : Traffic) : Prop :=
  ∃ inds, (∀ item ∈ inds, item.IsIndication) ∧ w = v.place inds

theorem Traffic.Indicates.refl (v : Traffic) : v.Indicates v := by
  refine ⟨[], nofun, ?_⟩
  unfold Traffic.place
  rw [List.append_nil, List.append_nil]

/-- The messages that have an answer when they are executed. -/
def isAnswerable (msg : Bytes) : Bool :=
  (msgType msg = mbimOpenMsg || msgType msg = mbimCloseMsg) && msg.length ≥ 12 ||
    msgType msg = mbimCommandMsg && msg.length ≥ 48

/-- `data` is an answer to `msg`: of the matching type, with its transaction id. -/
structure Answers (msg data : Bytes) : Prop where
  type : (msgType msg, msgType data) ∈
    [(mbimOpenMsg, mbimOpenDone), (mbimCloseMsg, mbimCloseDone), (mbimCommandMsg, mbimCommandDone)]
  tid : ∃ tid, transactionId msg = some tid ∧ transactionId data = some tid

/-- What executing message number `n` queues, and the response and its origin left behind. -/
inductive Answer (v : Traffic) (n : Nat) (msg : Bytes) :
    List MbimRespItem → Bytes → Option Nat → Prop
  /-- Too short for a transaction id: the last response is queued again. -/
  | stale (hshort : msg.length < 12) :
    Answer v n msg (admitted v.queue { data := v.lastResp, origin := v.lastOrigin })
      v.lastResp v.lastOrigin
  | built {data : Bytes} (hable : isAnswerable msg = true) (hdata : Answers msg data) :
    Answer v n msg (admitted v.queue { data, origin := some n }) data (some n)
  /-- QMI_CTL_SYNC: the answer does not go through the response buffer. -/
  | synced {data : Bytes} (hable : isAnswerable msg = true) (hdata : Answers msg data) :
    Answer v n msg (admitted v.queue { data, origin := some n }) [] (some n)
  | silent {origin : Option Nat} (hlong : 12 ≤ msg.length) (hable : isAnswerable msg = false) :
    Answer v n msg [] [] origin

/-- Message number `n` is executed. -/
def Traffic.Executes (v : Traffic) (n : Nat) (msg : Bytes) (w : Traffic) : Prop :=
  ∃ items resp origin, Answer v n msg items resp origin ∧
    w = { v.place items with
      lastResp := resp, lastOrigin := origin, executed := v.executed ++ [n] }

/-! ## Indications -/

/-- `t` is `s` with indications queued, and with other values in the fields that only the
indications and the handlers use. -/
def Indicated (s t : Channel) : Prop :=
  ∃ inds notifPending qmuxState handlers bridge pendingLteAttachStatusInd,
    t = { s.place inds with
      notifPending, qmuxState, handlers, bridge, pendingLteAttachStatusInd } ∧
    (∀ item ∈ inds, item.IsIndication) ∧ qmuxState.Wf

theorem Indicated.refl (h : s.qmuxState.Wf) : Indicated s s := by
  refine ⟨[], s.notifPending, s.qmuxState, s.handlers, s.bridge, s.pendingLteAttachStatusInd,
    ?_, nofun, h⟩
  rw [place_nil]

theorem Indicated.trans {u : Channel} (h : Indicated s t) (h' : Indicated t u) : Indicated s u := by
  obtain ⟨inds, _, _, _, _, _, rfl, hinds, _⟩ := h
  obtain ⟨inds', np, q, hd, br, lte, rfl, hinds', hq⟩ := h'
  refine ⟨inds ++ inds', np, q, hd, br, lte, ?_, ?_, hq⟩
  · unfold Channel.place
    rw [← List.append_assoc, ← List.append_assoc]
  · intro item hitem
    rcases List.mem_append.mp hitem with hitem | hitem
    · exact hinds item hitem
    · exact hinds' item hitem

theorem Indicated.wf (h : Indicated s t) : t.qmuxState.Wf := by
  obtain ⟨_, _, _, _, _, _, rfl, _, hq⟩ := h
  exact hq

/-- Values of the other modules may change on the way. -/
theorem Indicated.withModem (h : Indicated s t) (handlers : HandlerState) (bridge : StateBridge)
    (pendingLteAttachStatusInd : Bool) :
    Indicated s { t with handlers, bridge, pendingLteAttachStatusInd } := by
  obtain ⟨inds, np, q, _, _, _, rfl, hinds, hq⟩ := h
  exact ⟨inds, np, q, handlers, bridge, pendingLteAttachStatusInd, rfl, hinds, hq⟩

theorem admitted_isIndication {queue : List MbimRespItem}
    (h : msg ≠ [] → msgType msg = mbimIndicateStatusMsg) :
    ∀ item ∈ admitted queue { data := msg, origin := none }, item.IsIndication := by
  intro item hitem
  unfold admitted at hitem
  split at hitem
  · cases hitem
  · rename_i hcond
    rw [List.mem_singleton.mp hitem]
    exact ⟨rfl, h fun hnil => hcond (Or.inl (congrArg List.length hnil))⟩

theorem emitIndication_indicated (hq : s.qmuxState.Wf) (msg : Option Bytes)
    (h : ∀ m, msg = some m → msgType m = mbimIndicateStatusMsg) :
    Indicated s (emitIndication s msg).2 := by
  unfold emitIndication
  split
  · exact .refl hq
  · rename_i m
    split
    · exact .refl hq
    · rw [mbimRespEnqueue_eq]
      exact ⟨_, true, s.qmuxState, s.handlers, s.bridge, s.pendingLteAttachStatusInd, rfl,
        admitted_isIndication fun _ => h m rfl, hq⟩

theorem drainQmuxIndication_indicated (hq : s.qmuxState.Wf) :
    Indicated s (drainQmuxIndication s) := by
  unfold drainQmuxIndication
  split
  · dsimp only
    rw [mbimRespEnqueue_eq]
    exact ⟨_, true, _, s.handlers, s.bridge, s.pendingLteAttachStatusInd, rfl,
      admitted_isIndication fun hne => takePendingIndication_msgType hq hne,
      takePendingIndication_wf _⟩
  · exact .refl hq

theorem drainLteAttachStatus_indicated (hq : s.qmuxState.Wf) :
    Indicated s (drainLteAttachStatus s) := by
  unfold drainLteAttachStatus
  split
  · have hemit := emitIndication_indicated hq (lteAttachStatusIndication s.handlers.modem)
      fun _ h => queueIndicationUuidCid_msgType h
    generalize (emitIndication s (lteAttachStatusIndication s.handlers.modem)).2 = t at hemit ⊢
    exact hemit.withModem t.handlers t.bridge false
  · exact .refl hq

theorem drainBridgeIndication_indicated (hq : s.qmuxState.Wf) (ind : MbimBridgeIndication) :
    Indicated s (drainBridgeIndication s ind) := by
  have hemit (serviceId payload : Bytes) (cid : UInt32) :
      Indicated s (emitIndication s (queueIndicationUuidCid serviceId cid payload)).2 :=
    emitIndication_indicated hq _ fun _ h => queueIndicationUuidCid_msgType h
  cases ind with
  | registerSearching => exact hemit _ _ _
  | registerDeregistered => exact hemit _ _ _
  | registerHome => exact hemit _ _ _
  | packetAttaching => exact hemit _ _ _
  | packetAttached =>
    unfold drainBridgeIndication
    dsimp only
    split
    · exact (hemit _ _ _).withModem _ _ _
    · exact hemit _ _ _
  | packetDetached =>
    unfold drainBridgeIndication
    dsimp only
    split
    · exact (hemit _ _ _).withModem _ _ _
    · exact hemit _ _ _

theorem drainBridgeIndications_indicated (inds : List MbimBridgeIndication) (hq : s.qmuxState.Wf) :
    Indicated s (drainBridgeIndications inds s) := by
  induction inds generalizing s with
  | nil => exact .refl hq
  | cons ind rest ih =>
    unfold drainBridgeIndications
    split
    · exact .refl hq
    · have htaken := (Indicated.refl hq).withModem s.handlers { s.bridge with indQueue := rest }
        s.pendingLteAttachStatusInd
      have hone := htaken.trans (drainBridgeIndication_indicated htaken.wf ind)
      exact hone.trans (ih hone.wf)

theorem drainSms_indicated (pdus : List Bytes) (arrived : Bool) (hq : s.qmuxState.Wf) :
    Indicated s (drainSms pdus s arrived).2 := by
  induction pdus generalizing s arrived with
  | nil => exact .refl hq
  | cons pdu rest ih =>
    unfold drainSms
    split
    · exact .refl hq
    split
    · exact .refl hq
    dsimp only
    split
    · have htaken := (Indicated.refl hq).withModem s.handlers { s.bridge with smsQueue := rest }
        s.pendingLteAttachStatusInd
      exact htaken.trans (ih arrived htaken.wf)
    · rename_i messageIndex sms _
      have htaken := (Indicated.refl hq).withModem { s.handlers with sms }
        { s.bridge with smsQueue := rest } s.pendingLteAttachStatusInd
      have hone := htaken.trans (emitIndication_indicated htaken.wf
        (smsMessageStoreStatus messageIndex) fun _ h => queueIndicationUuidCid_msgType h)
      exact hone.trans (ih true hone.wf)

theorem mbimEmitSmsReadIndication_indicated (hq : s.qmuxState.Wf) :
    Indicated s (mbimEmitSmsReadIndication s) := by
  unfold mbimEmitSmsReadIndication
  split
  · exact .refl hq
  · rename_i info sms _
    have hmarked := (Indicated.refl hq).withModem { s.handlers with sms } s.bridge
      s.pendingLteAttachStatusInd
    refine hmarked.trans (emitIndication_indicated hmarked.wf _ ?_)
    intro msg hmsg
    unfold smsReadIndication at hmsg
    split at hmsg
    · cases hmsg
    · exact queueIndicationUuidCid_msgType hmsg

theorem drainPendingIndications_indicated (hq : s.qmuxState.Wf) :
    Indicated s (drainPendingIndications s) := by
  unfold drainPendingIndications
  split
  · exact .refl hq
  dsimp only
  have hqmux := drainQmuxIndication_indicated hq
  have hlte := hqmux.trans (drainLteAttachStatus_indicated hqmux.wf)
  generalize drainLteAttachStatus (drainQmuxIndication s) = t at hlte ⊢
  have hbridge := hlte.trans (drainBridgeIndications_indicated t.bridge.indQueue hlte.wf)
  generalize drainBridgeIndications t.bridge.indQueue t = u at hbridge ⊢
  have hsms := hbridge.trans (drainSms_indicated u.bridge.smsQueue false hbridge.wf)
  split
  · exact hsms.trans (mbimEmitSmsReadIndication_indicated hsms.wf)
  · exact hsms

/-- While a command is held there are no new indications. -/
theorem drainPendingIndications_held (h : s.heldQueue ≠ []) : drainPendingIndications s = s := by
  unfold drainPendingIndications
  cases hheld : s.heldQueue with
  | nil => exact absurd hheld h
  | cons item rest => rfl

/-! ## Notification -/

/-- The armed flag and the count of notifications after an attempt to send one. -/
def Rings (s : Channel) (armed : Bool) (doorbells : Nat) : Prop :=
  (armed = s.notifArmed ∧ doorbells = s.history.doorbells) ∨
    (s.notifArmed = false ∧ s.ep0GetInProgress = false ∧ armed = true ∧
      doorbells = s.history.doorbells + 1)

theorem mbimTrySendDeferredNotification_eq (s : Channel) :
    ∃ notifPending notifArmed doorbells,
      mbimTrySendDeferredNotification s =
        { s with notifPending, notifArmed, history := { s.history with doorbells } } ∧
      Rings s notifArmed doorbells := by
  unfold mbimTrySendDeferredNotification
  split
  · exact ⟨_, _, _, rfl, Or.inl ⟨rfl, rfl⟩⟩
  split
  · exact ⟨_, _, _, rfl, Or.inl ⟨rfl, rfl⟩⟩
  split
  · exact ⟨_, _, _, rfl, Or.inl ⟨rfl, rfl⟩⟩
  rename_i hget
  split
  · exact ⟨_, _, _, rfl, Or.inl ⟨rfl, rfl⟩⟩
  rename_i harmed
  split
  · exact ⟨_, _, _, rfl, Or.inl ⟨rfl, rfl⟩⟩
  · exact ⟨_, _, _, rfl, Or.inr ⟨eq_false_of_ne_true harmed, eq_false_of_ne_true hget, rfl, rfl⟩⟩

/-! ## Execution -/

/-- The notification flags after executing `msg`: CLOSE resets them. -/
def Rang (s : Channel) (msg : Bytes) (armed inGet : Bool) (doorbells : Nat) : Prop :=
  (Rings s armed doorbells ∧ inGet = s.ep0GetInProgress) ∨
    (msgType msg = mbimCloseMsg ∧ 12 ≤ msg.length ∧ armed = false ∧ inGet = false ∧
      doorbells = s.history.doorbells)

/-- `t` is the state after message number `n` was executed in state `s`. -/
structure Executed (s : Channel) (n : Nat) (msg : Bytes) (t : Channel) : Prop where
  traffic : s.traffic.Executes n msg t.traffic
  rang : Rang s msg t.notifArmed t.ep0GetInProgress t.history.doorbells
  endpoint : notifEndpointUp t = notifEndpointUp s
  wf : s.qmuxState.Wf → t.qmuxState.Wf

theorem statusDone_answers {type : UInt32} (hlong : 12 ≤ msg.length)
    (htype : (msgType msg, type) ∈ [(mbimOpenMsg, mbimOpenDone), (mbimCloseMsg, mbimCloseDone),
      (mbimCommandMsg, mbimCommandDone)]) :
    Answers msg (statusDone type (getLe32 msg 8)) where
  type := by
    rw [statusDone, List.append_assoc, List.append_assoc, msgType_putLe32]
    exact htype
  tid := ⟨getLe32 msg 8, if_pos hlong, transactionId_words _ _ _ _⟩

theorem commandDone_answers (hlong : 12 ≤ msg.length) (htype : msgType msg = mbimCommandMsg)
    (cmd : Bytes) (cid status : UInt32) (info : Bytes) :
    Answers msg (commandDone cmd (getLe32 msg 8) cid status info) where
  type := by
    rw [commandDone_msgType, htype]
    decide
  tid := ⟨getLe32 msg 8, if_pos hlong, commandDone_transactionId _ _ _ _ _⟩

theorem ctlSyncDone_answers (hlong : 12 ≤ msg.length) (htype : msgType msg = mbimCommandMsg)
    (cmd : Bytes) {event : MbimVendorEvent} (htid : event.tid = getLe32 msg 8) :
    Answers msg (ctlSyncDone cmd event) := by
  unfold ctlSyncDone
  rw [htid]
  exact commandDone_answers hlong htype _ _ _ _

/-- The response is queued if there is one. -/
theorem executeCommand_eq (s : Channel) :
    ∃ notifPending, executeCommand acts s =
      { (prepareMbimResponse acts s).place (admitted (prepareMbimResponse acts s).respQueue
          { data := (prepareMbimResponse acts s).lastMbimResp
            origin := (prepareMbimResponse acts s).respOrigin }) with notifPending } := by
  unfold executeCommand
  dsimp only
  generalize prepareMbimResponse acts s = p
  by_cases hresp : p.lastMbimResp.length > 0
  · rw [if_pos hresp, mbimRespEnqueue_eq]
    exact ⟨true, rfl⟩
  · rw [if_neg hresp, admitted, if_pos (Or.inl (Nat.eq_zero_of_not_pos hresp)), place_nil]
    exact ⟨p.notifPending, rfl⟩

theorem executeCommand_of_empty {acts : HandlerActions}
    (h : (prepareMbimResponse acts s).lastMbimResp = []) :
    executeCommand acts s = prepareMbimResponse acts s := by
  unfold executeCommand
  dsimp only
  rw [h]
  rfl

theorem handleCtlSync_eq {event : MbimVendorEvent} (h : 12 ≤ event.qmiPayloadLen) :
    ∃ notifPending notifArmed doorbells qmuxState,
      handleCtlSync s event =
        { s with
          respQueue := s.respQueue ++ admitted s.respQueue
            { data := ctlSyncDone s.lastMbimCmd event, origin := some s.lastArrival }
          history :=
            { s.history with
              placed := s.history.placed ++ admitted s.respQueue
                { data := ctlSyncDone s.lastMbimCmd event, origin := some s.lastArrival }
              doorbells }
          notifPending, notifArmed, qmuxState } ∧
      Rings s notifArmed doorbells ∧ (s.qmuxState.Wf → qmuxState.Wf) := by
  have hlen : ¬ event.qmiPayloadLen < 12 := UInt32.not_lt.mpr h
  unfold handleCtlSync
  rw [if_neg hlen]
  by_cases hfull : mbimRespQueueFull s = true
  · refine ⟨s.notifPending, s.notifArmed, s.history.doorbells, s.qmuxState, ?_,
      Or.inl ⟨rfl, rfl⟩, id⟩
    rw [if_pos hfull, admitted, if_pos (Or.inr (of_decide_eq_true hfull)), List.append_nil,
      List.append_nil]
  · rw [if_neg hfull]
    dsimp only
    rw [mbimRespEnqueue_eq]
    generalize admitted s.respQueue
      { data := ctlSyncDone s.lastMbimCmd event, origin := some s.lastArrival } = items
    obtain ⟨np, na, d, heq, hrings⟩ := mbimTrySendDeferredNotification_eq
      (mbimMarkNotificationNeeded
        { s.place items with qmuxState := deferSyncInd s.qmuxState event.cid })
    refine ⟨np, na, d, deferSyncInd s.qmuxState event.cid, ?_, hrings,
      fun hwf => deferSyncInd_wf hwf _⟩
    rw [heq]
    rfl

/-- The words of a message that has them, read in the command buffer. -/
theorem loadCommand_words (s : Channel) (hlong : 12 ≤ msg.length) (n : Nat) :
    getLe32 (loadCommand s msg n).lastMbimCmd 0 = msgType msg ∧
      getLe32 (loadCommand s msg n).lastMbimCmd 8 = getLe32 msg 8 := by
  have hfour : msg.length ≥ 4 := by omega
  rw [msgType, if_pos hfour]
  exact ⟨getLe32_append_left (by omega) _, getLe32_append_left (by omega) _⟩

/-- The message in the command buffer counts as executed. -/
def Channel.noteExecuted (s : Channel) : Channel :=
  { s with history := { s.history with executed := s.history.executed ++ [s.lastArrival] } }

section Prepare

variable (acts : HandlerActions) {s : Channel}

theorem prepareMbimResponse_short (h : s.lastMbimCmdLen < 12) :
    prepareMbimResponse acts s = s.noteExecuted := by
  unfold prepareMbimResponse Channel.noteExecuted
  dsimp only
  rw [if_pos h]

theorem prepareMbimResponse_open (hlong : ¬ s.lastMbimCmdLen < 12)
    (htype : getLe32 s.lastMbimCmd 0 = mbimOpenMsg) :
    prepareMbimResponse acts s =
      { s.noteExecuted with
        qmuxState := {}
        lastMbimResp := statusDone mbimOpenDone (getLe32 s.lastMbimCmd 8)
        respOrigin := some s.lastArrival } := by
  unfold prepareMbimResponse Channel.noteExecuted
  dsimp only
  rw [if_neg hlong, if_pos htype]

theorem prepareMbimResponse_close (hlong : ¬ s.lastMbimCmdLen < 12)
    (htype : getLe32 s.lastMbimCmd 0 = mbimCloseMsg) :
    prepareMbimResponse acts s =
      { resetMbimStandardIndicationState s.noteExecuted with
        qmuxState := {}
        lastMbimResp := statusDone mbimCloseDone (getLe32 s.lastMbimCmd 8)
        respOrigin := some s.lastArrival } := by
  have hopen : ¬ getLe32 s.lastMbimCmd 0 = mbimOpenMsg := by
    rw [htype]
    decide
  unfold prepareMbimResponse Channel.noteExecuted
  dsimp only
  rw [if_neg hlong, if_neg hopen, if_pos htype]
  rfl

/-- A truncated COMMAND and a message of an unknown type have no response. -/
theorem prepareMbimResponse_silent (hlong : ¬ s.lastMbimCmdLen < 12)
    (hopen : getLe32 s.lastMbimCmd 0 ≠ mbimOpenMsg) (hclose : getLe32 s.lastMbimCmd 0 ≠ mbimCloseMsg)
    (hcommand : getLe32 s.lastMbimCmd 0 = mbimCommandMsg → s.lastMbimCmdLen < 48) :
    prepareMbimResponse acts s = { s.noteExecuted with lastMbimResp := [] } := by
  unfold prepareMbimResponse Channel.noteExecuted
  dsimp only
  rw [if_neg hlong, if_neg hopen, if_neg hclose]
  by_cases htype : getLe32 s.lastMbimCmd 0 = mbimCommandMsg
  · rw [if_pos htype, if_pos (hcommand htype)]
  · rw [if_neg htype]

theorem prepareMbimResponse_command {r : CommandResult} (hlong : ¬ s.lastMbimCmdLen < 48)
    (htype : getLe32 s.lastMbimCmd 0 = mbimCommandMsg)
    (hr : mbimHandlersHandleCommand acts s.handlers s.lastMbimCmd (UInt32.ofNat s.lastMbimCmdLen) =
      some r) :
    prepareMbimResponse acts s =
      match r.vendorEvent with
      | some event => handleCtlSync (s.noteExecuted.handled r) event
      | none => s.noteExecuted.handled r := by
  have htwelve : ¬ s.lastMbimCmdLen < 12 := by omega
  have hopen : ¬ getLe32 s.lastMbimCmd 0 = mbimOpenMsg := by
    rw [htype]
    decide
  have hclose : ¬ getLe32 s.lastMbimCmd 0 = mbimCloseMsg := by
    rw [htype]
    decide
  unfold prepareMbimResponse Channel.noteExecuted
  dsimp only
  rw [if_neg htwelve, if_neg hopen, if_neg hclose, if_pos htype, if_neg hlong, hr]
  rfl

end Prepare

/-- The message was prepared with a response in the response buffer. -/
theorem executeCommand_of_prepared {acts : HandlerActions} {resp : Bytes} {n : Nat}
    {origin : Option Nat} {qmuxState : MbimVendorQmuxState} {handlers : HandlerState}
    {bridge : StateBridge}
    {pendingLteAttachStatusInd notifPending notifArmed ep0GetInProgress : Bool}
    (hprepare : prepareMbimResponse acts (loadCommand s msg n) =
      { (loadCommand s msg n).noteExecuted with
        lastMbimResp := resp
        respOrigin := origin
        qmuxState, handlers, bridge, pendingLteAttachStatusInd, notifPending, notifArmed,
        ep0GetInProgress })
    (hanswer : Answer s.traffic n msg (admitted s.respQueue { data := resp, origin }) resp origin)
    (hrang : Rang s msg notifArmed ep0GetInProgress s.history.doorbells)
    (hwf : s.qmuxState.Wf → qmuxState.Wf) :
    Executed s n msg (executeCommand acts (loadCommand s msg n)) := by
  obtain ⟨np, heq⟩ := executeCommand_eq acts (loadCommand s msg n)
  rw [heq, hprepare]
  exact
    { traffic := ⟨_, resp, origin, hanswer, rfl⟩
      rang := hrang
      endpoint := rfl
      wf := hwf }

/-- A command of 48 octets and more: its COMMAND_DONE goes through the response buffer, or is
queued at once when it answers QMI_CTL_SYNC. -/
theorem executeCommand_command (s : Channel) (hmax : msg.length ≤ mbimCmdMax) (n : Nat)
    (htype : msgType msg = mbimCommandMsg) (hheader : 48 ≤ msg.length) :
    Executed s n msg (executeCommand acts (loadCommand s msg n)) := by
  have hlong : 12 ≤ msg.length := by omega
  obtain ⟨hword, htid⟩ := loadCommand_words s hlong n
  have hable : isAnswerable msg = true := by simp [isAnswerable, htype, hheader]
  have hcmdLen : ¬ UInt32.ofNat msg.length < 48 := by
    rw [UInt32.lt_iff_toNat_lt, UInt32.toNat_ofNat']
    unfold mbimCmdMax at hmax
    change ¬ msg.length % 2 ^ 32 < 48
    omega
  obtain ⟨r, hr⟩ := mbimHandlersHandleCommand_handled acts s.handlers
    (loadCommand s msg n).lastMbimCmd hcmdLen
  have hprepare := prepareMbimResponse_command acts (s := loadCommand s msg n)
    (Nat.not_lt.mpr hheader) (hword.trans htype) hr
  obtain ⟨status, info, hresp, hevent⟩ | ⟨event, hresp, hevent, hrequest⟩ :=
    (mbimHandlersHandleCommand_outcome hr).2
  · rw [hevent] at hprepare
    refine executeCommand_of_prepared hprepare ?_ (Or.inl ⟨Or.inl ⟨rfl, rfl⟩, rfl⟩) id
    rw [hresp, htid]
    exact .built hable (commandDone_answers hlong htype _ _ _ _)
  · rw [hevent] at hprepare
    dsimp only at hprepare
    obtain ⟨np, na, d, q, hsync, hrings, hwf⟩ :=
      handleCtlSync_eq (s := (loadCommand s msg n).noteExecuted.handled r) hrequest.long
    have hempty : (prepareMbimResponse acts (loadCommand s msg n)).lastMbimResp = [] := by
      rw [hprepare, hsync]
      exact hresp
    rw [executeCommand_of_empty hempty, hprepare, hsync]
    have hanswer : Answer s.traffic n msg (admitted s.respQueue
        { data := ctlSyncDone (loadCommand s msg n).lastMbimCmd event, origin := some n })
        r.resp (some n) := by
      rw [hresp]
      exact .synced hable (ctlSyncDone_answers hlong htype _ (hrequest.tid.trans htid))
    exact
      { traffic := ⟨_, r.resp, some n, hanswer, rfl⟩
        rang := Or.inl ⟨hrings, rfl⟩
        endpoint := rfl
        wf := hwf }

/-- Every message. -/
theorem executeCommand_executed (s : Channel) (hmax : msg.length ≤ mbimCmdMax) (n : Nat) :
    Executed s n msg (executeCommand acts (loadCommand s msg n)) := by
  have hquiet : Rang s msg s.notifArmed s.ep0GetInProgress s.history.doorbells :=
    Or.inl ⟨Or.inl ⟨rfl, rfl⟩, rfl⟩
  by_cases hshort : msg.length < 12
  · exact executeCommand_of_prepared
      (prepareMbimResponse_short acts (s := loadCommand s msg n) hshort) (.stale hshort) hquiet id
  have hlong : 12 ≤ msg.length := Nat.not_lt.mp hshort
  obtain ⟨hword, htid⟩ := loadCommand_words s hlong n
  by_cases hopen : msgType msg = mbimOpenMsg
  · have hprepare := prepareMbimResponse_open acts (s := loadCommand s msg n) hshort
      (hword.trans hopen)
    rw [htid] at hprepare
    have hable : isAnswerable msg = true := by simp [isAnswerable, hopen, hlong]
    refine executeCommand_of_prepared hprepare (.built hable (statusDone_answers hlong ?_)) hquiet
      fun _ => Or.inl rfl
    rw [hopen]
    decide
  by_cases hclose : msgType msg = mbimCloseMsg
  · have hprepare := prepareMbimResponse_close acts (s := loadCommand s msg n) hshort
      (hword.trans hclose)
    rw [htid] at hprepare
    have hable : isAnswerable msg = true := by simp [isAnswerable, hclose, hlong]
    refine executeCommand_of_prepared hprepare (.built hable (statusDone_answers hlong ?_))
      (Or.inr ⟨hclose, hlong, rfl, rfl, rfl⟩) fun _ => Or.inl rfl
    rw [hclose]
    decide
  by_cases hcommand : msgType msg = mbimCommandMsg ∧ 48 ≤ msg.length
  · exact executeCommand_command acts s hmax n hcommand.1 hcommand.2
  · have hheader : msgType msg = mbimCommandMsg → msg.length < 48 := fun htype =>
      Nat.not_le.mp fun hheader => hcommand ⟨htype, hheader⟩
    have hprepare := prepareMbimResponse_silent acts (s := loadCommand s msg n) hshort
      (fun h => hopen (hword.symm.trans h)) (fun h => hclose (hword.symm.trans h))
      fun h => hheader (hword.symm.trans h)
    have hable : isAnswerable msg = false := by
      simpa [isAnswerable, hopen, hclose] using hheader
    exact executeCommand_of_prepared hprepare (.silent hlong hable) hquiet id

/-! ## Steps -/

/-- What is deferred is an indication, and what is held is a COMMAND that fits its slot. -/
structure Channel.Wf (s : Channel) : Prop where
  qmux : s.qmuxState.Wf
  held : ∀ item ∈ s.heldQueue, item.data.length ≤ mbimCmdMax ∧ msgType item.data = mbimCommandMsg

/-- A GET that left the response queue empty releases one held command. -/
inductive Traffic.Releases (v : Traffic) : Traffic → Prop
  | idle (h : v.queue ≠ [] ∨ v.held = []) : Releases v v
  | one {item : MbimCmdItem} {rest : List MbimCmdItem} {w : Traffic} (hqueue : v.queue = [])
    (hheld : v.held = item :: rest)
    (hexec : ({ v with held := rest } : Traffic).Executes item.arrival item.data w) : Releases v w

/-- The messages of the host are cut to the buffer. -/
def messageOf (data : Bytes) : Bytes := data.take mbimCmdMax

/-- The steps of the channel, as the traffic sees them. -/
inductive TrafficStep (v : Traffic) : CoreStep → Traffic → Prop
  | held {acts : HandlerActions} {data : Bytes} (htype : msgType (messageOf data) = mbimCommandMsg)
    (hbusy : hasCommandResponse v.queue = true) :
    TrafficStep v (.sendEncapsulatedCommand acts data)
      ((v.receive (messageOf data)).hold { data := messageOf data, arrival := v.received.length })
  | dropped {acts : HandlerActions} {data : Bytes}
    (htype : msgType (messageOf data) = mbimCommandMsg) (hbusy : hasCommandResponse v.queue = true) :
    TrafficStep v (.sendEncapsulatedCommand acts data) (v.receive (messageOf data))
  | executed {acts : HandlerActions} {data : Bytes} {w : Traffic}
    (hfree : ¬ (msgType (messageOf data) = mbimCommandMsg ∧ hasCommandResponse v.queue = true))
    (hexec : (v.receive (messageOf data)).Executes v.received.length (messageOf data) w) :
    TrafficStep v (.sendEncapsulatedCommand acts data) w
  | get {acts : HandlerActions} {wLength : UInt16} {w w' : Traffic} (hrelease : v.hand.Releases w)
    (hind : w.Indicates w') : TrafficStep v (.getEncapsulatedResponse acts wLength) w'
  | other {e : CoreStep} {w : Traffic} (hsend : ∀ acts data, e ≠ .sendEncapsulatedCommand acts data)
    (hget : ∀ acts wLength, e ≠ .getEncapsulatedResponse acts wLength) (hind : v.Indicates w) :
    TrafficStep v e w

theorem Indicated.traffic (h : Indicated s t) : s.traffic.Indicates t.traffic := by
  obtain ⟨inds, _, _, _, _, _, rfl, hinds, _⟩ := h
  exact ⟨inds, hinds, rfl⟩

theorem Indicated.channelWf (h : Indicated s t) (hs : s.Wf) : t.Wf := by
  obtain ⟨_, _, _, _, _, _, rfl, _, hq⟩ := h
  exact ⟨hq, hs.held⟩

theorem mbimTrySendDeferredNotification_traffic (s : Channel) :
    (mbimTrySendDeferredNotification s).traffic = s.traffic := by
  obtain ⟨_, _, _, heq, _⟩ := mbimTrySendDeferredNotification_eq s
  rw [heq]
  rfl

theorem mbimTrySendDeferredNotification_wf (h : s.Wf) : (mbimTrySendDeferredNotification s).Wf := by
  obtain ⟨_, _, _, heq, _⟩ := mbimTrySendDeferredNotification_eq s
  rw [heq]
  exact ⟨h.qmux, h.held⟩

theorem Executed.held {s t : Channel} {n : Nat} {msg : Bytes} (h : Executed s n msg t) :
    t.heldQueue = s.heldQueue := by
  obtain ⟨_, _, _, _, heq⟩ := h.traffic
  exact congrArg Traffic.held heq

theorem Executed.channelWf {n : Nat} (h : Executed s n msg t) (hs : s.Wf) : t.Wf where
  qmux := h.wf hs.qmux
  held := by
    rw [h.held]
    exact hs.held

theorem messageOf_length (data : Bytes) : (messageOf data).length ≤ mbimCmdMax :=
  List.length_take_le _ _

/-- A message arrived. -/
def Channel.receive (s : Channel) (msg : Bytes) : Channel :=
  { s with history := { s.history with received := s.history.received ++ [msg] } }

theorem coreOnSendEncapsulatedCommand_held {data : Bytes}
    (htype : msgType (messageOf data) = mbimCommandMsg)
    (hbusy : hasCommandResponse s.respQueue = true) :
    coreOnSendEncapsulatedCommand acts s data =
      mbimHoldCommand
        (loadCommand (s.receive (messageOf data)) (messageOf data) s.history.received.length)
        { data := messageOf data, arrival := s.history.received.length } :=
  if_pos ⟨htype, hbusy⟩

theorem coreOnSendEncapsulatedCommand_executed {data : Bytes}
    (hfree : ¬ (msgType (messageOf data) = mbimCommandMsg ∧ hasCommandResponse s.respQueue = true)) :
    coreOnSendEncapsulatedCommand acts s data =
      mbimTrySendDeferredNotification (executeCommand acts
        (loadCommand (s.receive (messageOf data)) (messageOf data) s.history.received.length)) :=
  if_neg hfree

theorem mbimHoldCommand_cases (s : Channel) (item : MbimCmdItem) :
    mbimHoldCommand s item = { s with heldQueue := s.heldQueue ++ [item] } ∨
      mbimHoldCommand s item = s := by
  unfold mbimHoldCommand
  split
  · exact Or.inr rfl
  · exact Or.inl rfl

/-- A GET up to the point where a held command may be released. -/
def Channel.beginGet (s : Channel) : Channel :=
  { (mbimRespDequeue s).2 with ep0GetInProgress := true, notifArmed := false }

def Channel.releaseHeld (acts : HandlerActions) (s : Channel) : Channel :=
  if s.respQueue.isEmpty && !s.heldQueue.isEmpty then mbimProcessHeldCommand acts s else s

/-- The end of a GET. -/
def Channel.endGet (s : Channel) : Channel :=
  if s.respQueue.isEmpty then { s with ep0GetInProgress := false }
  else mbimMarkNotificationNeeded { s with ep0GetInProgress := false }

theorem coreOnGetEncapsulatedResponse_eq (s : Channel) (wLength : UInt16) :
    (coreOnGetEncapsulatedResponse acts s wLength).2 =
      (drainPendingIndications (s.beginGet.releaseHeld acts)).endGet := rfl

theorem beginGet_eq (s : Channel) :
    s.beginGet =
      { s with
        respQueue := s.respQueue.tail
        history := { s.history with handed := s.history.handed ++ s.respQueue.head?.toList }
        ep0GetInProgress := true
        notifArmed := false } := by
  unfold Channel.beginGet mbimRespDequeue
  cases hqueue : s.respQueue with
  | nil =>
    dsimp only [List.tail, List.head?, Option.toList]
    rw [List.append_nil, hqueue]
  | cons item rest => rfl

theorem beginGet_traffic (s : Channel) : s.beginGet.traffic = s.traffic.hand := by
  rw [beginGet_eq]
  rfl

theorem beginGet_wf (h : s.Wf) : s.beginGet.Wf := by
  rw [beginGet_eq]
  exact ⟨h.qmux, h.held⟩

theorem endGet_traffic (s : Channel) : s.endGet.traffic = s.traffic := by
  unfold Channel.endGet
  split <;> rfl

theorem endGet_wf (h : s.Wf) : s.endGet.Wf := by
  unfold Channel.endGet
  split <;> exact ⟨h.qmux, h.held⟩

/-- Nothing is released, or the oldest held command is executed. -/
theorem releaseHeld_cases (h : s.Wf) :
    ((s.respQueue ≠ [] ∨ s.heldQueue = []) ∧ s.releaseHeld acts = s) ∨
      ∃ item rest, s.respQueue = [] ∧ s.heldQueue = item :: rest ∧
        Executed { s with heldQueue := rest } item.arrival item.data (s.releaseHeld acts) := by
  unfold Channel.releaseHeld
  by_cases hidle : s.respQueue ≠ [] ∨ s.heldQueue = []
  · have hcond : ¬ (s.respQueue.isEmpty && !s.heldQueue.isEmpty) = true := by
      rcases hidle with hqueue | hheld
      · simp [hqueue]
      · simp [hheld]
    exact Or.inl ⟨hidle, if_neg hcond⟩
  · have hqueue : s.respQueue = [] := Decidable.not_not.mp fun h => hidle (Or.inl h)
    obtain ⟨item, rest, hheld⟩ := List.exists_cons_of_ne_nil fun h => hidle (Or.inr h)
    have hcond : (s.respQueue.isEmpty && !s.heldQueue.isEmpty) = true := by
      rw [hqueue, hheld]
      rfl
    have hitem := h.held item (hheld ▸ List.mem_cons_self)
    refine Or.inr ⟨item, rest, hqueue, hheld, ?_⟩
    rw [if_pos hcond, mbimProcessHeldCommand, hheld]
    exact executeCommand_executed acts { s with heldQueue := rest } hitem.1 item.arrival

theorem releaseHeld_wf (h : s.Wf) : (s.releaseHeld acts).Wf := by
  rcases releaseHeld_cases acts h with ⟨_, heq⟩ | ⟨item, rest, _, hheld, hexec⟩
  · rw [heq]
    exact h
  · refine hexec.channelWf ⟨h.qmux, fun other hother => h.held other ?_⟩
    rw [hheld]
    exact List.mem_cons_of_mem _ hother

theorem releaseHeld_traffic (h : s.Wf) : s.traffic.Releases (s.releaseHeld acts).traffic := by
  rcases releaseHeld_cases acts h with ⟨hidle, heq⟩ | ⟨item, rest, hqueue, hheld, hexec⟩
  · rw [heq]
    exact .idle hidle
  · exact .one hqueue hheld hexec.traffic

/-- The tick after the bridge was polled. -/
theorem coreEp0Tick_eq (s : Channel) (snap : Option UeEngineSnapshot) :
    ∃ handlers bridge, coreEp0Tick s snap =
      if 0 ≤ s.gadgetFd then
        if (drainPendingIndications { s with handlers, bridge }).respQueue.isEmpty then
          drainPendingIndications { s with handlers, bridge }
        else
          mbimTrySendDeferredNotification
            (mbimMarkNotificationNeeded (drainPendingIndications { s with handlers, bridge }))
      else { s with handlers, bridge } := by
  cases snap with
  | none => exact ⟨s.handlers, s.bridge, rfl⟩
  | some snap => exact ⟨_, _, rfl⟩

theorem coreEp0Tick_traffic (h : s.Wf) (snap : Option UeEngineSnapshot) :
    s.traffic.Indicates (coreEp0Tick s snap).traffic ∧ (coreEp0Tick s snap).Wf := by
  obtain ⟨handlers, bridge, heq⟩ := coreEp0Tick_eq s snap
  rw [heq]
  have hpolled : Channel.Wf { s with handlers, bridge } := ⟨h.qmux, h.held⟩
  have hdrain := drainPendingIndications_indicated hpolled.qmux
  split
  · split
    · exact ⟨hdrain.traffic, hdrain.channelWf hpolled⟩
    · rw [mbimTrySendDeferredNotification_traffic]
      have hmarked := hdrain.channelWf hpolled
      exact ⟨hdrain.traffic, mbimTrySendDeferredNotification_wf ⟨hmarked.qmux, hmarked.held⟩⟩
  · exact ⟨.refl _, hpolled⟩

theorem coreOnSendEncapsulatedCommand_traffic (h : s.Wf) (data : Bytes) :
    (coreOnSendEncapsulatedCommand acts s data).Wf ∧
      TrafficStep s.traffic (.sendEncapsulatedCommand acts data)
        (coreOnSendEncapsulatedCommand acts s data).traffic := by
  by_cases hhold : msgType (messageOf data) = mbimCommandMsg ∧ hasCommandResponse s.respQueue = true
  · rw [coreOnSendEncapsulatedCommand_held acts hhold.1 hhold.2]
    rcases mbimHoldCommand_cases (loadCommand (s.receive (messageOf data)) (messageOf data)
      s.history.received.length) ⟨messageOf data, s.history.received.length⟩ with heq | heq
    · rw [heq]
      refine ⟨⟨h.qmux, fun item hitem => ?_⟩, .held hhold.1 hhold.2⟩
      rcases List.mem_append.mp hitem with hitem | hitem
      · exact h.held item hitem
      · rw [List.mem_singleton.mp hitem]
        exact ⟨messageOf_length data, hhold.1⟩
    · rw [heq]
      exact ⟨⟨h.qmux, h.held⟩, .dropped hhold.1 hhold.2⟩
  · rw [coreOnSendEncapsulatedCommand_executed acts hhold, mbimTrySendDeferredNotification_traffic]
    have hexec := executeCommand_executed acts (s.receive (messageOf data))
      (messageOf_length data) s.history.received.length
    exact ⟨mbimTrySendDeferredNotification_wf (hexec.channelWf ⟨h.qmux, h.held⟩),
      .executed hhold hexec.traffic⟩

theorem coreOnGetEncapsulatedResponse_traffic (h : s.Wf) (wLength : UInt16) :
    (coreOnGetEncapsulatedResponse acts s wLength).2.Wf ∧
      TrafficStep s.traffic (.getEncapsulatedResponse acts wLength)
        (coreOnGetEncapsulatedResponse acts s wLength).2.traffic := by
  rw [coreOnGetEncapsulatedResponse_eq, endGet_traffic]
  have hbegin := beginGet_wf h
  have hrelease := releaseHeld_traffic acts hbegin
  rw [beginGet_traffic] at hrelease
  have hwf := releaseHeld_wf acts hbegin
  have hdrain := drainPendingIndications_indicated hwf.qmux
  exact ⟨endGet_wf (hdrain.channelWf hwf), .get hrelease hdrain.traffic⟩

/-- Every step of the channel keeps it well formed and is a step of its traffic. -/
theorem coreStep_simulated (h : s.Wf) (e : CoreStep) :
    (coreStep s e).Wf ∧ TrafficStep s.traffic e (coreStep s e).traffic := by
  cases e with
  | tick snap =>
    obtain ⟨hind, hwf⟩ := coreEp0Tick_traffic h snap
    exact ⟨hwf, .other nofun nofun hind⟩
  | sendEncapsulatedCommand acts data => exact coreOnSendEncapsulatedCommand_traffic acts h data
  | getEncapsulatedResponse acts wLength =>
    exact coreOnGetEncapsulatedResponse_traffic acts h wLength
  | setConfiguration epInt =>
    change (setConfiguration s epInt).Wf ∧ TrafficStep s.traffic _ (setConfiguration s epInt).traffic
    unfold setConfiguration
    split
    · exact ⟨h, .other nofun nofun (.refl _)⟩
    · exact ⟨⟨h.qmux, h.held⟩, .other nofun nofun (.refl _)⟩
  | busEvent => exact ⟨h, .other nofun nofun (.refl _)⟩
  | smsDownlink pdu =>
    dsimp only [coreStep]
    split
    · exact ⟨⟨h.qmux, h.held⟩, .other nofun nofun (.refl _)⟩
    · exact ⟨h, .other nofun nofun (.refl _)⟩

theorem coreStep_wf (h : s.Wf) (e : CoreStep) : (coreStep s e).Wf :=
  (coreStep_simulated h e).1

theorem coreStep_traffic (h : s.Wf) (e : CoreStep) :
    TrafficStep s.traffic e (coreStep s e).traffic :=
  (coreStep_simulated h e).2

/-- The channel starts well formed. -/
theorem ChannelInit.wf (h : ChannelInit s) : s.Wf where
  qmux := Or.inl (congrArg MbimVendorQmuxState.syncInd h.qmux)
  held := by
    rw [h.held]
    exact nofun

end VirtualLte.Mbim
