import VirtualLte.Mbim.Doorbell

/-!
# The start of a session

MBIM_OPEN resets the QMUX state and nothing else, and the reset of the bus is only
logged, so a session starts with what the one before it left behind.

* `StartsClean`: the first response the host fetches is the OPEN_DONE, and the host is
  told of it.
* `coreRun_startsClean_iff`: that is so exactly when nothing was waiting and no
  notification was unanswered, with the endpoint enabled.
* `handed_next`: what was waiting is fetched first.
-/

namespace VirtualLte.Mbim

/-- An OPEN that has a transaction id. -/
def opensSession (data : Bytes) : Bool :=
  msgType (messageOf data) = mbimOpenMsg && 12 ≤ (messageOf data).length

/-- The answer to the OPEN in `data`, when it arrives as message number `n`. -/
def openDoneItem (data : Bytes) (n : Nat) : MbimRespItem :=
  { data := statusDone mbimOpenDone (getLe32 (messageOf data) 8), origin := some n }

/-- The session that the OPEN in `data` starts in state `s` begins with its OPEN_DONE. -/
structure StartsClean (acts : HandlerActions) (s : Channel) (data : Bytes) : Prop where
  /-- Whatever happens until the next GET. -/
  first : ∀ between, (∀ e ∈ between, e.isGet = false) → ∀ acts' wLength,
    (coreRun s (.sendEncapsulatedCommand acts data :: between ++
      [.getEncapsulatedResponse acts' wLength])).history.handed =
        s.history.handed ++ [openDoneItem data s.history.received.length]
  told : ∀ snap,
    s.history.doorbells < doorbells s [.sendEncapsulatedCommand acts data, .tick snap]

/-! ## The OPEN -/

theorem notifEndpointUp_congr {s t : Channel} (hfd : t.gadgetFd = s.gadgetFd)
    (hint : t.mbimEpInt = s.mbimEpInt) : notifEndpointUp t = notifEndpointUp s := by
  unfold notifEndpointUp
  rw [hfd, hint]

/-- An OPEN queues its answer behind what is there and tries to ring. -/
theorem coreStep_open (acts : HandlerActions) (s : Channel) {data : Bytes}
    (hopen : opensSession data = true) :
    ∃ t, coreStep s (.sendEncapsulatedCommand acts data) = mbimTrySendDeferredNotification t ∧
      t.respQueue = s.respQueue ++
        admitted s.respQueue (openDoneItem data s.history.received.length) ∧
      t.history.handed = s.history.handed ∧ t.notifArmed = s.notifArmed ∧
      t.ep0GetInProgress = s.ep0GetInProgress ∧ t.history.doorbells = s.history.doorbells ∧
      notifEndpointUp t = notifEndpointUp s ∧ t.notifPending = true := by
  obtain ⟨htype, hlong⟩ := Bool.and_eq_true_iff.mp hopen
  replace htype := of_decide_eq_true htype
  replace hlong := of_decide_eq_true hlong
  have hfree : ¬ (msgType (messageOf data) = mbimCommandMsg ∧
      hasCommandResponse s.respQueue = true) := fun h => by
    rw [htype] at h
    exact absurd h.1 (by decide)
  obtain ⟨hword, htid⟩ := loadCommand_words (s.receive (messageOf data)) hlong
    s.history.received.length
  have hprepare := prepareMbimResponse_open acts
    (s := loadCommand (s.receive (messageOf data)) (messageOf data) s.history.received.length)
    (Nat.not_lt.mpr hlong) (hword.trans htype)
  rw [htid] at hprepare
  refine ⟨_, coreOnSendEncapsulatedCommand_executed acts hfree, ?_⟩
  unfold executeCommand
  dsimp only
  rw [hprepare, if_pos (show 0 < (statusDone mbimOpenDone _).length from Nat.succ_pos 15),
    mbimRespEnqueue_eq]
  simp only [mbimMarkNotificationNeeded, Channel.place, Channel.noteExecuted, loadCommand,
    Channel.receive, openDoneItem]
  exact ⟨trivial, trivial, trivial, trivial, trivial, notifEndpointUp_congr rfl rfl, trivial⟩

/-! ## What the host fetches -/

theorem Traffic.Executes.handed {v w : Traffic} {n : Nat} {msg : Bytes} (h : v.Executes n msg w) :
    v.queue <+: w.queue ∧ w.handed = v.handed := by
  obtain ⟨items, _, _, _, rfl⟩ := h
  exact ⟨List.prefix_append _ _, rfl⟩

theorem Traffic.Indicates.handed {v w : Traffic} (h : v.Indicates w) :
    v.queue <+: w.queue ∧ w.handed = v.handed := by
  obtain ⟨inds, _, rfl⟩ := h
  exact ⟨List.prefix_append _ _, rfl⟩

/-- Until a GET, the queue only grows at its end. -/
theorem TrafficStep.grows {v w : Traffic} {e : CoreStep} (h : TrafficStep v e w)
    (hget : e.isGet = false) : v.queue <+: w.queue ∧ w.handed = v.handed := by
  cases h with
  | held _ _ => exact ⟨List.prefix_rfl, rfl⟩
  | dropped _ _ => exact ⟨List.prefix_rfl, rfl⟩
  | executed _ hexec => exact hexec.handed
  | get _ _ => cases hget
  | other _ _ hind => exact hind.handed

/-- A GET hands over the head of the queue. -/
theorem TrafficStep.hands {v w : Traffic} {acts : HandlerActions} {wLength : UInt16}
    (h : TrafficStep v (.getEncapsulatedResponse acts wLength) w) :
    w.handed = v.handed ++ v.queue.head?.toList := by
  cases h with
  | get hrelease hind =>
    rw [hind.handed.2]
    cases hrelease with
    | idle _ => rfl
    | one _ _ hexec => exact hexec.handed.2
  | other _ hget _ => exact absurd rfl (hget acts wLength)

/-- The next GET after steps without one hands over what was the head before them. -/
theorem handed_next {s : Channel} (h : s.Idle) {item : MbimRespItem}
    (hhead : s.respQueue.head? = some item) (between : List CoreStep)
    (hbetween : ∀ e ∈ between, e.isGet = false) (acts : HandlerActions) (wLength : UInt16) :
    (coreRun s (between ++ [.getEncapsulatedResponse acts wLength])).history.handed =
      s.history.handed ++ [item] := by
  induction between generalizing s with
  | nil =>
    have hhands := (coreStep_traffic h.booked.wf (.getEncapsulatedResponse acts wLength)).hands
    exact hhands.trans (congrArg (fun head => s.history.handed ++ head.toList) hhead)
  | cons e between ih =>
    obtain ⟨⟨more, hmore⟩, hhanded⟩ :=
      (coreStep_traffic h.booked.wf e).grows (hbetween e List.mem_cons_self)
    have hhead' : (coreStep s e).respQueue.head? = some item := by
      change (coreStep s e).traffic.queue.head? = some item
      rw [← hmore, List.head?_append, show s.traffic.queue.head? = some item from hhead]
      rfl
    rw [show s.history.handed = (coreStep s e).history.handed from hhanded.symm]
    exact ih (h.step e) hhead' fun e' he' => hbetween e' (List.mem_cons_of_mem _ he')

/-! ## The notification -/

theorem mbimTrySendDeferredNotification_down {s : Channel} (h : notifEndpointUp s = false) :
    mbimTrySendDeferredNotification s = s := by
  unfold mbimTrySendDeferredNotification
  rw [h]
  rfl

/-- Nothing rings without the endpoint. -/
theorem coreEp0Tick_down {s : Channel} (h : s.Wf) (hdown : notifEndpointUp s = false)
    (snap : Option UeEngineSnapshot) :
    (coreEp0Tick s snap).history.doorbells = s.history.doorbells := by
  obtain ⟨handlers, bridge, heq⟩ := coreEp0Tick_eq s snap
  rw [heq]
  obtain ⟨_, _, hcount, hendpoint⟩ := (drainPendingIndications_indicated
    (s := { s with handlers, bridge }) h.qmux).flags
  split
  · split
    · exact hcount
    · rw [mbimTrySendDeferredNotification_down (s := mbimMarkNotificationNeeded _)
        (hendpoint.trans hdown)]
      exact hcount
  · rfl

/-- Nothing rings while a notification is unanswered. -/
theorem Rings.of_armed {s : Channel} {armed : Bool} {count : Nat} (h : Rings s armed count)
    (harmed : s.notifArmed = true) : armed = true ∧ count = s.history.doorbells := by
  rcases h with ⟨hsame, hcount⟩ | ⟨hfree, _⟩
  · exact ⟨hsame.trans harmed, hcount⟩
  · rw [harmed] at hfree
    cases hfree

section Open

variable (acts : HandlerActions) {s : Channel} {data : Bytes} (hopen : opensSession data = true)

include hopen

/-- The OPEN and the tick behind it do not ring when a notification is unanswered. -/
theorem open_silent_of_armed (h : s.Idle) (harmed : s.notifArmed = true)
    (snap : Option UeEngineSnapshot) :
    doorbells s [.sendEncapsulatedCommand acts data, .tick snap] = s.history.doorbells := by
  obtain ⟨t, hstep, _, _, htarmed, _, hcount, _⟩ := coreStep_open acts s hopen
  obtain ⟨harmed', hcount'⟩ :=
    (mbimTrySendDeferredNotification_rings t).1.of_armed (htarmed.trans harmed)
  rw [← hstep] at harmed' hcount'
  have htick := (coreEp0Tick_rings (h.step (.sendEncapsulatedCommand acts data)).booked.wf snap).1
  exact (htick.of_armed harmed').2.trans (hcount'.trans hcount)

theorem open_silent_of_down (h : s.Idle) (hdown : notifEndpointUp s = false)
    (snap : Option UeEngineSnapshot) :
    doorbells s [.sendEncapsulatedCommand acts data, .tick snap] = s.history.doorbells := by
  obtain ⟨t, hstep, _, _, _, _, hcount, hendpoint, _⟩ := coreStep_open acts s hopen
  have htdown := hendpoint.trans hdown
  rw [mbimTrySendDeferredNotification_down htdown] at hstep
  have hwf := (h.step (.sendEncapsulatedCommand acts data)).booked.wf
  rw [hstep] at hwf
  change (coreStep (coreStep s (.sendEncapsulatedCommand acts data)) (.tick snap)).history.doorbells =
    s.history.doorbells
  rw [hstep]
  exact (coreEp0Tick_down hwf htdown snap).trans hcount

/-- With the endpoint enabled and nothing unanswered, the OPEN itself rings. -/
theorem open_rings (h : s.Idle) (hqueue : s.respQueue = []) (hfree : s.notifArmed = false)
    (hup : notifEndpointUp s = true) (snap : Option UeEngineSnapshot) :
    s.history.doorbells < doorbells s [.sendEncapsulatedCommand acts data, .tick snap] := by
  obtain ⟨t, hstep, htqueue, _, htarmed, hget, hcount, hendpoint, hpending⟩ :=
    coreStep_open acts s hopen
  have hne : t.respQueue ≠ [] := by
    rw [htqueue, hqueue]
    exact List.cons_ne_nil _ _
  have hrang := mbimTrySendDeferredNotification_armed (hendpoint.trans hup) hpending
    (hget.trans h.noGet) hne
  have hopened : s.history.doorbells <
      (coreStep s (.sendEncapsulatedCommand acts data)).history.doorbells := by
    rw [hstep]
    rcases (mbimTrySendDeferredNotification_rings t).1 with ⟨hsame, _⟩ | ⟨_, _, _, hone⟩
    · rw [hrang, htarmed, hfree] at hsame
      cases hsame
    · omega
  have htick := (coreEp0Tick_rings (h.step (.sendEncapsulatedCommand acts data)).booked.wf snap).1
  refine Nat.lt_of_lt_of_le hopened ?_
  rcases htick with ⟨_, hsame⟩ | ⟨_, _, _, hone⟩
  · exact Nat.le_of_eq hsame.symm
  · exact Nat.le_of_lt (Nat.lt_of_lt_of_eq (Nat.lt_succ_self _) hone.symm)

theorem open_first (h : s.Idle) (hqueue : s.respQueue = []) {between : List CoreStep}
    (hbetween : ∀ e ∈ between, e.isGet = false) (acts' : HandlerActions) (wLength : UInt16) :
    (coreRun s (.sendEncapsulatedCommand acts data :: between ++
      [.getEncapsulatedResponse acts' wLength])).history.handed =
        s.history.handed ++ [openDoneItem data s.history.received.length] := by
  obtain ⟨t, hstep, htqueue, hhanded, _⟩ := coreStep_open acts s hopen
  have htraffic := mbimTrySendDeferredNotification_traffic t
  rw [← hstep] at htraffic
  have hhead : (coreStep s (.sendEncapsulatedCommand acts data)).respQueue.head? =
      some (openDoneItem data s.history.received.length) := by
    rw [show (coreStep s (.sendEncapsulatedCommand acts data)).respQueue = t.respQueue from
      congrArg Traffic.queue htraffic, htqueue, hqueue]
    rfl
  have hnext := handed_next (h.step _) hhead _ hbetween acts' wLength
  rw [show (coreStep s (.sendEncapsulatedCommand acts data)).history.handed = s.history.handed from
    (congrArg Traffic.handed htraffic).trans hhanded] at hnext
  exact hnext

end Open

/-! ## Sessions -/

/-- What waits in the queue is older than the next message. -/
theorem Channel.Booked.origin_ne {s : Channel} (h : s.Booked) {item : MbimRespItem}
    (hitem : item ∈ s.respQueue) : item.origin ≠ some s.history.received.length := by
  intro horigin
  have hplaced : item ∈ s.traffic.placed := by
    rw [h.books.fifo]
    exact List.mem_append_right _ hitem
  rcases h.books.placed item hplaced with hind | ⟨n, _, hn, hexecuted, _⟩
  · rw [hind.1] at horigin
    cases horigin
  · obtain rfl := Option.some.inj (hn.symm.trans horigin)
    exact absurd (h.books.known _ hexecuted) (Nat.lt_irrefl _)

/-- A session starts clean exactly when nothing was waiting, no notification was unanswered
and the endpoint is enabled. -/
theorem coreRun_startsClean_iff {s₀ : Channel} (h : ChannelInit s₀) (es : List CoreStep)
    (acts : HandlerActions) {data : Bytes} (hopen : opensSession data = true) :
    StartsClean acts (coreRun s₀ es) data ↔
      (coreRun s₀ es).respQueue = [] ∧ (coreRun s₀ es).notifArmed = false ∧
        notifEndpointUp (coreRun s₀ es) = true := by
  have hidle := h.idle.run es
  generalize coreRun s₀ es = s at hidle
  constructor
  · intro hclean
    refine ⟨?_, ?_, ?_⟩
    · cases hqueue : s.respQueue with
      | nil => rfl
      | cons item rest =>
        have hmem : item ∈ s.respQueue := by
          rw [hqueue]
          exact List.mem_cons_self
        have hfirst := hclean.first [] nofun acts 0
        have hold := handed_next hidle (congrArg List.head? hqueue)
          [.sendEncapsulatedCommand acts data] (List.forall_mem_singleton.mpr rfl) acts 0
        have hsame := List.append_cancel_left (hold.symm.trans hfirst)
        exact absurd (congrArg MbimRespItem.origin (List.cons.inj hsame).1)
          (hidle.booked.origin_ne hmem)
    · refine eq_false_of_ne_true fun harmed => ?_
      exact absurd (open_silent_of_armed acts hopen hidle harmed none)
        (Nat.ne_of_gt (hclean.told none))
    · refine eq_true_of_ne_false fun hdown => ?_
      exact absurd (open_silent_of_down acts hopen hidle hdown none)
        (Nat.ne_of_gt (hclean.told none))
  · rintro ⟨hqueue, hfree, hup⟩
    exact {
      first := fun between hbetween acts' wLength =>
        open_first acts hopen hidle hqueue hbetween acts' wLength
      told := open_rings acts hopen hidle hqueue hfree hup }

/-- The message of `hostOpen`. -/
def openMessage (tid : UInt32) : Bytes := le32s [mbimOpenMsg, 16, tid, 4096]

/-- A session whose every answer the host fetches, a reset of the bus, and the endpoints again. -/
def fetchedSession : List CoreStep :=
  [.setConfiguration 1, hostOpen 1, hostGet, hostQuery 2, hostGet, hostClose 3, hostGet, .busEvent,
    .setConfiguration 1]

/-- The next session starts clean. -/
theorem coreRun_startsClean_second :
    StartsClean noSms (coreRun openGadget fetchedSession) (openMessage 4) :=
  (coreRun_startsClean_iff openGadget_init fetchedSession noSms (by decide)).mpr (by decide)

/-- The modem registered and the host went away without fetching the indication.  The flag
stays armed over the reset of the bus, so nothing announces the next session's OPEN_DONE. -/
theorem reset_keeps_session :
    ¬ ∀ (es : List CoreStep) (acts : HandlerActions) (data : Bytes), opensSession data = true →
      StartsClean acts (coreRun openGadget (es ++ [.busEvent])) data := by
  intro hall
  have hclean := hall [.setConfiguration 1, tickRegistered] noSms (openMessage 7) (by decide)
  have htold := hclean.told none
  revert htold
  decide

end VirtualLte.Mbim
