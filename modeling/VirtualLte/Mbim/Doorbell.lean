import VirtualLte.Mbim.Accounting

/-!
# The doorbell

RESPONSE_AVAILABLE tells the host to fetch, and only a fetch releases what is held, so
work is lost when the two queues and the doorbell get out of step.

* `NoStrandedWork` collects what keeps them in step: held commands have a response in
  front of them, a response has a notification, and there is at most one notification
  for a fetch.
* `Bell` says how one step moves the armed flag and the count of notifications.
* A CLOSE resets the flags, so it may ring again before the host has fetched anything.
* A released command of 12 to 47 octets has no response, and what is held behind it then
  waits for a fetch that nothing announces.
-/

namespace VirtualLte.Mbim

variable {s : Channel}

def CoreStep.isGet : CoreStep → Bool
  | .getEncapsulatedResponse .. => true
  | _ => false

/-- A CLOSE that is executed. -/
def CoreStep.isClose : CoreStep → Bool
  | .sendEncapsulatedCommand _ data =>
    msgType (messageOf data) = mbimCloseMsg && 12 ≤ (messageOf data).length
  | _ => false

/-- Notifications sent in a run. -/
def doorbells (s : Channel) (es : List CoreStep) : Nat := (coreRun s es).history.doorbells

/-- No stranded work, for the runs that meet `answered` at every step and with a second
notification allowed after the steps that `resets` names. -/
structure NoStrandedWork (answered : Channel → CoreStep → Prop) (resets : CoreStep → Bool)
    (s : Channel) : Prop where
  held : ∀ es, Transition.Along coreStep answered s es → (coreRun s es).heldQueue ≠ [] →
    (coreRun s es).respQueue ≠ []
  /-- `before` ends with the last GET; the run then goes on to a tick. -/
  notified : ∀ before after snap, (∀ e ∈ before.getLast?, e.isGet = true) →
    (∀ e ∈ after, e.isGet = false) →
    notifEndpointUp (coreRun s (before ++ after ++ [.tick snap])) = true →
    (coreRun s (before ++ after ++ [.tick snap])).respQueue ≠ [] →
    doorbells s before < doorbells s (before ++ after ++ [.tick snap])
  atMostOne : ∀ before between, (∀ e ∈ between, e.isGet = false ∧ resets e = false) →
    doorbells s (before ++ between) ≤ doorbells s before + 1
  quiet : ∀ es e, e.isGet = true → doorbells s (es ++ [e]) = doorbells s es

/-- A command that a GET releases while others stay held is answered: it is long enough, or
so short that the last response is queued again. -/
def ReleaseAnswered (s : Channel) : CoreStep → Prop
  | .getEncapsulatedResponse _ _ =>
    s.respQueue.tail = [] → 1 < s.heldQueue.length → ∀ item ∈ s.heldQueue.head?,
      48 ≤ item.data.length ∨ (item.data.length < 12 ∧ s.lastMbimResp ≠ [])
  | _ => True

instance (s : Channel) : (e : CoreStep) → Decidable (ReleaseAnswered s e)
  | .getEncapsulatedResponse _ _ =>
    inferInstanceAs (Decidable (s.respQueue.tail = [] → 1 < s.heldQueue.length →
      ∀ item ∈ s.heldQueue.head?,
        48 ≤ item.data.length ∨ (item.data.length < 12 ∧ s.lastMbimResp ≠ [])))
  | .sendEncapsulatedCommand .. | .tick _ | .setConfiguration _ | .busEvent | .smsDownlink _ =>
    isTrue trivial

/-! ## Held commands -/

/-- Held commands have a response in front of them. -/
def Traffic.Fetchable (v : Traffic) : Prop := v.held ≠ [] → v.queue ≠ []

theorem Answer.items_ne_nil {v : Traffic} {n : Nat} {msg : Bytes} {items : List MbimRespItem}
    {resp : Bytes} {origin : Option Nat} (h : Answer v n msg items resp origin)
    (hqueue : v.queue = []) (htype : msgType msg = mbimCommandMsg)
    (hlength : 48 ≤ msg.length ∨ (msg.length < 12 ∧ v.lastResp ≠ [])) : items ≠ [] := by
  have hroom : v.queue.length < mbimQueueRoom := by
    rw [hqueue]
    decide
  cases h with
  | stale hshort =>
    obtain ⟨_, hlast⟩ := hlength.resolve_left (by omega)
    rw [admitted_of_room hlast hroom]
    exact List.cons_ne_nil _ _
  | built hable hdata =>
    rw [admitted_of_room hdata.ne_nil hroom]
    exact List.cons_ne_nil _ _
  | synced hable hdata =>
    rw [admitted_of_room hdata.ne_nil hroom]
    exact List.cons_ne_nil _ _
  | silent hlong hable =>
    have hheader : 48 ≤ msg.length := hlength.resolve_right fun h => by omega
    simp [isAnswerable, htype, hheader] at hable

theorem Traffic.Fetchable.indicates {v w : Traffic} (h : v.Fetchable) (hind : v.Indicates w) :
    w.Fetchable := by
  obtain ⟨inds, _, rfl⟩ := hind
  exact fun hheld hqueue => h hheld (List.append_eq_nil_iff.mp hqueue).1

theorem hasCommandResponse_ne_nil {queue : List MbimRespItem}
    (h : hasCommandResponse queue = true) : queue ≠ [] := by
  rintro rfl
  cases h

theorem TrafficStep.fetchable {v w : Traffic} {e : CoreStep} (hstep : TrafficStep v e w)
    (hbooked : v.Booked) (h : v.Fetchable)
    (hget : ∀ acts wLength, e = .getEncapsulatedResponse acts wLength → v.queue.tail = [] →
      1 < v.held.length → ∀ item ∈ v.held.head?,
        48 ≤ item.data.length ∨ (item.data.length < 12 ∧ v.lastResp ≠ [])) : w.Fetchable := by
  cases hstep with
  | held htype hbusy => exact fun _ => hasCommandResponse_ne_nil hbusy
  | dropped htype hbusy => exact fun _ => hasCommandResponse_ne_nil hbusy
  | executed hfree hexec =>
    obtain ⟨items, _, _, _, rfl⟩ := hexec
    exact fun hheld hqueue => h hheld (List.append_eq_nil_iff.mp hqueue).1
  | @get acts wLength _ _ hrelease hind =>
    refine Traffic.Fetchable.indicates ?_ hind
    cases hrelease with
    | idle hidle => exact fun hheld => hidle.resolve_right hheld
    | @one item rest _ hqueue hheld hexec =>
      obtain ⟨items, resp, origin, hanswer, rfl⟩ := hexec
      intro hrest hnil
      have hheld : v.held = item :: rest := hheld
      have hmany : 1 < v.held.length := by
        rw [hheld, List.length_cons]
        exact Nat.succ_lt_succ (List.length_pos_iff.mpr hrest)
      have hlength := hget acts wLength rfl hqueue hmany item (by rw [hheld]; rfl)
      have htype := (hbooked.held item (by rw [hheld]; exact List.mem_cons_self)).2
      exact hanswer.items_ne_nil hqueue htype hlength (List.append_eq_nil_iff.mp hnil).2
  | other _ _ hind => exact h.indicates hind

/-! ## Notifications -/

theorem Indicated.flags {t : Channel} (h : Indicated s t) :
    t.notifArmed = s.notifArmed ∧ t.ep0GetInProgress = s.ep0GetInProgress ∧
      t.history.doorbells = s.history.doorbells ∧ notifEndpointUp t = notifEndpointUp s := by
  obtain ⟨_, _, _, _, _, _, rfl, _⟩ := h
  exact ⟨rfl, rfl, rfl, rfl⟩

theorem Rings.refl (s : Channel) : Rings s s.notifArmed s.history.doorbells := Or.inl ⟨rfl, rfl⟩

/-- Two attempts ring at most once. -/
theorem Rings.trans {t : Channel} {armed : Bool} {count : Nat}
    (h : Rings s t.notifArmed t.history.doorbells) (hget : t.ep0GetInProgress = s.ep0GetInProgress)
    (h' : Rings t armed count) : Rings s armed count := by
  rcases h with ⟨harmed, hcount⟩ | ⟨hfree, hidle, harmed, hcount⟩
  · unfold Rings at h' ⊢
    rw [harmed, hcount, hget] at h'
    exact h'
  · rcases h' with ⟨rfl, rfl⟩ | ⟨hfree', _⟩
    · exact Or.inr ⟨hfree, hidle, harmed, hcount⟩
    · rw [harmed] at hfree'
      cases hfree'

theorem mbimTrySendDeferredNotification_rings (s : Channel) :
    Rings s (mbimTrySendDeferredNotification s).notifArmed
        (mbimTrySendDeferredNotification s).history.doorbells ∧
      (mbimTrySendDeferredNotification s).ep0GetInProgress = s.ep0GetInProgress := by
  obtain ⟨_, _, _, heq, hrings⟩ := mbimTrySendDeferredNotification_eq s
  rw [heq]
  exact ⟨hrings, rfl⟩

/-- The armed flag and the count of notifications, over one step. -/
inductive Bell (s t : Channel) (e : CoreStep) : Prop
  | get (hget : e.isGet = true) (harmed : t.notifArmed = false)
    (hcount : t.history.doorbells = s.history.doorbells)
  | close (hget : e.isGet = false) (hclose : e.isClose = true)
    (hrings : Rings { s with notifArmed := false } t.notifArmed t.history.doorbells)
  | ring (hget : e.isGet = false) (hrings : Rings s t.notifArmed t.history.doorbells)

theorem Bell.of_get {t : Channel} {e : CoreStep} (h : Bell s t e) (hget : e.isGet = true) :
    t.notifArmed = false ∧ t.history.doorbells = s.history.doorbells := by
  cases h with
  | get _ harmed hcount => exact ⟨harmed, hcount⟩
  | close hno _ _ => exact absurd (hno.symm.trans hget) (by decide)
  | ring hno _ => exact absurd (hno.symm.trans hget) (by decide)

/-- Without a GET: a CLOSE forgets that the flag was armed, and there is one attempt to ring. -/
theorem Bell.of_not_get {t : Channel} {e : CoreStep} (h : Bell s t e) (hget : e.isGet = false) :
    Rings s t.notifArmed t.history.doorbells ∨ (e.isClose = true ∧
      Rings { s with notifArmed := false } t.notifArmed t.history.doorbells) := by
  cases h with
  | get hyes _ _ => exact absurd (hyes.symm.trans hget) (by decide)
  | close _ hclose hrings => exact Or.inr ⟨hclose, hrings⟩
  | ring _ hrings => exact Or.inl hrings

theorem coreEp0Tick_rings (h : s.Wf) (snap : Option UeEngineSnapshot) :
    Rings s (coreEp0Tick s snap).notifArmed (coreEp0Tick s snap).history.doorbells ∧
      (coreEp0Tick s snap).ep0GetInProgress = s.ep0GetInProgress := by
  obtain ⟨handlers, bridge, heq⟩ := coreEp0Tick_eq s snap
  rw [heq]
  obtain ⟨harmed, hget, hcount, _⟩ := (drainPendingIndications_indicated
    (s := { s with handlers, bridge }) h.qmux).flags
  generalize drainPendingIndications { s with handlers, bridge } = t at harmed hget hcount ⊢
  have hdrained : Rings s t.notifArmed t.history.doorbells := Or.inl ⟨harmed, hcount⟩
  split
  · split
    · exact ⟨hdrained, hget⟩
    · obtain ⟨hrings, hget'⟩ :=
        mbimTrySendDeferredNotification_rings (mbimMarkNotificationNeeded t)
      exact ⟨Rings.trans (t := mbimMarkNotificationNeeded t) hdrained hget hrings,
        hget'.trans hget⟩
  · exact ⟨.refl s, rfl⟩

theorem mbimTrySendDeferredNotification_armed (hup : notifEndpointUp s = true)
    (hpending : s.notifPending = true) (hidle : s.ep0GetInProgress = false)
    (hqueue : s.respQueue ≠ []) : (mbimTrySendDeferredNotification s).notifArmed = true := by
  unfold mbimTrySendDeferredNotification
  rw [hup, hpending, hidle, if_neg (by decide), if_neg (by decide), if_neg (by decide)]
  split
  · rename_i harmed
    exact harmed
  · rw [if_neg fun hempty => hqueue (List.isEmpty_iff.mp hempty)]

/-- A tick with the endpoint up leaves the flag armed when there is something to fetch. -/
theorem coreEp0Tick_armed (h : s.Wf) (hidle : s.ep0GetInProgress = false)
    (snap : Option UeEngineSnapshot) (hup : notifEndpointUp s = true)
    (hqueue : (coreEp0Tick s snap).respQueue ≠ []) : (coreEp0Tick s snap).notifArmed = true := by
  obtain ⟨handlers, bridge, heq⟩ := coreEp0Tick_eq s snap
  have hfd : 0 ≤ s.gadgetFd := of_decide_eq_true (Bool.and_eq_true_iff.mp hup).1
  rw [heq, if_pos hfd] at hqueue ⊢
  obtain ⟨_, hget, _, hendpoint⟩ := (drainPendingIndications_indicated
    (s := { s with handlers, bridge }) h.qmux).flags
  generalize drainPendingIndications { s with handlers, bridge } = t at hget hendpoint hqueue ⊢
  split at hqueue
  · rename_i hempty
    exact absurd (List.isEmpty_iff.mp hempty) hqueue
  · rename_i hempty
    rw [if_neg hempty]
    exact mbimTrySendDeferredNotification_armed (s := mbimMarkNotificationNeeded t)
      (hendpoint.trans hup) rfl (hget.trans hidle) fun hnil => hempty (List.isEmpty_iff.mpr hnil)

theorem coreEp0Tick_endpoint (h : s.Wf) (snap : Option UeEngineSnapshot) :
    notifEndpointUp (coreEp0Tick s snap) = notifEndpointUp s := by
  obtain ⟨handlers, bridge, heq⟩ := coreEp0Tick_eq s snap
  rw [heq]
  have hendpoint := (drainPendingIndications_indicated
    (s := { s with handlers, bridge }) h.qmux).flags.2.2.2
  split
  · split
    · exact hendpoint
    · obtain ⟨_, _, _, htry, _⟩ := mbimTrySendDeferredNotification_eq
        (mbimMarkNotificationNeeded (drainPendingIndications { s with handlers, bridge }))
      rw [htry]
      exact hendpoint
  · rfl

/-- Nothing rings while a GET is served. -/
theorem releaseHeld_flags (acts : HandlerActions) (h : s.Wf) (hget : s.ep0GetInProgress = true) :
    (s.releaseHeld acts).notifArmed = s.notifArmed ∧
      (s.releaseHeld acts).history.doorbells = s.history.doorbells := by
  rcases releaseHeld_cases acts h with ⟨_, heq⟩ | ⟨item, rest, _, hheld, hexec⟩
  · rw [heq]
    exact ⟨rfl, rfl⟩
  · rcases hexec.rang with ⟨hrings, _⟩ | ⟨hclose, _⟩
    · rcases hrings with hsame | ⟨_, hidle, _⟩
      · exact hsame
      · rw [hget] at hidle
        cases hidle
    · -- what is held is a COMMAND
      rw [(h.held item (by rw [hheld]; exact List.mem_cons_self)).2] at hclose
      exact absurd hclose (by decide)

theorem coreOnGetEncapsulatedResponse_flags (acts : HandlerActions) (h : s.Wf) (wLength : UInt16) :
    (coreOnGetEncapsulatedResponse acts s wLength).2.notifArmed = false ∧
      (coreOnGetEncapsulatedResponse acts s wLength).2.ep0GetInProgress = false ∧
      (coreOnGetEncapsulatedResponse acts s wLength).2.history.doorbells = s.history.doorbells := by
  rw [coreOnGetEncapsulatedResponse_eq]
  have hbegin : s.beginGet.ep0GetInProgress = true ∧ s.beginGet.notifArmed = false ∧
      s.beginGet.history.doorbells = s.history.doorbells := by
    rw [beginGet_eq]
    exact ⟨rfl, rfl, rfl⟩
  obtain ⟨harmed, hcount⟩ := releaseHeld_flags acts (beginGet_wf h) hbegin.1
  obtain ⟨harmed', _, hcount', _⟩ :=
    (drainPendingIndications_indicated (releaseHeld_wf acts (beginGet_wf h)).qmux).flags
  generalize drainPendingIndications (s.beginGet.releaseHeld acts) = t at harmed' hcount' ⊢
  have hend : t.endGet.notifArmed = t.notifArmed ∧ t.endGet.ep0GetInProgress = false ∧
      t.endGet.history.doorbells = t.history.doorbells := by
    unfold Channel.endGet
    split <;> exact ⟨rfl, rfl, rfl⟩
  exact ⟨hend.1.trans (harmed'.trans (harmed.trans hbegin.2.1)), hend.2.1,
    hend.2.2.trans (hcount'.trans (hcount.trans hbegin.2.2))⟩

theorem coreOnSendEncapsulatedCommand_bell (acts : HandlerActions)
    (hidle : s.ep0GetInProgress = false) (data : Bytes) :
    Bell s (coreOnSendEncapsulatedCommand acts s data) (.sendEncapsulatedCommand acts data) ∧
      (coreOnSendEncapsulatedCommand acts s data).ep0GetInProgress = false := by
  by_cases hhold : msgType (messageOf data) = mbimCommandMsg ∧ hasCommandResponse s.respQueue = true
  · rw [coreOnSendEncapsulatedCommand_held acts hhold.1 hhold.2]
    rcases mbimHoldCommand_cases (loadCommand (s.receive (messageOf data)) (messageOf data)
      s.history.received.length) ⟨messageOf data, s.history.received.length⟩ with heq | heq
    · rw [heq]
      exact ⟨.ring rfl (.refl s), hidle⟩
    · rw [heq]
      exact ⟨.ring rfl (.refl s), hidle⟩
  · rw [coreOnSendEncapsulatedCommand_executed acts hhold]
    have hrang := (executeCommand_executed acts (s.receive (messageOf data))
      (messageOf_length data) s.history.received.length).rang
    generalize executeCommand acts (loadCommand (s.receive (messageOf data)) (messageOf data)
      s.history.received.length) = t at hrang ⊢
    obtain ⟨hrings, hget⟩ := mbimTrySendDeferredNotification_rings t
    rcases hrang with ⟨hexec, hinGet⟩ | ⟨hclose, hlong, harmed, hinGet, hcount⟩
    · have hexec : Rings s t.notifArmed t.history.doorbells := hexec
      exact ⟨.ring rfl (hexec.trans hinGet hrings), hget.trans (hinGet.trans hidle)⟩
    · refine ⟨.close rfl ?_ ?_, hget.trans hinGet⟩
      · exact Bool.and_eq_true_iff.mpr ⟨decide_eq_true hclose, decide_eq_true hlong⟩
      · exact Rings.trans (s := { s with notifArmed := false }) (Or.inl ⟨harmed, hcount⟩)
          (hinGet.trans hidle.symm) hrings

theorem coreStep_bell (h : s.Wf) (hidle : s.ep0GetInProgress = false) (e : CoreStep) :
    Bell s (coreStep s e) e ∧ (coreStep s e).ep0GetInProgress = false := by
  cases e with
  | tick snap =>
    obtain ⟨hrings, hget⟩ := coreEp0Tick_rings h snap
    exact ⟨.ring rfl hrings, hget.trans hidle⟩
  | sendEncapsulatedCommand acts data => exact coreOnSendEncapsulatedCommand_bell acts hidle data
  | getEncapsulatedResponse acts wLength =>
    obtain ⟨harmed, hget, hcount⟩ := coreOnGetEncapsulatedResponse_flags acts h wLength
    exact ⟨.get rfl harmed hcount, hget⟩
  | setConfiguration epInt =>
    change Bell s (setConfiguration s epInt) _ ∧ (setConfiguration s epInt).ep0GetInProgress = false
    unfold setConfiguration
    split
    · exact ⟨.ring rfl (.refl s), hidle⟩
    · exact ⟨.ring rfl (.refl s), hidle⟩
  | busEvent => exact ⟨.ring rfl (.refl s), hidle⟩
  | smsDownlink pdu =>
    dsimp only [coreStep]
    split
    · exact ⟨.ring rfl (.refl s), hidle⟩
    · exact ⟨.ring rfl (.refl s), hidle⟩

/-! ## Runs -/

/-- The channel between two requests. -/
structure Channel.Idle (s : Channel) : Prop where
  booked : s.Booked
  noGet : s.ep0GetInProgress = false

theorem Channel.Idle.step (h : s.Idle) (e : CoreStep) : (coreStep s e).Idle :=
  ⟨h.booked.step e, (coreStep_bell h.booked.wf h.noGet e).2⟩

theorem Channel.Idle.bell (h : s.Idle) (e : CoreStep) : Bell s (coreStep s e) e :=
  (coreStep_bell h.booked.wf h.noGet e).1

theorem ChannelInit.idle (h : ChannelInit s) : s.Idle := ⟨h.booked, h.inGet⟩

theorem Channel.Idle.run (h : s.Idle) (es : List CoreStep) : (coreRun s es).Idle :=
  Transition.run_invariant (fun _ e hs _ => hs.step e) h
    (Transition.along_of_forall (fun _ _ => True.intro) s es)

/-- Without a GET, a flag that got armed was armed by a notification. -/
theorem armed_of_doorbell (h : s.Idle) (hfree : s.notifArmed = false) {es : List CoreStep}
    (hes : ∀ e ∈ es, e.isGet = false) (harmed : (coreRun s es).notifArmed = true) :
    s.history.doorbells < doorbells s es := by
  have hinv : (coreRun s es).Idle ∧ s.history.doorbells ≤ (coreRun s es).history.doorbells ∧
      ((coreRun s es).notifArmed = true →
        s.history.doorbells < (coreRun s es).history.doorbells) := by
    refine Transition.run_invariant (I := fun t => t.Idle ∧
        s.history.doorbells ≤ t.history.doorbells ∧
        (t.notifArmed = true → s.history.doorbells < t.history.doorbells)) ?_
      ⟨h, Nat.le_refl _, fun harmed => ?_⟩ (Transition.along_of_mem hes s)
    · rintro t e ⟨hidle, hle, hlt⟩ hget
      refine ⟨hidle.step e, ?_⟩
      rcases (hidle.bell e).of_not_get hget with hrings | ⟨_, hrings⟩
      · rcases hrings with ⟨harmed, hcount⟩ | ⟨_, _, harmed, hcount⟩
        · rw [harmed, hcount]
          exact ⟨hle, hlt⟩
        · rw [hcount]
          exact ⟨Nat.le_succ_of_le hle, fun _ => Nat.lt_succ_of_le hle⟩
      · rcases hrings with ⟨harmed, hcount⟩ | ⟨_, _, harmed, hcount⟩
        · rw [harmed, hcount]
          exact ⟨hle, nofun⟩
        · rw [hcount]
          exact ⟨Nat.le_succ_of_le hle, fun _ => Nat.lt_succ_of_le hle⟩
    · rw [hfree] at harmed
      cases harmed
  exact hinv.2.2 harmed

/-- Without a GET and a CLOSE, one notification is the most. -/
theorem doorbells_le (h : s.Idle) {es : List CoreStep}
    (hes : ∀ e ∈ es, e.isGet = false ∧ e.isClose = false) :
    doorbells s es ≤ s.history.doorbells + 1 := by
  have hinv : (coreRun s es).Idle ∧
      (coreRun s es).history.doorbells ≤
        s.history.doorbells + (if (coreRun s es).notifArmed then 1 else 0) := by
    refine Transition.run_invariant (I := fun t => t.Idle ∧
        t.history.doorbells ≤ s.history.doorbells + (if t.notifArmed then 1 else 0)) ?_
      ⟨h, Nat.le_add_right _ _⟩ (Transition.along_of_mem hes s)
    rintro t e ⟨hidle, hle⟩ ⟨hget, hclose⟩
    refine ⟨hidle.step e, ?_⟩
    rcases (hidle.bell e).of_not_get hget with hrings | ⟨hclose', _⟩
    · rcases hrings with ⟨harmed, hcount⟩ | ⟨hfree, _, harmed, hcount⟩
      · rw [harmed, hcount]
        exact hle
      · rw [hfree] at hle
        rw [harmed, hcount]
        exact Nat.succ_le_succ hle
    · exact absurd (hclose'.symm.trans hclose) (by decide)
  refine Nat.le_trans hinv.2 (Nat.add_le_add_left ?_ _)
  split <;> decide

/-- The flag is not armed at the start and after a GET. -/
theorem not_armed_after_get (h : ChannelInit s) {es : List CoreStep}
    (hes : ∀ e ∈ es.getLast?, e.isGet = true) : (coreRun s es).notifArmed = false := by
  rcases List.eq_nil_or_concat es with rfl | ⟨before, e, rfl⟩
  · exact h.armed
  · rw [List.concat_eq_append] at hes ⊢
    have hget : e.isGet = true := hes e List.getLast?_concat
    rw [coreRun, Transition.run_append]
    exact (((h.idle.run before).bell e).of_get hget).1

/-- After a GET, a tick with the endpoint up has announced what there is to fetch. -/
theorem doorbells_lt_tick (h : ChannelInit s) {before after : List CoreStep}
    (snap : Option UeEngineSnapshot) (hbefore : ∀ e ∈ before.getLast?, e.isGet = true)
    (hafter : ∀ e ∈ after, e.isGet = false)
    (hup : notifEndpointUp (coreRun s (before ++ after ++ [.tick snap])) = true)
    (hqueue : (coreRun s (before ++ after ++ [.tick snap])).respQueue ≠ []) :
    doorbells s before < doorbells s (before ++ after ++ [.tick snap]) := by
  have hfree := not_armed_after_get h hbefore
  have hidle := h.idle.run before
  have hruns : coreRun s (before ++ after ++ [.tick snap]) =
      coreRun (coreRun s before) (after ++ [.tick snap]) := by
    rw [List.append_assoc]
    exact Transition.run_append coreStep s before _
  have htick : coreRun (coreRun s before) (after ++ [.tick snap]) =
      coreEp0Tick (coreRun (coreRun s before) after) snap :=
    Transition.run_append coreStep _ after _
  have hlast := hidle.run after
  unfold doorbells
  rw [hruns] at hup hqueue ⊢
  refine armed_of_doorbell hidle hfree (fun e he => ?_) ?_
  · rcases List.mem_append.mp he with he | he
    · exact hafter e he
    · rw [List.mem_singleton.mp he]
      rfl
  · rw [htick] at hup hqueue ⊢
    rw [coreEp0Tick_endpoint hlast.booked.wf] at hup
    exact coreEp0Tick_armed hlast.booked.wf hlast.noGet snap hup hqueue

/-- Work is not stranded in any run whose released commands are answered, and a CLOSE is the
only thing that rings again before a GET. -/
theorem coreRun_noStrandedWork {s : Channel} (h : ChannelInit s) :
    NoStrandedWork ReleaseAnswered CoreStep.isClose s where
  held es hrun := by
    have hfetchable : s.traffic.Fetchable := fun hheld => absurd h.held hheld
    refine (Transition.run_invariant (I := fun t => t.Booked ∧ t.traffic.Fetchable)
      (fun t e ht hanswered => ?_) ⟨h.booked, hfetchable⟩ hrun).2
    refine ⟨ht.1.step e, (coreStep_traffic ht.1.wf e).fetchable ht.1.books ht.2 ?_⟩
    rintro acts wLength rfl
    exact hanswered
  notified before after snap := doorbells_lt_tick h snap
  atMostOne before between hbetween := by
    unfold doorbells
    rw [coreRun, Transition.run_append]
    exact doorbells_le (h.idle.run before) hbetween
  quiet es e hget := by
    unfold doorbells
    rw [coreRun, Transition.run_append]
    exact (((h.idle.run es).bell e).of_get hget).2

/-- The third query is still held, and the answer to the second is there to be fetched. -/
theorem coreRun_noStrandedWork_held :
    ChannelInit openGadget ∧ (coreRun openGadget threeQueries).heldQueue ≠ [] ∧
      (coreRun openGadget threeQueries).respQueue ≠ [] := by
  have hheld : (coreRun openGadget threeQueries).heldQueue ≠ [] := by decide +kernel
  exact ⟨openGadget_init, hheld,
    (coreRun_noStrandedWork openGadget_init).held threeQueries (by decide +kernel) hheld⟩

/-- The CLOSE_DONE is announced although the notification for the OPEN_DONE is still out. -/
theorem close_rings_twice :
    ¬ ∀ s : Channel, ChannelInit s → NoStrandedWork (fun _ _ => True) (fun _ => false) s := by
  intro h
  have hone := (h openGadget openGadget_init).atMostOne [.setConfiguration 1]
    [hostOpen 1, hostClose 2] (by decide)
  exact absurd hone (by decide +kernel)

end VirtualLte.Mbim
