import VirtualLte.Mbim.Accounting

/-!
# One answer for each message

`AnsweredOnce`: the OPEN_DONE, CLOSE_DONE and COMMAND_DONE messages that are ever queued
are matched, one to one, with received messages of the same transaction id, and every
message that is executed and long enough to be answered has its answer among them.

Two things stand in the way of it, and `AnswerFits` excludes them:

* a message of fewer than 12 octets leaves `prepare_mbim_response` before the response
  length is reset, so the last response is queued again;
* the queue is shared with the indications, and an answer that finds it full is dropped.

`coreRun_answeredOnce`: a run that meets neither answers each message once.
-/

namespace VirtualLte.Mbim

/-- OPEN_DONE, CLOSE_DONE or COMMAND_DONE. -/
def isDone (data : Bytes) : Bool :=
  msgType data = mbimOpenDone || msgType data = mbimCloseDone || msgType data = mbimCommandDone

/-- `answers` matches the queued answers, in their order, with numbers of received messages. -/
structure AnswerMap (s : Channel) (answers : List (MbimRespItem × Nat)) : Prop where
  items : answers.map Prod.fst = s.history.placed.filter (isDone ·.data)
  injective : (answers.map Prod.snd).Nodup
  tid : ∀ p ∈ answers, ∃ msg tid, s.history.received[p.2]? = some msg ∧
    transactionId msg = some tid ∧ transactionId p.1.data = some tid
  complete : ∀ n ∈ s.history.executed, ∀ msg, s.history.received[n]? = some msg →
    isAnswerable msg = true → ∃ item, (item, n) ∈ answers ∧ Answers msg item.data

structure AnsweredOnce (s : Channel) : Prop where
  answers : ∃ answers, AnswerMap s answers
  /-- No response is queued a second time. -/
  once : (s.history.placed.filterMap MbimRespItem.origin).Nodup

/-- Executing `msg` queues its answer, if it has one, and nothing else. -/
def AnswerFits (lastResp : Bytes) (queue : List MbimRespItem) (msg : Bytes) : Prop :=
  (msg.length < 12 → lastResp = [] ∨ mbimQueueRoom ≤ queue.length) ∧
    (isAnswerable msg = true → queue.length < mbimQueueRoom)

/-- The message that the step executes, if any, is answered as it should. -/
def AnswersFit (s : Channel) : CoreStep → Prop
  | .sendEncapsulatedCommand _ data =>
    (msgType (messageOf data) = mbimCommandMsg ∧ hasCommandResponse s.respQueue = true) ∨
      AnswerFits s.lastMbimResp s.respQueue (messageOf data)
  | .getEncapsulatedResponse _ _ =>
    s.respQueue.tail = [] → ∀ item ∈ s.heldQueue.head?,
      AnswerFits s.lastMbimResp s.respQueue.tail item.data
  | _ => True

instance (lastResp : Bytes) (queue : List MbimRespItem) (msg : Bytes) :
    Decidable (AnswerFits lastResp queue msg) :=
  inferInstanceAs (Decidable (_ ∧ _))

instance (s : Channel) : (e : CoreStep) → Decidable (AnswersFit s e)
  | .sendEncapsulatedCommand _ data =>
    inferInstanceAs (Decidable (_ ∨ AnswerFits s.lastMbimResp s.respQueue (messageOf data)))
  | .getEncapsulatedResponse _ _ =>
    inferInstanceAs (Decidable (s.respQueue.tail = [] → ∀ item ∈ s.heldQueue.head?,
      AnswerFits s.lastMbimResp s.respQueue.tail item.data))
  | .tick _ | .setConfiguration _ | .busEvent | .smsDownlink _ => isTrue trivial

/-! ## The invariant -/

structure Traffic.Answered (v : Traffic) : Prop where
  once : (v.placed.filterMap MbimRespItem.origin).Nodup
  complete : ∀ n ∈ v.executed, ∀ msg, v.received[n]? = some msg → isAnswerable msg = true →
    n ∈ v.placed.filterMap MbimRespItem.origin

theorem Answers.isDone {msg data : Bytes} (h : Answers msg data) : isDone data = true := by
  have htype := h.type
  simp only [List.mem_cons, Prod.mk.injEq, List.not_mem_nil, or_false] at htype
  unfold Mbim.isDone
  rcases htype with ⟨_, h⟩ | ⟨_, h⟩ | ⟨_, h⟩ <;> rw [h] <;> rfl

/-- What an execution queues when its answer fits. -/
theorem Answer.items_of_fits {v : Traffic} {n : Nat} {msg : Bytes} {items : List MbimRespItem}
    {resp : Bytes} {origin : Option Nat} (h : Answer v n msg items resp origin)
    (hfits : AnswerFits v.lastResp v.queue msg) :
    isAnswerable msg = false ∧ items = [] ∨ ∃ data, items = [{ data, origin := some n }] := by
  have hadmitted {data : Bytes} (hable : isAnswerable msg = true) (hdata : Answers msg data) :
      admitted v.queue { data, origin := some n } = [{ data, origin := some n }] :=
    admitted_of_room hdata.ne_nil (hfits.2 hable)
  cases h with
  | stale hshort =>
    left
    refine ⟨?_, ?_⟩
    · by_contra hable
      have hlong := length_of_isAnswerable (Bool.not_eq_false _ ▸ hable)
      omega
    · unfold admitted
      rw [if_pos]
      exact (hfits.1 hshort).imp_left fun hnil => congrArg List.length hnil
  | built hable hdata => exact Or.inr ⟨_, hadmitted hable hdata⟩
  | synced hable hdata => exact Or.inr ⟨_, hadmitted hable hdata⟩
  | silent hlong hable => exact Or.inl ⟨hable, rfl⟩

/-! ## Steps -/

namespace Traffic.Answered

variable {v w : Traffic}

theorem indicates (h : v.Answered) (hind : v.Indicates w) : w.Answered := by
  obtain ⟨inds, hinds, rfl⟩ := hind
  have hnone : inds.filterMap MbimRespItem.origin = [] :=
    List.filterMap_eq_nil_iff.mpr fun item hitem => (hinds item hitem).1
  have horigins : (v.place inds).placed.filterMap MbimRespItem.origin = v.placed.filterMap MbimRespItem.origin := by
    change (v.placed ++ inds).filterMap MbimRespItem.origin = _
    rw [List.filterMap_append, hnone, List.append_nil]
  refine ⟨?_, fun n hn msg hmsg hable => ?_⟩
  · rw [horigins]
    exact h.once
  · rw [horigins]
    exact h.complete n hn msg hmsg hable

theorem receive (h : v.Answered) (hbooked : v.Booked) (msg : Bytes) : (v.receive msg).Answered := by
  refine ⟨h.once, fun n hn m hm hable => h.complete n hn m ?_ hable⟩
  change (v.received ++ [msg])[n]? = some m at hm
  rw [List.getElem?_append_left (hbooked.known n hn)] at hm
  exact hm

/-- The messages that were answered were executed. -/
theorem mem_executed (hbooked : v.Booked) {n : Nat} (hn : n ∈ v.placed.filterMap MbimRespItem.origin) :
    n ∈ v.executed := by
  obtain ⟨item, hitem, horigin⟩ := List.mem_filterMap.mp hn
  rcases hbooked.placed item hitem with hind | ⟨m, _, hm, hexecuted, _⟩
  · rw [hind.1] at horigin
    cases horigin
  · rw [hm] at horigin
    rw [← Option.some.inj horigin]
    exact hexecuted

theorem executes (h : v.Answered) (hbooked : v.Booked) {n : Nat} {msg : Bytes}
    (hmsg : v.received[n]? = some msg) (hfresh : n ∉ v.executed)
    (hfits : AnswerFits v.lastResp v.queue msg) (hexec : v.Executes n msg w) : w.Answered := by
  obtain ⟨items, resp, origin, hanswer, rfl⟩ := hexec
  rcases hanswer.items_of_fits hfits with ⟨hable, rfl⟩ | ⟨data, rfl⟩
  · refine ⟨?_, fun m hm msg' hmsg' hable' => ?_⟩
    · change ((v.placed ++ []).filterMap MbimRespItem.origin).Nodup
      rw [List.append_nil]
      exact h.once
    · change m ∈ (v.placed ++ []).filterMap MbimRespItem.origin
      rw [List.append_nil]
      rcases List.mem_append.mp hm with hm | hm
      · exact h.complete m hm msg' hmsg' hable'
      · rw [List.mem_singleton.mp hm] at hmsg'
        rw [Option.some.inj (hmsg.symm.trans hmsg'), hable'] at hable
        cases hable
  · refine ⟨?_, fun m hm msg' hmsg' hable' => ?_⟩
    · change (List.filterMap MbimRespItem.origin (v.placed ++ [_])).Nodup
      rw [List.filterMap_append]
      refine h.once.append (List.nodup_singleton _) (List.disjoint_singleton.mpr fun hn => ?_)
      exact hfresh (mem_executed hbooked hn)
    · change m ∈ List.filterMap MbimRespItem.origin (v.placed ++ [_])
      rw [List.filterMap_append]
      rcases List.mem_append.mp hm with hm | hm
      · exact List.mem_append_left _ (h.complete m hm msg' hmsg' hable')
      · exact List.mem_append_right _ hm

theorem releases (h : v.Answered) (hbooked : v.Booked) (hrelease : v.Releases w)
    (hfits : v.queue = [] → ∀ item ∈ v.held.head?, AnswerFits v.lastResp v.queue item.data) :
    w.Answered := by
  cases hrelease with
  | idle hidle => exact h
  | @one item rest _ hqueue hheld hexec =>
    obtain ⟨hrest, hfresh⟩ := hbooked.unhold hheld
    have hdata := (hbooked.held item (by rw [hheld]; exact List.mem_cons_self)).1
    have hanswered : Traffic.Answered { v with held := rest } := ⟨h.once, h.complete⟩
    refine hanswered.executes hrest hdata (fun hmem => hfresh (List.mem_append_left _ hmem)) ?_ hexec
    refine hfits hqueue item ?_
    rw [hheld]
    rfl

end Traffic.Answered

theorem TrafficStep.answered {v w : Traffic} {e : CoreStep} (hstep : TrafficStep v e w)
    (hbooked : v.Booked) (h : v.Answered)
    (hsend : ∀ acts data, e = .sendEncapsulatedCommand acts data →
      (msgType (messageOf data) = mbimCommandMsg ∧ hasCommandResponse v.queue = true) ∨
        AnswerFits v.lastResp v.queue (messageOf data))
    (hget : ∀ acts wLength, e = .getEncapsulatedResponse acts wLength → v.queue.tail = [] →
      ∀ item ∈ v.held.head?, AnswerFits v.lastResp v.queue.tail item.data) : w.Answered := by
  cases hstep with
  | @held acts data htype hbusy =>
    have hreceived := h.receive hbooked (messageOf data)
    exact ⟨hreceived.once, hreceived.complete⟩
  | dropped htype hbusy => exact h.receive hbooked _
  | @executed acts data _ hfree hexec =>
    exact (h.receive hbooked _).executes (hbooked.receive _) (getElem?_receive v _)
      (fun hmem => hbooked.fresh (List.mem_append_left _ hmem))
      ((hsend acts data rfl).resolve_left hfree) hexec
  | @get acts wLength _ _ hrelease hind =>
    have hhanded : v.hand.Answered := ⟨h.once, h.complete⟩
    exact (hhanded.releases hbooked.hand hrelease (hget acts wLength rfl)).indicates hind
  | other _ _ hind => exact h.indicates hind

/-! ## Runs -/

structure Channel.Answered (s : Channel) : Prop where
  booked : s.Booked
  answered : s.traffic.Answered

theorem ChannelInit.answered {s : Channel} (h : ChannelInit s) : s.Answered := by
  refine ⟨h.booked, ?_, ?_⟩
  · change (s.history.placed.filterMap MbimRespItem.origin).Nodup
    rw [h.history]
    exact List.nodup_nil
  · change ∀ n ∈ s.history.executed, _
    rw [h.history]
    exact nofun

theorem Channel.Answered.step {s : Channel} (h : s.Answered) {e : CoreStep} (hfits : AnswersFit s e) :
    (coreStep s e).Answered := by
  refine ⟨h.booked.step e,
    (coreStep_traffic h.booked.wf e).answered h.booked.books h.answered ?_ ?_⟩
  · rintro acts data rfl
    exact hfits
  · rintro acts wLength rfl
    exact hfits

theorem map_origin_eq_filterMap {items : List MbimRespItem}
    (h : ∀ item ∈ items, ∃ n, item.origin = some n) :
    items.map (fun item => item.origin.getD 0) = items.filterMap MbimRespItem.origin := by
  induction items with
  | nil => rfl
  | cons item rest ih =>
    obtain ⟨n, hn⟩ := h item List.mem_cons_self
    rw [List.map_cons, ih fun other hother => h other (List.mem_cons_of_mem _ hother),
      List.filterMap_cons_some hn, hn]
    rfl

/-- The answers are matched with the messages that they were built for. -/
theorem Channel.Answered.answeredOnce {s : Channel} (h : s.Answered) : AnsweredOnce s := by
  have hsourced : ∀ item ∈ s.history.placed.filter (isDone ·.data), s.traffic.Sourced item := by
    intro item hitem
    obtain ⟨hplaced, hdone⟩ := List.mem_filter.mp hitem
    refine (h.booked.books.placed item hplaced).resolve_left fun hind => ?_
    unfold isDone at hdone
    rw [hind.2] at hdone
    exact absurd hdone (by decide)
  refine ⟨⟨(s.history.placed.filter (isDone ·.data)).map fun item => (item, item.origin.getD 0),
    ?_, ?_, fun p hp => ?_, fun n hn msg hmsg hable => ?_⟩, h.answered.once⟩
  · rw [List.map_map]
    exact List.map_id _
  · rw [List.map_map]
    change (List.map (fun item : MbimRespItem => item.origin.getD 0) _).Nodup
    rw [map_origin_eq_filterMap]
    · exact h.answered.once.sublist (List.filter_sublist.filterMap _)
    · intro item hitem
      obtain ⟨n, _, horigin, _⟩ := hsourced item hitem
      exact ⟨n, horigin⟩
  · obtain ⟨item, hitem, rfl⟩ := List.mem_map.mp hp
    obtain ⟨n, msg, horigin, _, hmsg, hanswers⟩ := hsourced item hitem
    obtain ⟨tid, hask, htid⟩ := hanswers.tid
    refine ⟨msg, tid, ?_, hask, htid⟩
    dsimp only
    rw [horigin]
    exact hmsg
  · obtain ⟨item, hplaced, horigin⟩ := List.mem_filterMap.mp (h.answered.complete n hn msg hmsg hable)
    rcases h.booked.books.placed item hplaced with hind | ⟨m, msg', hm, _, hmsg', hanswers⟩
    · rw [hind.1] at horigin
      cases horigin
    · rw [hm] at horigin
      obtain rfl := Option.some.inj horigin
      rw [Option.some.inj (hmsg'.symm.trans hmsg)] at hanswers
      refine ⟨item, List.mem_map.mpr ⟨item, List.mem_filter.mpr ⟨hplaced, hanswers.isDone⟩, ?_⟩,
        hanswers⟩
      rw [hm]
      rfl

/-- Along a run in which every executed message is long enough for a transaction id, or
finds no old response, and every answer finds room, each message is answered once. -/
theorem coreRun_answeredOnce {s : Channel} (h : ChannelInit s) {es : List CoreStep}
    (hrun : Transition.Along coreStep AnswersFit s es) :
    ∀ pre, pre <+: es → AnsweredOnce (coreRun s pre) := by
  rintro pre ⟨post, rfl⟩
  have hpre := ((Transition.along_append coreStep AnswersFit s pre post).mp hrun).1
  exact (Transition.run_invariant (fun _ _ hs => hs.step) h.answered hpre).answeredOnce

theorem coreRun_answeredOnce_session :
    ChannelInit openGadget ∧
      AnsweredOnce (coreRun openGadget
        [.setConfiguration 1, hostOpen 1, hostQuery 2, hostGet, hostGet, hostClose 3]) :=
  ⟨openGadget_init, coreRun_answeredOnce openGadget_init (by decide +kernel) _ (List.prefix_refl _)⟩

/-- Four octets after an OPEN: the OPEN_DONE is queued again, and no second message has its
transaction id. -/
theorem short_message_repeats_openDone :
    ¬ ∀ (s : Channel) (es : List CoreStep), ChannelInit s → AnsweredOnce (coreRun s es) := by
  intro h
  obtain ⟨answers, hmap⟩ := (h openGadget [.setConfiguration 1, hostOpen 7,
    .sendEncapsulatedCommand noSms [0, 0, 0, 0]] openGadget_init).answers
  have htwo : (answers.map Prod.snd).length = 2 := by
    rw [List.length_map, ← List.length_map Prod.fst, hmap.items]
    decide +kernel
  have hzero : ∀ n ∈ answers.map Prod.snd, n = 0 := by
    intro n hn
    obtain ⟨⟨item, n⟩, hp, rfl⟩ := List.mem_map.mp hn
    obtain ⟨msg, tid, hmsg, hask, _⟩ := hmap.tid _ hp
    have hreceived : (coreRun openGadget [.setConfiguration 1, hostOpen 7,
        .sendEncapsulatedCommand noSms [0, 0, 0, 0]]).history.received =
          [le32s [mbimOpenMsg, 16, 7, 4096], [0, 0, 0, 0]] := by decide +kernel
    rw [hreceived] at hmsg
    rcases n with _ | _ | n
    · rfl
    · rw [← Option.some.inj hmsg] at hask
      cases hask
    · cases hmsg
  have hinjective := hmap.injective
  rw [List.eq_replicate_iff.mpr ⟨htwo, hzero⟩] at hinjective
  exact absurd hinjective (by decide)

end VirtualLte.Mbim
