import VirtualLte.Mbim.ChannelSteps

/-!
# The books of the channel

What holds of the traffic after every run, whatever the host sends.

* `Booked.fifo`: the host got what was queued, in the order in which it was queued.
* `Booked.nodup`: no message is executed twice, or executed and still held.
* `Booked.placed` and `Booked.last`: what is queued, and what stands in the response
  buffer, is an indication or the answer to a message that was executed.

`TrafficStep.booked` is the step lemma and `coreRun_booked` the run lemma.
-/

namespace VirtualLte.Mbim

/-- `item` answers the executed message that it names as its origin. -/
def Traffic.Sourced (v : Traffic) (item : MbimRespItem) : Prop :=
  ∃ n msg, item.origin = some n ∧ n ∈ v.executed ∧ v.received[n]? = some msg ∧
    Answers msg item.data

structure Traffic.Booked (v : Traffic) : Prop where
  fifo : v.placed = v.handed ++ v.queue
  known : ∀ n ∈ v.executed, n < v.received.length
  held : ∀ item ∈ v.held, v.received[item.arrival]? = some item.data ∧
    msgType item.data = mbimCommandMsg
  nodup : (v.executed ++ v.held.map (·.arrival)).Nodup
  placed : ∀ item ∈ v.placed, item.IsIndication ∨ v.Sourced item
  last : v.lastResp = [] ∨ v.Sourced { data := v.lastResp, origin := v.lastOrigin }

/-! ## Sources -/

theorem Traffic.Sourced.mono {v w : Traffic} {item : MbimRespItem} (h : v.Sourced item)
    (hexecuted : v.executed ⊆ w.executed) (hreceived : v.received <+: w.received) :
    w.Sourced item := by
  obtain ⟨n, msg, horigin, hn, hmsg, hanswers⟩ := h
  obtain ⟨more, hmore⟩ := hreceived
  refine ⟨n, msg, horigin, hexecuted hn, ?_, hanswers⟩
  obtain ⟨hlt, _⟩ := List.getElem?_eq_some_iff.mp hmsg
  rw [← hmore, List.getElem?_append_left hlt]
  exact hmsg

theorem mem_admitted {queue : List MbimRespItem} {item x : MbimRespItem}
    (h : x ∈ admitted queue item) :
    x = item ∧ item.data ≠ [] ∧ queue.length < mbimQueueRoom := by
  unfold admitted at h
  split at h
  · cases h
  · rename_i hcond
    refine ⟨List.mem_singleton.mp h, fun hnil => hcond (Or.inl (congrArg List.length hnil)), ?_⟩
    exact Nat.lt_of_not_le fun hfull => hcond (Or.inr hfull)

theorem length_of_isAnswerable {msg : Bytes} (h : isAnswerable msg = true) : 12 ≤ msg.length := by
  unfold isAnswerable at h
  simp only [Bool.or_eq_true, Bool.and_eq_true, decide_eq_true_eq] at h
  omega

theorem Answers.ne_nil {msg data : Bytes} (h : Answers msg data) : data ≠ [] := by
  rintro rfl
  obtain ⟨_, _, htid⟩ := h.tid
  cases htid

theorem admitted_of_room {queue : List MbimRespItem} {item : MbimRespItem} (hdata : item.data ≠ [])
    (hroom : queue.length < mbimQueueRoom) : admitted queue item = [item] := by
  unfold admitted
  rw [if_neg]
  rintro (hempty | hfull)
  · exact hdata (List.length_eq_zero_iff.mp hempty)
  · exact Nat.not_le_of_lt hroom hfull

/-- What an execution queues and leaves behind answers the message, or is the last response. -/
theorem Answer.sources {v : Traffic} {n : Nat} {msg : Bytes} {items : List MbimRespItem}
    {resp : Bytes} {origin : Option Nat} (h : Answer v n msg items resp origin)
    {P : MbimRespItem → Prop}
    (hlast : v.lastResp = [] ∨ P { data := v.lastResp, origin := v.lastOrigin })
    (hbuilt : ∀ data, Answers msg data → P { data, origin := some n }) :
    (∀ item ∈ items, P item) ∧ (resp = [] ∨ P { data := resp, origin }) := by
  cases h with
  | stale hshort =>
    refine ⟨fun item hitem => ?_, hlast⟩
    obtain ⟨rfl, hne, _⟩ := mem_admitted hitem
    exact hlast.resolve_left hne
  | built hable hdata =>
    refine ⟨fun item hitem => ?_, Or.inr (hbuilt _ hdata)⟩
    rw [(mem_admitted hitem).1]
    exact hbuilt _ hdata
  | synced hable hdata =>
    refine ⟨fun item hitem => ?_, Or.inl rfl⟩
    rw [(mem_admitted hitem).1]
    exact hbuilt _ hdata
  | silent hlong hable => exact ⟨nofun, Or.inl rfl⟩

/-! ## Steps -/

namespace Traffic.Booked

variable {v w : Traffic}

theorem arrival_lt (h : v.Booked) {n : Nat} (hn : n ∈ v.executed ++ v.held.map (·.arrival)) :
    n < v.received.length := by
  rcases List.mem_append.mp hn with hn | hn
  · exact h.known n hn
  · obtain ⟨item, hitem, rfl⟩ := List.mem_map.mp hn
    exact (List.getElem?_eq_some_iff.mp (h.held item hitem).1).1

theorem indicates (h : v.Booked) (hind : v.Indicates w) : w.Booked := by
  obtain ⟨inds, hinds, rfl⟩ := hind
  refine ⟨?_, h.known, h.held, h.nodup, fun item hitem => ?_, h.last⟩
  · change v.placed ++ inds = v.handed ++ (v.queue ++ inds)
    rw [h.fifo, List.append_assoc]
  · rcases List.mem_append.mp hitem with hitem | hitem
    · exact h.placed item hitem
    · exact Or.inl (hinds item hitem)

theorem receive (h : v.Booked) (msg : Bytes) : (v.receive msg).Booked := by
  have hpre : v.received <+: (v.receive msg).received := List.prefix_append _ _
  refine ⟨h.fifo, fun n hn => ?_, fun item hitem => ?_, h.nodup, fun item hitem => ?_, ?_⟩
  · exact Nat.lt_of_lt_of_le (h.known n hn) hpre.length_le
  · obtain ⟨hdata, htype⟩ := h.held item hitem
    refine ⟨?_, htype⟩
    obtain ⟨hlt, _⟩ := List.getElem?_eq_some_iff.mp hdata
    change (v.received ++ [msg])[item.arrival]? = some item.data
    rw [List.getElem?_append_left hlt]
    exact hdata
  · exact (h.placed item hitem).imp_right fun hsource => hsource.mono (List.Subset.refl _) hpre
  · exact h.last.imp_right fun hsource => hsource.mono (List.Subset.refl _) hpre

/-- The number of a message that just arrived is new. -/
theorem fresh (h : v.Booked) : v.received.length ∉ v.executed ++ v.held.map (·.arrival) :=
  fun hmem => Nat.lt_irrefl _ (h.arrival_lt hmem)

theorem hold (h : v.Booked) {item : MbimCmdItem}
    (hdata : v.received[item.arrival]? = some item.data) (htype : msgType item.data = mbimCommandMsg)
    (hfresh : item.arrival ∉ v.executed ++ v.held.map (·.arrival)) : (v.hold item).Booked := by
  refine ⟨h.fifo, h.known, fun other hother => ?_, ?_, h.placed, h.last⟩
  · rcases List.mem_append.mp hother with hother | hother
    · exact h.held other hother
    · rw [List.mem_singleton.mp hother]
      exact ⟨hdata, htype⟩
  · change (v.executed ++ (v.held ++ [item]).map (·.arrival)).Nodup
    rw [List.map_append, ← List.append_assoc]
    exact h.nodup.append (List.nodup_singleton _)
      (List.disjoint_singleton.mpr hfresh)

theorem hand (h : v.Booked) : v.hand.Booked := by
  refine ⟨?_, h.known, h.held, h.nodup, h.placed, h.last⟩
  change v.placed = v.handed ++ v.queue.head?.toList ++ v.queue.tail
  rw [h.fifo, List.append_assoc]
  cases v.queue <;> rfl

/-- The oldest held command leaves the queue, and its number is free to be executed. -/
theorem unhold (h : v.Booked) {item : MbimCmdItem} {rest : List MbimCmdItem}
    (hheld : v.held = item :: rest) :
    ({ v with held := rest } : Traffic).Booked ∧
      item.arrival ∉ v.executed ++ rest.map (·.arrival) := by
  have hnodup := h.nodup
  rw [hheld, List.map_cons, List.nodup_middle, List.nodup_cons] at hnodup
  refine ⟨⟨h.fifo, h.known, fun other hother => h.held other ?_, hnodup.2, h.placed, h.last⟩,
    hnodup.1⟩
  rw [hheld]
  exact List.mem_cons_of_mem _ hother

theorem executes (h : v.Booked) {n : Nat} {msg : Bytes} (hmsg : v.received[n]? = some msg)
    (hfresh : n ∉ v.executed ++ v.held.map (·.arrival)) (hexec : v.Executes n msg w) :
    w.Booked := by
  obtain ⟨items, resp, origin, hanswer, rfl⟩ := hexec
  have hmono {item : MbimRespItem} (hsource : v.Sourced item) :
      Traffic.Sourced { v.place items with
        lastResp := resp, lastOrigin := origin, executed := v.executed ++ [n] } item :=
    hsource.mono (List.subset_append_left _ _) (List.prefix_refl _)
  obtain ⟨hitems, hresp⟩ := hanswer.sources (h.last.imp_right hmono) fun data hdata =>
    ⟨n, msg, rfl, List.mem_append_right _ (List.mem_singleton.mpr rfl), hmsg, hdata⟩
  refine ⟨?_, fun m hm => ?_, h.held, ?_, fun item hitem => ?_, hresp⟩
  · change v.placed ++ items = v.handed ++ (v.queue ++ items)
    rw [h.fifo, List.append_assoc]
  · rcases List.mem_append.mp hm with hm | hm
    · exact h.known m hm
    · rw [List.mem_singleton.mp hm]
      exact (List.getElem?_eq_some_iff.mp hmsg).1
  · change (v.executed ++ [n] ++ v.held.map (·.arrival)).Nodup
    rw [List.append_assoc, List.singleton_append, List.nodup_middle]
    exact List.nodup_cons.mpr ⟨hfresh, h.nodup⟩
  · rcases List.mem_append.mp hitem with hitem | hitem
    · exact (h.placed item hitem).imp_right hmono
    · exact Or.inr (hitems item hitem)

theorem releases (h : v.Booked) (hrelease : v.Releases w) : w.Booked := by
  cases hrelease with
  | idle hidle => exact h
  | one hqueue hheld hexec =>
    obtain ⟨hrest, hfresh⟩ := h.unhold hheld
    have hdata := (h.held _ (by rw [hheld]; exact List.mem_cons_self)).1
    exact hrest.executes hdata hfresh hexec

end Traffic.Booked

/-- The number under which a message arrives. -/
theorem getElem?_receive (v : Traffic) (msg : Bytes) :
    (v.receive msg).received[v.received.length]? = some msg :=
  List.getElem?_concat_length

theorem TrafficStep.booked {v w : Traffic} {e : CoreStep} (hstep : TrafficStep v e w)
    (h : v.Booked) : w.Booked := by
  cases hstep with
  | held htype hbusy => exact (h.receive _).hold (getElem?_receive v _) htype h.fresh
  | dropped htype hbusy => exact h.receive _
  | executed hfree hexec => exact (h.receive _).executes (getElem?_receive v _) h.fresh hexec
  | get hrelease hind => exact (h.hand.releases hrelease).indicates hind
  | other hsend hget hind => exact h.indicates hind

/-! ## Runs -/

/-- The invariant of every run. -/
structure Channel.Booked (s : Channel) : Prop where
  wf : s.Wf
  books : s.traffic.Booked

theorem ChannelInit.booked {s : Channel} (h : ChannelInit s) : s.Booked := by
  refine ⟨h.wf, ?_, ?_, ?_, ?_, ?_, Or.inl h.lastResp⟩
  · change s.history.placed = s.history.handed ++ s.respQueue
    rw [h.history, h.resp]
    rfl
  · change ∀ n ∈ s.history.executed, n < s.history.received.length
    rw [h.history]
    exact nofun
  · change ∀ item ∈ s.heldQueue, _
    rw [h.held]
    exact nofun
  · change (s.history.executed ++ s.heldQueue.map (·.arrival)).Nodup
    rw [h.history, h.held]
    exact List.nodup_nil
  · change ∀ item ∈ s.history.placed, _
    rw [h.history]
    exact nofun

theorem Channel.Booked.step {s : Channel} (h : s.Booked) (e : CoreStep) : (coreStep s e).Booked :=
  ⟨coreStep_wf h.wf e, (coreStep_traffic h.wf e).booked h.books⟩

/-- From the start on the books of the channel balance. -/
theorem coreRun_booked {s : Channel} (h : ChannelInit s) (es : List CoreStep) :
    (coreRun s es).Booked :=
  Transition.run_invariant (fun _ e hs _ => hs.step e) h.booked
    (Transition.along_of_forall (fun _ _ => True.intro) s es)

/-- Three queries in a row: the first is answered, the second executed when its answer is
fetched, and the third held. -/
def threeQueries : List CoreStep :=
  [.setConfiguration 1, hostQuery 1, hostQuery 2, hostQuery 3, hostGet]

theorem coreRun_booked_queries :
    (coreRun openGadget threeQueries).Booked ∧
      (coreRun openGadget threeQueries).history.executed = [0, 1] ∧
      (coreRun openGadget threeQueries).heldQueue.map (·.arrival) = [2] :=
  ⟨coreRun_booked openGadget_init threeQueries, by decide, by decide⟩

end VirtualLte.Mbim
