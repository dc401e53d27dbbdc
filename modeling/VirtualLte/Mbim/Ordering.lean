import VirtualLte.Mbim.Accounting

/-!
# Order of the commands and their answers

`core.c` holds a COMMAND back while a command response is queued ("preserve
command/response ordering"), and releases one held command each time a GET leaves the
response queue empty.

* `InOrder` is what that is for: commands are executed, and their COMMAND_DONEs handed
  to the host, in the order in which the commands arrived.
* The two conditions do not fit together. With an indication behind the last command
  response, a GET leaves a queue that holds no command response and is not empty: what
  is held stays held, and the next COMMAND is executed at once.
* `coreRun_inOrder_iff`: the runs that stay in order are those in which no COMMAND
  arrives at that moment.
-/

namespace VirtualLte.Mbim

/-- The numbers of the messages among `ns` that are COMMANDs. -/
def commandsAmong (received : List Bytes) (ns : List Nat) : List Nat :=
  ns.filter fun n => received[n]?.any fun msg => msgType msg = mbimCommandMsg

/-- The COMMAND that a COMMAND_DONE was built for. -/
def commandDoneOrigin (item : MbimRespItem) : Option Nat :=
  if msgType item.data = mbimCommandDone then item.origin else none

structure InOrder (s : Channel) : Prop where
  /-- A COMMAND_DONE of the host answers the COMMAND it was built for. -/
  answers : ∀ item ∈ s.history.handed, msgType item.data = mbimCommandDone →
    ∃ n msg, item.origin = some n ∧ s.history.received[n]? = some msg ∧ Answers msg item.data
  handed : (s.history.handed.filterMap commandDoneOrigin).Pairwise (· ≤ ·)
  executed : (commandsAmong s.history.received s.history.executed ++
    s.heldQueue.map (·.arrival)).Pairwise (· < ·)
  answered : ∀ n ∈ s.history.placed.filterMap commandDoneOrigin, ∀ item ∈ s.heldQueue,
    n < item.arrival

/-- A COMMAND that arrives while others are held is held as well. -/
def KeepsOrder (s : Channel) : CoreStep → Prop
  | .sendEncapsulatedCommand _ data =>
    msgType (messageOf data) = mbimCommandMsg → s.heldQueue ≠ [] →
      hasCommandResponse s.respQueue = true
  | _ => True

instance (s : Channel) : (e : CoreStep) → Decidable (KeepsOrder s e)
  | .sendEncapsulatedCommand _ data =>
    inferInstanceAs (Decidable (msgType (messageOf data) = mbimCommandMsg → s.heldQueue ≠ [] →
      hasCommandResponse s.respQueue = true))
  | .tick _ | .getEncapsulatedResponse .. | .setConfiguration _ | .busEvent | .smsDownlink _ =>
    isTrue trivial

/-! ## The invariant -/

/-- The COMMANDs of the queued COMMAND_DONEs and of the one in the response buffer. -/
def Traffic.doneOrigins (v : Traffic) : List Nat :=
  v.placed.filterMap commandDoneOrigin ++
    (commandDoneOrigin { data := v.lastResp, origin := v.lastOrigin }).toList

structure Traffic.Ordered (v : Traffic) : Prop where
  commands : (commandsAmong v.received v.executed ++ v.held.map (·.arrival)).Pairwise (· < ·)
  dones : v.doneOrigins.Pairwise (· ≤ ·)

theorem commandsAmong_receive {received : List Bytes} {ns : List Nat}
    (h : ∀ n ∈ ns, n < received.length) (msg : Bytes) :
    commandsAmong (received ++ [msg]) ns = commandsAmong received ns := by
  refine List.filter_congr fun n hn => ?_
  rw [List.getElem?_append_left (h n hn)]

theorem commandsAmong_append (received : List Bytes) (ns ms : List Nat) :
    commandsAmong received (ns ++ ms) = commandsAmong received ns ++ commandsAmong received ms :=
  List.filter_append ..

theorem mem_commandsAmong {received : List Bytes} {ns : List Nat} {n : Nat} {msg : Bytes}
    (hn : n ∈ ns) (hmsg : received[n]? = some msg) (htype : msgType msg = mbimCommandMsg) :
    n ∈ commandsAmong received ns := by
  refine List.mem_filter.mpr ⟨hn, ?_⟩
  rw [hmsg]
  exact decide_eq_true htype

theorem commandsAmong_singleton {received : List Bytes} {n : Nat} {msg : Bytes}
    (hmsg : received[n]? = some msg) :
    commandsAmong received [n] = if msgType msg = mbimCommandMsg then [n] else [] := by
  unfold commandsAmong
  rw [List.filter_cons, hmsg, Option.any_some, List.filter_nil]
  simp only [decide_eq_true_eq]

theorem commandDoneOrigin_of_isIndication {item : MbimRespItem} (h : item.IsIndication) :
    commandDoneOrigin item = none := by
  unfold commandDoneOrigin
  rw [h.2, if_neg (by decide)]

/-- A COMMAND_DONE answers a COMMAND. -/
theorem Answers.command {msg data : Bytes} (h : Answers msg data)
    (hdata : msgType data = mbimCommandDone) : msgType msg = mbimCommandMsg := by
  have htype := h.type
  rw [hdata] at htype
  simp only [List.mem_cons, Prod.mk.injEq, List.not_mem_nil, or_false] at htype
  rcases htype with ⟨_, h⟩ | ⟨_, h⟩ | ⟨h, _⟩
  · exact absurd h (by decide)
  · exact absurd h (by decide)
  · exact h

theorem Traffic.Sourced.mem_commandsAmong {v : Traffic} {item : MbimRespItem} {n : Nat}
    (h : v.Sourced item) (hdone : commandDoneOrigin item = some n) :
    n ∈ commandsAmong v.received v.executed := by
  unfold commandDoneOrigin at hdone
  split at hdone
  · rename_i hdata
    obtain ⟨m, msg, horigin, hm, hmsg, hanswers⟩ := h
    rw [horigin] at hdone
    rw [← Option.some.inj hdone]
    exact Mbim.mem_commandsAmong hm hmsg (hanswers.command hdata)
  · cases hdone

/-- Every COMMAND_DONE, queued or in the response buffer, is of an executed COMMAND. -/
theorem Traffic.Booked.done_executed {v : Traffic} (h : v.Booked) {n : Nat}
    (hn : n ∈ v.doneOrigins) : n ∈ commandsAmong v.received v.executed := by
  rcases List.mem_append.mp hn with hn | hn
  · obtain ⟨item, hitem, hdone⟩ := List.mem_filterMap.mp hn
    rcases h.placed item hitem with hind | hsource
    · rw [commandDoneOrigin_of_isIndication hind] at hdone
      cases hdone
    · exact hsource.mem_commandsAmong hdone
  · have hdone := Option.mem_toList.mp hn
    rcases h.last with hnil | hsource
    · rw [hnil] at hdone
      cases hdone
    · exact hsource.mem_commandsAmong hdone

/-- An execution adds no COMMAND_DONE but its own or the last one again, and not both. -/
theorem Answer.dones {v : Traffic} {n : Nat} {msg : Bytes} {items : List MbimRespItem}
    {resp : Bytes} {origin : Option Nat} (h : Answer v n msg items resp origin) :
    ∃ c, (∀ k ∈ items.filterMap commandDoneOrigin ++
        (commandDoneOrigin { data := resp, origin }).toList,
      k = c ∧ (commandDoneOrigin { data := v.lastResp, origin := v.lastOrigin } = some k ∨
        k = n ∧ msgType msg = mbimCommandMsg)) := by
  have hadmitted {item : MbimRespItem} {k : Nat}
      (hk : k ∈ (admitted v.queue item).filterMap commandDoneOrigin) :
      commandDoneOrigin item = some k := by
    obtain ⟨x, hx, hdone⟩ := List.mem_filterMap.mp hk
    rw [(mem_admitted hx).1] at hdone
    exact hdone
  have hown {data : Bytes} {k : Nat} (hdata : Answers msg data)
      (hk : commandDoneOrigin { data, origin := some n } = some k) :
      k = n ∧ msgType msg = mbimCommandMsg := by
    unfold commandDoneOrigin at hk
    split at hk
    · rename_i htype
      exact ⟨(Option.some.inj hk).symm, hdata.command htype⟩
    · cases hk
  cases h with
  | stale hshort =>
    refine ⟨(commandDoneOrigin { data := v.lastResp, origin := v.lastOrigin }).getD 0, fun k hk => ?_⟩
    have hlast : commandDoneOrigin { data := v.lastResp, origin := v.lastOrigin } = some k := by
      rcases List.mem_append.mp hk with hk | hk
      · exact hadmitted hk
      · exact Option.mem_toList.mp hk
    rw [hlast]
    exact ⟨rfl, Or.inl rfl⟩
  | built hable hdata =>
    refine ⟨n, fun k hk => ?_⟩
    have hk : k = n ∧ msgType msg = mbimCommandMsg := by
      rcases List.mem_append.mp hk with hk | hk
      · exact hown hdata (hadmitted hk)
      · exact hown hdata (Option.mem_toList.mp hk)
    exact ⟨hk.1, Or.inr hk⟩
  | synced hable hdata =>
    refine ⟨n, fun k hk => ?_⟩
    rcases List.mem_append.mp hk with hk | hk
    · exact ⟨(hown hdata (hadmitted hk)).1, Or.inr (hown hdata (hadmitted hk))⟩
    · cases Option.mem_toList.mp hk
  | silent hlong hable =>
    refine ⟨n, fun k hk => ?_⟩
    cases hk

/-! ## Steps -/

namespace Traffic.Ordered

variable {v w : Traffic}

theorem indicates (h : v.Ordered) (hind : v.Indicates w) : w.Ordered := by
  obtain ⟨inds, hinds, rfl⟩ := hind
  have hnone : inds.filterMap commandDoneOrigin = [] :=
    List.filterMap_eq_nil_iff.mpr fun item hitem =>
      commandDoneOrigin_of_isIndication (hinds item hitem)
  refine ⟨h.commands, ?_⟩
  change ((v.placed ++ inds).filterMap commandDoneOrigin ++ _).Pairwise (· ≤ ·)
  rw [List.filterMap_append, hnone, List.append_nil]
  exact h.dones

theorem receive (h : v.Ordered) (hbooked : v.Booked) (msg : Bytes) : (v.receive msg).Ordered := by
  refine ⟨?_, h.dones⟩
  change (commandsAmong (v.received ++ [msg]) v.executed ++ _).Pairwise (· < ·)
  rw [commandsAmong_receive hbooked.known]
  exact h.commands

theorem hold (h : v.Ordered) {item : MbimCmdItem}
    (hlast : ∀ n ∈ v.executed ++ v.held.map (·.arrival), n < item.arrival) :
    (v.hold item).Ordered := by
  refine ⟨?_, h.dones⟩
  change (_ ++ (v.held ++ [item]).map (·.arrival)).Pairwise (· < ·)
  rw [List.map_append, ← List.append_assoc]
  refine List.pairwise_append.mpr ⟨h.commands, List.pairwise_singleton _ _, fun n hn m hm => ?_⟩
  rw [List.mem_singleton.mp hm]
  refine hlast n ?_
  rcases List.mem_append.mp hn with hn | hn
  · exact List.mem_append_left _ (List.mem_filter.mp hn).1
  · exact List.mem_append_right _ hn

theorem executes (h : v.Ordered) (hbooked : v.Booked) {n : Nat} {msg : Bytes}
    (hmsg : v.received[n]? = some msg) (hexec : v.Executes n msg w)
    (hcommands : (commandsAmong v.received (v.executed ++ [n]) ++
      v.held.map (·.arrival)).Pairwise (· < ·)) : w.Ordered := by
  obtain ⟨items, resp, origin, hanswer, rfl⟩ := hexec
  refine ⟨hcommands, ?_⟩
  obtain ⟨c, hnew⟩ := hanswer.dones
  obtain ⟨hplaced, _, hlast⟩ := List.pairwise_append.mp h.dones
  change ((v.placed ++ items).filterMap commandDoneOrigin ++
    (commandDoneOrigin { data := resp, origin }).toList).Pairwise (· ≤ ·)
  rw [List.filterMap_append, List.append_assoc]
  refine List.pairwise_append.mpr ⟨hplaced, ?_, fun m hm k hk => ?_⟩
  · refine List.pairwise_of_forall_mem_list fun k hk l hl => ?_
    exact Nat.le_of_eq ((hnew k hk).1.trans (hnew l hl).1.symm)
  · rcases (hnew k hk).2 with hk | ⟨rfl, htype⟩
    · exact hlast m hm k (Option.mem_toList.mpr hk)
    · -- the COMMAND that is executed now is the newest one
      rw [commandsAmong_append, commandsAmong_singleton hmsg, if_pos htype] at hcommands
      have hm := hbooked.done_executed (List.mem_append_left _ hm)
      have hlt := (List.pairwise_append.mp (List.pairwise_append.mp hcommands).1).2.2 m hm k
        List.mem_cons_self
      exact Nat.le_of_lt hlt

theorem releases (h : v.Ordered) (hbooked : v.Booked) (hrelease : v.Releases w) : w.Ordered := by
  cases hrelease with
  | idle hidle => exact h
  | @one item rest _ hqueue hheld hexec =>
    obtain ⟨hdata, htype⟩ := hbooked.held item (by rw [hheld]; exact List.mem_cons_self)
    have hcommands := h.commands
    rw [hheld, List.map_cons, ← List.singleton_append, ← List.append_assoc] at hcommands
    have hrest : Traffic.Ordered { v with held := rest } :=
      ⟨hcommands.sublist ((List.sublist_append_left _ _).append (List.Sublist.refl _)), h.dones⟩
    refine hrest.executes (hbooked.unhold hheld).1 hdata hexec ?_
    rw [commandsAmong_append, commandsAmong_singleton hdata, if_pos htype]
    exact hcommands

end Traffic.Ordered

/-- The steps that keep the order, seen from the traffic. -/
theorem TrafficStep.ordered {v w : Traffic} {e : CoreStep} (hstep : TrafficStep v e w)
    (hbooked : v.Booked) (h : v.Ordered)
    (hguard : ∀ acts data, e = .sendEncapsulatedCommand acts data →
      msgType (messageOf data) = mbimCommandMsg → v.held ≠ [] → hasCommandResponse v.queue = true) :
    w.Ordered := by
  cases hstep with
  | held htype hbusy => exact (h.receive hbooked _).hold fun n hn => hbooked.arrival_lt hn
  | dropped htype hbusy => exact h.receive hbooked _
  | @executed acts data _ hfree hexec =>
    refine (h.receive hbooked _).executes (hbooked.receive _) (getElem?_receive v _) hexec ?_
    rw [commandsAmong_append, commandsAmong_singleton (getElem?_receive v _)]
    have hcommands := (h.receive hbooked (messageOf data)).commands
    split
    · rename_i htype
      -- nothing is held, and everything that was executed is older
      have hheld : v.held = [] := by
        by_contra hne
        exact hfree ⟨htype, hguard acts data rfl htype hne⟩
      change (_ ++ v.held.map (·.arrival)).Pairwise (· < ·)
      change (_ ++ v.held.map (·.arrival)).Pairwise (· < ·) at hcommands
      rw [hheld, List.map_nil, List.append_nil] at hcommands ⊢
      refine List.pairwise_append.mpr ⟨hcommands, List.pairwise_singleton _ _, fun n hn m hm => ?_⟩
      rw [List.mem_singleton.mp hm]
      exact hbooked.known n (List.mem_filter.mp hn).1
    · rw [List.append_nil]
      exact hcommands
  | get hrelease hind =>
    have hhanded : v.hand.Ordered := ⟨h.commands, h.dones⟩
    exact (hhanded.releases hbooked.hand hrelease).indicates hind
  | other hsend hget hind => exact h.indicates hind

/-- A COMMAND that overtakes a held one. -/
theorem TrafficStep.overtakes {v w : Traffic} {acts : HandlerActions} {data : Bytes}
    (hstep : TrafficStep v (.sendEncapsulatedCommand acts data) w) (hbooked : v.Booked)
    (htype : msgType (messageOf data) = mbimCommandMsg) (hfree : hasCommandResponse v.queue ≠ true)
    (hheld : v.held ≠ []) :
    ¬ (commandsAmong w.received w.executed ++ w.held.map (·.arrival)).Pairwise (· < ·) := by
  obtain ⟨item, hitem⟩ := List.exists_mem_of_ne_nil _ hheld
  cases hstep with
  | held _ hbusy => exact absurd hbusy hfree
  | dropped _ hbusy => exact absurd hbusy hfree
  | executed _ hexec =>
    obtain ⟨items, resp, origin, hanswer, rfl⟩ := hexec
    intro hsorted
    have hnew : v.received.length ∈ commandsAmong (v.received ++ [messageOf data])
        (v.executed ++ [v.received.length]) :=
      mem_commandsAmong (List.mem_append_right _ List.mem_cons_self) (getElem?_receive v _) htype
    have harrival := List.mem_map_of_mem (f := (·.arrival)) hitem
    have hlt := (List.pairwise_append.mp hsorted).2.2 _ hnew _ harrival
    have hge := hbooked.arrival_lt (List.mem_append_right _ harrival)
    omega
  | other hsend _ _ => exact absurd rfl (hsend acts data)

/-! ## Runs -/

structure Channel.Ordered (s : Channel) : Prop where
  booked : s.Booked
  order : s.traffic.Ordered

theorem ChannelInit.ordered {s : Channel} (h : ChannelInit s) : s.Ordered := by
  refine ⟨h.booked, ?_, ?_⟩
  · change (commandsAmong s.history.received s.history.executed ++
      s.heldQueue.map (·.arrival)).Pairwise (· < ·)
    rw [h.history, h.held]
    exact List.Pairwise.nil
  · change (s.history.placed.filterMap commandDoneOrigin ++
      (commandDoneOrigin { data := s.lastMbimResp, origin := s.respOrigin }).toList).Pairwise (· ≤ ·)
    rw [h.history, h.lastResp]
    exact List.Pairwise.nil

theorem Channel.Ordered.step {s : Channel} (h : s.Ordered) {e : CoreStep} (hguard : KeepsOrder s e) :
    (coreStep s e).Ordered := by
  refine ⟨h.booked.step e, (coreStep_traffic h.booked.wf e).ordered h.booked.books h.order ?_⟩
  rintro acts data rfl htype hheld
  exact hguard htype hheld

theorem Channel.Ordered.inOrder {s : Channel} (h : s.Ordered) : InOrder s := by
  have hfifo : s.history.placed = s.history.handed ++ s.respQueue := h.booked.books.fifo
  have hplaced : (s.history.placed.filterMap commandDoneOrigin).Pairwise (· ≤ ·) :=
    (List.pairwise_append.mp h.order.dones).1
  refine ⟨fun item hitem hdone => ?_, ?_, h.order.commands, fun n hn item hitem => ?_⟩
  · have hmem : item ∈ s.history.placed := by
      rw [hfifo]
      exact List.mem_append_left _ hitem
    rcases h.booked.books.placed item hmem with hind | hsource
    · rw [hind.2] at hdone
      exact absurd hdone (by decide)
    · obtain ⟨n, msg, horigin, _, hmsg, hanswers⟩ := hsource
      exact ⟨n, msg, horigin, hmsg, hanswers⟩
  · rw [hfifo, List.filterMap_append] at hplaced
    exact (List.pairwise_append.mp hplaced).1
  · have hexecuted := h.booked.books.done_executed (List.mem_append_left _ hn)
    exact (List.pairwise_append.mp h.order.commands).2.2 n hexecuted _ (List.mem_map_of_mem hitem)

/-- A run is in order all the way exactly when no COMMAND arrives that finds commands
held and no command response queued. -/
theorem coreRun_inOrder_iff {s : Channel} (h : ChannelInit s) (es : List CoreStep) :
    Transition.Along coreStep KeepsOrder s es ↔ ∀ pre, pre <+: es → InOrder (coreRun s pre) := by
  refine Transition.along_iff_property (I := Channel.Ordered) (fun _ => Channel.Ordered.inOrder)
    (fun _ _ hs => hs.step) (fun t e ht hnext => ?_) h.ordered
  cases e with
  | sendEncapsulatedCommand acts data =>
    intro htype hheld
    by_contra hfree
    exact (coreStep_traffic ht.booked.wf _).overtakes ht.booked.books htype hfree hheld
      hnext.executed
  | tick snap => trivial
  | getEncapsulatedResponse acts wLength => trivial
  | setConfiguration epInt => trivial
  | busEvent => trivial
  | smsDownlink pdu => trivial

/-- Two commands, the second one held until the answer to the first is fetched. -/
theorem coreRun_inOrder_iff_two_queries :
    ChannelInit openGadget ∧
      InOrder (coreRun openGadget
        [.setConfiguration 1, hostQuery 1, tickRegistered, hostQuery 2, hostGet, hostGet]) :=
  ⟨openGadget_init, (coreRun_inOrder_iff openGadget_init _).mp (by decide +kernel) _
    (List.prefix_refl _)⟩

/-- The registration is indicated behind the answer to the first query. The second query is
held, a GET takes the answer and leaves the indication, and the third query is executed and
answered before the second. -/
theorem query_overtakes_held :
    ¬ ∀ (s : Channel) (es : List CoreStep), ChannelInit s → InOrder (coreRun s es) := by
  intro h
  have horder := (h openGadget [.setConfiguration 1, hostQuery 1, tickRegistered, hostQuery 2,
    hostGet, hostQuery 3, hostGet, hostGet, hostGet] openGadget_init).handed
  exact absurd horder (by decide +kernel)

end VirtualLte.Mbim
