import VirtualLte.Mbim.HostView
import VirtualLte.Mbim.SmsBox

/-!
# Announcing the incoming SMS

What the drains of a run do with the messages of the bridge.  A drain stores them, reports
each with a store status, and then pushes all that were not pushed yet in one SMS_READ.

* `stored_putAll`: where several messages are stored, and none over another of them.
* `Ahead`: what is queued in front of the messages leaves them alone.
* `drainSms_stores` is the loop over the bridge's queue, and
  `mbimEmitSmsReadIndication_pushes` the push behind it.
* `HostOp`: between two drains the host reads and deletes, and sets no mark of a push.
* `Announces` says of one step that no message is lost on the way to the host, and
  `coreRun_announces` says it of every step of a run whose drains have the room for it.
-/

namespace VirtualLte.Mbim

open Transition

variable {s : Channel}

/-! ## Storing several messages -/

/-- The entries under which messages are stored, from the number `next` on. -/
def arrivals (next : UInt32) : List Bytes → List MbimSmsStoreEntry
  | [] => []
  | pdu :: rest =>
    { used := true, unread := true, notified := false, index := next, pdu } ::
      arrivals (next + 1) rest

/-- The octets of an SMS_READ with these messages. -/
def pushSize (pdus : List Bytes) : Nat := 8 + (pdus.map fun pdu => 24 + align4 pdu.length).sum

theorem arrivals_unmarked (next : UInt32) (pdus : List Bytes) :
    ∀ e ∈ arrivals next pdus, e.notified = false := by
  induction pdus generalizing next with
  | nil => exact fun _ h => (by cases h)
  | cons pdu rest ih => exact List.forall_mem_cons.mpr ⟨rfl, ih (next + 1)⟩

theorem arrivals_size (next : UInt32) (pdus : List Bytes) :
    8 + (arrivals next pdus).length * 8 + recordsSize (arrivals next pdus) = pushSize pdus := by
  induction pdus generalizing next with
  | nil => rfl
  | cons pdu rest ih =>
    have hrest := ih (next + 1)
    unfold pushSize at hrest ⊢
    rw [arrivals, recordsSize_cons, MbimSmsStoreEntry.recordSize, List.length_cons, List.map_cons,
      List.sum_cons]
    dsimp only
    omega

/-- Each message is among them, under the number of its turn. -/
theorem mem_arrivals {pdus : List Bytes} {k : Nat} {pdu : Bytes} (h : pdus[k]? = some pdu)
    (next : UInt32) :
    ∃ e ∈ arrivals next pdus, e.index = next + UInt32.ofNat k ∧ e.pdu = pdu := by
  induction pdus generalizing next k with
  | nil => cases h
  | cons first rest ih =>
    cases k with
    | zero =>
      obtain rfl : first = pdu := Option.some.inj h
      exact ⟨_, List.mem_cons_self, (UInt32.add_zero next).symm, rfl⟩
    | succ k =>
      obtain ⟨e, he, hindex, hpdu⟩ := ih h (next + 1)
      refine ⟨e, List.mem_cons_of_mem _ he, ?_, hpdu⟩
      rw [hindex, UInt32.ofNat_add, UInt32.add_assoc, UInt32.add_comm 1]
      rfl

namespace SmsStore

variable {store : SmsStore} {pdus : List Bytes}

theorem stored_putAll_free (h : store.stored.length + pdus.length ≤ mbimSmsStoreMax) :
    (pdus.foldl put store).stored.Perm (arrivals store.nextIndex pdus ++ store.stored) := by
  induction pdus generalizing store with
  | nil => exact .refl _
  | cons pdu rest ih =>
    rw [List.length_cons] at h
    have hfree : ¬ store.Full := fun hfull => by
      have hlen := full_iff_length.mp hfull
      omega
    have hput := stored_put_free pdu hfree
    have hlen := hput.length_eq
    rw [List.length_cons] at hlen
    have hrest := @ih (store.put pdu) (by omega)
    exact hrest.trans ((hput.append_left _).trans List.perm_middle)

/-- One message, or as many as there are free slots: all of them are in the store, and beside
them only what was there. -/
theorem stored_putAll (h : pdus.length ≤ 1 ∨ store.stored.length + pdus.length ≤ mbimSmsStoreMax) :
    ∃ rest, rest ⊆ store.stored ∧
      (pdus.foldl put store).stored.Perm (arrivals store.nextIndex pdus ++ rest) := by
  by_cases hroom : store.stored.length + pdus.length ≤ mbimSmsStoreMax
  · exact ⟨_, List.Subset.refl _, stored_putAll_free hroom⟩
  · have hone := h.resolve_right hroom
    have hle := store.stored_length_le
    cases pdus with
    | nil => exact absurd hle hroom
    | cons pdu rest =>
      rw [List.length_cons] at hone hroom
      obtain rfl := List.eq_nil_of_length_eq_zero (by omega : rest.length = 0)
      have hfull : store.Full := full_iff_length.mpr (by
        rw [List.length_nil] at hroom
        omega)
      obtain ⟨kept, hbefore, hafter⟩ := stored_put_full pdu hfull
      exact ⟨kept, fun e he => hbefore.mem_iff.mpr (List.mem_cons_of_mem _ he), hafter⟩

theorem selected_notify : store.selected .notify = store.stored.filter (!·.notified) := by
  rw [selected, stored, SlotTable.contents, List.filter_filter]
  refine List.filter_congr fun e _ => ?_
  cases hused : e.used <;> simp [smsEntryIncluded, hused]

/-- A push that follows selects the new messages. -/
theorem selected_putAll {rest : List MbimSmsStoreEntry} (hrest : ∀ e ∈ rest, e.notified = true)
    (h : (pdus.foldl put store).stored.Perm (arrivals store.nextIndex pdus ++ rest)) :
    ((pdus.foldl put store).selected .notify).Perm (arrivals store.nextIndex pdus) := by
  have hnew : (arrivals store.nextIndex pdus).filter (!·.notified) = arrivals store.nextIndex pdus :=
    List.filter_eq_self.mpr fun e he => by rw [arrivals_unmarked _ _ e he]; rfl
  have hold : rest.filter (!·.notified) = [] :=
    List.filter_eq_nil_iff.mpr fun e he => by rw [hrest e he]; exact Bool.false_ne_true
  have hfilter := h.filter (!·.notified)
  rw [List.filter_append, hnew, hold, List.append_nil] at hfilter
  exact selected_notify ▸ hfilter

theorem Wf.putAll (hwf : store.Wf) (h : ∀ pdu ∈ pdus, Storable pdu) :
    (pdus.foldl put store).Wf := by
  induction pdus generalizing store with
  | nil => exact hwf
  | cons pdu rest ih =>
    obtain ⟨hpdu, hrest⟩ := List.forall_mem_cons.mp h
    have hstep := hwf.step (.append pdu)
    rw [smsStoreStep, mbimHandlersSmsStoreAppend_storable hpdu] at hstep
    exact ih hstep hrest

end SmsStore

/-! ## In front of the messages -/

/-- At most `n` indications are queued, and the messages and the handlers left alone. -/
structure Ahead (s t : Channel) (n : Nat) : Prop where
  queue : t.respQueue.length ≤ s.respQueue.length + n
  handlers : t.handlers = s.handlers
  smsQueue : t.bridge.smsQueue = s.bridge.smsQueue

theorem Ahead.refl (s : Channel) (n : Nat) : Ahead s s n := ⟨Nat.le_add_right _ _, rfl, rfl⟩

theorem Ahead.trans {t u : Channel} {n m : Nat} (h : Ahead s t n) (h' : Ahead t u m) :
    Ahead s u (n + m) := by
  have hfirst := h.queue
  have hsecond := h'.queue
  exact ⟨by omega, h'.handlers.trans h.handlers, h'.smsQueue.trans h.smsQueue⟩

theorem place_admitted_ahead (s : Channel) (item : MbimRespItem) :
    Ahead s (s.place (admitted s.respQueue item)) 1 := by
  refine ⟨?_, rfl, rfl⟩
  unfold Channel.place admitted
  split_ifs
  · exact Nat.le_succ_of_le (Nat.le_of_eq (congrArg List.length (List.append_nil _)))
  · exact Nat.le_of_eq List.length_append

theorem emitIndication_ahead (s : Channel) (msg : Option Bytes) :
    Ahead s (emitIndication s msg).2 1 ∧ (emitIndication s msg).2.bridge = s.bridge := by
  unfold emitIndication
  split
  · exact ⟨.refl s 1, rfl⟩
  · split_ifs
    · exact ⟨.refl s 1, rfl⟩
    · rename_i msg _
      rw [mbimRespEnqueue_eq]
      have hone := place_admitted_ahead s { data := msg, origin := none }
      exact ⟨⟨hone.queue, rfl, rfl⟩, rfl⟩

theorem drainQmuxIndication_ahead (s : Channel) :
    Ahead s (drainQmuxIndication s) s.qmuxState.syncIndPending.toNat ∧
      (drainQmuxIndication s).bridge = s.bridge ∧
      (drainQmuxIndication s).pendingLteAttachStatusInd = s.pendingLteAttachStatusInd := by
  unfold drainQmuxIndication
  split_ifs with hcond
  · dsimp only
    rw [mbimRespEnqueue_eq, (Bool.and_eq_true_iff.mp hcond).2]
    have hone := place_admitted_ahead { s with qmuxState := (takePendingIndication s.qmuxState).2 }
      { data := (takePendingIndication s.qmuxState).1, origin := none }
    exact ⟨⟨hone.queue, rfl, rfl⟩, rfl, rfl⟩
  · exact ⟨.refl s _, rfl, rfl⟩

theorem drainLteAttachStatus_ahead (s : Channel) :
    Ahead s (drainLteAttachStatus s) s.pendingLteAttachStatusInd.toNat ∧
      (drainLteAttachStatus s).bridge = s.bridge := by
  unfold drainLteAttachStatus
  split_ifs with hcond
  · obtain ⟨hone, hbridge⟩ := emitIndication_ahead s (lteAttachStatusIndication s.handlers.modem)
    rw [(Bool.and_eq_true_iff.mp hcond).2]
    exact ⟨⟨hone.queue, hone.handlers, hone.smsQueue⟩, hbridge⟩
  · exact ⟨.refl s _, rfl⟩

theorem drainBridgeIndication_ahead (s : Channel) (ind : MbimBridgeIndication) :
    Ahead s (drainBridgeIndication s ind) 1 := by
  have hpacket (msg : Option Bytes) : Ahead s
      (if (emitIndication s msg).1 then
        { (emitIndication s msg).2 with pendingLteAttachStatusInd := true }
      else (emitIndication s msg).2) 1 := by
    have hone := (emitIndication_ahead s msg).1
    split_ifs
    · exact ⟨hone.queue, hone.handlers, hone.smsQueue⟩
    · exact hone
  cases ind with
  | registerSearching | registerDeregistered | registerHome | packetAttaching =>
    exact (emitIndication_ahead s _).1
  | packetAttached => exact hpacket packetServiceAttached
  | packetDetached => exact hpacket packetServiceDetached

theorem drainBridgeIndications_ahead (inds : List MbimBridgeIndication) (s : Channel) :
    Ahead s (drainBridgeIndications inds s) inds.length := by
  induction inds generalizing s with
  | nil => exact .refl s 0
  | cons ind rest ih =>
    unfold drainBridgeIndications
    split_ifs
    · exact .refl s _
    · have htaken : Ahead s { s with bridge := { s.bridge with indQueue := rest } } 0 :=
        ⟨Nat.le_refl _, rfl, rfl⟩
      have hall := (htaken.trans (drainBridgeIndication_ahead _ ind)).trans (ih _)
      rw [Nat.zero_add, Nat.add_comm] at hall
      exact hall

/-- The indications that may go out in front of the messages. -/
def Channel.waiting (s : Channel) : Nat :=
  s.qmuxState.syncIndPending.toNat + s.pendingLteAttachStatusInd.toNat + s.bridge.indQueue.length

/-- The channel when the messages have their turn. -/
def Channel.beforeSms (s : Channel) : Channel :=
  let s := drainLteAttachStatus (drainQmuxIndication s)
  drainBridgeIndications s.bridge.indQueue s

theorem beforeSms_ahead (s : Channel) : Ahead s s.beforeSms s.waiting := by
  obtain ⟨hqmux, hbridge, hpending⟩ := drainQmuxIndication_ahead s
  obtain ⟨hlte, hbridge'⟩ := drainLteAttachStatus_ahead (drainQmuxIndication s)
  have hall := (hqmux.trans hlte).trans (drainBridgeIndications_ahead
    (drainLteAttachStatus (drainQmuxIndication s)).bridge.indQueue _)
  rw [hpending] at hall
  have hinds : (drainLteAttachStatus (drainQmuxIndication s)).bridge.indQueue = s.bridge.indQueue := by
    rw [hbridge', hbridge]
  have hcount : s.waiting = s.qmuxState.syncIndPending.toNat + s.pendingLteAttachStatusInd.toNat +
      (drainLteAttachStatus (drainQmuxIndication s)).bridge.indQueue.length := by
    rw [hinds]
    rfl
  rw [hcount]
  exact hall

/-- The messages and, if one was stored and there is room, the push. -/
def Channel.drainMessages (s : Channel) : Channel :=
  let (smsArrived, s) := drainSms s.bridge.smsQueue s false
  if smsArrived && !mbimRespQueueFull s then mbimEmitSmsReadIndication s else s

theorem drainPendingIndications_eq (h : s.heldQueue = []) :
    drainPendingIndications s = s.beforeSms.drainMessages := by
  unfold drainPendingIndications
  rw [h]
  rfl

/-! ## The messages and the push -/

theorem mbimRespQueueFull_eq_false (h : s.respQueue.length < mbimQueueRoom) :
    mbimRespQueueFull s = false :=
  decide_eq_false (Nat.not_le.mpr h)

/-- Messages that can be stored, with room for a store status of each. -/
theorem drainSms_stores {pdus : List Bytes} {arrived : Bool} (hqueue : s.bridge.smsQueue = pdus)
    (hpdus : ∀ pdu ∈ pdus, Storable pdu) (hroom : s.respQueue.length + pdus.length ≤ mbimQueueRoom) :
    ∃ t, drainSms pdus s arrived = (arrived || !pdus.isEmpty, t) ∧
      t.respQueue.length ≤ s.respQueue.length + pdus.length ∧ t.bridge.smsQueue = [] ∧
      t.handlers.sms = pdus.foldl SmsStore.put s.handlers.sms := by
  induction pdus generalizing s arrived with
  | nil => exact ⟨s, by rw [drainSms]; simp, Nat.le_refl _, hqueue, rfl⟩
  | cons pdu rest ih =>
    obtain ⟨hpdu, hrest⟩ := List.forall_mem_cons.mp hpdus
    rw [List.length_cons] at hroom
    have hshort : ¬ pdu.length > 512 := by
      have hlen := hpdu.2
      unfold mbimSmsPduMax at hlen
      omega
    let u : Channel := { s with
      bridge := { s.bridge with smsQueue := rest }
      handlers := { s.handlers with sms := s.handlers.sms.put pdu } }
    have hone := (emitIndication_ahead u (smsMessageStoreStatus s.handlers.sms.nextIndex)).1
    have hqueue' : _ ≤ s.respQueue.length + 1 := hone.queue
    obtain ⟨t, hloop, hlen, hempty, hstore⟩ := @ih _ true hone.smsQueue hrest (by omega)
    refine ⟨t, ?_, by rw [List.length_cons]; omega, hempty, ?_⟩
    · rw [drainSms, mbimRespQueueFull_eq_false (by omega), if_neg Bool.false_ne_true, if_neg hshort]
      dsimp only
      rw [mbimHandlersSmsStoreAppend_storable hpdu]
      dsimp only
      rw [hloop, Bool.true_or]
      simp
    · rw [hstore, hone.handlers]
      rfl

/-- The message is an SMS_READ with this entry of the store. -/
def PushesMessage (msg : Bytes) (e : MbimSmsStoreEntry) : Prop :=
  ∃ info es, msg = indicateStatus uuidSms mbimCidSmsRead info ∧ ListsMessages info es ∧
    ∃ e' ∈ es, e'.index = e.index ∧ e'.pdu = e.pdu

/-- An SMS_READ that can be framed. -/
theorem smsReadIndication_framed {store : SmsStore} (hwf : store.Wf)
    (hfits : store.readInfoSize .notify ≤ 468) :
    ∃ info, ListsMessages info (store.selected .notify) ∧
      smsReadIndication (smsReadInfo (smsBuildReadInfo store 512 .notify).1) =
        some (indicateStatus uuidSms mbimCidSmsRead info) := by
  have hcap : 8 ≤ (512 : UInt32).toNat := by decide
  have hroom : store.readInfoSize .notify ≤ (512 : UInt32).toNat := Nat.le_trans hfits (by decide)
  have hheld := smsBuildReadInfo_holds hwf hcap hroom
  have hlen : (smsBuildReadInfo store 512 .notify).1.info.length = store.readInfoSize .notify := by
    rw [MbimWireBuilder.info_length]
    exact hheld.len
  refine ⟨_, hheld.lists (hwf.selected _), ?_⟩
  rw [smsReadInfo, mbimWireFinalize_read hwf hcap, decide_eq_true hroom, if_pos rfl,
    smsReadIndication, if_neg (by rw [hlen, SmsStore.readInfoSize]; omega)]
  exact if_neg (by rw [hlen]; omega)

/-- The push, with a payload that can be framed. -/
theorem mbimEmitSmsReadIndication_pushes (hwf : s.handlers.sms.Wf)
    (hroom : s.respQueue.length < mbimQueueRoom) (hsome : s.handlers.sms.selected .notify ≠ [])
    (hfits : s.handlers.sms.readInfoSize .notify ≤ 468) :
    ∃ info, ListsMessages info (s.handlers.sms.selected .notify) ∧
      mbimEmitSmsReadIndication s =
        { s.place [{ data := indicateStatus uuidSms mbimCidSmsRead info, origin := none }] with
          handlers := { s.handlers with sms := (smsBuildReadInfo s.handlers.sms 512 .notify).2 }
          notifPending := true } := by
  obtain ⟨info, hlists, hframed⟩ := smsReadIndication_framed hwf hfits
  obtain ⟨e, he⟩ := List.exists_mem_of_ne_nil _ hsome
  have hany : (s.handlers.sms.slots.toList.any fun e => e.used && !e.notified) = true := by
    obtain ⟨hmem, hin⟩ := List.mem_filter.mp he
    refine List.any_eq_true.mpr ⟨e, hmem, ?_⟩
    unfold smsEntryIncluded at hin
    cases hused : e.used <;> simp_all
  refine ⟨info, hlists, ?_⟩
  unfold mbimEmitSmsReadIndication mbimHandlersBuildSmsReadIndication
  rw [if_pos hany]
  dsimp only
  rw [hframed, emitIndication_room]
  · rfl
  · exact hroom
  · exact Nat.succ_ne_zero _

/-! ## One drain -/

/-- The message was in the store before, with the mark it has now. -/
def MbimSmsStoreEntry.Stays (e : MbimSmsStoreEntry) (store : SmsStore) : Prop :=
  ∃ old ∈ store.stored, old.index = e.index ∧ old.pdu = e.pdu ∧ old.notified = e.notified

/-- What the results about one drain ask of the store: no PDU longer than its slot, and no
message that still waits for a push. -/
structure SmsStore.Settled (store : SmsStore) : Prop where
  wf : store.Wf
  marked : ∀ e ∈ store.stored, e.notified = true

/-- Each message taken from the queue is in the store, under a number of its own. -/
def Stores (u t : Channel) : Prop :=
  ∃ taken, u.bridge.smsQueue = taken ++ t.bridge.smsQueue ∧
    ∀ k pdu, taken[k]? = some pdu → ∃ e ∈ t.handlers.sms.stored,
      e.index = u.handlers.sms.nextIndex + UInt32.ofNat k ∧ e.pdu = pdu

/-- A message is marked only if it was before or an SMS_READ with its PDU is in the queue. -/
def Marks (u t : Channel) : Prop :=
  ∀ e ∈ t.handlers.sms.stored, e.notified = true →
    e.Stays u.handlers.sms ∨ ∃ item ∈ t.respQueue, PushesMessage item.data e

/-- All messages find a slot, a store status and a place in one SMS_READ. -/
structure Channel.Drainable (s : Channel) : Prop where
  storable : ∀ pdu ∈ s.bridge.smsQueue, Storable pdu
  slots : s.bridge.smsQueue.length ≤ 1 ∨
    s.handlers.sms.stored.length + s.bridge.smsQueue.length ≤ mbimSmsStoreMax
  room : s.respQueue.length + s.waiting + s.bridge.smsQueue.length < mbimQueueRoom
  framed : pushSize s.bridge.smsQueue ≤ 468

instance (s : Channel) : Decidable s.Drainable :=
  decidable_of_iff (_ ∧ _ ∧ _ ∧ _)
    ⟨fun h => ⟨h.1, h.2.1, h.2.2.1, h.2.2.2⟩, fun h => ⟨h.storable, h.slots, h.room, h.framed⟩⟩

/-- No message has its turn, or all of them have. -/
def Channel.Announceable (s : Channel) : Prop :=
  s.heldQueue ≠ [] ∨ s.bridge.smsQueue = [] ∨ mbimRespQueueFull s = true ∨ s.Drainable

instance (s : Channel) : Decidable s.Announceable :=
  inferInstanceAs (Decidable (_ ∨ _ ∨ _ ∨ _))

/-- The outcome of a drain that loses nothing. -/
structure Drained (u t : Channel) : Prop where
  settled : t.handlers.sms.Settled
  stores : Stores u t
  marks : Marks u t

/-- A drain that takes no message. -/
theorem Drained.idle {t : Channel} (hs : s.handlers.sms.Settled) (hhandlers : t.handlers = s.handlers)
    (hqueue : t.bridge.smsQueue = s.bridge.smsQueue) : Drained s t := by
  refine ⟨by rw [hhandlers]; exact hs, ⟨[], hqueue.symm, fun _ _ h => (by cases h)⟩, ?_⟩
  intro e he _
  rw [hhandlers] at he
  exact .inl ⟨e, he, rfl, rfl, rfl⟩

theorem drainPendingIndications_full (h : mbimRespQueueFull s = true) :
    drainPendingIndications s = s := by
  have hbefore : s.beforeSms = s := by
    have hqmux : drainQmuxIndication s = s := by simp [drainQmuxIndication, h]
    have hlte : drainLteAttachStatus s = s := by simp [drainLteAttachStatus, h]
    rw [Channel.beforeSms, hqmux, hlte]
    cases hinds : s.bridge.indQueue with
    | nil => rfl
    | cons ind rest => exact if_pos h
  have hmessages : s.drainMessages = s := by
    unfold Channel.drainMessages
    cases hpdus : s.bridge.smsQueue with
    | nil => rfl
    | cons pdu rest => simp [drainSms, h]
  by_cases hheld : s.heldQueue = []
  · rw [drainPendingIndications_eq hheld, hbefore, hmessages]
  · exact drainPendingIndications_held hheld

theorem afterRead_notify {e : MbimSmsStoreEntry} (h : e.used = true) :
    e.afterRead .notify = { e with notified := true } := by
  obtain ⟨used, unread, notified, index, pdu⟩ := e
  cases h
  cases notified <;> rfl

/-- The messages are stored and then pushed. -/
theorem drainMessages_drained {u : Channel} (hs : s.handlers.sms.Settled) (h : s.Drainable)
    (hahead : Ahead s u s.waiting) (hsome : s.bridge.smsQueue ≠ []) : Drained s u.drainMessages := by
  have hroom := h.room
  have hfirst := hahead.queue
  obtain ⟨t, hloop, hlen, hempty, hstore⟩ :=
    @drainSms_stores u s.bridge.smsQueue false hahead.smsQueue h.storable (by omega)
  rw [hahead.handlers] at hstore
  obtain ⟨rest, hrest, hperm⟩ := SmsStore.stored_putAll h.slots
  have hselected := SmsStore.selected_putAll (fun e he => hs.marked e (hrest he)) hperm
  rw [← hstore] at hperm hselected
  have hwf : t.handlers.sms.Wf := hstore ▸ hs.wf.putAll h.storable
  have hsize : t.handlers.sms.readInfoSize .notify = pushSize s.bridge.smsQueue := by
    rw [SmsStore.readInfoSize, hselected.length_eq, recordsSize, (hselected.map _).sum_eq]
    exact arrivals_size _ _
  have hnew : t.handlers.sms.selected .notify ≠ [] := by
    intro hnil
    rw [hnil] at hselected
    cases hpdus : s.bridge.smsQueue with
    | nil => exact hsome hpdus
    | cons pdu rest =>
      rw [hpdus] at hselected
      exact absurd hselected.length_eq.symm (Nat.succ_ne_zero _)
  have hfull : t.respQueue.length < mbimQueueRoom := by omega
  obtain ⟨info, hlists, hpush⟩ :=
    mbimEmitSmsReadIndication_pushes hwf hfull hnew (hsize ▸ h.framed)
  have hdrain : u.drainMessages = mbimEmitSmsReadIndication t := by
    unfold Channel.drainMessages
    rw [hahead.smsQueue, hloop]
    dsimp only
    rw [mbimRespQueueFull_eq_false hfull, Bool.false_or, List.isEmpty_eq_false_iff.mpr hsome]
    rfl
  have hmarked : ∀ e ∈ (smsBuildReadInfo t.handlers.sms 512 .notify).2.stored,
      ∃ old ∈ t.handlers.sms.stored, e = { old with notified := true } := by
    intro e he
    rw [SmsStore.stored_read] at he
    obtain ⟨old, hold, rfl⟩ := List.mem_map.mp he
    exact ⟨old, hold, afterRead_notify (List.mem_filter.mp hold).2⟩
  rw [hdrain, hpush]
  refine ⟨⟨hwf.step (.read 512 .notify), fun e he => ?_⟩, ⟨s.bridge.smsQueue, ?_, fun k pdu hk => ?_⟩,
    fun e he _ => ?_⟩
  · obtain ⟨old, -, rfl⟩ := hmarked e he
    rfl
  · exact (List.append_nil _).symm.trans (congrArg _ hempty.symm)
  · obtain ⟨e, he, hindex, hpdu⟩ := mem_arrivals hk s.handlers.sms.nextIndex
    have hmem : e ∈ t.handlers.sms.stored := hperm.mem_iff.mpr (List.mem_append_left _ he)
    refine ⟨e.afterRead .notify, ?_, ?_⟩
    · change _ ∈ (smsBuildReadInfo t.handlers.sms 512 .notify).2.stored
      rw [SmsStore.stored_read]
      exact List.mem_map_of_mem hmem
    · rw [afterRead_notify (List.mem_filter.mp hmem).2]
      exact ⟨hindex, hpdu⟩
  · obtain ⟨old, hold, rfl⟩ := hmarked e he
    rcases List.mem_append.mp (hperm.mem_iff.mp hold) with harrived | hkept
    · -- it arrived in this drain, so the push has it
      refine .inr ⟨_, List.mem_append_right _ (List.mem_singleton_self _), info, _, rfl, hlists,
        old, hselected.mem_iff.mpr harrived, rfl, rfl⟩
    · exact .inl ⟨old, hrest hkept, rfl, rfl, hs.marked old (hrest hkept)⟩

theorem drainPendingIndications_drained (hs : s.handlers.sms.Settled) (h : s.Announceable) :
    Drained s (drainPendingIndications s) := by
  by_cases hheld : s.heldQueue = []
  swap
  · rw [drainPendingIndications_held hheld]
    exact .idle hs rfl rfl
  have hahead := beforeSms_ahead s
  by_cases hnone : s.bridge.smsQueue = []
  · have hmessages : s.beforeSms.drainMessages = s.beforeSms := by
      rw [Channel.drainMessages, hahead.smsQueue, hnone]
      rfl
    rw [drainPendingIndications_eq hheld, hmessages]
    exact .idle hs hahead.handlers hahead.smsQueue
  rcases (h.resolve_left (not_not_intro hheld)).resolve_left hnone with hfull | hroom
  · rw [drainPendingIndications_full hfull]
    exact .idle hs rfl rfl
  · rw [drainPendingIndications_eq hheld]
    exact drainMessages_drained hs hroom hahead hnone

/-! ## What the host does to the store -/

section HostOp

variable {store store' : SmsStore} (h : HostOp store store')
include h

theorem HostOp.stays : ∀ e ∈ store'.stored, e.Stays store := by
  intro e he
  cases h with
  | none => exact ⟨e, he, rfl, rfl, rfl⟩
  | @read cap mode hmode =>
    rw [SmsStore.stored_read] at he
    obtain ⟨old, hold, rfl⟩ := List.mem_map.mp he
    refine ⟨old, hold, ?_⟩
    unfold MbimSmsStoreEntry.afterRead MbimSmsStoreEntry.mark
    cases mode with
    | notify => exact absurd rfl hmode
    | query => split_ifs <;> exact ⟨rfl, rfl, rfl⟩
    | queryNew => split_ifs <;> exact ⟨rfl, rfl, rfl⟩
  | delete index =>
    rw [SmsStore.stored_delete] at he
    exact ⟨e, List.mem_of_mem_filter he, rfl, rfl, rfl⟩

theorem HostOp.settled (hs : store.Settled) : store'.Settled where
  wf := by
    cases h with
    | none => exact hs.wf
    | @read cap mode hmode => exact hs.wf.step (.read cap mode)
    | delete index => exact hs.wf.step (.delete index)
  marked := by
    intro e he
    obtain ⟨old, hold, -, -, hmark⟩ := h.stays e he
    exact hmark ▸ hs.marked old hold

end HostOp

variable (acts : HandlerActions) (st : HandlerState)

theorem mbimTrySendDeferredNotification_handlers (s : Channel) :
    (mbimTrySendDeferredNotification s).handlers = s.handlers := by
  obtain ⟨np, na, d, heq, -⟩ := mbimTrySendDeferredNotification_eq s
  rw [heq]

theorem prepareMbimResponse_hostOp (s : Channel) :
    HostOp s.handlers.sms (prepareMbimResponse acts s).handlers.sms := by
  unfold prepareMbimResponse
  dsimp only
  split_ifs
  · exact .none
  · exact .none
  · exact .none
  · exact .none
  · split
    · exact .none
    · rename_i r hr
      have hop := (mbimHandlersHandleCommand_outcome hr).1
      split
      · unfold handleCtlSync
        split_ifs
        · exact hop
        · exact hop
        · dsimp only
          rw [mbimTrySendDeferredNotification_handlers, mbimRespEnqueue_eq]
          exact hop
      · exact hop
  · exact .none

theorem executeCommand_hostOp {t : Channel} (h : t.handlers = s.handlers) :
    HostOp s.handlers.sms (executeCommand acts t).handlers.sms := by
  obtain ⟨np, heq⟩ := executeCommand_eq acts t
  rw [heq, ← h]
  exact prepareMbimResponse_hostOp acts t

theorem coreOnSendEncapsulatedCommand_hostOp (s : Channel) (data : Bytes) :
    HostOp s.handlers.sms (coreOnSendEncapsulatedCommand acts s data).handlers.sms := by
  unfold coreOnSendEncapsulatedCommand
  dsimp only
  split
  · unfold mbimHoldCommand
    split_ifs <;> exact .none
  · rw [mbimTrySendDeferredNotification_handlers]
    exact executeCommand_hostOp acts rfl

theorem releaseHeld_hostOp (s : Channel) :
    HostOp s.handlers.sms (s.beginGet.releaseHeld acts).handlers.sms := by
  have hbegin : s.beginGet.handlers = s.handlers := by rw [beginGet_eq]
  rw [← hbegin]
  unfold Channel.releaseHeld mbimProcessHeldCommand
  split_ifs
  · split
    · exact .none
    · exact executeCommand_hostOp acts rfl
  · exact .none

/-! ## Runs -/

/-- The channel once the tick followed the engine. -/
def polled (s : Channel) : Option UeEngineSnapshot → Channel
  | some snap =>
    { s with
      bridge := stateBridgePoll s.bridge snap
      handlers := { s.handlers with modem := modemStateOf snap } }
  | none => s

/-- The state in which a step drains. -/
def drained (s : Channel) : CoreStep → Option Channel
  | .tick snap => if 0 ≤ s.gadgetFd then some (polled s snap) else none
  | .getEncapsulatedResponse acts _ => some (s.beginGet.releaseHeld acts)
  | _ => none

/-- The step loses no message on its way to the host. -/
structure Announces (s : Channel) (e : CoreStep) : Prop where
  /-- A message that a drain takes from the queue is put in the store. -/
  stores : ∀ u ∈ drained s e, Stores u (coreStep s e)
  /-- No step marks a message without an SMS_READ. -/
  marks : Marks s (coreStep s e)
  /-- None is left over while there is room. -/
  complete : (drained s e).isSome = true → (coreStep s e).heldQueue = [] →
    mbimRespQueueFull (coreStep s e) = false →
      ∀ m ∈ (coreStep s e).handlers.sms.stored, m.notified = true

/-- The step drains in a state in which nothing gets lost. -/
def DrainsAnnounceable (s : Channel) (e : CoreStep) : Prop := ∀ u ∈ drained s e, u.Announceable

instance (s : Channel) (e : CoreStep) : Decidable (DrainsAnnounceable s e) :=
  inferInstanceAs (Decidable (∀ u ∈ drained s e, u.Announceable))

/-- Two channels with the same messages and responses. -/
structure SameMessages (s t : Channel) : Prop where
  handlers : t.handlers = s.handlers
  bridge : t.bridge = s.bridge
  queue : t.respQueue = s.respQueue

/-- A step is an operation of the host, and then a drain if it drains. -/
theorem coreStep_cases (s : Channel) (e : CoreStep) :
    (∃ u, drained s e = some u ∧ HostOp s.handlers.sms u.handlers.sms ∧
      SameMessages (drainPendingIndications u) (coreStep s e)) ∨
    drained s e = none ∧ HostOp s.handlers.sms (coreStep s e).handlers.sms := by
  cases e with
  | tick snap =>
    have htick : coreStep s (.tick snap) =
        if 0 ≤ s.gadgetFd then
          if (drainPendingIndications (polled s snap)).respQueue.isEmpty then
            drainPendingIndications (polled s snap)
          else
            mbimTrySendDeferredNotification
              (mbimMarkNotificationNeeded (drainPendingIndications (polled s snap)))
        else polled s snap := by
      cases snap <;> rfl
    have hpolled : HostOp s.handlers.sms (polled s snap).handlers.sms := by
      cases snap <;> exact .none
    rw [htick, drained]
    split_ifs
    · exact .inl ⟨_, rfl, hpolled, rfl, rfl, rfl⟩
    · refine .inl ⟨_, rfl, hpolled, ?_⟩
      obtain ⟨np, na, d, heq, -⟩ := mbimTrySendDeferredNotification_eq
        (mbimMarkNotificationNeeded (drainPendingIndications (polled s snap)))
      rw [heq]
      exact ⟨rfl, rfl, rfl⟩
    · exact .inr ⟨rfl, hpolled⟩
  | sendEncapsulatedCommand acts data =>
    exact .inr ⟨rfl, coreOnSendEncapsulatedCommand_hostOp acts s data⟩
  | getEncapsulatedResponse acts wLength =>
    refine .inl ⟨_, rfl, releaseHeld_hostOp acts s, ?_⟩
    rw [coreStep, coreOnGetEncapsulatedResponse_eq, Channel.endGet]
    split_ifs <;> exact ⟨rfl, rfl, rfl⟩
  | setConfiguration epInt =>
    refine .inr ⟨rfl, ?_⟩
    unfold coreStep setConfiguration
    split_ifs <;> exact .none
  | busEvent => exact .inr ⟨rfl, .none⟩
  | smsDownlink pdu =>
    refine .inr ⟨rfl, ?_⟩
    unfold coreStep
    dsimp only
    split <;> exact .none

theorem coreStep_announces (hs : s.handlers.sms.Settled) {e : CoreStep}
    (h : DrainsAnnounceable s e) : Announces s e ∧ (coreStep s e).handlers.sms.Settled := by
  rcases coreStep_cases s e with ⟨u, hu, hop, hsame⟩ | ⟨hnone, hop⟩
  · have hdrain := drainPendingIndications_drained (hop.settled hs) (h u hu)
    have hsettled : (coreStep s e).handlers.sms.Settled := hsame.handlers ▸ hdrain.settled
    refine ⟨⟨?_, ?_, fun _ _ _ => hsettled.marked⟩, hsettled⟩
    · intro v hv
      obtain rfl : u = v := Option.some.inj (hu.symm.trans hv)
      rw [Stores, hsame.handlers, hsame.bridge]
      exact hdrain.stores
    · intro m hm hmark
      rw [hsame.handlers] at hm
      rw [hsame.queue]
      refine (hdrain.marks m hm hmark).imp_left fun hstays => ?_
      -- what stayed in the drain stayed in the operation in front of it
      obtain ⟨mid, hmid, hindex, hpdu, hnotified⟩ := hstays
      obtain ⟨old, hold, hindex', hpdu', hnotified'⟩ := hop.stays mid hmid
      exact ⟨old, hold, hindex'.trans hindex, hpdu'.trans hpdu, hnotified'.trans hnotified⟩
  · refine ⟨⟨?_, fun m hm _ => .inl (hop.stays m hm), ?_⟩, hop.settled hs⟩
    · intro v hv
      rw [hnone] at hv
      cases hv
    · intro hsome
      rw [hnone] at hsome
      cases hsome

/-- Along a run whose drains have room for the messages they take, no message is lost on its
way to the host. -/
theorem coreRun_announces (s : Channel) (es : List CoreStep) (hs : s.handlers.sms.Settled)
    (h : Along coreStep DrainsAnnounceable s es) : Along coreStep Announces s es :=
  along_of_invariant (fun _ _ hI hstep => (coreStep_announces hI hstep).2)
    (fun _ _ hI hstep => (coreStep_announces hI hstep).1) hs h

theorem SmsStore.settled_init : ({} : SmsStore).Settled where
  wf := SmsStore.wf_init
  marked := by decide

/-- A message arrives and is read, and two more arrive. -/
def threeArrivals : List CoreStep :=
  [.smsDownlink (List.replicate 160 1), .tick none, hostGet, hostGet,
    .smsDownlink (List.replicate 140 2), .smsDownlink (List.replicate 20 3), .tick none]

theorem coreRun_announces_threeArrivals :
    ((coreRun openGadget threeArrivals).handlers.sms.stored.map (·.index) = [1, 2, 3]) ∧
      Along coreStep Announces openGadget threeArrivals :=
  ⟨by decide +kernel,
    coreRun_announces openGadget threeArrivals SmsStore.settled_init (by decide +kernel)⟩

/-- Three messages of 132 octets make a payload of 476. -/
def threeLong : List CoreStep := List.replicate 3 (.smsDownlink (List.replicate 132 0))

theorem getLe32_indicateStatus {serviceId : Bytes} (h : serviceId.length = 16) (cid : UInt32)
    (payload : Bytes) : getLe32 (indicateStatus serviceId cid payload) 36 = cid := by
  have hsplit : indicateStatus serviceId cid payload =
      (putLe32 mbimIndicateStatusMsg ++ (le32s [UInt32.ofNat (44 + payload.length), 0, 1, 0] ++
        serviceId)) ++ (putLe32 cid ++ (putLe32 (UInt32.ofNat payload.length) ++ payload)) := by
    simp [indicateStatus, le32s]
  have hlen : (putLe32 mbimIndicateStatusMsg ++ (le32s [UInt32.ofNat (44 + payload.length), 0, 1, 0] ++
      serviceId)).length + 0 = 36 := by
    simp [h, le32s_length]
  rw [hsplit, ← hlen, getLe32_append_right, getLe32_putLe32]

/-- A store that was empty has no mark without an SMS_READ in the queue. -/
theorem Announces.read {e : CoreStep} {m : MbimSmsStoreEntry} (h : Announces s e)
    (hnone : s.handlers.sms.stored = []) (hm : m ∈ (coreStep s e).handlers.sms.stored)
    (hmark : m.notified = true) :
    ∃ item ∈ (coreStep s e).respQueue, getLe32 item.data 36 = mbimCidSmsRead := by
  rcases h.marks m hm hmark with ⟨old, hold, -⟩ | ⟨item, hitem, info, _, hread, -⟩
  · rw [hnone] at hold
    cases hold
  · exact ⟨item, hitem, hread ▸ getLe32_indicateStatus rfl _ _⟩

/-- They are marked, and no SMS_READ is in the queue. -/
theorem threeMessages_unannounced :
    ¬ ∀ s es, s.handlers.sms.Settled → Along coreStep Announces s es := by
  intro h
  have hlast : Announces (coreRun openGadget threeLong) (.tick none) :=
    Along.at_prefix (h openGadget (threeLong ++ [.tick none]) SmsStore.settled_init)
      (List.prefix_refl _)
  have hmarked : ∃ m ∈ (coreStep (coreRun openGadget threeLong) (.tick none)).handlers.sms.stored,
      m.notified = true := by decide +kernel
  have hcids : ∀ item ∈ (coreStep (coreRun openGadget threeLong) (.tick none)).respQueue,
      getLe32 item.data 36 ≠ mbimCidSmsRead := by decide +kernel
  obtain ⟨m, hm, hmark⟩ := hmarked
  obtain ⟨item, hitem, hread⟩ := hlast.read (by decide +kernel) hm hmark
  exact hcids item hitem hread

end VirtualLte.Mbim
