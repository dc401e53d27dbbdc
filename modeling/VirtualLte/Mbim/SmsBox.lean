import VirtualLte.Lib.SlotTable
import VirtualLte.Mbim.Channel
import VirtualLte.Mbim.ReadInfo

/-!
# The store as a box of messages in order of arrival

What the eight slots are for: a box that keeps the last messages in the order in which
they arrived, numbers them as they arrive, and gives up the oldest one when it is full.

* `SmsBox` is that box, without slots.
* `SmsHistory` runs the store and the box side by side, and keeps what each read of new
  messages has returned.
* `SmsHistory.Disciplined`: the slots hold what is in the box, the numbers grow, and no
  message was returned as new twice.
* A full store gives up slot zero, whatever is in it.  `smsRun_disciplined_iff`: the
  discipline lasts exactly as long as that is the oldest message.
* `smsDelete_named_iff`: what a SMS_DELETE of the host removes, against the messages its
  information buffer names.
-/

namespace VirtualLte.Mbim

open Transition

/-! ## Storing a message -/

/-- A PDU that has a place in a slot. -/
def Storable (pdu : Bytes) : Prop := pdu.length ≠ 0 ∧ pdu.length ≤ mbimSmsPduMax

instance (pdu : Bytes) : Decidable (Storable pdu) := inferInstanceAs (Decidable (_ ∧ _))

/-- The entry under which a PDU is stored. -/
def SmsStore.fresh (store : SmsStore) (pdu : Bytes) : MbimSmsStoreEntry :=
  { used := true, unread := true, notified := false, index := store.nextIndex, pdu }

/-- The store with one more message. -/
def SmsStore.put (store : SmsStore) (pdu : Bytes) : SmsStore where
  slots := store.slots.setIfInBounds store.freeSlot (store.fresh pdu)
  nextIndex := store.nextIndex + 1

theorem mbimHandlersSmsStoreAppend_storable {store : SmsStore} {pdu : Bytes} (h : Storable pdu) :
    mbimHandlersSmsStoreAppend store pdu = some (store.nextIndex, store.put pdu) :=
  if_neg fun hbad => hbad.elim h.1 (Nat.not_lt.mpr h.2)

theorem mbimHandlersSmsStoreAppend_none {store : SmsStore} {pdu : Bytes} (h : ¬ Storable pdu) :
    mbimHandlersSmsStoreAppend store pdu = none := by
  refine if_pos ?_
  unfold Storable at h
  omega

/-! ## The slots in use -/

namespace MbimSmsStoreEntry

variable (e : MbimSmsStoreEntry) (mode : SmsReadMode)

@[simp] theorem afterRead_index : (e.afterRead mode).index = e.index := by
  unfold afterRead mark
  split
  · cases mode <;> rfl
  · rfl

@[simp] theorem afterRead_used : (e.afterRead mode).used = e.used := by
  unfold afterRead mark
  split
  · cases mode <;> rfl
  · rfl

variable {e} in
/-- No read makes a message new again. -/
theorem afterRead_unread (h : e.unread = false) : (e.afterRead mode).unread = false := by
  unfold afterRead mark
  split
  · cases mode
    · rfl
    · rfl
    · exact h
  · exact h

variable {e} in
/-- A read of new messages leaves none new. -/
theorem afterRead_new (h : e.used = true) : (e.afterRead .queryNew).unread = false := by
  unfold afterRead mark
  split
  · rfl
  · rename_i hin
    simpa [smsEntryIncluded, h] using hin

end MbimSmsStoreEntry

namespace SmsStore

/-- The messages, in slot order. -/
def stored (store : SmsStore) : List MbimSmsStoreEntry :=
  SlotTable.contents (·.used) store.slots.toList

def Full (store : SmsStore) : Prop := ∀ e ∈ store.slots.toList, e.used = true

instance (store : SmsStore) : Decidable store.Full := inferInstanceAs (Decidable (∀ _ ∈ _, _))

variable {store : SmsStore}

theorem stored_length_le (store : SmsStore) : store.stored.length ≤ mbimSmsStoreMax := by
  have hslots : store.slots.toList.length = mbimSmsStoreMax := Vector.length_toList
  exact hslots ▸ List.length_filter_le _ _

theorem full_iff_length : store.Full ↔ store.stored.length = mbimSmsStoreMax := by
  have hslots : store.slots.toList.length = mbimSmsStoreMax := Vector.length_toList
  have hall := List.length_filter_eq_length_iff (p := MbimSmsStoreEntry.used) (l := store.slots.toList)
  rw [hslots] at hall
  exact hall.symm

/-- The slot that a message gets while there is a free one. -/
theorem freeSlot_free (h : ¬ store.Full) :
    ∃ e, store.slots.toList[store.freeSlot]? = some e ∧ e.used = false := by
  unfold freeSlot
  cases hfind : store.slots.toList.findIdx? fun e => !e.used with
  | none =>
    refine absurd (fun e he => ?_) h
    simpa using List.findIdx?_eq_none_iff.mp hfind e he
  | some i =>
    obtain ⟨hi, hfree, -⟩ := List.findIdx?_eq_some_iff_getElem.mp hfind
    exact ⟨_, List.getElem?_eq_getElem hi, by simpa using hfree⟩

/-- The slot that a message gets otherwise. -/
theorem freeSlot_full (h : store.Full) : store.freeSlot = 0 := by
  have hnone : store.slots.toList.findIdx? (fun e => !e.used) = none := by
    refine List.findIdx?_eq_none_iff.mpr fun e he => ?_
    rw [h e he]
    rfl
  rw [freeSlot, hnone]
  rfl

theorem stored_put_free (pdu : Bytes) (h : ¬ store.Full) :
    (store.put pdu).stored.Perm (store.fresh pdu :: store.stored) := by
  obtain ⟨e, he, hfree⟩ := freeSlot_free h
  rw [stored, put, Vector.toList_setIfInBounds]
  exact SlotTable.contents_set_free he hfree rfl

theorem stored_put_full (pdu : Bytes) (h : store.Full) :
    ∃ rest, store.stored.Perm (store.slots[0] :: rest) ∧
      (store.put pdu).stored.Perm (store.fresh pdu :: rest) := by
  have hzero : store.slots.toList[0]? = some store.slots[0] := by simp
  rw [stored, stored, put, Vector.toList_setIfInBounds, freeSlot_full h]
  exact SlotTable.contents_set_used hzero (h _ (by simp)) rfl

theorem stored_delete (index : UInt32) :
    (smsStoreDelete store index).stored =
      store.stored.filter fun e => !(index = 0 || e.index = index) := by
  rw [stored, smsStoreDelete, Vector.toList_map]
  exact SlotTable.contents_clear rfl

theorem stored_read (cap : UInt32) (mode : SmsReadMode) :
    (smsBuildReadInfo store cap mode).2.stored = store.stored.map (·.afterRead mode) := by
  rw [stored, smsBuildReadInfo_store, Vector.toList_map]
  exact SlotTable.contents_map fun e => e.afterRead_used mode

theorem selected_new : store.selected .queryNew = store.stored.filter (·.unread) := by
  rw [selected, stored, SlotTable.contents, List.filter_filter]
  refine List.filter_congr fun e _ => ?_
  cases hused : e.used <;> simp [smsEntryIncluded, hused]

end SmsStore

/-! ## The box -/

/-- The messages in the order in which they arrived, and how many have arrived. -/
structure SmsBox where
  messages : List MbimSmsStoreEntry := []
  arrived : Nat := 0
  deriving DecidableEq, Repr

namespace SmsBox

/-- The messages that stay when one more arrives: a full box gives up the oldest. -/
def kept (box : SmsBox) : List MbimSmsStoreEntry :=
  if box.messages.length < mbimSmsStoreMax then box.messages else box.messages.tail

/-- The message that arrives next. -/
def newest (box : SmsBox) (pdu : Bytes) : MbimSmsStoreEntry :=
  { used := true, unread := true, notified := false, index := UInt32.ofNat (box.arrived + 1), pdu }

def step (box : SmsBox) : SmsStoreOp → SmsBox
  | .append pdu =>
    if Storable pdu then
      { messages := box.kept ++ [box.newest pdu], arrived := box.arrived + 1 }
    else box
  | .delete index =>
    { box with messages := box.messages.filter fun e => !(index = 0 || e.index = index) }
  | .read _ mode => { box with messages := box.messages.map (·.afterRead mode) }

end SmsBox

theorem SmsBox.kept_sublist (box : SmsBox) : box.kept.Sublist box.messages := by
  unfold kept
  split
  · exact List.Sublist.refl _
  · exact List.tail_sublist _

theorem SmsBox.toNat_newest {box : SmsBox} (pdu : Bytes) (h : box.arrived + 1 < 2 ^ 32) :
    (box.newest pdu).index.toNat = box.arrived + 1 := UInt32.toNat_ofNat_of_lt' h

/-! ## Histories -/

/-- The store beside the box, and what each read of new messages has returned. -/
structure SmsHistory where
  store : SmsStore := {}
  box : SmsBox := {}
  newReads : List (List MbimSmsStoreEntry) := []
  deriving DecidableEq, Repr

/-- The messages in the information of a read of new messages, if it was returned. -/
def newReadReturns (store : SmsStore) (cap : UInt32) : List MbimSmsStoreEntry :=
  if mbimWireFinalize (smsBuildReadInfo store cap .queryNew).1 then store.selected .queryNew else []

namespace SmsHistory

def step (h : SmsHistory) (op : SmsStoreOp) : SmsHistory where
  store := smsStoreStep h.store op
  box := h.box.step op
  newReads :=
    match op with
    | .read cap .queryNew => h.newReads ++ [newReadReturns h.store cap]
    | _ => h.newReads

/-- The numbers of the messages returned as new, in order. -/
def returned (h : SmsHistory) : List UInt32 := h.newReads.flatMap (·.map (·.index))

structure Disciplined (h : SmsHistory) : Prop where
  /-- The slots hold the messages of the box. -/
  represents : h.store.stored.Perm h.box.messages
  increasing : h.box.messages.Pairwise (·.index < ·.index)
  nonzero : ∀ e ∈ h.box.messages, e.index ≠ 0
  /-- No message was returned as new twice. -/
  once : h.returned.Nodup

end SmsHistory

/-- A message that goes to a full store finds the oldest one in slot zero. -/
def EvictsOldest (store : SmsStore) : SmsStoreOp → Prop
  | .append pdu =>
    Storable pdu → store.Full → ∀ e ∈ store.stored, store.slots[0].index ≤ e.index
  | _ => True

instance (store : SmsStore) : ∀ op, Decidable (EvictsOldest store op)
  | .append _ => inferInstanceAs (Decidable (_ → _ → ∀ _ ∈ _, _))
  | .delete _ => instDecidableTrue
  | .read _ _ => instDecidableTrue

def SmsStoreOp.isAppend : SmsStoreOp → Bool
  | .append _ => true
  | _ => false

/-! ## What one step keeps -/

/-- The discipline, and what connects the numbers with the counters. -/
structure SmsHistory.Inv (h : SmsHistory) : Prop extends h.Disciplined where
  next : h.store.nextIndex = UInt32.ofNat (h.box.arrived + 1)
  known : ∀ e ∈ h.box.messages, e.index.toNat ≤ h.box.arrived
  /-- What was returned is not new any more. -/
  read : ∀ n ∈ h.returned, n.toNat ≤ h.box.arrived ∧
    ∀ e ∈ h.box.messages, e.index = n → e.unread = false

namespace SmsHistory.Inv

variable {h : SmsHistory} (hinv : h.Inv)
include hinv

theorem fresh_eq (pdu : Bytes) : h.store.fresh pdu = h.box.newest pdu := by
  rw [SmsStore.fresh, SmsBox.newest, hinv.next]

theorem full_iff : h.store.Full ↔ ¬ h.box.messages.length < mbimSmsStoreMax := by
  have hle := h.store.stored_length_le
  rw [SmsStore.full_iff_length, ← hinv.represents.length_eq]
  omega

/-- The first message of the box is the one with the smallest number. -/
theorem first_iff {b y : MbimSmsStoreEntry} {queue : List MbimSmsStoreEntry}
    (hbox : h.box.messages = b :: queue) (hy : y ∈ h.box.messages) :
    y = b ↔ ∀ e ∈ h.store.stored, y.index ≤ e.index := by
  have hsorted := hinv.increasing
  rw [hbox] at hy hsorted
  have hsmallest := (List.pairwise_cons.mp hsorted).1
  simp only [hinv.represents.mem_iff, hbox, List.forall_mem_cons]
  constructor
  · rintro rfl
    exact ⟨UInt32.le_refl _, fun e he => UInt32.le_of_lt (hsmallest e he)⟩
  · rintro ⟨hle, -⟩
    rcases List.mem_cons.mp hy with rfl | hlater
    · rfl
    · exact absurd (hsmallest y hlater) (UInt32.not_lt.mpr hle)

/-- A message more is in the slots as it is in the box exactly if it replaces the oldest. -/
theorem append_represents_iff (pdu : Bytes) :
    (h.store.put pdu).stored.Perm (h.box.kept ++ [h.box.newest pdu]) ↔
      (h.store.Full → ∀ e ∈ h.store.stored, h.store.slots[0].index ≤ e.index) := by
  by_cases hfull : h.store.Full
  · have hlong := hinv.full_iff.mp hfull
    obtain ⟨b, queue, hbox⟩ : ∃ b queue, h.box.messages = b :: queue :=
      List.exists_cons_of_length_pos (Nat.lt_of_lt_of_le (by decide) (Nat.not_lt.mp hlong))
    obtain ⟨rest, hbefore, hafter⟩ := SmsStore.stored_put_full pdu hfull
    have hcontents : (h.store.slots[0] :: rest).Perm (b :: queue) :=
      hbox ▸ hbefore.symm.trans hinv.represents
    have hzero : h.store.slots[0] ∈ h.box.messages :=
      hbox ▸ hcontents.mem_iff.mp List.mem_cons_self
    have hkept : h.box.kept = queue := by
      rw [SmsBox.kept, if_neg hlong, hbox, List.tail_cons]
    rw [imp_iff_right hfull, ← hinv.first_iff hbox hzero, hkept, ← hinv.fresh_eq,
      ← SlotTable.replaces_first_iff hcontents]
    exact ⟨hafter.symm.trans, hafter.trans⟩
  · have hshort := Decidable.not_not.mp (mt hinv.full_iff.mpr hfull)
    refine iff_of_true ?_ fun hyes => absurd hyes hfull
    rw [SmsBox.kept, if_pos hshort, ← hinv.fresh_eq]
    exact (SmsStore.stored_put_free pdu hfull).trans
      ((hinv.represents.cons _).trans (List.perm_append_singleton _ _).symm)

omit hinv in
theorem step_append {pdu : Bytes} (hpdu : Storable pdu) :
    h.step (.append pdu) =
      { store := h.store.put pdu
        box := { messages := h.box.kept ++ [h.box.newest pdu], arrived := h.box.arrived + 1 }
        newReads := h.newReads } := by
  unfold step
  rw [smsStoreStep, mbimHandlersSmsStoreAppend_storable hpdu, SmsBox.step, if_pos hpdu]
  rfl

omit hinv in
theorem step_append_refused {pdu : Bytes} (hpdu : ¬ Storable pdu) : h.step (.append pdu) = h := by
  unfold step
  rw [smsStoreStep, mbimHandlersSmsStoreAppend_none hpdu, SmsBox.step, if_neg hpdu]
  rfl

theorem append {pdu : Bytes} (hpdu : Storable pdu) (hbound : h.box.arrived + 1 < 2 ^ 32)
    (hrepresents : (h.store.put pdu).stored.Perm (h.box.kept ++ [h.box.newest pdu])) :
    (h.step (.append pdu)).Inv := by
  have hnewest := h.box.toNat_newest pdu hbound
  have hkept := h.box.kept_sublist
  rw [step_append hpdu]
  refine ⟨⟨hrepresents, ?_, ?_, hinv.once⟩, ?_, ?_, ?_⟩
  · refine List.pairwise_append.mpr ⟨hinv.increasing.sublist hkept, List.pairwise_singleton _ _, ?_⟩
    intro e he e' he'
    rw [List.mem_singleton.mp he', UInt32.lt_iff_toNat_lt, hnewest]
    exact Nat.lt_succ_of_le (hinv.known e (hkept.mem he))
  · intro e he
    rcases List.mem_append.mp he with he | he
    · exact hinv.nonzero e (hkept.mem he)
    · rw [List.mem_singleton.mp he, Ne, ← UInt32.toNat_inj, hnewest]
      exact Nat.succ_ne_zero _
  · change h.store.nextIndex + 1 = UInt32.ofNat (h.box.arrived + 1 + 1)
    rw [hinv.next]
    exact (UInt32.ofNat_add _ 1).symm
  · intro e he
    rcases List.mem_append.mp he with he | he
    · exact Nat.le_succ_of_le (hinv.known e (hkept.mem he))
    · rw [List.mem_singleton.mp he, hnewest]
  · intro n hn
    obtain ⟨hle, hold⟩ := hinv.read n hn
    refine ⟨Nat.le_succ_of_le hle, fun e he heq => ?_⟩
    rcases List.mem_append.mp he with he | he
    · exact hold e (hkept.mem he) heq
    · -- the new message has a number of its own
      rw [← heq, List.mem_singleton.mp he, hnewest] at hle
      exact absurd hle (Nat.not_succ_le_self _)

theorem delete (index : UInt32) : (h.step (.delete index)).Inv := by
  have hsub : ∀ e ∈ h.box.messages.filter (fun e => !(index = 0 || e.index = index)),
      e ∈ h.box.messages := fun e he => List.mem_of_mem_filter he
  refine ⟨⟨?_, hinv.increasing.filter _, fun e he => hinv.nonzero e (hsub e he), hinv.once⟩, hinv.next,
    fun e he => hinv.known e (hsub e he), fun n hn => ?_⟩
  · change (smsStoreDelete h.store index).stored.Perm _
    rw [SmsStore.stored_delete]
    exact hinv.represents.filter _
  · exact ⟨(hinv.read n hn).1, fun e he => (hinv.read n hn).2 e (hsub e he)⟩

/-- The marks of a read, with whatever it returns. -/
theorem marked (mode : SmsReadMode) (cap : UInt32) (newReads : List (List MbimSmsStoreEntry))
    (honce : (newReads.flatMap (·.map (·.index))).Nodup)
    (hread : ∀ n ∈ newReads.flatMap (·.map (·.index)), n.toNat ≤ h.box.arrived ∧
      ∀ e ∈ h.box.messages, e.index = n → (e.afterRead mode).unread = false) :
    ({ store := (smsBuildReadInfo h.store cap mode).2
       box := { h.box with messages := h.box.messages.map (·.afterRead mode) }
       newReads } : SmsHistory).Inv := by
  refine ⟨⟨?_, ?_, ?_, honce⟩, ?_, ?_, ?_⟩
  · change (smsBuildReadInfo h.store cap mode).2.stored.Perm _
    rw [SmsStore.stored_read]
    exact hinv.represents.map _
  · refine List.pairwise_map.mpr (hinv.increasing.imp fun hlt => ?_)
    rw [MbimSmsStoreEntry.afterRead_index, MbimSmsStoreEntry.afterRead_index]
    exact hlt
  · refine List.forall_mem_map.mpr fun e he => ?_
    rw [MbimSmsStoreEntry.afterRead_index]
    exact hinv.nonzero e he
  · dsimp only
    rw [smsBuildReadInfo_store]
    exact hinv.next
  · refine List.forall_mem_map.mpr fun e he => ?_
    rw [MbimSmsStoreEntry.afterRead_index]
    exact hinv.known e he
  · refine fun n hn => ⟨(hread n hn).1, List.forall_mem_map.mpr fun e he heq => ?_⟩
    rw [MbimSmsStoreEntry.afterRead_index] at heq
    exact (hread n hn).2 e he heq

theorem read_marked (mode : SmsReadMode) (n : UInt32) (hn : n ∈ h.returned) :
    n.toNat ≤ h.box.arrived ∧
      ∀ e ∈ h.box.messages, e.index = n → (e.afterRead mode).unread = false :=
  ⟨(hinv.read n hn).1, fun e he heq => MbimSmsStoreEntry.afterRead_unread mode ((hinv.read n hn).2 e he heq)⟩

/-- What a read of new messages returns is in the box, new, and not twice. -/
theorem newReadReturns_mem {cap : UInt32} {e : MbimSmsStoreEntry} (he : e ∈ newReadReturns h.store cap) :
    e ∈ h.box.messages ∧ e.unread = true := by
  unfold newReadReturns at he
  split at he
  · rw [SmsStore.selected_new] at he
    obtain ⟨hmem, hnew⟩ := List.mem_filter.mp he
    exact ⟨hinv.represents.mem_iff.mp hmem, hnew⟩
  · exact absurd he List.not_mem_nil

theorem newReadReturns_nodup (cap : UInt32) : ((newReadReturns h.store cap).map (·.index)).Nodup := by
  have hbox : (h.box.messages.map (·.index)).Nodup :=
    List.pairwise_map.mpr (hinv.increasing.imp UInt32.ne_of_lt)
  have hstored := ((hinv.represents.map (·.index)).nodup_iff).mpr hbox
  unfold newReadReturns
  split
  · rw [SmsStore.selected_new]
    exact hstored.sublist (List.filter_sublist.map _)
  · exact List.nodup_nil

theorem used_of_mem {e : MbimSmsStoreEntry} (he : e ∈ h.box.messages) : e.used = true :=
  (List.mem_filter.mp (hinv.represents.mem_iff.mpr he)).2

theorem readStep (cap : UInt32) (mode : SmsReadMode) : (h.step (.read cap mode)).Inv := by
  cases mode with
  | query => exact hinv.marked .query cap h.newReads hinv.once (hinv.read_marked .query)
  | notify => exact hinv.marked .notify cap h.newReads hinv.once (hinv.read_marked .notify)
  | queryNew =>
    have hconcat : (h.newReads ++ [newReadReturns h.store cap]).flatMap (·.map (·.index)) =
        h.returned ++ (newReadReturns h.store cap).map (·.index) := by
      rw [List.flatMap_append, List.flatMap_singleton]
      rfl
    refine hinv.marked .queryNew cap _ ?_ ?_
    · rw [hconcat]
      refine List.nodup_append.mpr ⟨hinv.once, hinv.newReadReturns_nodup cap, ?_⟩
      rintro n hold _ hnew rfl
      obtain ⟨e, he, rfl⟩ := List.mem_map.mp hnew
      obtain ⟨hmem, hunread⟩ := hinv.newReadReturns_mem he
      rw [(hinv.read _ hold).2 e hmem rfl] at hunread
      cases hunread
    · rw [hconcat]
      intro n hn
      refine ⟨?_, fun e he _ => MbimSmsStoreEntry.afterRead_new (hinv.used_of_mem he)⟩
      rcases List.mem_append.mp hn with hold | hnew
      · exact (hinv.read n hold).1
      · obtain ⟨e, he, rfl⟩ := List.mem_map.mp hnew
        exact hinv.known e (hinv.newReadReturns_mem he).1

end SmsHistory.Inv

/-! ## Whole histories -/

namespace SmsHistory

/-- The next number is not used up when a message arrives. -/
def Numbered (h : SmsHistory) (op : SmsStoreOp) : Prop :=
  op.isAppend = true → h.box.arrived + 1 < 2 ^ 32

theorem inv_init : ({} : SmsHistory).Inv :=
  ⟨⟨.refl _, .nil, nofun, .nil⟩, rfl, nofun, nofun⟩

theorem Inv.step {h : SmsHistory} (hinv : h.Inv) {op : SmsStoreOp} (hnumber : h.Numbered op)
    (hevicts : EvictsOldest h.store op) : (h.step op).Inv := by
  cases op with
  | append pdu =>
    by_cases hpdu : Storable pdu
    · exact hinv.append hpdu (hnumber rfl) ((hinv.append_represents_iff pdu).mpr (hevicts hpdu))
    · rw [Inv.step_append_refused hpdu]
      exact hinv
  | delete index => exact hinv.delete index
  | read cap mode => exact hinv.readStep cap mode

theorem Inv.evictsOldest {h : SmsHistory} (hinv : h.Inv) {op : SmsStoreOp}
    (hafter : (h.step op).Disciplined) : EvictsOldest h.store op := by
  cases op with
  | append pdu =>
    intro hpdu
    have hrepresents := hafter.represents
    rw [Inv.step_append hpdu] at hrepresents
    exact (hinv.append_represents_iff pdu).mp hrepresents
  | delete index => trivial
  | read cap mode => trivial

theorem arrived_step_le (h : SmsHistory) (op : SmsStoreOp) :
    (h.step op).box.arrived ≤ h.box.arrived + [op].countP SmsStoreOp.isAppend := by
  cases op with
  | append pdu =>
    by_cases hpdu : Storable pdu
    · rw [Inv.step_append hpdu]
      exact Nat.le_refl _
    · rw [Inv.step_append_refused hpdu]
      exact Nat.le_succ _
  | delete index => exact Nat.le_refl _
  | read cap mode => exact Nat.le_refl _

theorem along_numbered (h : SmsHistory) (ops : List SmsStoreOp)
    (hcount : h.box.arrived + ops.countP SmsStoreOp.isAppend < 2 ^ 32) :
    Along SmsHistory.step Numbered h ops := by
  induction ops generalizing h with
  | nil => trivial
  | cons op ops ih =>
    rw [← List.singleton_append, List.countP_append] at hcount
    have hle := h.arrived_step_le op
    refine ⟨fun happend => ?_, ih _ (by omega)⟩
    have hone : [op].countP SmsStoreOp.isAppend = 1 := by simp [happend]
    omega

end SmsHistory

/-- As long as fewer than 2³² messages are appended, the store keeps them as the box does,
and returns none as new twice, exactly if every message that goes to a full store finds
the oldest one in slot zero. -/
theorem smsRun_disciplined_iff (ops : List SmsStoreOp)
    (hcount : ops.countP SmsStoreOp.isAppend < 2 ^ 32) :
    (∀ pre, pre <+: ops → (run SmsHistory.step {} pre).Disciplined) ↔
      Along SmsHistory.step (fun h op => EvictsOldest h.store op) {} ops :=
  (along_iff_property_within (fun _ hinv => hinv.toDisciplined)
    (fun _ _ hinv hnumber hevicts => hinv.step hnumber hevicts)
    (fun _ _ hinv _ hafter => hinv.evictsOldest hafter) SmsHistory.inv_init
    (SmsHistory.along_numbered {} ops (by rwa [Nat.zero_add]))).symm

/-- Nine messages, the first read and deleted before the last comes: its slot is free. -/
theorem smsRun_disciplined_deleted :
    (run SmsHistory.step {} (List.replicate 8 (.append [1]) ++
      [.read 4048 .queryNew, .delete 1, .append [2]])).Disciplined :=
  (smsRun_disciplined_iff _ (by decide)).mpr (by decide +kernel) _ (List.prefix_refl _)

/-- The tenth message replaces the ninth, and the second is still there. -/
theorem tenth_replaces_ninth :
    (run SmsHistory.step {} (List.replicate 10 (.append [1]))).store.stored.map (·.index) =
        [10, 2, 3, 4, 5, 6, 7, 8] ∧
      ¬ (run SmsHistory.step {} (List.replicate 10 (.append [1]))).Disciplined := by
  have hslots : (run SmsHistory.step {} (List.replicate 10 (.append [1]))).store.stored.map (·.index) =
      [10, 2, 3, 4, 5, 6, 7, 8] := by decide +kernel
  have hbox : (run SmsHistory.step {} (List.replicate 10 (.append [1]))).box.messages.map (·.index) =
      [3, 4, 5, 6, 7, 8, 9, 10] := by decide +kernel
  refine ⟨hslots, fun h => ?_⟩
  have hperm := h.represents.map (·.index)
  rw [hslots, hbox] at hperm
  exact absurd (hperm.mem_iff.mp (by decide : (2 : UInt32) ∈ [10, 2, 3, 4, 5, 6, 7, 8])) (by decide)

/-! ## Deleting for the host

An information buffer of SMS_DELETE has a flag and the number of a message.  The handler
looks for the number where SMS_READ has it, behind a format word, and takes a buffer
without such a word for the number zero. -/

/-- The messages a host names in a SMS_DELETE or SMS_READ. -/
inductive SmsFlag where
  | all
  | index
  | new
  | old
  deriving DecidableEq, Repr

def SmsFlag.ofWord (v : UInt32) : Option SmsFlag :=
  match v.toNat with
  | 0 => some .all
  | 1 => some .index
  | 2 => some .new
  | 3 => some .old
  | _ => none

def SmsFlag.names (flag : SmsFlag) (index : UInt32) (e : MbimSmsStoreEntry) : Bool :=
  match flag with
  | .all => true
  | .index => e.index = index
  | .new => e.unread
  | .old => !e.unread

/-- A SMS_DELETE whose information buffer has a flag and a number, or is too short. -/
structure IsSmsDelete (cmd : Bytes) (cmdLen : UInt32) : Prop where
  service : slice cmd 20 16 = uuidSms
  cid : getLe32 cmd 36 = 4
  header : 48 ≤ cmdLen.toNat
  buffer : cmdLen.toNat < 48 + 8 ∨
    (cmdLen.toNat = 48 + 8 ∧ (SmsFlag.ofWord (getLe32 cmd 48)).isSome = true)

/-- The buffer names the message: the flag is at offset zero, the number behind it. -/
def smsDeleteNames (cmd : Bytes) (cmdLen : UInt32) (e : MbimSmsStoreEntry) : Bool :=
  if cmdLen.toNat < 48 + 8 then false
  else
    match SmsFlag.ofWord (getLe32 cmd 48) with
    | some flag => flag.names (getLe32 cmd 52) e
    | none => false

/-- A buffer that is no longer than that leaves nothing in the store. -/
theorem mbimHandlersHandleCommand_smsDelete (acts : HandlerActions) (st : HandlerState) {cmd : Bytes}
    {cmdLen : UInt32} (h : IsSmsDelete cmd cmdLen) :
    ∃ r, mbimHandlersHandleCommand acts st cmd cmdLen = some r ∧
      r.st = { st with sms := smsStoreDelete st.sms 0 } := by
  have hheader : ¬ cmdLen < 48 := by
    rw [UInt32.lt_iff_toNat_lt]
    exact Nat.not_lt.mpr h.header
  have hshort : ¬ (if cmdLen > 48 then cmdLen - 48 else 0) ≥ 12 := by
    have hle : cmdLen.toNat ≤ 56 := by
      rcases h.buffer with hlt | ⟨heq, -⟩ <;> omega
    split
    · rename_i hlong
      rw [ge_iff_le, UInt32.le_iff_toNat_le, UInt32.toNat_sub_of_le _ _ (UInt32.le_of_lt hlong)]
      change ¬ 12 ≤ cmdLen.toNat - 48
      omega
    · decide
  unfold mbimHandlersHandleCommand
  rw [if_neg hheader]
  dsimp only
  rw [h.service, if_neg (by decide)]
  unfold handleVendorCommand
  dsimp only
  rw [h.service, if_neg (by decide), if_neg (by decide), if_pos rfl, h.cid]
  unfold smsCommand
  dsimp only
  rw [if_neg hshort]
  exact ⟨_, rfl, rfl⟩

/-- A SMS_DELETE removes what its buffer names exactly if that is every message. -/
theorem smsDelete_named_iff (acts : HandlerActions) (st : HandlerState) (cmd : Bytes)
    (cmdLen : UInt32) (h : IsSmsDelete cmd cmdLen) :
    (∃ r, mbimHandlersHandleCommand acts st cmd cmdLen = some r ∧
        r.st.sms.stored = st.sms.stored.filter fun e => !smsDeleteNames cmd cmdLen e) ↔
      ∀ e ∈ st.sms.stored, smsDeleteNames cmd cmdLen e = true := by
  obtain ⟨r, hr, hst⟩ := mbimHandlersHandleCommand_smsDelete acts st h
  have hempty : r.st.sms.stored = [] := by
    rw [hst]
    change (smsStoreDelete st.sms 0).stored = []
    rw [SmsStore.stored_delete]
    exact List.filter_eq_nil_iff.mpr fun e _ => by simp
  have hnamed : ([] = st.sms.stored.filter fun e => !smsDeleteNames cmd cmdLen e) ↔
      ∀ e ∈ st.sms.stored, smsDeleteNames cmd cmdLen e = true := by
    rw [eq_comm, List.filter_eq_nil_iff]
    simp only [Bool.not_eq_true', Bool.not_eq_false]
  rw [← hnamed, ← hempty]
  constructor
  · rintro ⟨r', hr', hstored⟩
    rwa [Option.some.inj (hr.symm.trans hr')]
  · exact fun hstored => ⟨r, hr, hstored⟩

/-- A SMS_DELETE with the two words of its information buffer. -/
def smsDeleteCommand (flag index : UInt32) : Bytes :=
  le32s [mbimCommandMsg, 56, 1, 1, 0] ++ uuidSms ++ le32s [4, 1, 8, flag, index]

/-- Two messages that were not read. -/
def twoMessages : HandlerState :=
  { sms := run smsStoreStep {} [.append [1], .append [2]] }

/-- Both are new, so a buffer that names the new ones is served. -/
theorem smsDelete_all_new :
    ∃ r, mbimHandlersHandleCommand noSms twoMessages (smsDeleteCommand 2 0) 56 = some r ∧
      r.st.sms.stored =
        twoMessages.sms.stored.filter fun e => !smsDeleteNames (smsDeleteCommand 2 0) 56 e :=
  (smsDelete_named_iff noSms twoMessages (smsDeleteCommand 2 0) 56
    ⟨by decide +kernel, by decide +kernel, by decide, .inr ⟨rfl, by decide +kernel⟩⟩).mpr
    (by decide +kernel)

/-- A buffer that names the first message takes the second one with it. -/
theorem smsDelete_index_removes_both :
    (mbimHandlersHandleCommand noSms twoMessages (smsDeleteCommand 1 1) 56).map
        (fun r => r.st.sms.stored.map (·.index)) = some [] ∧
      (twoMessages.sms.stored.filter fun e => !smsDeleteNames (smsDeleteCommand 1 1) 56 e).map
        (·.index) = [2] := by
  decide +kernel

end VirtualLte.Mbim
