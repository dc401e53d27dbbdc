import VirtualLte.Lib.Run
import VirtualLte.Mbim.Records

/-!
# The SMS_READ information buffer

What `sms_build_read_info` writes, for every store, read mode and capacity.

* `smsBuildReadInfo_below` and `mbimWireFinalize_read`: where the buffer is written, and
  when it is returned.
* `smsBuildReadInfo_holds` and `HoldsMessages.lists`: the host finds the selected messages
  in it.
* `smsBuildReadInfo_atomic_iff` says for which stores the read is bounded and atomic.
-/

namespace VirtualLte.Mbim

open Transition

variable {b : MbimWireBuilder} {e : MbimSmsStoreEntry}

/-! ## The whole buffer -/

/-- The octets of the information. -/
def SmsStore.readInfoSize (store : SmsStore) (mode : SmsReadMode) : Nat :=
  8 + (store.selected mode).length * 8 + recordsSize (store.selected mode)

/-- Every PDU is no longer than its slot. -/
def SmsStore.Wf (store : SmsStore) : Prop := ∀ e ∈ store.slots.toList, e.Short

theorem SmsStore.Wf.selected {store : SmsStore} (h : store.Wf) (mode : SmsReadMode) :
    ∀ e ∈ store.selected mode, e.Short := fun e he => h e (List.mem_filter.mp he).1

theorem SmsStore.selected_length_le (store : SmsStore) (mode : SmsReadMode) :
    (store.selected mode).length ≤ 8 := by
  have hslots : store.slots.toList.length = 8 := Vector.length_toList
  exact hslots ▸ List.length_filter_le _ _

/-- The buffer in front of the records: the fixed part and room for `count` references. -/
def readStart (cap : UInt32) (count : Nat) : MbimWireBuilder :=
  (mbimWireReserve (mbimWireReserve (mbimWireInit cap) 8).2 (8 * UInt32.ofNat count)).2

theorem mbimWireReserve_init {cap : UInt32} (hcap : 8 ≤ cap.toNat) :
    mbimWireReserve (mbimWireInit cap) 8 =
      (0, { cap, len := 8, buf := WriteLog.clear 0 0 8 [] }) := by
  have hroom : (mbimWireInit cap).len.toNat + (8 : UInt32).toNat ≤ (mbimWireInit cap).cap.toNat := by
    change 0 + 8 ≤ cap.toNat
    omega
  rw [mbimWireReserve_fits hroom]
  rfl

/-- Every read marks what it selects. -/
theorem smsBuildReadInfo_store (store : SmsStore) (cap : UInt32) (mode : SmsReadMode) :
    (smsBuildReadInfo store cap mode).2 =
      { store with slots := store.slots.map (·.afterRead mode) } := by
  have hslots : (Vector.ofFn fun i : Fin mbimSmsStoreMax =>
      (store.slots.toList.map (·.afterRead mode)).getD i.val {}) =
        store.slots.map (·.afterRead mode) := by
    ext i hi : 1
    simp [List.getD_eq_getElem?_getD]
  unfold smsBuildReadInfo
  dsimp only
  rw [← Nat.zero_add (store.slots.toList.countP _), smsWriteRecords_eq]
  dsimp only
  rw [hslots]

theorem smsBuildReadInfo_builder {cap : UInt32} (store : SmsStore) (mode : SmsReadMode)
    (hcap : 8 ≤ cap.toNat) :
    (smsBuildReadInfo store cap mode).1 =
      ((writeAll 8 (store.selected mode) (readStart cap (store.selected mode).length) 0).putLe32
        0 0).putLe32 4 (UInt32.ofNat (store.selected mode).length) := by
  have hfirst : (mbimWireReserve (mbimWireInit cap) 8).2.len = 8 := by
    rw [mbimWireReserve_init hcap]
  have hloop := smsWriteRecords_eq mode 8 store.slots.toList
    (readStart cap (store.selected mode).length) 0
  rw [Nat.zero_add, List.countP_eq_length_filter] at hloop
  unfold readStart SmsStore.selected at hloop
  unfold smsBuildReadInfo readStart SmsStore.selected
  dsimp only
  rw [mbimWireReserve_fst, hfirst, List.countP_eq_length_filter, hloop]

theorem refs_toNat {count : Nat} (hcount : count ≤ 8) : (8 * UInt32.ofNat count).toNat = count * 8 := by
  have hnat : (UInt32.ofNat count).toNat = count := by
    rw [UInt32.toNat_ofNat']
    exact Nat.mod_eq_of_lt (by omega)
  rw [UInt32.toNat_mul, hnat]
  change 8 * count % 2 ^ 32 = count * 8
  omega

theorem readStart_cap (cap : UInt32) (count : Nat) : (readStart cap count).cap = cap := by
  unfold readStart
  rw [mbimWireReserve_cap, mbimWireReserve_cap]
  rfl

section Start

variable {cap : UInt32} {count : Nat} (hcap : 8 ≤ cap.toNat) (hcount : count ≤ 8)
include hcap hcount

theorem readStart_fits (h : 8 + count * 8 ≤ cap.toNat) :
    (readStart cap count).len.toNat = 8 + count * 8 ∧
      (readStart cap count).overflow = false ∧ (readStart cap count).Below cap.toNat := by
  have hroom : (8 : UInt32).toNat + (8 * UInt32.ofNat count).toNat ≤ cap.toNat := by
    rw [refs_toNat hcount]
    exact h
  have hfirst : WriteLog.Below (WriteLog.clear (0 : UInt8) 0 8 []) cap.toNat :=
    WriteLog.below_clear.mpr ⟨fun _ => by omega, WriteLog.below_nil _⟩
  unfold readStart
  rw [mbimWireReserve_init hcap, mbimWireReserve_fits hroom]
  refine ⟨?_, rfl, WriteLog.below_clear.mpr ⟨fun _ => hroom, hfirst⟩⟩
  dsimp only
  rw [toNat_add_of_le hroom, refs_toNat hcount]
  rfl

theorem readStart_overflows (h : cap.toNat < 8 + count * 8) :
    (readStart cap count).overflow = true := by
  have hover : cap.toNat < (8 : UInt32).toNat + (8 * UInt32.ofNat count).toNat := by
    rw [refs_toNat hcount]
    exact h
  unfold readStart
  rw [mbimWireReserve_init hcap, mbimWireReserve_overflows hover]

end Start

section Read

variable {store : SmsStore} {cap : UInt32} {mode : SmsReadMode} (hwf : store.Wf)
  (hcap : 8 ≤ cap.toNat)
include hwf hcap

theorem smsBuildReadInfo_below :
    (smsBuildReadInfo store cap mode).1.Below cap.toNat ↔
      8 + (store.selected mode).length * 8 ≤ cap.toNat ∧
        HeadersFit cap.toNat (8 + (store.selected mode).length * 8) (store.selected mode) := by
  have hcount := store.selected_length_le mode
  have hloop := @writeAll_below (readStart cap (store.selected mode).length) 8 0 _ (hwf.selected mode)
  rw [readStart_cap, Nat.zero_add] at hloop
  have hwords : (smsBuildReadInfo store cap mode).1.Below cap.toNat ↔
      (writeAll 8 (store.selected mode) (readStart cap (store.selected mode).length) 0).Below
        cap.toNat := by
    rw [smsBuildReadInfo_builder store mode hcap]
    simp only [MbimWireBuilder.putLe32, MbimWireBuilder.put, MbimWireBuilder.Below,
      WriteLog.below_write, putLe32_length]
    exact ⟨fun h => h.2.2, fun h => ⟨fun _ => by omega, fun _ => by omega, h⟩⟩
  rw [hwords, hloop]
  constructor
  · rintro ⟨-, hfit, hrefs⟩
    have hroom : 8 + (store.selected mode).length * 8 ≤ cap.toNat := by
      by_cases hnone : store.selected mode = []
      · rw [hnone]
        exact hcap
      · exact hrefs hnone
    rw [(readStart_fits hcap hcount hroom).1] at hfit
    exact ⟨hroom, hfit⟩
  · rintro ⟨hroom, hfit⟩
    obtain ⟨hlen, -, hbelow⟩ := readStart_fits hcap hcount hroom
    rw [hlen]
    exact ⟨hbelow, hfit, fun _ => hroom⟩

/-- The octets are returned exactly when they fit. -/
theorem mbimWireFinalize_read :
    mbimWireFinalize (smsBuildReadInfo store cap mode).1 =
      decide (store.readInfoSize mode ≤ cap.toNat) := by
  have hcount := store.selected_length_le mode
  rw [smsBuildReadInfo_builder store mode hcap, Bool.eq_iff_iff, decide_eq_true_eq]
  generalize hb : writeAll 8 (store.selected mode) (readStart cap (store.selected mode).length) 0 = b
  have hcapb : b.cap = cap := by rw [← hb, writeAll_cap, readStart_cap]
  have hfinal : mbimWireFinalize ((b.putLe32 0 0).putLe32 4 (UInt32.ofNat (store.selected mode).length)) =
      true ↔ b.overflow = false ∧ b.len.toNat ≤ cap.toNat := by
    change (!(b.overflow || decide (b.len > b.cap))) = true ↔ _
    rw [hcapb, Bool.not_eq_true', Bool.or_eq_false_iff, decide_eq_false_iff_not, gt_iff_lt,
      UInt32.not_lt, UInt32.le_iff_toNat_le]
  rw [hfinal]
  unfold SmsStore.readInfoSize
  constructor
  · rintro ⟨hflag, -⟩
    rw [← hb] at hflag
    obtain ⟨hstart, hrest⟩ := writeAll_overflow (hwf.selected mode) hflag
    have hroom : 8 + (store.selected mode).length * 8 ≤ cap.toNat := by
      by_contra hover
      rw [readStart_overflows hcap hcount (Nat.not_le.mp hover)] at hstart
      cases hstart
    rw [(readStart_fits hcap hcount hroom).1, readStart_cap] at hrest
    by_cases hnone : store.selected mode = []
    · rw [hnone]
      exact hcap
    · exact hrest hnone
  · intro hfits
    obtain ⟨hlen, hflag, -⟩ := readStart_fits hcap hcount (by omega)
    have hall := @writeAll_fits (readStart cap (store.selected mode).length) 8 0 _
      (hwf.selected mode)
    rw [hb, hlen, hflag, readStart_cap] at hall
    obtain ⟨hsize, hclear⟩ := hall hfits
    exact ⟨hclear, by omega⟩

end Read

/-! ## What the host finds -/

/-- The pair at `pos` refers to a record of `e` inside the information. -/
structure NamesMessage (info : Bytes) (pos : Nat) (e : MbimSmsStoreEntry) : Prop where
  reference : pos + 8 ≤ info.length
  inside : (getLe32 info pos).toNat + (getLe32 info (pos + 4)).toNat ≤ info.length
  header : 16 ≤ (getLe32 info (pos + 4)).toNat
  index : getLe32 info (getLe32 info pos).toNat = e.index
  status : getLe32 info ((getLe32 info pos).toNat + 4) = e.status
  /-- The PDU is inside its record. -/
  pduInside : (getLe32 info ((getLe32 info pos).toNat + 8)).toNat +
    (getLe32 info ((getLe32 info pos).toNat + 12)).toNat ≤ (getLe32 info (pos + 4)).toNat
  pdu : slice info ((getLe32 info pos).toNat + (getLe32 info ((getLe32 info pos).toNat + 8)).toNat)
    (getLe32 info ((getLe32 info pos).toNat + 12)).toNat = e.pdu

/-- The information lists the messages `es` in this order. -/
structure ListsMessages (info : Bytes) (es : List MbimSmsStoreEntry) : Prop where
  format : getLe32 info 0 = 0
  count : getLe32 info 4 = UInt32.ofNat es.length
  names : ∀ i e, es[i]? = some e → NamesMessage info (8 + i * 8) e

/-- What a builder holds, the host reads. -/
theorem MbimWireBuilder.HoldsRecord.names {pos off : Nat} (h : b.HoldsRecord pos off e)
    (hshort : e.Short) (href : pos + 8 ≤ b.len.toNat) (hrec : off + e.recordSize ≤ b.len.toNat) :
    NamesMessage b.info pos e := by
  have hshort' : e.pdu.length ≤ 256 := hshort
  have hpad := le_align4 e.pdu.length
  have hpad' := align4_le e.pdu.length
  have hsize : e.recordSize = 16 + align4 e.pdu.length := rfl
  have hlt := b.len.toNat_lt
  have hnat : ∀ n, n < 2 ^ 32 → (UInt32.ofNat n).toNat = n := fun n hn => by
    rw [UInt32.toNat_ofNat']
    exact Nat.mod_eq_of_lt hn
  obtain ⟨hwords, hheader, hpdu⟩ := h
  simp only [holds_le32s_cons] at hwords hheader
  obtain ⟨hoff, hlen, -⟩ := hwords
  obtain ⟨hindex, hstatus, hpduOff, hpduLen, -⟩ := hheader
  have hoff' : (getLe32 b.info pos).toNat = off := by
    rw [getLe32_info hoff (by omega)]
    exact hnat off (by omega)
  have hlen' : (getLe32 b.info (pos + 4)).toNat = e.recordSize := by
    rw [getLe32_info hlen (by omega)]
    exact hnat _ (by omega)
  have hpduOff' : (getLe32 b.info (off + 8)).toNat = 16 := by
    rw [show off + 8 = off + 4 + 4 from rfl, getLe32_info hpduOff (by omega)]
    rfl
  have hpduLen' : (getLe32 b.info (off + 12)).toNat = e.pdu.length := by
    rw [show off + 12 = off + 4 + 4 + 4 from rfl, getLe32_info hpduLen (by omega)]
    exact hnat _ (by omega)
  constructor
  · rw [info_length]
    exact href
  · rw [hoff', hlen', info_length]
    exact hrec
  · rw [hlen']
    omega
  · rw [hoff', getLe32_info hindex (by omega)]
  · rw [hoff', getLe32_info hstatus (by omega)]
  · rw [hoff', hpduOff', hpduLen', hlen']
    omega
  · rw [hoff', hpduOff', hpduLen']
    exact slice_info hpdu (by omega)

theorem MbimWireBuilder.HoldsRecord.putLe32 {pos off : Nat} (h : b.HoldsRecord pos off e)
    (off' : Nat) (v : UInt32) (hpos : off' + 4 ≤ pos) (hoff : off' + 4 ≤ off) :
    (b.putLe32 off' v).HoldsRecord pos off e :=
  ⟨.write h.reference (.inr hpos), .write h.header (.inr hoff),
    .write h.pdu (.inr (Nat.le_add_right_of_le hoff))⟩

theorem recordsSize_take_le {es : List MbimSmsStoreEntry} {i : Nat} (h : es[i]? = some e) :
    recordsSize (es.take i) + e.recordSize ≤ recordsSize es := by
  induction es generalizing i with
  | nil => cases h
  | cons e' es ih =>
    cases i with
    | zero =>
      obtain rfl : e' = e := Option.some.inj h
      rw [recordsSize_cons]
      exact Nat.le_trans (Nat.le_of_eq (Nat.zero_add _)) (Nat.le_add_right _ _)
    | succ i =>
      rw [List.take_succ_cons, recordsSize_cons, recordsSize_cons, Nat.add_assoc]
      exact Nat.add_le_add_left (ih h) _

/-- The buffer of a read that fits: its length, its two words, and the record of each
selected message behind those of the messages before it. -/
structure HoldsMessages (b : MbimWireBuilder) (es : List MbimSmsStoreEntry) : Prop where
  len : b.len.toNat = 8 + es.length * 8 + recordsSize es
  words : b.Holds 0 (le32s [0, UInt32.ofNat es.length])
  record : ∀ i e, es[i]? = some e →
    b.HoldsRecord (8 + i * 8) (8 + es.length * 8 + recordsSize (es.take i)) e

theorem smsBuildReadInfo_holds {store : SmsStore} {cap : UInt32} {mode : SmsReadMode}
    (hwf : store.Wf) (hcap : 8 ≤ cap.toNat) (hfits : store.readInfoSize mode ≤ cap.toNat) :
    HoldsMessages (smsBuildReadInfo store cap mode).1 (store.selected mode) := by
  have hcount := store.selected_length_le mode
  unfold SmsStore.readInfoSize at hfits
  obtain ⟨hstart, hflag, -⟩ := readStart_fits hcap hcount (by omega)
  have hroom : (readStart cap (store.selected mode).length).len.toNat +
      recordsSize (store.selected mode) ≤ (readStart cap (store.selected mode).length).cap.toNat := by
    rw [hstart, readStart_cap]
    exact hfits
  obtain ⟨hlen, -⟩ := @writeAll_fits _ 8 0 _ (hwf.selected mode) hroom
  rw [hstart] at hlen
  rw [smsBuildReadInfo_builder store mode hcap]
  refine ⟨hlen, ?_, fun i e hi => ?_⟩
  · refine MbimWireBuilder.holds_le32s_cons.mpr
      ⟨.write (WriteLog.holds_write _ _ _) (.inl (Nat.le_refl 4)), WriteLog.holds_write _ _ _⟩
  · have hidx : i < (store.selected mode).length := (List.getElem?_eq_some_iff.mp hi).1
    have hrefs : (8 : UInt32).toNat + (0 + (store.selected mode).length) * 8 ≤
        (readStart cap (store.selected mode).length).len.toNat := by
      rw [hstart, Nat.zero_add]
      exact Nat.le_refl _
    have hheld := @writeAll_held _ _ 8 0 _ (hwf.selected mode) hflag hroom hrefs i hi
    rw [hstart, Nat.zero_add, show (8 : UInt32).toNat = 8 from rfl] at hheld
    -- the two words in front are written last
    have hformat := hheld.putLe32 0 0 (by omega) (by omega)
    exact hformat.putLe32 4 (UInt32.ofNat (store.selected mode).length) (by omega) (by omega)

/-- When everything fits, the host finds the selected messages. -/
theorem HoldsMessages.lists {es : List MbimSmsStoreEntry} (h : HoldsMessages b es)
    (hshort : ∀ e ∈ es, e.Short) : ListsMessages b.info es := by
  have hlen := h.len
  obtain ⟨hformat, hcount⟩ := MbimWireBuilder.holds_le32s_cons.mp h.words
  refine ⟨MbimWireBuilder.getLe32_info hformat (by omega),
    MbimWireBuilder.getLe32_info (MbimWireBuilder.holds_le32s_cons.mp hcount).1 (by omega),
    fun i e hi => ?_⟩
  have hin := recordsSize_take_le hi
  have hidx : i < es.length := (List.getElem?_eq_some_iff.mp hi).1
  exact (h.record i e hi).names (hshort e (List.mem_of_getElem? hi)) (by omega) (by omega)

/-! ## Reads of a reachable store -/

/-- One use of the store by the handlers or by the bridge. -/
inductive SmsStoreOp where
  | append (pdu : Bytes)
  | delete (index : UInt32)
  | read (outCap : UInt32) (mode : SmsReadMode)
  deriving DecidableEq, Repr

def smsStoreStep (store : SmsStore) : SmsStoreOp → SmsStore
  | .append pdu => ((mbimHandlersSmsStoreAppend store pdu).map (·.2)).getD store
  | .delete index => smsStoreDelete store index
  | .read outCap mode => (smsBuildReadInfo store outCap mode).2

theorem SmsStore.wf_init : ({} : SmsStore).Wf := by
  intro e he
  rw [show ({} : SmsStore).slots.toList = List.replicate 8 {} from rfl, List.mem_replicate] at he
  rw [he.2]
  exact Nat.zero_le _

theorem SmsStore.Wf.step {store : SmsStore} (h : store.Wf) (op : SmsStoreOp) :
    (smsStoreStep store op).Wf := by
  cases op with
  | append pdu =>
    unfold smsStoreStep mbimHandlersSmsStoreAppend
    by_cases hbad : pdu.length = 0 ∨ pdu.length > mbimSmsPduMax
    · simp only [if_pos hbad]
      exact h
    · simp only [if_neg hbad]
      intro e he
      rw [Option.map_some, Option.getD_some, Vector.toList_setIfInBounds] at he
      rcases List.mem_or_eq_of_mem_set he with hold | rfl
      · exact h e hold
      · exact Nat.not_lt.mp fun hlong => hbad (.inr hlong)
  | delete index =>
    intro e he
    simp only [smsStoreStep, smsStoreDelete, Vector.toList_map, List.mem_map] at he
    obtain ⟨old, hold, rfl⟩ := he
    split
    · exact Nat.zero_le _
    · exact h old hold
  | read outCap mode =>
    intro e he
    simp only [smsStoreStep, smsBuildReadInfo_store, Vector.toList_map, List.mem_map] at he
    obtain ⟨old, hold, rfl⟩ := he
    unfold MbimSmsStoreEntry.afterRead MbimSmsStoreEntry.mark
    split
    · cases mode <;> exact h old hold
    · exact h old hold

theorem SmsStore.wf_run (ops : List SmsStoreOp) : (run smsStoreStep {} ops).Wf :=
  run_invariant (fun _ op h _ => h.step op) SmsStore.wf_init (along_of_forall (fun _ _ => trivial) _ _)

/-- A read that is bounded and atomic. -/
structure ReadsAtomically (store : SmsStore) (cap : UInt32) (mode : SmsReadMode) : Prop where
  bounded : (smsBuildReadInfo store cap mode).1.Below cap.toNat
  /-- Information that does not fit is not returned, and no message is marked. -/
  refused : cap.toNat < store.readInfoSize mode →
    smsReadInfo (smsBuildReadInfo store cap mode).1 = [] ∧
      ∀ i : Fin mbimSmsStoreMax,
        ((smsBuildReadInfo store cap mode).2.slots.get i).unread = (store.slots.get i).unread ∧
          ((smsBuildReadInfo store cap mode).2.slots.get i).notified = (store.slots.get i).notified
  complete : store.readInfoSize mode ≤ cap.toNat →
    ListsMessages (smsReadInfo (smsBuildReadInfo store cap mode).1) (store.selected mode)

/-- A read that marks nothing, of messages whose headers have room although their PDUs
have not. -/
def SmsStore.Rereads (store : SmsStore) (cap : UInt32) (mode : SmsReadMode) : Prop :=
  mode = .query ∧ (∀ e ∈ store.selected mode, e.unread = false) ∧
    8 + (store.selected mode).length * 8 ≤ cap.toNat ∧
    HeadersFit cap.toNat (8 + (store.selected mode).length * 8) (store.selected mode)

/-- A read of any kind changes a mark of what it selects, except for old messages. -/
theorem MbimSmsStoreEntry.afterRead_marks (e : MbimSmsStoreEntry) (mode : SmsReadMode) :
    ((e.afterRead mode).unread = e.unread ∧ (e.afterRead mode).notified = e.notified) ↔
      (smsEntryIncluded e mode = true → mode = .query ∧ e.unread = false) := by
  obtain ⟨used, unread, notified, index, pdu⟩ := e
  unfold MbimSmsStoreEntry.afterRead MbimSmsStoreEntry.mark smsEntryIncluded
  cases mode <;> cases used <;> cases unread <;> cases notified <;> simp

/-- Only a read of what the host has already read leaves every mark as it is. -/
theorem marks_kept_iff {store : SmsStore} {cap : UInt32} {mode : SmsReadMode}
    (hsome : store.selected mode ≠ []) :
    (∀ i : Fin mbimSmsStoreMax,
      ((smsBuildReadInfo store cap mode).2.slots.get i).unread = (store.slots.get i).unread ∧
        ((smsBuildReadInfo store cap mode).2.slots.get i).notified = (store.slots.get i).notified) ↔
      mode = .query ∧ ∀ e ∈ store.selected mode, e.unread = false := by
  have hslot : ∀ i : Fin mbimSmsStoreMax,
      (smsBuildReadInfo store cap mode).2.slots.get i = (store.slots.get i).afterRead mode := by
    intro i
    rw [smsBuildReadInfo_store]
    exact Vector.getElem_map ..
  simp only [hslot, MbimSmsStoreEntry.afterRead_marks]
  constructor
  · intro h
    have hall : ∀ e ∈ store.selected mode, mode = .query ∧ e.unread = false := by
      intro e he
      obtain ⟨hmem, hin⟩ := List.mem_filter.mp he
      obtain ⟨i, hi, rfl⟩ := Vector.getElem_of_mem (Vector.mem_toList_iff.mp hmem)
      exact h ⟨i, hi⟩ hin
    obtain ⟨e, he⟩ := List.exists_mem_of_ne_nil _ hsome
    exact ⟨(hall e he).1, fun e he => (hall e he).2⟩
  · rintro ⟨hmode, hold⟩ i hin
    exact ⟨hmode, hold _ (List.mem_filter.mpr ⟨Vector.mem_toList_iff.mpr (Vector.getElem_mem _), hin⟩)⟩

/-- A read of the store as it is after any uses is bounded and atomic if the information
fits.  Otherwise it is so only if no mark would change and every header has room. -/
theorem smsBuildReadInfo_atomic_iff (ops : List SmsStoreOp) {cap : UInt32} (mode : SmsReadMode)
    (hcap : 8 ≤ cap.toNat) :
    ReadsAtomically (run smsStoreStep {} ops) cap mode ↔
      (run smsStoreStep {} ops).readInfoSize mode ≤ cap.toNat ∨
        (run smsStoreStep {} ops).Rereads cap mode := by
  have hwf := SmsStore.wf_run ops
  generalize run smsStoreStep {} ops = store at hwf
  by_cases hfits : store.readInfoSize mode ≤ cap.toNat
  · refine iff_of_true ?_ (.inl hfits)
    have hinfo : smsReadInfo (smsBuildReadInfo store cap mode).1 =
        (smsBuildReadInfo store cap mode).1.info := by
      rw [smsReadInfo, mbimWireFinalize_read hwf hcap, decide_eq_true hfits, if_pos rfl]
    refine ⟨?_, fun hover => absurd hfits (Nat.not_le.mpr hover), fun _ => ?_⟩
    · have hroom := hfits
      unfold SmsStore.readInfoSize at hroom
      exact (smsBuildReadInfo_below hwf hcap).mpr ⟨by omega, headersFit_of_size hroom⟩
    · rw [hinfo]
      exact (smsBuildReadInfo_holds hwf hcap hfits).lists (hwf.selected mode)
  · have hempty : smsReadInfo (smsBuildReadInfo store cap mode).1 = [] := by
      rw [smsReadInfo, mbimWireFinalize_read hwf hcap, decide_eq_false hfits, if_neg (by decide)]
    have hsome : store.selected mode ≠ [] := by
      intro hnone
      unfold SmsStore.readInfoSize at hfits
      rw [hnone] at hfits
      exact hfits hcap
    rw [or_iff_right hfits]
    constructor
    · rintro ⟨hbounded, hrefused, -⟩
      obtain ⟨hmode, hold⟩ := (marks_kept_iff hsome).mp (hrefused (Nat.not_le.mp hfits)).2
      exact ⟨hmode, hold, (smsBuildReadInfo_below hwf hcap).mp hbounded⟩
    · rintro ⟨hmode, hold, hbelow⟩
      exact ⟨(smsBuildReadInfo_below hwf hcap).mpr hbelow,
        fun _ => ⟨hempty, (marks_kept_iff hsome).mpr ⟨hmode, hold⟩⟩, fun h => absurd h hfits⟩

/-- One short message, pushed in the buffer of the indication. -/
theorem smsBuildReadInfo_atomic_short :
    ReadsAtomically (run smsStoreStep {} [.append [1, 2, 3]]) 512 .notify :=
  (smsBuildReadInfo_atomic_iff [.append [1, 2, 3]] .notify (by decide)).mpr
    (.inl (by decide +kernel))

/-- Three messages that come together do not fit the buffer of the indication.  The
header of the last one starts at 504. -/
theorem smsReadIndication_overruns :
    ¬ ∀ (ops : List SmsStoreOp) (cap : UInt32) (mode : SmsReadMode), 8 ≤ cap.toNat →
      ReadsAtomically (run smsStoreStep {} ops) cap mode := by
  intro h
  have hread := h [.append (List.replicate 256 0), .append (List.replicate 184 0), .append [0]] 512
    .notify (by decide)
  have hbelow := (smsBuildReadInfo_below (SmsStore.wf_run _) (by decide)).mp hread.bounded
  exact absurd hbelow (by decide +kernel)

end VirtualLte.Mbim
