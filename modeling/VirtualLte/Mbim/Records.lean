import VirtualLte.Mbim.Builder
import VirtualLte.Mbim.SmsStore

/-!
# The records of an SMS_READ

The loop of `sms_build_read_info`, for any messages and any room.

* `smsWriteRecord_below` and `smsWriteRecord_overflow` say when one record stays inside
  the capacity; the header of a record is written whether it was reserved or not.
* `smsWriteRecords_eq`: the loop writes the selected messages, in slot order.
* `writeAll_below` and `writeAll_overflow` are the same facts for all records.
* `writeAll_held`: when everything fits, every record and every reference is there.
-/

namespace VirtualLte.Mbim

/-! ## The records -/

def MbimSmsStoreEntry.status (e : MbimSmsStoreEntry) : UInt32 := if e.unread then 0 else 1

/-- The octets of one record. -/
def MbimSmsStoreEntry.recordSize (e : MbimSmsStoreEntry) : Nat := 16 + align4 e.pdu.length

def recordsSize (es : List MbimSmsStoreEntry) : Nat := (es.map (·.recordSize)).sum

/-- The PDU is no longer than a slot of the store. -/
def MbimSmsStoreEntry.Short (e : MbimSmsStoreEntry) : Prop := e.pdu.length ≤ mbimSmsPduMax

@[simp] theorem recordsSize_cons (e : MbimSmsStoreEntry) (es : List MbimSmsStoreEntry) :
    recordsSize (e :: es) = e.recordSize + recordsSize es :=
  List.sum_cons

theorem MbimSmsStoreEntry.Short.padded {e : MbimSmsStoreEntry} (h : e.Short) :
    (mbimAlign4 (UInt32.ofNat e.pdu.length)).toNat = align4 e.pdu.length := by
  have hshort : e.pdu.length ≤ 256 := h
  have hnat : (UInt32.ofNat e.pdu.length).toNat = e.pdu.length := by
    rw [UInt32.toNat_ofNat']
    exact Nat.mod_eq_of_lt (by omega)
  rw [mbimAlign4_toNat (by omega), hnat]

variable {b : MbimWireBuilder} {e : MbimSmsStoreEntry} {reflistOff : UInt32} {written bound : Nat}

/-- The reservations of a record and its PDU: the offset of the PDU and the buffer. -/
def recordBody (b : MbimWireBuilder) (e : MbimSmsStoreEntry) : UInt32 × MbimWireBuilder :=
  let (recOff, b) := mbimWireReserve b 16
  let b := { b with frameBase := recOff }
  let (pduOff, b) := mbimWireReserve b (mbimAlign4 (UInt32.ofNat e.pdu.length))
  (pduOff, if b.overflow then b else b.put pduOff.toNat e.pdu)

/-- The writes of a record behind its reservations, which no flag guards. -/
def recordHead (b : MbimWireBuilder) (recOff pduOff reflistOff : UInt32) (written : Nat)
    (e : MbimSmsStoreEntry) : MbimWireBuilder :=
  { b with
    frameBase := 0
    buf := (reflistOff.toNat + written * 8, le32s [recOff, b.len - recOff]) ::
      (recOff.toNat + 8, le32s [pduOff - recOff, UInt32.ofNat e.pdu.length]) ::
      (recOff.toNat + 4, putLe32 e.status) :: (recOff.toNat, putLe32 e.index) :: b.buf }

theorem smsWriteRecord_eq (b : MbimWireBuilder) (reflistOff : UInt32) (written : Nat)
    (e : MbimSmsStoreEntry) :
    smsWriteRecord b reflistOff written e =
      recordHead (recordBody b e).2 b.len (recordBody b e).1 reflistOff written e := by
  rw [← mbimWireReserve_fst b 16]
  rfl

/-! ### With room for the header -/

theorem header_room (hroom : b.len.toNat + e.recordSize ≤ b.cap.toNat) :
    b.len.toNat + 16 ≤ b.cap.toNat := by
  unfold MbimSmsStoreEntry.recordSize at hroom
  omega

/-- The buffer between the two reservations of a record. -/
def headerReserved (b : MbimWireBuilder) : MbimWireBuilder :=
  { b with
    len := b.len + 16
    frameBase := b.len
    buf := WriteLog.clear 0 b.len.toNat 16 b.buf }

section Header

variable (hhead : b.len.toNat + 16 ≤ b.cap.toNat)
include hhead

theorem headerReserved_len : (headerReserved b).len.toNat = b.len.toNat + 16 :=
  toNat_add_of_le (b := 16) hhead

theorem recordBody_eq : recordBody b e =
    let (pduOff, b') := mbimWireReserve (headerReserved b) (mbimAlign4 (UInt32.ofNat e.pdu.length))
    (pduOff, if b'.overflow then b' else b'.put pduOff.toNat e.pdu) := by
  unfold recordBody
  rw [mbimWireReserve_fits (n := 16) hhead]
  rfl

/-- The PDU does not fit. -/
theorem recordBody_stops (hshort : e.Short)
    (hroom : b.cap.toNat < b.len.toNat + e.recordSize) :
    recordBody b e = (b.len + 16, { headerReserved b with overflow := true }) := by
  have hbody : (headerReserved b).cap.toNat <
      (headerReserved b).len.toNat + (mbimAlign4 (UInt32.ofNat e.pdu.length)).toNat := by
    rw [headerReserved_len hhead, hshort.padded, Nat.add_assoc]
    exact hroom
  rw [recordBody_eq hhead, mbimWireReserve_overflows hbody]
  rfl

theorem smsWriteRecord_stops (hshort : e.Short)
    (hroom : b.cap.toNat < b.len.toNat + e.recordSize) :
    (smsWriteRecord b reflistOff written e).len.toNat = b.len.toNat + 16 := by
  rw [smsWriteRecord_eq, recordBody_stops hhead hshort hroom]
  exact headerReserved_len hhead

end Header

/-- All of the record fits. -/
theorem recordBody_fits (hshort : e.Short) (hroom : b.len.toNat + e.recordSize ≤ b.cap.toNat) :
    recordBody b e = (b.len + 16, { headerReserved b with
      len := b.len + 16 + mbimAlign4 (UInt32.ofNat e.pdu.length)
      buf := (if b.overflow then [] else [(b.len.toNat + 16, e.pdu)]) ++
        WriteLog.clear 0 (b.len.toNat + 16) (align4 e.pdu.length)
          (WriteLog.clear 0 b.len.toNat 16 b.buf) }) := by
  have hhead := headerReserved_len (header_room hroom)
  have hbody : (headerReserved b).len.toNat + (mbimAlign4 (UInt32.ofNat e.pdu.length)).toNat ≤
      (headerReserved b).cap.toNat := by
    rw [hhead, hshort.padded, Nat.add_assoc]
    exact hroom
  rw [recordBody_eq (header_room hroom), mbimWireReserve_fits hbody, hshort.padded, hhead]
  dsimp only
  rw [hhead]
  cases hflag : b.overflow with
  | true => simp [headerReserved, hflag]
  | false => simp [headerReserved, hflag, MbimWireBuilder.put]

theorem smsWriteRecord_fits (reflistOff : UInt32) (written : Nat) (hshort : e.Short)
    (hroom : b.len.toNat + e.recordSize ≤ b.cap.toNat) :
    (smsWriteRecord b reflistOff written e).len.toNat = b.len.toNat + e.recordSize := by
  have hpadded := hshort.padded
  have hbase : (b.len + 16).toNat = b.len.toNat + 16 := headerReserved_len (header_room hroom)
  rw [smsWriteRecord_eq, recordBody_fits hshort hroom]
  dsimp only [recordHead]
  unfold MbimSmsStoreEntry.recordSize at hroom ⊢
  have hbody : (b.len + 16).toNat + (mbimAlign4 (UInt32.ofNat e.pdu.length)).toNat ≤
      b.cap.toNat := by
    rw [hbase, hpadded, Nat.add_assoc]
    exact hroom
  rw [toNat_add_of_le hbody, hbase, hpadded, Nat.add_assoc]

/-! ### In any case -/

theorem smsWriteRecord_cap (b : MbimWireBuilder) (reflistOff : UInt32) (written : Nat)
    (e : MbimSmsStoreEntry) : (smsWriteRecord b reflistOff written e).cap = b.cap := by
  rw [smsWriteRecord_eq]
  dsimp only [recordHead, recordBody]
  split <;> simp [MbimWireBuilder.put]

/-- The flag is raised once and stays. -/
theorem smsWriteRecord_overflow (hshort : e.Short) :
    (smsWriteRecord b reflistOff written e).overflow =
      (b.overflow || decide (b.cap.toNat < b.len.toNat + e.recordSize)) := by
  rw [smsWriteRecord_eq]
  by_cases hhead : b.len.toNat + 16 ≤ b.cap.toNat
  · by_cases hroom : b.len.toNat + e.recordSize ≤ b.cap.toNat
    · rw [recordBody_fits hshort hroom, decide_eq_false (Nat.not_lt.mpr hroom), Bool.or_false]
      rfl
    · rw [recordBody_stops hhead hshort (Nat.not_le.mp hroom),
        decide_eq_true (Nat.not_le.mp hroom), Bool.or_true]
      rfl
  · have hover : b.cap.toNat < b.len.toNat + e.recordSize := by
      unfold MbimSmsStoreEntry.recordSize
      omega
    rw [decide_eq_true hover, Bool.or_true]
    dsimp only [recordHead, recordBody]
    rw [mbimWireReserve_overflows (n := 16) (Nat.not_le.mp hhead)]
    simp [mbimWireReserve_overflow]

/-- The header of a record is written whether it was reserved or not. -/
theorem recordHead_below {recOff pduOff : UInt32} :
    (recordHead b recOff pduOff reflistOff written e).Below bound ↔
      b.Below bound ∧ recOff.toNat + 16 ≤ bound ∧
        reflistOff.toNat + (written + 1) * 8 ≤ bound := by
  simp only [recordHead, MbimWireBuilder.Below, WriteLog.below_write, le32s_length,
    putLe32_length, List.length_cons, List.length_nil]
  constructor
  · rintro ⟨href, hpair, -, -, hbody⟩
    exact ⟨hbody, hpair (by decide), by omega⟩
  · rintro ⟨hbody, hhead, href⟩
    exact ⟨fun _ => by omega, fun _ => hhead, fun _ => by omega, fun _ => by omega, hbody⟩

theorem recordBody_below (hbody : (recordBody b e).2.Below bound) : b.Below bound := by
  unfold recordBody at hbody
  dsimp only at hbody
  have hsecond : (mbimWireReserve { (mbimWireReserve b 16).2 with
      frameBase := (mbimWireReserve b 16).1 }
        (mbimAlign4 (UInt32.ofNat e.pdu.length))).2.Below bound := by
    split at hbody
    · exact hbody
    · exact (WriteLog.below_write.mp hbody).2
  have hfirst := mbimWireReserve_below hsecond
  exact mbimWireReserve_below (b := b) (n := 16) hfirst

theorem recordBody_below_cap (hshort : e.Short) (hhead : b.len.toNat + 16 ≤ b.cap.toNat)
    (h : b.Below b.cap.toNat) : (recordBody b e).2.Below b.cap.toNat := by
  have hclear : WriteLog.Below (WriteLog.clear 0 b.len.toNat 16 b.buf) b.cap.toNat :=
    WriteLog.below_clear.mpr ⟨fun _ => hhead, h⟩
  by_cases hroom : b.len.toNat + e.recordSize ≤ b.cap.toNat
  · rw [recordBody_fits hshort hroom]
    have hpdu := le_align4 e.pdu.length
    unfold MbimSmsStoreEntry.recordSize at hroom
    have hpadded : WriteLog.Below (WriteLog.clear 0 (b.len.toNat + 16) (align4 e.pdu.length)
        (WriteLog.clear 0 b.len.toNat 16 b.buf)) b.cap.toNat :=
      WriteLog.below_clear.mpr ⟨fun _ => by omega, hclear⟩
    cases hover : b.overflow with
    | true => exact hpadded
    | false => exact WriteLog.below_write.mpr ⟨fun _ => by omega, hpadded⟩
  · rw [recordBody_stops hhead hshort (Nat.not_le.mp hroom)]
    exact hclear

/-- A record stays below the capacity if its header and its reference do. -/
theorem smsWriteRecord_below (hshort : e.Short) :
    (smsWriteRecord b reflistOff written e).Below b.cap.toNat ↔
      b.Below b.cap.toNat ∧ b.len.toNat + 16 ≤ b.cap.toNat ∧
        reflistOff.toNat + (written + 1) * 8 ≤ b.cap.toNat := by
  rw [smsWriteRecord_eq, recordHead_below, and_congr_left_iff]
  rintro ⟨hhead, -⟩
  exact ⟨recordBody_below, recordBody_below_cap hshort hhead⟩

/-! ## The loop -/

/-- The records of `es`, one behind the other. -/
def writeAll (reflistOff : UInt32) : List MbimSmsStoreEntry → MbimWireBuilder → Nat → MbimWireBuilder
  | [], b, _ => b
  | e :: es, b, written => writeAll reflistOff es (smsWriteRecord b reflistOff written e) (written + 1)

/-- The messages a read mode selects, in slot order. -/
def SmsStore.selected (store : SmsStore) (mode : SmsReadMode) : List MbimSmsStoreEntry :=
  store.slots.toList.filter (smsEntryIncluded · mode)

/-- What a read in this mode leaves of a slot. -/
def MbimSmsStoreEntry.afterRead (e : MbimSmsStoreEntry) (mode : SmsReadMode) : MbimSmsStoreEntry :=
  if smsEntryIncluded e mode then e.mark mode else e

/-- The loop stops early only when every selected message is written. -/
theorem smsWriteRecords_eq (mode : SmsReadMode) (reflistOff : UInt32)
    (es : List MbimSmsStoreEntry) (b : MbimWireBuilder) (written : Nat) :
    smsWriteRecords mode reflistOff (written + es.countP (smsEntryIncluded · mode)) es b written =
      (es.map (·.afterRead mode),
        writeAll reflistOff (es.filter (smsEntryIncluded · mode)) b written,
        written + es.countP (smsEntryIncluded · mode)) := by
  induction es generalizing b written with
  | nil => rfl
  | cons e es ih =>
    unfold smsWriteRecords
    by_cases hin : smsEntryIncluded e mode = true
    · have hcount : written + (e :: es).countP (smsEntryIncluded · mode) =
          written + 1 + es.countP (smsEntryIncluded · mode) := by
        rw [List.countP_cons_of_pos (p := (smsEntryIncluded · mode)) hin]
        omega
      have hmore : written < written + 1 + es.countP (smsEntryIncluded · mode) := by omega
      rw [hcount, hin, decide_eq_true hmore, Bool.true_and, if_pos rfl, List.map_cons,
        List.filter_cons_of_pos (p := (smsEntryIncluded · mode)) hin,
        MbimSmsStoreEntry.afterRead, if_pos hin]
      dsimp only
      rw [ih]
      rfl
    · rw [List.countP_cons_of_neg (p := (smsEntryIncluded · mode)) hin,
        List.filter_cons_of_neg (p := (smsEntryIncluded · mode)) hin, eq_false_of_ne_true hin,
        Bool.and_false, if_neg (by decide), ih, List.map_cons, MbimSmsStoreEntry.afterRead,
        if_neg hin]

/-- Each record header starts at least 16 octets before the capacity.  A PDU that does not
fit takes no room. -/
def HeadersFit (cap : Nat) : Nat → List MbimSmsStoreEntry → Prop
  | _, [] => True
  | off, e :: es =>
    off + 16 ≤ cap ∧
      HeadersFit cap (if off + e.recordSize ≤ cap then off + e.recordSize else off + 16) es

instance HeadersFit.decidable (cap : Nat) : ∀ off es, Decidable (HeadersFit cap off es)
  | _, [] => isTrue trivial
  | off, e :: es =>
    match Nat.decLe (off + 16) cap, HeadersFit.decidable cap
      (if off + e.recordSize ≤ cap then off + e.recordSize else off + 16) es with
    | isTrue h, isTrue t => isTrue ⟨h, t⟩
    | isFalse h, _ => isFalse fun k => h k.1
    | _, isFalse t => isFalse fun k => t k.2

theorem headersFit_of_size {cap off : Nat} {es : List MbimSmsStoreEntry}
    (h : off + recordsSize es ≤ cap) : HeadersFit cap off es := by
  induction es generalizing off with
  | nil => trivial
  | cons e es ih =>
    rw [recordsSize_cons] at h
    refine ⟨?_, ?_⟩
    · unfold MbimSmsStoreEntry.recordSize at h
      omega
    · rw [if_pos (by omega)]
      exact ih (by omega)

theorem writeAll_cap (reflistOff : UInt32) (es : List MbimSmsStoreEntry) (b : MbimWireBuilder)
    (written : Nat) : (writeAll reflistOff es b written).cap = b.cap := by
  induction es generalizing b written with
  | nil => rfl
  | cons e es ih => rw [writeAll, ih, smsWriteRecord_cap]

theorem writeAll_below {es : List MbimSmsStoreEntry} (hshort : ∀ e ∈ es, e.Short) :
    (writeAll reflistOff es b written).Below b.cap.toNat ↔
      b.Below b.cap.toNat ∧ HeadersFit b.cap.toNat b.len.toNat es ∧
        (es ≠ [] → reflistOff.toNat + (written + es.length) * 8 ≤ b.cap.toNat) := by
  induction es generalizing b written with
  | nil => simp [writeAll, HeadersFit]
  | cons e es ih =>
    obtain ⟨he, hes⟩ := List.forall_mem_cons.mp hshort
    have hnext : b.len.toNat + 16 ≤ b.cap.toNat →
        (smsWriteRecord b reflistOff written e).len.toNat =
          if b.len.toNat + e.recordSize ≤ b.cap.toNat then b.len.toNat + e.recordSize
          else b.len.toNat + 16 := by
      intro hhead
      split
      · exact smsWriteRecord_fits _ _ he ‹_›
      · exact smsWriteRecord_stops hhead he (Nat.not_le.mp ‹_›)
    have hrest := @ih (smsWriteRecord b reflistOff written e) (written + 1) hes
    rw [smsWriteRecord_cap, smsWriteRecord_below he] at hrest
    rw [writeAll, hrest, HeadersFit]
    constructor
    · rintro ⟨⟨hb, hhead, href⟩, hfit, hrefs⟩
      rw [hnext hhead] at hfit
      refine ⟨hb, ⟨hhead, hfit⟩, fun _ => ?_⟩
      cases es with
      | nil => exact href
      | cons e' es =>
        have hlater := hrefs (List.cons_ne_nil _ _)
        rw [List.length_cons, ← Nat.add_assoc, Nat.add_right_comm]
        exact hlater
    · rintro ⟨hb, ⟨hhead, hfit⟩, hrefs⟩
      have hall := hrefs (List.cons_ne_nil _ _)
      rw [List.length_cons] at hall
      refine ⟨⟨hb, hhead, by omega⟩, ?_, fun _ => by omega⟩
      rw [hnext hhead]
      exact hfit

/-- The flag says that something did not fit. -/
theorem writeAll_overflow {es : List MbimSmsStoreEntry} (hshort : ∀ e ∈ es, e.Short)
    (h : (writeAll reflistOff es b written).overflow = false) :
    b.overflow = false ∧ (es ≠ [] → b.len.toNat + recordsSize es ≤ b.cap.toNat) := by
  induction es generalizing b written with
  | nil => exact ⟨h, fun hne => absurd rfl hne⟩
  | cons e es ih =>
    obtain ⟨he, hes⟩ := List.forall_mem_cons.mp hshort
    obtain ⟨hflag, hrest⟩ := ih hes h
    rw [smsWriteRecord_overflow he, Bool.or_eq_false_iff] at hflag
    obtain ⟨hb, hroom⟩ := hflag
    replace hroom := Nat.not_lt.mp (of_decide_eq_false hroom)
    refine ⟨hb, fun _ => ?_⟩
    rw [smsWriteRecord_fits _ _ he hroom, smsWriteRecord_cap] at hrest
    rw [recordsSize_cons]
    cases es with
    | nil => exact hroom
    | cons e' es =>
      have := hrest (List.cons_ne_nil _ _)
      omega

/-! ## What is held when everything fits -/

/-- The reference at `pos` names the record of `e` at `off`. -/
structure MbimWireBuilder.HoldsRecord (b : MbimWireBuilder) (pos off : Nat)
    (e : MbimSmsStoreEntry) : Prop where
  reference : b.Holds pos (le32s [UInt32.ofNat off, UInt32.ofNat e.recordSize])
  header : b.Holds off (le32s [e.index, e.status, 16, UInt32.ofNat e.pdu.length])
  pdu : b.Holds (off + 16) e.pdu

/-- A record behind everything else, with its reference in front of it. -/
theorem smsWriteRecord_held (reflistOff : UInt32) (written : Nat) (hshort : e.Short)
    (hflag : b.overflow = false) (hroom : b.len.toNat + e.recordSize ≤ b.cap.toNat)
    (hrefs : reflistOff.toNat + (written + 1) * 8 ≤ b.len.toNat) :
    (smsWriteRecord b reflistOff written e).HoldsRecord (reflistOff.toNat + written * 8)
      b.len.toNat e := by
  have hsize : b.len + 16 + mbimAlign4 (UInt32.ofNat e.pdu.length) - b.len =
      UInt32.ofNat e.recordSize := by
    rw [UInt32.add_assoc, UInt32.add_comm, UInt32.add_sub_cancel, MbimSmsStoreEntry.recordSize,
      ← hshort.padded, UInt32.ofNat_add, UInt32.ofNat_toNat]
    rfl
  have hoff : b.len + 16 - b.len = 16 := by rw [UInt32.add_comm, UInt32.add_sub_cancel]
  rw [smsWriteRecord_eq, recordBody_fits hshort hroom, hflag]
  unfold recordHead
  dsimp only
  rw [hsize, hoff]
  refine ⟨?_, ?_, ?_⟩
  · rw [UInt32.ofNat_toNat]
    exact WriteLog.holds_write _ _ _
  · refine MbimWireBuilder.holds_le32s_cons.mpr ⟨?_, MbimWireBuilder.holds_le32s_cons.mpr ⟨?_, ?_⟩⟩
    · refine .write (.write (.write (WriteLog.holds_write _ _ _) ?_) ?_) ?_
      all_goals simp only [putLe32_length, le32s_length, List.length_cons, List.length_nil]; omega
    · refine .write (.write (WriteLog.holds_write _ _ _) ?_) ?_
      all_goals simp only [putLe32_length, le32s_length, List.length_cons, List.length_nil]; omega
    · refine .write (WriteLog.holds_write _ _ _) ?_
      simp only [le32s_length, List.length_cons, List.length_nil]
      omega
  · refine .write (.write (.write (.write (WriteLog.holds_write _ _ _) ?_) ?_) ?_) ?_
    all_goals simp only [putLe32_length, le32s_length, List.length_cons, List.length_nil]; omega

/-- What is neither the next reference nor behind the end survives a record. -/
theorem smsWriteRecord_frame (hshort : e.Short)
    (hroom : b.len.toNat + e.recordSize ≤ b.cap.toNat) {off : Nat} {data : Bytes}
    (h : b.Holds off data) (hend : off + data.length ≤ b.len.toNat)
    (hbeside : off + data.length ≤ reflistOff.toNat + written * 8 ∨
      reflistOff.toNat + (written + 1) * 8 ≤ off) :
    (smsWriteRecord b reflistOff written e).Holds off data := by
  rw [smsWriteRecord_eq, recordBody_fits hshort hroom]
  have hclear : WriteLog.Holds 0 (WriteLog.clear 0 (b.len.toNat + 16) (align4 e.pdu.length)
      (WriteLog.clear 0 b.len.toNat 16 b.buf)) off data :=
    .clear (.clear h (.inl hend)) (.inl (by omega))
  refine .write (.write (.write (.write ?_ (.inl hend)) (.inl (by omega))) (.inl (by omega))) ?_
  · dsimp only
    cases b.overflow with
    | true => exact hclear
    | false => exact .write hclear (.inl (by omega))
  · rw [le32s_length]
    simp only [List.length_cons, List.length_nil]
    omega

section Records

variable {es : List MbimSmsStoreEntry}

theorem writeAll_fits (hshort : ∀ e ∈ es, e.Short)
    (hroom : b.len.toNat + recordsSize es ≤ b.cap.toNat) :
    (writeAll reflistOff es b written).len.toNat = b.len.toNat + recordsSize es ∧
      (writeAll reflistOff es b written).overflow = b.overflow := by
  induction es generalizing b written with
  | nil => exact ⟨rfl, rfl⟩
  | cons e es ih =>
    obtain ⟨he, hes⟩ := List.forall_mem_cons.mp hshort
    rw [recordsSize_cons] at hroom ⊢
    have hfirst : b.len.toNat + e.recordSize ≤ b.cap.toNat := by omega
    have hlen := smsWriteRecord_fits reflistOff written he hfirst
    have hrest := @ih (smsWriteRecord b reflistOff written e) (written + 1) hes
    rw [smsWriteRecord_cap, hlen, smsWriteRecord_overflow he, decide_eq_false (Nat.not_lt.mpr hfirst),
      Bool.or_false, Nat.add_assoc] at hrest
    exact hrest hroom

theorem writeAll_frame (hshort : ∀ e ∈ es, e.Short)
    (hroom : b.len.toNat + recordsSize es ≤ b.cap.toNat) {off : Nat} {data : Bytes}
    (h : b.Holds off data) (hend : off + data.length ≤ b.len.toNat)
    (hbeside : off + data.length ≤ reflistOff.toNat + written * 8 ∨
      reflistOff.toNat + (written + es.length) * 8 ≤ off) :
    (writeAll reflistOff es b written).Holds off data := by
  induction es generalizing b written with
  | nil => exact h
  | cons e es ih =>
    obtain ⟨he, hes⟩ := List.forall_mem_cons.mp hshort
    rw [recordsSize_cons] at hroom
    rw [List.length_cons] at hbeside
    have hfirst : b.len.toNat + e.recordSize ≤ b.cap.toNat := by omega
    have hlen := smsWriteRecord_fits reflistOff written he hfirst
    refine ih hes ?_ (smsWriteRecord_frame he hfirst h hend (by omega)) (by omega) (by omega)
    rw [smsWriteRecord_cap, hlen]
    omega

theorem writeAll_held (hshort : ∀ e ∈ es, e.Short) (hflag : b.overflow = false)
    (hroom : b.len.toNat + recordsSize es ≤ b.cap.toNat)
    (hrefs : reflistOff.toNat + (written + es.length) * 8 ≤ b.len.toNat) {i : Nat}
    (hi : es[i]? = some e) :
    (writeAll reflistOff es b written).HoldsRecord (reflistOff.toNat + (written + i) * 8)
      (b.len.toNat + recordsSize (es.take i)) e := by
  induction es generalizing b written i with
  | nil => cases hi
  | cons e' es ih =>
    obtain ⟨he, hes⟩ := List.forall_mem_cons.mp hshort
    rw [recordsSize_cons] at hroom
    rw [List.length_cons] at hrefs
    have hfirst : b.len.toNat + e'.recordSize ≤ b.cap.toNat := by omega
    have hlen := smsWriteRecord_fits reflistOff written he hfirst
    have hflag' : (smsWriteRecord b reflistOff written e').overflow = false := by
      rw [smsWriteRecord_overflow he, hflag, decide_eq_false (Nat.not_lt.mpr hfirst)]
      rfl
    have hroom' : (smsWriteRecord b reflistOff written e').len.toNat + recordsSize es ≤
        (smsWriteRecord b reflistOff written e').cap.toNat := by
      rw [smsWriteRecord_cap, hlen]
      omega
    cases i with
    | zero =>
      obtain rfl : e' = e := Option.some.inj hi
      -- the later records leave the first one and its reference alone
      obtain ⟨href, hheader, hpdu⟩ :=
        smsWriteRecord_held reflistOff written he hflag hfirst (by omega)
      have hbody := le_align4 e'.pdu.length
      have hsize : e'.recordSize = 16 + align4 e'.pdu.length := rfl
      rw [show b.len.toNat + recordsSize ((e' :: es).take 0) = b.len.toNat from rfl, Nat.add_zero]
      refine ⟨?_, ?_, ?_⟩
      · refine writeAll_frame hes hroom' href ?_ (.inl ?_)
        all_goals simp only [le32s_length, List.length_cons, List.length_nil]; omega
      · refine writeAll_frame hes hroom' hheader ?_ (.inr (by omega))
        simp only [le32s_length, List.length_cons, List.length_nil]
        omega
      · exact writeAll_frame hes hroom' hpdu (by omega) (.inr (by omega))
    | succ i =>
      have hrest := @ih (smsWriteRecord b reflistOff written e') (written + 1) hes hflag' hroom'
        (by omega) i hi
      rw [hlen, Nat.add_assoc b.len.toNat, ← recordsSize_cons, ← List.take_succ_cons] at hrest
      rw [show written + (i + 1) = written + 1 + i by omega]
      exact hrest

end Records

end VirtualLte.Mbim
