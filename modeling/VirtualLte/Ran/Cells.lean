import VirtualLte.Ran.Machine

/-!
# The serving cell

The invariant of the cell table, over everything that can happen to the transport.

* `CellTable` is about the entries: they are counted, and no two valid ones share an
  identifier or an STI.  `ServingCell` adds the selection: the serving cell is a valid
  entry with the strongest signal.
* Only three things write the table (`ranStep_cells`): a session begins or ends, cells
  expire, a heartbeat acknowledgement is learned.
* `servingCell_tick` is about the state machine beside the table: after a tick the
  transport is CONNECTED exactly when there is a serving cell.
-/

namespace VirtualLte.Ran

open Rls

variable {c : UeRanCellInfo} {t : UeRanTransportCtx}

/-! ## The invariant -/

/-- No two valid entries have the same `key`. -/
def UniqueKey {α : Type} (cells : Vector UeRanCellInfo 16) (key : UeRanCellInfo → α) : Prop :=
  ∀ i j, (cells.get i).valid = true → (cells.get j).valid = true →
    key (cells.get i) = key (cells.get j) → i = j

structure CellTable (t : UeRanTransportCtx) : Prop where
  count : t.cellCount = (t.cells.toList.countP (·.valid) : Nat)
  ids : UniqueKey t.cells (·.cellId)
  stis : UniqueKey t.cells (·.sti)
  /-- Identifiers are handed out in order, from 1. -/
  bounds : ∀ i, (t.cells.get i).valid = true →
    1 ≤ (t.cells.get i).cellId ∧ (t.cells.get i).cellId < t.nextCellId
  next : 1 ≤ t.nextCellId

/-- Slot `i` is the strongest valid one. -/
def Strongest (t : UeRanTransportCtx) (i : Fin 16) : Prop :=
  (t.cells.get i).valid = true ∧
    ∀ j, (t.cells.get j).valid = true → (t.cells.get j).dbm ≤ (t.cells.get i).dbm

structure ServingCell (t : UeRanTransportCtx) : Prop extends CellTable t where
  serving : t.servingCellId = -1 ∨ ∃ i, (t.cells.get i).cellId = t.servingCellId ∧ Strongest t i
  unserved : t.servingCellId = -1 → ∀ i, (t.cells.get i).valid = true → (t.cells.get i).dbm ≤ -999

theorem mem_cells_toList : c ∈ t.cells.toList ↔ ∃ i, t.cells.get i = c := by
  rw [Vector.mem_toList_iff, Vector.mem_iff_getElem]
  constructor
  · rintro ⟨i, hi, rfl⟩
    exact ⟨⟨i, hi⟩, rfl⟩
  · rintro ⟨i, rfl⟩
    exact ⟨i, i.isLt, rfl⟩

/-! ## Unique keys -/

section UniqueKey

variable {α : Type} {key : UeRanCellInfo → α} {cells : Vector UeRanCellInfo 16}

/-- Keys stay unique where the valid entries are old ones. -/
theorem UniqueKey.of_unchanged (h : UniqueKey cells key) {cells' : Vector UeRanCellInfo 16}
    (hsame : ∀ i, (cells'.get i).valid = true → cells'.get i = cells.get i) :
    UniqueKey cells' key := by
  intro i j hi hj heq
  have hgi := hsame i hi
  have hgj := hsame j hj
  rw [hgi] at hi heq
  rw [hgj] at hj heq
  exact h i j hi hj heq

theorem get_set_self (i : Fin 16) (c : UeRanCellInfo) : (cells.set i c (cell_lt i)).get i = c :=
  Vector.getElem_set_self i.isLt

theorem get_set_of_ne {i j : Fin 16} (h : j ≠ i) (c : UeRanCellInfo) :
    (cells.set i c (cell_lt i)).get j = cells.get j :=
  Vector.getElem_set_ne i.isLt j.isLt fun hval => h (Fin.ext hval.symm)

/-- Keys stay unique when slot `i` is written with a key no other entry has. -/
theorem UniqueKey.set (h : UniqueKey cells key) {i : Fin 16}
    (hkey : ∀ j, j ≠ i → (cells.get j).valid = true → key (cells.get j) ≠ key c) :
    UniqueKey (cells.set i c (cell_lt i)) key := by
  intro j k hj hk heq
  by_cases hji : j = i
  · by_cases hki : k = i
    · rw [hji, hki]
    · rw [hji, get_set_self, get_set_of_ne hki] at heq
      rw [get_set_of_ne hki] at hk
      exact absurd heq.symm (hkey k hki hk)
  · rw [get_set_of_ne hji] at hj heq
    by_cases hki : k = i
    · rw [hki, get_set_self] at heq
      exact absurd heq (hkey j hji hj)
    · rw [get_set_of_ne hki] at hk heq
      exact h j k hj hk heq

end UniqueKey

/-! ## Slots -/

theorem cellSlot_some {p : UeRanCellInfo → Bool} {i : Fin 16} (h : cellSlot t p = some i) :
    p (t.cells.get i) = true :=
  List.find?_some (p := fun i => p (t.cells.get i)) h

theorem cellSlot_none {p : UeRanCellInfo → Bool} (h : cellSlot t p = none) (i : Fin 16) :
    p (t.cells.get i) = false := by
  have hall := List.find?_eq_none.mp h i (List.mem_finRange i)
  simpa using hall

/-! ## Selection -/

/-- The fold over the slots keeps the first strongest entry above where it began. -/
theorem foldl_best (l : List UeRanCellInfo) (b : Int × Int) :
    (l.foldl (fun best c => if c.valid && c.dbm > best.1 then (c.dbm, c.cellId) else best) b = b ∧
        ∀ c ∈ l, c.valid = true → c.dbm ≤ b.1) ∨
      ∃ c ∈ l, c.valid = true ∧ b.1 < c.dbm ∧ (∀ d ∈ l, d.valid = true → d.dbm ≤ c.dbm) ∧
        l.foldl (fun best c => if c.valid && c.dbm > best.1 then (c.dbm, c.cellId) else best) b =
          (c.dbm, c.cellId) := by
  induction l generalizing b with
  | nil => exact .inl ⟨rfl, nofun⟩
  | cons c rest ih =>
    rw [List.foldl_cons]
    by_cases hbetter : (c.valid && c.dbm > b.1) = true
    · rw [if_pos hbetter]
      simp only [Bool.and_eq_true, decide_eq_true_eq] at hbetter
      right
      rcases ih (c.dbm, c.cellId) with ⟨heq, hrest⟩ | ⟨d, hd, hvalid, hlt, hmax, heq⟩
      · refine ⟨c, .head _, hbetter.1, hbetter.2, ?_, heq⟩
        intro d hd hvalid
        rcases List.mem_cons.mp hd with rfl | hd
        · exact Int.le_refl _
        · exact hrest d hd hvalid
      · have hlt' : c.dbm < d.dbm := hlt
        refine ⟨d, .tail _ hd, hvalid, by omega, ?_, heq⟩
        intro e he hevalid
        rcases List.mem_cons.mp he with rfl | he
        · exact Int.le_of_lt hlt
        · exact hmax e he hevalid
    · rw [if_neg hbetter]
      have hworse : c.valid = true → c.dbm ≤ b.1 := by
        intro hvalid
        simp only [hvalid, Bool.true_and, decide_eq_true_eq] at hbetter
        omega
      rcases ih b with ⟨heq, hrest⟩ | ⟨d, hd, hvalid, hlt, hmax, heq⟩
      · refine .inl ⟨heq, ?_⟩
        intro d hd hvalid
        rcases List.mem_cons.mp hd with rfl | hd
        · exact hworse hvalid
        · exact hrest d hd hvalid
      · refine .inr ⟨d, .tail _ hd, hvalid, hlt, ?_, heq⟩
        intro e he hevalid
        rcases List.mem_cons.mp he with rfl | he
        · exact Int.le_trans (hworse hevalid) (Int.le_of_lt hlt)
        · exact hmax e he hevalid

/-- Selecting establishes what is claimed of the serving cell. -/
theorem CellTable.select (h : CellTable t) : ServingCell (selectBestServingCell t) := by
  have htable : CellTable (selectBestServingCell t) := ⟨h.count, h.ids, h.stis, h.bounds, h.next⟩
  rcases foldl_best t.cells.toList (-999, -1) with ⟨heq, hnone⟩ | ⟨c, hc, hvalid, -, hmax, heq⟩
  · have hserving : (selectBestServingCell t).servingCellId = -1 := congrArg Prod.snd heq
    refine ⟨htable, .inl hserving, fun _ i hvalid => ?_⟩
    exact hnone _ (mem_cells_toList.mpr ⟨i, rfl⟩) hvalid
  · obtain ⟨i, rfl⟩ := mem_cells_toList.mp hc
    have hserving : (selectBestServingCell t).servingCellId = (t.cells.get i).cellId :=
      congrArg Prod.snd heq
    refine ⟨htable, .inr ⟨i, hserving.symm, hvalid, fun j hj => ?_⟩, fun hminus => ?_⟩
    · exact hmax _ (mem_cells_toList.mpr ⟨j, rfl⟩) hj
    · have hpos := (h.bounds i hvalid).1
      omega

/-! ## The three writers -/

/-- The table at the beginning and the end of a session. -/
theorem servingCell_cleared (hcells : t.cells = Vector.replicate 16 {}) (hcount : t.cellCount = 0)
    (hserving : t.servingCellId = -1) (hnext : 1 ≤ t.nextCellId) : ServingCell t := by
  have hinvalid : ∀ i, (t.cells.get i).valid = true → False := by
    intro i hi
    rw [hcells, show (Vector.replicate 16 ({} : UeRanCellInfo)).get i = {} from
      Vector.getElem_replicate i.isLt] at hi
    cases hi
  refine ⟨⟨?_, fun i _ hi => (hinvalid i hi).elim, fun i _ hi => (hinvalid i hi).elim,
    fun i hi => (hinvalid i hi).elim, hnext⟩, .inl hserving, fun _ i hi => (hinvalid i hi).elim⟩
  rw [hcount, hcells]
  rfl

/-- Expiring entries takes them out of the count. -/
theorem countP_expired (stale : UeRanCellInfo → Bool) (hstale : ∀ c, stale c = true → c.valid = true)
    (l : List UeRanCellInfo) :
    ((l.map fun c => if stale c then { c with valid := false } else c).countP (·.valid) : Int) =
      l.countP (·.valid) - (l.filter stale).length := by
  induction l with
  | nil => rfl
  | cons c rest ih =>
    rw [List.map_cons, List.countP_cons, List.countP_cons, List.filter_cons]
    cases hc : stale c with
    | true =>
      simp only [hstale c hc, if_true, List.length_cons]
      push_cast
      omega
    | false =>
      simp only [Bool.false_eq_true, if_false]
      push_cast
      omega

theorem cellStale_valid {nowMs : UInt64} (h : cellStale t nowMs c = true) : c.valid = true := by
  simp only [cellStale, Bool.and_eq_true] at h
  exact h.1

/-- The table while stale entries are taken out, before reselection. -/
def expiredTable (t : UeRanTransportCtx) (nowMs : UInt64) : UeRanTransportCtx :=
  { t with
    cells := t.cells.map fun c => if cellStale t nowMs c then { c with valid := false } else c
    cellCount := t.cellCount - (t.cells.toList.filter (cellStale t nowMs)).length }

/-- An entry that is still valid has not changed. -/
theorem expiredTable_get {nowMs : UInt64} {i : Fin 16}
    (h : ((expiredTable t nowMs).cells.get i).valid = true) :
    (expiredTable t nowMs).cells.get i = t.cells.get i ∧
      cellStale t nowMs (t.cells.get i) = false := by
  have hget : (expiredTable t nowMs).cells.get i =
      if cellStale t nowMs (t.cells.get i) then { t.cells.get i with valid := false }
      else t.cells.get i := Vector.getElem_map _ i.isLt
  rw [hget] at h ⊢
  cases hstale : cellStale t nowMs (t.cells.get i) with
  | true =>
    rw [hstale] at h
    cases h
  | false => exact ⟨rfl, rfl⟩

theorem CellTable.expired (h : CellTable t) (nowMs : UInt64) :
    CellTable (expiredTable t nowMs) where
  count := by
    have hcells : (expiredTable t nowMs).cells.toList = t.cells.toList.map fun c =>
        if cellStale t nowMs c then { c with valid := false } else c := Vector.toList_map
    rw [hcells, countP_expired _ fun _ => cellStale_valid, ← h.count]
    rfl
  ids := h.ids.of_unchanged fun _ hi => (expiredTable_get hi).1
  stis := h.stis.of_unchanged fun _ hi => (expiredTable_get hi).1
  bounds := by
    intro i hi
    obtain ⟨hgi, -⟩ := expiredTable_get hi
    rw [hgi] at hi ⊢
    exact h.bounds i hi
  next := h.next

/-- Expiry either takes the serving cell and reselects, or leaves it strongest. -/
theorem ServingCell.expire (h : ServingCell t) (nowMs : UInt64) :
    ServingCell (expireCells t nowMs) := by
  have htable := h.toCellTable.expired nowMs
  unfold expireCells
  dsimp only
  rw [← expiredTable]
  split
  · have hselect := htable.select
    split
    · exact ⟨⟨hselect.count, hselect.ids, hselect.stis, hselect.bounds, hselect.next⟩,
        hselect.serving, hselect.unserved⟩
    · exact hselect
  · rename_i hkept
    refine ⟨htable, ?_, ?_⟩
    · rcases h.serving with hnone | ⟨i, hid, hvalid, hmax⟩
      · exact .inl hnone
      · right
        -- a stale serving cell would have been noticed
        have hfresh : cellStale t nowMs (t.cells.get i) = false := by
          cases hstale : cellStale t nowMs (t.cells.get i) with
          | false => rfl
          | true =>
            refine absurd (List.any_eq_true.mpr ⟨t.cells.get i, ?_, ?_⟩) hkept
            · exact List.mem_filter.mpr ⟨mem_cells_toList.mpr ⟨i, rfl⟩, hstale⟩
            · exact decide_eq_true hid
        have hget : (expiredTable t nowMs).cells.get i = t.cells.get i := by
          have hmap : (expiredTable t nowMs).cells.get i =
              if cellStale t nowMs (t.cells.get i) then { t.cells.get i with valid := false }
              else t.cells.get i := Vector.getElem_map _ i.isLt
          rw [hmap, hfresh]
          rfl
        refine ⟨i, by rw [hget]; exact hid, by rw [hget]; exact hvalid, fun j hj => ?_⟩
        obtain ⟨hgj, -⟩ := expiredTable_get hj
        rw [hgj] at hj ⊢
        rw [hget]
        exact hmax j hj
    · intro hnone i hi
      obtain ⟨hgi, -⟩ := expiredTable_get hi
      rw [hgi] at hi ⊢
      exact h.unserved hnone i hi

/-- Writing slot `i` keeps the table, if the entry's identifier and STI are no other's. -/
theorem CellTable.set (h : CellTable t) {i : Fin 16} {count next : Int} (hvalid : c.valid = true)
    (hid : ∀ j, j ≠ i → (t.cells.get j).valid = true → (t.cells.get j).cellId ≠ c.cellId)
    (hsti : ∀ j, j ≠ i → (t.cells.get j).valid = true → (t.cells.get j).sti ≠ c.sti)
    (hbound : 1 ≤ c.cellId ∧ c.cellId < next) (hnext : t.nextCellId ≤ next)
    (hcount : count = t.cellCount + if (t.cells.get i).valid then 0 else 1) :
    CellTable { t with cells := t.cells.set i c, cellCount := count, nextCellId := next } := by
  have hone := h.next
  refine ⟨?_, h.ids.set hid, h.stis.set hsti, ?_, by dsimp only; omega⟩
  · have hi : i.val < t.cells.toList.length := by
      rw [Vector.length_toList]
      exact i.isLt
    have hset : (t.cells.set i c).toList = t.cells.toList.set i c := Vector.toList_set i.isLt
    have hget : t.cells.toList[i.val] = t.cells.get i := Vector.getElem_toList hi
    dsimp only
    rw [hcount, h.count, hset, List.countP_set hi, hget, hvalid]
    cases hold : (t.cells.get i).valid with
    | true =>
      have hpos : 0 < t.cells.toList.countP (·.valid) :=
        List.countP_pos_iff.mpr ⟨_, mem_cells_toList.mpr ⟨i, rfl⟩, hold⟩
      simp only [if_true]
      omega
    | false =>
      simp only [Bool.false_eq_true, if_false, if_true]
      omega
  · intro j hj
    dsimp only at hj ⊢
    by_cases hji : j = i
    · rw [hji, get_set_self]
      exact hbound
    · rw [get_set_of_ne hji] at hj ⊢
      have hbj := h.bounds j hj
      exact ⟨hbj.1, by omega⟩

/-- A heartbeat acknowledgement updates the cell with its STI or takes a free slot. -/
theorem ServingCell.learn (h : ServingCell t) (sti : UInt64) (dbm : Int) (peer : SockAddrIn)
    (nowMs : UInt64) : ServingCell (handleHeartbeatAck t sti dbm peer nowMs) := by
  unfold handleHeartbeatAck
  split
  · rename_i i hslot
    have hi := cellSlot_some hslot
    simp only [Bool.and_eq_true, decide_eq_true_eq] at hi
    refine CellTable.select (h.toCellTable.set hi.1 ?_ ?_ (h.bounds i hi.1) (Int.le_refl _) ?_)
    · intro j hj hvalid heq
      exact hj (h.ids j i hvalid hi.1 heq)
    · intro j hj hvalid heq
      exact hj (h.stis j i hvalid hi.1 heq)
    · rw [if_pos hi.1, Int.add_zero]
  · rename_i hnew
    split
    · exact h
    · rename_i i hfree
      have hi := cellSlot_some hfree
      simp only [Bool.not_eq_true'] at hi
      refine CellTable.select (h.toCellTable.set rfl ?_ ?_ ?_ ?_ ?_)
      · intro j _ hvalid heq
        have hlt := (h.bounds j hvalid).2
        have heq' : (t.cells.get j).cellId = t.nextCellId := heq
        omega
      · intro j _ hvalid heq
        have hno := cellSlot_none hnew j
        simp only [hvalid, Bool.true_and, decide_eq_false_iff_not] at hno
        exact hno heq
      · have hone := h.next
        dsimp only
        omega
      · dsimp only
        omega
      · rw [hi]
        rfl

/-! ## One step -/

structure SameCells (t t' : UeRanTransportCtx) : Prop where
  cells : t'.cells = t.cells
  count : t'.cellCount = t.cellCount
  serving : t'.servingCellId = t.servingCellId
  next : t'.nextCellId = t.nextCellId

/-- What a step may do to the cell table. -/
inductive CellChange (t t' : UeRanTransportCtx) : Prop
  | same (h : SameCells t t')
  | cleared (cells : t'.cells = Vector.replicate 16 {}) (count : t'.cellCount = 0)
      (serving : t'.servingCellId = -1) (next : t'.nextCellId = t.nextCellId)
  | expired (nowMs : UInt64) (h : SameCells (expireCells t nowMs) t')
  | learned (sti : UInt64) (dbm : Int) (peer : SockAddrIn) (nowMs : UInt64)
      (known : peerIsKnown t peer = true) (h : SameCells (handleHeartbeatAck t sti dbm peer nowMs) t')

/-- The byte counter plays no part in learning a cell. -/
theorem handleHeartbeatAck_rxBytes (t : UeRanTransportCtx) (rxBytes : UInt64) (sti : UInt64)
    (dbm : Int) (peer : SockAddrIn) (nowMs : UInt64) :
    handleHeartbeatAck { t with rxBytes := rxBytes } sti dbm peer nowMs =
      { handleHeartbeatAck t sti dbm peer nowMs with rxBytes := rxBytes } := by
  have hslot : ∀ p, cellSlot { t with rxBytes := rxBytes } p = cellSlot t p := fun _ => rfl
  unfold handleHeartbeatAck
  rw [hslot, hslot]
  cases cellSlot t fun c => c.valid && c.sti = sti with
  | some i => rfl
  | none =>
    cases cellSlot t fun c => !c.valid with
    | some i => rfl
    | none => rfl

theorem receiveDatagram_cells (t : UeRanTransportCtx) (nowMs : UInt64) (peer : SockAddrIn)
    (dgram : Bytes) : CellChange t (receiveDatagram t nowMs peer dgram) := by
  unfold receiveDatagram
  dsimp only
  split
  · exact .same ⟨rfl, rfl, rfl, rfl⟩
  rename_i hknown
  split
  · rename_i sti dbm _
    rw [handleHeartbeatAck_rxBytes]
    exact .learned sti dbm peer nowMs (Bool.not_eq_false _ ▸ hknown) ⟨rfl, rfl, rfl, rfl⟩
  · rename_i sti pduType pduId payload pdu _
    obtain ⟨_, _, _, _, _, heq⟩ := handlePduTransmission_frame
      { t with rxBytes := t.rxBytes + UInt64.ofNat dgram.length } pduType pduId payload pdu
    rw [heq]
    exact .same ⟨rfl, rfl, rfl, rfl⟩
  · exact .same ⟨rfl, rfl, rfl, rfl⟩

theorem ranStep_cells (t : UeRanTransportCtx) (e : RanStep) : CellChange t (ranStep t e) := by
  have hchange := ranStep_change t e
  generalize ranStep t e = t' at hchange ⊢
  cases hchange with
  | started => exact .cleared rfl rfl rfl rfl
  | stopped => exact .cleared rfl rfl rfl rfl
  | expired nowMs heq =>
    rw [← heq]
    exact .expired nowMs ⟨rfl, rfl, rfl, rfl⟩
  | received nowMs peer dgram heq =>
    rw [← heq]
    exact receiveDatagram_cells t nowMs peer dgram
  | _ => exact .same ⟨rfl, rfl, rfl, rfl⟩

theorem ServingCell.of_same {t' : UeRanTransportCtx} (h : ServingCell t) (hsame : SameCells t t') :
    ServingCell t' := by
  obtain ⟨hcells, hcount, hserving, hnext⟩ := hsame
  refine ⟨⟨?_, ?_, ?_, ?_, ?_⟩, ?_, ?_⟩
  · rw [hcount, hcells]
    exact h.count
  · rw [hcells]
    exact h.ids
  · rw [hcells]
    exact h.stis
  · rw [hcells, hnext]
    exact h.bounds
  · rw [hnext]
    exact h.next
  · unfold Strongest
    rw [hserving, hcells]
    exact h.serving
  · rw [hserving, hcells]
    exact h.unserved

theorem ServingCell.step (h : ServingCell t) (e : RanStep) : ServingCell (ranStep t e) := by
  cases ranStep_cells t e with
  | same hsame => exact h.of_same hsame
  | cleared hcells hcount hserving hnext =>
    exact servingCell_cleared hcells hcount hserving (by rw [hnext]; exact h.next)
  | expired nowMs hsame => exact (h.expire nowMs).of_same hsame
  | learned sti dbm peer nowMs _ hsame => exact (h.learn sti dbm peer nowMs).of_same hsame

/-! ## Whole runs -/

/-- The receive thread works on the cells only while the transport is up: a tick returns at
once when it is IDLE. -/
def TicksWhileUp (t : UeRanTransportCtx) (e : RanStep) : Prop :=
  e.ofTick = true → t.state ≠ .idle

/-- Reached by starts, stops, sends, reads and the parts of ticks, in any order. -/
def CellReachable (t : UeRanTransportCtx) : Prop :=
  ∃ t₀ es, RanInit t₀ ∧ Transition.Along ranStep TicksWhileUp t₀ es ∧ ranRun t₀ es = t

/-- Within a tick the transport stays up. -/
theorem ranStep_up {e : RanStep} (h : t.state ≠ .idle) (he : e.ofTick = true) :
    (ranStep t e).state ≠ .idle := by
  cases e with
  | expire nowMs =>
    rw [ranStep, expireCells]
    dsimp only
    split
    · split
      · exact fun hidle => by cases hidle
      · exact h
    · exact h
  | heartbeats nowMs =>
    obtain ⟨_, _, heq, -⟩ := sendHeartbeats_frame t nowMs
    rw [ranStep, heq]
    exact h
  | datagram nowMs peer dgram =>
    obtain ⟨_, _, _, _, _, _, _, _, _, heq⟩ := receiveDatagram_frame t nowMs peer dgram
    rw [ranStep, heq]
    exact h
  | acks nowMs =>
    obtain ⟨_, _, heq, -⟩ := sendPendingAcks_frame t nowMs
    rw [ranStep, heq]
    exact h
  | transition =>
    rw [ranStep, transportTransition]
    split
    · split
      · exact fun hidle => by cases hidle
      · exact h
    · split
      · exact fun hidle => by cases hidle
      · exact h
    · split
      · exact fun hidle => by cases hidle
      · exact h
    · exact h
  | start => cases he
  | stop => cases he
  | refreshSti => cases he
  | hbWorker => cases he
  | sendNas pdu rrcChannel => cases he
  | sendData psi data => cases he
  | recvNas => cases he
  | recvData => cases he
  | os answers => cases he

theorem ranRun_up (h : t.state ≠ .idle) {es : List RanStep} (hes : ∀ e ∈ es, e.ofTick = true) :
    (ranRun t es).state ≠ .idle ∧ Transition.Along ranStep TicksWhileUp t es := by
  induction es generalizing t with
  | nil => exact ⟨h, trivial⟩
  | cons e es ih =>
    obtain ⟨hup, halong⟩ := ih (ranStep_up h (hes e (.head _))) fun e he => hes e (.tail _ he)
    exact ⟨hup, fun _ => h, halong⟩

/-- A tick leads from a reachable state to a reachable state. -/
theorem CellReachable.tick (h : CellReachable t) (nowMs : UInt64)
    (dgrams : List (SockAddrIn × Bytes)) (recvError : Bool) :
    CellReachable (ueRanTransportTick t nowMs dgrams recvError) := by
  by_cases hidle : t.state = .idle
  · rw [ueRanTransportTick, if_pos hidle]
    exact h
  · obtain ⟨es, hes, htick⟩ := ueRanTransportTick_run t nowMs dgrams recvError
    obtain ⟨t₀, fs, hinit, halong, rfl⟩ := h
    refine ⟨t₀, fs ++ es, hinit, ?_, by rw [hes, ranRun_append]⟩
    exact (Transition.along_append _ _ _ _ _).mpr ⟨halong, (ranRun_up hidle htick).2⟩

/-- Without a session there is no serving cell. -/
theorem idle_unserved_step {e : RanStep} (h : t.state = .idle → t.servingCellId = -1)
    (he : TicksWhileUp t e) : (ranStep t e).state = .idle → (ranStep t e).servingCellId = -1 := by
  by_cases htick : e.ofTick = true
  · exact fun hidle => absurd hidle (ranStep_up (he htick) htick)
  have hchange := ranStep_change t e
  generalize ranStep t e = t' at hchange ⊢
  cases hchange with
  | started => exact nofun
  | stopped => exact fun _ => rfl
  | expired => exact absurd rfl htick
  | received => exact absurd rfl htick
  | moved => exact absurd rfl htick
  | _ => exact h

theorem CellReachable.invariant (h : CellReachable t) :
    ServingCell t ∧ (t.state = .idle → t.servingCellId = -1) := by
  obtain ⟨t₀, es, ⟨os, eps, rfl⟩, halong, rfl⟩ := h
  refine Transition.run_invariant (I := fun t => ServingCell t ∧ (t.state = .idle →
    t.servingCellId = -1)) (fun t e hi he => ⟨hi.1.step e, idle_unserved_step hi.2 he⟩) ?_ halong
  exact ⟨servingCell_cleared rfl rfl rfl (Int.le_refl 1), fun _ => rfl⟩

/-- The state machine has the last word in a tick. -/
theorem transportTransition_connected_iff (hup : t.state ≠ .idle)
    (h : t.servingCellId = -1 ∨ 1 ≤ t.servingCellId) :
    (transportTransition t).state = .connected ↔ (transportTransition t).servingCellId ≠ -1 := by
  have hserving : (0 ≤ t.servingCellId) ↔ t.servingCellId ≠ -1 := by omega
  unfold transportTransition
  cases hstate : t.state with
  | idle => exact absurd hstate hup
  | searching =>
    dsimp only
    split
    · rename_i hge
      simp [hserving.mp hge]
    · rename_i hlt
      simp only [hstate, reduceCtorEq, false_iff]
      omega
  | connected =>
    dsimp only
    split
    · rename_i hlt
      simp only [reduceCtorEq, false_iff]
      omega
    · rename_i hge
      simp only [hstate, true_iff]
      omega
  | lost =>
    dsimp only
    split
    · rename_i hge
      simp [hserving.mp hge]
    · rename_i hlt
      simp only [hstate, reduceCtorEq, false_iff]
      omega

theorem ServingCell.serving_range (h : ServingCell t) :
    t.servingCellId = -1 ∨ 1 ≤ t.servingCellId := by
  rcases h.serving with hnone | ⟨i, hid, hvalid, -⟩
  · exact .inl hnone
  · exact .inr (hid ▸ (h.bounds i hvalid).1)

/-- In every reachable state the cells are counted and distinct and the strongest one serves;
a tick leads to such a state again, and if no socket error cuts it short the transport is
then CONNECTED exactly when there is a serving cell. -/
theorem servingCell_tick {t : UeRanTransportCtx} (h : CellReachable t) :
    ServingCell t ∧ ∀ nowMs dgrams recvError,
      CellReachable (ueRanTransportTick t nowMs dgrams recvError) ∧
        (recvError = false →
          ((ueRanTransportTick t nowMs dgrams recvError).state = .connected ↔
            (ueRanTransportTick t nowMs dgrams recvError).servingCellId ≠ -1)) := by
  obtain ⟨hserving, hidle⟩ := h.invariant
  refine ⟨hserving, fun nowMs dgrams recvError => ⟨h.tick nowMs dgrams recvError, ?_⟩⟩
  rintro rfl
  by_cases hstate : t.state = .idle
  · rw [ueRanTransportTick, if_pos hstate, hstate, hidle hstate]
    decide
  · obtain ⟨es, heq, htick⟩ := ueRanTransportTick_transition t nowMs dgrams hstate
    have hrun : ServingCell (ranRun t es) := by
      refine Transition.run_invariant (G := fun _ _ => True) (fun t e hi _ => hi.step e) hserving ?_
      exact Transition.along_of_forall (fun _ _ => trivial) t es
    rw [heq]
    exact transportTransition_connected_iff (ranRun_up hstate htick).1 hrun.serving_range

theorem servingCell_tick_oneGnb :
    ServingCell (ranRun oneGnbInit [.start, gnbHeard]) ∧ ∀ nowMs dgrams recvError,
      CellReachable (ueRanTransportTick (ranRun oneGnbInit [.start, gnbHeard]) nowMs dgrams recvError) ∧
        (recvError = false →
          ((ueRanTransportTick (ranRun oneGnbInit [.start, gnbHeard]) nowMs dgrams recvError).state =
              .connected ↔
            (ueRanTransportTick (ranRun oneGnbInit [.start, gnbHeard]) nowMs dgrams
              recvError).servingCellId ≠ -1)) :=
  servingCell_tick ⟨oneGnbInit, [.start, gnbHeard], ranInit_oneGnbInit,
    ⟨nofun, fun _ => by decide, trivial⟩, rfl⟩

end VirtualLte.Ran
