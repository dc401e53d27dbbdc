import VirtualLte.Mbim.Ntb
import VirtualLte.Lib.Chain

/-!
# What a transfer block delivers

A transfer block of the host is any octet string.  Read as a block it has a length, a
chain of tables and in each table the entries before its null entry; the datagrams it
carries are the entries that are not empty and lie inside the block.

* `blockLength`, `ndpChain`, `entriesFrom` and `datagrams` say this without loops or
  machine words.
* `deframeEntries_adds` and `deframeNdps_adds`: with fuel for every octet each loop ends,
  and adds to what was done before exactly what the block says (`Adds`).
* `mbimNtb16Deframe_delivers` puts them together.
-/

namespace VirtualLte.Mbim

variable {i stop p : Nat} {blockLen : UInt32} (r : Deframed)

/-! ## Blocks -/

section Block

variable (ntb : Bytes)

/-- The 16-bit field at offset `i`. -/
def field16 (i : Nat) : Nat := (rd16 ntb i).toNat

/-- A header with the right signature. -/
def IsNth16 : Prop := 12 ≤ ntb.length ∧ rd32 ntb 0 = mbimNth16Signature

instance : Decidable (IsNth16 ntb) := inferInstanceAs (Decidable (_ ∧ _))

/-- The declared length, or the whole transfer where that is zero or too large. -/
def blockLength : Nat :=
  if field16 ntb 8 = 0 ∨ ntb.length < field16 ntb 8 then ntb.length else field16 ntb 8

/-- There is room for a table at `i`.  Offset zero stands for none. -/
def HasNdp (i : Nat) : Prop := i ≠ 0 ∧ i + 8 ≤ blockLength ntb

instance : DecidablePred (HasNdp ntb) := fun _ => inferInstanceAs (Decidable (_ ∧ _))

/-- The table at `i` carries IP datagrams, of any session. -/
def IsIps (i : Nat) : Prop := rd32 ntb i &&& mbimNdp16SigMask = mbimNdp16Signature

instance : DecidablePred (IsIps ntb) := fun _ => inferInstanceAs (Decidable (_ = _))

/-- The chain ends at a table of another kind. -/
def nextNdp (i : Nat) : Nat := if IsIps ntb i then field16 ntb (i + 6) else 0

def ndpChain : List Nat :=
  Chain.follow (HasNdp ntb) (nextNdp ntb) (blockLength ntb) (field16 ntb 10)

/-- The end of the table at `i`, or that of the block where its length makes no sense. -/
def ndpEnd (i : Nat) : Nat :=
  if field16 ntb (i + 4) < 8 ∨ blockLength ntb < i + field16 ntb (i + 4) then blockLength ntb
  else i + field16 ntb (i + 4)

/-- Offset and length of the datagram an entry names. -/
def entryAt (p : Nat) : Nat × Nat := (field16 ntb p, field16 ntb (p + 2))

/-- The entries from `p` on, up to the null entry. -/
def entriesFrom (stop p : Nat) : List (Nat × Nat) :=
  ((Chain.strided 4 stop p).map (entryAt ntb)).takeWhile (· ≠ (0, 0))

/-- The datagram is not empty and lies inside the block. -/
def InBlock (e : Nat × Nat) : Prop := e.2 ≠ 0 ∧ e.1 + e.2 ≤ blockLength ntb

instance : DecidablePred (InBlock ntb) := fun _ => inferInstanceAs (Decidable (_ ∧ _))

def datagramsFrom (stop p : Nat) : List (Nat × Nat) := (entriesFrom ntb stop p).filter (InBlock ntb)

/-- The datagrams of the table at `i`. -/
def ndpDatagrams (i : Nat) : List (Nat × Nat) :=
  if IsIps ntb i then datagramsFrom ntb (ndpEnd ntb i) (i + 8) else []

def datagrams : List (Nat × Nat) := (ndpChain ntb).flatMap (ndpDatagrams ntb)

end Block

variable {ntb : Bytes}

theorem field16_lt (ntb : Bytes) (i : Nat) : field16 ntb i < 65536 := (rd16 ntb i).toNat_lt

theorem toNat_rd16 (i : Nat) : (rd16 ntb i).toUInt32.toNat = field16 ntb i := UInt16.toNat_toUInt32 _

theorem rd16_eq_zero_iff (i : Nat) : (rd16 ntb i).toUInt32 = 0 ↔ field16 ntb i = 0 := by
  rw [← toNat_rd16, ← UInt32.toNat_inj]
  rfl

theorem blockLength_le (ntb : Bytes) : blockLength ntb ≤ ntb.length := by
  unfold blockLength
  split <;> omega

theorem ndpEnd_le (ntb : Bytes) (i : Nat) : ndpEnd ntb i ≤ blockLength ntb := by
  unfold ndpEnd
  split <;> omega

theorem le_ndpEnd (h : HasNdp ntb i) : i + 8 ≤ ndpEnd ntb i := by
  have hroom := h.2
  unfold ndpEnd
  split <;> omega

/-! ### One entry -/

theorem datagramsFrom_of_lt (h : stop < p + 4) : datagramsFrom ntb stop p = [] := by
  rw [datagramsFrom, entriesFrom, Chain.strided_of_lt h]
  rfl

theorem entriesFrom_of_le (h : p + 4 ≤ stop) :
    entriesFrom ntb stop p =
      if entryAt ntb p = (0, 0) then [] else entryAt ntb p :: entriesFrom ntb stop (p + 4) := by
  rw [entriesFrom, Chain.strided_of_le (by decide) h, List.map_cons, List.takeWhile_cons, entriesFrom]
  by_cases hnull : entryAt ntb p = (0, 0) <;> simp [hnull]

theorem datagramsFrom_of_null (h : p + 4 ≤ stop) (hnull : entryAt ntb p = (0, 0)) :
    datagramsFrom ntb stop p = [] := by
  rw [datagramsFrom, entriesFrom_of_le h, if_pos hnull]
  rfl

theorem datagramsFrom_of_bogus (h : p + 4 ≤ stop) (hnull : entryAt ntb p ≠ (0, 0))
    (hout : ¬ InBlock ntb (entryAt ntb p)) :
    datagramsFrom ntb stop p = datagramsFrom ntb stop (p + 4) := by
  rw [datagramsFrom, entriesFrom_of_le h, if_neg hnull, List.filter_cons_of_neg (by simpa using hout),
    datagramsFrom]

theorem datagramsFrom_of_inBlock (h : p + 4 ≤ stop) (hnull : entryAt ntb p ≠ (0, 0))
    (hin : InBlock ntb (entryAt ntb p)) :
    datagramsFrom ntb stop p = entryAt ntb p :: datagramsFrom ntb stop (p + 4) := by
  rw [datagramsFrom, entriesFrom_of_le h, if_neg hnull, List.filter_cons_of_pos (by simpa using hin),
    datagramsFrom]

/-! ## What the loops add -/

namespace Deframed

theorem append_assoc (s t : Deframed) : r ++ s ++ t = r ++ (s ++ t) := by
  change Deframed.mk _ _ _ _ = Deframed.mk _ _ _ _
  simp only [mk.injEq]
  exact ⟨Int32.add_assoc _ _ _, List.append_assoc _ _ _, List.append_assoc _ _ _,
    List.append_assoc _ _ _⟩

theorem append_empty : r ++ {} = r := by
  change Deframed.mk _ _ _ _ = _
  simp

theorem reading_eq (off n : Nat) : r.reading off n = r ++ { reads := List.range' off n } := by
  change Deframed.mk _ _ _ _ = Deframed.mk _ _ _ _
  simp

theorem call_eq (off len : UInt32) :
    r.call off len = r ++ { count := 1, calls := [(off.toNat, len.toNat)] } := by
  change Deframed.mk _ _ _ _ = Deframed.mk _ _ _ _
  simp

theorem enter_eq (ndpIndex : UInt32) : r.enter ndpIndex = r ++ { visited := [ndpIndex.toNat] } := by
  change Deframed.mk _ _ _ _ = Deframed.mk _ _ _ _
  simp

end Deframed

/-- Besides `visited` and `calls`, only reads below `bound` and a count of the calls. -/
structure Adds (s : Deframed) (visited : List Nat) (calls : List (Nat × Nat)) (bound : Nat) : Prop where
  visited_eq : s.visited = visited
  calls_eq : s.calls = calls
  count_eq : s.count = Int32.ofNat s.calls.length
  reads_lt : ∀ i ∈ s.reads, i < bound

namespace Adds

variable {s t : Deframed} {visited visited' : List Nat} {calls calls' : List (Nat × Nat)} {bound : Nat}

theorem empty (bound : Nat) : Adds {} [] [] bound := ⟨rfl, rfl, rfl, nofun⟩

theorem reads {off n : Nat} (h : off + n ≤ bound) :
    Adds { reads := List.range' off n } [] [] bound := by
  refine ⟨rfl, rfl, rfl, fun i hi => ?_⟩
  have := (List.mem_range'_1.mp hi).2
  omega

theorem call (e : Nat × Nat) (bound : Nat) : Adds { count := 1, calls := [e] } [] [e] bound :=
  ⟨rfl, rfl, rfl, nofun⟩

theorem enter (i bound : Nat) : Adds { visited := [i] } [i] [] bound := ⟨rfl, rfl, rfl, nofun⟩

theorem append (hs : Adds s visited calls bound) (ht : Adds t visited' calls' bound) :
    Adds (s ++ t) (visited ++ visited') (calls ++ calls') bound where
  visited_eq := congrArg₂ (· ++ ·) hs.visited_eq ht.visited_eq
  calls_eq := congrArg₂ (· ++ ·) hs.calls_eq ht.calls_eq
  count_eq := by
    change s.count + t.count = Int32.ofNat (s.calls ++ t.calls).length
    rw [hs.count_eq, ht.count_eq, List.length_append, Int32.ofNat_add]
  reads_lt i hi := (List.mem_append.mp hi).elim (hs.reads_lt i) (ht.reads_lt i)

theorem mono {bound' : Nat} (h : Adds s visited calls bound) (hle : bound ≤ bound') :
    Adds s visited calls bound' :=
  ⟨h.visited_eq, h.calls_eq, h.count_eq, fun i hi => Nat.lt_of_lt_of_le (h.reads_lt i hi) hle⟩

end Adds

/-- A sum of two words that does not wrap, compared with a third. -/
theorem add_le_iff {a b c : UInt32} (h : a.toNat + b.toNat < 2 ^ 32) :
    a + b ≤ c ↔ a.toNat + b.toNat ≤ c.toNat := by
  rw [UInt32.le_iff_toNat_le, UInt32.toNat_add, Nat.mod_eq_of_lt h]

/-- An entry as the loop tests it. -/
theorem entry_null_iff (p : Nat) :
    ((rd16 ntb p).toUInt32 = 0 ∧ (rd16 ntb (p + 2)).toUInt32 = 0) ↔ entryAt ntb p = (0, 0) := by
  rw [entryAt, Prod.mk.injEq, rd16_eq_zero_iff, rd16_eq_zero_iff]

theorem entry_bogus_iff (hblock : blockLen.toNat = blockLength ntb) (p : Nat) :
    ((rd16 ntb (p + 2)).toUInt32 = 0 ∨
        (rd16 ntb p).toUInt32 + (rd16 ntb (p + 2)).toUInt32 > blockLen) ↔
      ¬ InBlock ntb (entryAt ntb p) := by
  have hsum : (rd16 ntb p).toUInt32.toNat + (rd16 ntb (p + 2)).toUInt32.toNat < 2 ^ 32 := by
    have hindex := field16_lt ntb p
    have hlen := field16_lt ntb (p + 2)
    rw [toNat_rd16, toNat_rd16]
    omega
  rw [gt_iff_lt, ← UInt32.not_le, add_le_iff hsum, toNat_rd16, toNat_rd16, hblock,
    rd16_eq_zero_iff, InBlock, entryAt, not_and_or, Decidable.not_not]

/-- The entries of one table: the loop ends and hands on the datagrams they name. -/
theorem deframeEntries_adds {ndpEnd : UInt32} (hblock : blockLen.toNat = blockLength ntb)
    (hend : ndpEnd.toNat + 4 < 2 ^ 32) (fuel : Nat) (p : UInt32) (r : Deframed)
    (hp : p.toNat ≤ ndpEnd.toNat) (hfuel : ndpEnd.toNat < p.toNat + fuel) :
    ∃ s, deframeEntries ntb blockLen ndpEnd fuel p r = some (r ++ s) ∧
      Adds s [] (datagramsFrom ntb ndpEnd.toNat p.toNat) ndpEnd.toNat := by
  induction fuel generalizing p r with
  | zero => omega
  | succ fuel ih =>
    have hnext : (p + 4).toNat = p.toNat + 4 := by
      rw [UInt32.toNat_add]
      exact Nat.mod_eq_of_lt (by change p.toNat + 4 < _; omega)
    have hguard : p + 4 ≤ ndpEnd ↔ p.toNat + 4 ≤ ndpEnd.toNat := by
      rw [UInt32.le_iff_toNat_le, hnext]
    rw [deframeEntries]
    by_cases hroom : p.toNat + 4 ≤ ndpEnd.toNat
    · rw [if_pos (hguard.mpr hroom)]
      have hread : Adds { reads := List.range' p.toNat 4 } [] [] ndpEnd.toNat := .reads hroom
      have hrest := fun r => ih (p + 4) r (by omega) (by omega)
      rw [hnext] at hrest
      simp only [entry_null_iff, entry_bogus_iff hblock, Deframed.reading_eq]
      by_cases hnull : entryAt ntb p.toNat = (0, 0)
      · rw [if_pos hnull, datagramsFrom_of_null hroom hnull]
        exact ⟨_, rfl, hread⟩
      rw [if_neg hnull]
      by_cases hin : InBlock ntb (entryAt ntb p.toNat)
      · rw [if_neg (not_not_intro hin), datagramsFrom_of_inBlock hroom hnull hin, Deframed.call_eq,
          toNat_rd16, toNat_rd16]
        obtain ⟨s, hs, hadds⟩ := hrest
          (r ++ { reads := List.range' p.toNat 4 } ++ { count := 1, calls := [entryAt ntb p.toNat] })
        refine ⟨_, hs.trans ?_, hread.append ((Adds.call _ _).append hadds)⟩
        rw [Deframed.append_assoc, Deframed.append_assoc]
      · rw [if_pos hin, datagramsFrom_of_bogus hroom hnull hin]
        obtain ⟨s, hs, hadds⟩ := hrest (r ++ { reads := List.range' p.toNat 4 })
        exact ⟨_, hs.trans (by rw [Deframed.append_assoc]), hread.append hadds⟩
    · rw [if_neg (mt hguard.mp hroom), datagramsFrom_of_lt (by omega)]
      exact ⟨{}, by rw [Deframed.append_empty], .empty _⟩

/-! ## The chain of tables -/

theorem toNat_rd16_add_eight (i : Nat) : ((rd16 ntb i).toUInt32 + 8).toNat = field16 ntb i + 8 := by
  have hindex := field16_lt ntb i
  rw [UInt32.toNat_add, toNat_rd16]
  exact Nat.mod_eq_of_lt (by change _ + 8 < _; omega)

theorem ndp_guard_iff (hblock : blockLen.toNat = blockLength ntb) (i : Nat) :
    ((rd16 ntb i).toUInt32 ≠ 0 ∧ (rd16 ntb i).toUInt32 + 8 ≤ blockLen) ↔ HasNdp ntb (field16 ntb i) := by
  rw [UInt32.le_iff_toNat_le, toNat_rd16_add_eight, Ne, rd16_eq_zero_iff, hblock, HasNdp]

theorem sig_guard_iff (i : Nat) :
    rd32 ntb i &&& mbimNdp16SigMask ≠ mbimNdp16Signature ↔ ¬ IsIps ntb i := Iff.rfl

/-- The end of a table, as the loop computes it. -/
theorem toNat_ndpEnd (hblock : blockLen.toNat = blockLength ntb) (i : Nat) :
    (if (rd16 ntb (field16 ntb i + 4)).toUInt32 < 8 ∨
        (rd16 ntb i).toUInt32 + (rd16 ntb (field16 ntb i + 4)).toUInt32 > blockLen then blockLen
      else (rd16 ntb i).toUInt32 + (rd16 ntb (field16 ntb i + 4)).toUInt32).toNat =
      ndpEnd ntb (field16 ntb i) := by
  have hsum : (rd16 ntb i).toUInt32.toNat + (rd16 ntb (field16 ntb i + 4)).toUInt32.toNat < 2 ^ 32 := by
    have hindex := field16_lt ntb i
    have hlen := field16_lt ntb (field16 ntb i + 4)
    rw [toNat_rd16, toNat_rd16]
    omega
  have hshort : (rd16 ntb (field16 ntb i + 4)).toUInt32 < 8 ↔ field16 ntb (field16 ntb i + 4) < 8 := by
    rw [UInt32.lt_iff_toNat_lt, toNat_rd16]
    rfl
  have hlong : (rd16 ntb i).toUInt32 + (rd16 ntb (field16 ntb i + 4)).toUInt32 > blockLen ↔
      blockLength ntb < field16 ntb i + field16 ntb (field16 ntb i + 4) := by
    rw [gt_iff_lt, ← UInt32.not_le, add_le_iff hsum, toNat_rd16, toNat_rd16, hblock, Nat.not_le]
  rw [ndpEnd]
  simp only [hshort, hlong]
  split
  · exact hblock
  · rw [UInt32.toNat_add, Nat.mod_eq_of_lt hsum, toNat_rd16, toNat_rd16]

/-- The chain goes on where the table is of the right kind and points forward. -/
theorem next_stop_iff (h : IsIps ntb (field16 ntb i)) :
    ((rd16 ntb (field16 ntb i + 6)).toUInt32 = 0 ∨
        (rd16 ntb (field16 ntb i + 6)).toUInt32 ≤ (rd16 ntb i).toUInt32) ↔
      ¬ field16 ntb i < nextNdp ntb (field16 ntb i) := by
  rw [nextNdp, if_pos h, rd16_eq_zero_iff, UInt32.le_iff_toNat_le, toNat_rd16, toNat_rd16]
  omega

/-- The entries of one table of datagrams are read to its end. -/
theorem ndpEntries_adds {tableEnd : UInt32} (fuel : Nat) (hlen : ntb.length + 4 < 2 ^ 32)
    (hroom : HasNdp ntb (field16 ntb i)) (hips : IsIps ntb (field16 ntb i))
    (hend : tableEnd.toNat = ndpEnd ntb (field16 ntb i)) (hblock : blockLen.toNat = blockLength ntb)
    (hfuel : blockLength ntb < field16 ntb i + 8 + fuel) (r : Deframed) :
    ∃ s, deframeEntries ntb blockLen tableEnd fuel ((rd16 ntb i).toUInt32 + 8) r = some (r ++ s) ∧
      Adds s [] (ndpDatagrams ntb (field16 ntb i)) (blockLength ntb) := by
  have hstart : ((rd16 ntb i).toUInt32 + 8).toNat = field16 ntb i + 8 := toNat_rd16_add_eight i
  have hstop := ndpEnd_le ntb (field16 ntb i)
  have hroomEnd := le_ndpEnd hroom
  have hwhole := blockLength_le ntb
  have htable : ndpDatagrams ntb (field16 ntb i) =
      datagramsFrom ntb (ndpEnd ntb (field16 ntb i)) (field16 ntb i + 8) := if_pos hips
  obtain ⟨s, hs, hadds⟩ := deframeEntries_adds hblock (by rw [hend]; omega) fuel
    ((rd16 ntb i).toUInt32 + 8) r (by rw [hstart, hend]; omega) (by rw [hstart, hend]; omega)
  rw [hstart, hend] at hadds
  exact ⟨s, hs, htable ▸ hadds.mono hstop⟩

/-- The tables: the loop ends, visits the chain and hands on the datagrams of each table. -/
theorem deframeNdps_adds (hblock : blockLen.toNat = blockLength ntb)
    (hlen : ntb.length + 4 < 2 ^ 32) (fuel i : Nat) (r : Deframed) (hpos : 0 < fuel)
    (hfuel : blockLength ntb < field16 ntb i + fuel) :
    ∃ s, deframeNdps ntb blockLen fuel (rd16 ntb i).toUInt32 r = some (r ++ s) ∧
      Adds s (Chain.follow (HasNdp ntb) (nextNdp ntb) (blockLength ntb) (field16 ntb i))
        ((Chain.follow (HasNdp ntb) (nextNdp ntb) (blockLength ntb) (field16 ntb i)).flatMap
          (ndpDatagrams ntb)) (blockLength ntb) := by
  induction fuel generalizing i r with
  | zero => exact absurd hpos (Nat.lt_irrefl 0)
  | succ fuel ih =>
    rw [deframeNdps]
    simp only [ndp_guard_iff hblock, toNat_rd16, sig_guard_iff]
    by_cases hroom : HasNdp ntb (field16 ntb i)
    · have hspace := hroom.2
      have hhead : Adds ({ visited := [field16 ntb i] } ++ { reads := List.range' (field16 ntb i) 8 })
          [field16 ntb i] [] (blockLength ntb) := (Adds.enter _ _).append (.reads hspace)
      rw [if_pos hroom, Chain.follow_of_link (by omega) hroom, Deframed.reading_eq, Deframed.enter_eq,
        toNat_rd16, Deframed.append_assoc, List.flatMap_cons]
      by_cases hips : IsIps ntb (field16 ntb i)
      · obtain ⟨s, hs, hadds⟩ := ndpEntries_adds fuel hlen hroom hips (toNat_ndpEnd hblock i) hblock
          (by omega) (r ++ ({ visited := [field16 ntb i] } ++ { reads := List.range' (field16 ntb i) 8 }))
        have hone := hhead.append hadds
        rw [if_neg (not_not_intro hips), hs, Option.bind_eq_bind, Option.bind_some,
          Deframed.append_assoc]
        simp only [next_stop_iff hips]
        by_cases hforward : field16 ntb i < nextNdp ntb (field16 ntb i)
        · have hnext : nextNdp ntb (field16 ntb i) = field16 ntb (field16 ntb i + 6) := if_pos hips
          rw [if_neg (not_not_intro hforward), if_pos hforward, hnext]
          obtain ⟨t, ht, hrest⟩ := ih (field16 ntb i + 6) _ (by omega) (by omega)
          refine ⟨_, ht.trans ?_, hone.append hrest⟩
          rw [Deframed.append_assoc]
        · rw [if_pos hforward, if_neg hforward, List.flatMap_nil, List.append_nil]
          exact ⟨_, rfl, hone⟩
      · have hback : ¬ field16 ntb i < nextNdp ntb (field16 ntb i) := by
          rw [nextNdp, if_neg hips]
          exact Nat.not_lt_zero _
        rw [if_pos hips, if_neg hback, ndpDatagrams, if_neg hips]
        exact ⟨_, rfl, hhead⟩
    · rw [if_neg hroom, Chain.follow_of_not_link hroom]
      exact ⟨{}, by rw [Deframed.append_empty], .empty _⟩

/-! ## Whole blocks -/

theorem toNat_ofNat_length (hlen : ntb.length + 4 < 2 ^ 32) :
    (UInt32.ofNat ntb.length).toNat = ntb.length :=
  UInt32.toNat_ofNat_of_lt' (Nat.lt_of_le_of_lt (Nat.le_add_right _ 4) hlen)

/-- The block length, as it is computed from the header. -/
theorem toNat_blockLength (hlen : ntb.length + 4 < 2 ^ 32) :
    (if (rd16 ntb 8).toUInt32 = 0 ∨ (rd16 ntb 8).toUInt32 > UInt32.ofNat ntb.length then
      UInt32.ofNat ntb.length else (rd16 ntb 8).toUInt32).toNat = blockLength ntb := by
  have hlarge : (rd16 ntb 8).toUInt32 > UInt32.ofNat ntb.length ↔ ntb.length < field16 ntb 8 := by
    rw [gt_iff_lt, UInt32.lt_iff_toNat_lt, toNat_ofNat_length hlen, toNat_rd16]
  rw [blockLength]
  simp only [rd16_eq_zero_iff, hlarge]
  split
  · exact toNat_ofNat_length hlen
  · exact toNat_rd16 8

/-- A block with a valid header, after the octets of the header. -/
theorem mbimNtb16Deframe_of_nth16 (hlen : ntb.length + 4 < 2 ^ 32) {fuel : Nat}
    (hfuel : ntb.length < fuel) (h : IsNth16 ntb) :
    ∃ s, mbimNtb16Deframe fuel ntb (UInt32.ofNat ntb.length) =
        some (s.count, { reads := nth16Reads } ++ s) ∧
      Adds s (ndpChain ntb) (datagrams ntb) (blockLength ntb) := by
  have hlong : ¬ UInt32.ofNat ntb.length < 12 := by
    rw [UInt32.lt_iff_toNat_lt, toNat_ofNat_length hlen]
    exact Nat.not_lt.mpr h.1
  have hwhole := blockLength_le ntb
  obtain ⟨s, hs, hadds⟩ := deframeNdps_adds (toNat_blockLength hlen) hlen fuel 10
    { reads := nth16Reads } (by omega) (by omega)
  refine ⟨s, ?_, hadds⟩
  rw [mbimNtb16Deframe, if_neg hlong, if_neg (not_not_intro h.2)]
  dsimp only
  rw [hs, Option.map_some]
  change some (0 + s.count, _) = _
  rw [Int32.zero_add]

/-- Anything else is refused before a table is looked at. -/
theorem mbimNtb16Deframe_of_not_nth16 (hlen : ntb.length + 4 < 2 ^ 32) (fuel : Nat)
    (h : ¬ IsNth16 ntb) :
    ∃ s, mbimNtb16Deframe fuel ntb (UInt32.ofNat ntb.length) = some (-1, s) ∧
      Adds s [] [] ntb.length := by
  rw [mbimNtb16Deframe]
  split
  · exact ⟨_, rfl, .empty _⟩
  · rename_i hlong
    have hheader : 12 ≤ ntb.length := by
      rw [UInt32.lt_iff_toNat_lt, toNat_ofNat_length hlen] at hlong
      exact Nat.not_lt.mp hlong
    rw [if_pos fun hsig => h ⟨hheader, hsig⟩]
    refine ⟨_, rfl, rfl, rfl, rfl, fun i hi => ?_⟩
    have := List.mem_range.mp hi
    omega

/-- Deframing ends on every block below the size where its 32-bit offsets wrap.  A valid
header leads through the chain of tables, forward only; behind the header only octets of
the block are read, and the callback gets the datagrams of the block in order.  The
returned `int` is their number where one can be. -/
theorem mbimNtb16Deframe_delivers (ntb : Bytes) (hlen : ntb.length + 4 < 2 ^ 32) (fuel : Nat)
    (hfuel : ntb.length < fuel) :
    ∃ result r, mbimNtb16Deframe fuel ntb (UInt32.ofNat ntb.length) = some (result, r) ∧
      (IsNth16 ntb →
        r.visited = ndpChain ntb ∧ r.visited.Pairwise (· < ·) ∧
        (∃ rest, r.reads = nth16Reads ++ rest ∧ ∀ i ∈ rest, i < blockLength ntb) ∧
        r.calls = datagrams ntb ∧
        (r.calls.length < 2 ^ 31 → result.toInt = r.calls.length)) ∧
      (¬ IsNth16 ntb →
        result = -1 ∧ r.calls = [] ∧ r.visited = [] ∧ ∀ i ∈ r.reads, i < ntb.length) := by
  by_cases h : IsNth16 ntb
  · obtain ⟨s, hs, hadds⟩ := mbimNtb16Deframe_of_nth16 hlen hfuel h
    have hvisited : ({ reads := nth16Reads } ++ s : Deframed).visited = ndpChain ntb := hadds.visited_eq
    refine ⟨_, _, hs, fun _ => ⟨hvisited, ?_, ⟨s.reads, rfl, hadds.reads_lt⟩, hadds.calls_eq, ?_⟩,
      fun hnot => absurd h hnot⟩
    · rw [hvisited]
      exact Chain.follow_sorted _
    · intro hsmall
      change s.calls.length < 2 ^ 31 at hsmall
      rw [hadds.count_eq]
      exact Int32.toInt_ofNat_of_lt hsmall
  · obtain ⟨s, hs, hadds⟩ := mbimNtb16Deframe_of_not_nth16 hlen fuel h
    exact ⟨_, _, hs, fun hyes => absurd hyes h,
      fun _ => ⟨rfl, hadds.calls_eq, hadds.visited_eq, hadds.reads_lt⟩⟩

/-- Two tables that name each other, with one datagram each. -/
def backwardLink : Bytes :=
  [0x4E, 0x43, 0x4D, 0x48, 12, 0, 0, 0, 96, 0, 32, 0, 0x45, 1, 2, 3] ++ List.replicate 16 0 ++
    [0x49, 0x50, 0x53, 0, 16, 0, 48, 0, 12, 0, 4, 0, 0, 0, 0, 0] ++
    [0x49, 0x50, 0x53, 0, 16, 0, 32, 0, 12, 0, 4, 0, 0, 0, 0, 0] ++ List.replicate 32 0

theorem backwardLink_delivers :
    ndpChain backwardLink = [32, 48] ∧ datagrams backwardLink = [(12, 4), (12, 4)] := by
  obtain ⟨result, r, hrun, hvalid, -⟩ :=
    mbimNtb16Deframe_delivers backwardLink (by decide) 97 (by decide)
  have hvisited := (hvalid (by decide)).1
  have hcalls := (hvalid (by decide)).2.2.2.1
  have heval : (mbimNtb16Deframe 97 backwardLink (UInt32.ofNat backwardLink.length)).map
      (fun out => (out.2.visited, out.2.calls)) = some ([32, 48], [(12, 4), (12, 4)]) := by
    decide +kernel
  rw [hrun, Option.map_some, Option.some.injEq, Prod.mk.injEq] at heval
  exact ⟨hvisited.symm.trans heval.1, hcalls.symm.trans heval.2⟩

/-! ## Limits -/

/-- A header that declares four octets. -/
def shortHeader : Bytes := [0x4E, 0x43, 0x4D, 0x48, 12, 0, 0, 0, 4, 0, 0, 0]

/-- One table that runs to the end of a transfer of 2³² - 1 octets, with no null entry. -/
def endlessHead : Bytes :=
  [0x4E, 0x43, 0x4D, 0x48, 12, 0, 0, 0, 0, 0, 12, 0, 0x49, 0x50, 0x53, 0, 4, 0, 0, 0]

def endlessBlock : Bytes := endlessHead ++ List.replicate (2 ^ 32 - 21) 1

/-- Three tables that each run to the end of a transfer of 2³² - 8 octets. -/
def crowdedHead : Bytes :=
  [0x4E, 0x43, 0x4D, 0x48, 12, 0, 0, 0, 0, 0, 12, 0, 0x49, 0x50, 0x53, 0, 4, 0, 20, 0,
   0x49, 0x50, 0x53, 0, 4, 0, 28, 0, 0x49, 0x50, 0x53, 0, 4, 0, 12, 0]

def crowdedBlock : Bytes := crowdedHead ++ List.replicate (2 ^ 32 - 44) 1

theorem octet_append_replicate {head : Bytes} {n : Nat} {x : UInt8} (hlo : head.length ≤ i)
    (hhi : i < head.length + n) : octet (head ++ List.replicate n x) i = x := by
  rw [octet_append_right hlo, octet_eq_getElem (by rw [List.length_replicate]; omega),
    List.getElem_replicate]

theorem rd16_append_left {b : Bytes} (h : i + 2 ≤ b.length) (rest : Bytes) :
    rd16 (b ++ rest) i = rd16 b i := by
  unfold rd16
  rw [octet_append_left (by omega), octet_append_left (by omega)]

theorem field16_append_left {b : Bytes} (h : i + 2 ≤ b.length) (rest : Bytes) :
    field16 (b ++ rest) i = field16 b i := congrArg UInt16.toNat (rd16_append_left h rest)

theorem field16_ne_zero_of_octet {b : Bytes} (h : octet b i = 1) : field16 b i ≠ 0 := by
  have hall := forall_octet (p := fun x => ((1 : UInt8).toUInt16 ||| x.toUInt16 <<< 8).toNat ≠ 0)
    (by decide +kernel) (octet b (i + 1))
  rw [field16, rd16, h]
  exact hall

theorem endlessBlock_length : endlessBlock.length = 2 ^ 32 - 1 := by
  rw [endlessBlock, List.length_append, List.length_replicate]
  rfl

theorem endlessBlock_entry_ne (hp : p + 4 ≤ 2 ^ 32) (hfour : p % 4 = 0) :
    entryAt endlessBlock p ≠ (0, 0) := by
  by_cases hhead : p + 4 ≤ endlessHead.length
  · have hcases : p = 0 ∨ p = 4 ∨ p = 8 ∨ p = 12 ∨ p = 16 := by
      change p + 4 ≤ 20 at hhead
      omega
    rw [endlessBlock, entryAt, field16_append_left (by omega), field16_append_left (by omega)]
    rcases hcases with rfl | rfl | rfl | rfl | rfl <;> decide +kernel
  · have hone : octet endlessBlock p = 1 := by
      change ¬ p + 4 ≤ 20 at hhead
      refine octet_append_replicate ?_ ?_
      · change 20 ≤ p
        omega
      · change p < 20 + (2 ^ 32 - 21)
        omega
    exact fun h => field16_ne_zero_of_octet hone (Prod.mk.inj h).1

/-- The sum of the loop's test wraps, so it never fails. -/
theorem deframeEntries_endless (fuel : Nat) (p : UInt32) (r : Deframed) (hp : p.toNat % 4 = 0) :
    deframeEntries endlessBlock 0xFFFFFFFF 0xFFFFFFFF fuel p r = none := by
  induction fuel generalizing p r with
  | zero => rfl
  | succ fuel ih =>
    have hguard : p + 4 ≤ 0xFFFFFFFF := UInt32.le_iff_toNat_le.mpr (by
      have := (p + 4).toNat_lt
      change _ ≤ 4294967295
      omega)
    have hnext : (p + 4).toNat % 4 = 0 := by
      rw [UInt32.toNat_add]
      change (p.toNat + 4) % 4294967296 % 4 = 0
      omega
    have hnull := endlessBlock_entry_ne (p := p.toNat) (by have := p.toNat_lt; omega) hp
    rw [deframeEntries, if_pos hguard]
    simp only [entry_null_iff, if_neg hnull, ih _ _ hnext, ite_self]

theorem mbimNtb16Deframe_endless (fuel : Nat) :
    mbimNtb16Deframe fuel endlessBlock (UInt32.ofNat endlessBlock.length) = none := by
  have hrd : ∀ i, i + 2 ≤ 20 → rd16 endlessBlock i = rd16 endlessHead i :=
    fun i hi => rd16_append_left hi _
  have hrd32 : ∀ i, i + 4 ≤ 20 → rd32 endlessBlock i = rd32 endlessHead i :=
    fun i hi => getLe32_append_left hi _
  have hlen : UInt32.ofNat endlessBlock.length = 0xFFFFFFFF := by
    rw [endlessBlock_length]
    rfl
  have hdeclared : (rd16 endlessBlock 8).toUInt32 = 0 := by
    rw [hrd 8 (by decide)]
    decide
  have hindex : (rd16 endlessBlock 10).toUInt32 = 12 := by
    rw [hrd 10 (by decide)]
    decide
  have hndps : deframeNdps endlessBlock 0xFFFFFFFF fuel 12 { reads := nth16Reads } = none := by
    cases fuel with
    | zero => rfl
    | succ fuel =>
      have hsig : ¬ rd32 endlessBlock (12 : UInt32).toNat &&& mbimNdp16SigMask ≠ mbimNdp16Signature := by
        rw [hrd32 _ (by decide)]
        decide
      have hshort : (rd16 endlessBlock ((12 : UInt32).toNat + 4)).toUInt32 < 8 := by
        rw [hrd _ (by decide)]
        decide
      rw [deframeNdps, if_pos (by decide)]
      dsimp only
      rw [if_neg hsig, if_pos (Or.inl hshort), deframeEntries_endless _ _ _ (by decide)]
      rfl
  rw [mbimNtb16Deframe, hlen, if_neg (by decide), if_neg]
  · dsimp only
    rw [hdeclared, hindex, if_pos (Or.inl rfl), hndps]
    rfl
  · rw [hrd32 0 (by decide)]
    decide

/-! Every entry of the crowded block names a datagram inside it. -/

theorem length_datagramsFrom
    (h : ∀ k, p + 4 * k + 4 ≤ stop → InBlock ntb (entryAt ntb (p + 4 * k))) :
    (datagramsFrom ntb stop p).length = (stop - p) / 4 := by
  have hall : ∀ e ∈ (Chain.strided 4 stop p).map (entryAt ntb), InBlock ntb e := by
    intro e he
    obtain ⟨q, hq, rfl⟩ := List.mem_map.mp he
    obtain ⟨k, rfl, hk⟩ := Chain.mem_strided hq
    exact h k hk
  have hentries : entriesFrom ntb stop p = (Chain.strided 4 stop p).map (entryAt ntb) := by
    refine List.takeWhile_eq_self_iff.mpr fun e he => ?_
    have hnonempty := (hall e he).1
    exact decide_eq_true fun hnull => hnonempty (congrArg Prod.snd hnull)
  rw [datagramsFrom, hentries, List.filter_eq_self.mpr fun e he => decide_eq_true (hall e he),
    List.length_map, Chain.length_strided (by decide)]

theorem crowdedBlock_length : crowdedBlock.length = 2 ^ 32 - 8 := by
  rw [crowdedBlock, List.length_append, List.length_replicate]
  rfl

theorem crowdedBlock_blockLength : blockLength crowdedBlock = 2 ^ 32 - 8 := by
  have hdeclared : field16 crowdedBlock 8 = 0 := by
    rw [crowdedBlock, field16_append_left (by decide)]
    decide
  rw [blockLength, if_pos (Or.inl hdeclared), crowdedBlock_length]

theorem crowdedBlock_inBlock (hlo : 20 ≤ p) (hhi : p + 4 ≤ 2 ^ 32 - 8) (hfour : p % 4 = 0) :
    InBlock crowdedBlock (entryAt crowdedBlock p) := by
  rw [InBlock, crowdedBlock_blockLength]
  have hindex := field16_lt crowdedBlock p
  have hsize := field16_lt crowdedBlock (p + 2)
  refine ⟨?_, by rw [entryAt]; omega⟩
  change field16 crowdedBlock (p + 2) ≠ 0
  by_cases hhead : p + 4 ≤ crowdedHead.length
  · have hcases : p = 20 ∨ p = 24 ∨ p = 28 ∨ p = 32 := by
      change p + 4 ≤ 36 at hhead
      omega
    rw [crowdedBlock, field16_append_left (by omega)]
    rcases hcases with rfl | rfl | rfl | rfl <;> decide +kernel
  · change ¬ p + 4 ≤ 36 at hhead
    refine field16_ne_zero_of_octet (octet_append_replicate ?_ ?_)
    · change 36 ≤ p + 2
      omega
    · change p + 2 < 36 + (2 ^ 32 - 44)
      omega

theorem crowdedBlock_isIps (h : i = 12 ∨ i = 20 ∨ i = 28) : IsIps crowdedBlock i := by
  rw [IsIps, crowdedBlock, rd32, getLe32_append_left (by change i + 4 ≤ 36; omega)]
  rcases h with rfl | rfl | rfl <;> decide

theorem crowdedBlock_ndpDatagrams (h : i = 12 ∨ i = 20 ∨ i = 28) :
    (ndpDatagrams crowdedBlock i).length = (2 ^ 32 - 8 - (i + 8)) / 4 := by
  have hshort : field16 crowdedBlock (i + 4) < 8 := by
    rw [crowdedBlock, field16_append_left (by change i + 4 + 2 ≤ 36; omega)]
    rcases h with rfl | rfl | rfl <;> decide
  have hend : ndpEnd crowdedBlock i = 2 ^ 32 - 8 := by
    rw [ndpEnd, if_pos (Or.inl hshort), crowdedBlock_blockLength]
  rw [ndpDatagrams, if_pos (crowdedBlock_isIps h), hend]
  exact length_datagramsFrom fun k hk => crowdedBlock_inBlock (by omega) hk (by omega)

theorem crowdedBlock_ndpChain : ndpChain crowdedBlock = [12, 20, 28] := by
  have hfield : ∀ i, i + 2 ≤ 36 → field16 crowdedBlock i = field16 crowdedHead i :=
    fun i hi => field16_append_left hi _
  have hlink : ∀ i, i = 12 ∨ i = 20 ∨ i = 28 → HasNdp crowdedBlock i := by
    intro i hi
    rw [HasNdp, crowdedBlock_blockLength]
    omega
  have hnext : ∀ i, i = 12 ∨ i = 20 ∨ i = 28 →
      nextNdp crowdedBlock i = field16 crowdedHead (i + 6) := fun i hi => by
    rw [nextNdp, if_pos (crowdedBlock_isIps hi), hfield _ (by omega)]
  have hbound : ∀ i, i = 12 ∨ i = 20 ∨ i = 28 → i < blockLength crowdedBlock := by
    intro i hi
    rw [crowdedBlock_blockLength]
    omega
  have hstep : ∀ i, i = 12 ∨ i = 20 ∨ i = 28 →
      Chain.follow (HasNdp crowdedBlock) (nextNdp crowdedBlock) (blockLength crowdedBlock) i =
        i :: if i < field16 crowdedHead (i + 6) then
          Chain.follow (HasNdp crowdedBlock) (nextNdp crowdedBlock) (blockLength crowdedBlock)
            (field16 crowdedHead (i + 6))
        else [] := fun i hi => by
    rw [Chain.follow_of_link (hbound i hi) (hlink i hi), hnext i hi]
  have hfirst : field16 crowdedHead 10 = 12 := by decide
  have hsecond : field16 crowdedHead (12 + 6) = 20 := by decide
  have hthird : field16 crowdedHead (20 + 6) = 28 := by decide
  have hlast : field16 crowdedHead (28 + 6) = 12 := by decide
  rw [ndpChain, hfield 10 (by decide), hfirst, hstep 12 (by decide), hsecond, if_pos (by decide),
    hstep 20 (by decide), hthird, if_pos (by decide), hstep 28 (by decide), hlast, if_neg (by decide)]

/-- More datagrams than an `int` can count. -/
theorem crowdedBlock_datagrams : 2 ^ 31 ≤ (datagrams crowdedBlock).length := by
  rw [datagrams, crowdedBlock_ndpChain]
  simp only [List.flatMap_cons, List.flatMap_nil, List.length_append,
    crowdedBlock_ndpDatagrams (.inl rfl), crowdedBlock_ndpDatagrams (.inr (.inl rfl)),
    crowdedBlock_ndpDatagrams (.inr (.inr rfl))]
  decide

/-- What is not a block returns -1 and not the number of callbacks; the header is read
whatever length it declares; and where the size of the transfer comes close to 2³², the
entries of a table need not end and their number need not fit an `int`. -/
theorem mbimNtb16Deframe_beyond :
    mbimNtb16Deframe 1 [] 0 = some (-1, {}) ∧
    (mbimNtb16Deframe 13 shortHeader 12 = some (0, { reads := nth16Reads }) ∧
      blockLength shortHeader = 4 ∧ 11 ∈ nth16Reads) ∧
    (∀ fuel, mbimNtb16Deframe fuel endlessBlock (UInt32.ofNat endlessBlock.length) = none) ∧
    ∃ result r, mbimNtb16Deframe (2 ^ 32) crowdedBlock (UInt32.ofNat crowdedBlock.length) =
      some (result, r) ∧ result.toInt ≠ r.calls.length := by
  refine ⟨rfl, ⟨by decide +kernel, by decide, by decide⟩, mbimNtb16Deframe_endless, ?_⟩
  have hlen := crowdedBlock_length
  have hnth : IsNth16 crowdedBlock := by
    refine ⟨by omega, ?_⟩
    rw [crowdedBlock, rd32, getLe32_append_left (by decide)]
    decide
  have hfuel : crowdedBlock.length < 2 ^ 32 := by omega
  obtain ⟨s, hs, hadds⟩ := mbimNtb16Deframe_of_nth16 (by omega) hfuel hnth
  refine ⟨_, _, hs, fun hcount => ?_⟩
  have hmany := crowdedBlock_datagrams
  have hmost : s.count.toInt < 2 ^ 31 := Int32.toInt_lt _
  have hcalls : ({ reads := nth16Reads } ++ s : Deframed).calls = datagrams crowdedBlock := hadds.calls_eq
  rw [hcalls] at hcount
  omega

end VirtualLte.Mbim
