import VirtualLte.Lib.WriteLog
import VirtualLte.Mbim.Wire

/-!
# What the builder leaves in the information buffer

The rules of the write log, for the builder of `mbim_wire.c`.

* `MbimWireBuilder.Holds` and `MbimWireBuilder.Below` are the assertions of the log.
* `getLe32_info` and `slice_info` read them off the finished buffer.
* `mbimWireReserve_fits` and `mbimWireReserve_overflows` say what a reservation does.
* `mbimWireAppendString_appended`: a string that has room lies between the old length
  and the new one.
-/

namespace VirtualLte.Mbim

/-! ## Words and writes -/

@[simp] theorem le32s_length (vs : List UInt32) : (le32s vs).length = 4 * vs.length := by
  induction vs with
  | nil => rfl
  | cons v vs ih =>
    rw [le32s, List.flatMap_cons, List.length_append, putLe32_length]
    have hrest : (vs.flatMap putLe32).length = 4 * vs.length := ih
    rw [hrest, List.length_cons]
    omega

theorem byteAt_eq_read (log : List (Nat × Bytes)) (i : Nat) : byteAt log i = WriteLog.read 0 log i := by
  induction log with
  | nil => rfl
  | cons w log ih =>
    unfold byteAt WriteLog.read
    rw [ih]
    rfl

/-! What a memory holds, read off the first octets of it. -/

section Snapshot

variable {log : WriteLog.Log UInt8} {off n : Nat}

theorem octet_snapshot {data : Bytes} (h : WriteLog.Holds 0 log off data)
    (hlen : off + data.length ≤ n) {k : Nat} (hk : k < data.length) :
    octet (WriteLog.snapshot 0 log n) (off + k) = octet data k := by
  rw [octet, List.getD_eq_getElem?_getD, WriteLog.Holds.getElem?_snapshot h hlen hk]
  rfl

theorem getLe32_snapshot {v : UInt32} (h : WriteLog.Holds 0 log off (putLe32 v))
    (hlen : off + 4 ≤ n) : getLe32 (WriteLog.snapshot 0 log n) off = v := by
  have hoctet : ∀ k, k < 4 → octet (WriteLog.snapshot 0 log n) (off + k) = octet (putLe32 v) k :=
    fun k hk => octet_snapshot h hlen hk
  have hword : getLe32 (WriteLog.snapshot 0 log n) off = getLe32 (putLe32 v) 0 := by
    unfold getLe32
    rw [← Nat.add_zero off, Nat.add_assoc, hoctet 0 (by decide), hoctet 1 (by decide),
      hoctet 2 (by decide), hoctet 3 (by decide)]
  rw [hword]
  exact List.append_nil (putLe32 v) ▸ getLe32_putLe32 v []

theorem slice_snapshot {data : Bytes} (h : WriteLog.Holds 0 log off data)
    (hlen : off + data.length ≤ n) : slice (WriteLog.snapshot 0 log n) off data.length = data := by
  apply List.ext_getElem
  · rw [slice_length]
  · intro k hk hk'
    rw [← octet_eq_getElem hk']
    simp only [slice, List.getElem_map, List.getElem_range]
    exact octet_snapshot h hlen hk'

end Snapshot

namespace MbimWireBuilder

/-- The information buffer contains `data` from `off` on. -/
def Holds (b : MbimWireBuilder) (off : Nat) (data : Bytes) : Prop := WriteLog.Holds 0 b.buf off data

/-- Nothing was written at `bound` or behind it. -/
def Below (b : MbimWireBuilder) (bound : Nat) : Prop := WriteLog.Below b.buf bound

variable {b : MbimWireBuilder} {off : Nat}

theorem info_eq_snapshot (b : MbimWireBuilder) :
    b.info = WriteLog.snapshot 0 b.buf b.len.toNat :=
  List.map_congr_left fun i _ => byteAt_eq_read b.buf i

@[simp] theorem info_length (b : MbimWireBuilder) : b.info.length = b.len.toNat := by
  rw [info_eq_snapshot, WriteLog.snapshot_length]

theorem getLe32_info {v : UInt32} (h : b.Holds off (Mbim.putLe32 v))
    (hlen : off + 4 ≤ b.len.toNat) : getLe32 b.info off = v := by
  rw [info_eq_snapshot]
  exact getLe32_snapshot h hlen

theorem slice_info {data : Bytes} (h : b.Holds off data) (hlen : off + data.length ≤ b.len.toNat) :
    slice b.info off data.length = data := by
  rw [info_eq_snapshot]
  exact slice_snapshot h hlen

theorem holds_le32s_cons {v : UInt32} {vs : List UInt32} :
    b.Holds off (le32s (v :: vs)) ↔ b.Holds off (Mbim.putLe32 v) ∧ b.Holds (off + 4) (le32s vs) :=
  WriteLog.holds_append

end MbimWireBuilder

/-- The last writes to a buffer, newest first. -/
def MbimWireBuilder.puts (b : MbimWireBuilder) (ws : List (Nat × Bytes)) : MbimWireBuilder :=
  { b with buf := ws ++ b.buf }

section Puts

variable {b : MbimWireBuilder} {ws : List (Nat × Bytes)}

theorem MbimWireBuilder.holds_puts (hbeside : ws.Pairwise WriteLog.Beside) {w : Nat × Bytes}
    (hw : w ∈ ws) : (b.puts ws).Holds w.1 w.2 :=
  WriteLog.holds_of_mem hbeside hw

theorem MbimWireBuilder.Holds.puts {off : Nat} {data : Bytes} (h : b.Holds off data)
    (hbeside : ∀ w ∈ ws, WriteLog.Beside (off, data) w) : (b.puts ws).Holds off data :=
  WriteLog.Holds.writes h hbeside

end Puts

/-! ## Reservations -/

theorem toNat_add_of_le {a b bound : UInt32} (h : a.toNat + b.toNat ≤ bound.toNat) :
    (a + b).toNat = a.toNat + b.toNat := by
  rw [UInt32.toNat_add]
  exact Nat.mod_eq_of_lt (Nat.lt_of_le_of_lt h bound.toNat_lt)

theorem mbimWireReserve_guard (b : MbimWireBuilder) (n : UInt32) :
    (n > b.cap || b.len > b.cap - n) = decide (b.cap.toNat < b.len.toNat + n.toNat) := by
  rw [Bool.eq_iff_iff, Bool.or_eq_true, decide_eq_true_eq, decide_eq_true_eq, decide_eq_true_eq,
    gt_iff_lt, gt_iff_lt, UInt32.lt_iff_toNat_lt, UInt32.lt_iff_toNat_lt]
  by_cases hn : n.toNat ≤ b.cap.toNat
  · rw [UInt32.toNat_sub_of_le b.cap n (UInt32.le_iff_toNat_le.mpr hn)]
    omega
  · omega

/-- A reservation that has room. -/
theorem mbimWireReserve_fits {b : MbimWireBuilder} {n : UInt32}
    (h : b.len.toNat + n.toNat ≤ b.cap.toNat) :
    mbimWireReserve b n = (b.len, { b with
      len := b.len + n
      buf := WriteLog.clear 0 b.len.toNat n.toNat b.buf }) := by
  unfold mbimWireReserve WriteLog.clear
  dsimp only
  rw [mbimWireReserve_guard, decide_eq_false (by omega), if_neg (by decide)]
  have hzero : n ≠ 0 ↔ n.toNat ≠ 0 := not_congr (UInt32.toNat_inj (b := 0)).symm
  by_cases hn : n = 0
  · rw [if_neg (not_not.mpr hn), if_neg (mt hzero.mpr (not_not.mpr hn))]
  · rw [if_pos hn, if_pos (hzero.mp hn)]
    rfl

/-- A reservation that has none takes nothing, and gives the offset all the same. -/
theorem mbimWireReserve_overflows {b : MbimWireBuilder} {n : UInt32}
    (h : b.cap.toNat < b.len.toNat + n.toNat) :
    mbimWireReserve b n = (b.len, { b with overflow := true }) := by
  unfold mbimWireReserve
  dsimp only
  rw [mbimWireReserve_guard, decide_eq_true h, if_pos rfl]

section Reserve

variable (b : MbimWireBuilder) (n : UInt32)

theorem mbimWireReserve_fst : (mbimWireReserve b n).1 = b.len := by
  unfold mbimWireReserve
  dsimp only
  split <;> rfl

@[simp] theorem mbimWireReserve_cap :
    (mbimWireReserve b n).2.cap = b.cap := by
  unfold mbimWireReserve
  dsimp only
  split
  · rfl
  · dsimp only
    split <;> rfl

theorem mbimWireReserve_overflow :
    (mbimWireReserve b n).2.overflow =
      (b.overflow || decide (b.cap.toNat < b.len.toNat + n.toNat)) := by
  by_cases hroom : b.len.toNat + n.toNat ≤ b.cap.toNat
  · rw [mbimWireReserve_fits hroom, decide_eq_false (Nat.not_lt.mpr hroom), Bool.or_false]
  · rw [mbimWireReserve_overflows (Nat.not_le.mp hroom), decide_eq_true (Nat.not_le.mp hroom),
      Bool.or_true]

variable {b n} in
/-- A reservation only adds writes. -/
theorem mbimWireReserve_below {bound : Nat} (h : (mbimWireReserve b n).2.Below bound) :
    b.Below bound := by
  by_cases hroom : b.len.toNat + n.toNat ≤ b.cap.toNat
  · rw [mbimWireReserve_fits hroom] at h
    exact (WriteLog.below_clear.mp h).2
  · rw [mbimWireReserve_overflows (Nat.not_le.mp hroom)] at h
    exact h

end Reserve

/-! ## Alignment -/

theorem and_not_three (x : BitVec 32) : x &&& ~~~(3#32) = (x >>> 2) <<< 2 := by
  have hthree : ∀ i : Fin 32, (3#32)[i.val] = decide (i.val < 2) := by decide
  ext i hi
  rw [BitVec.getElem_and, BitVec.getElem_not, hthree ⟨i, hi⟩, BitVec.getElem_shiftLeft]
  by_cases hlow : i < 2
  · simp [hlow]
  · have hback : 2 + (i - 2) = i := by omega
    simp [hlow, BitVec.getElem_ushiftRight, hback, BitVec.getLsbD_eq_getElem hi]

/-- `n` rounded up to a multiple of four. -/
def align4 (n : Nat) : Nat := (n + 3) / 4 * 4

theorem le_align4 (n : Nat) : n ≤ align4 n := by
  unfold align4
  omega

theorem align4_le (n : Nat) : align4 n ≤ n + 3 := Nat.div_mul_le_self _ _

theorem toNat_and_not_three (x : UInt32) : (x &&& ~~~3).toNat = x.toNat / 4 * 4 := by
  have hbits : (x &&& ~~~3).toBitVec = (x.toBitVec >>> 2) <<< 2 := and_not_three _
  have hnat := congrArg BitVec.toNat hbits
  rw [BitVec.toNat_shiftLeft, BitVec.toNat_ushiftRight, Nat.shiftLeft_eq,
    Nat.shiftRight_eq_div_pow] at hnat
  have hx := x.toNat_lt
  change (x &&& ~~~3).toBitVec.toNat = x.toBitVec.toNat / 4 * 4
  rw [hnat]
  change x.toNat / 4 * 4 % 4294967296 = x.toNat / 4 * 4
  omega

theorem mbimAlign4_toNat {v : UInt32} (h : v.toNat + 3 < 2 ^ 32) :
    (mbimAlign4 v).toNat = align4 v.toNat := by
  rw [mbimAlign4, toNat_and_not_three, UInt32.toNat_add]
  change (v.toNat + 3) % 2 ^ 32 / 4 * 4 = _
  rw [Nat.mod_eq_of_lt h, align4]

/-! ## Strings -/

/-- `b'` is `b` with `n` octets more, and nothing of `b` was touched. -/
structure MbimWireBuilder.Extends (b b' : MbimWireBuilder) (n : Nat) : Prop where
  cap : b'.cap = b.cap
  frameBase : b'.frameBase = b.frameBase
  overflow : b'.overflow = b.overflow
  len : b'.len.toNat = b.len.toNat + n
  keeps : ∀ off data, b.Holds off data → off + data.length ≤ b.len.toNat → b'.Holds off data

theorem mbimWireReserve_extends {b : MbimWireBuilder} {n : UInt32}
    (h : b.len.toNat + n.toNat ≤ b.cap.toNat) :
    b.Extends (mbimWireReserve b n).2 n.toNat ∧
      (mbimWireReserve b n).2.Holds b.len.toNat (List.replicate n.toNat 0) := by
  rw [mbimWireReserve_fits h]
  exact ⟨⟨rfl, rfl, rfl, toNat_add_of_le h, fun _ _ hold hend => .clear hold (.inl hend)⟩,
    WriteLog.holds_clear _ _ _⟩

/-- The octets of a string of `n` characters. -/
def utf16Room (n : Nat) : Nat := align4 (2 * n)

theorem utf16Room_le {n : Nat} (h : n ≤ 63) : utf16Room n ≤ 128 := by
  unfold utf16Room align4
  omega

@[simp] theorem mbimWireWriteUtf16le_length (src : Bytes) :
    (mbimWireWriteUtf16le src).length = 2 * src.length := by
  induction src with
  | nil => rfl
  | cons c src ih =>
    have hrest : (src.flatMap fun c => [c, 0]).length = 2 * src.length := ih
    rw [mbimWireWriteUtf16le, List.flatMap_cons, List.length_append, hrest]
    simp only [List.length_cons, List.length_nil]
    omega

/-- The pair, which counts from `base`, gives the octets of a text. -/
structure MbimWireBuilder.HoldsText (b : MbimWireBuilder) (base : Nat) (ref : MbimString)
    (ascii : Bytes) : Prop where
  length : ref.length.toNat = 2 * ascii.length
  inside : base + (ref.offset.toNat + ref.length.toNat) ≤ b.len.toNat
  text : b.Holds (base + ref.offset.toNat) (mbimWireWriteUtf16le ascii)

/-- A string that has room is put behind everything else, and its pair counts from the
frame. -/
theorem mbimWireAppendString_appended (b : MbimWireBuilder) (ascii : Bytes)
    (hascii : ascii.length ≤ 63) (hflag : b.overflow = false)
    (hroom : b.len.toNat + utf16Room ascii.length ≤ b.cap.toNat)
    (hframe : b.frameBase.toNat ≤ b.len.toNat) :
    ∃ ref b', mbimWireAppendString b ascii = (ref, b') ∧
      b.Extends b' (utf16Room ascii.length) ∧ b'.HoldsText b.frameBase.toNat ref ascii ∧
      (ascii ≠ [] → b.frameBase.toNat + ref.offset.toNat = b.len.toNat) := by
  have hlen : (UInt32.ofNat ascii.length * 2).toNat = 2 * ascii.length := by
    rw [UInt32.toNat_mul, UInt32.toNat_ofNat']
    change ascii.length % 2 ^ 32 * 2 % 2 ^ 32 = _
    omega
  have hpad : (mbimAlign4 (UInt32.ofNat ascii.length * 2)).toNat = utf16Room ascii.length := by
    rw [mbimAlign4_toNat (by omega), hlen, utf16Room]
  unfold mbimWireAppendString
  dsimp only
  by_cases hzero : UInt32.ofNat ascii.length * 2 = 0
  · have hnil : ascii.length = 0 := by
      rw [hzero] at hlen
      change 0 = _ at hlen
      omega
    rw [if_pos hzero, List.eq_nil_of_length_eq_zero hnil]
    exact ⟨_, _, rfl, ⟨rfl, rfl, rfl, rfl, fun _ _ hold _ => hold⟩,
      ⟨rfl, hframe, WriteLog.holds_nil _ _⟩, absurd rfl⟩
  · rw [if_neg hzero]
    rw [← hpad] at hroom
    obtain ⟨hext, -⟩ := mbimWireReserve_extends hroom
    rw [mbimWireReserve_fst, hext.overflow, hflag, if_neg (by decide)]
    rw [hpad] at hext
    have hfit : 2 * ascii.length ≤ utf16Room ascii.length := le_align4 _
    have hstart : b.frameBase.toNat + (b.len - b.frameBase).toNat = b.len.toNat := by
      rw [UInt32.toNat_sub_of_le _ _ (UInt32.le_iff_toNat_le.mpr hframe)]
      omega
    rw [hext.frameBase]
    refine ⟨_, _, rfl, ⟨hext.cap, hext.frameBase, ?_, hext.len, fun off data hold hend => ?_⟩,
      ⟨hlen, ?_, ?_⟩, fun _ => hstart⟩
    · exact hext.overflow
    · exact .write (hext.keeps off data hold hend) (.inl hend)
    · change b.frameBase.toNat + ((b.len - b.frameBase).toNat +
        (UInt32.ofNat ascii.length * 2).toNat) ≤ (mbimWireReserve b _).2.len.toNat
      rw [hext.len, hlen]
      omega
    · rw [hstart]
      exact WriteLog.holds_write _ _ _

end VirtualLte.Mbim
