import VirtualLte.Mbim.Builder
import VirtualLte.Mbim.Deframing

/-!
# A datagram framed and deframed

`mbim_ntb16_frame_single` against `mbim_ntb16_deframe`: the block that is framed carries
its one datagram, and nothing is written behind it.

* `frameLength` is the length of the frame of a datagram, aligned.
* `FrameFits.datagrams_eq` reads the one datagram back off the memory written.
* The length is a 32-bit sum.  `toNat_frameTotal` says what comes out: up to
  2³² - 32 octets the sum is the length, and beyond that a number below 32.
* `RoundTrips` is what a caller may rely on, and `roundTrips_iff` says when it can.
-/

namespace VirtualLte.Mbim

/-! ## Fields -/

theorem rd16_wr16 (v : UInt16) : rd16 (wr16 v) 0 = v := by
  apply UInt16.toBitVec_inj.mp
  change (v.toBitVec.setWidth 8).setWidth 16 |||
    (((v.toBitVec >>> 8).setWidth 8).setWidth 16 <<< 8) = v.toBitVec
  ext i hi
  simp
  grind

theorem field16_snapshot {log : WriteLog.Log UInt8} {off n : Nat} {v : UInt16}
    (h : WriteLog.Holds 0 log off (wr16 v)) (hlen : off + 2 ≤ n) :
    field16 (WriteLog.snapshot 0 log n) off = v.toNat := by
  have hoctet : ∀ k, k < 2 → octet (WriteLog.snapshot 0 log n) (off + k) = octet (wr16 v) k :=
    fun k hk => octet_snapshot h hlen hk
  have hword : rd16 (WriteLog.snapshot 0 log n) off = rd16 (wr16 v) 0 := by
    unfold rd16
    rw [← Nat.add_zero off, Nat.add_assoc, hoctet 0 (by decide), hoctet 1 (by decide)]
  rw [field16, hword, rd16_wr16]

/-! ## The frame of one datagram -/

/-- The length of the frame of `n` octets. -/
def frameLength (n : Nat) : Nat := align4 (12 + n) + 16

section Frame

variable {ip : Bytes} {ipLen : UInt32} {sequence : UInt16} {ndpOff total : UInt32}

@[simp] theorem wr16_length (v : UInt16) : (wr16 v).length = 2 := rfl

theorem frameWrites_beside (h : 12 + ipLen.toNat ≤ ndpOff.toNat) :
    (frameWrites ip ipLen sequence ndpOff total).Pairwise WriteLog.Beside := by
  apply WriteLog.pairwise_beside
  simp only [frameWrites, List.isChain_cons_cons, WriteLog.Above, wr16_length, putLe32_length,
    slice_length]
  simp
  omega

/-- Each field of the frame is read back. -/
theorem holds_frame (h : 12 + ipLen.toNat ≤ ndpOff.toNat) {w : Nat × Bytes}
    (hw : w ∈ frameWrites ip ipLen sequence ndpOff total) :
    WriteLog.Holds 0
      (frameWrites ip ipLen sequence ndpOff total ++ WriteLog.clear 0 0 total.toNat []) w.1 w.2 :=
  WriteLog.holds_of_mem (frameWrites_beside h) hw

theorem frame_below (h : ndpOff.toNat + 16 = total.toNat) (hdatagram : 12 + ipLen.toNat ≤ ndpOff.toNat) :
    WriteLog.Below (frameWrites ip ipLen sequence ndpOff total ++
      WriteLog.clear 0 0 total.toNat []) total.toNat := by
  simp only [frameWrites, List.cons_append, List.nil_append, WriteLog.below_write, wr16_length,
    putLe32_length, slice_length, WriteLog.below_clear, WriteLog.below_nil, and_true]
  omega

/-- The block that `frameWrites` leaves. -/
def framedBlock (ip : Bytes) (ipLen : UInt32) (sequence : UInt16) (ndpOff total : UInt32) : Bytes :=
  WriteLog.snapshot 0
    (frameWrites ip ipLen sequence ndpOff total ++ WriteLog.clear 0 0 total.toNat []) total.toNat

@[simp] theorem framedBlock_length :
    (framedBlock ip ipLen sequence ndpOff total).length = total.toNat := WriteLog.snapshot_length _ _

/-- The sizes of a frame that is not too long. -/
structure FrameFits (ip : Bytes) (ipLen ndpOff total : UInt32) : Prop where
  ipLen_eq : ipLen.toNat = ip.length
  nonempty : ip.length ≠ 0
  ndpOff_eq : ndpOff.toNat = align4 (12 + ip.length)
  total_eq : total.toNat = frameLength ip.length
  total_le : total.toNat ≤ 65535

namespace FrameFits

variable (h : FrameFits ip ipLen ndpOff total)
include h

theorem datagram_le : 12 + ipLen.toNat ≤ ndpOff.toNat := by
  rw [h.ipLen_eq, h.ndpOff_eq]
  exact le_align4 _

theorem end_eq : ndpOff.toNat + 16 = total.toNat := by
  rw [h.total_eq, h.ndpOff_eq, frameLength]

theorem field_eq {off : Nat} {v : UInt16}
    (hw : (off, wr16 v) ∈ frameWrites ip ipLen sequence ndpOff total) (hlen : off + 2 ≤ total.toNat) :
    field16 (framedBlock ip ipLen sequence ndpOff total) off = v.toNat :=
  field16_snapshot (holds_frame h.datagram_le hw) hlen

theorem word_eq {off : Nat} {v : UInt32}
    (hw : (off, wr32 v) ∈ frameWrites ip ipLen sequence ndpOff total) (hlen : off + 4 ≤ total.toNat) :
    rd32 (framedBlock ip ipLen sequence ndpOff total) off = v :=
  getLe32_snapshot (holds_frame h.datagram_le hw) hlen

theorem slice_eq : slice (framedBlock ip ipLen sequence ndpOff total) 12 ip.length = ip := by
  have hroom := h.datagram_le
  have hend := h.end_eq
  have hcopy : slice ip 0 ipLen.toNat = ip := by
    rw [h.ipLen_eq]
    simpa using slice_append_mid [] ip []
  have hheld : WriteLog.Holds 0 (frameWrites ip ipLen sequence ndpOff total ++
      WriteLog.clear 0 0 total.toNat []) 12 (slice ip 0 ipLen.toNat) :=
    holds_frame h.datagram_le (w := (12, slice ip 0 ipLen.toNat)) (by simp [frameWrites])
  rw [hcopy] at hheld
  exact slice_snapshot hheld (by rw [← h.ipLen_eq]; omega)

theorem isNth16 : IsNth16 (framedBlock ip ipLen sequence ndpOff total) := by
  have hend := h.end_eq
  have hroom := h.datagram_le
  refine ⟨?_, h.word_eq (by simp [frameWrites]) (by omega)⟩
  rw [framedBlock_length]
  omega

theorem blockLength_eq : blockLength (framedBlock ip ipLen sequence ndpOff total) = total.toNat := by
  have hend := h.end_eq
  have hroom := h.datagram_le
  have hle := h.total_le
  have hdeclared : field16 (framedBlock ip ipLen sequence ndpOff total) 8 = total.toUInt16.toNat :=
    h.field_eq (by simp [frameWrites]) (by omega)
  have hsame : total.toUInt16.toNat = total.toNat := by
    rw [UInt32.toNat_toUInt16]
    omega
  rw [blockLength, hdeclared, hsame, framedBlock_length]
  exact if_neg (by omega)

theorem ndpChain_eq : ndpChain (framedBlock ip ipLen sequence ndpOff total) = [ndpOff.toNat] := by
  have hend := h.end_eq
  have hroom := h.datagram_le
  have hle := h.total_le
  have hfirst : field16 (framedBlock ip ipLen sequence ndpOff total) 10 = ndpOff.toNat := by
    rw [h.field_eq (v := ndpOff.toUInt16) (by simp [frameWrites]) (by omega), UInt32.toNat_toUInt16]
    omega
  have hlink : HasNdp (framedBlock ip ipLen sequence ndpOff total) ndpOff.toNat := by
    rw [HasNdp, h.blockLength_eq]
    omega
  have hlast : nextNdp (framedBlock ip ipLen sequence ndpOff total) ndpOff.toNat = 0 := by
    have hfield : field16 (framedBlock ip ipLen sequence ndpOff total) (ndpOff.toNat + 6) = 0 :=
      h.field_eq (v := 0) (by simp [frameWrites]) (by omega)
    rw [nextNdp, hfield]
    exact ite_self _
  rw [ndpChain, hfirst, Chain.follow_of_link (by rw [h.blockLength_eq]; omega) hlink, hlast]
  rfl

theorem datagrams_eq :
    datagrams (framedBlock ip ipLen sequence ndpOff total) = [(12, ip.length)] := by
  have hend := h.end_eq
  have hroom := h.datagram_le
  have hle := h.total_le
  have hlen := h.ipLen_eq
  have hips : IsIps (framedBlock ip ipLen sequence ndpOff total) ndpOff.toNat := by
    rw [IsIps, h.word_eq (v := mbimNdp16Signature) (by simp [frameWrites]) (by omega)]
    decide
  have hsize : field16 (framedBlock ip ipLen sequence ndpOff total) (ndpOff.toNat + 4) = 16 :=
    h.field_eq (v := 16) (by simp [frameWrites]) (by omega)
  have hstop : ndpEnd (framedBlock ip ipLen sequence ndpOff total) ndpOff.toNat = ndpOff.toNat + 16 := by
    rw [ndpEnd, hsize, h.blockLength_eq]
    exact if_neg (by omega)
  have hentry : entryAt (framedBlock ip ipLen sequence ndpOff total) (ndpOff.toNat + 8) =
      (12, ip.length) := by
    rw [entryAt, h.field_eq (v := 12) (by simp [frameWrites]) (by omega),
      h.field_eq (v := ipLen.toUInt16) (by simp [frameWrites]) (by omega), UInt32.toNat_toUInt16, hlen,
      Nat.mod_eq_of_lt (by omega)]
    rfl
  have hnull : entryAt (framedBlock ip ipLen sequence ndpOff total) (ndpOff.toNat + 8 + 4) = (0, 0) := by
    rw [entryAt, h.field_eq (v := 0) (by simp [frameWrites]) (by omega),
      h.field_eq (v := 0) (by simp [frameWrites]) (by omega)]
    rfl
  have hin : InBlock (framedBlock ip ipLen sequence ndpOff total)
      (entryAt (framedBlock ip ipLen sequence ndpOff total) (ndpOff.toNat + 8)) := by
    rw [hentry, InBlock, h.blockLength_eq]
    exact ⟨h.nonempty, by omega⟩
  rw [datagrams, h.ndpChain_eq, List.flatMap_cons, List.flatMap_nil, List.append_nil, ndpDatagrams,
    if_pos hips, hstop,
    datagramsFrom_of_inBlock (by omega) (fun hzero => hin.1 (congrArg Prod.snd hzero)) hin,
    datagramsFrom_of_null (by omega) hnull, hentry]

/-- Deframing the block hands on the datagram and nothing else. -/
theorem deframes {fuel : Nat} (hfuel : total.toNat < fuel) :
    ∃ r, mbimNtb16Deframe fuel (framedBlock ip ipLen sequence ndpOff total) total = some (1, r) ∧
      r.calls.map (fun e => slice (framedBlock ip ipLen sequence ndpOff total) e.1 e.2) = [ip] := by
  have hle := h.total_le
  have hsame : UInt32.ofNat (framedBlock ip ipLen sequence ndpOff total).length = total := by
    rw [framedBlock_length, UInt32.ofNat_toNat]
  have hshort : (framedBlock ip ipLen sequence ndpOff total).length + 4 < 2 ^ 32 := by
    rw [framedBlock_length]
    omega
  obtain ⟨s, hs, hadds⟩ := mbimNtb16Deframe_of_nth16 hshort (by rwa [framedBlock_length]) h.isNth16
  have hcalls : s.calls = [(12, ip.length)] := hadds.calls_eq.trans h.datagrams_eq
  have hcount : s.count = 1 := by
    rw [hadds.count_eq, hcalls]
    rfl
  rw [hsame, hcount] at hs
  refine ⟨_, hs, ?_⟩
  change s.calls.map _ = _
  rw [hcalls, List.map_singleton, h.slice_eq]

end FrameFits

end Frame

/-! ## The length of the frame -/

/-- The offset of the table, as it is computed. -/
def frameNdpOff (ipLen : UInt32) : UInt32 := (12 + ipLen + 3) &&& ~~~3

theorem toNat_frameNdpOff (ipLen : UInt32) :
    (frameNdpOff ipLen).toNat = (12 + ipLen.toNat + 3) % 2 ^ 32 / 4 * 4 := by
  rw [frameNdpOff, toNat_and_not_three, UInt32.toNat_add, UInt32.toNat_add]
  change ((12 + ipLen.toNat) % 2 ^ 32 + 3) % 2 ^ 32 / 4 * 4 = _
  rw [Nat.mod_add_mod]

theorem toNat_frameTotal (ipLen : UInt32) :
    (frameNdpOff ipLen + 16).toNat =
      if ipLen.toNat + 31 < 2 ^ 32 then frameLength ipLen.toNat
      else (ipLen.toNat + 31 - 2 ^ 32) / 4 * 4 := by
  have hlt := ipLen.toNat_lt
  rw [UInt32.toNat_add, toNat_frameNdpOff, frameLength, align4]
  change ((12 + ipLen.toNat + 3) % 2 ^ 32 / 4 * 4 + 16) % 2 ^ 32 = _
  split <;> omega

theorem mbimNtb16FrameSingle_eq (cap : UInt32) (ip : Bytes) (ipLen : UInt32) (sequence : UInt16) :
    mbimNtb16FrameSingle cap ip ipLen sequence =
      if ipLen = 0 ∨ cap < frameNdpOff ipLen + 16 ∨ 0xFFFF < frameNdpOff ipLen + 16 then (0, [])
      else (frameNdpOff ipLen + 16,
        frameWrites ip ipLen sequence (frameNdpOff ipLen) (frameNdpOff ipLen + 16) ++
          WriteLog.clear 0 0 (frameNdpOff ipLen + 16).toNat []) := rfl

/-! ## The round trip -/

/-- Nothing is written, or a frame within the capacity that deframes to the datagram; and
nothing is what comes out of an empty datagram or one whose frame does not fit. -/
structure RoundTrips (cap : UInt32) (ip : Bytes) (out : UInt32 × WriteLog.Log UInt8) : Prop where
  framed : (out.1 = 0 ∧ out.2 = []) ∨
    (out.1 ≤ cap ∧ out.1 ≤ 65535 ∧ WriteLog.Below out.2 out.1.toNat ∧
      ∀ fuel, out.1.toNat < fuel →
        ∃ r, mbimNtb16Deframe fuel (WriteLog.snapshot 0 out.2 out.1.toNat) out.1 = some (1, r) ∧
          r.calls.map (fun e => slice (WriteLog.snapshot 0 out.2 out.1.toNat) e.1 e.2) = [ip])
  refused_iff : out.1 = 0 ↔ ip = [] ∨ min cap.toNat 65535 < frameLength ip.length

/-- Refusing is right where the datagram is empty or the frame does not fit. -/
theorem RoundTrips.refused {cap : UInt32} {ip : Bytes}
    (h : ip = [] ∨ min cap.toNat 65535 < frameLength ip.length) : RoundTrips cap ip (0, []) :=
  ⟨.inl ⟨rfl, rfl⟩, iff_of_true rfl h⟩

section Single

variable {cap : UInt32} {ip : Bytes} {sequence : UInt16}

theorem toNat_ipLen (ip : Bytes) (hlen : ip.length < 2 ^ 32) :
    (UInt32.ofNat ip.length).toNat = ip.length :=
  UInt32.toNat_ofNat_of_lt' hlen

theorem frameTotal_of_lt (hlen : ip.length + 31 < 2 ^ 32) :
    (frameNdpOff (UInt32.ofNat ip.length) + 16).toNat = frameLength ip.length := by
  rw [toNat_frameTotal, toNat_ipLen ip (by omega), if_pos hlen]

theorem frameTotal_of_wrap (hbound : ip.length < 2 ^ 32) (hlen : ¬ ip.length + 31 < 2 ^ 32) :
    (frameNdpOff (UInt32.ofNat ip.length) + 16).toNat = (ip.length + 31 - 2 ^ 32) / 4 * 4 := by
  rw [toNat_frameTotal, toNat_ipLen ip hbound, if_neg hlen]

/-- The three tests of the code, where the sum does not wrap. -/
theorem frame_refused_iff (hlen : ip.length + 31 < 2 ^ 32) :
    (UInt32.ofNat ip.length = 0 ∨ cap < frameNdpOff (UInt32.ofNat ip.length) + 16 ∨
        0xFFFF < frameNdpOff (UInt32.ofNat ip.length) + 16) ↔
      ip = [] ∨ min cap.toNat 65535 < frameLength ip.length := by
  rw [UInt32.lt_iff_toNat_lt, UInt32.lt_iff_toNat_lt, frameTotal_of_lt hlen, ← UInt32.toNat_inj,
    toNat_ipLen ip (by omega), ← List.length_eq_zero_iff, min_lt_iff]
  rfl

theorem roundTrips_of_lt (hlen : ip.length + 31 < 2 ^ 32) :
    RoundTrips cap ip (mbimNtb16FrameSingle cap ip (UInt32.ofNat ip.length) sequence) := by
  rw [mbimNtb16FrameSingle_eq]
  by_cases hrefused : ip = [] ∨ min cap.toNat 65535 < frameLength ip.length
  · rw [if_pos ((frame_refused_iff hlen).mpr hrefused)]
    exact .refused hrefused
  · rw [if_neg (mt (frame_refused_iff hlen).mp hrefused)]
    obtain ⟨hnonempty, hfits⟩ := not_or.mp hrefused
    have hsize := toNat_ipLen ip (by omega)
    have htotal := frameTotal_of_lt hlen
    have hfit : FrameFits ip (UInt32.ofNat ip.length) (frameNdpOff (UInt32.ofNat ip.length))
        (frameNdpOff (UInt32.ofNat ip.length) + 16) := by
      refine ⟨hsize, fun h => hnonempty (List.length_eq_zero_iff.mp h), ?_, htotal, by omega⟩
      rw [toNat_frameNdpOff, hsize, align4]
      omega
    refine ⟨.inr ⟨?_, ?_, frame_below hfit.end_eq hfit.datagram_le, fun fuel => hfit.deframes⟩, ?_⟩
    · rw [UInt32.le_iff_toNat_le, htotal]
      omega
    · rw [UInt32.le_iff_toNat_le, htotal]
      change _ ≤ 65535
      omega
    · refine iff_of_false (fun hzero => ?_) hrefused
      have := congrArg UInt32.toNat hzero
      rw [htotal, frameLength] at this
      exact absurd this (Nat.succ_ne_zero _)

/-- Where the sum wraps to more than the capacity, the frame is refused all the same. -/
theorem roundTrips_of_wrap (hbound : ip.length < 2 ^ 32) (hlen : ¬ ip.length + 31 < 2 ^ 32)
    (hcap : cap.toNat < (ip.length + 31 - 2 ^ 32) / 4 * 4) :
    RoundTrips cap ip (mbimNtb16FrameSingle cap ip (UInt32.ofNat ip.length) sequence) := by
  have htest : cap < frameNdpOff (UInt32.ofNat ip.length) + 16 := by
    rw [UInt32.lt_iff_toNat_lt, frameTotal_of_wrap hbound hlen]
    exact hcap
  rw [mbimNtb16FrameSingle_eq, if_pos (.inr (.inl htest))]
  refine .refused (.inr ?_)
  have hle := le_align4 (12 + ip.length)
  rw [frameLength]
  omega

/-- Where it wraps to no more than that, the copy of the datagram goes on behind the frame. -/
theorem mbimNtb16FrameSingle_of_wrap (sequence : UInt16) (hbound : ip.length < 2 ^ 32)
    (hlen : ¬ ip.length + 31 < 2 ^ 32) (hcap : (ip.length + 31 - 2 ^ 32) / 4 * 4 ≤ cap.toNat) :
    (mbimNtb16FrameSingle cap ip (UInt32.ofNat ip.length) sequence).1.toNat =
        (ip.length + 31 - 2 ^ 32) / 4 * 4 ∧
      (12, slice ip 0 ip.length) ∈
        (mbimNtb16FrameSingle cap ip (UInt32.ofNat ip.length) sequence).2 := by
  have hsize := toNat_ipLen ip hbound
  have htotal := frameTotal_of_wrap hbound hlen
  have hpasses : ¬ (UInt32.ofNat ip.length = 0 ∨ cap < frameNdpOff (UInt32.ofNat ip.length) + 16 ∨
      0xFFFF < frameNdpOff (UInt32.ofNat ip.length) + 16) := by
    rw [UInt32.lt_iff_toNat_lt, UInt32.lt_iff_toNat_lt, htotal, ← UInt32.toNat_inj, hsize]
    change ¬ (ip.length = 0 ∨ _ ∨ 65535 < _)
    omega
  rw [mbimNtb16FrameSingle_eq, if_neg hpasses]
  refine ⟨htotal, List.mem_append_left _ ?_⟩
  rw [frameWrites, hsize]
  simp

theorem not_roundTrips_of_wrap (hbound : ip.length < 2 ^ 32) (hlen : ¬ ip.length + 31 < 2 ^ 32)
    (hcap : (ip.length + 31 - 2 ^ 32) / 4 * 4 ≤ cap.toNat) :
    ¬ RoundTrips cap ip (mbimNtb16FrameSingle cap ip (UInt32.ofNat ip.length) sequence) := by
  obtain ⟨htotal, hcopy⟩ := mbimNtb16FrameSingle_of_wrap sequence hbound hlen hcap
  rintro ⟨⟨-, hempty⟩ | ⟨-, -, hbelow, -⟩, -⟩
  · rw [hempty] at hcopy
    exact absurd hcopy List.not_mem_nil
  · have hlast := hbelow _ hcopy (12 + ip.length - 1) (by dsimp only; omega)
      (by rw [slice_length]; omega)
    rw [htotal] at hlast
    omega

end Single

/-- A datagram comes through framing and deframing as it is, or is refused, exactly where
the length of its frame is a 32-bit number or the capacity is below what is left of it. -/
theorem roundTrips_iff (cap : UInt32) (ip : Bytes) (sequence : UInt16) (hbound : ip.length < 2 ^ 32) :
    RoundTrips cap ip (mbimNtb16FrameSingle cap ip (UInt32.ofNat ip.length) sequence) ↔
      ip.length + 31 < 2 ^ 32 ∨ cap.toNat < (ip.length + 31 - 2 ^ 32) / 4 * 4 := by
  by_cases hlen : ip.length + 31 < 2 ^ 32
  · exact iff_of_true (roundTrips_of_lt hlen) (.inl hlen)
  · by_cases hcap : cap.toNat < (ip.length + 31 - 2 ^ 32) / 4 * 4
    · exact iff_of_true (roundTrips_of_wrap hbound hlen hcap) (.inr hcap)
    · exact iff_of_false (not_roundTrips_of_wrap hbound hlen (Nat.not_lt.mp hcap))
        (not_or.mpr ⟨hlen, hcap⟩)

/-- A datagram of four octets, in the buffer of the downlink. -/
theorem roundTrips_four_octets :
    RoundTrips 2048 [0x45, 1, 2, 3] (mbimNtb16FrameSingle 2048 [0x45, 1, 2, 3] 4 7) :=
  (roundTrips_iff 2048 [0x45, 1, 2, 3] 7 (by decide)).mpr (.inl (by decide))

def longestDatagram : Bytes := List.replicate (2 ^ 32 - 1) 0

/-- 2³² - 1 octets pass the test of the same buffer as a frame of 28. -/
theorem frame_of_longest :
    (mbimNtb16FrameSingle 2048 longestDatagram 0xFFFFFFFF 7).1 = 28 ∧
      ¬ RoundTrips 2048 longestDatagram (mbimNtb16FrameSingle 2048 longestDatagram 0xFFFFFFFF 7) := by
  have hlength : longestDatagram.length = 2 ^ 32 - 1 := List.length_replicate
  have hsize : (0xFFFFFFFF : UInt32) = UInt32.ofNat longestDatagram.length := by
    rw [hlength]
    rfl
  have hcap : (longestDatagram.length + 31 - 2 ^ 32) / 4 * 4 ≤ (2048 : UInt32).toNat := by
    rw [hlength]
    decide
  rw [hsize]
  constructor
  · have hleft : (longestDatagram.length + 31 - 2 ^ 32) / 4 * 4 = (28 : UInt32).toNat := by
      rw [hlength]
      rfl
    exact UInt32.toNat_inj.mp
      ((mbimNtb16FrameSingle_of_wrap 7 (by omega) (by omega) hcap).1.trans hleft)
  · exact not_roundTrips_of_wrap (by omega) (by omega) hcap

end VirtualLte.Mbim
