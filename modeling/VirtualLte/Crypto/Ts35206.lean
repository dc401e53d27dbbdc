import VirtualLte.Crypto.Fips197
import VirtualLte.Crypto.Milenage

/-!
# Milenage against TS 35.206

The standard works on words of 128 bits, with rotations by bits and constants that are
numbers.  `ueMilenageCompute` does the same on arrays of octets: each of its outputs is a
slice of the corresponding word.
-/

namespace VirtualLte.Crypto

open BigEndian Fips197

namespace Ts35206

section

variable (e : BitVec 128 → BitVec 128) (opc rand : BitVec 128)

/-- TEMP. -/
def temp : BitVec 128 := e (rand ^^^ opc)

/-- IN1: sequence number and AMF, twice. -/
def in1 (sqn : BitVec 48) (amf : BitVec 16) : BitVec 128 := sqn ++ amf ++ sqn ++ amf

/-- OUT1, with r1 = 64 and c1 = 0. -/
def out1 (sqn : BitVec 48) (amf : BitVec 16) : BitVec 128 :=
  e (temp e opc rand ^^^ (in1 sqn amf ^^^ opc).rotateLeft 64 ^^^ 0) ^^^ opc

/-- OUT2 to OUT5, for the rotation `r` and the constant `c`. -/
def out (r : Nat) (c : BitVec 128) : BitVec 128 :=
  e ((temp e opc rand ^^^ opc).rotateLeft r ^^^ c) ^^^ opc

/-- The network authentication code. -/
def f1 (sqn : BitVec 48) (amf : BitVec 16) : BitVec 64 :=
  (out1 e opc rand sqn amf).extractLsb' 64 64

/-- The resynchronisation authentication code. -/
def f1Star (sqn : BitVec 48) (amf : BitVec 16) : BitVec 64 :=
  (out1 e opc rand sqn amf).extractLsb' 0 64

/-- The response. -/
def f2 : BitVec 64 := (out e opc rand 0 1).extractLsb' 0 64

/-- The cipher key. -/
def f3 : BitVec 128 := out e opc rand 32 2

/-- The integrity key. -/
def f4 : BitVec 128 := out e opc rand 64 4

/-- The anonymity key. -/
def f5 : BitVec 48 := (out e opc rand 0 1).extractLsb' 80 48

/-- The anonymity key of a resynchronisation. -/
def f5Star : BitVec 48 := (out e opc rand 96 8).extractLsb' 80 48

end

end Ts35206

/-! ## Blocks as words -/

theorem getLsbD_rotateLeft_mod (x : BitVec 128) {r j : Nat} (hr : r < 128) (hj : j < 128) :
    (x.rotateLeft r).getLsbD j = x.getLsbD ((j + 128 - r) % 128) := by
  rw [BitVec.getLsbD_rotateLeft, Nat.mod_eq_of_lt hr]
  by_cases hlow : j < r
  · rw [decide_eq_true hlow, cond_true]
    congr 1
    omega
  · rw [decide_eq_false hlow, cond_false, decide_eq_true hj, Bool.true_and]
    congr 1
    omega

theorem word_milenageRotate (a : Block) {r : Nat} (hr : r < 16) :
    word 128 (milenageRotate a r) = (word 128 a).rotateLeft (8 * r) := by
  refine BitVec.eq_of_getLsbD_eq fun j hj => ?_
  have hindex : (15 - j / 8 + r) % 16 = 15 - (j + 128 - 8 * r) % 128 / 8 := by omega
  have hbit : (j + 128 - 8 * r) % 128 % 8 = j % 8 := by omega
  have hlt : 15 - j / 8 < 16 := by omega
  rw [getLsbD_rotateLeft_mod _ (by omega) hj, getLsbD_word _ hj hj,
    getLsbD_word _ (by omega) (by omega), hbit]
  simp [milenageRotate, octet, hindex, hlt]

theorem word_xorLast (a : Block) (c : UInt8) :
    word 128 (xorLast a c) = word 128 a ^^^ c.toBitVec.setWidth 128 := by
  refine BitVec.eq_of_getLsbD_eq fun j hj => ?_
  rw [BitVec.getLsbD_xor, getLsbD_word _ hj hj, getLsbD_word _ hj hj, BitVec.getLsbD_setWidth]
  by_cases hlast : j < 8
  · simp [xorLast, hj, Nat.div_eq_of_lt hlast, Nat.mod_eq_of_lt hlast]
  · have hother : 15 - j / 8 ≠ 15 := by omega
    simp [xorLast, hother.symm, BitVec.getLsbD_of_ge c.toBitVec j (by omega)]

/-- Octets `d` to `d + m` of a block. -/
theorem word_slice (a : Block) {d m : Nat} (h : d + m ≤ 16) :
    word (8 * m) (vecOf m (a.toList.drop d)) =
      (word 128 a).extractLsb' (8 * (16 - d - m)) (8 * m) := by
  refine BitVec.eq_of_getLsbD_eq fun j hj => ?_
  have hindex : 16 - 1 - (8 * (16 - d - m) + j) / 8 = d + (m - 1 - j / 8) := by omega
  have hbit : (8 * (16 - d - m) + j) % 8 = j % 8 := by omega
  have hlt : m - 1 - j / 8 < m := by omega
  rw [BitVec.getLsbD_extractLsb', decide_eq_true hj, Bool.true_and, getLsbD_word _ hj hj,
    getLsbD_word _ (by omega) (by omega), hindex, hbit]
  simp [vecOf, octet, hlt]

theorem word_in1 (sqn : Vector UInt8 6) (amf : Vector UInt8 2) :
    word 128 (vecOf 16 (sqn.toList ++ amf.toList ++ sqn.toList ++ amf.toList)) =
      Ts35206.in1 (word 48 sqn) (word 16 amf) := by
  refine BitVec.eq_of_getLsbD_eq fun j hj => ?_
  rw [getLsbD_word _ hj hj, toList_vecOf (by simp), Ts35206.in1]
  simp only [BitVec.getLsbD_append]
  change (octet _ (15 - j / 8)).toBitVec.getLsbD _ = _
  split_ifs with h16 h64 h80
  · rw [octet_append_right (by simp; omega), getLsbD_word _ h16 h16]
    congr 3
    simp
    omega
  · rw [octet_append_left (by simp; omega), octet_append_right (by simp; omega),
      getLsbD_word _ h64 h64, show (j - 16) % 8 = j % 8 by omega]
    congr 3
    simp
    omega
  · rw [octet_append_left (by simp; omega), octet_append_left (by simp; omega),
      octet_append_right (by simp; omega), getLsbD_word _ h80 h80,
      show (j - 16 - 48) % 8 = j % 8 by omega]
    congr 3
    simp
    omega
  · rw [octet_append_left (by simp; omega), octet_append_left (by simp; omega),
      octet_append_left (by simp; omega), getLsbD_word _ (by omega) (by omega),
      show (j - 16 - 48 - 16) % 8 = j % 8 by omega]
    congr 3
    omega

section Outputs

variable (opc k rand : Block) (sqn : Vector UInt8 6) (amf : Vector UInt8 2)

/-- What the source computes for OUT2 to OUT5, from the rotation by `r` octets. -/
theorem word_out {r : Nat} (hr : r < 16) (c : UInt8) :
    word 128 (xorBlock (ueAes128EcbEncrypt k (xorLast (milenageRotate
      (xorBlock (ueAes128EcbEncrypt k (xorBlock rand opc)) opc) r) c)) opc) =
      Ts35206.out (encryptWord k) (word 128 opc) (word 128 rand) (8 * r)
        (c.toBitVec.setWidth 128) := by
  simp only [word_xorBlock, word_ueAes128EcbEncrypt, word_xorLast, word_milenageRotate _ hr]
  rfl

theorem word_out1 :
    word 128 (xorBlock (ueAes128EcbEncrypt k (xorBlock (milenageRotate (xorBlock
      (vecOf 16 (sqn.toList ++ amf.toList ++ sqn.toList ++ amf.toList)) opc) 8)
      (ueAes128EcbEncrypt k (xorBlock rand opc)))) opc) =
      Ts35206.out1 (encryptWord k) (word 128 opc) (word 128 rand) (word 48 sqn) (word 16 amf) := by
  simp only [word_xorBlock, word_ueAes128EcbEncrypt, word_milenageRotate _ (show 8 < 16 by omega),
    word_in1, Ts35206.out1, Ts35206.temp]
  change _ = encryptWord k (_ ^^^ 0#128) ^^^ _
  rw [BitVec.xor_comm (BitVec.rotateLeft _ _), BitVec.xor_zero]

/-- The outputs other than the two MACs. -/
def besideMacs (r : UeMilenageResult) :
    Vector UInt8 8 × Block × Block × Vector UInt8 6 × Vector UInt8 6 :=
  (r.res, r.ck, r.ik, r.ak, r.akStar)

/-- The seven outputs are those of the standard, and SQN and AMF enter f1 and f1* only. -/
theorem ueMilenageCompute_ts35206 :
    (∀ sqn' amf', besideMacs (ueMilenageCompute opc k rand sqn' amf') =
      besideMacs (ueMilenageCompute opc k rand sqn amf)) ∧
    let e := encryptWord k
    let r := ueMilenageCompute opc k rand sqn amf
    word 64 r.macA = Ts35206.f1 e (word 128 opc) (word 128 rand) (word 48 sqn) (word 16 amf) ∧
    word 64 r.macS = Ts35206.f1Star e (word 128 opc) (word 128 rand) (word 48 sqn) (word 16 amf) ∧
    word 64 r.res = Ts35206.f2 e (word 128 opc) (word 128 rand) ∧
    word 128 r.ck = Ts35206.f3 e (word 128 opc) (word 128 rand) ∧
    word 128 r.ik = Ts35206.f4 e (word 128 opc) (word 128 rand) ∧
    word 48 r.ak = Ts35206.f5 e (word 128 opc) (word 128 rand) ∧
    word 48 r.akStar = Ts35206.f5Star e (word 128 opc) (word 128 rand) := by
  have hout1 := word_out1 opc k rand sqn amf
  have hout2 := word_out opc k rand (show 0 < 16 by omega) 0x01
  rw [milenageRotate_zero] at hout2
  refine ⟨fun _ _ => by simp only [besideMacs, ueMilenageCompute], ?_⟩
  unfold ueMilenageCompute
  dsimp only
  refine ⟨?_, ?_, ?_, word_out opc k rand (show 4 < 16 by omega) 0x02,
    word_out opc k rand (show 8 < 16 by omega) 0x04, ?_, ?_⟩
  · exact (word_slice _ (show 0 + 8 ≤ 16 by omega)).trans (congrArg _ hout1)
  · exact (word_slice _ (show 8 + 8 ≤ 16 by omega)).trans (congrArg _ hout1)
  · exact (word_slice _ (show 8 + 8 ≤ 16 by omega)).trans (congrArg _ hout2)
  · exact (word_slice _ (show 0 + 6 ≤ 16 by omega)).trans (congrArg _ hout2)
  · exact (word_slice _ (show 0 + 6 ≤ 16 by omega)).trans
      (congrArg _ (word_out opc k rand (show 12 < 16 by omega) 0x08))

end Outputs

end VirtualLte.Crypto
