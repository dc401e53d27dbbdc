import VirtualLte.Crypto.Rfc4493
import VirtualLte.Nas.Security

/-!
# NIA2 and NEA2 against TS 33.501 Annex D

Both algorithms start from 64 bits made of COUNT, BEARER and DIRECTION.

* NIA2 is the CMAC over them and the message, of which 32 bits are sent.
* NEA2 is AES in counter mode, with a counter of 64 bits.  The source counts in the lower 32
  of them, which differs from the 2³²-th block on.
-/

namespace VirtualLte.Nas

open Crypto BigEndian Fips197

namespace AnnexD

section

variable (key : Block) (count : UInt32) (bearer direction : UInt8)

/-- COUNT, five bits of BEARER and one of DIRECTION, filled up with zeros. -/
def input : BitVec 64 :=
  count.toBitVec ++ (bearer.toBitVec.setWidth 5 ++ direction.toBitVec.setWidth 1 ++ 0#26)

/-- 128-NIA2 -/
def nia2 (msg : Bytes) : UInt32 :=
  let mac := Rfc4493.mac (encryptWord key) ((octets 8 (input count bearer direction)).toList ++ msg)
  ⟨mac.extractLsb' 96 32⟩

/-- Block `i` of the keystream of 128-NEA2. -/
def keystream (i : Nat) : BitVec 128 :=
  encryptWord key (input count bearer direction ++ BitVec.ofNat 64 i)

/-- 128-NEA2 -/
def nea2 (data : Bytes) : Bytes :=
  data.mapIdx fun j x =>
    x ^^^ octet (octets 16 (keystream key count bearer direction (j / 16))).toList (j % 16)

end

end AnnexD

/-! ## The input -/

theorem octets_toBitVec (v : UInt32) : (octets 4 v.toBitVec).toList = putBe32 v := by
  simp only [octets, Vector.toList_ofFn, putBe32, List.ofFn_succ, List.ofFn_zero, List.cons.injEq,
    and_true, ← UInt8.toBitVec_inj, UInt32.toBitVec_toUInt8, UInt32.toBitVec_shiftRight]
  refine ⟨?_, ?_, ?_, ?_⟩ <;> refine BitVec.eq_of_getLsbD_eq fun j hj => ?_ <;> simp [hj]

theorem octets_bearer (bearer direction : UInt8) :
    (octets 4 (bearer.toBitVec.setWidth 5 ++ direction.toBitVec.setWidth 1 ++ 0#26)).toList =
      [(bearer <<< 3) ||| ((direction &&& 1) <<< 2), 0, 0, 0] := by
  simp only [octets, Vector.toList_ofFn, List.ofFn_succ, List.ofFn_zero, List.cons.injEq, and_true,
    ← UInt8.toBitVec_inj]
  refine ⟨?_, ?_, ?_, ?_⟩ <;> refine BitVec.eq_of_getLsbD_eq fun j hj => ?_ <;>
    simp only [BitVec.getLsbD_extractLsb', BitVec.getLsbD_append] <;> interval_cases j <;> simp

section

variable (key : Block) (count : UInt32) (bearer direction : UInt8)

theorem octets_input :
    (octets 8 (AnnexD.input count bearer direction)).toList =
      nasCountInput count bearer direction := by
  have happ := octets_append (n := 4) (m := 4) count.toBitVec
    (bearer.toBitVec.setWidth 5 ++ direction.toBitVec.setWidth 1 ++ 0#26)
  rw [octets_toBitVec, octets_bearer] at happ
  exact happ

/-! ## NIA2 -/

theorem toBitVec_macWord (mac : Block) : (macWord mac).toBitVec = (word 128 mac).extractLsb' 96 32 := by
  have hslice := word_slice mac (d := 0) (m := 4) (by decide)
  rw [← hslice]
  apply BitVec.eq_of_toNat_eq
  have hlt := (macWord mac).toNat_lt
  have hdigits : ((vecOf 4 (mac.toList.drop 0)).toList.reverse.map UInt8.toNat) =
      [mac[3].toNat, mac[2].toNat, mac[1].toNat, mac[0].toNat] := by
    simp only [vecOf, Vector.toList_ofFn, List.ofFn_succ, List.ofFn_zero]
    simp [octet]
  rw [word, BitVec.toNat_ofNat, hdigits, UInt32.toNat_toBitVec]
  rw [macWord, getBe32_toNat] at hlt ⊢
  simp only [Nat.ofDigits_cons, Nat.ofDigits_nil]
  omega

theorem macWord_ueAesCmac (msg : Bytes) :
    macWord (ueAesCmac key (nasCountInput count bearer direction ++ msg)) =
      AnnexD.nia2 key count bearer direction msg := by
  rw [← UInt32.toBitVec_inj, toBitVec_macWord, word_ueAesCmac, AnnexD.nia2, octets_input]

/-! ## NEA2 -/

theorem ctrIncrement_input (c : UInt32) :
    ctrIncrement (vecOf 16 (nasCountInput count bearer direction ++ (putBe32 0 ++ putBe32 c))) =
      vecOf 16 (nasCountInput count bearer direction ++ (putBe32 0 ++ putBe32 (c + 1))) := by
  refine Vector.ext fun i hi => ?_
  unfold ctrIncrement vecOf
  interval_cases i <;> simp [nasCountInput, putBe32, octet, getBe32_putBe32]

theorem ctrBlock_input (i : Nat) :
    ctrBlock (vecOf 16 (nasCountInput count bearer direction)) i =
      vecOf 16 (nasCountInput count bearer direction ++ (putBe32 0 ++ putBe32 (UInt32.ofNat i))) := by
  induction i with
  | zero => exact (vecOf_append_zeros (nasCountInput count bearer direction) 8).symm
  | succ i ih =>
    rw [ctrBlock, ih, ctrIncrement_input, UInt32.ofNat_add]
    rfl

/-- Below 2³² the two counters are the same. -/
theorem octets_counter {i : Nat} (hi : i < 2 ^ 32) :
    (octets 8 (BitVec.ofNat 64 i)).toList = putBe32 0 ++ putBe32 (UInt32.ofNat i) := by
  have hsplit : BitVec.ofNat 64 i = (0 : UInt32).toBitVec ++ (UInt32.ofNat i).toBitVec := by
    apply BitVec.eq_of_toNat_eq
    rw [BitVec.toNat_append, BitVec.toNat_ofNat, Nat.mod_eq_of_lt (by omega)]
    simp only [UInt32.toBitVec_ofNat', BitVec.toNat_ofNat, Nat.mod_eq_of_lt hi]
    simp
  have happ := octets_append (n := 4) (m := 4) (0 : UInt32).toBitVec (UInt32.ofNat i).toBitVec
  rw [octets_toBitVec, octets_toBitVec] at happ
  rw [hsplit]
  exact happ

theorem octets_keystream {i : Nat} (hi : i < 2 ^ 32) :
    octets 16 (AnnexD.keystream key count bearer direction i) =
      ueAes128EcbEncrypt key (ctrBlock (vecOf 16 (nasCountInput count bearer direction)) i) := by
  have happ := octets_append (n := 8) (m := 8) (AnnexD.input count bearer direction)
    (BitVec.ofNat 64 i)
  rw [octets_input, octets_counter hi] at happ
  rw [AnnexD.keystream, encryptWord, ctrBlock_input, ueAes128EcbEncrypt_eq_cipher, ← happ]
  exact (octets_word _).trans (congrArg (cipher subByte key) (vecOf_toList _).symm)

theorem aes128Ctr_eq_nea2 {data : Bytes} (hlen : data.length ≤ 2 ^ 36) :
    aes128Ctr key (vecOf 16 (nasCountInput count bearer direction)) data =
      AnnexD.nea2 key count bearer direction data := by
  unfold aes128Ctr AnnexD.nea2
  refine List.ext_getElem (by simp) fun j hj _ => ?_
  rw [List.length_mapIdx] at hj
  rw [List.getElem_mapIdx, List.getElem_mapIdx, octets_keystream key count bearer direction (by omega)]

/-- Masking twice gives the data back. -/
theorem nea2_nea2 (data : Bytes) :
    AnnexD.nea2 key count bearer direction (AnnexD.nea2 key count bearer direction data) = data := by
  refine List.ext_getElem (by simp [AnnexD.nea2]) fun j _ _ => ?_
  simp [AnnexD.nea2]

end

end VirtualLte.Nas
