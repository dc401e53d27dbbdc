import VirtualLte.Crypto.Aes
import VirtualLte.Lib.BigEndian
import VirtualLte.Lib.BinaryField

/-!
# AES-128 against FIPS-197

The cipher as the standard has it, over the field of 256 elements, and the code's functions
equal to it one by one.  The state is the block itself: row `r` of column `c` is octet
`r + 4 * c`.

* `subByte_inverse`: the table is the affine transform of the inverse in the field.
* `aesKeyExpansion_word`: the 44 words of the schedule satisfy its recurrence.
* `aesShiftRows_eq`, `aesMixColumns_eq`: the permutation and the matrix product.
-/

namespace VirtualLte.Crypto

open BinaryField BigEndian

namespace Fips197

/-- The product of GF(2^8), modulo x^8 + x^4 + x^3 + x + 1. -/
def gfMul (a b : UInt8) : UInt8 := ⟨mul 0x1b#8 b.toBitVec a.toBitVec⟩

/-- Bit `i` of the result is the sum of bits `i`, `i + 4`, `i + 5`, `i + 6` and `i + 7` and of
bit `i` of `0x63`. -/
def affine (b : UInt8) : UInt8 :=
  let x := b.toBitVec
  ⟨x ^^^ x.rotateLeft 4 ^^^ x.rotateLeft 3 ^^^ x.rotateLeft 2 ^^^ x.rotateLeft 1 ^^^ 0x63#8⟩

/-- The inverse, with zero for zero. -/
def IsInverse (x y : UInt8) : Prop := if x = 0 then y = 0 else gfMul x y = 1

instance (x y : UInt8) : Decidable (IsInverse x y) :=
  inferInstanceAs (Decidable (if x = 0 then y = 0 else gfMul x y = 1))

/-- The round constant of round `j`: the power `j - 1` of x. -/
def rcon (j : Nat) : UInt8 := (gfMul 2)^[j - 1] 1

/-- Octet `k` of word `i` of the key schedule. -/
def keyWord (sbox : UInt8 → UInt8) (key : Block) (i k : Nat) : UInt8 :=
  if i < 4 then octet key.toList (4 * i + k)
  else
    keyWord sbox key (i - 4) k ^^^
      if i % 4 = 0 then
        -- SubWord of RotWord, with the round constant in the first octet
        sbox (keyWord sbox key (i - 1) ((k + 1) % 4)) ^^^ if k = 0 then rcon (i / 4) else 0
      else keyWord sbox key (i - 1) k
termination_by i

def subBytes (sbox : UInt8 → UInt8) (s : Block) : Block := Vector.ofFn fun i => sbox (s.get i)

/-- Row `r` moves `r` columns to the left. -/
def shiftRows (s : Block) : Block :=
  Vector.ofFn fun i => octet s.toList (i % 4 + 4 * ((i / 4 + i % 4) % 4))

/-- Each column is multiplied by the circulant matrix of `2, 3, 1, 1`. -/
def mixColumns (s : Block) : Block :=
  Vector.ofFn fun i =>
    let a (k : Nat) := octet s.toList ((i % 4 + k) % 4 + 4 * (i / 4))
    gfMul 2 (a 0) ^^^ gfMul 3 (a 1) ^^^ gfMul 1 (a 2) ^^^ gfMul 1 (a 3)

def addRoundKey (w : Nat → Nat → UInt8) (round : Nat) (s : Block) : Block :=
  Vector.ofFn fun i => s.get i ^^^ w (4 * round + i / 4) (i % 4)

/-- The cipher of ten rounds. -/
def cipher (sbox : UInt8 → UInt8) (key input : Block) : Block :=
  let w := keyWord sbox key
  let s := (List.range' 1 9).foldl
    (fun s r => addRoundKey w r (mixColumns (shiftRows (subBytes sbox s)))) (addRoundKey w 0 input)
  addRoundKey w 10 (shiftRows (subBytes sbox s))

end Fips197

open Fips197

/-! ## The field -/

/-- The product of octets is the product of the polynomials they stand for, in every ring of
characteristic two with a root of the polynomial of the standard. -/
theorem gfMul_value {K : Type*} [CommRing K] [CharP K 2] (α : K)
    (hroot : α ^ 8 = α ^ 4 + α ^ 3 + α + 1) (a b : UInt8) :
    value α (gfMul a b).toBitVec = value α a.toBitVec * value α b.toBitVec := by
  have htail : value α 0x1b#8 = α ^ 4 + α ^ 3 + α + 1 := by
    simp [value, Finset.sum_range_succ]
    ring
  rw [gfMul, value_mul α (hroot.trans htail.symm), mul_comm]

theorem gfMul2_eq (x : UInt8) : gfMul2 x = ⟨double 0x1b#8 x.toBitVec⟩ :=
  forall_octet (p := fun x => gfMul2 x = ⟨double 0x1b#8 x.toBitVec⟩) (by decide +kernel) x

theorem gfMul_one (x : UInt8) : gfMul 1 x = x := by
  simp [gfMul, mul, double, List.range_succ]

theorem gfMul_two (x : UInt8) : gfMul 2 x = gfMul2 x := by
  simp [gfMul2_eq, gfMul, mul, double, List.range_succ]

theorem gfMul_three (x : UInt8) : gfMul 3 x = gfMul2 x ^^^ x := by
  simp [gfMul2_eq, gfMul, mul, double, List.range_succ]

theorem subByte_inverse (x : UInt8) : ∃ y, IsInverse x y ∧ subByte x = affine y := by
  let unaffine (b : UInt8) : UInt8 :=
    ⟨b.toBitVec.rotateLeft 1 ^^^ b.toBitVec.rotateLeft 3 ^^^ b.toBitVec.rotateLeft 6 ^^^ 0x05#8⟩
  refine ⟨unaffine (subByte x), ?_⟩
  revert x
  exact forall_octet (by decide +kernel)

/-! ## The key schedule -/

theorem keyWord_of_le {sbox : UInt8 → UInt8} {key : Block} {i : Nat} (h : 4 ≤ i) (k : Nat) :
    keyWord sbox key i k = keyWord sbox key (i - 4) k ^^^
      if i % 4 = 0 then
        sbox (keyWord sbox key (i - 1) ((k + 1) % 4)) ^^^ if k = 0 then rcon (i / 4) else 0
      else keyWord sbox key (i - 1) k := by
  rw [keyWord, if_neg (by omega)]

theorem octet_aesRcon {j : Nat} (h1 : 1 ≤ j) (h10 : j ≤ 10) : octet aesRcon j = rcon j := by
  interval_cases j <;> decide +kernel

/-- The first `4 * i` octets of the schedule are its first `i` words. -/
def HoldsWords (key : Block) (rk : Bytes) (i : Nat) : Prop :=
  rk.length = 4 * i ∧ ∀ j < i, ∀ k < 4, octet rk (4 * j + k) = keyWord subByte key j k

theorem aesKeyExpansionWord_holds {key : Block} {rk : Bytes} {i : Nat} (hi : 4 ≤ i) (hlast : i < 44)
    (h : HoldsWords key rk i) : HoldsWords key (aesKeyExpansionWord rk i) (i + 1) := by
  obtain ⟨hlen, hwords⟩ := h
  refine ⟨by simp [aesKeyExpansionWord, hlen]; omega, fun j hj k hk => ?_⟩
  unfold aesKeyExpansionWord
  by_cases hold : j < i
  · rw [octet_append_left (by omega)]
    exact hwords j hold k hk
  obtain rfl : j = i := by omega
  have hprev (k : Nat) (hk : k < 4) : octet rk ((j - 1) * 4 + k) = keyWord subByte key (j - 1) k := by
    rw [Nat.mul_comm, hwords _ (by omega) k hk]
  have hold (k : Nat) (hk : k < 4) : octet rk ((j - 4) * 4 + k) = keyWord subByte key (j - 4) k := by
    rw [Nat.mul_comm, hwords _ (by omega) k hk]
  have hmap (f : Nat → UInt8) : octet ((List.range 4).map f) k = f k := by
    simp [octet, hk]
  rw [octet_append_right (by omega), hlen, Nat.add_sub_cancel_left, hmap, keyWord_of_le hi,
    hold k hk]
  congr 1
  have hfirst : octet rk ((j - 1) * 4) = keyWord subByte key (j - 1) 0 := hprev 0 (by omega)
  by_cases hround : j % 4 = 0
  · have hrcon : octet aesRcon (j / 4) = rcon (j / 4) := octet_aesRcon (by omega) (by omega)
    interval_cases k <;> simp [hround, hprev, hfirst, hrcon]
  · interval_cases k <;> simp [hround, hprev, hfirst]

theorem aesKeyExpansion_word (key : Block) {i k : Nat} (hi : i < 44) (hk : k < 4) :
    octet (aesKeyExpansion key) (4 * i + k) = keyWord subByte key i k := by
  have hturns (n : Nat) (hn : n ≤ 40) :
      HoldsWords key ((List.range' 4 n).foldl aesKeyExpansionWord key.toList) (4 + n) := by
    induction n with
    | zero =>
      refine ⟨by simp, fun j hj k hk => ?_⟩
      rw [keyWord, if_pos hj]
      rfl
    | succ n ih =>
      rw [List.range'_concat, List.foldl_append, Nat.one_mul]
      exact aesKeyExpansionWord_holds (by omega) (by omega) (ih (by omega))
  exact (hturns 40 (Nat.le_refl _)).2 i hi k hk

/-! ## The rounds -/

theorem aesSubBytes_eq (s : Block) : aesSubBytes s = subBytes subByte s := by
  refine Vector.ext fun i hi => ?_
  simp [aesSubBytes, subBytes, Vector.get_eq_getElem]

theorem aesShiftRows_eq (s : Block) : aesShiftRows s = shiftRows s := by
  refine Vector.ext fun i hi => ?_
  interval_cases i <;> simp [aesShiftRows, shiftRows, octet]

theorem aesMixColumns_eq (s : Block) : aesMixColumns s = mixColumns s := by
  refine Vector.ext fun i hi => ?_
  simp only [mixColumns, gfMul_one, gfMul_two, gfMul_three]
  interval_cases i <;> simp [aesMixColumns, aesMixColumn, octet] <;> ac_rfl

theorem aesAddRoundKey_eq (s key : Block) {r : Nat} (hr : r ≤ 10) :
    aesAddRoundKey s (aesKeyExpansion key) (r * 16) = addRoundKey (keyWord subByte key) r s := by
  have hwords := @aesKeyExpansion_word key
  generalize aesKeyExpansion key = rk at hwords
  refine Vector.ext fun i hi => ?_
  have hword := @hwords (4 * r + i / 4) (i % 4) (by omega) (by omega)
  rw [show 4 * (4 * r + i / 4) + i % 4 = r * 16 + i by omega] at hword
  simp [aesAddRoundKey, addRoundKey, xorBlock, vecOf, octet_drop, Vector.get_eq_getElem, ← hword]

theorem ueAes128EcbEncrypt_eq_cipher (key input : Block) :
    ueAes128EcbEncrypt key input = cipher subByte key input := by
  have hround (s : Block) (r : Nat) (hr : r ∈ List.range' 1 9) :
      aesAddRoundKey (aesMixColumns (aesShiftRows (aesSubBytes s))) (aesKeyExpansion key) (r * 16) =
        addRoundKey (keyWord subByte key) r (mixColumns (shiftRows (subBytes subByte s))) := by
    have hr10 := (List.mem_range'_1.mp hr).2
    rw [aesAddRoundKey_eq _ _ (by omega), aesMixColumns_eq, aesShiftRows_eq, aesSubBytes_eq]
  unfold ueAes128EcbEncrypt cipher
  dsimp only
  rw [show (0 : Nat) = 0 * 16 from rfl, show 160 = 10 * 16 from rfl, aesAddRoundKey_eq _ _ (by omega),
    aesAddRoundKey_eq _ _ (by omega), aesShiftRows_eq, aesSubBytes_eq,
    List.foldl_ext _ _ _ hround]

/-! ## On words -/

theorem word_xorBlock (a b : Block) : word 128 (xorBlock a b) = word 128 a ^^^ word 128 b :=
  word_xor a b

/-- The cipher under `key`, on words. -/
def encryptWord (key : Block) (x : BitVec 128) : BitVec 128 := word 128 (cipher subByte key (octets 16 x))

theorem word_ueAes128EcbEncrypt (key a : Block) :
    word 128 (ueAes128EcbEncrypt key a) = encryptWord key (word 128 a) := by
  rw [encryptWord, ueAes128EcbEncrypt_eq_cipher]
  exact congrArg (word 128 <| cipher subByte key ·) (octets_word a).symm

/-! ## In place -/

theorem aesShiftRowsInPlace_eq (s : Block) : aesShiftRowsInPlace s = shiftRows s := by
  rw [← aesShiftRows_eq]
  refine Vector.ext fun i hi => ?_
  interval_cases i <;> simp [aesShiftRowsInPlace, aesShiftRows]

/-- The sixteen octets of a memory from `p` on. -/
def blockAt (mem : Nat → UInt8) (p : Nat) : Block := Vector.ofFn fun i => mem (p + i)

/-- The call with its three buffers in one memory.  The round keys and the state are local
arrays, and the result is copied out at the end. -/
def ueAes128EcbEncryptAt (mem : Nat → UInt8) (key input output : Nat) (a : Nat) : UInt8 :=
  let s := ueAes128EcbEncrypt (blockAt mem key) (blockAt mem input)
  if output ≤ a ∧ a < output + 16 then octet s.toList (a - output) else mem a

theorem blockAt_ueAes128EcbEncryptAt (mem : Nat → UInt8) (key input output : Nat) :
    blockAt (ueAes128EcbEncryptAt mem key input output) output =
      cipher subByte (blockAt mem key) (blockAt mem input) := by
  rw [← ueAes128EcbEncrypt_eq_cipher]
  refine Vector.ext fun i hi => ?_
  simp [blockAt, ueAes128EcbEncryptAt, octet]

/-- The cipher of the source is that of the standard, wherever its buffers lie. -/
theorem ueAes128EcbEncrypt_fips197 :
    (∀ (K : Type) [CommRing K] [CharP K 2] (α : K), α ^ 8 = α ^ 4 + α ^ 3 + α + 1 →
      ∀ a b, value α (gfMul a b).toBitVec = value α a.toBitVec * value α b.toBitVec) ∧
    (∀ x, ∃ y, IsInverse x y ∧ subByte x = affine y) ∧
    (∀ key (i : Fin 44) (k : Fin 4),
      octet (aesKeyExpansion key) (4 * i + k) = keyWord subByte key i k) ∧
    (∀ s, aesShiftRowsInPlace s = shiftRows s) ∧
    (∀ s, aesMixColumns s = mixColumns s) ∧
    (∀ key input, ueAes128EcbEncrypt key input = cipher subByte key input) ∧
    ∀ mem key input output,
      blockAt (ueAes128EcbEncryptAt mem key input output) output =
        cipher subByte (blockAt mem key) (blockAt mem input) :=
  ⟨fun _ _ _ => gfMul_value, subByte_inverse,
    fun key i k => aesKeyExpansion_word key i.isLt k.isLt, aesShiftRowsInPlace_eq, aesMixColumns_eq,
    ueAes128EcbEncrypt_eq_cipher, blockAt_ueAes128EcbEncryptAt⟩

end VirtualLte.Crypto
