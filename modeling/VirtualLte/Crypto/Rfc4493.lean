import VirtualLte.Crypto.Ts35206
import VirtualLte.Lib.Access

/-!
# CMAC against RFC 4493

The RFC's subkeys are words of 128 bits, doubled in the field of 2^128 elements; its message
is cut into blocks of 16 octets, of which the last may be shorter.

* `word_cmacShiftLeft`: the octets with their carries are a doubling of the word.
* `tracedCmac` reads the message as the source does and records which octets.
-/

namespace VirtualLte.Crypto

open BigEndian BinaryField Fips197

namespace Rfc4493

/-- Subkey generation, with the constant of x^128 + x^7 + x^2 + x + 1. -/
def subkey (l : BitVec 128) : BitVec 128 := double 0x87#128 l

/-- The blocks in front of the last, and the last. -/
def split (msg : Bytes) : List Bytes × Bytes :=
  if 16 < msg.length then (msg.take 16 :: (split (msg.drop 16)).1, (split (msg.drop 16)).2)
  else ([], msg)
termination_by msg.length

/-- The last block with its subkey: whole, or padded with a one and zeros. -/
def maskedLast (k1 k2 : BitVec 128) (last : Bytes) : BitVec 128 :=
  if last.length = 16 then word 128 (vecOf 16 last) ^^^ k1
  else word 128 (vecOf 16 (last ++ 0x80 :: List.replicate (15 - last.length) 0)) ^^^ k2

def mac (e : BitVec 128 → BitVec 128) (msg : Bytes) : BitVec 128 :=
  let k1 := subkey (e 0)
  let x := (split msg).1.foldl (fun x m => e (x ^^^ word 128 (vecOf 16 m))) 0
  e (x ^^^ maskedLast k1 (subkey k1) (split msg).2)

end Rfc4493

open Rfc4493

/-! ## The subkeys -/

theorem highBit_iff (x : UInt8) : x &&& 0x80 ≠ 0 ↔ x.toBitVec.getLsbD 7 = true :=
  forall_octet (p := fun x => x &&& 0x80 ≠ 0 ↔ x.toBitVec.getLsbD 7 = true) (by decide +kernel) x

theorem getLsbD_shiftIn (x : UInt8) (b : Bool) {k : Nat} (hk : k < 8) :
    ((x <<< 1) ||| (if b then 1 else 0)).toBitVec.getLsbD k =
      if k = 0 then b else x.toBitVec.getLsbD (k - 1) := by
  have hall := forall_octet (p := fun x => ∀ b : Bool, ∀ k < 8,
    ((x <<< 1) ||| (if b then 1 else 0)).toBitVec.getLsbD k =
      if k = 0 then b else x.toBitVec.getLsbD (k - 1)) (by decide +kernel)
  exact hall x b k hk

/-- The octets shifted by one bit, each with the high bit of the next. -/
theorem word_shifted (a : Block) : word 128 (cmacShifted a) = word 128 a <<< 1 := by
  unfold cmacShifted
  refine BitVec.eq_of_getLsbD_eq fun j hj => ?_
  have hlt : 15 - j / 8 < 16 := by omega
  simp only [highBit_iff]
  rw [getLsbD_word _ hj hj, BitVec.getLsbD_shiftLeft, decide_eq_true hj, Bool.true_and]
  have hoctet : (Vector.ofFn fun i : Fin 16 => (a[i] <<< 1) |||
      (if (octet a.toList (i.val + 1)).toBitVec.getLsbD 7 = true then 1 else 0)).toList.getD
        (15 - j / 8) 0 = (octet a.toList (15 - j / 8) <<< 1) |||
      (if (octet a.toList (15 - j / 8 + 1)).toBitVec.getLsbD 7 then 1 else 0) := by
    simp [octet, hlt]
  rw [hoctet, getLsbD_shiftIn _ _ (Nat.mod_lt j (by decide))]
  by_cases hfirst : j = 0
  · subst hfirst
    simp [octet]
  rw [decide_eq_false (by omega), Bool.not_false, Bool.true_and,
    getLsbD_word _ (by omega) (by omega)]
  split
  · rw [show 15 - j / 8 + 1 = 15 - (j - 1) / 8 by omega, show (j - 1) % 8 = 7 by omega]
    rfl
  · rw [show (j - 1) / 8 = j / 8 by omega, show (j - 1) % 8 = j % 8 - 1 by omega]
    rfl

theorem word_cmacShiftLeft (a : Block) :
    word 128 (cmacShiftLeft a) = subkey (word 128 a) := by
  have hmsb : (word 128 a).msb = a[0].toBitVec.getLsbD 7 := by
    rw [BitVec.msb_eq_getLsbD_last, getLsbD_word _ (by omega) (by omega)]
    simp
  have hshift := word_shifted a
  unfold cmacShiftLeft
  dsimp only
  generalize cmacShifted a = s at hshift ⊢
  rw [subkey, double, ← hshift, hmsb]
  simp only [highBit_iff]
  split
  · exact word_xorLast s 0x87
  · exact (BitVec.xor_zero).symm

/-- In the field K1 and K2 are `L` times x and x^2. -/
theorem value_subkey {K : Type*} [CommRing K] [CharP K 2] (α : K)
    (hroot : α ^ 128 = α ^ 7 + α ^ 2 + α + 1) (l : BitVec 128) :
    value α (subkey l) = α * value α l := by
  have htail : value α 0x87#128 = α ^ 7 + α ^ 2 + α + 1 := by
    rw [show 0x87#128 = (0x87#8).setWidth 128 by decide, value_setWidth α (by decide)]
    simp [value, Finset.sum_range_succ]
    ring
  exact value_double α (hroot.trans htail.symm) l

/-! ## The chain -/

theorem split_eq (msg : Bytes) :
    split msg = ((List.range ((msg.length - 1) / 16)).map fun i => (msg.drop (i * 16)).take 16,
      msg.drop ((msg.length - 1) / 16 * 16)) := by
  fun_induction split msg with
  | case1 msg hlong ih =>
    have hcount : (msg.length - 1) / 16 = (msg.length - 16 - 1) / 16 + 1 := by omega
    rw [ih, List.length_drop, hcount, List.range_succ_eq_map]
    simp [Function.comp_def, Nat.add_mul, Nat.add_comm]
  | case2 msg hshort =>
    have hcount : (msg.length - 1) / 16 = 0 := by omega
    simp [hcount]

/-- The number of blocks of the source, counted without the last. -/
theorem cmac_count (msg : Bytes) :
    (if (msg.length + 15) / 16 = 0 then 1 else (msg.length + 15) / 16) - 1 = (msg.length - 1) / 16 := by
  split <;> omega

theorem word_cmacLastBlock (k1 k2 : Block) {msg : Bytes} {n : Nat} (hn : n - 1 = (msg.length - 1) / 16) :
    word 128 (cmacLastBlock k1 k2 msg n) =
      maskedLast (word 128 k1) (word 128 k2) (msg.drop ((msg.length - 1) / 16 * 16)) := by
  unfold cmacLastBlock maskedLast
  rw [hn, List.length_drop]
  by_cases hwhole : msg.length ≠ 0 ∧ msg.length % 16 = 0
  · rw [if_pos hwhole, if_pos (by omega), word_xorBlock]
  · have hrest : msg.length - (msg.length - 1) / 16 * 16 = msg.length % 16 := by omega
    rw [if_neg hwhole, if_neg (by omega), word_xorBlock, List.take_of_length_le (by simp; omega)]
    have hpad := vecOf_append_zeros (n := 16) (msg.drop ((msg.length - 1) / 16 * 16) ++ [0x80])
    simp only [List.append_assoc, List.singleton_append] at hpad
    rw [hpad]

theorem word_ueAesCmac (key : Block) (msg : Bytes) :
    word 128 (ueAesCmac key msg) = mac (encryptWord key) msg := by
  have hzero : word 128 zeroBlock = 0 := by decide +kernel
  have hchain (is : List Nat) (x : Block) :
      word 128 (is.foldl (fun x i => ueAes128EcbEncrypt key
        (xorBlock x (vecOf 16 (msg.drop (i * 16))))) x) =
      is.foldl (fun x i => encryptWord key (x ^^^ word 128 (vecOf 16 ((msg.drop (i * 16)).take 16))))
        (word 128 x) := by
    induction is generalizing x with
    | nil => rfl
    | cons i is ih =>
      rw [List.foldl_cons, List.foldl_cons, ih, word_ueAes128EcbEncrypt, word_xorBlock,
        vecOf_take (Nat.le_refl 16)]
  unfold ueAesCmac mac
  dsimp only
  rw [word_ueAes128EcbEncrypt, word_xorBlock, cmac_count, hchain,
    word_cmacLastBlock _ _ (cmac_count msg), split_eq, List.foldl_map]
  simp only [word_cmacShiftLeft, word_ueAes128EcbEncrypt, hzero]

/-! ## What is read -/

def readBlock (msg : Bytes) (off : Nat) : Access Block := do
  Access.readRange off 16
  pure (vecOf 16 (msg.drop off))

def tracedLastBlock (k1 k2 : Block) (msg : Bytes) (n : Nat) : Access Block :=
  if msg.length ≠ 0 ∧ msg.length % 16 = 0 then do
    let m ← readBlock msg ((n - 1) * 16)
    pure (xorBlock m k1)
  else do
    Access.readRange ((n - 1) * 16) (msg.length % 16)
    pure (xorBlock (vecOf 16 ((msg.drop ((n - 1) * 16)).take (msg.length % 16) ++ [0x80])) k2)

def tracedChain (key : Block) (msg : Bytes) (x : Block) : List Nat → Access Block
  | [] => pure x
  | i :: is => do
    let m ← readBlock msg (i * 16)
    tracedChain key msg (ueAes128EcbEncrypt key (xorBlock x m)) is

/-- `ueAesCmac` with the indices of the message it reads. -/
def tracedCmac (key : Block) (msg : Bytes) : Access Block := do
  let k1 := cmacShiftLeft (ueAes128EcbEncrypt key zeroBlock)
  let n := if (msg.length + 15) / 16 = 0 then 1 else (msg.length + 15) / 16
  let last ← tracedLastBlock k1 (cmacShiftLeft k1) msg n
  let x ← tracedChain key msg zeroBlock (List.range (n - 1))
  pure (ueAes128EcbEncrypt key (xorBlock x last))

theorem tracedChain_result (key : Block) (msg : Bytes) (x : Block) (is : List Nat) :
    (tracedChain key msg x is).result = is.foldl (fun x i => ueAes128EcbEncrypt key
      (xorBlock x (vecOf 16 (msg.drop (i * 16))))) x := by
  induction is generalizing x with
  | nil => rfl
  | cons i is ih => exact ih _

theorem tracedChain_within (key : Block) {msg : Bytes} (x : Block) {is : List Nat}
    (h : ∀ i ∈ is, i * 16 + 16 ≤ msg.length) : (tracedChain key msg x is).Within msg.length 0 := by
  induction is generalizing x with
  | nil => exact Access.within_pure _
  | cons i is ih =>
    obtain ⟨hi, his⟩ := List.forall_mem_cons.mp h
    simp [tracedChain, readBlock, Access.within_readRange hi, ih _ his]

theorem tracedCmac_within (key : Block) (msg : Bytes) :
    (tracedCmac key msg).Within msg.length 0 := by
  have hlast (k1 k2 : Block) {n : Nat} (hn : n - 1 = (msg.length - 1) / 16) :
      (tracedLastBlock k1 k2 msg n).Within msg.length 0 := by
    unfold tracedLastBlock readBlock
    rw [hn]
    split
    · have hin : (msg.length - 1) / 16 * 16 + 16 ≤ msg.length := by omega
      simp [Access.within_readRange hin]
    · have hin : (msg.length - 1) / 16 * 16 + msg.length % 16 ≤ msg.length := by omega
      simp [Access.within_readRange hin]
  have hchain (i : Nat) (hi : i ∈ List.range ((msg.length - 1) / 16)) : i * 16 + 16 ≤ msg.length := by
    have hlt := List.mem_range.mp hi
    omega
  simp only [tracedCmac, Access.within_bind, Access.within_pure, and_true, cmac_count]
  exact ⟨hlast _ _ (cmac_count msg), tracedChain_within key _ hchain⟩

theorem tracedCmac_result (key : Block) (msg : Bytes) :
    (tracedCmac key msg).result = ueAesCmac key msg := by
  have hlast (k1 k2 : Block) (n : Nat) :
      (tracedLastBlock k1 k2 msg n).result = cmacLastBlock k1 k2 msg n := by
    unfold tracedLastBlock cmacLastBlock
    split <;> rfl
  unfold ueAesCmac tracedCmac
  simp [hlast, tracedChain_result]

/-- The MAC of the source is that of the RFC for every message, its subkeys are multiples of
`L`, and no octet outside the message is read. -/
theorem ueAesCmac_rfc4493 (key : Block) (msg : Bytes) :
    word 128 (ueAesCmac key msg) = mac (encryptWord key) msg ∧
    (∀ (K : Type) [CommRing K] [CharP K 2] (α : K), α ^ 128 = α ^ 7 + α ^ 2 + α + 1 →
      let l := ueAes128EcbEncrypt key zeroBlock
      value α (word 128 (cmacShiftLeft l)) = α * value α (word 128 l) ∧
        value α (word 128 (cmacShiftLeft (cmacShiftLeft l))) = α ^ 2 * value α (word 128 l)) ∧
    (tracedCmac key msg).result = ueAesCmac key msg ∧ (tracedCmac key msg).Within msg.length 0 := by
  refine ⟨word_ueAesCmac key msg, fun K _ _ α hroot => ?_, tracedCmac_result key msg,
    tracedCmac_within key msg⟩
  dsimp only
  rw [word_cmacShiftLeft, word_cmacShiftLeft, word_cmacShiftLeft, value_subkey α hroot,
    value_subkey α hroot, value_subkey α hroot, pow_two, mul_assoc]
  exact ⟨rfl, rfl⟩

end VirtualLte.Crypto
