import Mathlib.Data.Nat.Digits.Defs
import Mathlib.Tactic.Common

/-!
# Octet strings as big-endian words

`word w v` reads a string of octets as a word of `w` bits, the first octet most significant;
`octets` takes the word apart again.  Bits count from the least significant, as in `BitVec`.
-/

namespace BigEndian

variable {n w j : Nat}

/-- The word of `w` bits that a string of octets stands for. -/
def word (w : Nat) (v : Vector UInt8 n) : BitVec w :=
  BitVec.ofNat w (Nat.ofDigits 256 (v.toList.reverse.map UInt8.toNat))

/-- The `n` octets of a word. -/
def octets (n : Nat) (x : BitVec w) : Vector UInt8 n :=
  Vector.ofFn fun i => ⟨x.extractLsb' (8 * (n - 1 - i)) 8⟩

theorem testBit_ofDigits (ds : List UInt8) (j : Nat) :
    (Nat.ofDigits 256 (ds.map UInt8.toNat)).testBit j =
      (ds.getD (j / 8) 0).toBitVec.getLsbD (j % 8) := by
  induction ds generalizing j with
  | nil => simp
  | cons d ds ih =>
    have hstep := Nat.testBit_two_pow_mul_add (Nat.ofDigits 256 (ds.map UInt8.toNat)) d.toNat_lt j
    rw [List.map_cons, Nat.ofDigits_cons, Nat.add_comm]
    refine hstep.trans ?_
    split
    · rename_i hlt
      rw [Nat.div_eq_of_lt hlt, Nat.mod_eq_of_lt hlt]
      rfl
    · rw [ih, show j / 8 = (j - 8) / 8 + 1 by omega,
        show (j - 8) % 8 = j % 8 by omega]
      rfl

theorem getLsbD_word (v : Vector UInt8 n) (hw : j < w) (hn : j < 8 * n) :
    (word w v).getLsbD j = (v.toList.getD (n - 1 - j / 8) 0).toBitVec.getLsbD (j % 8) := by
  have hlt : j / 8 < n := by omega
  rw [word, BitVec.getLsbD_ofNat, decide_eq_true hw, Bool.true_and, testBit_ofDigits]
  congr 2
  rw [List.getD_eq_getElem?_getD, List.getD_eq_getElem?_getD, List.getElem?_reverse (by simpa using hlt),
    Vector.length_toList]

theorem word_xor (a b : Vector UInt8 n) :
    word (8 * n) (Vector.zipWith (· ^^^ ·) a b) = word (8 * n) a ^^^ word (8 * n) b := by
  refine BitVec.eq_of_getLsbD_eq fun j hj => ?_
  have hi : n - 1 - j / 8 < n := by omega
  rw [BitVec.getLsbD_xor, getLsbD_word _ hj hj, getLsbD_word _ hj hj, getLsbD_word _ hj hj]
  simp [hi]

theorem octets_word (v : Vector UInt8 n) : octets n (word (8 * n) v) = v := by
  refine Vector.ext fun i hi => ?_
  rw [octets, Vector.getElem_ofFn, ← UInt8.toBitVec_inj]
  refine BitVec.eq_of_getLsbD_eq fun j hj => ?_
  have hlt : 8 * (n - 1 - i) + j < 8 * n := by omega
  rw [BitVec.getLsbD_extractLsb', getLsbD_word v hlt hlt]
  have hindex : n - 1 - (8 * (n - 1 - i) + j) / 8 = i := by omega
  have hbit : (8 * (n - 1 - i) + j) % 8 = j := by omega
  simp [hindex, hbit, hj, hi]

/-- The octets of two words in a row. -/
theorem octets_append {m : Nat} (x : BitVec (8 * n)) (y : BitVec (8 * m)) :
    (octets (n + m) (x ++ y)).toList = (octets n x).toList ++ (octets m y).toList := by
  refine List.ext_getElem (by simp) fun i hi _ => ?_
  have hlt : i < n + m := by simpa using hi
  simp only [octets, Vector.getElem_toList, Vector.getElem_ofFn, List.getElem_append,
    Vector.length_toList]
  split
  · congr 1
    refine BitVec.eq_of_getLsbD_eq fun j hj => ?_
    simp only [BitVec.getLsbD_extractLsb', BitVec.getLsbD_append, hj, decide_true, Bool.true_and]
    rw [if_neg (by omega)]
    congr 1
    omega
  · congr 1
    refine BitVec.eq_of_getLsbD_eq fun j hj => ?_
    simp only [BitVec.getLsbD_extractLsb', BitVec.getLsbD_append, hj, decide_true, Bool.true_and]
    rw [if_pos (by omega)]
    congr 1
    omega

end BigEndian
