import Mathlib.Algebra.CharP.Two
import Mathlib.Algebra.BigOperators.Intervals
import Mathlib.Algebra.BigOperators.Ring.Finset
import Mathlib.Tactic.Ring

/-!
# Bit strings as elements of a binary field

A string of `n` bits stands for a polynomial over GF(2), and so for an element of every
ring of characteristic two with a distinguished element `α`.  Where `α` is a root of
`x ^ n + r`, the shift with reduction multiplies by `α` and the product of strings is the
product of their values.
-/

namespace BinaryField

variable {n : Nat}

/-- Multiplication by `x`, reduced with the tail `r` of the polynomial. -/
def double (r x : BitVec n) : BitVec n := (x <<< 1) ^^^ if x.msb then r else 0

/-- The product, by the scheme of Horner over the bits of `b`. -/
def mul (r a b : BitVec n) : BitVec n :=
  (List.range n).foldr (fun i p => double r p ^^^ if b.getLsbD i then a else 0) 0

section Value

variable {K : Type*} [CommRing K] (α : K)

/-- The value of a bit string at `α`. -/
def value (x : BitVec n) : K := ∑ i ∈ Finset.range n, if x.getLsbD i then α ^ i else 0

@[simp] theorem value_zero : value α (0#n) = 0 := by
  simp [value]

theorem value_ite (c : Prop) [Decidable c] (x : BitVec n) :
    value α (if c then x else 0) = if c then value α x else 0 := by
  split <;> simp

/-- Zeros in front add nothing. -/
theorem value_setWidth {m : Nat} (h : n ≤ m) (x : BitVec n) :
    value α (x.setWidth m) = value α x := by
  unfold value
  rw [← Finset.sum_subset (Finset.range_mono h)]
  · refine Finset.sum_congr rfl fun i hi => ?_
    have hm : i < m := Nat.lt_of_lt_of_le (Finset.mem_range.mp hi) h
    simp only [BitVec.getLsbD_setWidth, hm, decide_true, Bool.true_and]
  · intro i _ hi
    have hn : n ≤ i := by simpa using hi
    simp [BitVec.getLsbD_setWidth, BitVec.getLsbD_of_ge x i hn]

/-- The bit that the shift pushes out is worth `α ^ n`. -/
theorem value_shiftLeft (x : BitVec n) :
    value α (x <<< 1) + (if x.msb then α ^ n else 0) = α * value α x := by
  cases n with
  | zero => simp [value, BitVec.eq_nil x]
  | succ n =>
    have hlow (i : Nat) (hi : i ∈ Finset.range n) : (x <<< 1).getLsbD (i + 1) = x.getLsbD i := by
      have hlt : i < n := Finset.mem_range.mp hi
      simp [-BitVec.getLsbD_eq_getElem, hlt]
    have hmsb : x.msb = x.getLsbD n := by simp [BitVec.msb_eq_getLsbD_last]
    unfold value
    rw [Finset.sum_range_succ', Finset.sum_range_succ _ n, mul_add, Finset.mul_sum, hmsb,
      Finset.sum_congr rfl fun i hi => by rw [hlow i hi]]
    simp [pow_succ', mul_ite]

variable [CharP K 2]

theorem value_xor (x y : BitVec n) : value α (x ^^^ y) = value α x + value α y := by
  simp only [value, ← Finset.sum_add_distrib]
  refine Finset.sum_congr rfl fun i _ => ?_
  rw [BitVec.getLsbD_xor]
  cases x.getLsbD i <;> cases y.getLsbD i <;> simp [CharTwo.add_self_eq_zero]

theorem value_double {r : BitVec n} (hroot : α ^ n = value α r) (x : BitVec n) :
    value α (double r x) = α * value α x := by
  rw [double, value_xor, value_ite, ← hroot, value_shiftLeft]

theorem value_mul {r : BitVec n} (hroot : α ^ n = value α r) (a b : BitVec n) :
    value α (mul r a b) = value α a * value α b := by
  have hfold (m k : Nat) :
      value α ((List.range' k m).foldr (fun i p => double r p ^^^ if b.getLsbD i then a else 0) 0) =
        value α a * ∑ i ∈ Finset.range m, if b.getLsbD (k + i) then α ^ i else 0 := by
    induction m generalizing k with
    | zero => simp
    | succ m ih =>
      rw [List.range'_succ, List.foldr_cons, value_xor, value_double α hroot, ih, value_ite,
        Finset.sum_range_succ', mul_add, mul_left_comm, Finset.mul_sum]
      congr 1
      · congr 1
        refine Finset.sum_congr rfl fun i _ => ?_
        rw [mul_ite, mul_zero, pow_succ', Nat.add_assoc, Nat.add_comm 1 i]
      · simp
  rw [mul, List.range_eq_range', hfold, value.eq_def α b]
  simp only [Nat.zero_add]

end Value

end BinaryField
