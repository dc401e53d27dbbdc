import Mathlib

/-!
# Octet strings

The buffers of the source are octet arrays with a length.  A buffer whose
length is fixed by its C type (keys, blocks, digests) is a `Vector`; a buffer
whose length travels beside it is a list.  Multi-octet fields are big endian
everywhere in the source.
-/

namespace VirtualLte

/-- An octet string: a `const uint8_t *` with its length. -/
abbrev Bytes := List UInt8

/-- An IPv4 address. -/
abbrev Ipv4 := Vector UInt8 4

/-- The octet at index `i`.  Callers check the length first, as the source does;
reading past the end gives zero. -/
def octet (b : Bytes) (i : Nat) : UInt8 := b.getD i 0

@[simp] theorem octet_cons_zero (x : UInt8) (b : Bytes) : octet (x :: b) 0 = x := rfl

@[simp] theorem octet_cons_succ (x : UInt8) (b : Bytes) (i : Nat) :
    octet (x :: b) (i + 1) = octet b i := rfl

/-- What holds of the 256 octets one by one holds of every octet. -/
theorem forall_octet {p : UInt8 → Prop} (h : ∀ n : Fin 256, p (UInt8.ofNat n)) (x : UInt8) :
    p x := by
  have hx := h ⟨x.toNat, x.toNat_lt⟩
  rwa [UInt8.ofNat_toNat] at hx

/-- A count below a bound does not wrap. -/
theorem toNat_succ_of_lt {a b : UInt8} (h : a < b) : (a + 1).toNat = a.toNat + 1 := by
  have hlt := UInt8.lt_iff_toNat_lt.mp h
  have hmax := b.toNat_lt
  rw [UInt8.toNat_add]
  exact Nat.mod_eq_of_lt (by simp; omega)

theorem drop_eq_octet_cons {b : Bytes} {i : Nat} (h : i < b.length) :
    b.drop i = octet b i :: b.drop (i + 1) := by
  rw [List.drop_eq_getElem_cons h, octet, List.getD_eq_getElem?_getD, List.getElem?_eq_getElem h]
  rfl

theorem octet_append_left {b : Bytes} {i : Nat} (h : i < b.length) (rest : Bytes) :
    octet (b ++ rest) i = octet b i := by
  simp [octet, List.getElem?_append_left h]

theorem octet_append_right {b : Bytes} {i : Nat} (h : b.length ≤ i) (rest : Bytes) :
    octet (b ++ rest) i = octet rest (i - b.length) := by
  simp [octet, List.getElem?_append_right h]

theorem octet_drop (b : Bytes) (i k : Nat) : octet (b.drop i) k = octet b (i + k) := by
  rw [octet, octet, List.getD_eq_getElem?_getD, List.getD_eq_getElem?_getD, List.getElem?_drop]

theorem octet_take {b : Bytes} {n k : Nat} (h : k < n) : octet (b.take n) k = octet b k := by
  rw [octet, octet, List.getD_eq_getElem?_getD, List.getD_eq_getElem?_getD,
    List.getElem?_take_of_lt h]

/-- The first `n` octets of `b` as an array, padded with zeros. -/
def vecOf (n : Nat) (b : Bytes) : Vector UInt8 n :=
  Vector.ofFn fun i => octet b i.val

theorem octet_eq_getElem {b : Bytes} {i : Nat} (h : i < b.length) : octet b i = b[i] := by
  simp [octet, h]

/-- Reading an array back from its own octets. -/
@[simp] theorem vecOf_toList {n : Nat} (v : Vector UInt8 n) : vecOf n v.toList = v := by
  ext i hi
  simp [vecOf, octet]

/-- Only the first `n` octets are read. -/
theorem vecOf_toList_append {n : Nat} (v : Vector UInt8 n) (b : Bytes) :
    vecOf n (v.toList ++ b) = v := by
  ext i hi
  simp [vecOf, octet, List.getElem?_append]

/-- A list of the right length survives as an array. -/
theorem toList_vecOf {n : Nat} {b : Bytes} (h : b.length = n) : (vecOf n b).toList = b := by
  subst h
  apply List.ext_getElem
  · simp
  · intro i h₁ h₂
    simp [vecOf, octet_eq_getElem h₂]

theorem vecOf_take {n m : Nat} (h : n ≤ m) (b : Bytes) : vecOf n (b.take m) = vecOf n b := by
  unfold vecOf
  congr 1
  funext i
  exact octet_take (by omega)

theorem vecOf_append {n : Nat} {b : Bytes} (h : n ≤ b.length) (rest : Bytes) :
    vecOf n (b ++ rest) = vecOf n b := by
  unfold vecOf
  congr 1
  funext i
  rw [octet, octet, List.getD_eq_getElem?_getD, List.getD_eq_getElem?_getD,
    List.getElem?_append_left (by omega)]

/-- Zeros behind are what an array is padded with. -/
theorem vecOf_append_zeros {n : Nat} (b : Bytes) (k : Nat) :
    vecOf n (b ++ List.replicate k 0) = vecOf n b := by
  unfold vecOf
  congr 1
  funext i
  by_cases hi : i.val < b.length
  · rw [octet_append_left hi]
  · rw [octet_append_right (by omega)]
    simp only [octet, List.getD_eq_getElem?_getD, List.getElem?_replicate]
    split <;> simp [Nat.not_lt.mp hi]

/-! ## Big-endian words -/

/-- `put_be32` and every `(uint8_t)(v >> 24), …` sequence of the source. -/
def putBe32 (v : UInt32) : Bytes :=
  [(v >>> 24).toUInt8, (v >>> 16).toUInt8, (v >>> 8).toUInt8, v.toUInt8]

/-- `get_be32` on four octets. -/
def getBe32 (a b c d : UInt8) : UInt32 :=
  (a.toUInt32 <<< 24) ||| (b.toUInt32 <<< 16) ||| (c.toUInt32 <<< 8) ||| d.toUInt32

private theorem shift_or_shift (a : Nat) {b : Nat} (hb : b < 2 ^ 8) (k : Nat) :
    a <<< (8 + k) ||| b <<< k = (a * 256 + b) <<< k := by
  rw [Nat.shiftLeft_add, ← Nat.shiftLeft_or_distrib, ← Nat.shiftLeft_add_eq_or_of_lt hb,
    Nat.shiftLeft_eq a 8]

private theorem octet_shift_lt {x k : Nat} (hx : x < 2 ^ 8) (hk : k ≤ 24) : x <<< k < 2 ^ 32 := by
  rw [Nat.shiftLeft_eq]
  calc x * 2 ^ k < 2 ^ 8 * 2 ^ k := Nat.mul_lt_mul_of_pos_right hx (Nat.two_pow_pos k)
    _ ≤ 2 ^ 8 * 2 ^ 24 := Nat.mul_le_mul_left _ (Nat.pow_le_pow_right (by decide) hk)

/-- The number that four octets stand for. -/
theorem getBe32_toNat (a b c d : UInt8) :
    (getBe32 a b c d).toNat = ((a.toNat * 256 + b.toNat) * 256 + c.toNat) * 256 + d.toNat := by
  have ha := a.toNat_lt
  have hb := b.toNat_lt
  have hc := c.toNat_lt
  have hd := d.toNat_lt
  simp only [getBe32, UInt32.toNat_or, UInt32.toNat_shiftLeft, UInt8.toNat_toUInt32]
  change a.toNat <<< 24 % 2 ^ 32 ||| b.toNat <<< 16 % 2 ^ 32 ||| c.toNat <<< 8 % 2 ^ 32 ||| d.toNat = _
  rw [Nat.mod_eq_of_lt (octet_shift_lt ha (by decide)),
    Nat.mod_eq_of_lt (octet_shift_lt hb (by decide)),
    Nat.mod_eq_of_lt (octet_shift_lt hc (by decide)), shift_or_shift _ hb 16, shift_or_shift _ hc 8]
  exact shift_or_shift _ hd 0

/-- Octet `k / 8` of a word, from the right. -/
private theorem toNat_octetOf (v k : UInt32) :
    (v >>> k).toUInt8.toNat = v.toNat / 2 ^ (k.toNat % 32) % 2 ^ 8 := by
  rw [UInt32.toNat_toUInt8, UInt32.toNat_shiftRight, Nat.shiftRight_eq_div_pow]

/-- A word survives being written and read back. -/
theorem getBe32_putBe32 (v : UInt32) :
    getBe32 (v >>> 24).toUInt8 (v >>> 16).toUInt8 (v >>> 8).toUInt8 v.toUInt8 = v := by
  have hlt := v.toNat_lt
  apply UInt32.toNat_inj.mp
  rw [getBe32_toNat, toNat_octetOf, toNat_octetOf, toNat_octetOf, UInt32.toNat_toUInt8]
  change ((v.toNat / 2 ^ 24 % 2 ^ 8 * 256 + v.toNat / 2 ^ 16 % 2 ^ 8) * 256 +
    v.toNat / 2 ^ 8 % 2 ^ 8) * 256 + v.toNat % 2 ^ 8 = v.toNat
  omega

/-- The number a big-endian octet string stands for. -/
def beNat : Bytes → Nat
  | [] => 0
  | x :: xs => x.toNat * 256 ^ xs.length + beNat xs

theorem beNat_lt (b : Bytes) : beNat b < 256 ^ b.length := by
  induction b with
  | nil => decide
  | cons x xs ih =>
    have hx : x.toNat < 256 := x.toNat_lt
    have hmul : x.toNat * 256 ^ xs.length + 256 ^ xs.length ≤ 256 * 256 ^ xs.length := by
      rw [← Nat.succ_mul]
      exact Nat.mul_le_mul_right _ hx
    rw [beNat, List.length_cons, Nat.pow_succ]
    omega

end VirtualLte
