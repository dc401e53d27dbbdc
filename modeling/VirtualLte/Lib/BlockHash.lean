import Mathlib.Tactic.Common

/-!
# Hashes over padded blocks

A hash of this kind pads its message to whole blocks of 64 octets and folds a compression
function over them; the padding ends with the length of the message.  An implementation may
take the message in pieces: `Absorbed` says what its state has to be between two of them.
-/

namespace BlockHash

/-- The whole blocks of `n` elements at the front of a list. -/
def blocks {α : Type*} (n : Nat) (l : List α) : List (List α) :=
  (List.range (l.length / n)).map fun i => (l.drop (i * n)).take n

section Blocks

variable {α : Type*} {n : Nat} {a b : List α}

theorem blocks_of_lt (h : b.length < n) : blocks n b = [] := by
  simp [blocks, Nat.div_eq_of_lt h]

theorem blocks_of_eq (hn : 0 < n) (h : b.length = n) : blocks n b = [b] := by
  simp [blocks, h, Nat.div_self hn, List.take_of_length_le (Nat.le_of_eq h)]

/-- Whole blocks in front do not change how the rest is cut. -/
theorem blocks_append (hn : 0 < n) (h : n ∣ a.length) :
    blocks n (a ++ b) = blocks n a ++ blocks n b := by
  obtain ⟨q, hq⟩ := h
  have hlen : (a ++ b).length / n = q + b.length / n := by
    rw [List.length_append, hq, Nat.mul_add_div hn]
  rw [blocks, hlen, List.range_add, List.map_append, List.map_map]
  congr 1
  · rw [blocks, hq, Nat.mul_div_cancel_left q hn]
    refine List.map_congr_left fun i hi => ?_
    have hfit : i * n + n ≤ a.length := by
      rw [hq, Nat.mul_comm n q, ← Nat.succ_mul]
      exact Nat.mul_le_mul_right n (List.mem_range.mp hi)
    rw [List.drop_append_of_le_length (by omega), List.take_append_of_le_length]
    rw [List.length_drop]
    omega
  · refine List.map_congr_left fun i _ => ?_
    have hstart : (q + i) * n = a.length + i * n := by rw [hq, Nat.add_mul, Nat.mul_comm q]
    rw [Function.comp_apply, hstart, List.drop_length_add_append]

theorem blocks_replicate (hn : 0 < n) (k : Nat) (x : α) :
    blocks n (List.replicate (k * n) x) = List.replicate k (List.replicate n x) := by
  induction k with
  | zero => simp [blocks]
  | succ k ih =>
    rw [Nat.succ_mul, Nat.add_comm, ← List.replicate_append_replicate, blocks_append hn (by simp),
      blocks_of_eq hn (by simp), ih]
    rfl

end Blocks

/-! ## Padding -/

/-- The padding of a message of `len` octets: `0x80`, zeros, and the length itself, so that
whole blocks come out. -/
def padding (lengthField : Nat → List UInt8) (len : Nat) : List UInt8 :=
  0x80 :: List.replicate ((119 - len % 64) % 64) 0 ++ lengthField len

section Hash

variable {σ : Type*} (compress : σ → List UInt8 → σ) (init : σ)
  (lengthField : Nat → List UInt8)

def hash (msg : List UInt8) : σ :=
  (blocks 64 (msg ++ padding lengthField msg.length)).foldl compress init

/-- The whole blocks first, then the rest with the padding. -/
theorem hash_append {a b : List UInt8} (h : 64 ∣ a.length) :
    hash compress init lengthField (a ++ b) =
      (blocks 64 (b ++ padding lengthField (a ++ b).length)).foldl compress
        ((blocks 64 a).foldl compress init) := by
  rw [hash, List.append_assoc, blocks_append (by decide) h, List.foldl_append]

/-! ## Messages in pieces -/

/-- What an implementation holds after the octets `data`: the value of the whole blocks, and
the octets after them. -/
def Absorbed (data : List UInt8) (s : σ) (buf : List UInt8) : Prop :=
  ∃ a, data = a ++ buf ∧ 64 ∣ a.length ∧ buf.length < 64 ∧ s = (blocks 64 a).foldl compress init

theorem Absorbed.nil : Absorbed compress init [] init [] :=
  ⟨[], rfl, ⟨0, rfl⟩, by decide, rfl⟩

variable {compress init lengthField}
variable {data buf piece : List UInt8} {s : σ}

theorem Absorbed.length_lt (h : Absorbed compress init data s buf) : buf.length < 64 :=
  let ⟨_, _, _, hbuf, _⟩ := h
  hbuf

theorem Absorbed.length_mod (h : Absorbed compress init data s buf) :
    buf.length = data.length % 64 := by
  obtain ⟨a, rfl, ha, hbuf, -⟩ := h
  rw [List.length_append]
  omega

theorem Absorbed.short (h : Absorbed compress init data s buf)
    (hlen : (buf ++ piece).length < 64) :
    Absorbed compress init (data ++ piece) s (buf ++ piece) := by
  obtain ⟨a, rfl, ha, -, hs⟩ := h
  exact ⟨a, List.append_assoc .., ha, hlen, hs⟩

theorem Absorbed.full (h : Absorbed compress init data s buf)
    (hlen : (buf ++ piece).length = 64) :
    Absorbed compress init (data ++ piece) (compress s (buf ++ piece)) [] := by
  obtain ⟨a, rfl, ha, -, hs⟩ := h
  refine ⟨a ++ (buf ++ piece), by simp, ?_, by decide, ?_⟩
  · rw [List.length_append, hlen]
    exact Nat.dvd_add ha (Nat.dvd_refl 64)
  · rw [blocks_append (by decide) ha, blocks_of_eq (by decide) hlen, List.foldl_append, ← hs]
    rfl

/-- Once the padding is absorbed, the value is the hash. -/
theorem Absorbed.eq_hash (hfield : (lengthField data.length).length = 8)
    (h : Absorbed compress init (data ++ padding lengthField data.length) s buf) :
    s = hash compress init lengthField data := by
  obtain ⟨a, hdata, ha, hbuf, hs⟩ := h
  have hlen := congrArg List.length hdata
  have hempty : buf = [] := by
    rw [List.length_append, List.length_append, padding] at hlen
    simp only [List.cons_append, List.length_cons, List.length_append, List.length_replicate, hfield]
      at hlen
    refine List.eq_nil_of_length_eq_zero ?_
    omega
  rw [hash, hdata, hempty, List.append_nil, hs]

end Hash

end BlockHash
