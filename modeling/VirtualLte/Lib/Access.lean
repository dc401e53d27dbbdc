import Mathlib.Tactic.TypeStar

/-!
# Programs that record what they access

`Access α` is a computation that reads a memory and writes a buffer, with the indices of
both.  A decoder written in this monad computes what the plain decoder computes (`result`),
and `Within len cap` says that no index it read is outside a memory of `len` cells and none
it wrote outside a buffer of `cap`.

* The memory is a function on all indices, so that what lies behind its end is arbitrary and
  a read there is recorded and not prevented.
* `within_bind` takes a program apart along its control flow: what follows a read is judged
  at the value read.
-/

/-- A computation with the indices it reads and the indices it writes. -/
structure Access (α : Type) where
  reads : List Nat
  writes : List Nat
  result : α

namespace Access

instance : Monad Access where
  pure a := ⟨[], [], a⟩
  bind t f :=
    ⟨t.reads ++ (f t.result).reads, t.writes ++ (f t.result).writes, (f t.result).result⟩

variable {α β : Type}

def read (mem : Nat → α) (i : Nat) : Access α := ⟨[i], [], mem i⟩

/-- The `n` cells from `off` on, as a range that is handed out. -/
def readRange (off n : Nat) : Access Unit := ⟨List.range' off n, [], ()⟩

/-- A copy of `n` cells from `src` on, into the buffer from `dst` on. -/
def copy (src dst n : Nat) : Access Unit := ⟨List.range' src n, List.range' dst n, ()⟩

def write (i : Nat) : Access Unit := ⟨[], [i], ()⟩

@[simp] theorem result_pure (a : α) : (pure a : Access α).result = a := rfl

@[simp] theorem result_bind (t : Access α) (f : α → Access β) :
    (t >>= f).result = (f t.result).result := rfl

@[simp] theorem result_ite (c : Prop) [Decidable c] (t u : Access α) :
    (if c then t else u).result = if c then t.result else u.result := apply_ite _ _ _ _

/-- Every access is inside a memory of `len` cells and a buffer of `cap`. -/
def Within (len cap : Nat) (t : Access α) : Prop :=
  (∀ i ∈ t.reads, i < len) ∧ ∀ i ∈ t.writes, i < cap

variable {len cap : Nat}

@[simp] theorem within_pure (a : α) : Within len cap (pure a : Access α) :=
  ⟨fun _ h => (nomatch h), fun _ h => (nomatch h)⟩

@[simp] theorem within_bind (t : Access α) (f : α → Access β) :
    Within len cap (t >>= f) ↔ Within len cap t ∧ Within len cap (f t.result) := by
  constructor
  · intro h
    exact ⟨⟨fun i hi => h.1 i (List.mem_append_left _ hi), fun i hi => h.2 i (List.mem_append_left _ hi)⟩,
      fun i hi => h.1 i (List.mem_append_right _ hi), fun i hi => h.2 i (List.mem_append_right _ hi)⟩
  · rintro ⟨ht, hf⟩
    exact ⟨fun i hi => (List.mem_append.mp hi).elim (ht.1 i) (hf.1 i),
      fun i hi => (List.mem_append.mp hi).elim (ht.2 i) (hf.2 i)⟩

@[simp] theorem within_read (mem : Nat → α) (i : Nat) : Within len cap (read mem i) ↔ i < len := by
  simp [Within, read]

@[simp] theorem within_write (i : Nat) : Within len cap (write i) ↔ i < cap := by
  simp [Within, write]

theorem within_readRange {off n : Nat} (h : off + n ≤ len) : Within len cap (readRange off n) := by
  constructor
  · intro i hi
    obtain ⟨-, hlt⟩ := List.mem_range'_1.mp hi
    omega
  · exact fun _ hi => (nomatch hi)

theorem within_copy {src dst n : Nat} (hsrc : src + n ≤ len) (hdst : dst + n ≤ cap) :
    Within len cap (copy src dst n) := by
  constructor
  · intro i hi
    obtain ⟨-, h⟩ := List.mem_range'_1.mp hi
    omega
  · intro i hi
    obtain ⟨-, h⟩ := List.mem_range'_1.mp hi
    omega

end Access
