import Mathlib.Tactic.Common

/-!
# Searching a list for the first hit

A search that tries a reader at every position of a list, from the front, and stops at the
first position where the reader answers.  The reader sees the list from that position on.

* `first` is the search; `FirstHit` says where it stops.
* `first_of_hit`, `first_of_no_hit`: what it returns.
* `first_eq_iff`: when its answer is the expected one, given that there is something to find
  where something is expected.
-/

namespace Scan

variable {α β : Type}

/-- The answer of `read` at the first position where it has one. -/
def first (read : List α → Option β) : List α → Option β
  | [] => read []
  | x :: rest =>
    match read (x :: rest) with
    | some v => some v
    | none => first read rest

/-- The first position where `read` answers. -/
structure FirstHit (read : List α → Option β) (xs : List α) (p : Nat) : Prop where
  le : p ≤ xs.length
  hit : read (xs.drop p) ≠ none
  before : ∀ q, q < p → read (xs.drop q) = none

variable {read : List α → Option β} {xs : List α}

theorem first_of_hit {p : Nat} (h : FirstHit read xs p) : first read xs = read (xs.drop p) := by
  induction xs generalizing p with
  | nil =>
    rw [List.drop_nil]
    rfl
  | cons x rest ih =>
    cases p with
    | zero =>
      obtain ⟨v, hv⟩ := Option.ne_none_iff_exists'.mp h.hit
      rw [List.drop_zero] at hv ⊢
      rw [first, hv]
    | succ p =>
      have hhead : read (x :: rest) = none := h.before 0 (Nat.succ_pos p)
      rw [first, hhead]
      exact ih ⟨Nat.le_of_succ_le_succ h.le, h.hit, fun q hq => h.before (q + 1) (by omega)⟩

theorem first_of_no_hit (h : ∀ p, p ≤ xs.length → read (xs.drop p) = none) :
    first read xs = none := by
  induction xs with
  | nil => exact h 0 (Nat.le_refl 0)
  | cons x rest ih =>
    have hhead : read (x :: rest) = none := h 0 (Nat.zero_le _)
    rw [first, hhead]
    exact ih fun p hp => h (p + 1) (Nat.succ_le_succ hp)

/-- Where there is a hit, there is a first one. -/
theorem exists_firstHit {p : Nat} (hp : p ≤ xs.length) (hit : read (xs.drop p) ≠ none) :
    ∃ q, FirstHit read xs q := by
  induction p using Nat.strongRecOn with
  | ind p ih =>
    by_cases hearlier : ∃ q, q < p ∧ read (xs.drop q) ≠ none
    · obtain ⟨q, hq, hhit⟩ := hearlier
      exact ih q hq (by omega) hhit
    · refine ⟨p, hp, hit, fun q hq => ?_⟩
      by_contra hne
      exact hearlier ⟨q, hq, hne⟩

/-- The search, read in some way, returns what is expected if and only if its first hit does. -/
theorem first_eq_iff {γ : Type} (post : Option β → γ) {expected : γ}
    (hthere : expected ≠ post none → ∃ p, p ≤ xs.length ∧ read (xs.drop p) ≠ none) :
    post (first read xs) = expected ↔
      ∀ p, FirstHit read xs p → post (read (xs.drop p)) = expected := by
  constructor
  · intro h p hp
    rw [← first_of_hit hp, h]
  · intro h
    by_cases hany : ∃ p, p ≤ xs.length ∧ read (xs.drop p) ≠ none
    · obtain ⟨p, hp, hhit⟩ := hany
      obtain ⟨q, hq⟩ := exists_firstHit hp hhit
      rw [first_of_hit hq, h q hq]
    · have hnone : first read xs = none := first_of_no_hit fun p hp => by
        by_contra hne
        exact hany ⟨p, hp, hne⟩
      rw [hnone]
      by_contra hne
      exact hany (hthere fun heq => hne heq.symm)

end Scan
