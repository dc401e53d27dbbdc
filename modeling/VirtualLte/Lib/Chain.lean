import Mathlib.Tactic.Ring

/-!
# Walks through a bounded buffer

Two ways of walking through positions of a buffer that both end, whatever the buffer
contains.

* `follow` goes from link to link.  It stops at a position that is not a link and at a
  link that does not point forward, so a cycle cannot hold it.
* `strided` goes in steps of one width and stops where the next step would leave the
  bound.

Both are given by what they do at one position (`follow_of_link`, `follow_of_not_link`,
`strided_of_le`, `strided_of_lt`) and by what they visit (`follow_sorted`, `mem_follow`,
`mem_strided`).
-/

namespace Chain

section Follow

variable (link : Nat → Prop) [DecidablePred link] (next : Nat → Nat) (bound : Nat)

/-- The links from `i` on, as long as each one points forward. -/
def follow (i : Nat) : List Nat :=
  if i < bound ∧ link i then
    i :: if i < next i then follow (next i) else []
  else
    []
termination_by bound - i

variable {link next bound}

theorem follow_of_link {i : Nat} (hbound : i < bound) (h : link i) :
    follow link next bound i = i :: if i < next i then follow link next bound (next i) else [] := by
  rw [follow, if_pos ⟨hbound, h⟩]

theorem follow_of_not_link {i : Nat} (h : ¬ link i) : follow link next bound i = [] := by
  rw [follow, if_neg fun hi => h hi.2]

/-- Every position visited is a link at or behind the first one. -/
theorem mem_follow {i j : Nat} (h : j ∈ follow link next bound i) :
    i ≤ j ∧ j < bound ∧ link j := by
  fun_induction follow link next bound i with
  | case1 i hi ih =>
    rcases List.mem_cons.mp h with rfl | h
    · exact ⟨Nat.le_refl _, hi⟩
    · split at h
      · rename_i hforward
        obtain ⟨hle, hj⟩ := ih hforward h
        exact ⟨by omega, hj⟩
      · exact absurd h List.not_mem_nil
  | case2 i hi => exact absurd h List.not_mem_nil

/-- The walk only moves forward. -/
theorem follow_sorted (i : Nat) : (follow link next bound i).Pairwise (· < ·) := by
  fun_induction follow link next bound i with
  | case1 i hi ih =>
    rw [List.pairwise_cons]
    split
    · rename_i hforward
      exact ⟨fun j hj => Nat.lt_of_lt_of_le hforward (mem_follow hj).1, ih hforward⟩
    · exact ⟨nofun, List.Pairwise.nil⟩
  | case2 i hi => exact List.Pairwise.nil

end Follow

section Strided

variable (width bound : Nat)

/-- The positions `i`, `i + width`, … whose `width` cells all lie below the bound. -/
def strided (i : Nat) : List Nat :=
  if 0 < width ∧ i + width ≤ bound then i :: strided (i + width) else []
termination_by bound - i

variable {width bound}

theorem strided_of_le {i : Nat} (hwidth : 0 < width) (h : i + width ≤ bound) :
    strided width bound i = i :: strided width bound (i + width) := by
  rw [strided, if_pos ⟨hwidth, h⟩]

theorem strided_of_lt {i : Nat} (h : bound < i + width) : strided width bound i = [] := by
  rw [strided, if_neg fun hi => absurd hi.2 (Nat.not_le.mpr h)]

theorem mem_strided {i j : Nat} (h : j ∈ strided width bound i) :
    ∃ k, j = i + width * k ∧ j + width ≤ bound := by
  fun_induction strided width bound i with
  | case1 i hi ih =>
    rcases List.mem_cons.mp h with rfl | h
    · exact ⟨0, rfl, hi.2⟩
    · obtain ⟨k, rfl, hk⟩ := ih h
      exact ⟨k + 1, by ring, hk⟩
  | case2 i hi => exact absurd h List.not_mem_nil

theorem length_strided (hwidth : 0 < width) (i : Nat) :
    (strided width bound i).length = (bound - i) / width := by
  fun_induction strided width bound i with
  | case1 i hi ih =>
    have hsplit : bound - i = bound - (i + width) + width := by omega
    rw [List.length_cons, ih, hsplit, Nat.add_div_right _ hwidth]
  | case2 i hi => exact (Nat.div_eq_of_lt (by omega)).symm

end Strided

end Chain
