import Mathlib.Data.List.Perm.Basic

/-!
# A table of slots and what is in it

A table is a list of slots, some of them used.  What is in the table is the list of the
used slots, and what matters of it is its contents up to order, since a slot is free to
be anywhere.

* `contents_set_free`, `contents_set_used`: filling a slot adds to the contents, or
  replaces what was in the slot.
* `contents_map`, `contents_clear`: what an operation on all slots does to them.
* `replaces_first_iff`: a table whose contents are an ordered list follows that list as a
  queue exactly if the slot that is given up holds the first of it.
-/

namespace SlotTable

variable {α : Type} (used : α → Bool)

/-- The slots in use. -/
def contents (slots : List α) : List α := slots.filter used

variable {used} {slots : List α} {i : Nat} {x y : α}

theorem slots_split (hy : slots[i]? = some y) :
    slots = slots.take i ++ y :: slots.drop (i + 1) ∧
      slots.set i x = slots.take i ++ x :: slots.drop (i + 1) := by
  obtain ⟨hi, hget⟩ := List.getElem?_eq_some_iff.mp hy
  constructor
  · rw [← hget, ← List.drop_eq_getElem_cons hi, List.take_append_drop]
  · rw [List.set_eq_take_append_cons_drop, if_pos hi]

theorem contents_set_free (hy : slots[i]? = some y) (hfree : used y = false) (hx : used x = true) :
    (contents used (slots.set i x)).Perm (x :: contents used slots) := by
  obtain ⟨hsplit, hset⟩ := slots_split (x := x) hy
  have hold : contents used slots = contents used (slots.take i) ++ contents used (slots.drop (i + 1)) := by
    conv_lhs => rw [hsplit]
    rw [contents, List.filter_append, List.filter_cons_of_neg (by rw [hfree]; decide)]
    rfl
  rw [hset, hold, contents, List.filter_append, List.filter_cons_of_pos hx]
  exact List.perm_middle

theorem contents_set_used (hy : slots[i]? = some y) (hused : used y = true) (hx : used x = true) :
    ∃ rest, (contents used slots).Perm (y :: rest) ∧
      (contents used (slots.set i x)).Perm (x :: rest) := by
  obtain ⟨hsplit, hset⟩ := slots_split (x := x) hy
  refine ⟨contents used (slots.take i) ++ contents used (slots.drop (i + 1)), ?_, ?_⟩
  · conv_lhs => rw [hsplit]
    rw [contents, List.filter_append, List.filter_cons_of_pos hused]
    exact List.perm_middle
  · rw [hset, contents, List.filter_append, List.filter_cons_of_pos hx]
    exact List.perm_middle

/-- A change of the slots that uses and frees none. -/
theorem contents_map {f : α → α} (h : ∀ e, used (f e) = used e) :
    contents used (slots.map f) = (contents used slots).map f := by
  rw [contents, contents, List.filter_map]
  congr 2
  exact funext h

/-- Clearing the slots in use that `p` names. -/
theorem contents_clear {p : α → Bool} {blank : α} (hblank : used blank = false) :
    contents used (slots.map fun e => if used e && p e then blank else e) =
      (contents used slots).filter fun e => !p e := by
  induction slots with
  | nil => rfl
  | cons e slots ih =>
    unfold contents at ih ⊢
    rw [List.map_cons]
    by_cases hused : used e = true
    · rw [List.filter_cons_of_pos hused]
      by_cases hp : p e = true
      · rw [if_pos (by rw [hused, hp]; rfl), List.filter_cons_of_neg (by rw [hblank]; decide), ih,
          List.filter_cons_of_neg (by rw [hp]; decide)]
      · rw [if_neg (by simp [hp]), List.filter_cons_of_pos hused, ih,
          List.filter_cons_of_pos (by simp [hp])]
    · rw [if_neg (by simp [hused]), List.filter_cons_of_neg hused, ih, List.filter_cons_of_neg hused]

/-- Giving up `y` for `x` in contents that are the list `b :: queue`, the result is
`queue ++ [x]` exactly if `y` was the first. -/
theorem replaces_first_iff {rest queue : List α} {b : α} (h : (y :: rest).Perm (b :: queue)) :
    (x :: rest).Perm (queue ++ [x]) ↔ y = b := by
  have hlast : (queue ++ [x]).Perm (x :: queue) := List.perm_append_singleton x queue
  constructor
  · intro hnew
    have hrest : rest.Perm queue := (hnew.trans hlast).cons_inv
    have hsame : ([y] ++ queue).Perm ([b] ++ queue) := (hrest.symm.cons y).trans h
    exact List.singleton_perm_singleton.mp ((List.perm_append_right_iff _).mp hsame)
  · rintro rfl
    exact (h.cons_inv.cons x).trans hlast.symm

end SlotTable
