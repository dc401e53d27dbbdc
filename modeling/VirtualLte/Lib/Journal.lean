import Mathlib.Tactic.Common

/-!
# Logs judged entry by entry

`P pre x` says that the entry `x` is right after the entries `pre`; a log is sound when every
entry is right after those before it.  `sound_concat` is the rule for a log that grows at its
end.
-/

namespace Journal

variable {α : Type} (P : List α → α → Prop)

/-- Every entry is right after the entries before it. -/
def Sound (log : List α) : Prop := ∀ pre x post, log = pre ++ x :: post → P pre x

variable {P}

theorem sound_nil : Sound P [] := by
  intro pre x post h
  simp at h

theorem sound_concat {log : List α} {x : α} : Sound P (log ++ [x]) ↔ Sound P log ∧ P log x := by
  constructor
  · intro h
    refine ⟨?_, h log x [] rfl⟩
    rintro pre y post rfl
    exact h pre y (post ++ [x]) (by simp)
  · rintro ⟨hlog, hx⟩ pre y post heq
    rcases List.eq_nil_or_concat post with rfl | ⟨post, z, rfl⟩
    · obtain ⟨rfl, hyx⟩ := List.append_inj' heq rfl
      cases hyx
      exact hx
    · rw [List.concat_eq_append, ← List.cons_append, ← List.append_assoc] at heq
      obtain ⟨rfl, -⟩ := List.append_inj' heq rfl
      exact hlog pre y post rfl

end Journal
