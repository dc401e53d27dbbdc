import VirtualLte.Lib.Run

/-!
# Counting along a run

`cost s e` is what the step at `s` by `e` uses up, `spent` the sum over a run.
`spent_le_budget` is the rule for bounds: when every step is paid out of a budget that the
state carries, a whole run costs no more than the budget it starts with.
-/

namespace Transition

variable {S E : Type} (step : S → E → S) (cost : S → E → Nat)

/-- What the steps of a run use up together. -/
def spent : S → List E → Nat
  | _, [] => 0
  | s, e :: es => cost s e + spent (step s e) es

@[simp] theorem spent_cons (s : S) (e : E) (es : List E) :
    spent step cost s (e :: es) = cost s e + spent step cost (step s e) es := rfl

variable {step cost}

/-- A run under `G` costs at most the budget of its first state, when the invariant holds
there and every step pays what it costs. -/
theorem spent_le_budget {G : S → E → Prop} {I : S → Prop} {budget : S → Nat}
    (hkeep : ∀ s e, I s → G s e → I (step s e))
    (hpay : ∀ s e, I s → G s e → cost s e + budget (step s e) ≤ budget s)
    {s : S} {es : List E} (hinit : I s) (hrun : Along step G s es) :
    spent step cost s es ≤ budget s := by
  induction es generalizing s with
  | nil => exact Nat.zero_le _
  | cons e es ih =>
    have htail := ih (hkeep s e hinit hrun.1) hrun.2
    have hhead := hpay s e hinit hrun.1
    rw [spent_cons]
    omega

end Transition
