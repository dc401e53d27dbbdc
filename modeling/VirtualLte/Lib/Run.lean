import Mathlib.Tactic.Common

/-!
# Runs of a deterministic machine

A machine is a function `step : S → E → S` on states and events.

* `run` executes a list of events.
* `Along P` says that `P` holds of every state and event met on the way.
* `run_invariant` and `along_of_invariant` are the two induction rules: what each
  step keeps, a whole run keeps, and what each step does under the invariant,
  every step of a run does.
* `along_iff_prefixes` is the exact form: a guard that says which steps keep an
  invariant says which runs do.
-/

namespace Transition

variable {S E : Type} (step : S → E → S)

/-- Execute a list of events. -/
def run (s : S) (es : List E) : S := es.foldl step s

@[simp] theorem run_nil (s : S) : run step s [] = s := rfl

@[simp] theorem run_cons (s : S) (e : E) (es : List E) :
    run step s (e :: es) = run step (step s e) es := rfl

theorem run_append (s : S) (es fs : List E) :
    run step s (es ++ fs) = run step (run step s es) fs :=
  List.foldl_append

/-- Every event of the run is met in a state where `P` holds of the two. -/
def Along (P : S → E → Prop) : S → List E → Prop
  | _, [] => True
  | s, e :: es => P s e ∧ Along P (step s e) es

@[simp] theorem along_nil (P : S → E → Prop) (s : S) : Along step P s [] := trivial

@[simp] theorem along_cons (P : S → E → Prop) (s : S) (e : E) (es : List E) :
    Along step P s (e :: es) ↔ P s e ∧ Along step P (step s e) es := Iff.rfl

theorem along_append (P : S → E → Prop) (s : S) (es fs : List E) :
    Along step P s (es ++ fs) ↔ Along step P s es ∧ Along step P (run step s es) fs := by
  induction es generalizing s with
  | nil => simp
  | cons e es ih => simp [ih, and_assoc]

instance Along.decidable (P : S → E → Prop) [∀ s e, Decidable (P s e)] :
    ∀ (s : S) (es : List E), Decidable (Along step P s es)
  | _, [] => isTrue trivial
  | s, e :: es =>
    match (inferInstance : Decidable (P s e)), Along.decidable P (step s e) es with
    | isTrue h, isTrue t => isTrue ⟨h, t⟩
    | isFalse h, _ => isFalse fun k => h k.1
    | _, isFalse t => isFalse fun k => t k.2

variable {step}

/-- What holds along a run holds at each of its steps. -/
theorem Along.at_prefix {P : S → E → Prop} {s : S} {es pre : List E} {e : E}
    (h : Along step P s es) (hpre : pre ++ [e] <+: es) : P (run step s pre) e := by
  obtain ⟨post, rfl⟩ := hpre
  rw [List.append_assoc] at h
  exact ((along_append step P s pre _).mp h).2.1

/-- A run that meets `G` at every step keeps what every step under `G` keeps. -/
theorem run_invariant {G : S → E → Prop} {I : S → Prop}
    (hstep : ∀ s e, I s → G s e → I (step s e)) {s : S} {es : List E}
    (hinit : I s) (hrun : Along step G s es) :
    I (run step s es) := by
  induction es generalizing s with
  | nil => exact hinit
  | cons e es ih => exact ih (hstep s e hinit hrun.1) hrun.2

/-- Under an invariant, a property each step has under `G` holds all along the run. -/
theorem along_of_invariant {G Q : S → E → Prop} {I : S → Prop}
    (hstep : ∀ s e, I s → G s e → I (step s e)) (hprop : ∀ s e, I s → G s e → Q s e)
    {s : S} {es : List E} (hinit : I s) (hrun : Along step G s es) :
    Along step Q s es := by
  induction es generalizing s with
  | nil => trivial
  | cons e es ih => exact ⟨hprop s e hinit hrun.1, ih (hstep s e hinit hrun.1) hrun.2⟩

/-- Two properties of a step that agree under an invariant agree along every run under `G`. -/
theorem along_congr {G P Q : S → E → Prop} {I : S → Prop}
    (hkeep : ∀ s e, I s → G s e → I (step s e)) (hiff : ∀ s e, I s → G s e → (P s e ↔ Q s e))
    {s : S} {es : List E} (hinit : I s) (hrun : Along step G s es) :
    Along step P s es ↔ Along step Q s es := by
  induction es generalizing s with
  | nil => exact Iff.rfl
  | cons e es ih =>
    rw [along_cons, along_cons, hiff s e hinit hrun.1, ih (hkeep s e hinit hrun.1) hrun.2]

theorem along_of_forall {P : S → E → Prop} (h : ∀ s e, P s e) (s : S) (es : List E) :
    Along step P s es := by
  induction es generalizing s with
  | nil => trivial
  | cons e es ih => exact ⟨h s e, ih (step s e)⟩

/-- When the steps under `G` keep `I`, and every other step breaks the property `P` that
`I` gives, a run meets `G` at every step if and only if `P` holds all the way.  Only steps
that meet `B` count, where the run is known to meet it. -/
theorem along_iff_property_within {B G : S → E → Prop} {I P : S → Prop} (hprop : ∀ s, I s → P s)
    (hkeep : ∀ s e, I s → B s e → G s e → I (step s e))
    (hbreak : ∀ s e, I s → B s e → P (step s e) → G s e) {s : S} {es : List E} (hinit : I s)
    (hrun : Along step B s es) :
    Along step G s es ↔ ∀ pre, pre <+: es → P (run step s pre) := by
  induction es generalizing s with
  | nil =>
    refine ⟨fun _ pre hpre => ?_, fun _ => trivial⟩
    rw [List.prefix_nil.mp hpre]
    exact hprop s hinit
  | cons e es ih =>
    obtain ⟨hb, hrest⟩ := hrun
    constructor
    · rintro ⟨hg, hrun⟩ pre hpre
      cases pre with
      | nil => exact hprop s hinit
      | cons e' pre =>
        obtain ⟨rfl, htail⟩ := List.cons_prefix_cons.mp hpre
        exact (ih (hkeep s e' hinit hb hg) hrest).mp hrun pre htail
    · intro h
      have hg := hbreak s e hinit hb (h [e] ⟨es, rfl⟩)
      exact ⟨hg, (ih (hkeep s e hinit hb hg) hrest).mpr fun pre hpre =>
        h (e :: pre) (List.cons_prefix_cons.mpr ⟨rfl, hpre⟩)⟩

/-- The same of any run. -/
theorem along_iff_property {G : S → E → Prop} {I P : S → Prop} (hprop : ∀ s, I s → P s)
    (hkeep : ∀ s e, I s → G s e → I (step s e)) (hbreak : ∀ s e, I s → P (step s e) → G s e)
    {s : S} {es : List E} (hinit : I s) :
    Along step G s es ↔ ∀ pre, pre <+: es → P (run step s pre) :=
  along_iff_property_within hprop (fun s e hi _ => hkeep s e hi) (fun s e hi _ => hbreak s e hi) hinit
    (along_of_forall (P := fun _ _ => True) (fun _ _ => trivial) s es)

/-- When `G` says exactly which steps keep `I`, a run meets `G` at every step if and only
if `I` holds all the way. -/
theorem along_iff_prefixes {G : S → E → Prop} {I : S → Prop}
    (hstep : ∀ s e, I s → (G s e ↔ I (step s e))) {s : S} {es : List E} (hinit : I s) :
    Along step G s es ↔ ∀ pre, pre <+: es → I (run step s pre) :=
  along_iff_property (fun _ h => h) (fun s e h => (hstep s e h).mp)
    (fun s e h => (hstep s e h).mpr) hinit

/-- A condition on the events alone. -/
theorem along_of_mem {P : E → Prop} {es : List E} (h : ∀ e ∈ es, P e) (s : S) :
    Along step (fun _ e => P e) s es := by
  induction es generalizing s with
  | nil => trivial
  | cons e es ih =>
    exact ⟨h e List.mem_cons_self, ih (fun e' he' => h e' (List.mem_cons_of_mem _ he')) (step s e)⟩

theorem Along.and {P Q : S → E → Prop} {s : S} {es : List E} (hp : Along step P s es)
    (hq : Along step Q s es) : Along step (fun s e => P s e ∧ Q s e) s es := by
  induction es generalizing s with
  | nil => trivial
  | cons e es ih => exact ⟨⟨hp.1, hq.1⟩, ih hp.2 hq.2⟩

variable (step)

/-- `s` is reached from an initial state by some run. -/
def Reachable (init : S → Prop) (s : S) : Prop :=
  ∃ s₀ es, init s₀ ∧ run step s₀ es = s

variable {step}

/-- What holds initially and is kept by every step holds of every reachable state. -/
theorem Reachable.invariant {init I : S → Prop} (hinit : ∀ s, init s → I s)
    (hstep : ∀ s e, I s → I (step s e)) {s : S} (hs : Reachable step init s) : I s := by
  obtain ⟨s₀, es, h₀, rfl⟩ := hs
  exact run_invariant (fun s e hi _ => hstep s e hi) (hinit s₀ h₀)
    (along_of_forall (fun _ _ => True.intro) s₀ es)

end Transition
