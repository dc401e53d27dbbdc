import VirtualLte.Lib.Run
import Mathlib.Data.List.Forall2

/-!
# Relays

A relay accepts items, keeps them in a queue and finishes them in order, each with an
output or without one.

* `collect` gathers what the steps of a run contribute.
* `Progress` is what one step or a whole run does: what was pending and what was accepted
  is what was finished and what is pending now.  It composes (`Progress.trans`), so it
  holds of a run if it holds of its steps (`progress_run`).
* `Progress` also says of a guard on the steps that it is what makes every item come out.
  `Progress.relays_iff`: once nothing is pending, every item has its output if and only if
  the guard held all along.
-/

namespace Relay

open Transition

variable {S E Item Out : Type} {step : S → E → S}

/-- What the steps of a run contribute, in order. -/
def collect (step : S → E → S) (f : S → E → List Item) : S → List E → List Item
  | _, [] => []
  | s, e :: es => f s e ++ collect step f (step s e) es

variable (pending : S → List Item) (sent : S → List Out) (sound : S → Prop) (R : Item → Out → Prop)

/-- From `s` to `s'` the items `accepted` came in and those of `finished` went out.  None
was lost exactly if nothing that is pending was spoiled before and `guard` held. -/
structure Progress (s s' : S) (accepted : List Item) (guard : Prop)
    (finished : List (Item × Option Out)) : Prop where
  items : pending s ++ accepted = finished.map (·.1) ++ pending s'
  outputs : sent s' = sent s ++ finished.filterMap (·.2)
  related : ∀ d ∈ finished, ∀ out ∈ d.2, R d.1 out
  sound_iff : sound s ∧ guard ↔ (∀ d ∈ finished, d.2.isSome = true) ∧ sound s'

variable {pending sent sound R} {s s' s'' : S} {accepted accepted' : List Item} {guard guard' : Prop}
  {finished finished' : List (Item × Option Out)}

/-- A step that touches nothing of the relay. -/
theorem Progress.quiet (hpending : pending s' = pending s) (hsent : sent s' = sent s)
    (hsound : sound s' ↔ sound s) (hguard : guard) :
    Progress pending sent sound R s s' [] guard [] where
  items := by rw [hpending, List.append_nil, List.map_nil, List.nil_append]
  outputs := by rw [hsent, List.filterMap_nil, List.append_nil]
  related := nofun
  sound_iff := by simp [hsound, hguard]

theorem Progress.trans (h : Progress pending sent sound R s s' accepted guard finished)
    (h' : Progress pending sent sound R s' s'' accepted' guard' finished') :
    Progress pending sent sound R s s'' (accepted ++ accepted') (guard ∧ guard')
      (finished ++ finished') where
  items := by
    rw [← List.append_assoc, h.items, List.append_assoc, h'.items, List.map_append, List.append_assoc]
  outputs := by rw [h'.outputs, h.outputs, List.filterMap_append, List.append_assoc]
  related d hd := (List.mem_append.mp hd).elim (h.related d) (h'.related d)
  sound_iff := by
    rw [← and_assoc, h.sound_iff, and_assoc, h'.sound_iff, List.forall_mem_append, and_assoc]

/-- What every step does under an invariant, a whole run does. -/
theorem progress_run {I : S → Prop} {W G : S → E → Prop} {f : S → E → List Item}
    (hstep : ∀ s e, I s → W s e → I (step s e) ∧
      ∃ finished, Progress pending sent sound R s (step s e) (f s e) (G s e) finished)
    {es : List E} (hinit : I s) (hrun : Along step W s es) :
    I (run step s es) ∧ ∃ finished, Progress pending sent sound R s (run step s es)
      (collect step f s es) (Along step G s es) finished := by
  induction es generalizing s with
  | nil => exact ⟨hinit, [], .quiet rfl rfl Iff.rfl trivial⟩
  | cons e es ih =>
    obtain ⟨hnext, finished, hone⟩ := hstep s e hinit hrun.1
    obtain ⟨hend, finished', hrest⟩ := ih hnext hrun.2
    exact ⟨hend, _, hone.trans hrest⟩

/-- When every finished item has an output, the outputs match the items one by one. -/
theorem forall₂_of_outputs (hrelated : ∀ d ∈ finished, ∀ out ∈ d.2, R d.1 out)
    (hall : ∀ d ∈ finished, d.2.isSome = true) :
    List.Forall₂ R (finished.map (·.1)) (finished.filterMap (·.2)) := by
  induction finished with
  | nil => exact .nil
  | cons d finished ih =>
    obtain ⟨hd, hrest⟩ := List.forall_mem_cons.mp hrelated
    obtain ⟨hsome, hall⟩ := List.forall_mem_cons.mp hall
    obtain ⟨out, hout⟩ := Option.isSome_iff_exists.mp hsome
    rw [List.map_cons, List.filterMap_cons_some hout]
    exact .cons (hd out hout) (ih hrest hall)

/-- Where an output is missing, there are fewer outputs than items. -/
theorem outputs_of_length (h : (finished.filterMap (·.2)).length = finished.length) :
    ∀ d ∈ finished, d.2.isSome = true := by
  induction finished with
  | nil => nofun
  | cons d finished ih =>
    cases hout : d.2 with
    | none =>
      rw [List.filterMap_cons_none hout, List.length_cons] at h
      have hle := List.length_filterMap_le (fun d : Item × Option Out => d.2) finished
      exact absurd (h ▸ hle) (Nat.not_succ_le_self _)
    | some out =>
      rw [List.filterMap_cons_some hout, List.length_cons, List.length_cons] at h
      exact List.forall_mem_cons.mpr ⟨hout ▸ rfl, ih (Nat.succ.inj h)⟩

/-- Once the relay is empty: the outputs match what was pending and what was accepted one
by one, exactly if nothing was spoiled at the start and the guard held. -/
theorem Progress.relays_iff (h : Progress pending sent sound R s s' accepted guard finished)
    (hend : pending s' = []) (hsound' : sound s') :
    (∃ outs, sent s' = sent s ++ outs ∧ List.Forall₂ R (pending s ++ accepted) outs) ↔
      sound s ∧ guard := by
  have hitems : pending s ++ accepted = finished.map (·.1) := by
    have := h.items
    rwa [hend, List.append_nil] at this
  rw [h.sound_iff, and_iff_left hsound', hitems]
  constructor
  · rintro ⟨outs, hsent, hmatch⟩
    have houts : finished.filterMap (·.2) = outs := List.append_cancel_left (h.outputs.symm.trans hsent)
    refine outputs_of_length ?_
    rw [houts, ← hmatch.length_eq, List.length_map]
  · exact fun hall => ⟨_, h.outputs, forall₂_of_outputs h.related hall⟩

end Relay
