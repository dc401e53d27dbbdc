import VirtualLte.Engine.SecuritySide
import VirtualLte.Ran.Cells

/-!
# The engine and its transport

A run of the engine is a run of its transport (`run_moves`), so that what holds of the
transport on its own holds in every run of the engine.
-/

namespace VirtualLte.Engine

open Ran

theorem ranInit_init (cfg : UeInstanceConfig) (os : OsAnswers) :
    RanInit (ueContextInitFromConfig cfg os).net.ran := by
  have hinit : RanInit (ueRanTransportInit os) := ⟨os, [], rfl⟩
  dsimp only [ueContextInitFromConfig]
  split
  · unfold ueRanTransportAddGnb
    split
    · exact hinit
    · exact ⟨os, _, rfl⟩
  · exact hinit

/-- A run of the engine is a run of its transport, whose cell table is in order throughout. -/
theorem run_ran (cfg : UeInstanceConfig) (os : OsAnswers) (es : List Step) :
    RanReachable (run (ueContextInitFromConfig cfg os) es).net.ran ∧
      ServingCell (run (ueContextInitFromConfig cfg os) es).net.ran := by
  obtain ⟨rs, hrs⟩ := (run_moves (ueContextInitFromConfig cfg os) es).ran
  have hreach : RanReachable (run (ueContextInitFromConfig cfg os) es).net.ran :=
    ⟨_, rs, ranInit_init cfg os, hrs.symm⟩
  refine ⟨hreach, Transition.Reachable.invariant ?_ (fun _ e h => h.step e) hreach⟩
  rintro _ ⟨os, eps, rfl⟩
  exact servingCell_cleared rfl rfl rfl (Int.le_refl 1)

end VirtualLte.Engine
