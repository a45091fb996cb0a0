import PodPlacement.Chooser.Selection
import PodPlacement.Draw.Source
import PodPlacement.Event.Basic

/-! # Random picks — uniform over the running pods

    One index is drawn for a set of pods that is not empty; a number past the
    end of the set wraps around.  Nothing is drawn for the empty set. -/

namespace PodPlacement

/-- What came of picking from a set of pods. -/
inductive Pick where
  | selected (selection : Selection)
  | emptySet
  | drawFailed
  deriving DecidableEq

/-- A pick, what was said about it, and the state of the source after it. -/
structure PickReport (σ : Type) where
  pick : Pick
  events : List Event
  source : σ

namespace Pick

/-- Who speaks in the events of random picks. -/
def randomTarget : String := "podchooser_core::chooser::algorithms::random"

/-- An index was drawn. -/
def drawnEvent (len index : Nat) : Event :=
  .say .debug randomTarget "random pod choice" [("len", .count len), ("n", .count index)]

variable {σ : Type} [DrawSource σ]

/-- Picks a pod at random. -/
def random (pods : List Pod) (source : σ) : PickReport σ :=
  if h : 0 < pods.length then
    match DrawSource.draw source pods.length with
    | (none, source) => ⟨.drawFailed, [], source⟩
    | (some n, source) =>
      let index : Fin pods.length := ⟨n % pods.length, Nat.mod_lt n h⟩
      ⟨.selected (.split pods index .random), [drawnEvent pods.length index], source⟩
  else
    ⟨.emptySet, [], source⟩

/-- The source failed, and with it the pick. -/
def panicked : Pick → Bool
  | .drawFailed => true
  | _ => false

/-- The same pick for another reason. -/
def because (reason : SelectionReason) : Pick → Pick
  | .selected selection => .selected { selection with reason }
  | pick => pick

end Pick

end PodPlacement
