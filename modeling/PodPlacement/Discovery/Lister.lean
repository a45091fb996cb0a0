import PodPlacement.Cluster.PodJson
import PodPlacement.Cluster.Selector
import PodPlacement.Discovery.Poll

/-! # Listers — the orchestrator as a caller sees it

    Whoever discovers pods knows of an orchestrator only when it answers a
    listing, and with what.  A lister is one that serves a snapshot of pods,
    takes its time, and may fail instead of answering. -/

namespace PodPlacement

/-- States of an orchestrator, and its failures. -/
class Orchestrator (κ : Type) (ε : outParam Type) where
  /-- When a listing is answered. -/
  delay : κ → LabelSelector → Moment
  /-- The pods that a listing answers, or the failure. -/
  answer : κ → LabelSelector → Except ε (List Pod)

/-- An orchestrator that serves a snapshot. -/
structure Lister where
  pods : List Pod
  failure : Option String
  delay : Moment
  deriving DecidableEq

namespace Lister

/-- Serves these pods at once. -/
def ofPods (pods : List Pod) : Lister := ⟨pods, none, .tick 0⟩

/-- Serves the pods that a text lists. -/
def ofJsonText (text : String) : Except JsonError Lister :=
  (Pod.listOfText text).map ofPods

/-- What a listing answers: the pods selected, in the order of the snapshot. -/
def answer (lister : Lister) (selector : LabelSelector) : Except String (List Pod) :=
  match lister.failure with
  | some message => .error message
  | none => .ok (lister.pods.filter fun pod => selector.selects pod.labels)

end Lister

instance : Orchestrator Lister String where
  delay lister _ := lister.delay
  answer := Lister.answer

/-- One request for a listing, and whether it ran to its end. -/
structure ListCall where
  selector : LabelSelector
  finished : Bool
  deriving DecidableEq

end PodPlacement
