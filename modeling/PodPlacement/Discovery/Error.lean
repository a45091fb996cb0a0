import PodPlacement.Cluster.LabelValue
import PodPlacement.Time.Span

/-! # Discovery errors

    What an orchestrator says of its failures is its own affair; an error keeps
    it as it is. -/

namespace PodPlacement

/-- Why no pods could be discovered, by an orchestrator with failures `ε`. -/
inductive DiscoveryError (ε : Type := String) where
  | invalidSelector (cause : SelectorError)
  | list (group : String) (cause : ε)
  | cancelled (group : String)
  | timedOut (group : String) (limit : Span)
  deriving DecidableEq

namespace DiscoveryError

variable {ε : Type}

/-- The name of the kind of error. -/
def kind : DiscoveryError ε → String
  | .invalidSelector _ => "InvalidSelector"
  | .list .. => "List"
  | .cancelled _ => "Cancelled"
  | .timedOut .. => "TimedOut"

/-- The wording of an error. -/
def message : DiscoveryError ε → String
  | .invalidSelector cause => "cannot build pod selector: " ++ cause.message
  | .list group _ => "failed to list pods for replica group '" ++ group ++ "'"
  | .cancelled group => "listing pods for replica group '" ++ group ++ "' was cancelled"
  | .timedOut group limit =>
    "listing pods for replica group '" ++ group ++ "' timed out after " ++ limit.text

/-- The wordings of the errors behind an error, where a failure is its own wording. -/
def sources : DiscoveryError → List String
  | .invalidSelector cause => [cause.message]
  | .list _ cause => [cause]
  | .cancelled _ => []
  | .timedOut .. => []

end DiscoveryError

end PodPlacement
