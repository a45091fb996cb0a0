import PodPlacement.Discovery.Error

/-! # Choice errors -/

namespace PodPlacement

/-- Why no pod was chosen. -/
inductive ChooseError (ε : Type := String) where
  | discovery (cause : DiscoveryError ε)
  | noRunningPods (group : String)
  deriving DecidableEq

namespace ChooseError

variable {ε : Type}

/-- The name of the kind of error. -/
def kind : ChooseError ε → String
  | .discovery cause => cause.kind
  | .noRunningPods _ => "NoRunningPods"

/-- The wording of an error. -/
def message : ChooseError ε → String
  | .discovery cause => cause.message
  | .noRunningPods group => "no running pods in replica group '" ++ group ++ "'"

/-- The group exists and nothing in it is running: worth another try later. -/
def isUnavailable : ChooseError ε → Bool
  | .discovery _ => false
  | .noRunningPods _ => true

/-- The caller gave the choice up. -/
def isCancelled : ChooseError ε → Bool
  | .discovery (.cancelled _) => true
  | _ => false

end ChooseError

end PodPlacement
