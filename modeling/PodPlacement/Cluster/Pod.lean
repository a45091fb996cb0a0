import PodPlacement.Cluster.Labels
import PodPlacement.Time.Instant

/-! # Pods — worker replicas as the orchestrator reports them

    A pod takes work when it is running: its phase is `Running` and its
    deletion has not been requested.  The phase stays `Running` after such a
    request until the containers have exited. -/

namespace PodPlacement

/-- The phase of a pod's life. -/
inductive PodPhase where
  | pending
  | running
  | succeeded
  | failed
  | unknown
  deriving DecidableEq

namespace PodPhase

/-- All phases, in the order of a pod's life. -/
def all : List PodPhase := [.pending, .running, .succeeded, .failed, .unknown]

/-- The name of a phase. -/
def name : PodPhase → String
  | .pending => "Pending"
  | .running => "Running"
  | .succeeded => "Succeeded"
  | .failed => "Failed"
  | .unknown => "Unknown"

/-- The phase of this name. -/
def ofName? (name : String) : Option PodPhase :=
  all.find? (·.name = name)

theorem ofName?_name (phase : PodPhase) : ofName? phase.name = some phase := by
  cases phase <;> decide

end PodPhase

/-- One worker replica. -/
structure Pod where
  name : String
  scope : Option String
  labels : Labels
  phase : PodPhase
  address : Option String
  deletedAt : Option Instant
  deriving DecidableEq

namespace Pod

/-- A pod of which only name, labels and phase are known. -/
def plain (name : String) (labels : Labels) (phase : PodPhase) : Pod :=
  ⟨name, none, labels, phase, none, none⟩

/-- Deletion has been requested. -/
def isTerminating (pod : Pod) : Bool :=
  pod.deletedAt.isSome

/-- Takes work now. -/
def isRunning (pod : Pod) : Bool :=
  pod.phase = .running && !pod.isTerminating

/-- The name, qualified by the pod's scope when it has one. -/
def qualifiedName (pod : Pod) : String :=
  match pod.scope with
  | none => pod.name
  | some scope => scope ++ "/" ++ pod.name

end Pod

/-- A service whose pods are chosen from, known by its name. -/
structure ReplicaGroup where
  name : String
  deriving DecidableEq

end PodPlacement
