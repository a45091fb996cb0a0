import PodPlacement.Cluster.Selector
import PodPlacement.Config.Basic

/-! # Validation — the rules that a configuration breaks

    Every rule is checked, and the issues come in the order of the rules: the
    group, the ring points, the seed, the time limit. -/

namespace PodPlacement

/-- A rule that a configuration breaks. -/
inductive ValidationIssue where
  | emptyReplicaGroup
  | invalidReplicaGroup (cause : SelectorError)
  | zeroRingPoints
  | seedWithoutRandom
  | zeroListTimeout
  deriving DecidableEq

namespace ValidationIssue

/-- The name of the kind of issue. -/
def kind : ValidationIssue → String
  | .emptyReplicaGroup => "EmptyReplicaGroup"
  | .invalidReplicaGroup _ => "InvalidReplicaGroup"
  | .zeroRingPoints => "ZeroRingPoints"
  | .seedWithoutRandom => "SeedWithoutRandom"
  | .zeroListTimeout => "ZeroListTimeout"

/-- The wording of an issue. -/
def message : ValidationIssue → String
  | .emptyReplicaGroup => "replica_group must not be empty"
  | .invalidReplicaGroup cause => "replica_group is not a valid label value: " ++ cause.message
  | .zeroRingPoints => "ring_points must be greater than zero"
  | .seedWithoutRandom => "seed only applies to the random strategy"
  | .zeroListTimeout => "list_timeout_ms must be greater than zero"

end ValidationIssue

namespace ChooserConfig

/-- The issue with the group's name. -/
def groupIssue? (config : ChooserConfig) : Option ValidationIssue :=
  if config.replicaGroup.isEmpty then some .emptyReplicaGroup
  else match LabelValue.check config.replicaGroup with
    | .ok () => none
    | .error cause => some (.invalidReplicaGroup cause)

/-- The issue with the ring points. -/
def pointsIssue? (config : ChooserConfig) : Option ValidationIssue :=
  if config.ringPoints = 0 then some .zeroRingPoints else none

/-- The issue with the seed. -/
def seedIssue? (config : ChooserConfig) : Option ValidationIssue :=
  if config.seed.isSome ∧ config.strategy ≠ .random then some .seedWithoutRandom else none

/-- The issue with the time limit. -/
def limitIssue? (config : ChooserConfig) : Option ValidationIssue :=
  if config.listTimeoutMs = some 0 then some .zeroListTimeout else none

/-- All issues with a configuration. -/
def issues (config : ChooserConfig) : List ValidationIssue :=
  [config.groupIssue?, config.pointsIssue?, config.seedIssue?, config.limitIssue?].filterMap id

end ChooserConfig

end PodPlacement
