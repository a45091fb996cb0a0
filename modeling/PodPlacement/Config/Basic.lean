import PodPlacement.Cluster.Pod
import PodPlacement.Decode.Field
import PodPlacement.Ring.Basic
import PodPlacement.Time.Span

/-! # Chooser configurations

    A configuration names a replica group and says how its pods are chosen.
    Only the group is needed; the strategy defaults to `random` and the number
    of ring points to the ring's own default. -/

namespace PodPlacement

/-- How pods are chosen. -/
inductive ChooserStrategy where
  | random
  | sticky
  deriving DecidableEq

namespace ChooserStrategy

/-- All strategies. -/
def all : List ChooserStrategy := [.random, .sticky]

/-- The name of a strategy in configurations. -/
def name : ChooserStrategy → String
  | .random => "random"
  | .sticky => "sticky"

/-- The name of a strategy in events. -/
def title : ChooserStrategy → String
  | .random => "Random"
  | .sticky => "Sticky"

/-- The strategy of this name. -/
def ofName? (name : String) : Option ChooserStrategy :=
  all.find? (·.name = name)

theorem ofName?_name (strategy : ChooserStrategy) : ofName? strategy.name = some strategy := by
  cases strategy <;> decide

end ChooserStrategy

/-- What a chooser is made from. -/
structure ChooserConfig where
  replicaGroup : String
  strategy : ChooserStrategy
  ringPoints : UInt64
  listTimeoutMs : Option UInt64
  seed : Option UInt64
  deriving DecidableEq

namespace ChooserConfig

/-- The group whose pods are chosen from. -/
def group (config : ChooserConfig) : ReplicaGroup := ⟨config.replicaGroup⟩

/-- The time limit of a listing. -/
def limit (config : ChooserConfig) : Option Span :=
  config.listTimeoutMs.map fun ms => .ofMilliseconds ms.toNat

end ChooserConfig

/-- The fields of a configuration, as far as they have been read. -/
structure ConfigFields where
  replicaGroup : Option String
  strategy : Option ChooserStrategy
  ringPoints : Option UInt64
  listTimeoutMs : Option (Option UInt64)
  seed : Option (Option UInt64)

/-- How the values of configuration fields are read in some notation. -/
structure ConfigNotation (ν ε : Type) where
  /-- A fault of the data. -/
  fail : DecodeFault → ε
  text : ν → Except ε String
  strategy : ν → Except ε ChooserStrategy
  points : ν → Except ε UInt64
  optional : ν → Except ε (Option UInt64)

namespace ConfigFields

/-- Nothing read yet. -/
def blank : ConfigFields := ⟨none, none, none, none, none⟩

/-- The names of the fields in order. -/
def names : List String := ["replica_group", "strategy", "ring_points", "list_timeout_ms", "seed"]

/-- The fields that no list may lack: the group, and the optional ones, which have no default. -/
def needed : List Nat := [0, 3, 4]

/-- What faults call a configuration. -/
def title : String := "struct ChooserConfig"

variable {ν ε : Type}

/-- Takes in the value of a field. -/
def put (how : ConfigNotation ν ε) (fields : ConfigFields) (field : String) (value : ν) :
    Except ε ConfigFields :=
  match field with
  | "replica_group" => do
    let replicaGroup ← fillField how.fail field fields.replicaGroup fun _ => how.text value
    return { fields with replicaGroup }
  | "strategy" => do
    let strategy ← fillField how.fail field fields.strategy fun _ => how.strategy value
    return { fields with strategy }
  | "ring_points" => do
    let ringPoints ← fillField how.fail field fields.ringPoints fun _ => how.points value
    return { fields with ringPoints }
  | "list_timeout_ms" => do
    let listTimeoutMs ← fillField how.fail field fields.listTimeoutMs fun _ => how.optional value
    return { fields with listTimeoutMs }
  | "seed" => do
    let seed ← fillField how.fail field fields.seed fun _ => how.optional value
    return { fields with seed }
  | _ => .ok fields

/-- The configuration of these fields; what has not been read has its default. -/
def config (fields : ConfigFields) : Except DecodeFault ChooserConfig :=
  match fields.replicaGroup with
  | none => .error (.missingField "replica_group")
  | some replicaGroup => .ok
    { replicaGroup
      strategy := fields.strategy.getD .random
      ringPoints := fields.ringPoints.getD (UInt64.ofNat HashRing.defaultPoints)
      listTimeoutMs := fields.listTimeoutMs.getD none
      seed := fields.seed.getD none }

end ConfigFields

end PodPlacement
