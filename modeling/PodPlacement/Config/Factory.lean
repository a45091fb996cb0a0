import PodPlacement.Chooser.Basic
import PodPlacement.Config.File

/-! # From configurations to choosers

    A configuration that breaks a rule makes no chooser, whatever else is
    given.  A sticky one needs an affinity key, a random one has no use for it;
    a random one with a seed draws from a source of its own. -/

namespace PodPlacement.ChooserConfig

variable {σ : Type} [SeededSource σ]

/-- The policy that a configuration asks for. -/
def policy (config : ChooserConfig) (key : Option AffinityKey) :
    Except ConfigError (Policy σ) :=
  match config.strategy with
  | .random => .ok (.random (config.seed.map SeededSource.ofSeed))
  | .sticky =>
    match key with
    | some key => .ok (.sticky key config.ringPoints.toNat)
    | none => .error (.missingAffinityKey config.replicaGroup)

/-- Builds the chooser of a configuration. -/
def build (config : ChooserConfig) (key : Option AffinityKey) :
    Except ConfigError (Chooser σ) := do
  config.validate
  return .new config.group config.limit (← config.policy key)

/-- A chooser was built. -/
def builtEvent (config : ChooserConfig) : Event :=
  .say .debug "podchooser_core::conf::factory" "pod chooser built"
    [("group", .text config.replicaGroup), ("strategy", .text config.strategy.title)]

end PodPlacement.ChooserConfig
