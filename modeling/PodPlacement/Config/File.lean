import PodPlacement.Config.Hcl
import PodPlacement.Config.Validation
import PodPlacement.Storage.Basic

/-! # Configuration files -/

namespace PodPlacement

/-- Why there is no configuration, or no chooser for it. -/
inductive ConfigError where
  | readFile (path : String) (fault : ReadFault)
  /-- The text is not HCL. -/
  | malformed (path : String)
  | parse (path : String) (fault : DecodeFault)
  | validation (issues : List ValidationIssue)
  | missingAffinityKey (group : String)
  deriving DecidableEq

namespace ConfigError

/-- The name of the kind of error. -/
def kind : ConfigError → String
  | .readFile .. => "ReadFile"
  | .malformed _ => "ParseSyntax"
  | .parse .. => "Parse"
  | .validation _ => "Validation"
  | .missingAffinityKey _ => "MissingAffinityKey"

/-- The wording of an error. -/
def message : ConfigError → String
  | .readFile path fault => "failed to read config file " ++ path ++ ": " ++ fault.message
  | .malformed path => "failed to parse HCL in " ++ path
  | .parse path fault => "failed to parse HCL in " ++ path ++ ": " ++ fault.message
  | .validation issues =>
    "configuration validation failed with " ++ String.ofList (Digits.shortest issues.length)
      ++ " issue(s)"
  | .missingAffinityKey group =>
    "sticky chooser for replica group '" ++ group ++ "' needs an affinity key"

end ConfigError

namespace ChooserConfig

/-- Accepts the configurations that break no rule. -/
def validate (config : ChooserConfig) : Except ConfigError Unit :=
  match config.issues with
  | [] => .ok ()
  | issues => .error (.validation issues)

theorem validate_eq_ok_iff (config : ChooserConfig) :
    config.validate = .ok () ↔ config.issues = [] := by
  unfold validate
  cases config.issues with
  | nil => simp
  | cons => simp

theorem validate_eq_error_iff (config : ChooserConfig) {e : ConfigError} :
    config.validate = .error e ↔ e = .validation config.issues ∧ config.issues ≠ [] := by
  unfold validate
  cases config.issues with
  | nil => simp
  | cons => simp [eq_comm]

/-- Reads the configuration that a text holds; `path` tells where the text comes from. -/
def ofHclText (path text : String) : Except ConfigError ChooserConfig :=
  match HclItem.ofText? text with
  | none => .error (.malformed path)
  | some items => (ofHclItems items).mapError (.parse path)

/-- Reads a configuration file without checking its rules. -/
def parseFile (storage : Storage) (path : String) : Except ConfigError ChooserConfig := do
  let text ← (storage.readText path).mapError (.readFile path)
  ofHclText path text

/-- Reads a configuration file. -/
def loadFile (storage : Storage) (path : String) : Except ConfigError ChooserConfig := do
  let config ← parseFile storage path
  config.validate
  return config

end ChooserConfig

end PodPlacement
