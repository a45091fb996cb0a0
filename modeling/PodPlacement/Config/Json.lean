import PodPlacement.Config.Basic
import PodPlacement.Json.Decode

/-! # The JSON form of configurations -/

namespace PodPlacement.ChooserConfig

/-- How field values are read in JSON. -/
def jsonNotation : ConfigNotation Json JsonError where
  fail := .data
  text := Json.asString
  strategy := Json.asVariant (ChooserStrategy.all.map ChooserStrategy.name) ChooserStrategy.ofName?
  points := Json.asWord "usize"
  optional := Json.asOption (Json.asWord "u64")

/-- How configurations are read in JSON. -/
def jsonReader : Json.RecordReader ConfigFields ChooserConfig where
  name := ConfigFields.title
  fields := ConfigFields.names
  needed := ConfigFields.needed
  blank := .blank
  put := ConfigFields.put jsonNotation
  finish := ConfigFields.config

/-- Reads a configuration. -/
def ofJson : Json → Except JsonError ChooserConfig := jsonReader.decode

/-- Reads a configuration from a text that holds nothing else. -/
def ofJsonText : String → Except JsonError ChooserConfig := Json.decodeText ofJson

/-- A number or `null`. -/
def wordJson : Option UInt64 → Json
  | none => .null
  | some n => .number (.ofNat n.toNat)

/-- The members of a configuration's object. -/
def members (config : ChooserConfig) : List (String × Json) :=
  [("replica_group", .ofString config.replicaGroup),
   ("strategy", .ofString config.strategy.name),
   ("ring_points", .number (.ofNat config.ringPoints.toNat)),
   ("list_timeout_ms", wordJson config.listTimeoutMs),
   ("seed", wordJson config.seed)]

/-- The JSON form of a configuration. -/
def toJson (config : ChooserConfig) : Json := .record config.members

end PodPlacement.ChooserConfig
