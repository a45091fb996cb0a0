import PodPlacement.Config.Basic
import PodPlacement.Hcl.Decode

/-! # The HCL form of configurations

    A configuration is what stands under `chooser` in a file: an object, a
    block, or the list of its fields in order. -/

namespace PodPlacement.ChooserConfig

/-- How field values are read in HCL. -/
def hclNotation : ConfigNotation HclExpr DecodeFault where
  fail := id
  text e := .ok e.asText
  strategy :=
    HclExpr.asVariant (ChooserStrategy.all.map ChooserStrategy.name) ChooserStrategy.ofName?
  points := HclExpr.asWord "usize"
  optional := HclExpr.asOption (HclExpr.asWord "u64")

/-- Takes in an entry of an object; one that is no field is passed over. -/
def putEntry (fields : ConfigFields) (entry : HclKey × HclExpr) :
    Except DecodeFault ConfigFields := do
  match (← HclExpr.keyName "field identifier" entry.1).among ConfigFields.names with
  | some field => fields.put hclNotation field entry.2
  | none => return fields

/-- How faults name a configuration and its size. -/
def sizedTitle : String :=
  ConfigFields.title ++ " with " ++ String.ofList (Digits.shortest ConfigFields.names.length)
    ++ " elements"

/-- An expression that stands for a value that is not known yet and has no fields so far. -/
def isUnknown : HclExpr → Bool
  | .heredoc .. | .traversal .. | .call .. | .conditional .. | .unary .. | .binary ..
  | .forList .. | .forObject .. => true
  | _ => false

/-- Reads a configuration. -/
def ofHcl : HclExpr → Except DecodeFault ChooserConfig
  | .object entries => do
    (← entries.foldlM putEntry .blank).config
  | .array items => do
    let read ← (ConfigFields.names.zip items).foldlM
      (fun read (field, value) => ConfigFields.put hclNotation read field value) .blank
    if let some position := ConfigFields.needed.find? (items.length ≤ ·) then
      throw (.invalidLength position sizedTitle)
    read.config
  | .template text => .error (.invalidType (Found.string text) ConfigFields.title)
  | e => if isUnknown e then ConfigFields.blank.config else e.wrongType ConfigFields.title

/-- The name of the attribute or block that holds a configuration. -/
def sectionName : String := "chooser"

/-- Reads the configuration in a file. -/
def ofHclItems (items : List HclItem) : Except DecodeFault ChooserConfig :=
  let chooser? := (HclItem.entries items).findSome? fun
    | (.name name, value) => if name = sectionName then some value else none
    | _ => none
  match chooser? with
  | some chooser => ofHcl chooser
  | none => .error (.missingField sectionName)

end PodPlacement.ChooserConfig
