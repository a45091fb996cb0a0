import PodPlacement.Json.Reader

/-! # Decoding JSON — values of the kinds that records are made of

    A decoder takes the value it asks for and says of any other what it found.
    A record decodes from an object, whose members may stand in any order and
    among others that are passed over, or from the list of its fields in order. -/

namespace PodPlacement.Json

/-- Says what was found where something else was asked for. -/
def wrongType {α : Type} (value : Json) (expected : String) : Except JsonError α :=
  match value.found with
  | .ok found => .error (.data (.invalidType found expected))
  | .error fault => .error (.text fault)

/-- Fails where a text breaks off. -/
def stopAt : Option Break → Except JsonError Unit
  | none => .ok ()
  | some fault => .error (.text fault.read)

/-- Passes over a value. -/
def pass (value : Json) : Except JsonError Unit :=
  value.skip.mapError .text

/-- A text. -/
def asString : Json → Except JsonError String
  | .string (.ok s) => .ok s
  | value => value.wrongType "a string"

/-- A natural number of 64 bits. -/
def asWord (expected : String) : Json → Except JsonError UInt64
  | .number literal =>
    match literal.value with
    | .ok (.unsigned n) => .ok (UInt64.ofNat n)
    | .ok (.signed n) => .error (.data (.invalidValue (Found.integer n) expected))
    | _ => (Json.number literal).wrongType expected
  | value => value.wrongType expected

/-- A value that may be `null`. -/
def asOption {α : Type} (decode : Json → Except JsonError α) : Json → Except JsonError (Option α)
  | .null => .ok none
  | value => (decode value).map some

/-- A list. -/
def asList {α : Type} (decode : Json → Except JsonError α) : Json → Except JsonError (List α)
  | .array items fault => do
    let decoded ← items.mapM decode
    stopAt fault
    return decoded
  | value => value.wrongType Found.expectedList

/-- The end of an object that names a variant. -/
def variantEnd : List (Except Break String × Json) → Option Break → Except JsonError Unit
  | [], none => .ok ()
  | [], some fault => .error (.text
      (if fault.read = .endOfObject then .endOfObject else .expectedValue))
  | _ :: _, _ => .error (.text .expectedValue)

/-- A word out of a few, alone or as the key of an object that holds `null` under it. -/
def asVariant {α : Type} (known : List String) (ofName? : String → Option α) :
    Json → Except JsonError α :=
  let variant (name : String) : Except JsonError α :=
    match ofName? name with
    | some a => .ok a
    | none => .error (.data (.unknownVariant name known))
  fun
  | .string (.ok name) => variant name
  | .string (.error fault) => .error (.text fault.read)
  | .object [] none => .error (.text .expectedValue)
  | .object [] (some fault) => .error (.text fault.read)
  | .object ((.error fault, _) :: _) _ => .error (.text fault.read)
  | .object ((.ok name, value) :: more) fault => do
    let a ← variant name
    match value with
    | .null => variantEnd more fault
    | _ => value.wrongType "unit"
    return a
  | .keyless => .error (.text .keyNotString)
  | .absent fault => .error (.text fault.read)
  | _ => .error (.text .expectedValue)

/-- A word that names something is read as that. -/
theorem asVariant_ofString {α : Type} {known : List String} {ofName? : String → Option α}
    {name : String} {a : α} (h : ofName? name = some a) :
    asVariant known ofName? (.ofString name) = .ok a := by
  simp only [asVariant, ofString, h]

/-- How a record is read. -/
structure RecordReader (ρ α : Type) where
  /-- What faults call the record. -/
  name : String
  /-- The fields in order. -/
  fields : List String
  /-- The positions of the fields that no list may lack. -/
  needed : List Nat
  /-- Nothing read yet. -/
  blank : ρ
  /-- Takes in the value of a field. -/
  put : ρ → String → Json → Except JsonError ρ
  /-- The record, when all has been read. -/
  finish : ρ → Except DecodeFault α

namespace RecordReader

variable {ρ α : Type} (reader : RecordReader ρ α)

/-- Takes in a member of an object; one that is no field is passed over. -/
def putMember (read : ρ) : Except Break String × Json → Except JsonError ρ
  | (.error fault, _) => .error (.text fault.read)
  | (.ok name, value) =>
    if name ∈ reader.fields then reader.put read name value
    else do
      value.pass
      return read

/-- The end of a list after the last field. -/
def listEnd (more : Bool) (fault : Option Break) : Except JsonError Unit :=
  if more then .error (.text .trailingCharacters)
  else match fault with
    | none => .ok ()
    | some fault => .error (.text
        (if fault.read = .expectedCommaInList then .trailingCharacters else fault.read))

/-- How faults name the record and its size. -/
def sized : String :=
  reader.name ++ " with " ++ String.ofList (Digits.shortest reader.fields.length)
    ++ (if reader.fields.length = 1 then " element" else " elements")

/-- Reads a record. -/
def decode : Json → Except JsonError α
  | .object members fault => do
    let read ← members.foldlM reader.putMember reader.blank
    stopAt fault
    (reader.finish read).mapError .data
  | .array items fault => do
    let named := reader.fields.zip items
    let read ← named.foldlM (fun read (name, value) => reader.put read name value) reader.blank
    if items.length < reader.fields.length then
      stopAt fault
      if let some position := reader.needed.find? (items.length ≤ ·) then
        throw (.data (.invalidLength position reader.sized))
    let a ← (reader.finish read).mapError .data
    if reader.fields.length ≤ items.length then
      listEnd (reader.fields.length < items.length) fault
    return a
  | .keyless => .error (.text .keyNotString)
  | value => value.wrongType reader.name

end RecordReader

end PodPlacement.Json
