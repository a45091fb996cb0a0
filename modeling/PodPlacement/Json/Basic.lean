import PodPlacement.Decode.Fault
import PodPlacement.Json.Number

/-! # JSON values — and texts that break off

    A text is read into a tree even when it breaks off: the break then stands
    in the tree at its place.  So what a reader reports first, a break or a
    value that is not the one asked for, is a matter of the order in which it
    walks the tree.

    `Json.skip` passes over a value and finds nothing wrong with a whole one. -/

namespace PodPlacement

/-- A JSON value, or as much of it as the text has. -/
inductive Json where
  | null
  | bool (b : Bool)
  | number (literal : JsonNumber)
  | string (text : Except Break String)
  /-- The items, and what breaks the list off after them. -/
  | array (items : List Json) (fault : Option Break)
  /-- The members, and what breaks the object off after them. -/
  | object (members : List (Except Break String × Json)) (fault : Option Break)
  /-- An object whose first key is no string. -/
  | keyless
  /-- The text breaks off before a value begins. -/
  | absent (fault : Break)
  /-- The text breaks off inside a value. -/
  | broken (fault : Break)

/-- Why a text gives no decoded value. -/
inductive JsonError where
  | text (fault : JsonFault)
  | data (fault : DecodeFault)
  deriving DecidableEq

namespace JsonError

/-- The wording of an error. -/
def message : JsonError → String
  | .text fault => fault.message
  | .data fault => fault.message

/-- The name of the kind of error. -/
def kind : JsonError → String
  | .text fault => if fault.isEnd then "JsonEof" else "JsonSyntax"
  | .data _ => "JsonData"

end JsonError

namespace Json

instance : Inhabited Json := ⟨.null⟩

/-- A text as a value. -/
def ofString (s : String) : Json := .string (.ok s)

/-- A list of values, whole. -/
def list (items : List Json) : Json := .array items none

/-- Named values, whole. -/
def record (members : List (String × Json)) : Json :=
  .object (members.map fun (key, value) => (.ok key, value)) none

/-- Passes a break. -/
def passBreak : Option Break → Except JsonFault Unit
  | none => .ok ()
  | some fault => fault.skipped.elim (.ok ()) .error

mutual

/-- Passes over a value. -/
def skip : Json → Except JsonFault Unit
  | .null | .bool _ | .number _ => .ok ()
  | .string (.ok _) => .ok ()
  | .string (.error fault) => passBreak (some fault)
  | .array items fault => do
    skipItems items
    passBreak fault
  | .object members fault => do
    skipMembers members
    passBreak fault
  | .keyless => .error .keyNotString
  | .absent fault | .broken fault => passBreak (some fault)

/-- Passes over values one after another. -/
def skipItems : List Json → Except JsonFault Unit
  | [] => .ok ()
  | item :: rest => do
    skip item
    skipItems rest

/-- Passes over members one after another. -/
def skipMembers : List (Except Break String × Json) → Except JsonFault Unit
  | [] => .ok ()
  | (key, value) :: rest => do
    if let .error fault := key then passBreak (some fault)
    skip value
    skipMembers rest

end

/-- What a value is, said by a reader who asked for something else. -/
def found : Json → Except JsonFault String
  | .null => .ok "null"
  | .bool b => .ok (Found.bool b)
  | .number literal => literal.value.map fun
    | .unsigned n => Found.integer n
    | .signed n => Found.integer n
    | .float x => Found.float (Layout.signed.text x)
  | .string (.ok s) => .ok (Found.string s)
  | .string (.error fault) => .error fault.read
  | .array .. => .ok Found.sequence
  | .object .. | .keyless => .ok Found.map
  | .absent fault | .broken fault => .error fault.read

end Json

end PodPlacement
