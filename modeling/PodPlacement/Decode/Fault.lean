import PodPlacement.Text.Quoted
import PodPlacement.Time.Stamp

/-! # Decoding faults — well-formed data that is not the thing asked for -/

namespace PodPlacement

/-- Why data does not decode. -/
inductive DecodeFault where
  | invalidType (found expected : String)
  | invalidValue (found expected : String)
  | invalidLength (found : Nat) (expected : String)
  | unknownVariant (found : String) (known : List String)
  | missingField (name : String)
  | duplicateField (name : String)
  | stamp (fault : StampFault)
  deriving DecidableEq

namespace DecodeFault

/-- A word set off from the text around it. -/
def marked (word : String) : String := "`" ++ word ++ "`"

/-- What may stand where only some words are known. -/
def choice : List String → String
  | [] => "there are no variants"
  | [a] => "expected " ++ marked a
  | [a, b] => "expected " ++ marked a ++ " or " ++ marked b
  | words => "expected one of " ++ ", ".intercalate (words.map marked)

/-- The wording of a fault. -/
def message : DecodeFault → String
  | .invalidType found expected => "invalid type: " ++ found ++ ", expected " ++ expected
  | .invalidValue found expected => "invalid value: " ++ found ++ ", expected " ++ expected
  | .invalidLength found expected =>
    "invalid length " ++ String.ofList (Digits.shortest found) ++ ", expected " ++ expected
  | .unknownVariant found known => "unknown variant " ++ marked found ++ ", " ++ choice known
  | .missingField name => "missing field " ++ marked name
  | .duplicateField name => "duplicate field " ++ marked name
  | .stamp fault => fault.message

end DecodeFault

namespace Found

/-- A truth value, as faults name it. -/
def bool (b : Bool) : String := "boolean " ++ DecodeFault.marked (if b then "true" else "false")

/-- A whole number, as faults name it. -/
def integer (n : Int) : String := "integer " ++ DecodeFault.marked (toString n)

/-- A number with a point, as faults name it. -/
def float (text : String) : String := "floating point " ++ DecodeFault.marked text

/-- A text, as faults name it. -/
def string (s : String) : String := "string " ++ Text.quoted s

/-- A list, as faults name it. -/
def sequence : String := "sequence"

/-- What a reader of lists asks for. -/
def expectedList : String := "a sequence"

/-- An object, as faults name it. -/
def map : String := "map"

end Found

end PodPlacement
