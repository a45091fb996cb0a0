/-! # Label values — what may stand in a selector

    A label value is empty, or at most 63 bytes of letters, digits, `-`, `_`
    and `.` that begin and end with a letter or digit.  The rules are checked
    in that order on the bytes of the text in UTF-8, and the first one broken
    is the fault. -/

namespace PodPlacement

/-- The rule of label values that a text breaks. -/
inductive LabelFault where
  | tooLong
  | badEdge
  | badCharacter
  deriving DecidableEq

/-- The wording of a rule. -/
def LabelFault.reason : LabelFault → String
  | .tooLong => "must be no more than 63 characters"
  | .badEdge => "must begin and end with an alphanumeric character"
  | .badCharacter => "may only contain alphanumerics, '-', '_' or '.'"

/-- A text refused as label value. -/
structure SelectorError where
  value : String
  fault : LabelFault
  deriving DecidableEq

/-- The wording of the refusal. -/
def SelectorError.message (e : SelectorError) : String :=
  "invalid label value '" ++ e.value ++ "': " ++ e.fault.reason

namespace LabelValue

/-- The greatest length of a label value in bytes. -/
def maxBytes : Nat := 63

/-- The byte of a letter or digit. -/
def isPlain (b : UInt8) : Bool :=
  ('0'.toUInt8 ≤ b && b ≤ '9'.toUInt8) || ('A'.toUInt8 ≤ b && b ≤ 'Z'.toUInt8)
    || ('a'.toUInt8 ≤ b && b ≤ 'z'.toUInt8)

/-- The byte of a character that may stand anywhere in a label value. -/
def isInner (b : UInt8) : Bool :=
  isPlain b || b = '-'.toUInt8 || b = '_'.toUInt8 || b = '.'.toUInt8

/-- Begins and ends with the byte of a letter or digit. -/
def hasPlainEdges (bytes : ByteArray) (nonempty : 0 < bytes.size) : Bool :=
  isPlain bytes[0] && isPlain bytes[bytes.size - 1]

/-- The first rule that a text breaks. -/
def fault? (value : String) : Option LabelFault :=
  let bytes := value.toUTF8
  if nonempty : 0 < bytes.size then
    if maxBytes < bytes.size then some .tooLong
    else if !hasPlainEdges bytes nonempty then some .badEdge
    else if !bytes.data.toList.all isInner then some .badCharacter
    else none
  else none

/-- Accepts exactly the label values. -/
def check (value : String) : Except SelectorError Unit :=
  match fault? value with
  | none => .ok ()
  | some fault => .error ⟨value, fault⟩

end LabelValue

end PodPlacement
