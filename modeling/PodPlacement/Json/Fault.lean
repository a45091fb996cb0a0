/-! # JSON faults — where a text stops being JSON -/

namespace PodPlacement

/-- Why a text is not JSON. -/
inductive JsonFault where
  | endOfValue
  | endOfList
  | endOfObject
  | endOfString
  | expectedWord
  | expectedValue
  | expectedColon
  | expectedCommaInList
  | expectedCommaInObject
  | keyNotString
  | trailingComma
  | trailingCharacters
  | invalidNumber
  | numberOutOfRange
  | controlCharacter
  | invalidEscape
  /-- An escape whose hexadecimal number has other characters. -/
  | invalidHex
  | loneSurrogate
  | unpairedSurrogate
  deriving DecidableEq

namespace JsonFault

/-- The text ended too early. -/
def isEnd : JsonFault → Bool
  | .endOfValue | .endOfList | .endOfObject | .endOfString => true
  | _ => false

/-- The wording of a fault. -/
def message : JsonFault → String
  | .endOfValue => "EOF while parsing a value"
  | .endOfList => "EOF while parsing a list"
  | .endOfObject => "EOF while parsing an object"
  | .endOfString => "EOF while parsing a string"
  | .expectedWord => "expected ident"
  | .expectedValue => "expected value"
  | .expectedColon => "expected `:`"
  | .expectedCommaInList => "expected `,` or `]`"
  | .expectedCommaInObject => "expected `,` or `\x7d`"
  | .keyNotString => "key must be a string"
  | .trailingComma => "trailing comma"
  | .trailingCharacters => "trailing characters"
  | .invalidNumber => "invalid number"
  | .numberOutOfRange => "number out of range"
  | .controlCharacter => "control character (\\u0000-\\u001F) found while parsing a string"
  | .invalidEscape => "invalid escape"
  | .invalidHex => "invalid escape"
  | .loneSurrogate => "lone leading surrogate in hex escape"
  | .unpairedSurrogate => "unexpected end of hex escape"

end JsonFault

/-- Where a text breaks off: the fault for a reader who wants what stands there, and the fault, if
it is one, for a reader who passes over it. -/
structure Break where
  read : JsonFault
  skipped : Option JsonFault
  deriving DecidableEq

/-- The same fault for every reader. -/
def Break.both (fault : JsonFault) : Break := ⟨fault, some fault⟩

end PodPlacement
