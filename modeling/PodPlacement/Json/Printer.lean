import PodPlacement.Json.Basic
import PodPlacement.Text.Escape

/-! # Writing JSON

    A whole value is written without any blanks.  In a string, quotes,
    backslashes and control characters are escaped; every other character
    stands for itself. -/

namespace PodPlacement

namespace JsonNumber

/-- The literal. -/
def text (literal : JsonNumber) : List Char :=
  (if literal.negative then ['-'] else []) ++ literal.whole
    ++ (if literal.places.isEmpty then [] else '.' :: literal.places)
    ++ (match literal.exponent with
        | none => []
        | some e => 'e' :: (if e < 0 then ['-'] else []) ++ Digits.shortest e.natAbs)

end JsonNumber

namespace JsonText

/-- A text between quotes. -/
def quoted (s : String) : List Char :=
  Text.EscapeStyle.small.quoted s.toList

end JsonText

namespace Json

mutual

/-- The characters of a value; a break writes nothing. -/
def chars : Json → List Char
  | .null => ['n', 'u', 'l', 'l']
  | .bool true => ['t', 'r', 'u', 'e']
  | .bool false => ['f', 'a', 'l', 's', 'e']
  | .number literal => literal.text
  | .string (.ok s) => JsonText.quoted s
  | .array items _ => '[' :: itemChars items ++ [']']
  | .object members _ => '\x7b' :: memberChars members ++ ['\x7d']
  | .string (.error _) | .keyless | .absent _ | .broken _ => []

/-- The characters of items with commas between them. -/
def itemChars : List Json → List Char
  | [] => []
  | [item] => chars item
  | item :: rest => chars item ++ ',' :: itemChars rest

/-- The characters of members with commas between them. -/
def memberChars : List (Except Break String × Json) → List Char
  | [] => []
  | [(key, value)] => keyChars key ++ ':' :: chars value
  | (key, value) :: rest => keyChars key ++ ':' :: chars value ++ ',' :: memberChars rest

/-- The characters of a key. -/
def keyChars : Except Break String → List Char
  | .ok key => JsonText.quoted key
  | .error _ => []

end

/-- The written form of a value. -/
def text (value : Json) : String := String.ofList value.chars

end Json

end PodPlacement
