import PodPlacement.Hcl.Form

/-! # The canonical form of HCL expressions

    One blank stands around operators, after commas and inside the braces of
    an object; an empty list or object is written without any.  A text with
    parts to fill in keeps its written form. -/

namespace PodPlacement

/-- A whole number with its sign. -/
def HclNumber.text : HclNumber → String
  | .whole n =>
    (if n < 0 then "-" else "") ++ String.ofList (Digits.shortest n.natAbs)
  | .float x => Layout.compact.text x

namespace HclText

/-- A text between quotes. -/
def quoted (s : String) : String :=
  String.ofList (Text.EscapeStyle.small.quoted (guarded s.toList))

/-- A text of whole lines between its marks; its last line ends before the second one. -/
def heredoc (indented : Bool) (mark : String) (text : String) : String :=
  String.ofList (Heredoc.startChars indented mark) ++ text
    ++ (if text.toList.getLast? = some '\n' then "" else "\n") ++ mark

/-- The words before the collection of a loop. -/
def loopNames (names : List String) : String :=
  "for " ++ ", ".intercalate names ++ " in "

end HclText

namespace HclExpr

mutual

/-- The canonical form of an expression. -/
def text : HclExpr → String
  | .null => "null"
  | .bool b => if b then "true" else "false"
  | .number n => n.text
  | .string s => HclText.quoted s
  | .array items => "[" ++ ", ".intercalate (textList items) ++ "]"
  | .object [] => "\x7b\x7d"
  | .object entries => "\x7b " ++ ", ".intercalate (textEntries entries) ++ " \x7d"
  | .template text => "\"" ++ text ++ "\""
  | .heredoc indented mark text => HclText.heredoc indented mark text
  | .variable name => name
  | .traversal base steps => base.text ++ textSteps steps
  | .call name arguments expand =>
    name ++ "(" ++ ", ".intercalate (textList arguments) ++ (if expand then "..." else "") ++ ")"
  | .parenthesis inner => "(" ++ inner.text ++ ")"
  | .conditional condition whenTrue whenFalse =>
    condition.text ++ " ? " ++ whenTrue.text ++ " : " ++ whenFalse.text
  | .unary op operand => op.text ++ operand.text
  | .binary left op right => left.text ++ " " ++ op.text ++ " " ++ right.text
  | .forList names collection value condition =>
    "[" ++ HclText.loopNames names ++ collection.text ++ " : " ++ value.text
      ++ textConditions condition ++ "]"
  | .forObject names collection key value group condition =>
    "\x7b" ++ HclText.loopNames names ++ collection.text ++ " : " ++ key.text ++ " => "
      ++ value.text ++ (if group then "..." else "") ++ textConditions condition ++ "\x7d"

/-- The canonical forms of a list of expressions. -/
def textList : List HclExpr → List String
  | [] => []
  | e :: rest => e.text :: textList rest

/-- The conditions of a loop, each after its word. -/
def textConditions : List HclExpr → String
  | [] => ""
  | e :: rest => " if " ++ e.text ++ textConditions rest

/-- The canonical forms of the entries of an object. -/
def textEntries : List (HclKey × HclExpr) → List String
  | [] => []
  | (key, value) :: rest => (keyText key ++ " = " ++ value.text) :: textEntries rest

/-- The canonical form of a key. -/
def keyText : HclKey → String
  | .name s => s
  | .value e => e.text

/-- The canonical form of steps into a value. -/
def textSteps : List HclStep → String
  | [] => ""
  | .field name :: rest => "." ++ name ++ textSteps rest
  | .position n :: rest => "." ++ String.ofList (Digits.shortest n) ++ textSteps rest
  | .index e :: rest => "[" ++ e.text ++ "]" ++ textSteps rest
  | .fields :: rest => ".*" ++ textSteps rest
  | .items :: rest => "[*]" ++ textSteps rest

end

end HclExpr

end PodPlacement
