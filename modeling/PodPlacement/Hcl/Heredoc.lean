import PodPlacement.Hcl.Syntax
import PodPlacement.Hcl.Token
import PodPlacement.Text.Blank

/-! # Texts of whole lines

    Such a text begins after `<<` and a mark.  After `<<-` its indentation is
    taken off: the least number of blanks that the lines of a literal piece
    begin with.  Empty lines, and what follows a part on its line, do not
    count, and neither does a piece with a line that begins with no blank.  A
    text in which a part begins a line has no indentation. -/

namespace PodPlacement.Heredoc

/-- Reads the beginning of such a text after `<<`: whether it may be indented, its mark, and what
follows. -/
def start? (s : List Char) : Option (Bool × String × List Char) := do
  let (indented, s) := match s with
    | '-' :: rest => (true, rest)
    | _ => (false, s)
  let (mark, s) ← HclToken.name? s
  let s ← HclToken.newline? s
  return (indented, mark, s)

/-- The lines of a text without their ends. -/
def lines : List Char → List (List Char)
  | [] => []
  | '\n' :: rest => [] :: lines rest
  | '\r' :: '\n' :: rest => [] :: lines rest
  | c :: rest =>
    match lines rest with
    | line :: more => (c :: line) :: more
    | [] => [[c]]

/-- Lines with line ends between them. -/
def unlines : List (List Char) → List Char
  | [] => []
  | [line] => line
  | line :: rest => line ++ '\n' :: unlines rest

/-- Changes the lines of a text that are not empty; of a text after a part not the first one. -/
def mapLines (f : List Char → List Char) (afterPart : Bool) (text : List Char) : List Char :=
  let change (line : List Char) : List Char := if line.isEmpty then line else f line
  let changed := match lines text with
    | [] => []
    | line :: rest => (if afterPart then line else change line) :: rest.map change
  unlines changed ++ (if text.getLast? = some '\n' then ['\n'] else [])

/-- Puts so many spaces before each line. -/
def indentBy (n : Nat) (text : List Char) : List Char :=
  mapLines (List.replicate n ' ' ++ ·) false text

/-- The least number of blanks that a line of a literal piece begins with, if all that count begin
with one. -/
def literalIndent? (afterPart : Bool) (text : List Char) : Option Nat :=
  let counted := ((lines text).drop (if afterPart then 1 else 0)).filter (!·.isEmpty)
  (counted.map fun line => (line.takeWhile Text.isBlank).length).min?.filter (0 < ·)

/-- A part begins a line; `fresh` tells that a line begins. -/
def partBeginsLine : (fresh : Bool) → List HclPiece → Bool
  | _, [] => false
  | _, .literal text :: rest => partBeginsLine (text.getLast? = some '\n') rest
  | fresh, _ :: rest => fresh || partBeginsLine false rest

/-- The least indentation of the literal pieces. -/
def leastIndent? : (afterPart : Bool) → List HclPiece → Option Nat
  | _, [] => none
  | afterPart, .literal text :: rest =>
    match literalIndent? afterPart text, leastIndent? true rest with
    | some a, some b => some (min a b)
    | some a, none => some a
    | none, b => b
  | _, _ :: rest => leastIndent? true rest

/-- The indentation of a text, if it has one. -/
def indent? (pieces : List HclPiece) : Option Nat :=
  if partBeginsLine true pieces then none else leastIndent? false pieces

/-- Takes so many characters off the beginning of each line of the literal pieces. -/
def outdent (n : Nat) : (afterPart : Bool) → List HclPiece → List HclPiece
  | _, [] => []
  | afterPart, .literal text :: rest =>
    .literal (mapLines (List.drop n) afterPart text) :: outdent n true rest
  | _, piece :: rest => piece :: outdent n true rest

/-- Puts the end of the last line to the pieces before it. -/
def closed (lineEnd : List Char) : List HclPiece → List HclPiece
  | [] => [.literal lineEnd]
  | [.literal text] => [.literal (text ++ lineEnd)]
  | piece :: rest => piece :: closed lineEnd rest

/-- A text of whole lines without its indentation. -/
def ofPieces (indented : Bool) (mark : String) (pieces : List HclPiece) (margin : List Char) :
    HclSyntax :=
  match if indented then indent? pieces else none with
  | some n => .heredoc (some n) mark (outdent n false pieces) margin
  | none => .heredoc none mark pieces margin

/-- The written form of the beginning of such a text. -/
def startChars (indented : Bool) (mark : String) : List Char :=
  '<' :: '<' :: (if indented then ['-'] else []) ++ mark.toList ++ ['\n']

end PodPlacement.Heredoc
