import PodPlacement.Hcl.Heredoc
import PodPlacement.Hcl.Template

/-! # Written forms — the code in a template

    A template keeps its parts as they were written, blanks, comments and the
    digits of numbers included.  Some of it is written anew: literal text, the
    blanks around operators of two operands, of which one space stays, and the
    line ends between the entries of an object.  Blanks between steps are left
    out, and so are those after the dots that end a loop, unless the loop is an
    operand.

    Literal text is escaped from the beginning of an inner template to its end;
    what follows that is not escaped, whatever encloses it.  A form therefore
    is told whether text is escaped, and tells it to what follows. -/

namespace PodPlacement

/-- A written form, from whether text is escaped before it to whether it is after it. -/
def HclForm := Bool → List Char × Bool

namespace HclForm

/-- Fixed characters. -/
def chars (s : List Char) : HclForm := fun escaping => (s, escaping)

/-- Literal text. -/
def literal (text : List Char) : HclForm := fun escaping =>
  (if escaping then HclText.escaped text else HclText.guarded text, escaping)

/-- Two forms one after the other. -/
def append (a b : HclForm) : HclForm := fun escaping =>
  let (s, escaping) := a escaping
  let (t, escaping) := b escaping
  (s ++ t, escaping)

instance : Append HclForm := ⟨append⟩

/-- Forms one after another with a separator between them. -/
def joined (separator : List Char) : List HclForm → HclForm
  | [] => chars []
  | [form] => form
  | form :: rest => form ++ chars separator ++ joined separator rest

/-- A form between the quotes of a template. -/
def quoted (inner : HclForm) : HclForm := fun _ =>
  ('"' :: (inner true).1 ++ ['"'], false)

/-- The text that is written where nothing is escaped. -/
def plain (form : HclForm) : List Char := (form false).1

end HclForm

namespace HclWord

/-- A name with its blanks. -/
def written (word : HclWord) : List Char :=
  word.before ++ word.text.toList ++ word.after

/-- The written form of names with a separator between them. -/
def joined (separator : List Char) (words : List HclWord) : List Char :=
  separator.intercalate (words.map written)

/-- The written form of the names of a loop, from its `for` to its `in`. -/
def loop (words : List HclWord) : List Char :=
  "for".toList ++ joined [','] words ++ "in".toList

end HclWord

namespace HclTail

/-- The written form of a tail. -/
def written : HclTail → List Char
  | .plain blank => blank
  | .comma blank => ',' :: blank
  | .spread blank => '.' :: '.' :: '.' :: blank

end HclTail

namespace HclMark

/-- The tilde of a mark, if it has one. -/
def tilde (present : Bool) : List Char := if present then ['~'] else []

/-- The beginning of a mark through its word. -/
def start (mark : HclMark) (word : String) : List Char :=
  '%' :: '\x7b' :: tilde mark.leftTilde ++ mark.before ++ word.toList

/-- The end of a mark. -/
def finish (mark : HclMark) : List Char :=
  mark.after ++ tilde mark.rightTilde ++ ['\x7d']

/-- The written form of a mark of one word. -/
def written (mark : HclMark) (word : String) : HclForm :=
  .chars (mark.start word ++ mark.finish)

end HclMark

namespace HclSyntax

/-- What is left of the blanks around an operator. -/
def spaced (blank : List Char) : List Char := if blank.isEmpty then [] else [' ']

/-- The blanks that an operand keeps behind it. -/
def loopBlank : HclSyntax → List Char
  | .forObject _ _ _ _ _ (some blank) [] => blank
  | _ => []

open HclForm

mutual

/-- The written form of an expression. -/
def form : HclSyntax → HclForm
  | .padded before inner after => chars before ++ inner.form ++ chars after
  | .word text => chars text.toList
  | .number _ written => chars written
  | .string text => chars ('"' :: HclText.escaped text ++ ['"'])
  | .template pieces => quoted (formPieces pieces)
  | .heredoc none mark pieces margin =>
    chars (Heredoc.startChars false mark) ++ formPieces pieces ++ chars (margin ++ mark.toList)
  | .heredoc (some n) mark pieces margin =>
    chars (Heredoc.startChars true mark ++ Heredoc.indentBy n (formPieces pieces).plain
      ++ margin ++ mark.toList)
  | .list items tail => chars ['['] ++ joined [','] (forms items) ++ chars (tail.written ++ [']'])
  | .object entries blank => chars ['\x7b'] ++ formEntries entries ++ chars (blank ++ ['\x7d'])
  | .call name arguments tail =>
    chars (HclWord.joined [':', ':'] name ++ ['(']) ++ joined [','] (forms arguments)
      ++ chars (tail.written ++ [')'])
  | .traversal base blank steps => base.form ++ chars blank ++ formMoves steps
  | .parenthesis inner => chars ['('] ++ inner.form ++ chars [')']
  | .conditional condition whenTrue whenFalse =>
    condition.form ++ chars ['?'] ++ whenTrue.form ++ chars [':'] ++ whenFalse.form
  | .unary op blank operand =>
    chars (op.text.toList ++ blank) ++ operand.form ++ chars operand.loopBlank
  | .binary left before op after right =>
    left.form ++ chars (left.loopBlank ++ spaced before ++ op.text.toList ++ spaced after)
      ++ right.form ++ chars right.loopBlank
  | .forList blank names collection value condition =>
    chars ('[' :: blank ++ HclWord.loop names) ++ collection.form ++ chars [':'] ++ value.form
      ++ formConditions condition ++ chars [']']
  | .forObject blank names collection key value group condition =>
    let gathered := match group, condition with
      | none, _ => []
      | some _, [] => ['.', '.', '.']
      | some blank, _ => '.' :: '.' :: '.' :: blank
    chars ('\x7b' :: blank ++ HclWord.loop names) ++ collection.form ++ chars [':'] ++ key.form
      ++ chars ['=', '>'] ++ value.form ++ chars gathered ++ formConditions condition
      ++ chars ['\x7d']

/-- The written forms of a list of expressions. -/
def forms : List HclSyntax → List HclForm
  | [] => []
  | e :: rest => e.form :: forms rest

/-- The written form of the conditions of a loop, each after its word. -/
def formConditions : List HclSyntax → HclForm
  | [] => chars []
  | e :: rest => chars ['i', 'f'] ++ e.form ++ formConditions rest

/-- The written form of the entries of an object. -/
def formEntries : List HclEntry → HclForm
  | [] => chars []
  | .entry key sign value ending :: rest =>
    key.form ++ chars [sign] ++ value.form ++ chars ending ++ formEntries rest

/-- The written form of steps into a value. -/
def formMoves : List HclMove → HclForm
  | [] => chars []
  | .field blank name :: rest => chars ('.' :: blank ++ name.toList) ++ formMoves rest
  | .position blank n :: rest => chars ('.' :: blank ++ Digits.shortest n) ++ formMoves rest
  | .index inner :: rest => chars ['['] ++ inner.form ++ chars [']'] ++ formMoves rest
  | .fields blank :: rest => chars ('.' :: blank ++ ['*']) ++ formMoves rest
  | .items before after :: rest =>
    chars ('[' :: before ++ '*' :: after ++ [']']) ++ formMoves rest

/-- The written form of a piece of a text. -/
def formPiece : HclPiece → HclForm
  | .literal text => literal text
  | .interpolation left inner right =>
    chars ('$' :: '\x7b' :: HclMark.tilde left) ++ inner.form
      ++ chars (HclMark.tilde right ++ ['\x7d'])
  | .choice opening condition held closing =>
    chars (opening.start "if") ++ condition.form ++ chars opening.finish ++ formPieces held
      ++ closing.written "endif"
  | .alternative opening condition held middle otherwise closing =>
    chars (opening.start "if") ++ condition.form ++ chars opening.finish ++ formPieces held
      ++ middle.written "else" ++ formPieces otherwise ++ closing.written "endif"
  | .loop opening names collection held closing =>
    chars (opening.start "" ++ HclWord.loop names) ++ collection.form ++ chars opening.finish
      ++ formPieces held ++ closing.written "endfor"

/-- The written form of the pieces of a text. -/
def formPieces : List HclPiece → HclForm
  | [] => chars []
  | piece :: rest => formPiece piece ++ formPieces rest

end

end HclSyntax

end PodPlacement
