import PodPlacement.Hcl.Expr

/-! # HCL syntax — expressions as they are written

    A syntax keeps what an expression does not need: the blanks and comments
    between its parts, the digits of its numbers, the commas at the end of its
    lists.  A text with parts to fill in is a row of pieces; its literal pieces
    are kept as the characters they stand for. -/

namespace PodPlacement

/-- A name with the blanks around it. -/
structure HclWord where
  before : List Char
  text : String
  after : List Char

/-- What stands after the last item of a list or of arguments: nothing, a comma, or the dots that
spread the item out; then blanks. -/
inductive HclTail where
  | plain (blank : List Char)
  | comma (blank : List Char)
  | spread (blank : List Char)

/-- What stands around the words of a mark in a text: a tilde and blanks on either side. -/
structure HclMark where
  leftTilde : Bool
  before : List Char
  after : List Char
  rightTilde : Bool

mutual

/-- An expression as it is written. -/
inductive HclSyntax where
  /-- An expression with the blanks around it. -/
  | padded (before : List Char) (inner : HclSyntax) (after : List Char)
  /-- A name, a truth value or `null`. -/
  | word (text : String)
  | number (n : HclNumber) (written : List Char)
  | string (text : List Char)
  | template (pieces : List HclPiece)
  /-- A text of whole lines without its indentation; the margin stands before its second mark. -/
  | heredoc (indent : Option Nat) (mark : String) (pieces : List HclPiece) (margin : List Char)
  | list (items : List HclSyntax) (tail : HclTail)
  | object (entries : List HclEntry) (blank : List Char)
  | call (name : List HclWord) (arguments : List HclSyntax) (tail : HclTail)
  /-- A value and steps into it, with the blanks before the first of them. -/
  | traversal (base : HclSyntax) (blank : List Char) (steps : List HclMove)
  | parenthesis (inner : HclSyntax)
  | conditional (condition whenTrue whenFalse : HclSyntax)
  | unary (op : HclUnary) (blank : List Char) (operand : HclSyntax)
  | binary (left : HclSyntax) (before : List Char) (op : HclBinary) (after : List Char)
      (right : HclSyntax)
  /-- A loop that makes a list, with the blanks before its `for`; the condition is a list of at most
  one. -/
  | forList (blank : List Char) (names : List HclWord) (collection value : HclSyntax)
      (condition : List HclSyntax)
  /-- A loop that makes an object.  The dots that gather its values are followed by blanks. -/
  | forObject (blank : List Char) (names : List HclWord) (collection key value : HclSyntax)
      (group : Option (List Char)) (condition : List HclSyntax)

/-- An entry of an object, with the sign after its key and the mark that ends it. -/
inductive HclEntry where
  | entry (key : HclSyntax) (sign : Char) (value : HclSyntax) (ending : List Char)

/-- A step into a value as it is written. -/
inductive HclMove where
  | field (blank : List Char) (name : String)
  | position (blank : List Char) (n : Nat)
  | index (inner : HclSyntax)
  | fields (blank : List Char)
  | items (before after : List Char)

/-- A piece of a text with parts to fill in. -/
inductive HclPiece where
  | literal (text : List Char)
  | interpolation (leftTilde : Bool) (inner : HclSyntax) (rightTilde : Bool)
  | choice (opening : HclMark) (condition : HclSyntax) (held : List HclPiece) (closing : HclMark)
  | alternative (opening : HclMark) (condition : HclSyntax) (held : List HclPiece)
      (middle : HclMark) (otherwise : List HclPiece) (closing : HclMark)
  | loop (opening : HclMark) (names : List HclWord) (collection : HclSyntax)
      (held : List HclPiece) (closing : HclMark)

end

namespace HclTail

/-- A comma ends the list. -/
def isComma : HclTail → Bool
  | .comma _ => true
  | _ => false

/-- The last item is spread out. -/
def isSpread : HclTail → Bool
  | .spread _ => true
  | _ => false

/-- The blanks at the end. -/
def blank : HclTail → List Char
  | .plain blank | .comma blank | .spread blank => blank

/-- The tail of a list that goes on with these items after a comma. -/
def afterComma (items : List HclSyntax) (tail : HclTail) : HclTail :=
  match items, tail with
  | [], .plain blank => .comma blank
  | _, tail => tail

end HclTail

namespace HclSyntax

/-- A value and the steps into it. -/
def withMoves (base : HclSyntax) (blank : List Char) : List HclMove → HclSyntax
  | [] => base
  | steps => .traversal base blank steps

/-- The operators of two operands that stand one after another. -/
def operators : HclSyntax → Nat
  | .binary _ _ _ _ right => right.operators + 1
  | _ => 0

/-- An expression without the blanks around it. -/
def bare : HclSyntax → HclSyntax
  | .padded _ inner _ => inner.bare
  | e => e

/-- A row of pieces as an expression: a plain text if no part has to be filled in. -/
def ofPieces : List HclPiece → HclSyntax
  | [] => .string []
  | [.literal text] => .string text
  | pieces => .template pieces

end HclSyntax

end PodPlacement
