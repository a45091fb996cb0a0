import PodPlacement.Number.Layout

/-! # HCL expressions

    Nothing is evaluated: an expression keeps its parts, a text with parts to
    fill in its written form.
    A number is whole when it has no fraction and fits into 64 bits. -/

namespace PodPlacement

/-- A number. -/
inductive HclNumber where
  | whole (n : Int)
  | float (x : SignedBinary)
  deriving DecidableEq

/-- Operators of one operand. -/
inductive HclUnary where
  | negate
  | not
  deriving DecidableEq

/-- Operators of two operands. -/
inductive HclBinary where
  | equal
  | notEqual
  | atMost
  | atLeast
  | less
  | greater
  | plus
  | minus
  | times
  | divide
  | modulo
  | and
  | or
  deriving DecidableEq

namespace HclUnary

/-- The written form. -/
def text : HclUnary → String
  | .negate => "-"
  | .not => "!"

end HclUnary

namespace HclBinary

/-- All operators; one that begins another comes after it. -/
def all : List HclBinary :=
  [.equal, .notEqual, .atMost, .atLeast, .less, .greater, .plus, .minus, .times, .divide, .modulo,
   .and, .or]

/-- The written form. -/
def text : HclBinary → String
  | .equal => "=="
  | .notEqual => "!="
  | .atMost => "<="
  | .atLeast => ">="
  | .less => "<"
  | .greater => ">"
  | .plus => "+"
  | .minus => "-"
  | .times => "*"
  | .divide => "/"
  | .modulo => "%"
  | .and => "&&"
  | .or => "||"

end HclBinary

mutual

/-- An expression. -/
inductive HclExpr where
  | null
  | bool (b : Bool)
  | number (n : HclNumber)
  | string (s : String)
  | array (items : List HclExpr)
  | object (entries : List (HclKey × HclExpr))
  /-- A quoted text with parts to fill in, as it is written. -/
  | template (text : String)
  /-- A text of whole lines, as it is written without its indentation. -/
  | heredoc (indented : Bool) (mark : String) (text : String)
  | variable (name : String)
  | traversal (base : HclExpr) (steps : List HclStep)
  | call (name : String) (arguments : List HclExpr) (expand : Bool)
  | parenthesis (inner : HclExpr)
  | conditional (condition whenTrue whenFalse : HclExpr)
  | unary (op : HclUnary) (operand : HclExpr)
  | binary (left : HclExpr) (op : HclBinary) (right : HclExpr)
  /-- A list made from a collection; the condition is a list of at most one. -/
  | forList (names : List String) (collection value : HclExpr) (condition : List HclExpr)
  /-- An object made from a collection. -/
  | forObject (names : List String) (collection key value : HclExpr) (group : Bool)
      (condition : List HclExpr)

/-- A key of an object. -/
inductive HclKey where
  | name (s : String)
  | value (e : HclExpr)

/-- A step into a value. -/
inductive HclStep where
  | field (name : String)
  | position (n : Nat)
  | index (e : HclExpr)
  /-- All fields, written with a dot. -/
  | fields
  /-- All items, written in brackets. -/
  | items

end

namespace HclExpr

instance : Inhabited HclExpr := ⟨.null⟩

/-- The word for a kind of expression that is no value. -/
def kind? : HclExpr → Option String
  | .template _ | .heredoc .. => some "TemplateExpr"
  | .variable _ => some "Variable"
  | .traversal .. => some "Traversal"
  | .call .. => some "FuncCall"
  | .parenthesis _ => some "Parenthesis"
  | .conditional .. => some "Conditional"
  | .unary .. | .binary .. => some "Operation"
  | .forList .. | .forObject .. => some "ForExpr"
  | _ => none

end HclExpr

end PodPlacement
