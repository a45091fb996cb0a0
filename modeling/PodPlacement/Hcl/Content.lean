import PodPlacement.Hcl.Printer

/-! # The content of HCL syntax

    The expression that a syntax writes down: blanks and spellings are gone, and
    a text with parts to fill in is its written form.  Of the entries of an
    object whose keys have one canonical form the first gives the place and the
    last the value. -/

namespace PodPlacement

namespace HclExpr

/-- The expression of a word. -/
def ofWord : String → HclExpr
  | "null" => .null
  | "true" => .bool true
  | "false" => .bool false
  | name => .variable name

/-- The expression as a key. -/
def toKey : HclExpr → HclKey
  | .variable name => .name name
  | e => .value e

/-- Two keys are one: both names, or both expressions, of one canonical form. -/
def oneKey : HclKey → HclKey → Bool
  | .name a, .name b => a = b
  | .value a, .value b => a.text = b.text
  | _, _ => false

/-- Puts a value under a key, in its place or after all others. -/
def putEntry (key : HclKey) (value : HclExpr) :
    List (HclKey × HclExpr) → List (HclKey × HclExpr)
  | [] => [(key, value)]
  | (k, v) :: rest =>
    if oneKey k key then (k, value) :: rest else (k, v) :: putEntry key value rest

end HclExpr

namespace HclSyntax

mutual

/-- The expression that is written down. -/
def content : HclSyntax → HclExpr
  | .padded _ inner _ => inner.content
  | .word text => .ofWord text
  | .number n _ => .number n
  | .string text => .string (String.ofList text)
  | .template pieces => .template (String.ofList (formPieces pieces).plain)
  | .heredoc indent mark pieces _ =>
    .heredoc indent.isSome mark (String.ofList (formPieces pieces).plain)
  | .list items _ => .array (contents items)
  | .object entries _ =>
    .object ((contentEntries entries).foldl
      (fun entries (key, value) => HclExpr.putEntry key value entries) [])
  | .call name arguments tail =>
    .call ("::".intercalate (name.map HclWord.text)) (contents arguments) tail.isSpread
  | .traversal base _ steps => .traversal base.content (contentMoves steps)
  | .parenthesis inner => .parenthesis inner.content
  | .conditional condition whenTrue whenFalse =>
    .conditional condition.content whenTrue.content whenFalse.content
  | .unary op _ operand => .unary op operand.content
  | .binary left _ op _ right => .binary left.content op right.content
  | .forList _ names collection value condition =>
    .forList (names.map HclWord.text) collection.content value.content (contents condition)
  | .forObject _ names collection key value group condition =>
    .forObject (names.map HclWord.text) collection.content key.content value.content group.isSome
      (contents condition)

/-- The expressions of a list. -/
def contents : List HclSyntax → List HclExpr
  | [] => []
  | e :: rest => e.content :: contents rest

/-- The keys and values of entries. -/
def contentEntries : List HclEntry → List (HclKey × HclExpr)
  | [] => []
  | .entry key _ value _ :: rest => (key.content.toKey, value.content) :: contentEntries rest

/-- The steps into a value. -/
def contentMoves : List HclMove → List HclStep
  | [] => []
  | .field _ name :: rest => .field name :: contentMoves rest
  | .position _ n :: rest => .position n :: contentMoves rest
  | .index inner :: rest => .index inner.content :: contentMoves rest
  | .fields _ :: rest => .fields :: contentMoves rest
  | .items .. :: rest => .items :: contentMoves rest

end

end HclSyntax

end PodPlacement
