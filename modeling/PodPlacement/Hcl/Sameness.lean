import PodPlacement.Hcl.Syntax

/-! # Sameness of keys

    Two expressions are the same when they have the same parts; blanks around
    an expression and the spelling of a number do not count, and neither does
    the spreading of an argument.  Objects are the same when each has the
    entries of the other.

    Blanks that stand around no expression, such as those before a bracket that
    closes, have a place in the text instead, and no two places are the same. -/

namespace PodPlacement

/-- Two numbers are one, a whole one and another after rounding to 53 bits. -/
def HclNumber.same : HclNumber → HclNumber → Bool
  | .whole a, .whole b => a = b
  | .float x, .float y => x = y
  | .whole a, .float x | .float x, .whole a =>
    x.negative = (a < 0 : Bool) && Binary64.ofRatio? a.natAbs 1 = some x.magnitude

/-- Two blanks of a place of their own, which only an absent one shares with another. -/
def HclText.sameBlank (a b : List Char) : Bool := a.isEmpty && b.isEmpty

/-- Two tails are the same; spreading does not count. -/
def HclTail.same (a b : HclTail) : Bool :=
  a.isComma == b.isComma && HclText.sameBlank a.blank b.blank

/-- Two marks are the same. -/
def HclMark.same (a b : HclMark) : Bool :=
  a.leftTilde == b.leftTilde && a.rightTilde == b.rightTilde
    && HclText.sameBlank a.before b.before && HclText.sameBlank a.after b.after

/-- The same names, whatever the blanks around them. -/
def HclWord.same (a b : List HclWord) : Bool := a.map HclWord.text = b.map HclWord.text

namespace HclSyntax

mutual

/-- Two expressions are the same. -/
def same (a b : HclSyntax) : Bool :=
  match a, b.bare with
  | .padded _ a _, b => same a b
  | .word x, .word y => x = y
  | .number m _, .number n _ => m.same n
  | .string s, .string t => s = t
  | .template ps, .template qs => samePieces ps qs
  | .heredoc i m ps x, .heredoc j n qs y =>
    i = j && m = n && HclText.sameBlank x y && samePieces ps qs
  | .list as s, .list bs t => s.same t && sameAll as bs
  | .object as s, .object bs t =>
    HclText.sameBlank s t && as.length = bs.length && sameEntries as bs
  | .call f as s, .call g bs t => HclWord.same f g && s.same t && sameAll as bs
  | .traversal a _ ms, .traversal b _ ns => same a b && sameMoves ms ns
  | .parenthesis a, .parenthesis b => same a b
  | .conditional a x y, .conditional b z w => same a b && same x z && same y w
  | .unary o _ a, .unary p _ b => o = p && same a b
  | .binary a _ o _ x, .binary b _ p _ y => o = p && same a b && same x y
  | .forList _ f a x cs, .forList _ g b y ds =>
    HclWord.same f g && same a b && same x y && sameAll cs ds
  | .forObject _ f a k x s cs, .forObject _ g b l y t ds =>
    HclWord.same f g && same a b && same k l && same x y && s.isSome == t.isSome && sameAll cs ds
  | _, _ => false

/-- Two lists have the same items. -/
def sameAll : List HclSyntax → List HclSyntax → Bool
  | [], [] => true
  | a :: as, b :: bs => same a b && sameAll as bs
  | _, _ => false

/-- Each entry of the first object is in the second. -/
def sameEntries : List HclEntry → List HclEntry → Bool
  | [], _ => true
  | .entry key _ value _ :: rest, others =>
    (match others.find? fun | .entry other _ _ _ => same key other with
      | some (.entry _ _ other _) => same value other
      | none => false) && sameEntries rest others

/-- Two rows of steps are the same. -/
def sameMoves : List HclMove → List HclMove → Bool
  | [], [] => true
  | .field _ x :: as, .field _ y :: bs => x = y && sameMoves as bs
  | .position _ m :: as, .position _ n :: bs => m = n && sameMoves as bs
  | .index a :: as, .index b :: bs => same a b && sameMoves as bs
  | .fields _ :: as, .fields _ :: bs => sameMoves as bs
  | .items .. :: as, .items .. :: bs => sameMoves as bs
  | _, _ => false

/-- Two pieces of text are the same. -/
def samePiece : HclPiece → HclPiece → Bool
  | .literal s, .literal t => s = t
  | .interpolation l a r, .interpolation m b s => l == m && r == s && same a b
  | .choice o a ps c, .choice p b qs d => o.same p && c.same d && same a b && samePieces ps qs
  | .alternative o a ps m xs c, .alternative p b qs n ys d =>
    o.same p && m.same n && c.same d && same a b && samePieces ps qs && samePieces xs ys
  | .loop o f a ps c, .loop p g b qs d =>
    o.same p && c.same d && HclWord.same f g && same a b && samePieces ps qs
  | _, _ => false

/-- Two rows of pieces are the same. -/
def samePieces : List HclPiece → List HclPiece → Bool
  | [], [] => true
  | a :: as, b :: bs => samePiece a b && samePieces as bs
  | _, _ => false

end

/-- No two entries have one key. -/
def distinctKeys : List HclEntry → Bool
  | [] => true
  | .entry key _ _ _ :: rest =>
    !rest.any (fun | .entry other _ _ _ => same key other) && distinctKeys rest

end HclSyntax

end PodPlacement
