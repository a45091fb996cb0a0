import PodPlacement.Hcl.Expr
import PodPlacement.Text.Identifier

/-! # HCL tokens — blanks, names, numbers and characters of texts

    A comment from `#` or `//` reaches to the end of its line, one from `/*` to
    the next `*/`.  A line ends with a newline, before which a carriage return
    may stand; a carriage return of its own may stand between items but ends
    no comment.  Where lines matter, only blanks and comments of the second
    kind may stand between tokens. -/

namespace PodPlacement.HclToken

/-- What follows the end of a bracketed comment. -/
def closeComment? : List Char → Option (List Char)
  | [] => none
  | '*' :: '/' :: rest => some rest
  | _ :: rest => closeComment? rest

/-- The end of the line that a comment stands on. -/
def lineRest? : List Char → Option (List Char)
  | [] => some []
  | '\n' :: rest => some ('\n' :: rest)
  | '\r' :: '\n' :: rest => some ('\r' :: '\n' :: rest)
  | '\r' :: _ => none
  | _ :: rest => lineRest? rest

/-- What follows a comment that reaches to the end of its line. -/
def lineComment? : List Char → Option (List Char)
  | '#' :: rest => lineRest? rest
  | '/' :: '/' :: rest => lineRest? rest
  | _ => none

/-- Skips blanks and bracketed comments, so many at most. -/
def skipInline : Nat → List Char → List Char
  | 0, s => s
  | n + 1, s =>
    match s with
    | ' ' :: rest => skipInline n rest
    | '\t' :: rest => skipInline n rest
    | '/' :: '*' :: rest =>
      match closeComment? rest with
      | some rest => skipInline n rest
      | none => s
    | _ => s

/-- A text without the blanks and bracketed comments that it begins with. -/
def inlineSpace (s : List Char) : List Char := skipInline s.length s

/-- Skips whatever may stand between items, so many at most. -/
def skipAll : Nat → List Char → List Char
  | 0, s => s
  | n + 1, s =>
    match inlineSpace s with
    | '\n' :: rest => skipAll n rest
    | '\r' :: rest => skipAll n rest
    | s =>
      match lineComment? s with
      | some rest => skipAll n rest
      | none => s

/-- A text without the blanks, line ends and comments that it begins with. -/
def space (s : List Char) : List Char := skipAll (s.length + 1) s

/-- What has been read of a text when this is left. -/
def readOf (s rest : List Char) : List Char := s.take (s.length - rest.length)

/-- The blanks that a text begins with, with or without line ends, and what follows them. -/
def blank (lines : Bool) (s : List Char) : List Char × List Char :=
  let rest := if lines then space s else inlineSpace s
  (readOf s rest, rest)

/-- What follows a line end. -/
def newline? : List Char → Option (List Char)
  | '\n' :: rest => some rest
  | '\r' :: '\n' :: rest => some rest
  | _ => none

/-- What follows the rest of a line that holds nothing more; the text may end there too. -/
def lineEnd? (s : List Char) : Option (List Char) :=
  let s := inlineSpace s
  match (lineComment? s).getD s with
  | [] => some []
  | s => newline? s

/-- A name, and what follows it. -/
def name? : List Char → Option (String × List Char)
  | [] => none
  | c :: rest =>
    if Text.isIdentifierStart c then
      some (String.ofList (c :: rest.takeWhile Text.isIdentifierPart),
        rest.dropWhile Text.isIdentifierPart)
    else
      none

/-- Leading digits, at least one, and what follows them. -/
def digits? (s : List Char) : Option (List Char × List Char) :=
  match s.takeWhile Char.isDigit with
  | [] => none
  | digits => some (digits, s.dropWhile Char.isDigit)

/-- The digits after a point, and what follows them. -/
def places? : List Char → Option (List Char × List Char)
  | '.' :: rest => digits? rest
  | _ => none

/-- An exponent, and what follows it. -/
def exponent? : List Char → Option (Int × List Char)
  | c :: rest =>
    if c = 'e' ∨ c = 'E' then
      match rest with
      | '-' :: rest => (digits? rest).map fun (ds, rest) => (-(Digits.value ds : Int), rest)
      | '+' :: rest => (digits? rest).map fun (ds, rest) => ((Digits.value ds : Int), rest)
      | rest => (digits? rest).map fun (ds, rest) => ((Digits.value ds : Int), rest)
    else
      none
  | [] => none

/-- The bound of whole numbers. -/
def bound : Nat := UInt64.size

/-- The number of these digits and exponent; whole if it can be. -/
def numberOf? (whole places : List Char) (exponent : Option Int) : Option HclNumber :=
  if places = [] ∧ exponent = none then
    let n := Digits.value whole
    if n < bound then some (.whole n) else none
  else do
    let shift : Int := exponent.getD 0 - (places.length : Int)
    let x ← Binary64.ofDecimal? (Digits.value (whole ++ places)) shift
    match x.toNat? with
    | some n => return if n < bound then .whole n else .float ⟨false, x⟩
    | none => return .float ⟨false, x⟩

/-- A number without sign, and what follows it. -/
def number? (s : List Char) : Option (HclNumber × List Char) := do
  let (whole, s) ← digits? s
  let (places, s) := (places? s).getD ([], s)
  let (exponent, s) := match exponent? s with
    | some (e, rest) => (some e, rest)
    | none => (none, s)
  return (← numberOf? whole places exponent, s)

/-- The number below zero; a whole one that does not fit into 64 bits with its sign is rounded. -/
def negated : HclNumber → HclNumber
  | .whole n =>
    match Binary64.ofRatio? n.toNat 1 with
    | some x => if n ≤ bound / 2 then .whole (-n) else .float ⟨true, x⟩
    | none => .whole (-n)
  | .float x => .float { x with negative := !x.negative }

/-- A character by its number in so many hexadecimal digits, and what follows it. -/
def hexChar? (width : Nat) (s : List Char) : Option (Char × List Char) := do
  let digits := s.take width
  guard (digits.length = width)
  let value (c : Char) : Option Nat :=
    if c.isDigit then some (c.toNat - 48)
    else if 'a' ≤ c ∧ c ≤ 'f' then some (c.toNat - 87)
    else if 'A' ≤ c ∧ c ≤ 'F' then some (c.toNat - 55)
    else none
  let n ← digits.foldlM (fun n c => (value c).map (16 * n + ·)) 0
  guard (n < 0x110000 ∧ ¬(0xd800 ≤ n ∧ n ≤ 0xdfff))
  return (Char.ofNat n, s.drop width)

/-- The character that an escape names, after its backslash, and what follows it. -/
def escape? : List Char → Option (Char × List Char)
  | 'n' :: rest => some ('\n', rest)
  | 'r' :: rest => some ('\r', rest)
  | 't' :: rest => some ('\t', rest)
  | 'b' :: rest => some ('\x08', rest)
  | 'f' :: rest => some ('\x0c', rest)
  | '\\' :: rest => some ('\\', rest)
  | '"' :: rest => some ('"', rest)
  | '/' :: rest => some ('/', rest)
  | 'u' :: rest => hexChar? 4 rest
  | 'U' :: rest => hexChar? 8 rest
  | _ => none

/-- Where a text with parts to fill in ends: before a quote, before the end of a line after which a
mark stands, or not before all characters are read. -/
inductive Ending where
  | quote
  | line (mark : List Char)
  | never
  deriving DecidableEq

/-- A blank at the beginning of a line. -/
def isMargin (c : Char) : Bool := c = ' ' || c = '\t'

/-- The blanks before a mark, and what follows it. -/
def marked? (mark s : List Char) : Option (List Char × List Char) :=
  let rest := s.dropWhile isMargin
  if mark.isPrefixOf rest then some (s.takeWhile isMargin, rest.drop mark.length) else none

/-- The text ends here. -/
def Ending.isHere (ending : Ending) (s : List Char) : Bool :=
  match ending with
  | .quote => s.head? = some '"'
  | .line mark => (newline? s).any fun rest => (marked? mark rest).isSome
  | .never => false

/-- The characters that stand between parts to fill in, and what follows them.  Escapes count
before a quote only; a doubled sign stands for itself everywhere. -/
def literal? (ending : Ending) : (fuel : Nat) → List Char → Option (List Char × List Char)
  | 0, _ => none
  | fuel + 1, s =>
    let more (c : List Char) (rest : List Char) : Option (List Char × List Char) :=
      (literal? ending fuel rest).map fun (text, rest) => (c ++ text, rest)
    if ending.isHere s then some ([], s)
    else match s with
      | [] => some ([], [])
      | '$' :: '\x7b' :: _ => some ([], s)
      | '%' :: '\x7b' :: _ => some ([], s)
      | '$' :: '$' :: '\x7b' :: rest => more ['$', '\x7b'] rest
      | '%' :: '%' :: '\x7b' :: rest => more ['%', '\x7b'] rest
      | '\\' :: rest =>
        if ending = .quote then do
          let (c, rest) ← escape? rest
          more [c] rest
        else more ['\\'] rest
      | c :: rest => more [c] rest

/-- A binary operator, and what follows it. -/
def binary? (s : List Char) : Option (HclBinary × List Char) :=
  (HclBinary.all.find? fun op => op.text.toList.isPrefixOf s).bind fun op =>
    let rest := s.drop op.text.length
    match op, rest with
    | .divide, '/' :: _ => none
    | .divide, '*' :: _ => none
    | _, _ => some (op, rest)

/-- What follows this word. -/
def word? (word : String) (s : List Char) : Option (List Char) :=
  if word.toList.isPrefixOf s then some (s.drop word.length) else none

/-- What follows a number that names a position: no leading zero, at most 64 bits. -/
def position? (s : List Char) : Option (Nat × List Char) := do
  let (digits, rest) ← digits? s
  match digits with
  | '0' :: more => return (0, more ++ rest)
  | _ =>
    guard (Digits.value digits < bound)
    return (Digits.value digits, rest)

end PodPlacement.HclToken
