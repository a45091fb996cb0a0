import PodPlacement.Hcl.Heredoc
import PodPlacement.Hcl.Sameness

/-! # Reading HCL expressions

    Operators are read from left to right, a condition last.  Lines do not
    matter in lists, parentheses, parts to fill in, the values of loops that
    make lists and the conditions of loops in brackets.  Neither do they after a
    list, a call or a loop that an expression begins with, for as long as the
    expression goes on.  Lines matter in an entry of an object and in the other
    expressions of loops and choices, though not between them.

    Each expression inside another takes one level of depth, and so do the
    operand of an operator of one operand and a choice or a loop in a text.
    Operators of two operands are counted from the outermost expression to the
    innermost: those before an operand count for all that it holds.  Every step
    of the reader takes one unit of fuel. -/

namespace PodPlacement

/-- How much deeper expressions may nest. -/
structure HclRoom where
  levels : Nat
  /-- Operators of two operands that may still stand in a row. -/
  operators : Nat
  deriving DecidableEq

namespace HclRoom

/-- How deep expressions and blocks may nest in one another. -/
def maxLevels : Nat := 64

/-- How many operators of two operands may stand in a row. -/
def maxOperators : Nat := 128

/-- The room inside an expression. -/
def inner? (room : HclRoom) : Option HclRoom :=
  match room.levels with
  | levels + 1 => some { room with levels }
  | 0 => none

/-- The room after an operator of two operands. -/
def afterOperator? (room : HclRoom) : Option HclRoom :=
  match room.operators with
  | operators + 1 => some { room with operators }
  | 0 => none

/-- The room after so many operators. -/
def after (room : HclRoom) (operators : Nat) : HclRoom :=
  { room with operators := room.operators - operators }

end HclRoom

namespace HclSyntax

open HclToken

/-- A tilde, if a text begins with one, and what follows it. -/
def tilde : List Char → Bool × List Char
  | '~' :: s => (true, s)
  | s => (false, s)

/-- Reads the end of a part of a text: a tilde, if there is one, and a brace. -/
def partEnd? (s : List Char) : Option (Bool × List Char) :=
  match tilde s with
  | (right, '\x7d' :: rest) => some (right, rest)
  | _ => none

/-- Reads a mark of a text that is one word, such as its `else`. -/
def partWord? (word : String) : List Char → Option (HclMark × List Char)
  | '%' :: '\x7b' :: s => do
    let (left, s) := tilde s
    let (before, s) := blank true s
    let (after, s) := blank true (← word? word s)
    let (right, s) ← partEnd? s
    return (⟨left, before, after, right⟩, s)
  | _ => none

/-- A character that may stand after the `for` of a loop in brackets. -/
def isLoopBlank (c : Char) : Bool :=
  c = ' ' || c = '\t' || c = '\n' || c = '#' || c = '/'

/-- What follows the `for` of a loop in brackets. -/
def loopStart? (s : List Char) : Option (List Char) :=
  (word? "for" s).filter fun rest => rest.head?.any isLoopBlank

/-- Reads the names of a loop after its `for`, and what follows its `in`. -/
def loopNames? (s : List Char) : Option (List HclWord × List Char) := do
  let word? (s : List Char) : Option (HclWord × List Char) := do
    let (before, s) := blank true s
    let (name, s) ← name? s
    let (after, s) := blank true s
    return (⟨before, name, after⟩, s)
  let (first, s) ← word? s
  let (names, s) ← match s with
    | ',' :: s => do
      let (second, s) ← word? s
      pure ([first, second], s)
    | s => pure ([first], s)
  return (names, ← HclToken.word? "in" s)

/-- Reads the segments of a function's name after the first one, and the blanks behind them. -/
def nameSegments (lines : Bool) : Nat → HclWord → List Char → List HclWord × List Char
  | 0, head, s => ([head], s)
  | n + 1, head, s =>
    let (after, rest) := blank lines s
    match rest with
    | ':' :: ':' :: rest =>
      let (before, rest) := blank lines rest
      match name? rest with
      | some (name, rest) =>
        let (words, rest) := nameSegments lines n ⟨before, name, []⟩ rest
        ({ head with after } :: words, rest)
      | none => ([head], s)
    | rest => ([{ head with after }], rest)

mutual

/-- Reads an expression, and what follows it; `lines` tells whether line ends count as blanks. -/
def read? : (fuel : Nat) → HclRoom → (lines : Bool) → List Char → Option (HclSyntax × List Char)
  | fuel + 1, room, lines, s => do
    let room ← room.inner?
    let (head, lines, s) ← readOperation? fuel room true lines s
    let room := room.after head.operators
    let (after, rest) := blank lines s
    match rest with
    | '?' :: s =>
      let (whenTrue, s) ← readPadded? fuel room lines lines s
      let ':' :: s := s | none
      let (before, s) := blank lines s
      let (whenFalse, s) ← read? fuel room lines s
      return (.conditional (.padded [] head after) whenTrue (.padded before whenFalse []), s)
    | _ => return (head, s)
  | 0, _, _, _ => none

/-- Reads an expression and the blanks around it, which are told apart from those in it. -/
def readPadded? : (fuel : Nat) → HclRoom → (around within : Bool) → List Char →
    Option (HclSyntax × List Char)
  | fuel + 1, room, around, within, s => do
    let (before, s) := blank around s
    let (inner, s) ← read? fuel room within s
    let (after, s) := blank around s
    return (.padded before inner after, s)
  | 0, _, _, _, _ => none

/-- Reads operands with operators between them; tells whether line ends count as blanks in what
follows, on which only the first operand has a say. -/
def readOperation? : (fuel : Nat) → HclRoom → (first lines : Bool) → List Char →
    Option (HclSyntax × Bool × List Char)
  | fuel + 1, room, first, lines, s => do
    let (left, free, s) ← readOperand? fuel room lines s
    let lines := lines || (first && free)
    let (before, rest) := blank lines s
    match binary? rest with
    | none => return (left, lines, s)
    | some (op, s) =>
      let (after, s) := blank lines s
      let (right, _, s) ← readOperation? fuel (← room.afterOperator?) false lines s
      return (.binary left before op after right, lines, s)
  | 0, _, _, _, _ => none

/-- Reads an operand with the operators in front of it and the steps behind; tells whether line
ends count as blanks after it. -/
def readOperand? : (fuel : Nat) → HclRoom → (lines : Bool) → List Char →
    Option (HclSyntax × Bool × List Char)
  | fuel + 1, room, lines, s => do
    let (op, blank, inner) := match s with
      | '-' :: s => let (blank, s) := blank false s; (some HclUnary.negate, blank, s)
      | '!' :: s => let (blank, s) := blank false s; (some HclUnary.not, blank, s)
      | s => (none, [], s)
    match op, (if op = some .negate then number? inner else none) with
    | some _, some (n, rest) =>
      let (e, s) ← readMoves? fuel room lines (.number (negated n) (readOf s rest)) rest
      return (e, false, s)
    | some op, none =>
      let (operand, _, s) ← readOperand? fuel (← room.inner?) lines inner
      return (.unary op blank operand, false, s)
    | none, _ =>
      let (base, free, s) ← readTerm? fuel room lines s
      let (e, s) ← readMoves? fuel room (lines || free) base s
      return (e, free, s)
  | 0, _, _, _ => none

/-- Reads an expression without operators and steps; tells whether line ends count as blanks after
it. -/
def readTerm? : (fuel : Nat) → HclRoom → (lines : Bool) → List Char →
    Option (HclSyntax × Bool × List Char)
  | fuel + 1, room, lines, s =>
    match s with
    | '"' :: s => (readText? fuel room s).map fun (e, s) => (e, false, s)
    | '<' :: '<' :: s => (readLineText? fuel room s).map fun (e, s) => (e, false, s)
    | '(' :: s => do
      let (inner, s) ← readPadded? fuel room true true s
      let ')' :: s := s | none
      return (.parenthesis inner, false, s)
    | '[' :: s =>
      let (blank, inner) := blank true s
      match loopStart? inner with
      | some s => (readListLoop? fuel room blank s).map fun (e, s) => (e, true, s)
      | none => (readItems? fuel room ']' s).map fun (items, tail, s) => (.list items tail, true, s)
    | '\x7b' :: s =>
      let (blank, inner) := blank true s
      match loopStart? inner with
      | some s => (readObjectLoop? fuel room blank s).map fun (e, s) => (e, true, s)
      | none => do
        let (entries, blank, s) ← readEntries? fuel room s
        if distinctKeys entries then some (.object entries blank, false, s) else none
    | s =>
      match name? s with
      | none => (number? s).map fun (n, rest) => (.number n (readOf s rest), false, rest)
      | some (first, s) =>
        match nameSegments lines s.length ⟨[], first, []⟩ s with
        | (name, '(' :: s) => do
          let (arguments, tail, s) ← readItems? fuel room ')' s
          return (.call name arguments tail, true, s)
        | (name, _) => if name.length = 1 then some (.word first, false, s) else none
  | 0, _, _, _ => none

/-- Reads a text after the quote that begins it. -/
def readText? : (fuel : Nat) → HclRoom → List Char → Option (HclSyntax × List Char)
  | fuel + 1, room, s => do
    let (pieces, s) ← readPieces? fuel room .quote s
    let '"' :: s := s | none
    return (ofPieces pieces, s)
  | 0, _, _ => none

/-- Reads a text of whole lines after `<<`.  Its first line is never taken for the mark that ends
it, unless no other line is. -/
def readLineText? : (fuel : Nat) → HclRoom → List Char → Option (HclSyntax × List Char)
  | fuel + 1, room, s => do
    let (indented, mark, s) ← Heredoc.start? s
    let (pieces, rest) ← readPieces? fuel room (.line mark.toList) s
    match rest with
    | [] =>
      let (margin, s) ← marked? mark.toList s
      return (Heredoc.ofPieces indented mark [] margin, s)
    | rest =>
      let next ← newline? rest
      let (margin, s) ← marked? mark.toList next
      return (Heredoc.ofPieces indented mark (Heredoc.closed (readOf rest next) pieces) margin, s)
  | 0, _, _ => none

/-- Reads what begins a loop after its `for`: its names and its collection. -/
def readLoop? : (fuel : Nat) → HclRoom → List Char →
    Option (List HclWord × HclSyntax × List Char)
  | fuel + 1, room, s => do
    let (names, s) ← loopNames? s
    let (collection, s) ← readPadded? fuel room true false s
    return (names, collection, s)
  | 0, _, _ => none

/-- Reads the condition of a loop, if it has one. -/
def readCondition? : (fuel : Nat) → HclRoom → List Char → Option (List HclSyntax × List Char)
  | fuel + 1, room, s =>
    match word? "if" s with
    | some s => (readPadded? fuel room true true s).map fun (e, s) => ([e], s)
    | none => some ([], s)
  | 0, _, _ => none

/-- Reads a loop that makes a list, after its `for`. -/
def readListLoop? : (fuel : Nat) → HclRoom → (blank : List Char) → List Char →
    Option (HclSyntax × List Char)
  | fuel + 1, room, blank, s => do
    let (names, collection, s) ← readLoop? fuel room s
    let ':' :: s := s | none
    let (value, s) ← readPadded? fuel room true true s
    let (condition, s) ← readCondition? fuel room s
    let ']' :: s := s | none
    return (.forList blank names collection value condition, s)
  | 0, _, _, _ => none

/-- Reads a loop that makes an object, after its `for`. -/
def readObjectLoop? : (fuel : Nat) → HclRoom → (blank : List Char) → List Char →
    Option (HclSyntax × List Char)
  | fuel + 1, room, blank, s => do
    let (names, collection, s) ← readLoop? fuel room s
    let ':' :: s := s | none
    let (key, s) ← readPadded? fuel room true false s
    let '=' :: '>' :: s := s | none
    let (value, s) ← readPadded? fuel room true false s
    let (group, s) := match s with
      | '.' :: '.' :: '.' :: s => let (blank, s) := HclToken.blank true s; (some blank, s)
      | s => (none, s)
    let (condition, s) ← readCondition? fuel room s
    let '\x7d' :: s := s | none
    return (.forObject blank names collection key value group condition, s)
  | 0, _, _, _ => none

/-- Reads the items of a list or the arguments of a function, and what follows the bracket that
closes them; an argument may be spread out. -/
def readItems? : (fuel : Nat) → HclRoom → (close : Char) → List Char →
    Option (List HclSyntax × HclTail × List Char)
  | fuel + 1, room, close, s => do
    let (before, rest) := blank true s
    if rest.head? = some close then some ([], .plain before, rest.drop 1)
    else
      let (item, s) ← readPadded? fuel room true true s
      match s with
      | ',' :: s =>
        let (items, tail, s) ← readItems? fuel room close s
        return (item :: items, tail.afterComma items, s)
      | '.' :: '.' :: '.' :: s =>
        let (after, s) := blank true s
        if close = ')' ∧ s.head? = some ')' then some ([item], .spread after, s.drop 1) else none
      | s => if s.head? = some close then some ([item], .plain [], s.drop 1) else none
  | 0, _, _, _ => none

/-- Reads the entries of an object and the blanks behind them, and what follows its brace. -/
def readEntries? : (fuel : Nat) → HclRoom → List Char →
    Option (List HclEntry × List Char × List Char)
  | fuel + 1, room, s => do
    let (before, rest) := blank true s
    match rest with
    | '\x7d' :: s => return ([], before, s)
    | s =>
      let (key, s) ← read? fuel room false s
      let (after, s) := blank false s
      let key := padded before key after
      let (sign, s) ← match s with
        | '=' :: s => some ('=', s)
        | ':' :: s => some (':', s)
        | _ => none
      let (before, s) := blank false s
      let (value, s) ← read? fuel room false s
      let (after, rest) := blank false s
      match rest with
      | '\x7d' :: rest => return ([.entry key sign (padded before value after) []], [], rest)
      | ',' :: rest =>
        let (entries, blank, rest) ← readEntries? fuel room rest
        return (.entry key sign (padded before value after) [','] :: entries, blank, rest)
      | rest =>
        let line := (lineComment? rest).getD rest
        let (entries, blank, rest) ← readEntries? fuel room (← newline? line)
        return (.entry key sign (padded before value (readOf s line)) ['\n'] :: entries, blank, rest)
  | 0, _, _ => none

/-- Reads steps into a value, and what follows them. -/
def readMoves? : (fuel : Nat) → HclRoom → (lines : Bool) → HclSyntax → List Char →
    Option (HclSyntax × List Char)
  | fuel + 1, room, lines, base, s => do
    let (before, _) := blank lines s
    let (moves, s) ← readMoveList? fuel room lines s
    return (base.withMoves before moves, s)
  | 0, _, _, _, _ => none

/-- Reads steps into a value one after another, and what follows them. -/
def readMoveList? : (fuel : Nat) → HclRoom → (lines : Bool) → List Char →
    Option (List HclMove × List Char)
  | fuel + 1, room, lines, s =>
    let more (move : HclMove) (s : List Char) : Option (List HclMove × List Char) :=
      (readMoveList? fuel room lines s).map fun (moves, s) => (move :: moves, s)
    match (blank lines s).2 with
    | '.' :: '.' :: _ => some ([], s)
    | '.' :: s =>
      let (blank, s) := blank true s
      match s with
      | '*' :: s => more (.fields blank) s
      | s =>
        match name? s, position? s with
        | some (name, s), _ => more (.field blank name) s
        | none, some (n, s) => more (.position blank n) s
        | none, none => none
    | '[' :: inner =>
      let (before, rest) := blank true inner
      match rest with
      | '*' :: s =>
        match blank true s with
        | (after, ']' :: s) => more (.items before after) s
        | _ => none
      | _ => do
        let (index, s) ← readPadded? fuel room true true inner
        let ']' :: s := s | none
        more (.index index) s
    | _ => some ([], s)
  | 0, _, _, _ => none

/-- Reads the pieces of a text up to its ending, or to a mark that begins no part. -/
def readPieces? : (fuel : Nat) → HclRoom → Ending → List Char →
    Option (List HclPiece × List Char)
  | fuel + 1, room, ending, s => do
    let (text, s) ← literal? ending (s.length + 1) s
    let head : List HclPiece := if text.isEmpty then [] else [.literal text]
    match s with
    | '$' :: '\x7b' :: inner =>
      let (left, inner) := tilde inner
      let (inner, s) ← readPadded? fuel room true true inner
      let (right, s) ← partEnd? s
      let (more, s) ← readPieces? fuel room ending s
      return (head ++ .interpolation left inner right :: more, s)
    | '%' :: '\x7b' :: inner =>
      match readDirective? fuel room inner with
      | some (piece, s) =>
        let (more, s) ← readPieces? fuel room ending s
        return (head ++ piece :: more, s)
      | none => return (head, s)
    | s => return (head, s)
  | 0, _, _, _ => none

/-- Reads a choice or a loop in a text, after the brace that begins it. -/
def readDirective? : (fuel : Nat) → HclRoom → List Char → Option (HclPiece × List Char)
  | fuel + 1, room, s => do
    let room ← room.inner?
    let (left, s) := tilde s
    let (before, s) := blank true s
    match word? "if" s with
    | some s =>
      let (condition, s) ← readPadded? fuel room true false s
      let (right, s) ← partEnd? s
      let opening : HclMark := ⟨left, before, [], right⟩
      let (held, s) ← readPieces? fuel room .never s
      match partWord? "else" s with
      | some (middle, s) =>
        let (otherwise, s) ← readPieces? fuel room .never s
        let (closing, s) ← partWord? "endif" s
        return (.alternative opening condition held middle otherwise closing, s)
      | none =>
        let (closing, s) ← partWord? "endif" s
        return (.choice opening condition held closing, s)
    | none =>
      let (names, collection, s) ← readLoop? fuel room (← word? "for" s)
      let (right, s) ← partEnd? s
      let (held, s) ← readPieces? fuel room .never s
      let (closing, s) ← partWord? "endfor" s
      return (.loop ⟨left, before, [], right⟩ names collection held closing, s)
  | 0, _, _ => none

end

/-- Fuel enough for a text. -/
def fuelFor (s : List Char) : Nat := 8 * s.length + 8

end HclSyntax

end PodPlacement
