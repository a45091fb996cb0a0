import PodPlacement.Number.Digits
import PodPlacement.Text.Alphanumeric
import PodPlacement.Text.Blank

/-! # Patterns — regular expressions for the values of fields

    A filter may ask for a value by a regular expression; whether it is one is
    all that is told here.  It is read for an automaton that tells characters
    apart and has no memory, so there are no references to groups, no
    lookaround, and no word boundaries but those of seven bits; nor may it
    match what is no text.

    A filter divides its fields at braces and commas before it reads them, so
    no pattern has a brace that closes, and one that opens begins nothing.

    Groups, classes in brackets, repetitions, choices and rows of parts nest in
    one another, no deeper than `maxDepth`. -/

namespace PodPlacement.Pattern

/-- How a part of a pattern is read. -/
structure Mode where
  /-- Blanks and comments do not count. -/
  spaced : Bool
  /-- Classes and boundaries are those of all characters, not of seven bits. -/
  wide : Bool
  deriving DecidableEq

/-- How a pattern is read at first. -/
def Mode.initial : Mode := ⟨false, true⟩

/-- How deep a pattern may nest. -/
def maxDepth : Nat := 250

/-- Parts one after another, by how deep they nest. -/
structure Row where
  size : Nat
  /-- The depth of the last part. -/
  last : Nat
  /-- The greatest depth of a part. -/
  most : Nat

namespace Row

/-- No parts. -/
def empty : Row := ⟨0, 0, 0⟩

/-- A part more. -/
def put (row : Row) (depth : Nat) : Row :=
  ⟨row.size + 1, depth, max row.most depth⟩

/-- The last part repeated. -/
def repeated (row : Row) : Row :=
  { row with last := row.last + 1, most := max row.most (row.last + 1) }

/-- How deep a row nests; a single part stands for itself. -/
def depth (row : Row) : Nat := if row.size ≤ 1 then row.most else row.most + 1

/-- How deep a row nests as the last of some branches. -/
def branchesDepth (row : Row) : (branches : Option Nat) → Nat
  | none => row.depth
  | some most => max most row.depth + 1

/-- The greatest depth of branches, this row among them. -/
def toBranches (row : Row) (branches : Option Nat) : Option Nat :=
  some (max (branches.getD 0) row.depth)

end Row

/-- What an escape, or a character of a class, stands for. -/
inductive Atom where
  | character (n : Nat)
  /-- A class of characters. -/
  | group
  /-- A place between characters. -/
  | place
  deriving DecidableEq

/-- A text without the blanks and comments it begins with, so many at most. -/
def skipSpaced : Nat → List Char → List Char
  | 0, s => s
  | n + 1, s =>
    match Text.dropBlanks s with
    | '#' :: rest => skipSpaced n ((rest.dropWhile (· ≠ '\n')).drop 1)
    | s => s

/-- Skips what does not count. -/
def skip (mode : Mode) (s : List Char) : List Char :=
  if mode.spaced then skipSpaced s.length s else s

/-- The character behind the first one, where only a comment of no letters is passed over. -/
def next? (mode : Mode) (s : List Char) : Option Char :=
  let rest := s.drop 1
  if mode.spaced then
    match Text.dropBlanks rest with
    | '#' :: rest => (Text.dropBlanks rest).head?
    | rest => rest.head?
  else rest.head?

/-- The value of a hexadecimal digit. -/
def hexValue? (c : Char) : Option Nat :=
  if c.isDigit then some (c.toNat - 48)
  else if 'a' ≤ c ∧ c ≤ 'f' then some (c.toNat - 87)
  else if 'A' ≤ c ∧ c ≤ 'F' then some (c.toNat - 55)
  else none

/-- Reads so many hexadecimal digits, and what follows. -/
def hexDigits? (mode : Mode) : Nat → Nat → List Char → Option (Nat × List Char)
  | 0, n, s => some (n, s)
  | count + 1, n, s =>
    match skip mode s with
    | c :: rest => (hexValue? c).bind fun d => hexDigits? mode count (16 * n + d) rest
    | [] => none

/-- Reads a character by its number in so many digits; one of two digits is a byte. -/
def hexAtom? (mode : Mode) (count : Nat) (s : List Char) : Option (Atom × List Char) :=
  (hexDigits? mode count 0 s).bind fun (n, rest) =>
    if 0x110000 ≤ n ∨ (0xd800 ≤ n ∧ n ≤ 0xdfff) then none
    else if !mode.wide && count = 2 && 0x80 ≤ n then none
    else some (.character n, rest)

/-- Characters that mean something in a pattern. -/
def special : List Char := "\\.+*?()|[]\x7b\x7d^$#&-~".toList

/-- May stand for itself after a backslash. -/
def isEscapable (c : Char) : Bool :=
  special.contains c || (c.toNat < 0x80 && !c.isAlphanum && c ≠ '<' && c ≠ '>')

/-- The control characters that have a letter. -/
def controlOf? (c : Char) : Option Nat :=
  [('a', 7), ('t', 9), ('n', 10), ('v', 11), ('f', 12), ('r', 13)].lookup c

/-- The letters of the general categories. -/
def categories : List Char := "clmnpsz".toList

/-- Reads an escape after its backslash. -/
def escape? (mode : Mode) : List Char → Option (Atom × List Char)
  | [] => none
  | c :: rest =>
    if c = 'x' then hexAtom? mode 2 rest
    else if c = 'u' then hexAtom? mode 4 rest
    else if c = 'U' then hexAtom? mode 8 rest
    else if c = 'p' ∨ c = 'P' then
      match skip mode rest with
      | letter :: rest =>
        if mode.wide && categories.contains letter.toLower then some (.group, rest) else none
      | [] => none
    else if c = 'd' ∨ c = 's' ∨ c = 'w' then some (.group, rest)
    else if c = 'D' ∨ c = 'S' ∨ c = 'W' then if mode.wide then some (.group, rest) else none
    else if c = 'A' ∨ c = 'z' then some (.place, rest)
    else if c = 'b' ∨ c = 'B' ∨ c = '<' ∨ c = '>' then
      if mode.wide then none else some (.place, rest)
    else if isEscapable c then some (.character c.toNat, rest)
    else (controlOf? c).map fun n => (.character n, rest)

/-! ## Classes in brackets -/

/-- The names of the classes of seven bits. -/
def classNames : List String :=
  ["alnum", "alpha", "ascii", "blank", "cntrl", "digit", "graph", "lower", "print", "punct",
   "space", "upper", "word", "xdigit"]

/-- Reads a class by its name between colons: whether it is turned around, and what follows. -/
def namedClass? : List Char → Option (Bool × List Char)
  | ':' :: s =>
    let (negated, s) := match s with
      | '^' :: s => (true, s)
      | s => (false, s)
    match s.span (· ≠ ':') with
    | (name, ':' :: ']' :: rest) =>
      if classNames.contains (String.ofList name) then some (negated, rest) else none
    | _ => none
  | _ => none

/-- Counts the dashes that a text begins with, so many at most, and skips them. -/
def skipDashes (mode : Mode) : Nat → List Char → Nat × List Char
  | 0, s => (0, s)
  | n + 1, s =>
    match s with
    | '-' :: rest =>
      let (count, rest) := skipDashes mode n (skip mode rest)
      (count + 1, rest)
    | s => (0, s)

/-- Reads the beginning of a class after its bracket: the dashes and brackets that stand for
themselves there, and what follows.  A class that is turned around would match what is no text,
unless it is one of all characters. -/
def classOpen? (mode : Mode) (s : List Char) : Option (Row × List Char) :=
  let s := skip mode s
  let (negated, s) := match s with
    | '^' :: rest => (true, skip mode rest)
    | s => (false, s)
  let (dashes, inner) := skipDashes mode s.length s
  let (row, inner) : Row × List Char := match dashes, inner with
    | 0, ']' :: rest => (⟨1, 0, 0⟩, skip mode rest)
    | dashes, inner => (⟨dashes, 0, 0⟩, inner)
  if inner.isEmpty || (negated && !mode.wide) then none else some (row, inner)

/-- Reads a character or a class of a class. -/
def classAtom? (mode : Mode) : List Char → Option (Atom × List Char)
  | [] => none
  | '\\' :: rest => escape? mode rest
  | c :: rest => some (.character c.toNat, rest)

/-- May stand in a class. -/
def Atom.isMember (mode : Mode) : Atom → Bool
  | .character n => mode.wide || n < 0x80
  | .group => true
  | .place => false

/-- The two ends of a range. -/
def Atom.isRange (mode : Mode) : Atom → Atom → Bool
  | .character low, .character high => low ≤ high && (mode.wide || high < 0x80)
  | _, _ => false

/-- Reads a character, a class or a range of a class, and what follows. -/
def classItem? (mode : Mode) (s : List Char) : Option (List Char) := do
  let (low, s) ← classAtom? mode s
  let s := skip mode s
  let single := s.head? ≠ some '-' || next? mode s = some ']' || next? mode s = some '-'
  if single then
    if low.isMember mode && !s.isEmpty then some s else none
  else
    let (high, s) ← classAtom? mode (skip mode (s.drop 1))
    if low.isRange mode high then some s else none

/-- What has been read of a class: the parts since the last operator, and how deep those before it
nest. -/
structure ClassPart where
  row : Row
  left : Option Nat

namespace ClassPart

/-- A part more. -/
def put (part : ClassPart) (depth : Nat) : ClassPart :=
  { part with row := part.row.put depth }

/-- How deep a class nests in its brackets. -/
def depth (part : ClassPart) : Nat := part.row.branchesDepth part.left

/-- What has been read when an operator follows. -/
def operator (part : ClassPart) : ClassPart := ⟨.empty, some part.depth⟩

end ClassPart

/-- Reads a class up to the bracket that closes it: how deep it nests, and what follows.  It may
stand inside others, of which the parts before it are given. -/
def classBody? (mode : Mode) : (fuel : Nat) → ClassPart → (outer : List ClassPart) → List Char →
    Option (Nat × List Char)
  | 0, _, _, _ => none
  | fuel + 1, part, outer, s =>
    match skip mode s with
    | [] => none
    | ']' :: rest =>
      match outer with
      | [] => some (part.depth + 1, rest)
      | whole :: outer => classBody? mode fuel (whole.put (part.depth + 1)) outer rest
    | '[' :: rest =>
      match namedClass? rest with
      | some (negated, rest) =>
        if negated && !mode.wide then none else classBody? mode fuel (part.put 0) outer rest
      | none =>
        (classOpen? mode rest).bind fun (row, rest) =>
          classBody? mode fuel ⟨row, none⟩ (part :: outer) rest
    | '&' :: '&' :: rest => classBody? mode fuel part.operator outer rest
    | '-' :: '-' :: rest => classBody? mode fuel part.operator outer rest
    | '~' :: '~' :: rest => classBody? mode fuel part.operator outer rest
    | s => (classItem? mode s).bind (classBody? mode fuel (part.put 0) outer)

/-- Reads a class after its bracket: how deep it nests, and what follows. -/
def bracketed? (mode : Mode) (s : List Char) : Option (Nat × List Char) :=
  (classOpen? mode s).bind fun (row, rest) => classBody? mode s.length ⟨row, none⟩ [] rest

/-! ## Groups -/

/-- What begins with a parenthesis. -/
inductive Opening where
  /-- A group, with its name if it has one. -/
  | group (mode : Mode) (name : Option (List Char))
  /-- A change of mode up to the end of the group. -/
  | change (mode : Mode)

/-- The letters of modes. -/
def flags : List Char := "imsUuRx".toList

/-- The letters of modes, each at most once, and at most one minus before some of them. -/
def areFlags (letters : List Char) : Bool :=
  letters.all (fun c => c = '-' || flags.contains c) && letters.Nodup
    && letters.getLast? ≠ some '-'

/-- What letters make of a mode that has one of them. -/
def flagged (letters : List Char) (flag : Char) (before : Bool) : Bool :=
  if letters.contains flag then (letters.takeWhile (· ≠ '-')).contains flag else before

/-- The mode that letters ask for. -/
def Mode.changed (mode : Mode) (letters : List Char) : Mode :=
  ⟨flagged letters 'x' mode.spaced, flagged letters 'u' mode.wide⟩

/-- May stand in the name of a group. -/
def isNamePart (c : Char) : Bool :=
  c = '_' || c = '.' || c = '[' || c = ']' || Text.isAlphanumeric c

/-- Reads the name of a group, and what follows. -/
def groupName? (s : List Char) : Option (List Char × List Char) :=
  match s.span (· ≠ '>') with
  | (name@(first :: rest), '>' :: s) =>
    if (first = '_' || (Text.isAlphanumeric first && !first.isDigit)) && rest.all isNamePart then
      some (name, s)
    else none
  | _ => none

/-- Reads what follows a parenthesis that opens. -/
def opening? (mode : Mode) (s : List Char) : Option (Opening × List Char) :=
  match skip mode s with
  | '?' :: 'P' :: '<' :: s => (groupName? s).map fun (name, s) => (.group mode (some name), s)
  | '?' :: '<' :: s => (groupName? s).map fun (name, s) => (.group mode (some name), s)
  | '?' :: s =>
    match s.span fun c => c ≠ ':' && c ≠ ')' with
    | (letters, ':' :: s) =>
      if areFlags letters then some (.group (mode.changed letters) none, s) else none
    | (letters, ')' :: s) =>
      if areFlags letters && letters ≠ [] then some (.change (mode.changed letters), s) else none
    | _ => none
  | s => some (.group mode none, s)

/-! ## Patterns -/

/-- What has been read of a group, or of a whole pattern. -/
structure GroupPart where
  mode : Mode
  /-- The parts since the last bar. -/
  row : Row
  /-- The last part may be repeated. -/
  repeatable : Bool
  /-- How deep the branches before the last bar nest. -/
  branches : Option Nat

namespace GroupPart

/-- Nothing has been read. -/
def start (mode : Mode) : GroupPart := ⟨mode, .empty, false, none⟩

/-- A part more. -/
def put (part : GroupPart) (depth : Nat) : GroupPart :=
  { part with row := part.row.put depth, repeatable := true }

/-- A change of mode. -/
def change (part : GroupPart) (mode : Mode) : GroupPart :=
  { part with mode, row := part.row.put 0, repeatable := false }

/-- What has been read when a bar follows. -/
def bar (part : GroupPart) : GroupPart :=
  ⟨part.mode, .empty, false, part.row.toBranches part.branches⟩

/-- How deep a group nests in its parentheses. -/
def depth (part : GroupPart) : Nat := part.row.branchesDepth part.branches

end GroupPart

/-- A pattern from some place on, after a part of it; the part may stand inside groups, of which
the parts before it are given.  `names` are those of groups so far. -/
def reads : (fuel : Nat) → GroupPart → (outer : List GroupPart) → (names : List (List Char)) →
    List Char → Bool
  | 0, _, _, _, _ => false
  | fuel + 1, part, outer, names, s =>
    match skip part.mode s with
    | [] => outer.isEmpty && part.depth ≤ maxDepth
    | c :: s =>
      if c = '(' then
        match opening? part.mode s with
        | some (.group mode name, s) =>
          !name.any names.contains
            && reads fuel (.start mode) (part :: outer) (name.toList ++ names) s
        | some (.change mode, s) => reads fuel (part.change mode) outer names s
        | none => false
      else if c = ')' then
        match outer with
        | whole :: outer => reads fuel (whole.put (part.depth + 1)) outer names s
        | [] => false
      else if c = '|' then reads fuel part.bar outer names s
      else if c = '?' ∨ c = '*' ∨ c = '+' then
        part.repeatable
          && reads fuel { part with row := part.row.repeated } outer names
            (if s.head? = some '?' then s.drop 1 else s)
      else if c = '\x7b' then false
      else if c = '[' then
        match bracketed? part.mode s with
        | some (depth, s) => reads fuel (part.put depth) outer names s
        | none => false
      else if c = '\\' then
        match escape? part.mode s with
        | some (_, s) => reads fuel (part.put 0) outer names s
        | none => false
      else (c ≠ '.' || part.mode.wide) && reads fuel (part.put 0) outer names s

/-- A regular expression. -/
def isValid (s : List Char) : Bool :=
  reads (s.length + 1) (.start .initial) [] [] s

/-! ## Numbers -/

/-- The word of a number that has no digits. -/
def isNumberWord (s : List Char) : Bool :=
  ["inf", "infinity", "nan"].contains (String.ofList (s.map Char.toLower))

/-- A number without sign: digits with a point and an exponent, where they have one. -/
def isUnsigned (s : List Char) : Bool :=
  let (whole, s) := Digits.span s
  let (places, s) := match s with
    | '.' :: s => Digits.span s
    | s => ([], s)
  let exponent := match s with
    | [] => true
    | e :: s =>
      let digits := match s with
        | '+' :: s | '-' :: s => s
        | s => s
      (e = 'e' || e = 'E') && digits ≠ [] && digits.all Char.isDigit
  (whole ≠ [] || places ≠ []) && exponent

/-- A value that a filter may ask for: a number or a regular expression.  Without a plus sign a
number is a regular expression too. -/
def isValue (s : List Char) : Bool :=
  isValid s || match s with
    | '+' :: s => isUnsigned s || isNumberWord s
    | _ => false

end PodPlacement.Pattern
