import PodPlacement.Json.Basic
import PodPlacement.Json.Text

/-! # Reading JSON

    `Json.ofText` reads a text into a tree, whatever the text is.  Blanks are
    space, tab, newline and carriage return.  Every step of the reader takes
    one unit of fuel and no two steps stand at the same character twice, so
    that twice the length of the text is fuel enough. -/

namespace PodPlacement.Json

/-- May stand between tokens. -/
def isSpace (c : Char) : Bool :=
  c = ' ' || c = '\n' || c = '\t' || c = '\r'

/-- A text without the blanks it begins with. -/
def dropSpace (s : List Char) : List Char :=
  s.dropWhile isSpace

/-- Reads the letters of a word after its first one. -/
def readWord (value : Json) : List Char → List Char → Json × List Char
  | [], rest => (value, rest)
  | _ :: _, [] => (.broken (.both .endOfValue), [])
  | c :: word, d :: rest =>
    if c = d then readWord value word rest else (.broken (.both .expectedWord), [])

/-- Reads a number after its sign. -/
def readNumber (negative : Bool) (s : List Char) : Json × List Char :=
  match JsonNumber.read negative s with
  | .ok (literal, rest) => (.number literal, rest)
  | .error fault => (.broken fault, [])

/-- The break between members, for a reader in the middle of an object. -/
def memberBreak : List Char → Break
  | [] => .both .endOfObject
  | _ => .both .expectedCommaInObject

/-- The break after a comma where no key follows. -/
def keyBreak : List Char → Break
  | [] => ⟨.endOfValue, some .endOfObject⟩
  | '\x7d' :: _ => ⟨.trailingComma, some .keyNotString⟩
  | _ => .both .keyNotString

mutual

/-- Reads a value, and what follows it. -/
def readValue : Nat → List Char → Json × List Char
  | 0, _ => (.absent (.both .endOfValue), [])
  | fuel + 1, s =>
    match dropSpace s with
    | [] => (.absent (.both .endOfValue), [])
    | 'n' :: rest => readWord .null ['u', 'l', 'l'] rest
    | 't' :: rest => readWord (.bool true) ['r', 'u', 'e'] rest
    | 'f' :: rest => readWord (.bool false) ['a', 'l', 's', 'e'] rest
    | '"' :: rest =>
      let (text, rest) := JsonText.read rest
      (.string text, rest)
    | '-' :: rest => readNumber true rest
    | '[' :: rest =>
      match dropSpace rest with
      | [] => (.array [] (some (.both .endOfList)), [])
      | ']' :: rest => (.array [] none, rest)
      | rest =>
        let (items, fault, rest) := readItems fuel rest
        (.array items fault, rest)
    | '\x7b' :: rest =>
      match dropSpace rest with
      | [] => (.object [] (some (.both .endOfObject)), [])
      | '\x7d' :: rest => (.object [] none, rest)
      | '"' :: rest =>
        let (members, fault, rest) := readMembers fuel rest
        (.object members fault, rest)
      | _ => (.keyless, [])
    | c :: rest =>
      if c.isDigit then readNumber false (c :: rest)
      else (.broken (.both .expectedValue), [])

/-- Reads the items of a list, one at least, the break after them, and what follows. -/
def readItems : Nat → List Char → List Json × Option Break × List Char
  | 0, _ => ([], none, [])
  | fuel + 1, s =>
    let (item, rest) := readValue fuel s
    match dropSpace rest with
    | [] => ([item], some (.both .endOfList), [])
    | ']' :: rest => ([item], none, rest)
    | ',' :: rest =>
      match dropSpace rest with
      | ']' :: _ => ([item], some ⟨.trailingComma, some .expectedValue⟩, [])
      | rest =>
        let (items, fault, rest) := readItems fuel rest
        (item :: items, fault, rest)
    | _ => ([item], some (.both .expectedCommaInList), [])

/-- Reads the members of an object after the quote of the first key, the break after them, and
what follows. -/
def readMembers : Nat → List Char → List (Except Break String × Json) × Option Break × List Char
  | 0, _ => ([], none, [])
  | fuel + 1, s =>
    let (key, rest) := JsonText.read s
    match dropSpace rest with
    | [] => ([(key, .absent (.both .endOfObject))], none, [])
    | ':' :: rest =>
      let (value, rest) := readValue fuel rest
      match dropSpace rest with
      | '\x7d' :: rest => ([(key, value)], none, rest)
      | ',' :: rest =>
        match dropSpace rest with
        | '"' :: rest =>
          let (members, fault, rest) := readMembers fuel rest
          ((key, value) :: members, fault, rest)
        | rest => ([(key, value)], some (keyBreak rest), [])
      | rest => ([(key, value)], some (memberBreak rest), [])
    | _ => ([(key, .absent (.both .expectedColon))], none, [])

end

/-- The value that a text begins with, and what follows it but blanks. -/
def ofText (s : String) : Json × List Char :=
  let (value, rest) := readValue (2 * s.length + 2) s.toList
  (value, dropSpace rest)

/-- Decodes a text that holds one value and nothing else. -/
def decodeText {α : Type} (decode : Json → Except JsonError α) (s : String) :
    Except JsonError α := do
  let (value, rest) := ofText s
  let a ← decode value
  unless rest.isEmpty do throw (.text .trailingCharacters)
  return a

end PodPlacement.Json
