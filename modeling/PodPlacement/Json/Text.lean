import PodPlacement.Json.Fault

/-! # JSON strings — escapes and surrogates

    The body of a string is first split into pieces: characters, and the
    16-bit units that `\u` escapes name.  The pieces then spell a text in which
    two surrogates make one character.  Who passes over a string splits it and
    does not spell it. -/

namespace PodPlacement.JsonText

/-- A piece of the body of a string. -/
inductive Piece where
  | char (c : Char)
  | unit (n : Nat)

/-- The value of a hexadecimal digit. -/
def hexValue? (c : Char) : Option Nat :=
  if c.isDigit then some (c.toNat - 48)
  else if 'a' ≤ c ∧ c ≤ 'f' then some (c.toNat - 87)
  else if 'A' ≤ c ∧ c ≤ 'F' then some (c.toNat - 55)
  else none

/-- The number that four hexadecimal digits name. -/
def hexUnit? (digits : List Char) : Option Nat :=
  digits.foldlM (fun n c => (hexValue? c).map (16 * n + ·)) 0

/-- The character that an escape of one letter names. -/
def escaped? : Char → Option Char
  | '"' => some '"'
  | '\\' => some '\\'
  | '/' => some '/'
  | 'b' => some '\x08'
  | 'f' => some '\x0c'
  | 'n' => some '\n'
  | 'r' => some '\r'
  | 't' => some '\t'
  | _ => none

/-- The number of bytes of a text, counted up to four. -/
def bytesUpToFour (s : List Char) : Nat :=
  min 4 ((s.take 4).foldl (fun n c => n + c.utf8Size) 0)

/-- Splits the body of a string: its pieces, what stops it too early, and what follows it. -/
def split : List Char → List Piece × Option JsonFault × List Char
  | [] => ([], some .endOfString, [])
  | '"' :: rest => ([], none, rest)
  | '\\' :: 'u' :: a :: b :: c :: d :: rest =>
    match hexUnit? [a, b, c, d] with
    | some n =>
      let (pieces, fault, rest) := split rest
      (.unit n :: pieces, fault, rest)
    | none =>
      ([], some (if bytesUpToFour (a :: b :: c :: d :: rest) < 4 then .endOfString else .invalidHex),
       [])
  | '\\' :: 'u' :: rest =>
    ([], some (if bytesUpToFour rest < 4 then .endOfString else .invalidHex), [])
  | '\\' :: c :: rest =>
    match escaped? c with
    | some c =>
      let (pieces, fault, rest) := split rest
      (.char c :: pieces, fault, rest)
    | none => ([], some .invalidEscape, [])
  | ['\\'] => ([], some .endOfString, [])
  | c :: rest =>
    if c.toNat < 0x20 then ([], some .controlCharacter, [])
    else
      let (pieces, fault, rest) := split rest
      (.char c :: pieces, fault, rest)

/-- The unit begins a pair. -/
def isLead (n : Nat) : Bool := 0xd800 ≤ n && n ≤ 0xdbff

/-- The unit ends a pair. -/
def isTrail (n : Nat) : Bool := 0xdc00 ≤ n && n ≤ 0xdfff

/-- The character that a pair of units names. -/
def pairChar (lead trail : Nat) : Char :=
  Char.ofNat (0x10000 + 0x400 * (lead - 0xd800) + (trail - 0xdc00))

/-- The text that pieces spell up to a fault. -/
def spell (fault : Option JsonFault) : List Piece → Except JsonFault (List Char)
  | [] => fault.elim (.ok []) .error
  | .char c :: rest => (spell fault rest).map (c :: ·)
  | .unit n :: rest =>
    if isTrail n then .error .loneSurrogate
    else if isLead n then
      match rest with
      | .unit m :: rest =>
        if isTrail m then (spell fault rest).map (pairChar n m :: ·)
        else .error .loneSurrogate
      | .char _ :: _ => .error .unpairedSurrogate
      | [] =>
        match fault with
        | some .endOfString => .error .endOfString
        | some .invalidHex => .error .invalidHex
        | _ => .error .unpairedSurrogate
    else (spell fault rest).map (Char.ofNat n :: ·)

/-- Reads the body of a string, and what follows it. -/
def read (s : List Char) : Except Break String × List Char :=
  let (pieces, fault, rest) := split s
  match spell fault pieces with
  | .ok cs => (.ok (String.ofList cs), rest)
  | .error e => (.error ⟨e, fault⟩, rest)

end PodPlacement.JsonText
