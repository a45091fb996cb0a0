import PodPlacement.Text.Blank
import PodPlacement.Time.Instant

/-! # Time stamps — reading instants leniently

    `Instant.ofText` reads what `Instant.text` writes and a good deal more:
    numbers need no padding, blanks may stand before numbers and before the
    separators, a blank or a small letter may stand for the `T`, the fraction
    may have any number of digits (nine count), and the clock may be named by
    `Z`, `UTC` or an offset.  The parts are read from left to right, and the
    first one that fails decides the fault. -/

namespace PodPlacement

/-- Why a text is no time stamp. -/
inductive StampFault where
  | malformed
  | outOfRange
  | tooShort
  | tooLong
  | impossible
  deriving DecidableEq

/-- The wording of a fault. -/
def StampFault.message : StampFault → String
  | .malformed => "input contains invalid characters"
  | .outOfRange => "input is out of range"
  | .tooShort => "premature end of input"
  | .tooLong => "trailing input"
  | .impossible => "no possible date and time matching input"

namespace Stamp

/-- Takes one part off the front of a text. -/
abbrev Part (α : Type) := StateT (List Char) (Except StampFault) α

/-- Skips blanks. -/
def blanks : Part Unit :=
  modify Text.dropBlanks

/-- Exactly this separator. -/
def separator (c : Char) : Part Unit := do
  match ← get with
  | [] => throw .tooShort
  | d :: rest => if d = c then set rest else throw .malformed

/-- Up to `most` digits, at least one, as a number. -/
def number (most : Nat) : Part Nat := do
  match ← get with
  | [] => throw .tooShort
  | s@(c :: _) =>
    if c.isDigit then
      let digits := (s.take most).takeWhile Char.isDigit
      set (s.drop digits.length)
      return Digits.value digits
    else
      throw .malformed

/-- A number that must lie between two bounds. -/
def bounded (most low high : Nat) : Part Nat := do
  blanks
  let n ← number most
  if low ≤ n ∧ n ≤ high then return n else throw .outOfRange

/-- A year; it must fit into 32 bits. -/
def fitting (n : Int) : Part Int :=
  if -0x80000000 ≤ n ∧ n < 0x80000000 then return n else throw .outOfRange

/-- A year: four digits at most, or a sign and any number of them. -/
def year : Part Int := do
  blanks
  match ← get with
  | '-' :: rest =>
    set rest
    fitting (-(← number rest.length : Nat))
  | '+' :: rest =>
    set rest
    fitting (← number rest.length)
  | _ => fitting (← number 4)

/-- The fraction of the second in nanoseconds; digits after the ninth are dropped. -/
def fraction : Part Nat := do
  match ← get with
  | '.' :: rest =>
    set rest
    let _ ← number 1
    let digits := rest.takeWhile Char.isDigit
    set (rest.drop digits.length)
    let kept := digits.take 9
    return Digits.value kept * Digits.power (9 - kept.length)
  | _ => return 0

/-- Two digits of an offset. -/
def pair : Part (Nat × Nat) := do
  match ← get with
  | a :: b :: rest =>
    if a.isDigit && b.isDigit then
      set rest
      return (Digits.ofChar a, Digits.ofChar b)
    else
      throw .malformed
  | [c] => throw (if 2 ≤ c.utf8Size then .malformed else .tooShort)
  | [] => throw .tooShort

/-- Hours and minutes of an offset, in minutes. -/
def offsetMinutes : Part Nat := do
  let (h₁, h₀) ← pair
  modify (List.dropWhile fun c => c = ':' || Text.isBlank c)
  let (m₁, m₀) ← pair
  if m₁ ≤ 5 then return 60 * (10 * h₁ + h₀) + 10 * m₁ + m₀ else throw .outOfRange

/-- The offset of the clock from UTC, in minutes. -/
def offset : Part Int := do
  match ← get with
  | [] => throw .tooShort
  | c :: rest =>
    set rest
    if c = 'Z' || c = 'z' then
      return 0
    else if c = '+' then
      return (← offsetMinutes : Nat)
    else if c = '-' || c = '\u2212' then
      return -(← offsetMinutes : Nat)
    else match c.toUpper, rest with
      | 'U', t :: u :: rest' =>
        if t.toUpper = 'T' && u.toUpper = 'C' then
          set rest'
          return 0
        else
          throw .malformed
      | _, _ => throw .malformed

/-- The `T` between date and time. -/
def divider : Part Unit := do
  match ← get with
  | [] => throw .tooShort
  | c :: rest => if c = 'T' || c = 't' || c = ' ' then set rest else throw .malformed

/-- A whole time stamp. -/
def instant : Part Instant := do
  let y ← year
  blanks
  separator '-'
  let month ← bounded 2 1 12
  blanks
  separator '-'
  let day ← bounded 2 1 31
  divider
  let hour ← bounded 2 0 23
  blanks
  separator ':'
  let minute ← bounded 2 0 59
  blanks
  separator ':'
  let second ← bounded 2 0 60
  let nanosecond ← fraction
  blanks
  let shift ← offset
  blanks
  unless (← get).isEmpty do throw .tooLong
  let some date := CivilDate.of? y month day | throw .outOfRange
  let some time := TimeOfDay.of? hour minute second nanosecond | throw .outOfRange
  unless shift.natAbs < 1440 do throw .outOfRange
  let some i := Instant.ofLocal date time shift | throw .impossible
  return i

end Stamp

namespace Instant

/-- The instant that a time stamp names. -/
def ofText (s : String) : Except StampFault Instant :=
  (Stamp.instant s.toList).map Prod.fst

end Instant

end PodPlacement
