import PodPlacement.Json.Fault
import PodPlacement.Number.Layout

/-! # JSON numbers — literals and what they stand for

    A literal without point and exponent stands for a whole number when it fits
    into 64 bits.  Any other stands for a binary number: the digits that fit
    into 64 bits, scaled by a power of ten, each step rounded.  Minus zero is
    such a number too. -/

namespace PodPlacement

/-- A number literal: sign, digits before and after the point, exponent. -/
structure JsonNumber where
  negative : Bool
  whole : List Char
  places : List Char
  exponent : Option Int
  deriving DecidableEq

namespace JsonNumber

/-- The literal of a natural number. -/
def ofNat (n : Nat) : JsonNumber := ⟨false, Digits.shortest n, [], none⟩

/-- What a literal stands for. -/
inductive Value where
  | unsigned (n : Nat)
  /-- Below zero. -/
  | signed (n : Int)
  | float (x : SignedBinary)

/-- The bound of whole numbers. -/
def bound : Nat := UInt64.size

/-- Takes in digits as long as the number stays below the bound; the rest of the digits. -/
def absorb (n : Nat) : List Char → Nat × List Char
  | [] => (n, [])
  | c :: rest =>
    let next := 10 * n + Digits.ofChar c
    if next < bound then absorb next rest else (n, c :: rest)

/-- The binary number nearest to a power of ten. -/
def power? (n : Nat) : Option Binary64 := Binary64.ofRatio? (Digits.power n) 1

/-- A number of 64 bits times a power of ten, rounded at each step; `none` past the range. -/
def scale? (n : Nat) (exponent : Int) : Option Binary64 := do
  let x ← Binary64.ofRatio? n 1
  let down := (-exponent).toNat
  if 0 ≤ exponent then
    if n = 0 then return x
    guard (exponent ≤ 308)
    x.mul? (← power? exponent.toNat)
  else if down ≤ 308 then
    x.div? (← power? down)
  else if down ≤ 616 then
    -- The largest power of ten goes first.
    (← x.div? (← power? 308)).div? (← power? (down - 308))
  else
    Binary64.ofRatio? 0 1

/-- The binary number that a literal stands for. -/
def float? (literal : JsonNumber) : Option SignedBinary :=
  let (head, dropped) := absorb 0 literal.whole
  let (digits, left) := absorb head literal.places
  let exponent : Int :=
    literal.exponent.getD 0 + dropped.length - (literal.places.length - left.length : Nat)
  (scale? digits exponent).map (⟨literal.negative, ·⟩)

/-- What a literal stands for. -/
def value (literal : JsonNumber) : Except JsonFault Value :=
  let n := Digits.value literal.whole
  let float : Except JsonFault Value :=
    match literal.float? with
    | some x => .ok (.float x)
    | none => .error .numberOutOfRange
  if literal.places ≠ [] ∨ literal.exponent.isSome then float
  else if literal.negative then
    if 0 < n ∧ n ≤ bound / 2 then .ok (.signed (-(n : Int))) else float
  else if n < bound then .ok (.unsigned n)
  else float

/-- Splits off leading digits. -/
def digits (s : List Char) : List Char × List Char :=
  (s.takeWhile Char.isDigit, s.dropWhile Char.isDigit)

/-- The fault of a literal that stops before `s`. -/
def stop (s : List Char) : Break :=
  ⟨if s.isEmpty then .endOfValue else .invalidNumber, some .invalidNumber⟩

/-- Reads the exponent, after its letter. -/
def readExponent (s : List Char) : Except Break (Int × List Char) :=
  let (negative, s) := match s with
    | '-' :: rest => (true, rest)
    | '+' :: rest => (false, rest)
    | _ => (false, s)
  let (ds, rest) := digits s
  if ds.isEmpty then .error (stop s)
  else .ok (if negative then -(Digits.value ds : Int) else Digits.value ds, rest)

/-- Reads a literal after its sign, and what follows it. -/
def read (negative : Bool) (s : List Char) : Except Break (JsonNumber × List Char) := do
  let (whole, rest) := digits s
  if whole.isEmpty then throw (stop s)
  if whole.head? = some '0' ∧ 1 < whole.length then throw (.both .invalidNumber)
  let (places, rest) ← match rest with
    | '.' :: s =>
      let (places, rest) := digits s
      if places.isEmpty then throw (stop s)
      pure (places, rest)
    | _ => pure ([], rest)
  match rest with
  | c :: s =>
    if c = 'e' ∨ c = 'E' then
      let (exponent, rest) ← readExponent s
      return (⟨negative, whole, places, some exponent⟩, rest)
    else
      return (⟨negative, whole, places, none⟩, rest)
  | [] => return (⟨negative, whole, places, none⟩, [])

end JsonNumber

end PodPlacement
