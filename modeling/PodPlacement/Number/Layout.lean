import PodPlacement.Number.Shortest

/-! # Number layouts — how the digits of a number are written

    A layout says which numbers are written positionally, and how an exponent
    looks.  A positional number always has a point and a place after it. -/

namespace PodPlacement

/-- A number with a sign. -/
structure SignedBinary where
  negative : Bool
  magnitude : Binary64
  deriving DecidableEq

/-- The decisions of a number format. -/
structure Layout where
  /-- The leading places of numbers that are written positionally. -/
  positional : Int → Bool
  /-- An exponent that is not negative carries a plus sign. -/
  plus : Bool

namespace Layout

/-- Digits with a point before those of negative places. -/
def positionalText (d : Decimal) : List Char :=
  if d.exponent < 0 then
    '0' :: '.' :: List.replicate (-d.exponent - 1).toNat '0' ++ d.digits
  else
    let whole := d.exponent.toNat + 1
    let zeros := List.replicate (whole - d.digits.length) '0'
    let places := d.digits.drop whole
    d.digits.take whole ++ zeros ++ '.' :: (if places.isEmpty then ['0'] else places)

/-- One digit, a point if more follow, and an exponent. -/
def exponentText (layout : Layout) (d : Decimal) : List Char :=
  let mantissa := match d.digits with
    | [] => ['0']
    | [c] => [c]
    | c :: rest => c :: '.' :: rest
  let sign := if d.exponent < 0 then ['-'] else if layout.plus then ['+'] else []
  mantissa ++ 'e' :: sign ++ Digits.shortest d.exponent.natAbs

/-- A number in its shortest digits. -/
def text (layout : Layout) (x : SignedBinary) : String :=
  let sign := if x.negative then ['-'] else []
  let body :=
    if x.magnitude.mantissa = 0 then ['0', '.', '0']
    else
      let d := Decimal.shortest x.magnitude
      if layout.positional d.exponent then positionalText d else layout.exponentText d
  String.ofList (sign ++ body)

/-- Positional always. -/
def plain : Layout := ⟨fun _ => true, false⟩

/-- Positional from `10 ^ -5` up to sixteen digits. -/
def compact : Layout := ⟨fun place => -5 ≤ place && place ≤ 15, false⟩

/-- Positional from `10 ^ -5` up to sixteen digits; every exponent carries a sign. -/
def signed : Layout := ⟨fun place => -5 ≤ place && place ≤ 15, true⟩

end Layout

end PodPlacement
