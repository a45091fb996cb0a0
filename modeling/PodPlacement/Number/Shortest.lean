import PodPlacement.Number.Binary64
import PodPlacement.Number.Digits

/-! # Shortest decimals — the fewest digits that read back

    The decimals that round to a binary number form an interval around it, which
    holds its ends when the mantissa is even.  For one digit, two digits and so
    on up to seventeen, the two neighbours of the number on the grid of decimals
    with so many digits are tried; the first grid with a hit wins, and of two
    hits the nearer, on a tie the even one. -/

namespace PodPlacement

/-- The decimal `d.ddd * 10 ^ exponent`, its digits most significant first. -/
structure Decimal where
  digits : List Char
  exponent : Int

namespace Decimal

/-- An interval of quotients over one denominator. -/
structure Interval where
  low : Nat
  high : Nat
  den : Nat
  /-- The ends belong to it. -/
  closed : Bool

/-- Holds `n * 10 ^ place`. -/
def Interval.holds (i : Interval) (n : Nat) (place : Int) : Bool :=
  let value := n * Digits.power place.toNat * i.den
  let shift := Digits.power (-place).toNat
  if i.closed then i.low * shift ≤ value && value ≤ i.high * shift
  else i.low * shift < value && value < i.high * shift

/-- The interval of what rounds to a number. -/
def interval (x : Binary64) : Interval :=
  let unit := Binary64.power x.exponent.toNat
  -- Below a power of two the numbers lie twice as close.
  let below := if x.mantissa = Binary64.leastFull ∧ -1074 < x.exponent then 1 else 2
  ⟨(4 * x.mantissa - below) * unit, (4 * x.mantissa + 2) * unit, 4 * x.den,
   x.mantissa % 2 = 0⟩

/-- The power of ten of the first digit of a quotient that is not zero. -/
def leadingPlace (num den : Nat) : Int :=
  if den ≤ num then ((Digits.shortest (num / den)).length : Int) - 1
  else
    match (List.range 400).find? fun j => den ≤ num * Digits.power j with
    | some j => -(j : Int)
    | none => -400

/-- The nearest decimal in the interval on the grid of step `10 ^ place`. -/
def onGrid? (x : Binary64) (i : Interval) (place : Int) : Option Nat :=
  let n := x.num * Digits.power (-place).toNat
  let d := x.den * Digits.power place.toNat
  let floor := n / d
  let nearest := Binary64.roundDiv n d
  let other := if nearest = floor then floor + 1 else floor
  if 0 < nearest && i.holds nearest place then some nearest
  else if 0 < other && i.holds other place then some other
  else none

/-- The shortest decimal that rounds to a number other than zero. -/
def shortest (x : Binary64) : Decimal :=
  let i := interval x
  let lead := leadingPlace x.num x.den
  let hit := (List.range 17).findSome? fun (k : Nat) =>
    let place := lead - (k : Int)
    (onGrid? x i place).map fun n => (n, place)
  let (n, place) := hit.getD (0, lead)
  let digits := Digits.shortest n
  ⟨((digits.reverse.dropWhile (· = '0')).reverse), place + (digits.length : Int) - 1⟩

end Decimal

end PodPlacement
