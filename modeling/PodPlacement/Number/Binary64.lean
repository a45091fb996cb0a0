import PodPlacement.Number.Digits

/-! # Binary floating point — 53 bits, rounded to nearest

    A number is a mantissa of at most 53 bits times a power of two no less than
    `2 ^ -1074`.  Every operation rounds its exact result once, a half to the
    even neighbour; a result that would need a power above `2 ^ 971` is no
    number.  Signs are kept apart. -/

namespace PodPlacement

/-- The number `mantissa * 2 ^ exponent`. -/
structure Binary64 where
  mantissa : Nat
  exponent : Int
  deriving DecidableEq

namespace Binary64

/-- Two to the power of `n`. -/
def power (n : Nat) : Nat := Nat.pow 2 n

/-- The least mantissa of 53 bits. -/
def leastFull : Nat := power 52

/-- A quotient rounded to nearest, a half to even. -/
def roundDiv (num den : Nat) : Nat :=
  let q := num / den
  let twice := 2 * (num % den)
  if den < twice ∨ (twice = den ∧ q % 2 = 1) then q + 1 else q

/-- The quotient of two numbers shifted by powers of two that make both whole. -/
def scaled (num den : Nat) (exponent : Int) : Nat × Nat :=
  (num * power (-exponent).toNat, den * power exponent.toNat)

/-- The power of two under which a quotient has 53 bits, or the least there is. -/
def exponentOf (num den : Nat) : Int :=
  let guess : Int := (Nat.log2 num : Int) - (Nat.log2 den : Int) - 52
  let (n, d) := scaled num den guess
  max (-1074) (if n < d * leastFull then guess - 1 else guess)

/-- The number nearest to a quotient, unless it is out of range. -/
def ofRatio? (num den : Nat) : Option Binary64 :=
  if num = 0 then some ⟨0, 0⟩
  else
    let exponent := exponentOf num den
    let (n, d) := scaled num den exponent
    let mantissa := roundDiv n d
    let rounded : Binary64 :=
      if mantissa = 2 * leastFull then ⟨leastFull, exponent + 1⟩ else ⟨mantissa, exponent⟩
    if rounded.exponent ≤ 971 then some rounded else none

/-- Above the point. -/
def num (x : Binary64) : Nat := x.mantissa * power x.exponent.toNat

/-- Below the point; the number is the quotient of the two. -/
def den (x : Binary64) : Nat := power (-x.exponent).toNat

/-- The number nearest to a product. -/
def mul? (x y : Binary64) : Option Binary64 :=
  ofRatio? (x.num * y.num) (x.den * y.den)

/-- The number nearest to a quotient. -/
def div? (x y : Binary64) : Option Binary64 :=
  ofRatio? (x.num * y.den) (x.den * y.num)

/-- The number nearest to `n * 10 ^ exponent`; what lies far out of range is not computed. -/
def ofDecimal? (n : Nat) (exponent : Int) : Option Binary64 :=
  let bits : Int := Nat.log2 n + 1
  if n = 0 ∨ exponent + bits < -330 then ofRatio? 0 1
  else if 310 < exponent then none
  else ofRatio? (n * Digits.power exponent.toNat) (Digits.power (-exponent).toNat)

/-- The whole number that this is, if it is one. -/
def toNat? (x : Binary64) : Option Nat :=
  if x.num % x.den = 0 then some (x.num / x.den) else none

end Binary64

end PodPlacement
