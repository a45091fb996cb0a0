import PodPlacement.Number.Digits

/-! # Spans — lengths of time

    A span is a number of nanoseconds.  It is written in the largest unit of
    which it holds at least one, with the exact decimal fraction.  Timers count
    ticks of a millisecond, so a span ends with the first tick that does not
    come before its end. -/

namespace PodPlacement

/-- A length of time. -/
structure Span where
  nanoseconds : Nat
  deriving DecidableEq

namespace Span

/-- So many milliseconds. -/
def ofMilliseconds (n : Nat) : Span := ⟨n * 1000000⟩

/-- The number of ticks after which the span is over. -/
def ticks (span : Span) : Nat :=
  (span.nanoseconds + 999999) / 1000000

/-- The digits of a fraction of `places` places without the zeros at its end. -/
def fraction (places n : Nat) : List Char :=
  ((Digits.fixed places n).reverse.dropWhile (· = '0')).reverse

/-- A number of units of `10 ^ places` parts each, as a decimal number. -/
def decimal (places n : Nat) : List Char :=
  let whole := Digits.shortest (n / Digits.power places)
  match fraction places n with
  | [] => whole
  | digits => whole ++ '.' :: digits

/-- The decimal places of a unit in nanoseconds, and its sign. -/
def unit (span : Span) : Nat × String :=
  if 1000000000 ≤ span.nanoseconds then (9, "s")
  else if 1000000 ≤ span.nanoseconds then (6, "ms")
  else if 1000 ≤ span.nanoseconds then (3, "µs")
  else (0, "ns")

/-- The written form. -/
def text (span : Span) : String :=
  let (places, sign) := span.unit
  String.ofList (decimal places span.nanoseconds) ++ sign

/-- The written form of a span that may be missing. -/
def optionText : Option Span → String
  | none => "None"
  | some span => "Some(" ++ span.text ++ ")"

end Span

end PodPlacement
