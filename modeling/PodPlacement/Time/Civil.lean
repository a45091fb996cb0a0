/-! # Civil dates — the proleptic Gregorian calendar

    A `CivilDate` is a day that exists: its month has that day, in a year of
    the supported range.  `CivilDate.next` and `CivilDate.previous` step over
    the ends of months and years, and fail only at the ends of the range. -/

namespace PodPlacement

/-- Every fourth year is a leap year, save centuries that 400 does not divide. -/
def isLeapYear (year : Int) : Bool :=
  year % 4 = 0 && (year % 100 != 0 || year % 400 = 0)

/-- The number of days of a month. -/
def daysInMonth (year : Int) (month : Nat) : Nat :=
  if month = 2 then
    if isLeapYear year then 29 else 28
  else if month = 4 || month = 6 || month = 9 || month = 11 then 30
  else 31

namespace CivilDate

/-- The first year of the supported range. -/
def firstYear : Int := -262143

/-- The last year of the supported range. -/
def lastYear : Int := 262142

/-- A year, month and day that name a day of the supported range. -/
def Valid (year : Int) (month day : Nat) : Prop :=
  (firstYear ≤ year ∧ year ≤ lastYear) ∧ (1 ≤ month ∧ month ≤ 12)
    ∧ (1 ≤ day ∧ day ≤ daysInMonth year month)

instance (year : Int) (month day : Nat) : Decidable (Valid year month day) :=
  inferInstanceAs (Decidable (_ ∧ _ ∧ _))

end CivilDate

/-- A day of the calendar. -/
structure CivilDate where
  year : Int
  month : Nat
  day : Nat
  valid : CivilDate.Valid year month day
  deriving DecidableEq

namespace CivilDate

/-- The day with this year, month and day, if there is one. -/
def of? (year : Int) (month day : Nat) : Option CivilDate :=
  if h : Valid year month day then some ⟨year, month, day, h⟩ else none

/-- The day after. -/
def next (d : CivilDate) : Option CivilDate :=
  (of? d.year d.month (d.day + 1)).or
    ((of? d.year (d.month + 1) 1).or (of? (d.year + 1) 1 1))

/-- The day before. -/
def previous (d : CivilDate) : Option CivilDate :=
  (of? d.year d.month (d.day - 1)).or
    ((of? d.year (d.month - 1) (daysInMonth d.year (d.month - 1))).or
      (of? (d.year - 1) 12 31))

end CivilDate

end PodPlacement
