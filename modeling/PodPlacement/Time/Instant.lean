import PodPlacement.Number.Digits
import PodPlacement.Time.Civil

/-! # Instants — points in time, in UTC

    An instant is a day and a time of that day to the nanosecond.  Second 60
    is a leap second and may end any minute.  `Instant.text` writes
    `YYYY-MM-DDTHH:MM:SSZ`, with three, six or nine places of the second when
    it has them, and a sign on years outside 0 to 9999. -/

namespace PodPlacement

/-- A time of day; second 60 is a leap second. -/
structure TimeOfDay where
  hour : Nat
  minute : Nat
  second : Nat
  nanosecond : Nat
  valid : hour < 24 ∧ minute < 60 ∧ second ≤ 60 ∧ nanosecond < 1000000000
  deriving DecidableEq

namespace TimeOfDay

/-- The time of day with these parts, if there is one. -/
def of? (hour minute second nanosecond : Nat) : Option TimeOfDay :=
  if h : hour < 24 ∧ minute < 60 ∧ second ≤ 60 ∧ nanosecond < 1000000000 then
    some ⟨hour, minute, second, nanosecond, h⟩
  else
    none

/-- Minutes since midnight. -/
def minutes (t : TimeOfDay) : Nat :=
  60 * t.hour + t.minute

/-- The same second of another minute; minutes past a day wrap around. -/
def atMinute (t : TimeOfDay) (minutes : Nat) : TimeOfDay where
  hour := minutes / 60 % 24
  minute := minutes % 60
  second := t.second
  nanosecond := t.nanosecond
  valid := ⟨Nat.mod_lt _ (by decide), Nat.mod_lt _ (by decide), t.valid.2.2⟩

end TimeOfDay

/-- A point in time, in UTC. -/
structure Instant where
  date : CivilDate
  time : TimeOfDay
  deriving DecidableEq

namespace Instant

/-- The year, with a sign when four digits do not hold it. -/
def yearText (year : Int) : List Char :=
  if 0 ≤ year ∧ year ≤ 9999 then Digits.fixed 4 year.toNat
  else if year < 0 then '-' :: Digits.padded 4 year.natAbs
  else '+' :: Digits.padded 4 year.natAbs

/-- The places of the second: none, or three, six or nine, whichever is exact. -/
def fractionText (nanosecond : Nat) : List Char :=
  if nanosecond = 0 then []
  else if nanosecond % 1000000 = 0 then '.' :: Digits.fixed 3 (nanosecond / 1000000)
  else if nanosecond % 1000 = 0 then '.' :: Digits.fixed 6 (nanosecond / 1000)
  else '.' :: Digits.fixed 9 nanosecond

/-- The written form as characters. -/
def chars (i : Instant) : List Char :=
  yearText i.date.year ++ '-' :: Digits.fixed 2 i.date.month
    ++ '-' :: Digits.fixed 2 i.date.day ++ 'T' :: Digits.fixed 2 i.time.hour
    ++ ':' :: Digits.fixed 2 i.time.minute ++ ':' :: Digits.fixed 2 i.time.second
    ++ fractionText i.time.nanosecond ++ ['Z']

/-- The written form. -/
def text (i : Instant) : String :=
  String.ofList i.chars

/-- A local time as the instant it names, given the offset of its clock from
    UTC in minutes; `none` past the ends of the calendar. -/
def ofLocal (date : CivilDate) (time : TimeOfDay) (offset : Int) : Option Instant :=
  let minutes : Int := time.minutes - offset
  let utc := time.atMinute (minutes % 1440).toNat
  if minutes < 0 then date.previous.map (⟨·, utc⟩)
  else if minutes < 1440 then some ⟨date, utc⟩
  else date.next.map (⟨·, utc⟩)

end Instant

end PodPlacement
