/-!
# The calendar

Dates of the Gregorian calendar, in both directions without end, and the number of days between them
and the start of 1970. Years are counted from the first of March, in cycles of four hundred years,
so that a leap day is the last of its year.
-/

namespace Courier

/-- A date of the Gregorian calendar. -/
structure Date where
  year : Int
  month : Nat
  day : Nat
  deriving DecidableEq, Repr

namespace Date

/-- The date this many days after the first of January 1970. -/
def ofDays (days : Int) : Date :=
  let shifted := days + 719468
  let cycle := shifted.fdiv 146097
  let day := (shifted.fmod 146097).toNat
  let year := (day - day / 1460 + day / 36524 - day / 146096) / 365
  let dayOfYear := day - (365 * year + year / 4 - year / 100)
  let month := (5 * dayOfYear + 2) / 153
  { year := cycle * 400 + year + (if 10 ≤ month then 1 else 0)
    month := if month < 10 then month + 3 else month - 9
    day := dayOfYear - (153 * month + 2) / 5 + 1 }

/-- The number of days from the first of January 1970 to a date. A day beyond the end of its month
    is one of the next month. -/
def days (date : Date) : Int :=
  let year := if date.month ≤ 2 then date.year - 1 else date.year
  365 * year + year.fdiv 4 - year.fdiv 100 + year.fdiv 400
    + ((153 * ((date.month + 9) % 12) + 2) / 5 : Nat) + date.day - 719469

end Date

end Courier
