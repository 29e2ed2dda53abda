/-!
# The calendar

Dates are those of the Gregorian calendar extended to all years, and day 0 is
1 January 1970. Everything rests on one function, the number of days before a
year: a common year has 365 days, every fourth year has one more, every
hundredth does not, every four-hundredth does. The year of a day is found from
an estimate that is at most one year off, and its month from the number of days
before each month.
-/

set_option autoImplicit false

namespace Docket

/-- A day of the Gregorian calendar. -/
structure Date where
  year : Int
  month : Nat
  day : Nat
  deriving DecidableEq, Repr

namespace Date

/-- A year of 366 days. -/
def isLeapYear (year : Int) : Bool :=
  year % 4 == 0 && (year % 100 != 0 || year % 400 == 0)

/-- The days from 1 January of year 0 to 1 January of a year. -/
def daysBeforeYear (year : Int) : Int :=
  365 * year + (year + 3) / 4 - (year + 99) / 100 + (year + 399) / 400

/-- The days of a year that come before a month of it. -/
def daysBeforeMonth (leap : Bool) (month : Nat) : Nat :=
  let extra := if leap then 1 else 0
  match month with
  | 0 => 0
  | 1 => 0
  | 2 => 31
  | 3 => 59 + extra
  | 4 => 90 + extra
  | 5 => 120 + extra
  | 6 => 151 + extra
  | 7 => 181 + extra
  | 8 => 212 + extra
  | 9 => 243 + extra
  | 10 => 273 + extra
  | 11 => 304 + extra
  | 12 => 334 + extra
  | _ => 365 + extra

/-- The number of days of a month. -/
def monthLength (leap : Bool) (month : Nat) : Nat :=
  daysBeforeMonth leap (month + 1) - daysBeforeMonth leap month

/-- The date exists in the calendar. -/
def isValid (date : Date) : Bool :=
  1 ≤ date.month && date.month ≤ 12 && 1 ≤ date.day &&
    date.day ≤ monthLength (isLeapYear date.year) date.month

/-- The days from year 0 to 1 January 1970. -/
def epochDay : Int := 719528

/-- The number of a day, counted from 1 January 1970. -/
def dayNumber (date : Date) : Int :=
  daysBeforeYear date.year + daysBeforeMonth (isLeapYear date.year) date.month +
    (date.day : Int) - 1 - epochDay

/-- The month that holds a day of the year, counted from 0. -/
def monthOf (leap : Bool) (dayOfYear : Nat) : Nat :=
  (List.range 12).foldl
    (fun month candidate =>
      if daysBeforeMonth leap (candidate + 1) ≤ dayOfYear then candidate + 1 else month) 1

/-- The year that holds a day counted from year 0. -/
def yearOf (day : Int) : Int :=
  let estimate := day * 400 / 146097
  if day < daysBeforeYear estimate then estimate - 1
  else if daysBeforeYear (estimate + 1) ≤ day then estimate + 1
  else estimate

/-- The date of a day counted from 1 January 1970. -/
def ofDayNumber (number : Int) : Date :=
  let day := number + epochDay
  let year := yearOf day
  let leap := isLeapYear year
  let dayOfYear := (day - daysBeforeYear year).toNat
  let month := monthOf leap dayOfYear
  ⟨year, month, dayOfYear - daysBeforeMonth leap month + 1⟩

end Date

end Docket
