/-!
# The Gregorian calendar

Days are numbered from 1 January 1970 in both directions. A year is counted here from March on, so
that the leap day comes last: then the months before a given one have `(153 * m + 2) / 5` days, and
the days of a whole 400-year era split into years without looking at months.
-/

namespace Gamebook

/-- A date of the Gregorian calendar, extended to all years. -/
structure Date where
  year : Int
  month : Nat
  day : Nat
  deriving Repr, DecidableEq

namespace Date

/-- The days of 400 years. -/
def daysPerEra : Int := 146097

/-- The days from 1 March of year 0 to 1 January 1970. -/
def daysToEpoch : Int := 719468

/-- Whether a year has a leap day. -/
def isLeap (year : Int) : Bool := year % 4 = 0 && (year % 100 ≠ 0 || year % 400 = 0)

/-- The number of days of a month; none for a number that names no month. -/
def daysInMonth (year : Int) (month : Nat) : Nat :=
  match month with
  | 1 | 3 | 5 | 7 | 8 | 10 | 12 => 31
  | 4 | 6 | 9 | 11 => 30
  | 2 => if isLeap year then 29 else 28
  | _ => 0

/-- Whether a date names a day. -/
def isValid (date : Date) : Bool :=
  1 ≤ date.day && date.day ≤ daysInMonth date.year date.month

/-- The days before a month of a year that begins in March (month 0). -/
def daysBeforeMonth (month : Nat) : Nat := (153 * month + 2) / 5

/-- The days before a year of an era. -/
def daysBeforeYear (yearOfEra : Nat) : Nat := yearOfEra * 365 + yearOfEra / 4 - yearOfEra / 100

/-- The number of a day. -/
def toDay (date : Date) : Int :=
  let year := if date.month ≤ 2 then date.year - 1 else date.year
  let dayOfYear := daysBeforeMonth ((date.month + 9) % 12) + date.day - 1
  year / 400 * daysPerEra + (daysBeforeYear (year % 400).toNat + dayOfYear : Nat) - daysToEpoch

/-- The date of a day. -/
def ofDay (n : Int) : Date :=
  let shifted := n + daysToEpoch
  let dayOfEra : Nat := (shifted % daysPerEra).toNat
  let yearOfEra : Nat :=
    (dayOfEra - dayOfEra / 1460 + dayOfEra / 36524 - dayOfEra / 146096) / 365
  let dayOfYear : Nat := dayOfEra - daysBeforeYear yearOfEra
  let marchMonth : Nat := (5 * dayOfYear + 2) / 153
  let month : Nat := if marchMonth < 10 then marchMonth + 3 else marchMonth - 9
  let year : Int := yearOfEra + shifted / daysPerEra * 400
  { year := if month ≤ 2 then year + 1 else year
    month
    day := dayOfYear - daysBeforeMonth marchMonth + 1 }

end Date

end Gamebook
