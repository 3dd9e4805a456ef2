/-
CoachClient.Time.Date — days of the proleptic Gregorian calendar.

* `isLeapYear`, `daysInMonth` — the calendar rules.
* `Date` — a day that exists, within the years from −262143 to 262142.
* `Date.next?`, `Date.previous?` — the neighbouring days, unless they leave that
  range.
* `Date.dayNumber` — the count of days since the first of January of the year
  zero; distances between dates are differences of it.
-/

namespace CoachClient.Time

/-- A leap year: every fourth, but of the full centuries only every fourth. -/
def isLeapYear (year : Int) : Bool :=
  year % 4 == 0 && (year % 100 != 0 || year % 400 == 0)

/-- The number of days of a month; zero when there is no such month. -/
def daysInMonth (year : Int) (month : Nat) : Nat :=
  match month with
  | 1 | 3 | 5 | 7 | 8 | 10 | 12 => 31
  | 4 | 6 | 9 | 11 => 30
  | 2 => if isLeapYear year then 29 else 28
  | _ => 0

/-- The first year of the calendar. -/
def minYear : Int := -262143

/-- The last year of the calendar. -/
def maxYear : Int := 262142

/-- The day exists and its year is within the calendar. -/
def isDate (year : Int) (month day : Nat) : Bool :=
  minYear ≤ year && year ≤ maxYear && 1 ≤ day && day ≤ daysInMonth year month

/-- A day of the calendar. -/
structure Date where
  year : Int
  month : Nat
  day : Nat
  exists_day : isDate year month day = true
  deriving DecidableEq, Repr

/-- The day with these numbers, if it exists. -/
def Date.of? (year : Int) (month day : Nat) : Option Date :=
  if h : isDate year month day = true then some ⟨year, month, day, h⟩ else none

/-- The day after. -/
def Date.next? (d : Date) : Option Date :=
  if d.day < daysInMonth d.year d.month then Date.of? d.year d.month (d.day + 1)
  else if d.month < 12 then Date.of? d.year (d.month + 1) 1
  else Date.of? (d.year + 1) 1 1

/-- The day before. -/
def Date.previous? (d : Date) : Option Date :=
  if 1 < d.day then Date.of? d.year d.month (d.day - 1)
  else if 1 < d.month then Date.of? d.year (d.month - 1) (daysInMonth d.year (d.month - 1))
  else Date.of? (d.year - 1) 12 31

/-- The number of days of a year before a month begins. -/
def daysBeforeMonth (year : Int) : Nat → Nat
  | 0 => 0
  | month + 1 => daysBeforeMonth year month + daysInMonth year month

/-- The number of days before a year begins, counted from the year zero. -/
def daysBeforeYear (year : Int) : Int :=
  let y := year - 1
  365 * year + y / 4 - y / 100 + y / 400 + 1

/-- The count of days since the first of January of the year zero. -/
def Date.dayNumber (d : Date) : Int :=
  daysBeforeYear d.year + daysBeforeMonth d.year d.month + (d.day : Int) - 1

/-- One date is before another. -/
def Date.before (a b : Date) : Bool :=
  a.year < b.year
    || (a.year == b.year && (a.month < b.month || (a.month == b.month && a.day < b.day)))

end CoachClient.Time
