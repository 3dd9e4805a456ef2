/-
CoachClient.Time.Instant — points in time, in UTC.

* `Instant` — a date, a second of the day and the nanoseconds after it. In a
  leap second, which can only follow the last second of a minute, the
  nanoseconds go on from a milliard to two milliards.
* `Instant.before` — the order in time.
* `Instant.minutesUntil` — whole minutes from one instant to another, rounded
  toward zero.
* `Instant.wire` — the form on the wire: date, `T`, time, as many of three, six
  or nine digits of a second as are needed, `Z`.
* `Instant.shown` — the form for people: `Mar 01, 2026 10:00`.
-/
import CoachClient.Text.Decimal
import CoachClient.Time.Date

namespace CoachClient.Time

open CoachClient.Text

/-- The nanoseconds of a second. -/
def nanosPerSecond : Nat := 1000000000

/-- The seconds of a day, leap seconds apart. -/
def secondsPerDay : Nat := 86400

/-- A second of the day and the nanoseconds after it: a leap second follows the
last second of a minute. -/
def isTimeOfDay (second nano : Nat) : Bool :=
  second < secondsPerDay && nano < 2 * nanosPerSecond
    && (nano < nanosPerSecond || second % 60 == 59)

/-- A point in time. -/
structure Instant where
  date : Date
  second : Nat
  nano : Nat
  exists_time : isTimeOfDay second nano = true
  deriving DecidableEq, Repr

/-- The instant with these parts, if there is such a time of day. -/
def Instant.of? (date : Date) (second nano : Nat) : Option Instant :=
  if h : isTimeOfDay second nano = true then some ⟨date, second, nano, h⟩ else none

/-- One instant is before another. -/
def Instant.before (a b : Instant) : Bool :=
  a.date.before b.date
    || (a.date == b.date
        && (a.second < b.second || (a.second == b.second && a.nano < b.nano)))

/-- The instant is inside a leap second. -/
def Instant.isLeap (t : Instant) : Bool := nanosPerSecond ≤ t.nano

/-- The leap second that lies between two times of a day and that their seconds
do not count: one more when the earlier time is in it. -/
def leapAdjustment (a b : Instant) : Int :=
  if a.second < b.second then (if a.isLeap then 1 else 0)
  else if b.second < a.second then (if b.isLeap then -1 else 0)
  else 0

/-- The nanoseconds from `a` to `b`. -/
def Instant.nanosUntil (a b : Instant) : Int :=
  ((b.date.dayNumber - a.date.dayNumber) * secondsPerDay
      + ((b.second : Int) - a.second) + leapAdjustment a b) * nanosPerSecond
    + ((b.nano : Int) - a.nano)

/-- The whole minutes from `a` to `b`, rounded toward zero. -/
def Instant.minutesUntil (a b : Instant) : Int :=
  (a.nanosUntil b).tdiv (60 * nanosPerSecond)

/-! ## Writing -/

/-- A year: four digits, and with a sign outside the years 0 to 9999. -/
def yearText (year : Int) : List Char :=
  if 0 ≤ year && year ≤ 9999 then padded 4 year.toNat
  else (if year < 0 then '-' else '+') :: padded 4 year.natAbs

/-- The digits of a second after the point: none, three, six or nine. -/
def fractionText (nano : Nat) : List Char :=
  if nano = 0 then []
  else if nano % 1000000 = 0 then '.' :: padded 3 (nano / 1000000)
  else if nano % 1000 = 0 then '.' :: padded 6 (nano / 1000)
  else '.' :: padded 9 nano

/-- A date as year, month and day. -/
def Date.text (d : Date) : List Char :=
  yearText d.year ++ '-' :: padded 2 d.month ++ '-' :: padded 2 d.day

/-- The form on the wire. -/
def Instant.wire (t : Instant) : String :=
  let sec := t.second % 60 + t.nano / nanosPerSecond
  String.ofList (t.date.text ++ 'T' :: padded 2 (t.second / 3600)
    ++ ':' :: padded 2 (t.second / 60 % 60) ++ ':' :: padded 2 sec
    ++ fractionText (t.nano % nanosPerSecond) ++ ['Z'])

/-- The three letters of a month. -/
def monthName (month : Nat) : List Char :=
  (match month with
    | 1 => "Jan" | 2 => "Feb" | 3 => "Mar" | 4 => "Apr" | 5 => "May" | 6 => "Jun"
    | 7 => "Jul" | 8 => "Aug" | 9 => "Sep" | 10 => "Oct" | 11 => "Nov" | _ => "Dec").toList

/-- The form for people. -/
def Instant.shown (t : Instant) : String :=
  String.ofList (monthName t.date.month ++ ' ' :: padded 2 t.date.day
    ++ ',' :: ' ' :: yearText t.date.year
    ++ ' ' :: padded 2 (t.second / 3600) ++ ':' :: padded 2 (t.second / 60 % 60))

end CoachClient.Time
