/-
CoachClient.Time.Duration — spans of time.

* `Duration` — a whole number of nanoseconds.
* `Duration.secondsText` — the seconds as a decimal number: the seconds and the
  part of a second, each rounded to 32 bits and added in 32 bits, with the fewest
  digits that name the sum and without an exponent.
-/
import CoachClient.Number.Shortest
import CoachClient.Time.Instant

namespace CoachClient.Time

open CoachClient.Number

/-- A span of time in nanoseconds. -/
structure Duration where
  nanos : Nat
  deriving DecidableEq, Repr

namespace Duration

/-- A number of seconds. -/
def ofSeconds (n : Nat) : Duration := ⟨n * nanosPerSecond⟩

/-- A number of thousandths of a second. -/
def ofMillis (n : Nat) : Duration := ⟨n * 1000000⟩

/-- No time at all. -/
def isZero (d : Duration) : Bool := d.nanos == 0

/-- The whole seconds. -/
def seconds (d : Duration) : Nat := d.nanos / nanosPerSecond

/-- The nanoseconds beyond the whole seconds. -/
def subsecond (d : Duration) : Nat := d.nanos % nanosPerSecond

/-- The number of seconds in 32 bits. -/
def seconds32 (d : Duration) : Option Magnitude := do
  let whole ← binary32.round d.seconds 1
  let nanos ← binary32.round d.subsecond 1
  let unit ← binary32.round nanosPerSecond 1
  let part ← binary32.div nanos unit
  binary32.add whole part

/-- The number of seconds as a decimal number. -/
def secondsText (d : Duration) : List Char :=
  match d.seconds32 with
  | none => []
  | some x =>
    let (whole, fraction) := (binary32.shortest x).positional
    if fraction.isEmpty then whole else whole ++ '.' :: fraction

end Duration

end CoachClient.Time
