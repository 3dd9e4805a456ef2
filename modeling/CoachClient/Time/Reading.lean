/-
CoachClient.Time.Reading — reading an instant from text.

The form is that of the wire with some freedom: blanks may stand before a
number, before a dash or colon and before the zone; a year may have any number
of digits when it has a sign; `t`, `T` or a blank parts date and time; a
fraction may have any number of digits, of which nine count; the zone is `Z`,
`UTC` or an offset of hours and minutes.

* `Fault` — why a text is not an instant, with `Fault.message`.
* `Instant.read` — the instant, in UTC.
-/
import CoachClient.Text.Blank
import CoachClient.Time.Instant

namespace CoachClient.Time

open CoachClient.Text

/-- Why a text is not an instant. -/
inductive Fault where
  | outOfRange
  | impossible
  | invalid
  | tooShort
  | tooLong
  deriving DecidableEq, Repr

/-- The wording of a fault. -/
def Fault.message : Fault → String
  | .outOfRange => "input is out of range"
  | .impossible => "no possible date and time matching input"
  | .invalid => "input contains invalid characters"
  | .tooShort => "premature end of input"
  | .tooLong => "trailing input"

/-! ## 1. Scanning -/

/-- Up to `max` further digits onto `acc`, within a signed word of 64 bits. -/
def scanDigits : (max : Nat) → (acc : Nat) → List Char → Except Fault (Nat × List Char)
  | 0, acc, cs => .ok (acc, cs)
  | _ + 1, acc, [] => .ok (acc, [])
  | max + 1, acc, c :: cs =>
    if isDigit c then
      let n := 10 * acc + digitValue c
      if n ≤ maxInt64 then scanDigits max n cs else .error .outOfRange
    else .ok (acc, c :: cs)

/-- A number of one to `max` digits. -/
def scanNumber (max : Nat) (cs : List Char) : Except Fault (Nat × List Char) :=
  match cs with
  | [] => .error .tooShort
  | c :: _ => if isDigit c then scanDigits max 0 cs else .error .invalid

/-- A number of one or two digits between two bounds, blanks before it allowed. -/
def scanPart (low high : Nat) (cs : List Char) : Except Fault (Nat × List Char) := do
  let (n, rest) ← scanNumber 2 (cs.dropWhile isBlank)
  if low ≤ n && n ≤ high then .ok (n, rest) else .error .outOfRange

/-- A separator, blanks before it allowed. -/
def scanMark (mark : Char) (cs : List Char) : Except Fault (List Char) :=
  match cs.dropWhile isBlank with
  | [] => .error .tooShort
  | c :: rest => if c = mark then .ok rest else .error .invalid

/-- A year: four digits at most, or any number of them after a sign. -/
def scanYear (cs : List Char) : Except Fault (Int × List Char) := do
  let (year, rest) ← match cs.dropWhile isBlank with
    | '-' :: ds => (scanNumber ds.length ds).map fun (n, rest) => (-(n : Int), rest)
    | '+' :: ds => (scanNumber ds.length ds).map fun (n, rest) => ((n : Int), rest)
    | ds => (scanNumber 4 ds).map fun (n, rest) => ((n : Int), rest)
  if -0x80000000 ≤ year && year < 0x80000000 then .ok (year, rest) else .error .outOfRange

/-- A fraction of a second in nanoseconds, if a point stands here. -/
def scanFraction (cs : List Char) : Except Fault (Nat × List Char) :=
  match cs with
  | '.' :: ds => do
    let (n, rest) ← scanNumber 9 ds
    .ok (n * Nat.pow 10 (9 - (ds.length - rest.length)), rest.dropWhile isDigit)
  | _ => .ok (0, cs)

/-- Exactly two digits. -/
def scanTwoDigits (cs : List Char) : Except Fault (Nat × Nat × List Char) :=
  match cs with
  | [] => .error .tooShort
  | [c] => if c.toNat < 0x80 then .error .tooShort else .error .invalid
  | c :: d :: rest =>
    if isDigit c && isDigit d then .ok (digitValue c, digitValue d, rest) else .error .invalid

/-- The offset of a zone in seconds, after its sign. -/
def scanOffset (cs : List Char) : Except Fault (Nat × List Char) := do
  let (h₁, h₂, rest) ← scanTwoDigits cs
  let rest := rest.dropWhile fun c => c == ':' || isBlank c
  let (m₁, m₂, rest) ← scanTwoDigits rest
  if m₁ ≤ 5 then .ok ((10 * h₁ + h₂) * 3600 + (10 * m₁ + m₂) * 60, rest)
  else .error .outOfRange

/-- A letter without its case, for the three letters of a zone. -/
def sameLetter (c upper : Char) : Bool := c == upper || c == Char.ofNat (upper.toNat + 32)

/-- A zone: the seconds that its clocks are ahead of UTC. -/
def scanZone (cs : List Char) : Except Fault (Int × List Char) :=
  match cs with
  | [] => .error .tooShort
  | 'Z' :: rest => .ok (0, rest)
  | 'z' :: rest => .ok (0, rest)
  | '+' :: rest => (scanOffset rest).map fun (s, r) => ((s : Int), r)
  | '-' :: rest => (scanOffset rest).map fun (s, r) => (-(s : Int), r)
  | '\u2212' :: rest => (scanOffset rest).map fun (s, r) => (-(s : Int), r)
  | a :: b :: c :: rest =>
    if sameLetter a 'U' && sameLetter b 'T' && sameLetter c 'C' then .ok (0, rest)
    else .error .invalid
  | _ => .error .invalid

/-! ## 2. Instants -/

/-- A local date and time with the offset of its zone, as an instant in UTC. -/
def Instant.ofLocal (date : Date) (second nano : Nat) (offset : Int) : Except Fault Instant :=
  if offset.natAbs < secondsPerDay then
    let moved := (second : Int) - offset
    let date? := if moved < 0 then date.previous?
      else if moved < secondsPerDay then some date
      else date.next?
    match date? with
    | none => .error .impossible
    | some d => match Instant.of? d (moved % secondsPerDay).toNat nano with
      | some t => .ok t
      | none => .error .outOfRange
  else .error .outOfRange

/-- The part of a text after date and separator: time of day and zone. The
second sixty is a leap second. -/
def scanTime (cs : List Char) : Except Fault (Nat × Nat × Int × List Char) := do
  let (hour, cs) ← scanPart 0 23 cs
  let cs ← scanMark ':' cs
  let (minute, cs) ← scanPart 0 59 cs
  let cs ← scanMark ':' cs
  let (second, cs) ← scanPart 0 60 cs
  let (nano, cs) ← scanFraction cs
  let (offset, cs) ← scanZone (cs.dropWhile isBlank)
  let (second, nano) := if second = 60 then (59, nano + nanosPerSecond) else (second, nano)
  .ok (hour * 3600 + minute * 60 + second, nano, offset, cs)

/-- Read an instant. -/
def Instant.read (s : String) : Except Fault Instant := do
  let (year, cs) ← scanYear s.toList
  let cs ← scanMark '-' cs
  let (month, cs) ← scanPart 1 12 cs
  let cs ← scanMark '-' cs
  let (day, cs) ← scanPart 1 31 cs
  let cs ← match cs with
    | [] => .error .tooShort
    | c :: rest => if c == 't' || c == 'T' || c == ' ' then .ok rest else .error .invalid
  let (second, nano, offset, cs) ← scanTime cs
  if !(cs.dropWhile isBlank).isEmpty then .error .tooLong
  else match Date.of? year month day with
    | none => .error .outOfRange
    | some date => Instant.ofLocal date second nano offset

end CoachClient.Time
