/-
CoachClient.Text.Decimal — numbers in decimal notation.

* `digits` — the decimal digits of a natural number, most significant first,
  without leading zeros.
* `padded` — the same, filled with zeros on the left up to a width.
* `signed` — an integer with `-` in front when it is negative.
* `digitsValue` — the number a string of digits denotes.
* `readUnsigned`, `readSigned` — reading with a bound: an optional sign, at
  least one digit, nothing else, and the value within the bound. The scan goes
  from the left and reports the first fault it meets; the faults and their
  wording are `NumberFault` and `NumberFault.message`.
-/

namespace CoachClient.Text

/-! ## 1. Writing -/

/-- The decimal digits of a number, most significant first. -/
def digits (n : Nat) : List Char := Nat.toDigits 10 n

/-- The decimal digits of a number with zeros in front up to `width`. -/
def padded (width n : Nat) : List Char :=
  let ds := digits n
  List.replicate (width - ds.length) '0' ++ ds

/-- An integer in decimal notation. -/
def signed (i : Int) : List Char :=
  if i < 0 then '-' :: digits i.natAbs else digits i.natAbs

/-! ## 2. Reading -/

/-- An ASCII decimal digit. -/
def isDigit (c : Char) : Bool := '0' ≤ c && c ≤ '9'

/-- The value of an ASCII decimal digit. -/
def digitValue (c : Char) : Nat := c.toNat - '0'.toNat

/-- The number that a list of digits denotes. -/
def digitsValue (cs : List Char) : Nat :=
  cs.foldl (fun acc c => 10 * acc + digitValue c) 0

/-- Why a text is not a number within its bounds. -/
inductive NumberFault where
  | empty
  | invalidDigit
  | tooLarge
  | tooSmall
  deriving Repr, DecidableEq

/-- The wording of a number fault. -/
def NumberFault.message : NumberFault → String
  | .empty => "cannot parse integer from empty string"
  | .invalidDigit => "invalid digit found in string"
  | .tooLarge => "number too large to fit in target type"
  | .tooSmall => "number too small to fit in target type"

/-- Digits read from the left onto `acc`, none of the values on the way above
`max`: the first fault met is the one reported. -/
def readOnto (max : Nat) (acc : Nat) : List Char → Except NumberFault Nat
  | [] => .ok acc
  | c :: cs =>
    if isDigit c then
      let n := 10 * acc + digitValue c
      if n ≤ max then readOnto max n cs else .error .tooLarge
    else .error .invalidDigit

/-- A magnitude from 0 to `max`: at least one digit and nothing else. -/
def readMagnitude (max : Nat) (cs : List Char) : Except NumberFault Nat :=
  if cs.isEmpty then .error .invalidDigit else readOnto max 0 cs

/-- A number from 0 to `max`, with an optional `+` in front. -/
def readUnsigned (max : Nat) : List Char → Except NumberFault Nat
  | [] => .error .empty
  | '+' :: ds => readMagnitude max ds
  | ds => readMagnitude max ds

/-- A number from `-below` to `above`, with an optional sign in front. -/
def readSigned (below above : Nat) : List Char → Except NumberFault Int
  | [] => .error .empty
  | '-' :: ds =>
    match readMagnitude below ds with
    | .ok n => .ok (-(n : Int))
    | .error .tooLarge => .error .tooSmall
    | .error e => .error e
  | '+' :: ds => (readMagnitude above ds).map Int.ofNat
  | ds => (readMagnitude above ds).map Int.ofNat

/-- The largest value of an unsigned word of 32 bits. -/
def maxWord32 : Nat := 0xFFFFFFFF

/-- The largest value of an unsigned word of 64 bits. -/
def maxWord64 : Nat := 0xFFFFFFFFFFFFFFFF

/-- The magnitude of the smallest signed word of 64 bits. -/
def minInt64Magnitude : Nat := 0x8000000000000000

/-- The largest value of a signed word of 64 bits. -/
def maxInt64 : Nat := 0x7FFFFFFFFFFFFFFF

end CoachClient.Text
