/-
CoachClient.Json.Failure — why a JSON text cannot be read as what was asked for.

* `Found` — the kind of value that stood where another was expected.
* `Cause` — the reasons, first those of the notation (a missing comma, a bad
  escape), then those of the expected shape (a wrong type, a missing member).
* `Cause.message` — the wording of a reason.
* `Position.ofIndex` — the line and the column of a byte offset.
* `Failure` — a reason with the offset it is reported at, if it has one.
* `Fault` — a reason with its position in the text that was read, and
  `Fault.message`, its wording.
-/
import CoachClient.Json.Writer
import CoachClient.Text.Quoted

namespace CoachClient.Json

open CoachClient.Number CoachClient.Text

/-! ## 1. Reasons -/

/-- What stood in the text where something else was expected. -/
inductive Found where
  | null
  | bool (b : Bool)
  | int (i : Int)
  | float (negative : Bool) (magnitude : Magnitude)
  | text (s : String)
  | list
  | object
  deriving Repr, DecidableEq

/-- The wording of what was found. -/
def Found.describe : Found → String
  | .null => "null"
  | .bool true => "boolean `true`"
  | .bool false => "boolean `false`"
  | .int i => "integer `" ++ String.ofList (signed i) ++ "`"
  | .float negative x => "floating point `" ++ String.ofList (floatText negative x) ++ "`"
  | .text s => "string " ++ quoted s
  | .list => "sequence"
  | .object => "map"

/-- Why reading fails. -/
inductive Cause where
  | endInValue
  | endInText
  | endInList
  | endInObject
  | expectedValue
  | expectedWord
  | expectedColon
  | expectedListEnd
  | expectedObjectEnd
  | keyMustBeText
  | trailingComma
  | trailingCharacters
  | invalidNumber
  | numberOutOfRange
  | invalidEscape
  | controlInText
  | loneSurrogate
  | unfinishedSurrogate
  | invalidCodePoint
  | tooDeep
  | wrongType (found : Found) (expected : String)
  | wrongValue (found : Found) (expected : String)
  | wrongLength (length : Nat) (expected : String)
  | missing (field : String)
  | repeated (field : String)
  | invalidContent (reason : String)
  deriving Repr, DecidableEq

/-- The wording of a reason. -/
def Cause.message : Cause → String
  | .endInValue => "EOF while parsing a value"
  | .endInText => "EOF while parsing a string"
  | .endInList => "EOF while parsing a list"
  | .endInObject => "EOF while parsing an object"
  | .expectedValue => "expected value"
  | .expectedWord => "expected ident"
  | .expectedColon => "expected `:`"
  | .expectedListEnd => "expected `,` or `]`"
  | .expectedObjectEnd => "expected `,` or `\x7d`"
  | .keyMustBeText => "key must be a string"
  | .trailingComma => "trailing comma"
  | .trailingCharacters => "trailing characters"
  | .invalidNumber => "invalid number"
  | .numberOutOfRange => "number out of range"
  | .invalidEscape => "invalid escape"
  | .controlInText => "control character (\\u0000-\\u001F) found while parsing a string"
  | .loneSurrogate => "lone leading surrogate in hex escape"
  | .unfinishedSurrogate => "unexpected end of hex escape"
  | .invalidCodePoint => "invalid unicode code point"
  | .tooDeep => "recursion limit exceeded"
  | .wrongType found expected => "invalid type: " ++ found.describe ++ ", expected " ++ expected
  | .wrongValue found expected => "invalid value: " ++ found.describe ++ ", expected " ++ expected
  | .wrongLength length expected =>
    "invalid length " ++ String.ofList (digits length) ++ ", expected " ++ expected
  | .missing field => "missing field `" ++ field ++ "`"
  | .repeated field => "duplicate field `" ++ field ++ "`"
  | .invalidContent reason => reason

/-! ## 2. Positions -/

/-- A line, counted from one, and a column. -/
structure Position where
  line : Nat
  column : Nat
  deriving Repr, DecidableEq

/-- The position after one more byte: a line feed starts a new line at column
zero. -/
def Position.advance (p : Position) (b : UInt8) : Position :=
  if b = 0x0A then ⟨p.line + 1, 0⟩ else ⟨p.line, p.column + 1⟩

/-- The position reached after the first `index` bytes. -/
def Position.ofIndex (input : List UInt8) (index : Nat) : Position :=
  (input.take index).foldl Position.advance ⟨1, 0⟩

/-- A reason and the offset it is reported at. A failure to make something of a
value that was not read from a text has no offset. -/
structure Failure where
  cause : Cause
  offset : Option Nat
  deriving Repr, DecidableEq

/-- A reason and the position it is reported at. -/
structure Fault where
  cause : Cause
  position : Option Position
  deriving Repr, DecidableEq

/-- A failure with its place in the text that was read. -/
def Failure.fault (input : List UInt8) (f : Failure) : Fault :=
  ⟨f.cause, f.offset.map (Position.ofIndex input)⟩

/-- The wording of a fault. -/
def Fault.message (f : Fault) : String :=
  match f.position with
  | none => f.cause.message
  | some p =>
    f.cause.message ++ " at line " ++ String.ofList (digits p.line)
      ++ " column " ++ String.ofList (digits p.column)

end CoachClient.Json
