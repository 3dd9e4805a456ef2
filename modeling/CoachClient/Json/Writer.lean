/-
CoachClient.Json.Writer — the JSON text of a value.

* `floatText` — a floating point number: the fewest digits that read back,
  positional when the first digit stands at one of the places from ten to the
  minus fifth to ten to the fifteenth, and then always with a digit after the
  point; with a signed exponent otherwise.
* `quote` — a text between double quotes: the two characters that have to be
  escaped, the controls below U+0020, and all else raw.
* `Value.compact` — without any blanks.
* `Value.pretty` — one member or item a line, indented by two blanks a level;
  an empty list or object stays on its line.
-/
import CoachClient.Json.Value
import CoachClient.Number.Shortest
import CoachClient.Text.Decimal

namespace CoachClient.Json

open CoachClient.Number CoachClient.Text

/-! ## 1. Numbers -/

/-- The text of a non-negative floating point number. -/
def magnitudeText (x : Magnitude) : List Char :=
  let s := binary64.shortest x
  if -5 ≤ s.exponent && s.exponent ≤ 15 then
    let (whole, fraction) := s.positional
    whole ++ '.' :: (if fraction.isEmpty then ['0'] else fraction)
  else
    let mantissa := match s.digits with
      | [] => ['0']
      | [d] => [d]
      | d :: ds => d :: '.' :: ds
    let sign := if s.exponent < 0 then '-' else '+'
    mantissa ++ 'e' :: sign :: digits s.exponent.natAbs

/-- The text of a floating point number. -/
def floatText (negative : Bool) (x : Magnitude) : List Char :=
  if negative then '-' :: magnitudeText x else magnitudeText x

/-- The text of a number. -/
def Number.text : Number → List Char
  | .int i => signed i
  | .float negative x => floatText negative x

/-! ## 2. Texts -/

/-- A hexadecimal digit in lower case. -/
def hexDigit (n : Nat) : Char :=
  if n < 10 then Char.ofNat (0x30 + n) else Char.ofNat (0x61 + (n - 10))

/-- One character inside a quoted text. -/
def escapeChar (c : Char) : List Char :=
  if c == '"' then ['\\', '"']
  else if c == '\\' then ['\\', '\\']
  else if c == '\x08' then ['\\', 'b']
  else if c == '\x0c' then ['\\', 'f']
  else if c == '\n' then ['\\', 'n']
  else if c == '\r' then ['\\', 'r']
  else if c == '\t' then ['\\', 't']
  else if c.toNat < 0x20 then
    ['\\', 'u', '0', '0', hexDigit (c.toNat / 16), hexDigit (c.toNat % 16)]
  else [c]

/-- A text between double quotes. -/
def quote (s : String) : List Char := '"' :: s.toList.flatMap escapeChar ++ ['"']

/-! ## 3. Compact form -/

mutual

/-- The characters of a value without blanks. -/
def Value.compactChars : Value → List Char
  | .null => ['n', 'u', 'l', 'l']
  | .bool true => ['t', 'r', 'u', 'e']
  | .bool false => ['f', 'a', 'l', 's', 'e']
  | .number n => n.text
  | .text s => quote s
  | .list items => '[' :: compactItems items
  | .object members => '{' :: compactMembers members

/-- The items of a list with the closing bracket. -/
def compactItems : List Value → List Char
  | [] => [']']
  | [v] => v.compactChars ++ [']']
  | v :: vs => v.compactChars ++ ',' :: compactItems vs

/-- The members of an object with the closing brace. -/
def compactMembers : List (String × Value) → List Char
  | [] => ['}']
  | [(k, v)] => quote k ++ ':' :: v.compactChars ++ ['}']
  | (k, v) :: rest => quote k ++ ':' :: v.compactChars ++ ',' :: compactMembers rest

end

/-- The text of a value without blanks. -/
def Value.compact (v : Value) : String := String.ofList v.compactChars

/-! ## 4. Indented form -/

/-- The start of a line at a level of indentation. -/
def newline (level : Nat) : List Char := '\n' :: List.replicate (2 * level) ' '

mutual

/-- The characters of a value whose brackets stand at `level`. -/
def Value.prettyChars (level : Nat) : Value → List Char
  | .null => ['n', 'u', 'l', 'l']
  | .bool true => ['t', 'r', 'u', 'e']
  | .bool false => ['f', 'a', 'l', 's', 'e']
  | .number n => n.text
  | .text s => quote s
  | .list [] => ['[', ']']
  | .list (v :: vs) => '[' :: prettyItems level (v :: vs)
  | .object [] => ['{', '}']
  | .object (m :: ms) => '{' :: prettyMembers level (m :: ms)

/-- The items of a list, each on its line, with the closing bracket. -/
def prettyItems (level : Nat) : List Value → List Char
  | [] => newline level ++ [']']
  | [v] => newline (level + 1) ++ v.prettyChars (level + 1) ++ newline level ++ [']']
  | v :: vs => newline (level + 1) ++ v.prettyChars (level + 1) ++ ',' :: prettyItems level vs

/-- The members of an object, each on its line, with the closing brace. -/
def prettyMembers (level : Nat) : List (String × Value) → List Char
  | [] => newline level ++ ['}']
  | [(k, v)] =>
    newline (level + 1) ++ quote k ++ ':' :: ' ' :: v.prettyChars (level + 1)
      ++ newline level ++ ['}']
  | (k, v) :: rest =>
    newline (level + 1) ++ quote k ++ ':' :: ' ' :: v.prettyChars (level + 1)
      ++ ',' :: prettyMembers level rest

end

/-- The text of a value with one member or item a line. -/
def Value.pretty (v : Value) : String := String.ofList (v.prettyChars 0)

end CoachClient.Json
