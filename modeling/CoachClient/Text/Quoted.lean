/-
CoachClient.Text.Quoted — a text as it is quoted in messages.

* `quotedChar` — one character: `\0`, `\t`, `\n`, `\r`, `\"` and `\\` have
  short escapes, a concealed character or another control is written by its
  code point in braces, and every other character stands for itself.
* `quoted` — a whole text between double quotes.
* `quotedList` — a list of texts between brackets, separated by `, `.
-/
import CoachClient.Text.Concealed

namespace CoachClient.Text

/-- A code point in braces, in lower case hexadecimal without leading zeros. -/
def codePointEscape (c : Char) : List Char :=
  ['\\', 'u', '{'] ++ Nat.toDigits 16 c.toNat ++ ['}']

/-- One character of a quoted text. -/
def quotedChar (c : Char) : List Char :=
  if c == '\x00' then ['\\', '0']
  else if c == '\t' then ['\\', 't']
  else if c == '\n' then ['\\', 'n']
  else if c == '\r' then ['\\', 'r']
  else if c == '"' then ['\\', '"']
  else if c == '\\' then ['\\', '\\']
  else if c.toNat < 0x20 || c.toNat == 0x7F || isConcealed c then codePointEscape c
  else [c]

/-- A text between double quotes, its characters escaped where needed. -/
def quoted (s : String) : String :=
  String.ofList ('"' :: s.toList.flatMap quotedChar ++ ['"'])

/-- A list of quoted texts between brackets. -/
def quotedList (ss : List String) : String :=
  "[" ++ String.intercalate ", " (ss.map quoted) ++ "]"

end CoachClient.Text
