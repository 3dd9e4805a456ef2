/-
CoachClient.Text.Visible — what a terminal shows of a text.

Control characters other than blanks are not shown, and neither are the
sequences that begin with an escape character and tell the terminal to do
something.

* `Shown` — where the reading of a text has got to: in plain text, or in one of
  the kinds of sequences.
* `Shown.step` — the state after a character, and whether it is shown.
* `visible` — the text that is shown.
-/

namespace CoachClient.Text

/-! ## 1. Characters -/

/-- A control character in ASCII. -/
def isControl (c : Char) : Bool := c.toNat < 0x20 || c.toNat == 0x7F

/-- A control character that is a blank. -/
def isControlBlank (c : Char) : Bool := c == '\t' || c == '\n' || c == '\r' || c == '\x0c'

/-- The two characters that call off a sequence. -/
def isCancel (c : Char) : Bool := c.toNat == 0x18 || c.toNat == 0x1A

/-! ## 2. Sequences -/

/-- Where the reading of a text has got to. -/
inductive Shown where
  | plain
  /-- After an escape character. -/
  | escape
  /-- After an escape character and some of the characters from the blank to the
  slash. -/
  | escapeMore
  /-- In a sequence that begins with an escape character and a bracket. -/
  | control
  /-- In a text for the terminal that a bell may end. -/
  | command
  /-- In a text for the terminal that only another escape character ends. -/
  | data
  deriving DecidableEq, Repr

/-- The state after a character that follows an escape character. -/
def afterEscape (c : Char) : Shown :=
  if c = '[' then .control
  else if c = ']' then .command
  else if c = 'P' || c = 'X' || c = '^' || c = '_' then .data
  else if ' ' ≤ c && c ≤ '/' then .escapeMore
  else .plain

/-- The state after a character in a short sequence, whose control characters are
carried out at once; a blank among them ends the sequence. -/
def inSequence (s : Shown) (c : Char) (next : Shown) : Shown × Bool :=
  if isControlBlank c then (.plain, true)
  else if isControl c then (s, false)
  else (next, false)

/-- The state after a character, and whether the character is shown. Characters
outside ASCII are always shown. -/
def Shown.step (s : Shown) (c : Char) : Shown × Bool :=
  if 0x80 ≤ c.toNat then (.plain, true)
  else if c.toNat = 0x1B then (.escape, false)
  else if isCancel c then (.plain, false)
  else match s with
    | .plain => (.plain, !isControl c || isControlBlank c)
    | .escape => inSequence s c (afterEscape c)
    | .escapeMore => inSequence s c (if ' ' ≤ c && c ≤ '/' then .escapeMore else .plain)
    | .control => inSequence s c (if '@' ≤ c then .plain else .control)
    | .command => (if c.toNat = 7 then .plain else .command, false)
    | .data => (.data, false)

/-- The characters that are shown. -/
def visibleFrom : Shown → List Char → List Char
  | _, [] => []
  | s, c :: cs =>
    let (s', isShown) := s.step c
    if isShown then c :: visibleFrom s' cs else visibleFrom s' cs

/-- What a terminal shows of a text. -/
def visible (s : String) : String := String.ofList (visibleFrom .plain s.toList)

end CoachClient.Text
