/-
CoachClient.Shell.Words — the words of a typed line.

Words are parted by blanks. A piece of a word between two quotes of one kind
stands for what is between them; a quote of the other kind inside it is an
ordinary character, and so are blanks.

* `splitWords` — the words of a line, unless a quote is left open.
* `writeWords` — a line with given words: every character is quoted by itself,
  and an empty word is written as an empty pair of quotes.
-/
import CoachClient.Text.Blank

namespace CoachClient.Shell

open CoachClient.Text

/-- A quote is never closed. -/
inductive WordFault where
  | openQuote
  deriving DecidableEq, Repr

/-- The wording of the fault. -/
def WordFault.message : WordFault → String
  | .openQuote => "unterminated quote"

/-- The double quote. -/
def doubleQuote : Char := '"'

/-- The single quote. -/
def singleQuote : Char := '\x27'

/-- The character opens a quoted piece. -/
def isQuote (c : Char) : Bool := c == doubleQuote || c == singleQuote

/-- Where the reading of a line has got to; the characters of the word so far
are in reverse order. -/
inductive Place where
  | between
  | word (sofar : List Char)
  | quoted (mark : Char) (sofar : List Char)
  deriving DecidableEq, Repr

/-- The words from a place on. -/
def wordsFrom : Place → List Char → Except WordFault (List (List Char))
  | .between, [] => .ok []
  | .word sofar, [] => .ok [sofar.reverse]
  | .quoted _ _, [] => .error .openQuote
  | .between, c :: cs =>
    if isQuote c then wordsFrom (.quoted c []) cs
    else if isBlank c then wordsFrom .between cs
    else wordsFrom (.word [c]) cs
  | .word sofar, c :: cs =>
    if isQuote c then wordsFrom (.quoted c sofar) cs
    else if isBlank c then do
      let words ← wordsFrom .between cs
      .ok (sofar.reverse :: words)
    else wordsFrom (.word (c :: sofar)) cs
  | .quoted mark sofar, c :: cs =>
    if c = mark then wordsFrom (.word sofar) cs else wordsFrom (.quoted mark (c :: sofar)) cs

/-- The words of a line. -/
def splitWords (line : String) : Except WordFault (List String) :=
  (wordsFrom .between line.toList).map fun words => words.map String.ofList

/-- A character between quotes of the kind that it is not. -/
def quoteChar (c : Char) : List Char :=
  if c = doubleQuote then [singleQuote, c, singleQuote] else [doubleQuote, c, doubleQuote]

/-- A word between quotes. -/
def quoteWord (word : String) : List Char :=
  if word.isEmpty then [doubleQuote, doubleQuote] else word.toList.flatMap quoteChar

/-- A line with the given words. -/
def writeWords (words : List String) : String :=
  String.ofList (List.intercalate [' '] (words.map quoteWord))

end CoachClient.Shell
