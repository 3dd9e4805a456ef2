/-
CoachClient.Text.Causes — a failure told as a chain of causes, the outermost
first.

* `Causes.inline` — the chain on one line.
* `Causes.block` — the outermost on a line of its own and the others below it,
  indented, and numbered from zero when there are several.
-/
import CoachClient.Text.Decimal
import CoachClient.Text.Parts

namespace CoachClient.Text

/-- A chain of causes, the outermost first. -/
abbrev Causes := List String

namespace Causes

/-- The chain on one line. -/
def inline (cs : Causes) : String := ": ".intercalate cs

/-- Blanks. -/
def blanks (n : Nat) : List Char := List.replicate n ' '

/-- A number at the right end of five columns, with a colon. -/
def numberColumn (n : Nat) : List Char :=
  let ds := digits n
  blanks (5 - ds.length) ++ ds ++ [':', ' ']

/-- A cause with what stands before its first line and before each later one. -/
def indented (first later : List Char) (cause : String) : List Char :=
  match parts '\n' cause.toList with
  | [] => first
  | line :: lines => first ++ line ++ lines.flatMap fun l => '\n' :: later ++ l

/-- Causes one below the other, numbered from `n`. -/
def numbered (n : Nat) : List String → List Char
  | [] => []
  | cause :: rest => '\n' :: indented (numberColumn n) (blanks 7) cause ++ numbered (n + 1) rest

/-- The chain on several lines. -/
def block : Causes → String
  | [] => ""
  | [cause] => cause
  | [cause, below] =>
    cause ++ "\n\nCaused by:\n" ++ String.ofList (indented (blanks 4) (blanks 4) below)
  | cause :: below => cause ++ "\n\nCaused by:" ++ String.ofList (numbered 0 below)

end Causes

end CoachClient.Text
