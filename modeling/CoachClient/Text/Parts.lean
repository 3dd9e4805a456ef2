/-
CoachClient.Text.Parts — taking a text apart at marks.

* `parts` — what stands between the occurrences of a character.
* `cutAt` — what stands before the first occurrence of a character, and after it.
* `splitAfter` — everything up to and including the first element of a kind, and
  what follows it.
* `withoutLineEnd` — a line without the mark at its end.
* `firstParagraph` — everything before the first empty line.
-/

namespace CoachClient.Text

/-- The parts of a text between the occurrences of a character. -/
def parts (mark : Char) : List Char → List (List Char)
  | [] => [[]]
  | c :: cs =>
    if c = mark then [] :: parts mark cs
    else match parts mark cs with
      | [] => [[c]]
      | part :: rest => (c :: part) :: rest

/-- The text before the first occurrence of a character, and the text after it if
there is one. -/
def cutAt (mark : Char) (cs : List Char) : List Char × Option (List Char) :=
  match cs.dropWhile (· != mark) with
  | _ :: rest => (cs.takeWhile (· != mark), some rest)
  | [] => (cs, none)

/-- The elements up to and including the first one of a kind, and those that
follow it. -/
def splitAfter {α : Type} (isEnd : α → Bool) : List α → List α × List α
  | [] => ([], [])
  | a :: rest =>
    if isEnd a then ([a], rest)
    else
      let (upTo, after) := splitAfter isEnd rest
      (a :: upTo, after)

theorem length_splitAfter {α : Type} (isEnd : α → Bool) (as : List α) :
    (splitAfter isEnd as).1.length + (splitAfter isEnd as).2.length = as.length := by
  induction as with
  | nil => rfl
  | cons a as ih =>
    unfold splitAfter
    split
    · simp [Nat.add_comm]
    · simp only [List.length_cons, ← ih]
      omega

theorem splitAfter_cons_ne_nil {α : Type} (isEnd : α → Bool) (a : α) (as : List α) :
    (splitAfter isEnd (a :: as)).1 ≠ [] := by
  unfold splitAfter
  split <;> simp

/-- A line without its line feed and the carriage return before that. -/
def withoutLineEnd (line : List Char) : List Char :=
  match line.reverse with
  | '\n' :: '\r' :: rest => rest.reverse
  | '\n' :: rest => rest.reverse
  | _ => line

/-- What comes before the first empty line. -/
def firstParagraph : List Char → List Char
  | [] => []
  | '\n' :: '\n' :: _ => []
  | c :: rest => c :: firstParagraph rest

end CoachClient.Text
