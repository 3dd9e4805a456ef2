/-
CoachClient.Text.Blank — blank characters and the removal of blanks at the ends
of a text.

* `isBlank` — the characters with the Unicode property White_Space. It is a
  fixed set of twenty-five characters; the zero-width ones (U+200B, U+FEFF) are
  not in it.
* `trimEnd`, `trim` — drop the blanks at the end or at both ends.
* `allBlank` — nothing but blanks. This is the notion of "blank credential",
  "blank title" and "blank variable" everywhere in the library.
-/

namespace CoachClient.Text

/-- The character has the Unicode property White_Space. -/
def isBlank (c : Char) : Bool :=
  let n := c.toNat
  (9 ≤ n && n ≤ 13) || n == 0x20 || n == 0x85 || n == 0xA0 || n == 0x1680
    || (0x2000 ≤ n && n ≤ 0x200A) || n == 0x2028 || n == 0x2029 || n == 0x202F
    || n == 0x205F || n == 0x3000

/-- Every character is blank; the empty text counts as blank. -/
def allBlank (s : String) : Bool := s.toList.all isBlank

/-- Drop what satisfies `p` from the end of a list. -/
def dropEndWhile {α : Type} (p : α → Bool) (xs : List α) : List α :=
  (xs.reverse.dropWhile p).reverse

/-- A text without its trailing blanks. -/
def trimEnd (s : String) : String := String.ofList (dropEndWhile isBlank s.toList)

/-- A text without the blanks at both ends. -/
def trim (s : String) : String :=
  String.ofList (dropEndWhile isBlank (s.toList.dropWhile isBlank))

end CoachClient.Text
