/-
CoachClient.Display.Text — the small texts that tables and details are made of.

* `shorten` — a text cut to a number of characters, three dots included.
* `price` — an amount in hundredths with its currency; `free` for nothing.
* `duration` — minutes, and hours from one hour on.
* `leftColumn`, `rightColumn` — a text filled with blanks up to a width.
-/
import CoachClient.Text.Decimal

namespace CoachClient.Display

open CoachClient.Text

/-- A text of at most `width` characters: longer ones end in three dots, if
there is room for more than these. -/
def shorten (width : Nat) (s : String) : String :=
  let cs := s.toList
  if cs.length ≤ width then s
  else if width ≤ 3 then String.ofList (cs.take width)
  else String.ofList (cs.take (width - 3) ++ ['.', '.', '.'])

/-- An amount of hundredths as a decimal number with two places. -/
def amount (cents : Int) : List Char :=
  (if cents < 0 then ['-'] else []) ++ digits (cents.natAbs / 100)
    ++ '.' :: padded 2 (cents.natAbs % 100)

/-- A price: the amount, and the currency if one is known. -/
def price (cents : Int) (currency : String) : String :=
  if cents = 0 then "free"
  else if currency.isEmpty then String.ofList (amount cents)
  else String.ofList (amount cents ++ ' ' :: currency.toList)

/-- A number of minutes, given as hours and minutes from one hour on. -/
def duration (minutes : Int) : String :=
  if minutes < 60 then String.ofList (signed minutes ++ ['m'])
  else if minutes % 60 = 0 then String.ofList (signed (minutes / 60) ++ ['h'])
  else String.ofList (signed (minutes / 60) ++ 'h' :: ' ' :: signed (minutes % 60) ++ ['m'])

/-- A text filled with blanks on the right up to a width in characters. -/
def leftColumn (width : Nat) (s : String) : List Char :=
  s.toList ++ List.replicate (width - s.toList.length) ' '

/-- A text filled with blanks on the left up to a width in characters. -/
def rightColumn (width : Nat) (s : String) : List Char :=
  List.replicate (width - s.toList.length) ' ' ++ s.toList

end CoachClient.Display
