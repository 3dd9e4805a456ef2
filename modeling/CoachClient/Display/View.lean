/-
CoachClient.Display.View — what the service answered, as text for people.

* `profile` — who is signed in and with which roles.
* `sessions`, `accounts` — a table with one row an item and, when more pages
  follow, the offset of the next one.
* `session` — the details of one session.
* `answer` — free-form JSON, indented; nothing at all reads as `Done.`.
-/
import CoachClient.Coaching.Account
import CoachClient.Coaching.Page
import CoachClient.Display.Text

namespace CoachClient.Display

open CoachClient.Coaching CoachClient.Json CoachClient.Text

/-- The width of the column of ids. -/
def idWidth : Nat := 12

/-- The width of the column of titles. -/
def titleWidth : Nat := 28

/-- The width of the column of emails. -/
def emailWidth : Nat := 32

/-- The width of the column of roles. -/
def rolesWidth : Nat := 20

/-- The width of the column of durations. -/
def durationWidth : Nat := 7

/-- Who is signed in. -/
def profile (p : Profile) : String :=
  let roles := if p.roles.isEmpty then "none" else String.intercalate ", " p.roles
  "Signed in as " ++ p.email ++ "\nRoles: " ++ roles

/-- The line that says where the next page begins. -/
def hint {α : Type} (p : Page α) : List Char :=
  match p.nextOffset? with
  | none => []
  | some n => "More results from offset ".toList ++ digits n.toNat ++ ['\n']

/-- A table: a line for each item and the hint, without the blanks at its
end. -/
def table {α : Type} (row : α → List Char) (p : Page α) : String :=
  String.ofList (dropEndWhile isBlank ((p.items.flatMap fun a => row a ++ ['\n']) ++ hint p))

/-- The row of a session. -/
def sessionRow (s : Session) : List Char :=
  leftColumn idWidth (shorten idWidth s.id) ++ ' ' :: leftColumn titleWidth (shorten titleWidth s.title)
    ++ ' ' :: s.startsAt.shown.toList
    ++ ' ' :: ' ' :: rightColumn durationWidth (duration s.durationMinutes)
    ++ ' ' :: ' ' :: (price s.priceCents.toInt s.currency).toList
    ++ (if s.isCancelled then "  [cancelled]".toList else [])

/-- A page of sessions. -/
def sessions (p : Page Session) : String :=
  if p.items.isEmpty then "No sessions." else table sessionRow p

/-- The standing of an account. -/
def standing (a : Account) : String :=
  if a.isDisabled then "disabled (" ++ a.disabledReason.getD "no reason" ++ ")" else "active"

/-- The row of an account. -/
def accountRow (a : Account) : List Char :=
  leftColumn idWidth (shorten idWidth a.id) ++ ' ' :: leftColumn emailWidth (shorten emailWidth a.email)
    ++ ' ' :: leftColumn rolesWidth a.rolesShown ++ ' ' :: (standing a).toList

/-- A page of accounts. -/
def accounts (p : Page Account) : String :=
  if p.items.isEmpty then "No users." else table accountRow p

/-- The details of a session. -/
def session (s : Session) : String :=
  let capacity := match s.maxParticipants with
    | some n => String.ofList (digits n.toNat)
    | none => "unlimited"
  s.title ++ " (" ++ s.id ++ ")\n"
    ++ "Coach:    " ++ s.coachShown ++ "\n"
    ++ "When:     " ++ s.startsAt.shown ++ " (" ++ duration s.durationMinutes ++ ")\n"
    ++ "Capacity: " ++ capacity ++ "\n"
    ++ "Price:    " ++ price s.priceCents.toInt s.currency ++ "\n"
    ++ "Status:   " ++ s.status

/-- Free-form JSON. -/
def answer : Value → String
  | .null => "Done."
  | v => v.pretty

end CoachClient.Display
