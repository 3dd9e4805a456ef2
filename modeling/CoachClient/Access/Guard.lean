/-
CoachClient.Access.Guard — who may enter a region.

* `Guard` — the roles of which one is required, and where everybody else is sent.
* `Guard.decide` — the decision on a snapshot; nothing else has an influence.
* `Guard.enter` — build a view, but only for those who may enter.
-/
import CoachClient.Access.Store

namespace CoachClient.Access

/-- Where people are sent to sign in. -/
def defaultLoginPath : String := "/login"

/-- Who may enter: anybody who is signed in, or with `required` roles, anybody
with one of them. -/
structure Guard where
  required : List String := []
  loginPath : String := defaultLoginPath
  deriving DecidableEq, Repr

/-- The decision of a guard. -/
inductive Decision where
  | allow
  | redirect (target : String)
  deriving DecidableEq, Repr

namespace Decision

/-- The way is open. -/
def isAllowed (d : Decision) : Bool := d == .allow

/-- Where the decision leads, if not in. -/
def target? : Decision → Option String
  | .allow => none
  | .redirect target => some target

end Decision

/-- What came of an attempt to enter. -/
inductive Navigation (α : Type) where
  | entered (view : α)
  | redirected (target : String)
  deriving DecidableEq, Repr

/-- The view, if the way was open. -/
def Navigation.view? {α : Type} : Navigation α → Option α
  | .entered view => some view
  | .redirected _ => none

namespace Guard

/-- Decide who may enter. -/
def decide (g : Guard) (s : Snapshot) : Decision :=
  if s.isAuthenticated && (g.required.isEmpty || s.hasAnyRole g.required) then .allow
  else .redirect g.loginPath

/-- Build the view if the way is open, and do nothing otherwise. -/
def enter {m : Type → Type} [Monad m] {α : Type} (g : Guard) (s : Snapshot) (build : m α) :
    m (Navigation α) :=
  match g.decide s with
  | .allow => do return .entered (← build)
  | .redirect target => pure (.redirected target)

end Guard

end CoachClient.Access
