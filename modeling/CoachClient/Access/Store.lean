/-
CoachClient.Access.Store — who is signed in.

* `Snapshot` — nobody, or a credential with the roles that belong to it. There
  are no roles without a credential.
* `Change` — the two ways to change it; a blank credential signs out.
* `Store` — the latest snapshot and the number of changes so far. Everybody who
  looks sees the latest snapshot.
* `Watcher` — knows the number of changes it has taken notice of.
-/
import CoachClient.Text.Blank
import CoachClient.Text.Quoted

namespace CoachClient.Access

open CoachClient.Text

/-! ## 1. Snapshots -/

/-- Who is signed in at a moment. -/
inductive Snapshot where
  | anonymous
  | signedIn (credential : String) (roles : List String)
  deriving DecidableEq, Repr

namespace Snapshot

/-- The credential of who is signed in. -/
def credential? : Snapshot → Option String
  | .anonymous => none
  | .signedIn credential _ => some credential

/-- The roles of who is signed in. -/
def roles : Snapshot → List String
  | .anonymous => []
  | .signedIn _ roles => roles

/-- Somebody is signed in. -/
def isAuthenticated (s : Snapshot) : Bool := s.credential?.isSome

/-- A role has been granted. -/
def hasRole (s : Snapshot) (role : String) : Bool := s.roles.contains role

/-- At least one of several roles has been granted. -/
def hasAnyRole (s : Snapshot) (required : List String) : Bool := required.any s.hasRole

/-- A snapshot in a log: that there is a credential, and the roles. -/
def debug (s : Snapshot) : String :=
  let credential := if s.isAuthenticated then "Some(\"<redacted>\")" else "None"
  "SessionSnapshot \x7b credential: " ++ credential ++ ", roles: " ++ quotedList s.roles ++ " \x7d"

end Snapshot

/-! ## 2. Changes -/

/-- A change of who is signed in. -/
inductive Change where
  | establish (credential : String) (roles : List String)
  | clear
  deriving DecidableEq, Repr

/-- What a change leaves behind, whatever was there before. -/
def Change.result : Change → Snapshot
  | .establish credential roles =>
    if allBlank credential then .anonymous else .signedIn credential roles
  | .clear => .anonymous

/-! ## 3. The store -/

/-- The latest snapshot and the number of changes. -/
structure Store where
  snapshot : Snapshot
  changes : Nat
  deriving DecidableEq, Repr

namespace Store

/-- Nobody has signed in yet. -/
def fresh : Store := ⟨.anonymous, 0⟩

/-- Make a change. -/
def apply (s : Store) (c : Change) : Store := ⟨c.result, s.changes + 1⟩

/-- Make several changes, one after the other. -/
def applyAll (s : Store) (cs : List Change) : Store := cs.foldl apply s

end Store

/-! ## 4. Watchers -/

/-- The number of changes that have been noticed. -/
structure Watcher where
  noticed : Nat
  deriving DecidableEq, Repr

/-- A watcher for the changes from now on. -/
def Store.watch (s : Store) : Watcher := ⟨s.changes⟩

/-- There have been changes that the watcher has not noticed. -/
def Watcher.hasNews (w : Watcher) (s : Store) : Bool := w.noticed != s.changes

/-- See the latest snapshot and take notice of all changes. -/
def Watcher.take (_ : Watcher) (s : Store) : Snapshot × Watcher := (s.snapshot, s.watch)

/-- See the latest snapshot without taking notice. -/
def Watcher.peek (_ : Watcher) (s : Store) : Snapshot := s.snapshot

end CoachClient.Access
