/-
CoachClient.Coaching.Account — who uses the service.

* `Profile` — the signed-in user as the service sees them.
* `Account` — a user as an administrator sees them.
* `Credentials`, `Grant` — what signing in sends, and the token it gets back.
  Their `debug` texts say nothing of the secret.
-/
import CoachClient.Coaching.Session

namespace CoachClient.Coaching

open CoachClient.Json CoachClient.Text CoachClient.Time

/-- What stands in a text for a secret. -/
def redacted : String := "\"<redacted>\""

/-! ## 1. Profiles -/

/-- The signed-in user. -/
structure Profile where
  email : String
  roles : List String
  deriving DecidableEq, Repr

namespace Profile

/-- A declared member of a profile. -/
inductive Part where
  | email (s : String)
  | roles (ss : List String)
  deriving DecidableEq

/-- Put a profile together; no roles when they are absent. -/
def assemble (parts : List Part) : Except String Profile := do
  let email ← need "email" (parts.findSome? fun | .email s => some s | _ => none)
  .ok { email, roles := (parts.findSome? fun | .roles ss => some ss | _ => none).getD [] }

/-- Profiles as a record. -/
def record : Record Part Profile where
  name := "Me"
  fields := [
    .of "email" Reader.text .email false,
    .of "roles" (Reader.items Reader.text) .roles true]
  assemble := assemble

/-- The decoder of profiles. -/
def decoder : Decoder Profile := record.decoder

/-- A profile as an object. -/
def toValue (p : Profile) : Value :=
  .object [("email", .text p.email), ("roles", .ofTexts p.roles)]

end Profile

/-! ## 2. Accounts -/

/-- A user as an administrator sees them. -/
structure Account where
  id : String
  email : String
  roles : List String
  disabledAt : Option Instant
  disabledReason : Option String
  createdAt : Instant
  deriving DecidableEq, Repr

namespace Account

/-- The account has been disabled. -/
def isDisabled (a : Account) : Bool := a.disabledAt.isSome

/-- The roles in a row, or a dash. -/
def rolesShown (a : Account) : String :=
  if a.roles.isEmpty then "-" else String.intercalate ", " a.roles

/-- A declared member of an account. -/
inductive Part where
  | id (s : String)
  | email (s : String)
  | roles (ss : List String)
  | disabledAt (t : Option Instant)
  | disabledReason (s : Option String)
  | createdAt (t : Instant)
  deriving DecidableEq

/-- Put an account together; only id, email and the day of creation have to be
there. -/
def assemble (parts : List Part) : Except String Account := do
  let id ← need "id" (parts.findSome? fun | .id s => some s | _ => none)
  let email ← need "email" (parts.findSome? fun | .email s => some s | _ => none)
  let createdAt ← need "created_at" (parts.findSome? fun | .createdAt t => some t | _ => none)
  .ok {
    id, email, createdAt
    roles := (parts.findSome? fun | .roles ss => some ss | _ => none).getD []
    disabledAt := (parts.findSome? fun | .disabledAt t => some t | _ => none).getD none
    disabledReason := (parts.findSome? fun | .disabledReason s => some s | _ => none).getD none }

/-- Accounts as a record. -/
def record : Record Part Account where
  name := "AdminUser"
  fields := [
    .of "id" Reader.text .id false,
    .of "email" Reader.text .email false,
    .of "roles" (Reader.items Reader.text) .roles true,
    .of "disabled_at" (Reader.optional readInstant) .disabledAt true,
    .of "disabled_reason" (Reader.optional Reader.text) .disabledReason true,
    .of "created_at" readInstant .createdAt false]
  assemble := assemble

/-- The decoder of accounts. -/
def decoder : Decoder Account := record.decoder

/-- An account as an object. -/
def toValue (a : Account) : Value := .object [
  ("id", .text a.id),
  ("email", .text a.email),
  ("roles", .ofTexts a.roles),
  ("disabled_at", .ofText? (a.disabledAt.map Instant.wire)),
  ("disabled_reason", .ofText? a.disabledReason),
  ("created_at", .text a.createdAt.wire)]

end Account

/-! ## 3. Signing in -/

/-- What signing in sends. -/
structure Credentials where
  email : String
  password : String
  deriving DecidableEq

namespace Credentials

/-- The credentials as an object. -/
def toValue (c : Credentials) : Value :=
  .object [("email", .text c.email), ("password", .text c.password)]

/-- The credentials in a log: the email, and that there is a password. -/
def debug (c : Credentials) : String :=
  "LoginRequest \x7b email: " ++ quoted c.email ++ ", password: " ++ redacted ++ " \x7d"

end Credentials

/-- What signing in gets back. -/
structure Grant where
  accessToken : String
  deriving DecidableEq

namespace Grant

/-- A declared member of a grant. -/
inductive Part where
  | accessToken (s : String)
  deriving DecidableEq

/-- Put a grant together. -/
def assemble (parts : List Part) : Except String Grant := do
  let accessToken ← need "access_token" (parts.findSome? fun | .accessToken s => some s)
  .ok { accessToken }

/-- Grants as a record. -/
def record : Record Part Grant where
  name := "LoginResponse"
  fields := [.of "access_token" Reader.text .accessToken false]
  assemble := assemble

/-- The decoder of grants. -/
def decoder : Decoder Grant := record.decoder

/-- A grant in a log: that there is a token. -/
def debug (_ : Grant) : String := "LoginResponse \x7b access_token: " ++ redacted ++ " \x7d"

end Grant

end CoachClient.Coaching
