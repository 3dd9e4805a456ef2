/-
CoachClient.Service.Operation — what the service can be asked to do.

* `Operation` — the operations with their arguments.
* `Operation.call` — the call that an operation makes: its method, its path with
  the id in place, and its body. An id has to be a plain path segment.
* `Operation.Result`, `Operation.decoder` — what an operation gives back.
* `Client.perform` — carry out an operation.
* `Client.signIn`, `Client.signOut` — the two programs that change the session.
-/
import CoachClient.Coaching.Account
import CoachClient.Coaching.Page
import CoachClient.Service.Call

namespace CoachClient.Service

open CoachClient.Access CoachClient.Coaching CoachClient.Json CoachClient.Text

/-! ## 1. Operations -/

/-- What the service can be asked to do. -/
inductive Operation where
  | grantToken (credentials : Credentials)
  | identity
  | revokeToken
  | listSessions
  | showSession (id : String)
  | createSession (session : NewSession)
  | cancelSession (id : String)
  | listAccounts (page : PageRequest)
  | grantRole (id role : String)
  | revokeRole (id role : String)
  | disable (id reason : String)
  | reenable (id : String)
  deriving DecidableEq

/-- A character of an id. -/
def isIdChar (c : Char) : Bool :=
  ('a' ≤ c && c ≤ 'z') || ('A' ≤ c && c ≤ 'Z') || isDigit c || c == '-' || c == '_' || c == '.'

/-- The text is one segment of a path and stays as it is there. -/
def isPlainSegment (s : String) : Bool :=
  s != "" && s != "." && s != ".." && s.toList.all isIdChar

/-- The path with an id between two parts. -/
def pathWith (front id back : String) : Except Refusal String :=
  if isPlainSegment id then .ok (front ++ id ++ back) else .error (.segment id)

/-- The path of an account with an action on it. -/
def accountPath (id action : String) : Except Refusal String :=
  pathWith "/admin/users/" id ("/" ++ action)

namespace Operation

/-- The call that an operation makes. -/
def call : Operation → Except Refusal Call
  | .grantToken credentials => .ok ((Call.post "/auth/login").withBody credentials.toValue)
  | .identity => .ok (.get "/auth/me")
  | .revokeToken => .ok (.post "/auth/logout")
  | .listSessions => .ok (.get "/sessions")
  | .showSession id => do .ok (.get (← pathWith "/sessions/" id ""))
  | .createSession session => .ok ((Call.post "/sessions").withBody session.toValue)
  | .cancelSession id => do .ok (.put (← pathWith "/sessions/" id "/cancel"))
  | .listAccounts page => .ok (.get ("/admin/users/?" ++ page.query))
  | .grantRole id role => do
    .ok ((Call.post (← accountPath id "grant-role")).withBody (.object [("role", .text role)]))
  | .revokeRole id role => do
    .ok ((Call.post (← accountPath id "revoke-role")).withBody (.object [("role", .text role)]))
  | .disable id reason => do
    .ok ((Call.post (← accountPath id "disable")).withBody (.object [("reason", .text reason)]))
  | .reenable id => do .ok (.post (← accountPath id "reenable"))

/-- What an operation gives back. -/
abbrev Result : Operation → Type
  | .grantToken _ => Grant
  | .identity => Profile
  | .listSessions => Page Session
  | .showSession _ | .createSession _ => Session
  | .listAccounts _ => Page Account
  | .revokeToken | .cancelSession _ | .grantRole _ _ | .revokeRole _ _ | .disable _ _
  | .reenable _ => Value

/-- How the answer to an operation is read. -/
def decoder : (o : Operation) → Decoder o.Result
  | .grantToken _ => Grant.decoder
  | .identity => Profile.decoder
  | .listSessions => Page.decoder Session.decoder
  | .showSession _ | .createSession _ => Session.decoder
  | .listAccounts _ => Page.decoder Account.decoder
  | .revokeToken | .cancelSession _ | .grantRole _ _ | .revokeRole _ _ | .disable _ _
  | .reenable _ => Decoder.value

end Operation

/-! ## 2. Programs -/

namespace Client

/-- Carry out an operation. -/
def perform (c : Client) (o : Operation) : Flow (Except Failure o.Result) :=
  match o.call with
  | .error refusal => .done (.error (.refused refusal))
  | .ok call => c.send o.decoder call

/-- Sign in: get a token, use it to learn who this is, and keep it together with
the roles. Without an identity nobody stays signed in. -/
def signIn (c : Client) (credentials : Credentials) : Flow (Except Failure Profile) := do
  match ← c.perform (.grantToken credentials) with
  | .error failure => return .error failure
  | .ok grant =>
    Flow.change (.establish grant.accessToken [])
    match ← c.perform .identity with
    | .ok profile =>
      Flow.change (.establish grant.accessToken profile.roles)
      return .ok profile
    | .error failure =>
      Flow.change .clear
      return .error failure

/-- Sign out, here in any case, and with the service if it can be told. -/
def signOut (c : Client) : Flow (Except Failure Unit) := do
  let result ← c.perform .revokeToken
  Flow.change .clear
  return result.map fun _ => ()

end Client

end CoachClient.Service
