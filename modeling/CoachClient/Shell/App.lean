/-
CoachClient.Shell.App — what commands do.

* `App` — the settings, and who has signed in as far as the user was told.
* `Scene` — all that a command can read or change: the application, the session
  and what went over the wire, the files, and what is still to be typed.
* `Context` — what stays the same meanwhile.
* `Trouble` — why a command fails, and `Trouble.describe`, what the user is told.
* `signIn`, `signInFromEnvironment` — sign in and remember the email.
* `runCommand` — run a command. Those of a guarded region do nothing unless the
  guard lets the user in.
* `prompt` — what stands in front of the next line.
-/
import CoachClient.Command.Basic
import CoachClient.Display.View
import CoachClient.Service.Operation
import CoachClient.Shell.Typing

namespace CoachClient.Shell

open CoachClient.Access CoachClient.Coaching CoachClient.Command CoachClient.Service
open CoachClient.Settings CoachClient.Text

/-! ## 1. The application -/

/-- The state of the application. -/
structure App where
  settings : Settings
  /-- Settings that change are written to their file. -/
  persists : Bool := true
  /-- Who signed in last, as long as nobody has signed out. -/
  identity : Option Profile := none
  deriving DecidableEq, Repr

/-- All that a command can read or change. -/
structure Scene where
  app : App
  world : World := World.fresh
  files : Files := []
  /-- What is still to be typed. -/
  input : List UInt8 := []
  deriving DecidableEq, Repr

/-- What stays the same while commands run. -/
structure Context where
  environment : Environment
  machine : Machine := {}
  surroundings : Surroundings
  /-- What is typed when a password is asked for, if there is a terminal. -/
  typedPassword : Option String := none
  /-- How a line is read. -/
  reader : LineReader := .stream

/-- What a command produces. -/
inductive Outcome where
  | rendered (text : String)
  | redirected (target : String)
  | exit
  deriving DecidableEq, Repr

/-- Why a command fails. -/
inductive Trouble where
  | service (failure : Failure)
  | invalidSession (fault : NewSession.Fault)
  | noEmail
  | emailUnread (fault : ReadFault)
  | passwordUnread

/-- What the user is told about a failed command. -/
def Trouble.describe : Trouble → String
  | .service failure =>
    if failure.isUnauthorized then failure.message ++ " (run `login` to sign in)"
    else failure.message
  | .invalidSession fault => "Invalid session: " ++ fault.message
  | .noEmail => "An email address is required"
  | .emailUnread fault => Causes.inline ("Failed to read email" :: fault.causes)
  | .passwordUnread =>
    Causes.inline ["Failed to read password", "No such device or address (os error 6)"]

/-- Steps that read or change a scene. -/
abbrev Act := StateM Scene

/-- The client of the application. -/
def App.client (a : App) : Client := a.settings.client

/-- Carry out a program of the client. -/
def carryOut {α : Type} (x : Context) (program : Client → Flow α) : Act α := fun s =>
  let (a, world) := (program s.app.client).run x.surroundings s.world
  (a, { s with world })

/-! ## 2. Signing in -/

/-- Remember the email of who signed in. -/
def Scene.rememberEmail (x : Context) (email : String) (s : Scene) : Scene :=
  if s.app.settings.lastEmail = some email then s
  else
    let settings := { s.app.settings with lastEmail := some email }
    { s with
      app := { s.app with settings }
      files :=
        if s.app.persists then save x.machine x.environment settings s.files else s.files }

/-- Sign in, and remember who did. -/
def signIn (x : Context) (credentials : Credentials) : Act (Except Failure Profile) := do
  match ← carryOut x (Client.signIn · credentials) with
  | .error failure => return .error failure
  | .ok profile =>
    modify (Scene.rememberEmail x credentials.email)
    modify fun s => { s with app := { s.app with identity := some profile } }
    return .ok profile

/-- The credentials of the environment, if there are both. -/
def credentialsOf? (env : Environment) : Option Credentials := do
  let email ← env.filled? Environment.emailName
  let password ← env.filled? Environment.passwordName
  some ⟨email, password⟩

/-- Sign in with the credentials of the environment, if there are any. -/
def signInFromEnvironment (x : Context) : Act (Option (Except Failure Profile)) := do
  match credentialsOf? x.environment with
  | none => return none
  | some credentials => return some (← signIn x credentials)

/-! ## 3. Public commands -/

/-- The email that was typed, or the one of last time when nothing was. -/
def chooseEmail (typed : String) (last : Option String) : Except Trouble String :=
  if allBlank typed then
    match last with
    | some email => .ok email
    | none => .error .noEmail
  else .ok (trim typed)

/-- Ask for the email. -/
def askEmail (x : Context) : Act (Except Trouble String) := do
  let s ← get
  let (line, rest) := x.reader.next s.input
  set { s with input := rest }
  match line with
  | .error fault => return .error (.emailUnread fault)
  | .ok typed => return chooseEmail typed s.app.settings.lastEmail

/-- The email to sign in with: the given one, that of the environment, or the
one that is typed. -/
def findEmail (x : Context) (given : Option String) : Act (Except Trouble String) :=
  match given <|> x.environment.filled? Environment.emailName with
  | some email => return .ok email
  | none => askEmail x

/-- The password to sign in with. -/
def findPassword (x : Context) : Except Trouble String :=
  match x.environment.filled? Environment.passwordName <|> x.typedPassword with
  | some password => .ok password
  | none => .error .passwordUnread

/-- The command to sign in. -/
def runLogin (x : Context) (given : Option String) : Act (Except Trouble Outcome) := do
  match ← findEmail x given with
  | .error trouble => return .error trouble
  | .ok email =>
    match findPassword x with
    | .error trouble => return .error trouble
    | .ok password =>
      match ← signIn x ⟨email, password⟩ with
      | .error failure => return .error (.service failure)
      | .ok profile => return .ok (.rendered (Display.profile profile))

/-- The command to sign out, which never fails. -/
def runLogout (x : Context) : Act Outcome := do
  let result ← carryOut x Client.signOut
  modify fun s => { s with app := { s.app with identity := none } }
  match result with
  | .ok () => return .rendered "Signed out."
  | .error failure =>
    return .rendered ("Signed out locally; the service reported: " ++ failure.message)

/-! ## 4. Guarded commands -/

/-- Ask the service for something and show the answer. -/
def ask (x : Context) (o : Operation) (render : o.Result → String) : Act (Except Trouble String) :=
  do
    match ← carryOut x (Client.perform · o) with
    | .ok answer => return .ok (render answer)
    | .error failure => return .error (.service failure)

/-- What a guarded command shows. -/
def view (x : Context) : GuardedCommand → Act (Except Trouble String)
  | .whoami => ask x .identity Display.profile
  | .listSessions => ask x .listSessions Display.sessions
  | .showSession id => ask x (.showSession id) Display.session
  | .createSession session =>
    match session.fault? with
    | some fault => return .error (.invalidSession fault)
    | none => ask x (.createSession session) Display.session
  | .cancelSession id => ask x (.cancelSession id) Display.answer
  | .listAccounts page => ask x (.listAccounts page) Display.accounts
  | .grantRole id role => ask x (.grantRole id role) Display.answer
  | .revokeRole id role => ask x (.revokeRole id role) Display.answer
  | .disable id reason => ask x (.disable id reason) Display.answer
  | .reenable id => ask x (.reenable id) Display.answer

/-- The role of administrators. -/
def adminRole : String := "admin"

/-- The guard of a region. -/
def App.guard (a : App) : Region → Guard
  | .dashboard => { loginPath := a.settings.loginPath }
  | .administration => { required := [adminRole], loginPath := a.settings.loginPath }

/-- Show what a command shows to those that the guard of its region lets in. -/
def runGuarded (x : Context) (c : GuardedCommand) : Act (Except Trouble Outcome) := do
  let s ← get
  match ← (s.app.guard c.region).enter s.world.store.snapshot (view x c) with
  | .entered shown => return shown.map .rendered
  | .redirected target => return .ok (.redirected target)

/-- Run a command. -/
def runCommand (x : Context) : Command → Act (Except Trouble Outcome)
  | .login email => runLogin x email
  | .logout => do return .ok (← runLogout x)
  | .shell => return .ok (.rendered "Already in the shell.")
  | .exit => return .ok .exit
  | .guarded c => runGuarded x c

/-! ## 5. The prompt -/

/-- What stands in front of the next line: who is signed in, with their roles. -/
def prompt (s : Scene) : String :=
  match s.app.identity, s.world.store.snapshot.isAuthenticated with
  | some profile, true =>
    if profile.roles.isEmpty then profile.email ++ "> "
    else profile.email ++ " [" ++ ",".intercalate profile.roles ++ "]> "
  | none, true => "signed-in> "
  | _, false => "coachline> "

end CoachClient.Shell
