/-
CoachClient.Command.Basic — what the user can ask for.

* `Region` — the dashboard, for everybody who is signed in, and the
  administration, for administrators only.
* `GuardedCommand` — the commands of the regions with their arguments.
* `Command` — these, and the commands that everybody may use.
* `Invocation` — what the program is started with.
-/
import CoachClient.Coaching.Page
import CoachClient.Coaching.Session
import CoachClient.Settings.Basic

namespace CoachClient

open CoachClient.Coaching CoachClient.Settings

namespace Command

/-- A part of the application that is not open to everybody. -/
inductive Region where
  | dashboard
  | administration
  deriving DecidableEq, Repr

/-- A command of a region. -/
inductive GuardedCommand where
  | whoami
  | listSessions
  | showSession (id : String)
  | createSession (session : NewSession)
  | cancelSession (id : String)
  | listAccounts (page : PageRequest)
  | grantRole (id role : String)
  | revokeRole (id role : String)
  | disable (id reason : String)
  | reenable (id : String)
  deriving DecidableEq

/-- The region that a command belongs to. -/
def GuardedCommand.region : GuardedCommand → Region
  | .whoami | .listSessions | .showSession _ | .createSession _ | .cancelSession _ => .dashboard
  | .listAccounts _ | .grantRole _ _ | .revokeRole _ _ | .disable _ _ | .reenable _ =>
    .administration

end Command

open CoachClient.Command

/-- What the user can ask for. -/
inductive Command where
  | login (email : Option String)
  | logout
  | shell
  | exit
  | guarded (c : GuardedCommand)
  deriving DecidableEq

namespace Command

/-- The region that a command belongs to; those without one are for everybody. -/
def region? : Command → Option Region
  | .guarded c => some c.region
  | _ => none

/-- What the program is started with: settings for this run, and a command. -/
structure Invocation where
  overrides : Overrides
  command : Option Command

end Command

end CoachClient
