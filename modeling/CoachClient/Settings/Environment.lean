/-
CoachClient.Settings.Environment — the variables a program is started with.

* `Environment` — variables with their values.
* `Environment.get?` — the value of a variable; `Environment.filled?` — the value
  of one that is set and not blank.
* `Environment.add` — give a variable a value unless it has one.
-/
import CoachClient.Text.Blank

namespace CoachClient.Settings

open CoachClient.Text

/-- Variables with their values; of several with one name the first counts. -/
abbrev Environment := List (String × String)

namespace Environment

/-- The value of a variable. -/
def get? (env : Environment) (name : String) : Option String := env.lookup name

/-- The value of a variable that is not blank. -/
def filled? (env : Environment) (name : String) : Option String :=
  (env.get? name).filter fun v => !allBlank v

/-- Give a variable a value unless it has one. -/
def add (env : Environment) (name value : String) : Environment :=
  if (env.get? name).isSome then env else env ++ [(name, value)]

/-- The variable with the address of the service. -/
def baseUrlName : String := "COACHLINE_API_BASE_URL"

/-- The variable with the time limit in seconds. -/
def timeoutName : String := "COACHLINE_TIMEOUT_SECS"

/-- The variable with the email to sign in with. -/
def emailName : String := "COACHLINE_EMAIL"

/-- The variable with the password to sign in with. -/
def passwordName : String := "COACHLINE_PASSWORD"

end Environment

end CoachClient.Settings
