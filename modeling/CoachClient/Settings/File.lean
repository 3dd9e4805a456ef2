/-
CoachClient.Settings.File — where settings are kept.

* `Files` — the files that there are, by their paths.
* `Machine` — what does not change while a program runs: the home directory of the
  user's account, and what may be done with the files.
* `configPath` — the place of the settings, below the configuration directory of
  the user.
* `loadFrom`, `loadFile`, `load` — the settings that a file holds; those of a file that
  may be unreadable; those of the user's, under the variables of the environment.
* `saveTo`, `save` — write settings to a file; to their place, if it can be written.
-/
import CoachClient.Settings.Basic

namespace CoachClient.Settings

open CoachClient.Json CoachClient.Text

/-! ## 1. Files -/

/-- Files with their contents; of several with one path the first counts. -/
abbrev Files := List (String × List UInt8)

namespace Files

/-- The contents of a file. -/
def read? (fs : Files) (path : String) : Option (List UInt8) := fs.lookup path

/-- The files after one has been written. -/
def write (fs : Files) (path : String) (contents : List UInt8) : Files :=
  (path, contents) :: fs.filter fun f => f.1 != path

end Files

/-- What may be done with a file. -/
structure Access where
  /-- Why it cannot be read, if so. -/
  unreadable : Option String := none
  writable : Bool := true
  deriving DecidableEq, Repr

/-- The machine that a program runs on, as far as it does not change meanwhile. A
directory is a file that can neither be read nor be written. -/
structure Machine where
  /-- The home directory of the user's account. -/
  home : Option String := none
  access : String → Access := fun _ => {}

/-! ## 2. The place of settings -/

/-- A path below another one. -/
def below (path name : String) : String :=
  if path.toList.getLast? = some '/' then path ++ name else path ++ "/" ++ name

/-- The path begins at the root. -/
def isAbsolute (path : String) : Bool := path.toList.head? == some '/'

/-- The home directory: the one that is named, and otherwise that of the account. -/
def homeDirectory (m : Machine) (env : Environment) : Option String :=
  (env.get? "HOME").filter (· != "") <|> m.home.filter (· != "")

/-- The configuration directory of the user: the one that is named, if it is
absolute, and otherwise one in the home directory. -/
def configDirectory (m : Machine) (env : Environment) : Option String :=
  (env.get? "XDG_CONFIG_HOME").filter isAbsolute <|> (homeDirectory m env).map (below · ".config")

/-- The place of the settings. -/
def configPath (m : Machine) (env : Environment) : Option String :=
  (configDirectory m env).map fun dir => below (below dir "coachline") "config.json"

/-! ## 3. Loading and saving -/

/-- Why settings cannot be loaded. -/
inductive LoadFault where
  | noDirectory
  | unreadable (path reason : String)
  | notText (path : String)
  | notSettings (path : String) (fault : Json.Fault)
  | timeout (fault : NumberFault)
  deriving DecidableEq, Repr

/-- What is said of bytes that are no text. -/
def notUtf8 : String := "stream did not contain valid UTF-8"

/-- The wording of a fault. -/
def LoadFault.causes : LoadFault → Causes
  | .noDirectory => ["Could not find config directory"]
  | .unreadable path reason => ["Failed to read config file " ++ path, reason]
  | .notText path => ["Failed to read config file " ++ path, notUtf8]
  | .notSettings path fault => ["Failed to parse config file " ++ path, fault.message]
  | .timeout fault =>
    [Environment.timeoutName ++ " must be a number of seconds", fault.message]

/-- The settings that a file holds; the defaults when there is no file. -/
def loadFrom (path : String) (contents : Option (List UInt8)) : Except LoadFault Settings :=
  match contents with
  | none => .ok Settings.initial
  | some bytes =>
    if (Utf8.decode bytes).isNone then .error (.notText path)
    else (Settings.decoder.decode bytes).mapError (.notSettings path)

/-- The settings of a file that is there or not, and may be unreadable. -/
def loadFile (m : Machine) (fs : Files) (path : String) : Except LoadFault Settings :=
  match fs.read? path, (m.access path).unreadable with
  | some _, some reason => .error (.unreadable path reason)
  | contents, _ => loadFrom path contents

/-- Settings under the variables of an environment. -/
def underEnvironment (s : Settings) (env : Environment) : Except LoadFault Settings :=
  match s.takeEnvironment env with
  | (s, .ok ()) => .ok s
  | (_, .error fault) => .error (.timeout fault)

/-- The settings of the user. -/
def load (m : Machine) (env : Environment) (fs : Files) : Except LoadFault Settings := do
  match configPath m env with
  | none => .error .noDirectory
  | some path =>
    let s ← loadFile m fs path
    s.underEnvironment env

/-- Write settings to a file. -/
def saveTo (path : String) (s : Settings) (fs : Files) : Files :=
  fs.write path (Utf8.encode s.fileText)

/-- Write settings to their place; without a place, or when it cannot be written, nothing
happens. -/
def save (m : Machine) (env : Environment) (s : Settings) (fs : Files) : Files :=
  match configPath m env with
  | none => fs
  | some path => if (m.access path).writable then saveTo path s fs else fs

end CoachClient.Settings
