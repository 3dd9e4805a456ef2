/-
CoachClient.Shell.Program — the program from start to end.

* `Start` — what the program finds when it starts.
* `effectiveSettings` — the settings of the file and of the environment, or the
  defaults when they cannot be loaded, under those of the command line.
* `Finish` — what the program leaves behind.
* `run` — the program: a single command, or the dialogue when there is none.
-/
import CoachClient.Settings.EnvironmentFile
import CoachClient.Shell.Loop

namespace CoachClient.Shell

open CoachClient.Command CoachClient.Service CoachClient.Settings CoachClient.Text

/-- What the program finds when it starts. -/
structure Start where
  arguments : List String
  environment : Environment
  /-- Where a file with further variables may be: the working directory and those that
  contain it, from the inside out. -/
  variableFiles : List Sighting := []
  machine : Machine := {}
  files : Files
  input : List UInt8
  surroundings : Surroundings
  typedPassword : Option String := none
  reader : LineReader := .stream

/-- What the program leaves behind. -/
structure Finish where
  code : UInt32
  printed : List Printed
  files : Files
  world : World

/-- The environment with the variables of the file. -/
def Start.fullEnvironment (s : Start) : Environment :=
  match firstFile s.variableFiles with
  | some contents => s.environment.addFile contents
  | none => s.environment

/-- The settings that can be loaded, or else the defaults. -/
def loadOrInitial (m : Machine) (env : Environment) (files : Files) : Settings :=
  match load m env files with
  | .ok settings => settings
  | .error _ => Settings.initial

/-- The settings of a run. -/
def effectiveSettings (m : Machine) (env : Environment) (files : Files) (o : Overrides) :
    Settings :=
  (loadOrInitial m env files).override o

/-- A failure of the program as a whole. -/
def programFailure (causes : Causes) : Printed := .err ("Error: " ++ causes.block ++ "\n")

/-- The end of a run at a scene. -/
def Scene.finish (s : Scene) (code : UInt32) (printed : List Printed) : Finish :=
  ⟨code, printed, s.files, s.world⟩

/-- The program as a dialogue. -/
def runDialogue (x : Context) : Act (UInt32 × List Printed) := do
  match ← dialogue x with
  | (printed, .left) => return (0, printed)
  | (printed, .failed fault) =>
    return (1, printed ++ [programFailure ("Failed to read input" :: fault.causes)])

/-- Signing in comes first, except for the commands that are about it. -/
def signsInFirst : Command → Bool
  | .login _ | .logout => false
  | _ => true

/-- A single command. -/
def runOnce (x : Context) (c : Command) : Act (UInt32 × List Printed) := do
  match ← (if signsInFirst c then signInFromEnvironment x else pure none) with
  | some (.error failure) => return (1, [complaint (Trouble.service failure).describe])
  | _ =>
    match ← runCommand x c with
    | .ok outcome => return (0, outcome.printed)
    | .error trouble => return (1, [complaint trouble.describe])

/-- What an invocation asks for. -/
def runInvocation (x : Context) : Option Command → Act (UInt32 × List Printed)
  | none | some .shell => runDialogue x
  | some c => runOnce x c

/-- The program. -/
def run (start : Start) : Finish :=
  let env := start.fullEnvironment
  let unchanged (code : UInt32) (printed : List Printed) : Finish :=
    ⟨code, printed, start.files, World.fresh⟩
  match readInvocation start.arguments with
  | .error fault => unchanged (if fault.isAnswer then 0 else 2) [faultPrinted fault]
  | .ok invocation =>
    let settings := effectiveSettings start.machine env start.files invocation.overrides
    match settings.fault? with
    | some fault => unchanged 1 [programFailure fault.causes]
    | none =>
      let x : Context :=
        ⟨env, start.machine, start.surroundings, start.typedPassword, start.reader⟩
      let scene : Scene := { app := { settings }, files := start.files, input := start.input }
      let ((code, printed), scene) := (runInvocation x invocation.command).run scene
      scene.finish code printed

end CoachClient.Shell
