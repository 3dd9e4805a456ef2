/-
CoachClient.Shell.Loop — the dialogue with the user.

* `Printed` — a text on one of the two outputs.
* `Reading` — what a typed line is, and `readLine`, which tells.
* `turn` — read one line and do what it says.
* `dialogue` — turn after turn, until the user leaves or interrupts, the input ends,
  or it cannot be read.
-/
import CoachClient.Command.Reading
import CoachClient.Shell.App
import CoachClient.Shell.Words

namespace CoachClient.Shell

open CoachClient.Command CoachClient.Text

/-! ## 1. Outputs -/

/-- A text on the output or on the output for complaints. -/
inductive Printed where
  | out (text : String)
  | err (text : String)
  deriving DecidableEq, Repr

/-- All that is on the output. -/
def outText (ps : List Printed) : String :=
  String.join (ps.filterMap fun | .out text => some text | .err _ => none)

/-- All that is on the output for complaints. -/
def errText (ps : List Printed) : String :=
  String.join (ps.filterMap fun | .err text => some text | .out _ => none)

/-- What is printed of an outcome. -/
def Outcome.printed : Outcome → List Printed
  | .rendered text => [.out (text ++ "\n")]
  | .redirected target => [.out ("redirect: " ++ target ++ "\n")]
  | .exit => []

/-- A complaint in one line. -/
def complaint (text : String) : Printed := .err ("error: " ++ text ++ "\n")

/-- What is printed of words that make no command. -/
def faultPrinted (f : Command.Fault) : Printed := if f.isAnswer then .out f.text else .err f.text

/-! ## 2. Lines -/

/-- What a typed line is. -/
inductive Reading where
  | blank
  | unsplit (fault : WordFault)
  | unread (fault : Command.Fault)
  | command (c : Command)

/-- Tell what a typed line is. -/
def readLine (line : String) : Reading :=
  match splitWords line with
  | .error fault => .unsplit fault
  | .ok [] => .blank
  | .ok words =>
    match readCommand words with
    | .error fault => .unread fault
    | .ok c => .command c

/-! ## 3. Turns -/

/-- How a dialogue ends. -/
inductive Ending where
  | left
  | failed (fault : ReadFault)
  deriving DecidableEq, Repr

/-- What a turn prints, and how the dialogue ends if it ends here. -/
abbrev Turn := List Printed × Option Ending

/-- Run a command of a dialogue. -/
def turnOfCommand (x : Context) (c : Command) : Act Turn := do
  match ← runCommand x c with
  | .ok .exit => return ([], some .left)
  | .ok outcome => return (outcome.printed, none)
  | .error trouble => return ([complaint trouble.describe], none)

/-- Do what a line says. -/
def turnOfLine (x : Context) (line : String) : Act Turn :=
  match readLine line with
  | .blank => return ([], none)
  | .unsplit fault => return ([complaint fault.message], none)
  | .unread fault => return ([faultPrinted fault], none)
  | .command c => turnOfCommand x c

/-- Read one line and do what it says. -/
def turn (x : Context) : Act Turn := do
  let s ← get
  let (line, rest) := x.reader.next s.input
  set { s with input := rest }
  match line with
  | .ok line => turnOfLine x line
  | .error .endOfInput | .error .interrupted => return ([.out "\n"], some .left)
  | .error fault => return ([], some (.failed fault))

/-! ## 4. The dialogue -/

/-- Turn after turn, at most `fuel` of them. -/
def turns (x : Context) : (fuel : Nat) → Act (List Printed × Ending)
  | 0 => return ([], .left)
  | fuel + 1 => do
    match ← turn x with
    | (printed, some ending) => return (printed, ending)
    | (printed, none) =>
      let (more, ending) ← turns x fuel
      return (printed ++ more, ending)

/-- What is said at the start. -/
def greeting : String := "coachline shell. Type `help` for commands, `exit` to leave.\n"

/-- The dialogue with the user. Every turn but the last takes something of what is
left to be typed, so there are never more of them than allowed for. -/
def dialogue (x : Context) : Act (List Printed × Ending) := do
  let s ← get
  let (printed, ending) ← turns x (s.input.length + 1)
  return (.out greeting :: printed, ending)

end CoachClient.Shell
