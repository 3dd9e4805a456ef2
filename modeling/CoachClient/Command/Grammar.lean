/-
CoachClient.Command.Grammar — which words make a command.

* `Kind`, `Argument` — what the value of an option may be, and such values.
* `Flag` — an option with a value, written `--name value` or `--name=value`.
* `Form` — the words of a command: options, operands in their order, or a choice
  of forms below it.
* `Grammar` — a form with the options that may stand anywhere.
* `shellGrammar`, `programGrammar` — the words that the shell and the program
  understand; the two share their commands.
* `Grammar.usage`, `Grammar.help` — how a command is used, in one line and in
  several.
-/
import CoachClient.Command.Basic
import CoachClient.Time.Reading

namespace CoachClient.Command

open CoachClient.Text CoachClient.Time

/-! ## 1. Values -/

/-- What the value of an option may be. -/
inductive Kind where
  | text
  | word32
  | word64
  | signed64
  | instant
  deriving DecidableEq, Repr

/-- The value of an option. -/
inductive Argument where
  | text (s : String)
  | word32 (n : UInt32)
  | word64 (n : UInt64)
  | signed64 (i : Int64)
  | instant (t : Instant)
  deriving DecidableEq, Repr

/-- An integer of 64 bits with a sign. -/
def readSigned64 (s : String) : Except String Int :=
  (readSigned minInt64Magnitude maxInt64 s.toList).mapError NumberFault.message

/-- Read a value; a failure is the reason in words. A small number is read as a
larger one first, so that too large a number is told from no number. -/
def Kind.read (k : Kind) (s : String) : Except String Argument :=
  match k with
  | .text => .ok (.text s)
  | .word32 => do
    let i ← readSigned64 s
    if 0 ≤ i && i ≤ maxWord32 then .ok (.word32 (UInt32.ofNat i.toNat))
    else
      .error (String.ofList (signed i) ++ " is not in 0..=" ++ String.ofList (digits maxWord32))
  | .word64 =>
    match readUnsigned maxWord64 s.toList with
    | .ok n => .ok (.word64 (UInt64.ofNat n))
    | .error fault => .error fault.message
  | .signed64 => do
    let i ← readSigned64 s
    .ok (.signed64 (Int64.ofInt i))
  | .instant =>
    match Instant.read s with
    | .ok t => .ok (.instant t)
    | .error fault => .error fault.message

/-! ## 2. Forms -/

/-- An option with a value. -/
structure Flag where
  name : String
  kind : Kind
  required : Bool := false
  deriving DecidableEq, Repr

/-- The name of a value: the name of its option in capitals. -/
def placeholder (name : String) : String :=
  String.ofList (name.toList.map fun c => if c = '-' then '_' else c.toUpper)

/-- An option as messages show it. -/
def Flag.shown (f : Flag) : String := "--" ++ f.name ++ " <" ++ placeholder f.name ++ ">"

/-- An operand as messages show it. -/
def operandShown (name : String) : String := "<" ++ name ++ ">"

/-- The words of a command after its name. -/
inductive Form where
  /-- A command with options and operands. -/
  | leaf (flags : List Flag) (operands : List String)
  /-- A choice of commands by name, each possibly with other names. -/
  | choice (branches : List (String × List String × Form))

namespace Form

/-- The options of a command. -/
def flags : Form → List Flag
  | .leaf flags _ => flags
  | .choice _ => []

/-- The operands of a command. -/
def operands : Form → List String
  | .leaf _ operands => operands
  | .choice _ => []

/-- The forms to choose from. -/
def branches : Form → List (String × List String × Form)
  | .leaf _ _ => []
  | .choice branches => branches

/-- The form that a word chooses, with its name. -/
def branch? (f : Form) (word : String) : Option (String × Form) :=
  f.branches.findSome? fun (name, others, form) =>
    if word = name || others.contains word then some (name, form) else none

end Form

/-- The word that asks for help. -/
def helpWord : String := "help"

/-- The names that may be chosen, help among them. -/
def Form.choices (f : Form) : List String :=
  match f with
  | .leaf _ _ => []
  | .choice branches => branches.flatMap (fun (name, others, _) => name :: others) ++ [helpWord]

/-- A form with the options that may stand in every place. -/
structure Grammar where
  /-- How messages call the whole. -/
  name : String
  /-- The name stands in front of the names of commands. -/
  namesCommands : Bool
  /-- What is said when the version is asked for. -/
  version : Option String
  /-- There does not have to be a command. -/
  commandOptional : Bool
  globals : List Flag
  form : Form

/-! ## 3. The commands -/

/-- The forms of the commands on sessions. -/
def sessionForms : Form := .choice [
  ("list", [], .leaf [] []),
  ("show", [], .leaf [] ["ID"]),
  ("create", [], .leaf [
    { name := "title", kind := .text, required := true },
    { name := "starts-at", kind := .instant, required := true },
    { name := "ends-at", kind := .instant, required := true },
    { name := "max-participants", kind := .word32 },
    { name := "price-cents", kind := .signed64 },
    { name := "currency", kind := .text }] []),
  ("cancel", [], .leaf [] ["ID"])]

/-- The forms of the commands for administrators. -/
def adminForms : Form := .choice [
  ("users", [], .leaf [
    { name := "limit", kind := .word32 },
    { name := "offset", kind := .word32 }] []),
  ("grant", [], .leaf [] ["USER_ID", "ROLE"]),
  ("revoke", [], .leaf [] ["USER_ID", "ROLE"]),
  ("disable", [], .leaf [{ name := "reason", kind := .text, required := true }] ["USER_ID"]),
  ("reenable", [], .leaf [] ["USER_ID"])]

/-- The forms of all commands. -/
def commandForms : Form := .choice [
  ("login", [], .leaf [{ name := "email", kind := .text }] []),
  ("logout", [], .leaf [] []),
  ("whoami", [], .leaf [] []),
  ("sessions", [], sessionForms),
  ("admin", [], adminForms),
  ("shell", [], .leaf [] []),
  ("exit", ["quit"], .leaf [] [])]

/-- What the shell understands. -/
def shellGrammar : Grammar where
  name := "coachline-cli"
  namesCommands := false
  version := none
  commandOptional := false
  globals := []
  form := commandForms

/-- What the program understands. -/
def programGrammar : Grammar where
  name := "coachline"
  namesCommands := true
  version := some "coachline 0.1.0"
  commandOptional := true
  globals := [{ name := "base-url", kind := .text }, { name := "timeout", kind := .word64 }]
  form := commandForms

/-! ## 4. Usage -/

/-- What a command at a path is called. -/
def Grammar.title (g : Grammar) (path : List String) : String :=
  if path.isEmpty then g.name
  else " ".intercalate (if g.namesCommands then g.name :: path else path)

/-- The options that may be used with a form. -/
def Grammar.flags (g : Grammar) (f : Form) : List Flag := f.flags ++ g.globals

/-- How the choice of a command is written. -/
def Grammar.choiceShown (g : Grammar) (path : List String) (f : Form) : List String :=
  match f with
  | .leaf _ _ => []
  | .choice _ => if path.isEmpty && g.commandOptional then ["[COMMAND]"] else ["<COMMAND>"]

/-- The options that have to be given. -/
def Form.requiredFlags (f : Form) : List Flag := f.flags.filter Flag.required

/-- The usage of a command as a whole. -/
def Grammar.usage (g : Grammar) (path : List String) (f : Form) : String :=
  let options := if (g.flags f).any fun x => !x.required then ["[OPTIONS]"] else []
  "Usage: " ++ " ".intercalate
    (g.title path :: options ++ f.requiredFlags.map Flag.shown
      ++ f.operands.map operandShown ++ g.choiceShown path f)

/-- The usage of a command where something has been used: options that have been
used are written out instead of being hinted at. -/
def Grammar.usageWith (g : Grammar) (path : List String) (f : Form) (used : List String) : String :=
  let required := f.requiredFlags.map Flag.shown
  let operands := f.operands.map operandShown
  let further := used.filter fun x => !required.contains x && !operands.contains x
  let choice := if path.isEmpty && g.commandOptional then [] else g.choiceShown path f
  "Usage: " ++ " ".intercalate (g.title path :: required ++ further ++ operands ++ choice)

/-- The usage of the word that asks for help. -/
def Grammar.helpUsage (g : Grammar) (path : List String) : String :=
  "Usage: " ++ g.title (path ++ [helpWord]) ++ " [COMMAND]..."

/-- The lines of the help for a form. -/
def Grammar.help (g : Grammar) (path : List String) (f : Form) : String :=
  let options := (g.flags f).map fun x => "\n  " ++ x.shown
  let choices := f.choices.map fun x => "\n  " ++ x
  g.usage path f
    ++ (if choices.isEmpty then "" else "\n\nCommands:" ++ String.join choices)
    ++ (if options.isEmpty then "" else "\n\nOptions:" ++ String.join options)

end CoachClient.Command
