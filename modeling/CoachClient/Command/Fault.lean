/-
CoachClient.Command.Fault — why words do not make a command.

* `Cause` — the reasons; asking for help or for the version is one of them.
* `Fault` — a reason with the usage that goes with it.
* `Fault.text` — all that is shown; `Fault.brief` — the first paragraph of it,
  without hints and usage.
-/
import CoachClient.Command.Grammar
import CoachClient.Text.Parts
import CoachClient.Text.Visible

namespace CoachClient.Command

open CoachClient.Text

/-- Why words do not make a command. -/
inductive Cause where
  /-- Help was asked for. -/
  | help (screen : String)
  /-- The version was asked for. -/
  | version (text : String)
  /-- There are no words where there have to be some. -/
  | nothingGiven (screen : String)
  /-- There are options, but no command. -/
  | noCommand (title : String) (choices : List String)
  | unknownCommand (word : String) (similar : List String)
  | unknownArgument (word : String) (tips : List String)
  | repeatedOption (option : String)
  | noValue (option : String)
  | badValue (option value reason : String)
  | needlessValue (option value : String)
  | missing (shown : List String)
  deriving DecidableEq, Repr

/-- A reason with the usage that goes with it. -/
structure Fault where
  cause : Cause
  usage : Option String
  deriving DecidableEq, Repr

/-- What is shown of a text, between single quotes. -/
def inQuotes (s : String) : String := "'" ++ visible s ++ "'"

/-- The wording of a reason after its mark. -/
def Cause.message : Cause → String
  | .help screen | .nothingGiven screen => screen
  | .version text => text
  | .noCommand title choices =>
    inQuotes title ++ " requires a subcommand but one was not provided\n  [subcommands: "
      ++ ", ".intercalate choices ++ "]"
  | .unknownCommand word _ => "unrecognized subcommand " ++ inQuotes word
  | .unknownArgument word _ => "unexpected argument " ++ inQuotes word ++ " found"
  | .repeatedOption option =>
    "the argument " ++ inQuotes option ++ " cannot be used multiple times"
  | .noValue option =>
    "a value is required for " ++ inQuotes option ++ " but none was supplied"
  | .badValue option value reason =>
    "invalid value " ++ inQuotes value ++ " for " ++ inQuotes option ++ ": " ++ reason
  | .needlessValue option value =>
    "unexpected value " ++ inQuotes value ++ " for " ++ inQuotes option
      ++ " found; no more were expected"
  | .missing shown =>
    "the following required arguments were not provided:"
      ++ String.join (shown.map fun s => "\n  " ++ s)

/-- Something that exists and is similar. -/
def similarTip (what : String) : List String → List String
  | [] => []
  | [one] => ["a similar " ++ what ++ " exists: " ++ inQuotes one]
  | several =>
    ["some similar " ++ what ++ "s exist: " ++ ", ".intercalate (several.map inQuotes)]

/-- What might have been meant. -/
def Cause.tips : Cause → List String
  | .unknownCommand _ similar => similarTip "subcommand" similar
  | .unknownArgument _ tips => tips
  | _ => []

/-- Help and the version are answers and not complaints. -/
def Cause.isComplaint : Cause → Bool
  | .help _ | .version _ | .nothingGiven _ => false
  | _ => true

namespace Fault

/-- All that is shown. -/
def text (f : Fault) : String :=
  if f.cause.isComplaint then
    let tips := f.cause.tips.map fun tip => "\n  tip: " ++ tip
    "error: " ++ f.cause.message
      ++ (if tips.isEmpty then "" else "\n" ++ String.join tips)
      ++ ((f.usage.map fun u => "\n\n" ++ u).getD "")
      ++ "\n\nFor more information, try '--help'.\n"
  else f.cause.message ++ "\n"

/-- The first paragraph of what is shown. Help has none. -/
def brief (f : Fault) : Option String :=
  match f.cause with
  | .help _ | .nothingGiven _ => none
  | _ => some (trimEnd (String.ofList (firstParagraph f.text.toList)))

/-- It is an answer to what was asked. -/
def isAnswer (f : Fault) : Bool :=
  match f.cause with
  | .help _ | .version _ => true
  | _ => false

end Fault

end CoachClient.Command
