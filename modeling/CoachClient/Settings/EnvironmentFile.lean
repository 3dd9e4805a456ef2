/-
CoachClient.Settings.EnvironmentFile — files with variables.

A file has one assignment a line: a name, an equals sign and a value. The value
may be quoted, in single quotes as it stands and in double quotes with escapes,
and may name other variables after a dollar sign. A quoted value goes on over
the ends of lines. A `#` at the start of a line or after a blank begins a
comment.

* `nextLine` — the first line of a file, quotes taken into account.
* `readAssignment` — the assignment of a line, if it has one.
* `Environment.addFile` — the variables of a file, which do not replace others;
  from the first line on that is malformed or no text the file is ignored.
* `Sighting`, `firstFile` — the file that counts is the first one on the way from the
  working directory to the root.
-/
import CoachClient.Settings.Environment
import CoachClient.Text.Alphanumeric
import CoachClient.Text.Parts
import CoachClient.Text.Utf8

namespace CoachClient.Settings

open CoachClient.Text

/-! ## 1. Lines -/

/-- What the end of a piece of a line depends on. -/
inductive LineState where
  | complete
  | escaped
  | single
  | singleEscaped
  | double
  | doubleEscaped
  | blank
  deriving DecidableEq, Repr

/-- The state after a character outside of quotes. -/
def plainState (afterBlank : Bool) (c : Char) : LineState :=
  if c = '\\' then .escaped
  else if c = '"' then .double
  else if c = '\x27' then .single
  else if !afterBlank && isBlank c && c != '\n' && c != '\r' then .blank
  else .complete

/-- The state after one more character. -/
def LineState.next (s : LineState) (c : Char) : LineState :=
  match s with
  | .complete => plainState false c
  | .blank => plainState true c
  | .escaped => .complete
  | .single => if c = '\\' then .singleEscaped else if c = '\x27' then .complete else .single
  | .singleEscaped => .single
  | .double => if c = '\\' then .doubleEscaped else if c = '"' then .complete else .double
  | .doubleEscaped => .double

/-- Go through a piece of a line: the state at its end, or the part before a
comment. -/
def scanPiece : LineState → (before : List Char) → List Char → LineState ⊕ List Char
  | s, _, [] => .inl s
  | s, before, c :: cs =>
    if s = .blank && c = '#' then .inr before.reverse
    else scanPiece (s.next c) (c :: before) cs

/-- The first line that begins in a text, and what follows it. Lines are put
together as long as a quote is open; `none` when it never closes. -/
def nextLine : (fuel : Nat) → LineState → (sofar : List Char) → List Char →
    Option (List Char × List Char)
  | 0, _, _, _ => none
  | fuel + 1, s, sofar, text =>
    if text.isEmpty then none
    else
      let (piece, rest) := splitAfter (· == '\n') text
      let line := sofar ++ piece
      if (line.dropWhile isBlank).head? = some '#' then some ([], rest)
      else match scanPiece s [] piece with
        | .inr before => some (sofar ++ before, rest)
        | .inl .complete => some (withoutLineEnd line, rest)
        | .inl s' => nextLine fuel s' line rest

/-! ## 2. Values -/

/-- Where the reading of a value has got to. -/
inductive ValueState where
  | plain
  | escaped (inQuotes : Bool)
  | single
  | double
  /-- Inside the name of a variable, in braces or not: letters and digits of any script. -/
  | name (inBraces : Bool) (inQuotes : Bool) (chars : List Char)
  /-- After the value. -/
  | after
  deriving DecidableEq, Repr

/-- The state inside or outside of double quotes. -/
def outside (inQuotes : Bool) : ValueState := if inQuotes then .double else .plain

/-- The state and the output after one more character of a value; nothing when
the value is malformed, and no state when it ends here. -/
def valueStep (look : List Char → List Char) (s : ValueState) (out : List Char) (c : Char) :
    Option (Option ValueState × List Char) :=
  match s with
  | .after =>
    if c = ' ' || c = '\t' then some (some .after, out)
    else if c = '#' then some (none, out) else none
  | .escaped q =>
    if c = '\\' || c = '\x27' || c = '"' || c = '$' || c = ' ' then some (some (outside q), out ++ [c])
    else if c = 'n' then some (some (outside q), out ++ ['\n'])
    else none
  | .single => if c = '\x27' then some (some .plain, out) else some (some .single, out ++ [c])
  | .name true q chars =>
    if isAlphanumeric c then some (some (.name true q (chars ++ [c])), out)
    else if c = '}' then some (some (outside q), out ++ look chars)
    else some (some (.name true q (chars ++ [c])), out)
  | .name false q chars =>
    if isAlphanumeric c then some (some (.name false q (chars ++ [c])), out)
    else if c = '{' && chars.isEmpty then some (some (.name true q []), out)
    else if c = '$' then some (some (.name false q []), out ++ look chars)
    else some (some (outside q), out ++ look chars ++ [c])
  | .double =>
    if c = '$' then some (some (.name false true []), out)
    else if c = '"' then some (some .plain, out)
    else if c = '\\' then some (some (.escaped true), out)
    else some (some .double, out ++ [c])
  | .plain =>
    if c = '$' then some (some (.name false false []), out)
    else if c = '\x27' then some (some .single, out)
    else if c = '"' then some (some .double, out)
    else if c = '\\' then some (some (.escaped false), out)
    else if c = ' ' || c = '\t' then some (some .after, out)
    else some (some .plain, out ++ [c])

/-- The value at the end of a line in a state. -/
def valueEnd (look : List Char → List Char) (s : ValueState) (out : List Char) :
    Option (List Char) :=
  match s with
  | .plain | .after | .escaped false => some out
  | .name false false chars => some (out ++ look chars)
  | .single | .double | .escaped true | .name _ true _ | .name true _ _ => none

/-- Read a value. -/
def readValue (look : List Char → List Char) : ValueState → (out : List Char) → List Char →
    Option (List Char)
  | s, out, [] => valueEnd look s out
  | s, out, c :: cs =>
    match valueStep look s out c with
    | none => none
    | some (none, out) => some out
    | some (some s', out) => readValue look s' out cs

/-! ## 3. Assignments -/

/-- A character that begins a name. -/
def opensName (c : Char) : Bool := ('a' ≤ c && c ≤ 'z') || ('A' ≤ c && c ≤ 'Z') || c == '_'

/-- A character of a name. -/
def continuesName (c : Char) : Bool := opensName c || isDigit c || c == '.'

/-- The name at the start of a text, and what follows it and blanks. -/
def readName (cs : List Char) : Option (List Char × List Char) :=
  match cs.head? with
  | some c =>
    if opensName c then
      some (cs.takeWhile continuesName, (cs.dropWhile continuesName).dropWhile isBlank)
    else none
  | none => none

/-- The text after an equals sign and blanks. -/
def afterEquals : List Char → Option (List Char)
  | '=' :: cs => some (cs.dropWhile isBlank)
  | _ => none

/-- The name and the value as written of a line that is not empty. The word
`export` may stand in front. -/
def splitAssignment (cs : List Char) : Option (List Char × List Char) := do
  let (name, rest) ← readName cs
  match afterEquals rest with
  | some value => some (name, value)
  | none =>
    if name == "export".toList then do
      let (name, rest) ← readName rest
      let value ← afterEquals rest
      some (name, value)
    else none

/-- The assignment of a line: nothing when the line is malformed, and none when
it is empty or a comment. -/
def readAssignment (look : List Char → List Char) (line : List Char) :
    Option (Option (String × String)) :=
  let cs := (dropEndWhile isBlank line).dropWhile isBlank
  match cs with
  | [] => some none
  | '#' :: _ => some none
  | _ => do
    let (name, value) ← splitAssignment cs
    match value with
    | [] => some (some (String.ofList name, ""))
    | '#' :: _ => some (some (String.ofList name, ""))
    | _ =>
      let value ← readValue look .plain [] value
      some (some (String.ofList name, String.ofList value))

/-! ## 4. Files -/

/-- The value that a name stands for inside a value: that of the environment, or
else the last one of the file, or else nothing. -/
def lookUp (env file : Environment) (name : List Char) : List Char :=
  let name := String.ofList name
  (((env.get? name) <|> (file.get? name)).getD "").toList

/-- Add the variables of the lines of a text. -/
def addLines : (fuel : Nat) → (env file : Environment) → List Char → Environment
  | 0, env, _, _ => env
  | fuel + 1, env, file, text =>
    match nextLine (text.length + 1) .complete [] text with
    | none => env
    | some (line, rest) =>
      match readAssignment (lookUp env file) line with
      | none => env
      | some none => addLines fuel env file rest
      | some (some (name, value)) => addLines fuel (env.add name value) ((name, value) :: file) rest

/-- The text of the lines of a file before the first one that is no text. -/
def leadingText (bytes : List UInt8) : List Char :=
  match Utf8.decodeFrom 0 bytes with
  | .ok cs => cs
  | .error offset =>
    let lines := dropEndWhile (· != 0x0A) (bytes.take offset)
    (Utf8.decodeFrom 0 lines).toOption.getD []

/-- The environment with the variables of a file. A mark of the byte order at its
start does not count. -/
def Environment.addFile (env : Environment) (bytes : List UInt8) : Environment :=
  let cs := match leadingText bytes with
    | '\uFEFF' :: cs => cs
    | cs => cs
  addLines (cs.length + 1) env [] cs

/-! ## 5. Where the file is -/

/-- What is found in a directory under the name of the file. -/
inductive Sighting where
  | file (contents : List UInt8)
  /-- There is nothing, or it is no file. -/
  | nothing
  /-- It is not possible to find out, or to read the file. -/
  | fault
  deriving DecidableEq, Repr

/-- The contents of the file that counts: that of the first directory that has one. A
fault on the way ends the search. -/
def firstFile : List Sighting → Option (List UInt8)
  | [] | .fault :: _ => none
  | .file contents :: _ => some contents
  | .nothing :: rest => firstFile rest

end CoachClient.Settings
