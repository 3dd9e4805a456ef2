/-
CoachClient.Command.Reading — reading commands from words.

Words are read from left to right. The value of an option is looked at when the
next option or operand comes, or when the words are over; after `--` every word
is an operand.

* `Progress` — what has been read of one form.
* `readForm` — the rest of the words of a form, and of the form that one of them
  chooses.
* `Matched` — the path, the options and the operands that were read.
* `readCommand` — the command of a line of the shell.
* `readInvocation` — what the program is started with.
-/
import CoachClient.Command.Fault
import CoachClient.Text.Similarity

namespace CoachClient.Command

open CoachClient.Coaching CoachClient.Settings CoachClient.Text CoachClient.Time

/-! ## 1. What has been read -/

/-- What has been read of one form. -/
structure Progress where
  /-- An option whose value has not been looked at, or has not come yet. -/
  pending : Option (Flag × Option String) := none
  settled : List (String × Argument) := []
  operands : List String := []
  /-- All further words are operands. -/
  separated : Bool := false

/-- The names of the options that count as used once the pending one has been
looked at. One with a malformed value counts, one without a value does not, and
one that is given twice no longer does. -/
def Progress.usedNames (p : Progress) : List String :=
  let names := p.settled.map Prod.fst
  match p.pending with
  | some (flag, some _) =>
    if names.contains flag.name then names.filter (· != flag.name) else names ++ [flag.name]
  | _ => names

/-- The next word is the value of an option. -/
def Progress.awaitsValue (p : Progress) : Bool :=
  match p.pending with
  | some (_, none) => !p.separated
  | _ => false

/-- The path, the options and the operands that were read. -/
structure Matched where
  path : List String
  options : List (String × Argument)
  operands : List String

/-- A form at its place in a grammar. -/
structure Spot where
  grammar : Grammar
  path : List String
  form : Form

namespace Spot

/-- A fault with the usage of the form as a whole. -/
def fault (s : Spot) (cause : Cause) : Fault := ⟨cause, some (s.grammar.usage s.path s.form)⟩

/-- A fault with the usage of the form as it has been used. -/
def faultUsing (s : Spot) (used : List String) (cause : Cause) : Fault :=
  if used.isEmpty then s.fault cause else ⟨cause, some (s.grammar.usageWith s.path s.form used)⟩

/-- The options of the form. -/
def flags (s : Spot) : List Flag := s.grammar.flags s.form

/-- The option with a name. -/
def flag? (s : Spot) (name : String) : Option Flag := s.flags.find? fun f => f.name == name

/-- The answer to the question for the version, which only the whole has. -/
def version? (s : Spot) : Option String := if s.path.isEmpty then s.grammar.version else none

/-- The answer to the question for help. -/
def help (s : Spot) : Fault := ⟨.help (s.grammar.help s.path s.form), none⟩

/-- The spot of a form below. -/
def down (s : Spot) (name : String) (form : Form) : Spot :=
  { s with path := s.path ++ [name], form }

/-- The names of all options, the two without values among them. -/
def optionNames (s : Spot) : List String :=
  s.flags.map Flag.name ++ [helpWord] ++ (if s.version?.isSome then ["version"] else [])

end Spot

/-! ## 2. Options -/

/-- Look at the value of the pending option. -/
def settle (s : Spot) (p : Progress) : Except Fault Progress :=
  match p.pending with
  | none => .ok p
  | some (flag, none) => .error ⟨.noValue flag.shown, none⟩
  | some (flag, some value) =>
    if (p.settled.lookup flag.name).isSome then .error (s.fault (.repeatedOption flag.shown))
    else match flag.kind.read value with
      | .error reason => .error ⟨.badValue flag.shown value reason, none⟩
      | .ok a => .ok { p with pending := none, settled := p.settled ++ [(flag.name, a)] }

/-- The options with the given names, as usages show them. -/
def shownOptions (s : Spot) (names : List String) : List String :=
  names.filterMap fun name => (s.flag? name).map Flag.shown

/-- What has been used, as usages show it, once the pending option has been looked
at. -/
def shownUse (s : Spot) (p : Progress) : List String :=
  shownOptions s p.usedNames ++ (s.form.operands.take p.operands.length).map operandShown

/-- A form below with an option like the given one, if its name comes later:
where it comes, its name and the option. -/
def similarBelow (s : Spot) (name : String) (later : List String) : Option (Nat × String × String) :=
  let found := s.form.branches.filterMap fun (branch, _, form) => do
    let option ← (similar name (s.down branch form).optionNames).getLast?
    let place ← later.findIdx? (· == branch)
    some (place, branch, option)
  found.foldl (fun best next =>
    match best with
    | none => some next
    | some b => if next.1 < b.1 then some next else some b) none

/-- An option that there is not. -/
def unknownOption (s : Spot) (p : Progress) (name : String) (later : List String) : Fault :=
  let word := "--" ++ name
  let used := shownUse s p
  match (similar name s.optionNames).getLast? with
  | some option =>
    let shown := match s.flag? option with
      | some flag => flag.shown
      | none => "--" ++ option
    s.faultUsing (if used.contains shown then used else used ++ [shown])
      (.unknownArgument word (similarTip "argument" ["--" ++ option]))
  | none =>
    let tips := match similarBelow s name later with
      | some (_, branch, option) => [inQuotes (branch ++ " --" ++ option) ++ " exists"]
      | none =>
        if s.form.operands.isEmpty then []
        else ["to pass " ++ inQuotes word ++ " as a value, use " ++ inQuotes ("-- " ++ word)]
    s.faultUsing used (.unknownArgument word tips)

/-- A short option that there is not. -/
def unknownShort (s : Spot) (c : Char) : Fault :=
  let word := String.ofList ['-', c]
  let tips :=
    if s.form.operands.isEmpty then []
    else ["to pass " ++ inQuotes word ++ " as a value, use " ++ inQuotes ("-- " ++ word)]
  s.fault (.unknownArgument word tips)

/-- The name and the value of a word that begins with two hyphens. -/
def longOption? (word : String) : Option (String × Option String) :=
  match word.toList with
  | '-' :: '-' :: cs =>
    let name := String.ofList (cs.takeWhile (· != '='))
    match cs.dropWhile (· != '=') with
    | _ :: value => some (name, some (String.ofList value))
    | [] => some (name, none)
  | _ => none

/-- The first letter of a word that begins with one hyphen. -/
def shortOption? (word : String) : Option Char :=
  match word.toList with
  | '-' :: c :: _ => if c = '-' then none else some c
  | _ => none

/-- Read an option. -/
def readLong (s : Spot) (p : Progress) (name : String) (value : Option String)
    (later : List String) : Except Fault Progress :=
  match s.flag? name with
  | some flag => do
    let p ← settle s p
    match value with
    | none => .ok { p with pending := some (flag, none) }
    | some v => settle s { p with pending := some (flag, some v) }
  | none =>
    let answer : Option Fault :=
      if name = helpWord then some s.help
      else if name = "version" then s.version?.map fun v => ⟨.version v, none⟩
      else none
    match answer, value with
    | some answer, none => do
      let _ ← settle s p
      .error answer
    | some _, some v =>
      let option := "--" ++ name
      .error (s.faultUsing (shownOptions s (p.settled.map Prod.fst) ++ [option])
        (.needlessValue option v))
    | none, _ => .error (unknownOption s p name later)

/-- Read a short option; there are only those that ask a question. -/
def readShort (s : Spot) (p : Progress) (c : Char) : Except Fault Progress :=
  let answer : Option Fault :=
    if c = 'h' then some s.help
    else if c = 'V' then s.version?.map fun v => ⟨.version v, none⟩
    else none
  match answer with
  | some answer => do
    let _ ← settle s p
    .error answer
  | none => .error (unknownShort s c)

/-! ## 3. Operands -/

/-- A word that has no place. -/
def misplaced (s : Spot) (p : Progress) (word : String) : Fault :=
  let chosen := !s.form.branches.isEmpty && (word == helpWord || (s.form.branch? word).isSome)
  if p.separated && chosen then
    s.fault (.unknownArgument word
      ["subcommand " ++ inQuotes word ++ " exists; to use it, remove the '--' before it"])
  else if !s.form.branches.isEmpty then
    s.fault (.unknownCommand word (similar word s.form.choices))
  else s.fault (.unknownArgument word [])

/-- Read an operand. -/
def readOperand (s : Spot) (p : Progress) (word : String) : Except Fault Progress :=
  if p.operands.length < s.form.operands.length then do
    let p ← settle s p
    .ok { p with operands := p.operands ++ [word] }
  else .error (misplaced s p word)

/-! ## 4. Forms -/

/-- The answer to the word that asks for help on itself. No word may follow. -/
def helpOnHelp (s : Spot) : List String → Fault
  | [] => ⟨.help (s.grammar.helpUsage s.path), none⟩
  | word :: _ => ⟨.unknownCommand word [], some (s.grammar.helpUsage s.path)⟩

/-- The answer to the word that asks for help, followed by the names of a
command. -/
def helpFor (s : Spot) : List String → Fault
  | [] => s.help
  | word :: words =>
    match s.form.branch? word with
    | some (name, form) => helpFor (s.down name form) words
    | none =>
      if !s.form.branches.isEmpty && word == helpWord then
        helpOnHelp s words
      else s.fault (.unknownCommand word [])

/-- What has to be given and is not. -/
def missingFrom (s : Spot) (p : Progress) : List String :=
  (s.form.requiredFlags.filter fun f => (p.settled.lookup f.name).isNone).map Flag.shown
    ++ (s.form.operands.drop p.operands.length).map operandShown

/-- The end of the words of a form. -/
def finish (s : Spot) (p : Progress) : Except Fault Matched := do
  let p ← settle s p
  match s.form with
  | .choice _ =>
    if s.path.isEmpty && s.grammar.commandOptional then .ok ⟨s.path, p.settled, p.operands⟩
    else if p.settled.isEmpty then .error ⟨.nothingGiven (s.grammar.help s.path s.form), none⟩
    else .error (s.fault (.noCommand (s.grammar.title s.path) s.form.choices))
  | .leaf _ _ =>
    match missingFrom s p with
    | [] => .ok ⟨s.path, p.settled, p.operands⟩
    | missing => .error ⟨.missing missing,
        some (s.grammar.usageWith s.path s.form (shownUse s p))⟩

/-- One word that chooses no form. -/
def readWord (s : Spot) (p : Progress) (word : String) (later : List String) :
    Except Fault Progress :=
  if p.separated then readOperand s p word
  else if word = "--" then .ok { p with separated := true }
  else match longOption? word, shortOption? word, p.pending with
    | some (name, value), _, _ => readLong s p name value later
    | none, some c, _ => readShort s p c
    | none, none, some (flag, none) => .ok { p with pending := some (flag, some word) }
    | none, none, _ => readOperand s p word

/-- The rest of the words of a form. -/
def readForm (s : Spot) (p : Progress) : List String → Except Fault Matched
  | [] => finish s p
  | word :: words =>
    if !p.separated && !p.awaitsValue && !s.form.branches.isEmpty && word = helpWord then
      .error (helpFor s words)
    else match (if p.separated || p.awaitsValue then none else s.form.branch? word) with
      | some (name, form) => do
        let m ← readForm (s.down name form) {} words
        let p ← settle s p
        .ok { m with options := m.options ++ p.settled }
      | none => do
        let p ← readWord s p word words
        readForm s p words

/-- The words of a grammar. -/
def Grammar.read (g : Grammar) (words : List String) : Except Fault Matched :=
  readForm ⟨g, [], g.form⟩ {} words

/-! ## 5. Commands -/

namespace Matched

/-- The value of an option that is a text. -/
def text? (m : Matched) (name : String) : Option String :=
  match m.options.lookup name with
  | some (.text s) => some s
  | _ => none

/-- The value of an option that is a small number. -/
def word32? (m : Matched) (name : String) : Option UInt32 :=
  match m.options.lookup name with
  | some (.word32 n) => some n
  | _ => none

/-- The value of an option that is a large number. -/
def word64? (m : Matched) (name : String) : Option UInt64 :=
  match m.options.lookup name with
  | some (.word64 n) => some n
  | _ => none

/-- The value of an option that is a number with a sign. -/
def signed64? (m : Matched) (name : String) : Option Int64 :=
  match m.options.lookup name with
  | some (.signed64 i) => some i
  | _ => none

/-- The value of an option that is a point in time. -/
def instant? (m : Matched) (name : String) : Option Instant :=
  match m.options.lookup name with
  | some (.instant t) => some t
  | _ => none

/-- The session to be created. -/
def newSession? (m : Matched) : Option NewSession := do
  let title ← m.text? "title"
  let startsAt ← m.instant? "starts-at"
  let endsAt ← m.instant? "ends-at"
  some {
    title, startsAt, endsAt
    maxParticipants := m.word32? "max-participants"
    priceCents := m.signed64? "price-cents"
    currency := m.text? "currency" }

/-- The command that was read. -/
def command? (m : Matched) : Option Command :=
  match m.path, m.operands with
  | ["login"], [] => some (.login (m.text? "email"))
  | ["logout"], [] => some .logout
  | ["whoami"], [] => some (.guarded .whoami)
  | ["sessions", "list"], [] => some (.guarded .listSessions)
  | ["sessions", "show"], [id] => some (.guarded (.showSession id))
  | ["sessions", "create"], [] => m.newSession?.map fun n => .guarded (.createSession n)
  | ["sessions", "cancel"], [id] => some (.guarded (.cancelSession id))
  | ["admin", "users"], [] =>
    some (.guarded (.listAccounts ⟨(m.word32? "limit").getD PageRequest.first.limit,
      (m.word32? "offset").getD PageRequest.first.offset⟩))
  | ["admin", "grant"], [id, role] => some (.guarded (.grantRole id role))
  | ["admin", "revoke"], [id, role] => some (.guarded (.revokeRole id role))
  | ["admin", "disable"], [id] => (m.text? "reason").map fun reason => .guarded (.disable id reason)
  | ["admin", "reenable"], [id] => some (.guarded (.reenable id))
  | ["shell"], [] => some .shell
  | ["exit"], [] => some .exit
  | _, _ => none

/-- The settings that were given. -/
def overrides (m : Matched) : Overrides := ⟨m.text? "base-url", m.word64? "timeout"⟩

end Matched

/-- The command of a line of the shell. -/
def readCommand (words : List String) : Except Fault Command := do
  let m ← shellGrammar.read words
  match m.command? with
  | some c => .ok c
  | none => .error ⟨.nothingGiven (shellGrammar.help [] shellGrammar.form), none⟩

/-- What the program is started with. -/
def readInvocation (words : List String) : Except Fault Invocation := do
  let m ← programGrammar.read words
  .ok ⟨m.overrides, m.command?⟩

end CoachClient.Command
