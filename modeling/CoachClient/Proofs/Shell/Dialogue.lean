/-
CoachClient.Proofs.Shell.Dialogue — what a dialogue does with what is typed.

* `commandOf?` — the command that a line says; `SaysNothing`, `commandOf?_eq_none_iff` —
  the three kinds of lines that say none.
* `endingOf` — how a dialogue ends with what is typed, if it does.
* `turn_goesOn`, `turn_ends` — one turn: a line is obeyed, or the dialogue is over.
* `Heeds` — lines read one after the other, and the commands that are run on them.
* `turns_heed` — any number of turns, if there are enough of them.
* `dialogue_obeys_its_lines` — the dialogue as a whole.
* `LineReader.replay` — nothing is said about what is typed: any lines, interruptions and
  failures may come in any order.

Whether a dialogue goes on is told from what is typed alone, so `endingOf` does not know
what commands come to. That a command never ends it unless it is the one to leave is
`runCommand_ne_exit`, and that there are turns enough is that no command adds to what is
left to be typed.
-/
import CoachClient.Proofs.Shell.Program
import CoachClient.Proofs.Shell.Prompt

namespace CoachClient.Shell

open CoachClient.Command CoachClient.Service CoachClient.Settings CoachClient.Text

/-! ## 1. What is typed -/

/-- The command that a line says: the line has words, and they are read as the command. -/
def commandOf? (line : String) : Option Command :=
  match splitWords line with
  | .ok (word :: words) => (readCommand (word :: words)).toOption
  | _ => none

/-- A line that says no command. -/
inductive SaysNothing (line : String) : Prop where
  | blank (hwords : splitWords line = .ok [])
  | openQuote (hwords : splitWords line = .error .openQuote)
  | unread {words : List String} {fault : Command.Fault} (hwords : splitWords line = .ok words)
      (hread : readCommand words = .error fault)

/-- The dialogue ends with a line that says so, when it is interrupted, and when there is
no line any more; it fails when no line can be read. -/
def endingOf : Except ReadFault String → Option Ending
  | .ok line => if commandOf? line = some .exit then some .left else none
  | .error .endOfInput | .error .interrupted => some .left
  | .error fault => some (.failed fault)

/-- Leaving is a success, and not being able to read is none. -/
def Ending.code : Ending → UInt32
  | .left => 0
  | .failed _ => 1

section
variable {line : String}

theorem commandOf?_eq_none_iff : commandOf? line = none ↔ SaysNothing line := by
  unfold commandOf?
  constructor
  · intro hnone
    cases hwords : splitWords line with
    | error fault =>
      cases fault with
      | openQuote => exact .openQuote hwords
    | ok words =>
      cases words with
      | nil => exact .blank hwords
      | cons word words =>
        cases hread : readCommand (word :: words) with
        | error fault => exact .unread hwords hread
        | ok c => simp [hwords, hread, Except.toOption] at hnone
  · rintro (hwords | hwords | ⟨hwords, hread⟩)
    · simp [hwords]
    · simp [hwords]
    · rename_i words fault
      cases words with
      | nil => simp [hwords]
      | cons word words => simp [hwords, hread, Except.toOption]

theorem readLine_of_some {c : Command} (h : commandOf? line = some c) :
    readLine line = .command c := by
  unfold commandOf? at h
  unfold readLine
  split at h
  · rename_i word words hwords
    cases hread : readCommand (word :: words) with
    | error fault => simp [hread, Except.toOption] at h
    | ok c' =>
      simp only [hread, Except.toOption, Option.some.injEq] at h
      simp [hwords, hread, h]
  · cases h

end

/-! ## 2. One turn -/

section
variable {x : Context} {s : Scene} {line : String} {c : Command}

theorem runLogin_ne_exit (x : Context) (given : Option String) (s : Scene) :
    ((runLogin x given).run s).1 ≠ .ok .exit := by
  obtain ⟨result, rest, hemail⟩ := findEmail_run x given s
  rw [runLogin, run_bind_of hemail]
  cases result with
  | error trouble =>
    intro hexit
    cases hexit
  | ok email =>
    cases hpassword : findPassword x with
    | error trouble =>
      intro hexit
      cases hexit
    | ok password =>
      rcases hrun : (signIn x ⟨email, password⟩).run { s with input := rest } with ⟨result, s'⟩
      simp only
      rw [run_bind_of hrun]
      cases result with
      | error failure =>
        intro hexit
        cases hexit
      | ok profile =>
        intro hexit
        cases hexit

theorem runLogout_ne_exit (x : Context) (s : Scene) : ((runLogout x).run s).1 ≠ .exit := by
  rcases hrun : s.app.client.signOut.run x.surroundings s.world with ⟨result, w⟩
  rw [runLogout, run_bind_of (carryOut_run hrun)]
  cases result with
  | error failure =>
    intro hexit
    cases hexit
  | ok _ =>
    intro hexit
    cases hexit

theorem runGuarded_ne_exit (x : Context) (g : GuardedCommand) (s : Scene) :
    ((runGuarded x g).run s).1 ≠ .ok .exit := by
  by_cases hmay : MayBeRunBy s.world.store.snapshot g
  · rw [runGuarded_of_may hmay]
    cases ((view x g).run s).1 with
    | error trouble =>
      intro hexit
      cases hexit
    | ok shown =>
      intro hexit
      cases hexit
  · rw [runGuarded_of_not hmay]
    intro hexit
    cases hexit

/-- Nothing but the command to leave comes to leaving. -/
theorem runCommand_ne_exit (x : Context) (s : Scene) (hc : c ≠ .exit) :
    ((runCommand x c).run s).1 ≠ .ok .exit := by
  cases c with
  | login given => exact runLogin_ne_exit x given s
  | logout =>
    intro hexit
    exact runLogout_ne_exit x s (Except.ok.inj hexit)
  | shell =>
    intro hexit
    cases hexit
  | exit => exact absurd rfl hc
  | guarded g => exact runGuarded_ne_exit x g s

/-- A turn runs its command, and goes on whether the command fails or not. -/
theorem turnOfCommand_run (x : Context) (s : Scene) (hc : c ≠ .exit) :
    ∃ printed, (turnOfCommand x c).run s = ((printed, none), ((runCommand x c).run s).2) := by
  have hstays := runCommand_ne_exit x s hc
  rcases hrun : (runCommand x c).run s with ⟨result, s'⟩
  rw [hrun] at hstays
  rw [turnOfCommand, run_bind_of hrun]
  cases result with
  | error trouble => exact ⟨_, rfl⟩
  | ok outcome =>
    cases outcome with
    | rendered text => exact ⟨_, rfl⟩
    | redirected target => exact ⟨_, rfl⟩
    | exit => exact absurd rfl hstays

/-- A line that says nothing changes nothing. -/
theorem turnOfLine_of_saysNothing (x : Context) (s : Scene) (h : SaysNothing line) :
    ∃ printed, (turnOfLine x line).run s = ((printed, none), s) := by
  cases h with
  | blank hwords => exact ⟨_, by simp only [turnOfLine, readLine, hwords]; rfl⟩
  | openQuote hwords => exact ⟨_, by simp only [turnOfLine, readLine, hwords]; rfl⟩
  | @unread words fault hwords hread =>
    cases words with
    | nil => exact ⟨_, by simp only [turnOfLine, readLine, hwords]; rfl⟩
    | cons word words => exact ⟨_, by simp only [turnOfLine, readLine, hwords, hread]; rfl⟩

/-- What a line leaves: what its command leaves, if it says one. -/
def Scene.obey (x : Context) (line : String) (s : Scene) : Scene :=
  match commandOf? line with
  | some c => ((runCommand x c).run s).2
  | none => s

/-- A line that does not end the dialogue is obeyed. -/
theorem turnOfLine_run (x : Context) (s : Scene) (hgoes : endingOf (.ok line) = none) :
    ∃ printed, (turnOfLine x line).run s = ((printed, none), s.obey x line) := by
  cases hcommand : commandOf? line with
  | none =>
    simp only [Scene.obey, hcommand]
    exact turnOfLine_of_saysNothing x s (commandOf?_eq_none_iff.mp hcommand)
  | some c =>
    have hc : c ≠ .exit := by
      rintro rfl
      simp [endingOf, hcommand] at hgoes
    simp only [Scene.obey, hcommand, turnOfLine, readLine_of_some hcommand]
    exact turnOfCommand_run x s hc

theorem turn_goesOn {rest : List UInt8} (hnext : x.reader.next s.input = (.ok line, rest))
    (hgoes : endingOf (.ok line) = none) :
    ∃ printed, (turn x).run s = ((printed, none), Scene.obey x line { s with input := rest }) := by
  obtain ⟨printed, hline⟩ := turnOfLine_run x { s with input := rest } hgoes
  refine ⟨printed, ?_⟩
  rw [← hline]
  simp only [turn, StateT.run_bind, StateT.run_get, pure_bind, hnext]
  rfl

theorem turn_ends {rest : List UInt8} {typed : Except ReadFault String} {ending : Ending}
    (hnext : x.reader.next s.input = (typed, rest)) (hends : endingOf typed = some ending) :
    ∃ printed, (turn x).run s = ((printed, some ending), { s with input := rest }) := by
  simp only [turn, StateT.run_bind, StateT.run_get, pure_bind, hnext]
  cases typed with
  | ok line =>
    simp only [endingOf] at hends
    split at hends
    · rename_i hexit
      obtain rfl := Option.some.inj hends
      refine ⟨[], ?_⟩
      simp only [turnOfLine, readLine_of_some hexit]
      rfl
    · cases hends
  | error fault =>
    cases fault with
    | endOfInput => exact ⟨_, by obtain rfl := Option.some.inj hends; rfl⟩
    | interrupted => exact ⟨_, by obtain rfl := Option.some.inj hends; rfl⟩
    | notText => exact ⟨_, by obtain rfl := Option.some.inj hends; rfl⟩
    | broken causes => exact ⟨_, by obtain rfl := Option.some.inj hends; rfl⟩

end

/-! ## 3. What is left to be typed -/

/-- Nothing is added to what is left to be typed. -/
def Shrinks (s s' : Scene) : Prop := s'.input.length ≤ s.input.length

instance : IsPreorder Scene Shrinks where
  refl s := Nat.le_refl s.input.length
  trans _ _ _ h h' := Nat.le_trans h' h

theorem Shrinks.allows (x : Context) : Allows x Shrinks where
  signIn _ s := Nat.le_refl s.input.length
  signOut s := Nat.le_refl s.input.length
  perform _ s := Nat.le_refl s.input.length
  remember email s := by
    unfold Scene.rememberEmail
    split <;> exact Nat.le_refl s.input.length
  identify _ s := Nat.le_refl s.input.length
  input s := x.reader.length_le s.input

/-- No line that is obeyed adds to it. -/
theorem obey_shrinks (x : Context) (line : String) (s : Scene) : Shrinks s (s.obey x line) := by
  unfold Scene.obey
  split
  · exact runCommand_keeps (Shrinks.allows x) _ s
  · exact Nat.le_refl s.input.length

/-! ## 4. The dialogue -/

/-- Lines are read one after the other, each from the scene that is left by what came
before; one that says nothing is passed over, and a command is run. Between the two
scenes these commands are run, in this order, and nothing else is done. -/
inductive Heeds (x : Context) : Scene → List String → List Command → Scene → Prop where
  | done (s : Scene) : Heeds x s [] [] s
  | passed {s s' : Scene} {line : String} {rest : List UInt8} {lines : List String}
      {commands : List Command} (hnext : x.reader.next s.input = (.ok line, rest))
      (hnone : commandOf? line = none)
      (hmore : Heeds x { s with input := rest } lines commands s') :
      Heeds x s (line :: lines) commands s'
  | ran {s s' : Scene} {line : String} {rest : List UInt8} {c : Command} {lines : List String}
      {commands : List Command} (hnext : x.reader.next s.input = (.ok line, rest))
      (hcommand : commandOf? line = some c)
      (hmore : Heeds x ((runCommand x c).run { s with input := rest }).2 lines commands s') :
      Heeds x s (line :: lines) (c :: commands) s'

section
variable {x : Context} {s s' : Scene} {line : String} {rest : List UInt8} {lines : List String}

theorem Heeds.cons (hnext : x.reader.next s.input = (.ok line, rest))
    (hmore : Heeds x (Scene.obey x line { s with input := rest }) lines
      (lines.filterMap commandOf?) s') :
    Heeds x s (line :: lines) ((line :: lines).filterMap commandOf?) s' := by
  cases hcommand : commandOf? line with
  | none =>
    simp only [Scene.obey, hcommand] at hmore
    rw [List.filterMap_cons_none hcommand]
    exact .passed hnext hcommand hmore
  | some c =>
    simp only [Scene.obey, hcommand] at hmore
    rw [List.filterMap_cons_some hcommand]
    exact .ran hnext hcommand hmore

/-- Turns heed the lines up to the first that is typed to end them. -/
theorem turns_heed (x : Context) {fuel : Nat} {s : Scene} (hfuel : s.input.length < fuel) :
    ∃ lines s' typed rest ending printed, Heeds x s lines (lines.filterMap commandOf?) s' ∧
      (∀ line ∈ lines, endingOf (.ok line) = none) ∧
      x.reader.next s'.input = (typed, rest) ∧ endingOf typed = some ending ∧
      (turns x fuel).run s = ((printed, ending), { s' with input := rest }) := by
  induction fuel generalizing s with
  | zero => exact absurd hfuel (Nat.not_lt_zero _)
  | succ fuel ih =>
    rcases hnext : x.reader.next s.input with ⟨typed, rest⟩
    cases hends : endingOf typed with
    | some ending =>
      obtain ⟨printed, hturn⟩ := turn_ends hnext hends
      refine ⟨[], s, typed, rest, ending, printed, .done s, ?_, hnext, hends, ?_⟩
      · intro line hline
        cases hline
      · rw [turns, run_bind_of hturn]
        rfl
    | none =>
      cases typed with
      | error fault => cases fault <;> cases hends
      | ok line =>
        obtain ⟨printed, hturn⟩ := turn_goesOn hnext hends
        have hless : rest.length < s.input.length := x.reader.length_lt hnext
        have hleft : (Scene.obey x line { s with input := rest }).input.length ≤ rest.length :=
          obey_shrinks x line { s with input := rest }
        obtain ⟨lines, s', last, left, ending, more, hheeds, hgo, hlast, hend, hrun⟩ :=
          ih (show (Scene.obey x line { s with input := rest }).input.length < fuel by omega)
        refine ⟨line :: lines, s', last, left, ending, printed ++ more, hheeds.cons hnext, ?_,
          hlast, hend, ?_⟩
        · intro other hother
          rcases List.mem_cons.mp hother with rfl | hother
          · exact hends
          · exact hgo other hother
        · rw [turns, run_bind_of hturn]
          simp only
          rw [run_bind_of hrun]
          rfl

end

/-- **The dialogue obeys its lines, in order, until it is told to end.** Lines are heeded
up to the first thing typed that ends a dialogue: the commands they say are run, in order,
and no others; what ends it is a line to leave, an interruption, the end of the input, or
that no line can be read, and only the last of these is a failure. A line that is blank,
leaves a quote open, or is not read changes nothing at all. -/
theorem dialogue_obeys_its_lines (x : Context) (s : Scene) :
    (∃ lines s' typed rest ending printed, Heeds x s lines (lines.filterMap commandOf?) s' ∧
      (∀ line ∈ lines, endingOf (.ok line) = none) ∧
      x.reader.next s'.input = (typed, rest) ∧ endingOf typed = some ending ∧
      (dialogue x).run s = ((printed, ending), { s' with input := rest }) ∧
      ∃ printed, (runDialogue x).run s = ((ending.code, printed), { s' with input := rest })) ∧
    ∀ line, SaysNothing line → ∃ printed, (turnOfLine x line).run s = ((printed, none), s) := by
  refine ⟨?_, fun line hline => turnOfLine_of_saysNothing x s hline⟩
  obtain ⟨lines, s', typed, rest, ending, printed, hheeds, hgo, hlast, hend, hrun⟩ :=
    turns_heed x (Nat.lt_succ_self s.input.length)
  have hdialogue : (dialogue x).run s =
      ((.out greeting :: printed, ending), { s' with input := rest }) := by
    simp only [dialogue, StateT.run_bind, StateT.run_get, pure_bind, hrun]
    rfl
  refine ⟨lines, s', typed, rest, ending, _, hheeds, hgo, hlast, hend, hdialogue, ?_⟩
  rw [runDialogue, run_bind_of hdialogue]
  cases ending with
  | left => exact ⟨_, rfl⟩
  | failed fault => exact ⟨_, rfl⟩

/-! ## 5. What may be typed -/

/-- What is typed is given; as much is left to be typed as there is still to be given. -/
def LineReader.replay (given : List (Except ReadFault String)) : LineReader where
  next
    | [] => (.error .endOfInput, [])
    | _ :: left => ((given.reverse[left.length]?).getD (.error .endOfInput), left)
  length_le input := by
    cases input with
    | nil => exact Nat.le_refl _
    | cons _ left => exact Nat.le_succ left.length
  length_lt {input rest line} h := by
    cases input with
    | nil => cases h
    | cons _ left =>
      obtain ⟨-, rfl⟩ := Prod.mk.inj h
      exact Nat.lt_succ_self _

/-- It is given one after the other, in the order it is in. -/
theorem LineReader.replay_next (earlier later : List (Except ReadFault String))
    (typed : Except ReadFault String) :
    (LineReader.replay (earlier ++ typed :: later)).next (List.replicate (later.length + 1) 0) =
      (typed, List.replicate later.length 0) := by
  simp [LineReader.replay, List.replicate_succ]

/-- What is typed behind an interruption is not read any more. -/
example :
    let x : Context := {
      environment := []
      surroundings := .answering []
      reader := .replay [.ok "whoami", .ok "say \x22", .error .interrupted, .ok "logout"] }
    let final := (dialogue x).run (Scene.opening Settings.initial false [] [0, 0, 0, 0])
    outText final.1.1 = greeting ++ "redirect: /login\n\n" ∧
      errText final.1.1 = "error: unterminated quote\n" ∧ final.1.2 = .left ∧
      final.2.input = [0] := by decide +kernel

end CoachClient.Shell
