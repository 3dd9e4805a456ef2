/-
CoachClient.Proofs.Shell.Program — what every run of the program keeps.

* `turn_keeps`, `turns_keeps` — what commands keep is kept by a turn of the
  dialogue and, by induction, by any number of turns.
* `runInvocation_keeps` — and so by the dialogue and by a single command.
* `Start.scene`, `run_cases` — a run does nothing, or it is the run of an
  invocation from the scene at the start.
-/
import CoachClient.Proofs.Shell.Frame
import CoachClient.Shell.Program

namespace CoachClient.Shell

open CoachClient.Command CoachClient.Service CoachClient.Settings

/-! ## 1. The dialogue -/

section
variable {x : Context} {R : Scene → Scene → Prop} [IsPreorder Scene R]

theorem turnOfCommand_keeps (h : Allows x R) (c : Command) : Keeps R (turnOfCommand x c) := by
  unfold turnOfCommand
  refine Keeps.bind (runCommand_keeps h c) fun result => ?_
  split
  · exact Keeps.pure _
  · exact Keeps.pure _
  · exact Keeps.pure _

theorem turnOfLine_keeps (h : Allows x R) (line : String) : Keeps R (turnOfLine x line) := by
  unfold turnOfLine
  split
  · exact Keeps.pure _
  · exact Keeps.pure _
  · exact Keeps.pure _
  · exact turnOfCommand_keeps h _

theorem turn_keeps (h : Allows x R) : Keeps R (turn x) := by
  unfold turn
  refine Keeps.get_bind fun s => ?_
  have htyped : R s { s with input := (x.reader.next s.input).2 } := h.input s
  rcases hnext : x.reader.next s.input with ⟨line, rest⟩
  rw [hnext] at htyped
  refine trans_of R htyped ?_
  cases line with
  | ok line => exact turnOfLine_keeps h line _
  | error fault =>
    cases fault with
    | endOfInput => exact refl_of R _
    | interrupted => exact refl_of R _
    | notText => exact refl_of R _
    | broken causes => exact refl_of R _

/-- Any number of turns. -/
theorem turns_keeps (h : Allows x R) (fuel : Nat) : Keeps R (turns x fuel) := by
  induction fuel with
  | zero => exact Keeps.pure _
  | succ fuel ih =>
    unfold turns
    refine Keeps.bind (turn_keeps h) fun result => ?_
    split
    · exact Keeps.pure _
    · exact Keeps.bind ih fun _ => Keeps.pure _

theorem dialogue_keeps (h : Allows x R) : Keeps R (dialogue x) := by
  unfold dialogue
  exact Keeps.get_bind fun s => Keeps.bind (turns_keeps h _) (fun _ => Keeps.pure _) s

/-! ## 2. Invocations -/

theorem runDialogue_keeps (h : Allows x R) : Keeps R (runDialogue x) := by
  unfold runDialogue
  refine Keeps.bind (dialogue_keeps h) fun result => ?_
  split
  · exact Keeps.pure _
  · exact Keeps.pure _

theorem runOnce_keeps (h : Allows x R) (c : Command) : Keeps R (runOnce x c) := by
  unfold runOnce
  refine Keeps.bind ?_ fun signedIn => ?_
  · split
    · exact signInFromEnvironment_keeps h
    · exact Keeps.pure _
  · split
    · exact Keeps.pure _
    · refine Keeps.bind (runCommand_keeps h c) fun result => ?_
      split
      · exact Keeps.pure _
      · exact Keeps.pure _

/-- What commands keep is kept by a whole invocation. -/
theorem runInvocation_keeps (h : Allows x R) (c : Option Command) :
    Keeps R (runInvocation x c) := by
  unfold runInvocation
  split
  · exact runDialogue_keeps h
  · exact runDialogue_keeps h
  · exact runOnce_keeps h _

end

/-! ## 3. Runs -/

/-- What stays the same during a run. -/
def Start.context (start : Start) : Context :=
  ⟨start.fullEnvironment, start.machine, start.surroundings, start.typedPassword, start.reader⟩

/-- The scene at the start, with the settings of the run. -/
def Start.scene (start : Start) (settings : Settings) : Scene :=
  { app := { settings }, files := start.files, input := start.input }

/-- A run does nothing, or it runs an invocation with the effective settings. -/
theorem run_cases (start : Start) :
    ((run start).files = start.files ∧ (run start).world = World.fresh) ∨
      ∃ invocation, readInvocation start.arguments = .ok invocation ∧
        let settings :=
          effectiveSettings start.machine start.fullEnvironment start.files invocation.overrides
        let final := ((runInvocation start.context invocation.command).run
          (start.scene settings)).2
        settings.fault? = none ∧ (run start).files = final.files ∧
          (run start).world = final.world := by
  unfold run
  split
  · exact Or.inl ⟨rfl, rfl⟩
  · rename_i invocation hread
    simp only
    split
    · exact Or.inl ⟨rfl, rfl⟩
    · rename_i hfault
      exact Or.inr ⟨invocation, hread, hfault, rfl, rfl⟩

end CoachClient.Shell
