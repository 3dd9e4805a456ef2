/-
CoachClient.Proofs.Shell.Layers — where each setting of a run comes from.

* `layered` — each setting by itself: from the command line, else from the
  environment, else from the file, else the default.
* `Loadable` — there is nothing wrong with the file or with the environment.
* `takeEnvironment_readable`, `takeEnvironment_unreadable` — what the
  environment makes of settings; only its time limit can be malformed.
* `effectiveSettings_layered` — then the settings are layered. Otherwise neither
  the file nor the environment counts for anything, and the command line is put
  on the defaults.
* `malformed_timeout_discards_file` — the fault need not have to do with the
  setting that is lost.
-/
import CoachClient.Proofs.Service.Script
import CoachClient.Shell.Program

namespace CoachClient.Shell

open CoachClient.Json CoachClient.Settings CoachClient.Text

/-! ## 1. Layers -/

/-- The address of the environment. -/
def environmentAddress (env : Environment) : Option String :=
  (env.filled? Environment.baseUrlName).map trim

/-- A time limit in seconds, with blanks around it. -/
def readSeconds (text : String) : Option UInt64 :=
  ((readUnsigned maxWord64 (trim text).toList).toOption).map UInt64.ofNat

/-- The time limit of the environment, if it can be read. -/
def environmentTimeout (env : Environment) : Option UInt64 :=
  (env.filled? Environment.timeoutName).bind readSeconds

/-- The settings of the file; one that cannot be loaded counts as absent. -/
def fileSettings (m : Machine) (env : Environment) (files : Files) : Settings :=
  match configPath m env with
  | none => Settings.initial
  | some path => ((loadFile m files path).toOption).getD Settings.initial

/-- Each setting from the first source that has it. -/
def layered (m : Machine) (env : Environment) (files : Files) (o : Overrides) : Settings where
  baseUrl := (o.baseUrl <|> environmentAddress env).getD (fileSettings m env files).baseUrl
  timeoutSeconds :=
    (o.timeoutSeconds <|> environmentTimeout env).getD (fileSettings m env files).timeoutSeconds
  loginPath := (fileSettings m env files).loginPath
  lastEmail := (fileSettings m env files).lastEmail

/-! ## 2. Faults -/

/-- The time limit of the environment is not malformed. -/
def Readable (env : Environment) : Prop :=
  ∀ text, env.filled? Environment.timeoutName = some text → readSeconds text ≠ none

/-- There is a place for the configuration file, the file is absent or can be read and
taken for settings, and the time limit of the environment is not malformed. -/
structure Loadable (m : Machine) (env : Environment) (files : Files) : Prop where
  file : ∃ path s, configPath m env = some path ∧ loadFile m files path = .ok s
  timeout : Readable env

theorem takeEnvironment_readable {env : Environment} (h : Readable env) (s : Settings) :
    s.takeEnvironment env =
      ({ s with
          baseUrl := (environmentAddress env).getD s.baseUrl
          timeoutSeconds := (environmentTimeout env).getD s.timeoutSeconds }, .ok ()) := by
  unfold takeEnvironment environmentAddress environmentTimeout
  cases haddress : env.filled? Environment.baseUrlName with
  | _ =>
    cases htimeout : env.filled? Environment.timeoutName with
    | none => rfl
    | some text =>
      have hread := h text htimeout
      unfold readSeconds at hread
      cases hn : readUnsigned maxWord64 (trim text).toList with
      | error fault => exact absurd (by rw [hn]; rfl) hread
      | ok n => simp [readSeconds, hn, Except.toOption]

theorem takeEnvironment_unreadable {env : Environment} (h : ¬ Readable env) (s : Settings) :
    ∃ s' fault, s.takeEnvironment env = (s', .error fault) := by
  obtain ⟨text, h⟩ := Classical.not_forall.mp h
  obtain ⟨htimeout, hread⟩ := Classical.not_imp.mp h
  rw [Decidable.not_not, readSeconds] at hread
  unfold takeEnvironment
  cases hn : readUnsigned maxWord64 (trim text).toList with
  | ok n => simp [hn, Except.toOption] at hread
  | error fault =>
    simp only [htimeout, hn]
    exact ⟨_, fault, rfl⟩

/-! ## 3. The settings of a run -/

section
variable {m : Machine} {env : Environment} {files : Files}

theorem load_of_loadable (h : Loadable m env files) :
    load m env files = .ok
      { fileSettings m env files with
        baseUrl := (environmentAddress env).getD (fileSettings m env files).baseUrl
        timeoutSeconds :=
          (environmentTimeout env).getD (fileSettings m env files).timeoutSeconds } := by
  obtain ⟨path, s, hpath, hs⟩ := h.file
  have hfile : fileSettings m env files = s := by
    simp only [fileSettings, hpath, hs]
    rfl
  simp only [load, hpath, hs, bind, Except.bind, underEnvironment,
    takeEnvironment_readable h.timeout, hfile]

theorem load_of_not_loadable (h : ¬ Loadable m env files) :
    ∃ fault, load m env files = .error fault := by
  unfold load
  cases hpath : configPath m env with
  | none => exact ⟨_, rfl⟩
  | some path =>
    cases hs : loadFile m files path with
    | error fault => exact ⟨fault, by simp only [hs, bind, Except.bind]⟩
    | ok s =>
      have hunread : ¬ Readable env := fun hread => h ⟨⟨path, s, hpath, hs⟩, hread⟩
      obtain ⟨s', fault, htake⟩ := takeEnvironment_unreadable hunread s
      exact ⟨.timeout fault, by simp only [hs, bind, Except.bind, underEnvironment, htake]⟩

end

/-- **Settings are layered, as long as everything can be loaded.** With a single
fault, in the file or in the environment, nothing is left of either. -/
theorem effectiveSettings_layered (m : Machine) (env : Environment) (files : Files)
    (o : Overrides) :
    (Loadable m env files → effectiveSettings m env files o = layered m env files o) ∧
      (¬ Loadable m env files →
        effectiveSettings m env files o = Settings.initial.override o) := by
  have hfirst : ∀ {α : Type} (a b : Option α) (c : α), (a <|> b).getD c = a.getD (b.getD c) := by
    intro α a b c
    cases a <;> rfl
  refine ⟨fun h => ?_, fun h => ?_⟩
  · simp only [effectiveSettings, loadOrInitial, load_of_loadable h, override, layered, hfirst]
  · -- a fault of any source leaves no settings at all
    obtain ⟨fault, hfault⟩ := load_of_not_loadable h
    simp only [effectiveSettings, loadOrInitial, hfault]

/-- A time limit that is no number, and a file that names a path. -/
def malformedTimeout : Environment :=
  [("HOME", "/h"), (Environment.timeoutName, "soon")]

/-- A configuration file below the home directory with one member. -/
def oneMember (name value : String) : Files :=
  [("/h/.config/coachline/config.json",
    Utf8.encode (Value.object [(name, .text value)]).compact)]

/-- A malformed time limit takes the path of the file with it. -/
theorem malformed_timeout_discards_file :
    effectiveSettings {} malformedTimeout (oneMember "login_path" "/enter") {} ≠
      layered {} malformedTimeout (oneMember "login_path" "/enter") {} := by
  decide +kernel

end CoachClient.Shell
