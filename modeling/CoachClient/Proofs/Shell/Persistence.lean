/-
CoachClient.Proofs.Shell.Persistence — what a run writes to the configuration file.

* `Start.settings?` — the settings of a run, if its arguments can be read.
* `run_files` — all that a run writes are its own settings with an email. These
  are the settings of the file under those of the environment and of the command
  line, or the defaults when there were none to load, so what only holds for the
  run gets into the file, unless it cannot be written.
* `loadFrom_after_run` — so that is what the next run loads.
* `KeepsConfiguration` — the promise that only the remembered email changes.
* `run_keepsConfiguration_iff` — exactly when a run keeps the promise.
* `overridden_address_is_saved` — a run that does not.
-/
import CoachClient.Proofs.Service.Script
import CoachClient.Proofs.Settings.File
import CoachClient.Proofs.Shell.Program

namespace CoachClient.Shell

open CoachClient.Coaching CoachClient.Command CoachClient.Json CoachClient.Service
open CoachClient.Settings CoachClient.Text

/-! ## 1. What is written -/

/-- The settings of a run. -/
def Start.settings? (start : Start) : Option Settings :=
  match readInvocation start.arguments with
  | .error _ => none
  | .ok invocation =>
    some (effectiveSettings start.machine start.fullEnvironment start.files
      invocation.overrides)

/-- A run leaves the files alone, or writes its settings with an email. -/
theorem run_files (start : Start) :
    (run start).files = start.files ∨
      ∃ settings email, start.settings? = some settings ∧
        (run start).files =
          save start.machine start.fullEnvironment { settings with lastEmail := some email }
            start.files := by
  rcases run_cases start with ⟨hfiles, -⟩ | ⟨invocation, hread, -, hfiles, -⟩
  · exact Or.inl hfiles
  · have hkeeps := runInvocation_keeps (Remembers.allows start.context) invocation.command
      (start.scene (effectiveSettings start.machine start.fullEnvironment start.files
        invocation.overrides))
    rcases hkeeps.files with hsame | ⟨email, hsaved⟩
    · exact Or.inl (hfiles.trans hsame)
    · have hsettings : start.settings? = some (effectiveSettings start.machine
          start.fullEnvironment start.files invocation.overrides) := by
        simp only [Start.settings?, hread]
      exact Or.inr ⟨_, email, hsettings, hfiles.trans hsaved⟩

/-! ## 2. The promise -/

/-- The settings differ at most in the remembered email. -/
structure SameButEmail (s t : Settings) : Prop where
  baseUrl : s.baseUrl = t.baseUrl
  timeoutSeconds : s.timeoutSeconds = t.timeoutSeconds
  loginPath : s.loginPath = t.loginPath

/-- The configuration file is as it was, or it could be loaded before, the
defaults standing for a file that is not there, and now what it holds differs
from that at most in the remembered email. -/
def KeepsConfiguration (m : Machine) (env : Environment) (before after : Files) : Prop :=
  ∀ path, configPath m env = some path →
    after.read? path = before.read? path ∨
      ∃ old new, loadFile m before path = .ok old ∧ after.read? path ≠ none ∧
        loadFrom path (after.read? path) = .ok new ∧ SameButEmail new old

/-- The file of the settings after they have been saved, if that is possible. -/
theorem read?_save {m : Machine} {env : Environment} {path : String}
    (h : configPath m env = some path) (s : Settings) (fs : Files) :
    (save m env s fs).read? path = fs.read? path ∨
      (save m env s fs).read? path = some (Utf8.encode s.fileText) := by
  simp only [save, h]
  split
  · exact Or.inr (read?_saveTo path s fs)
  · exact Or.inl rfl

/-- What the configuration file holds after a run that has changed it are the
settings of the run, with an email. -/
theorem loadFrom_after_run (start : Start) {path : String}
    (hpath : configPath start.machine start.fullEnvironment = some path) :
    (run start).files.read? path = start.files.read? path ∨
      ∃ settings email, start.settings? = some settings ∧ (run start).files.read? path ≠ none ∧
        loadFrom path ((run start).files.read? path) =
          .ok { settings with lastEmail := some email } := by
  rcases run_files start with hfiles | ⟨settings, email, hsettings, hfiles⟩
  · exact Or.inl (by rw [hfiles])
  · rcases read?_save hpath { settings with lastEmail := some email } start.files with
      hsame | hread
    · exact Or.inl (by rw [hfiles, hsame])
    · rw [← hfiles] at hread
      refine Or.inr ⟨settings, email, hsettings, ?_, ?_⟩
      · rw [hread]
        exact Option.some_ne_none _
      · rw [hread]
        exact loadFrom_fileText path _

/-- **Persisting touches only the remembered email exactly when the run has the
settings of the file.** A run that writes to the file keeps the promise if and
only if there were settings to load from it and the settings of the run differ
from these at most in the remembered email. -/
theorem run_keepsConfiguration_iff (start : Start) :
    KeepsConfiguration start.machine start.fullEnvironment start.files (run start).files ↔
      ∀ path, configPath start.machine start.fullEnvironment = some path →
        (run start).files.read? path = start.files.read? path ∨
          ∃ settings old, start.settings? = some settings ∧
            loadFile start.machine start.files path = .ok old ∧ SameButEmail settings old := by
  refine forall₂_congr fun path hpath => ?_
  rcases loadFrom_after_run start hpath with hsame | ⟨settings, email, hsettings, hthere, hload⟩
  · exact ⟨fun _ => Or.inl hsame, fun _ => Or.inl hsame⟩
  · refine or_congr Iff.rfl ⟨?_, ?_⟩
    · rintro ⟨old, new, hold, -, hnew, hsame⟩
      rw [hload] at hnew
      obtain rfl := Except.ok.inj hnew
      exact ⟨settings, old, hsettings, hold, hsame.baseUrl, hsame.timeoutSeconds, hsame.loginPath⟩
    · rintro ⟨settings', old, hsettings', hold, hsame⟩
      obtain rfl : settings = settings' := Option.some.inj (hsettings.symm.trans hsettings')
      exact ⟨old, _, hold, hthere, hload, hsame.baseUrl, hsame.timeoutSeconds, hsame.loginPath⟩

/-! ## 3. A run that breaks it -/

/-- The place of the configuration file below a home directory. -/
def homeConfig : String := "/h/.config/coachline/config.json"

/-- It is there for the home directory of the account, too, as long as none is named. -/
example : configPath { home := some "/h" } [("HOME", "")] = some homeConfig := by decide +kernel

/-- A single command after signing in from the environment, which also names
another address than the configuration file. -/
def overriddenStart : Start where
  arguments := ["exit"]
  environment := [("HOME", "/h"), (Environment.baseUrlName, "http://service"),
    (Environment.emailName, "e@x"), (Environment.passwordName, "p")]
  files := [(homeConfig, Utf8.encode
    (Value.object [("api_base_url", .text "http://elsewhere.example")]).compact)]
  input := []
  surroundings := .answering (signInScript "tok" ⟨"e@x", ["admin"]⟩)

/-- The address that is loaded from the configuration file. -/
def loadedAddress (fs : Files) : Option String :=
  (loadFrom homeConfig (fs.read? homeConfig)).toOption.map Settings.baseUrl

/-- The address of the run takes the place of the one in the file. -/
theorem overridden_address_is_saved :
    ¬ KeepsConfiguration overriddenStart.machine overriddenStart.fullEnvironment
      overriddenStart.files (run overriddenStart).files := by
  intro h
  have hbefore : loadedAddress overriddenStart.files = some "http://elsewhere.example" := by
    decide +kernel
  have hafter : loadedAddress (run overriddenStart).files = some "http://service" := by
    decide +kernel
  rcases h homeConfig (by decide +kernel) with hsame | ⟨old, new, hold, -, hnew, hsame⟩
  · rw [loadedAddress, hsame] at hafter
    exact absurd (hbefore.symm.trans hafter) (by decide)
  · have hold : loadFrom homeConfig (overriddenStart.files.read? homeConfig) = .ok old := hold
    rw [loadedAddress, hold] at hbefore
    rw [loadedAddress, hnew] at hafter
    have haddress := hsame.baseUrl
    rw [Option.some.inj hbefore, Option.some.inj hafter] at haddress
    exact absurd haddress (by decide)

end CoachClient.Shell
