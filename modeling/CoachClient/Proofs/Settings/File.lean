/-
CoachClient.Proofs.Settings.File — settings that are saved load again.

* `Settings.decode_fileText` — the form in a file reads back, for all settings.
* `loadFrom_fileText`, `loadFrom_saveTo` — so what has been written to a file is what
  is loaded from it.
-/
import CoachClient.Proofs.Json.Members
import CoachClient.Settings.File

namespace CoachClient

open CoachClient.Json CoachClient.Text

namespace Settings

theorem reads_lastEmail (email : Option String) :
    Reads 1 (Reader.optional Reader.text) ((Value.ofText? email).prettyChars 1) email := by
  cases email with
  | none => exact Reads.optional_none _
  | some email => exact (Reads.text email).optional_some (startsValue_quote email)

/-- The form in a file reads back. -/
theorem decode_fileText (s : Settings) : decoder.decode (Utf8.encode s.fileText) = .ok s :=
  record.decode_pretty
    (.cons ⟨_, rfl, (Reads.text s.baseUrl).field _ _ _⟩
      (.cons ⟨_, rfl, (Reads.word64 s.timeoutSeconds).field _ _ _⟩
        (.cons ⟨_, rfl, (Reads.text s.loginPath).field _ _ _⟩
          (.cons ⟨_, rfl, (reads_lastEmail s.lastEmail).field _ _ _⟩ .nil))))
    (by simp) rfl

/-- What has been written to a file is loaded from it. -/
theorem loadFrom_fileText (path : String) (s : Settings) :
    Settings.loadFrom path (some (Utf8.encode s.fileText)) = .ok s := by
  simp only [loadFrom, Utf8.decode_encode, decode_fileText]
  rfl

theorem read?_saveTo (path : String) (s : Settings) (fs : Files) :
    (saveTo path s fs).read? path = some (Utf8.encode s.fileText) := by
  simp [saveTo, Files.read?, Files.write]

/-- What has been saved is what is loaded. -/
theorem loadFrom_saveTo (path : String) (s : Settings) (fs : Files) :
    loadFrom path ((saveTo path s fs).read? path) = .ok s := by
  rw [read?_saveTo, loadFrom_fileText]

end Settings

end CoachClient
