/-
CoachClient.Proofs.Settings.Reload — settings survive saving.

* `FillsIn` — every member that a file leaves out has its default.
* `loadFrom_fillsIn` — whatever file settings have been loaded from, they fill it in.
* `settings_survive_saving` — what is saved is what is loaded, and what has been loaded from a
  file of any form stays the same once it is saved.
-/
import CoachClient.Proofs.Settings.File
import CoachClient.Proofs.Settings.Members

namespace CoachClient.Settings

open CoachClient.Json CoachClient.Text

/-- The settings have their defaults where no name is given. -/
structure FillsIn (names : List String) (s : Settings) : Prop where
  baseUrl : "api_base_url" ∉ names → s.baseUrl = initial.baseUrl
  timeoutSeconds : "request_timeout_secs" ∉ names → s.timeoutSeconds = initial.timeoutSeconds
  loginPath : "login_path" ∉ names → s.loginPath = initial.loginPath
  lastEmail : "last_email" ∉ names → s.lastEmail = initial.lastEmail

/-- Nothing is found of a kind that is not among the parts. -/
theorem findSome?_missing {β : Type} {names : List String} {ms : List Part}
    (hnames : ∀ m ∈ ms, m.name ∈ names) {name : String} (hname : name ∉ names)
    (f : Part → Option β) (hf : ∀ m, m.name ≠ name → f m = none) : ms.findSome? f = none :=
  List.findSome?_eq_none_iff.mpr fun m hm => hf m fun h => hname (h ▸ hnames m hm)

/-- Settings that are put together have their defaults where there is no part. -/
theorem assemble_fillsIn {names : List String} {ms : List Part} {s : Settings}
    (h : assemble ms = .ok s) (hnames : ∀ m ∈ ms, m.name ∈ names) : FillsIn names s := by
  obtain rfl := Except.ok.inj h
  constructor
  all_goals
    intro hname
    dsimp only
    rw [findSome?_missing hnames hname _ ?_, Option.getD_none]
    intro m hm
    cases m <;> first | rfl | exact absurd rfl hm

/-- A file that can be loaded has one object or list in it, and what that leaves out has its
default. -/
theorem loadFrom_fillsIn {path : String} {contents : List UInt8} {s : Settings}
    (h : loadFrom path (some contents) = .ok s) :
    ∃ v names, Around contents v ∧ Gives record.fields v names ∧ FillsIn names s := by
  simp only [loadFrom] at h
  split at h
  · cases h
  obtain ⟨v, hv, haround, htakes⟩ :=
    decoder.decode_value (.record record record_declares.reads) (mapError_eq_ok.mp h)
  obtain ⟨-, hmakes⟩ := (Takes.record_iff record record_declares.reads hv).mp htakes
  obtain ⟨ms, names, hassemble, hgives, hnames⟩ := hmakes.given record record_declares
  exact ⟨v, names, haround, hgives, assemble_fillsIn hassemble hnames⟩

/-- **Settings survive saving.** Whatever the settings are, once they are saved they are what is
loaded from the file. Settings that have been loaded stay the same when they are saved in their
place, whatever the form of the file was; and each member that the file left out has its
default in them. -/
theorem settings_survive_saving (path : String) (fs : Files) :
    (∀ s, loadFrom path ((saveTo path s fs).read? path) = .ok s) ∧
      ∀ s, loadFrom path (fs.read? path) = .ok s →
        loadFrom path ((saveTo path s fs).read? path) = .ok s ∧
          ∀ contents, fs.read? path = some contents →
            ∃ v names, Around contents v ∧ Gives record.fields v names ∧ FillsIn names s := by
  refine ⟨fun s => loadFrom_saveTo path s fs, fun s h => ⟨loadFrom_saveTo path s fs, ?_⟩⟩
  intro contents hfile
  rw [hfile] at h
  exact loadFrom_fillsIn h

/-- The file of someone who has only set the time limit, among members of another program. -/
def partialFile : Files :=
  [("config.json", Utf8.encode
    "\x7b\"theme\": [\x7b\"]\": null\x7d, 1e999], \"request_timeout_secs\": 5, \"theme\": 0\x7d")]

/-- The time limit is loaded, saved among the defaults and loaded again. -/
theorem partial_file_survives :
    ∃ s, loadFrom "config.json" (partialFile.read? "config.json") = .ok s ∧
      s = { initial with timeoutSeconds := 5 } ∧
      loadFrom "config.json" ((saveTo "config.json" s partialFile).read? "config.json") =
        .ok s := by
  have hload : loadFrom "config.json" (partialFile.read? "config.json") =
      .ok { initial with timeoutSeconds := 5 } := by decide +kernel
  exact ⟨_, hload, rfl, ((settings_survive_saving "config.json" partialFile).2 _ hload).1⟩

end CoachClient.Settings
