/-
CoachClient.Proofs.Settings.Members — the members of settings.

* `Part.name` — the name of the member that a part comes from.
* `assemble_same` — settings do not depend on the order of their parts.
* `record_declares` — each member is read on its own.
-/
import CoachClient.Proofs.Json.Rearranged
import CoachClient.Settings.Basic

namespace CoachClient.Settings

open CoachClient.Json

/-- The name of the member that the part comes from. -/
def Part.name : Part → String
  | .baseUrl _ => "api_base_url"
  | .timeoutSeconds _ => "request_timeout_secs"
  | .loginPath _ => "login_path"
  | .lastEmail _ => "last_email"

theorem assemble_same {ms ms' : List Part} (h : SameParts Part.name ms ms') :
    assemble ms = assemble ms' := by
  unfold assemble
  rw [h _ "api_base_url" ?_, h _ "request_timeout_secs" ?_, h _ "login_path" ?_,
    h _ "last_email" ?_]
  all_goals
    intro p hp
    cases p <;> first | rfl | exact absurd rfl hp

/-- The declared members of settings. No records stand in them. -/
def declared : List (String × Shape) :=
  [("api_base_url", .plain), ("request_timeout_secs", .plain), ("login_path", .plain),
    ("last_email", .plain)]

theorem record_declares : Declares Part.name record.fields declared :=
  .cons (Field.isDeclared (.plain .text) fun _ => rfl)
    (.cons (Field.isDeclared (.plain .word64) fun _ => rfl)
      (.cons (Field.isDeclared (.plain .text) fun _ => rfl)
        (.cons (Field.isDeclared (.plain (.optional .text)) fun _ => rfl) .nil)))

/-- Settings do not depend on the order of their members, nor on others. -/
theorem decoder_ignoresOrder : decoder.IgnoresOrder (.record declared) :=
  record.ignoresOrder (fun _ _ => assemble_same) record_declares

end CoachClient.Settings
