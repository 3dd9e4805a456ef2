/-
CoachClient.Proofs.Coaching.Parts — the parts of what the service describes.

* `Part.name` — the name of the member that a part comes from.
* `assemble_same` — what is put together does not depend on the order of its parts: each part
  is looked up by its name.
-/
import CoachClient.Coaching.Account
import CoachClient.Coaching.Page
import CoachClient.Proofs.Json.Values

namespace CoachClient.Coaching

open CoachClient.Json

namespace Session

/-- The name of the member that the part comes from. -/
def Part.name : Part → String
  | .id _ => "id"
  | .coachId _ => "coach_id"
  | .coachName _ => "coach_name"
  | .title _ => "title"
  | .startsAt _ => "starts_at"
  | .endsAt _ => "ends_at"
  | .maxParticipants _ => "max_participants"
  | .priceCents _ => "price_cents"
  | .currency _ => "currency"
  | .status _ => "status"

theorem assemble_same {ms ms' : List Part} (h : SameParts Part.name ms ms') :
    assemble ms = assemble ms' := by
  unfold assemble
  rw [h _ "id" ?_, h _ "coach_id" ?_, h _ "title" ?_, h _ "starts_at" ?_, h _ "ends_at" ?_,
    h _ "status" ?_, h _ "coach_name" ?_, h _ "max_participants" ?_, h _ "price_cents" ?_,
    h _ "currency" ?_]
  all_goals
    intro p hp
    cases p <;> first | rfl | exact absurd rfl hp

end Session

namespace NewSession

/-- The name of the member that the part comes from. -/
def Part.name : Part → String
  | .title _ => "title"
  | .startsAt _ => "starts_at"
  | .endsAt _ => "ends_at"
  | .maxParticipants _ => "max_participants"
  | .priceCents _ => "price_cents"
  | .currency _ => "currency"

theorem assemble_same {ms ms' : List Part} (h : SameParts Part.name ms ms') :
    assemble ms = assemble ms' := by
  unfold assemble
  rw [h _ "title" ?_, h _ "starts_at" ?_, h _ "ends_at" ?_, h _ "max_participants" ?_,
    h _ "price_cents" ?_, h _ "currency" ?_]
  all_goals
    intro p hp
    cases p <;> first | rfl | exact absurd rfl hp

end NewSession

namespace Profile

/-- The name of the member that the part comes from. -/
def Part.name : Part → String
  | .email _ => "email"
  | .roles _ => "roles"

theorem assemble_same {ms ms' : List Part} (h : SameParts Part.name ms ms') :
    assemble ms = assemble ms' := by
  unfold assemble
  rw [h _ "email" ?_, h _ "roles" ?_]
  all_goals
    intro p hp
    cases p <;> first | rfl | exact absurd rfl hp

end Profile

namespace Account

/-- The name of the member that the part comes from. -/
def Part.name : Part → String
  | .id _ => "id"
  | .email _ => "email"
  | .roles _ => "roles"
  | .disabledAt _ => "disabled_at"
  | .disabledReason _ => "disabled_reason"
  | .createdAt _ => "created_at"

theorem assemble_same {ms ms' : List Part} (h : SameParts Part.name ms ms') :
    assemble ms = assemble ms' := by
  unfold assemble
  rw [h _ "id" ?_, h _ "email" ?_, h _ "created_at" ?_, h _ "roles" ?_, h _ "disabled_at" ?_,
    h _ "disabled_reason" ?_]
  all_goals
    intro p hp
    cases p <;> first | rfl | exact absurd rfl hp

end Account

namespace Grant

/-- The name of the member that the part comes from. -/
def Part.name : Part → String
  | .accessToken _ => "access_token"

theorem assemble_same {ms ms' : List Part} (h : SameParts Part.name ms ms') :
    assemble ms = assemble ms' := by
  unfold assemble
  rw [h _ "access_token" ?_]
  intro p hp
  cases p
  exact absurd rfl hp

end Grant

namespace Page

variable {α : Type}

/-- The name of the member that the part comes from. -/
def Part.name : Part α → String
  | .items _ => "items"
  | .limit _ => "limit"
  | .offset _ => "offset"
  | .hasMore _ => "has_more"

theorem assemble_same {ms ms' : List (Part α)} (h : SameParts Part.name ms ms') :
    assemble ms = assemble ms' := by
  unfold assemble
  rw [h _ "items" ?_, h _ "limit" ?_, h _ "offset" ?_, h _ "has_more" ?_]
  all_goals
    intro p hp
    cases p <;> first | rfl | exact absurd rfl hp

end Page

end CoachClient.Coaching
