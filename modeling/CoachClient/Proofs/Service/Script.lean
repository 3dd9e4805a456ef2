/-
CoachClient.Proofs.Service.Script — a service with prepared answers, for
statements about a particular run.

* `Surroundings.answering` — the answers come one after another, and after the
  last of them the connection is closed.
* `signInScript` — a token, and then who its owner is.
* `eq_ok_of_fst`, `eq_error_of_fst` — the form in which a particular run is stated.
-/
import CoachClient.Service.Operation

namespace CoachClient.Service

open CoachClient.Coaching CoachClient.Http CoachClient.Json CoachClient.Text

/-- Answers one after another. -/
def Surroundings.answering (script : List Answer) : Surroundings where
  service := fun earlier _ => (script[earlier.length]?).getD .closed
  now := 0

/-- The value is the whole answer. -/
def answerOf (v : Value) : Answer := .full ⟨⟨200⟩, [], Utf8.encode v.compact⟩

/-- The answers to somebody who signs in. -/
def signInScript (token : String) (profile : Profile) : List Answer :=
  [answerOf (.object [("access_token", .text token)]), answerOf profile.toValue]

/-- A run that succeeds, from its result alone: failures cannot be compared, but
what succeeds can. -/
theorem eq_ok_of_fst {ε α β : Type} {p : Except ε α × β} {a : α}
    (h : p.1.toOption = some a) : p = (.ok a, p.2) := by
  obtain ⟨x, b⟩ := p
  cases x with
  | error _ => cases h
  | ok _ => rw [Option.some.inj h]

/-- A run that fails, whatever its failure. -/
theorem eq_error_of_fst {ε α β : Type} {p : Except ε α × β} (h : p.1.toOption = none) :
    ∃ failure, p = (.error failure, p.2) := by
  obtain ⟨x, b⟩ := p
  cases x with
  | error failure => exact ⟨failure, rfl⟩
  | ok _ => cases h

end CoachClient.Service
