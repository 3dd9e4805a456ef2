/-
CoachClient.Proofs.Success — what has succeeded, if its result is there.

* `bind_eq_ok`, `map_eq_ok`, `mapError_eq_ok` — a computation of several parts succeeds
  only if each part does.

A reader that fails says where and why. What it reads is seen by taking apart the runs that
succeed, and there the failures do not matter.
-/

namespace CoachClient

variable {ε ε' α β : Type}

/-- What succeeds after something else, succeeds after something that has succeeded. -/
theorem bind_eq_ok {x : Except ε α} {f : α → Except ε β} {b : β} :
    x >>= f = .ok b ↔ ∃ a, x = .ok a ∧ f a = .ok b := by
  cases x with
  | error e => simp [bind, Except.bind]
  | ok a => simp [bind, Except.bind]

theorem map_eq_ok {x : Except ε α} {f : α → β} {b : β} :
    x.map f = .ok b ↔ ∃ a, x = .ok a ∧ f a = b := by
  cases x with
  | error e => simp [Except.map]
  | ok a => simp [Except.map]

theorem mapError_eq_ok {x : Except ε α} {f : ε → ε'} {a : α} :
    x.mapError f = .ok a ↔ x = .ok a := by
  cases x with
  | error e => exact iff_of_false (fun h => by cases h) (fun h => by cases h)
  | ok a' =>
    change Except.ok a' = Except.ok a ↔ _
    exact ⟨fun h => by rw [Except.ok.inj h], fun h => by rw [Except.ok.inj h]⟩

end CoachClient
