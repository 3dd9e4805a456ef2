/-
CoachClient.Proofs.Coaching.Rules — what a request for a new session has to be, and what
it says.

* `Instant.key`, `Instant.before_iff`, `Instant.before_eq_false_iff` — the order in time is
  that of the parts, year, month, day, second and nanosecond, one after the other.
* `NewSession.Breaks` — the rules, each one by itself; `NewSession.firstBroken?` — the
  first one of them that a request breaks.
* `NewSession.fault?_eq_firstBroken?` — it is the fault of the request.
* `NewSession.Gives` — the members that a request has: an optional one if it was given.
* `NewSession.IsSaidBy` — a body says the request; `isSaidBy_of_perm` — an object of its
  members does, in any order.
-/
import CoachClient.Proofs.Coaching.NewSession
import Mathlib.Data.Prod.Lex

namespace CoachClient

open CoachClient.Json CoachClient.Text CoachClient.Time

/-! ## 1. The order in time -/

namespace Time

/-- The parts of an instant, in the order in which they are compared. -/
def Instant.key (t : Instant) : ℤ ×ₗ ℕ ×ₗ ℕ ×ₗ ℕ ×ₗ ℕ :=
  toLex (t.date.year, toLex (t.date.month, toLex (t.date.day, toLex (t.second, t.nano))))

theorem Date.eq_iff (a b : Date) : a = b ↔ a.year = b.year ∧ a.month = b.month ∧ a.day = b.day := by
  obtain ⟨year, month, day, _⟩ := a
  obtain ⟨year', month', day', _⟩ := b
  rw [Date.mk.injEq]

/-- An instant is before another one if its parts are. -/
theorem Instant.before_iff (a b : Instant) : a.before b = true ↔ a.key < b.key := by
  simp only [Instant.before, Date.before, Instant.key, Prod.Lex.toLex_lt_toLex, Bool.or_eq_true,
    Bool.and_eq_true, decide_eq_true_eq, beq_iff_eq, Date.eq_iff]
  omega

/-- Otherwise it is after it, or the same. -/
theorem Instant.before_eq_false_iff (a b : Instant) : a.before b = false ↔ b.key ≤ a.key := by
  rw [← Bool.not_eq_true, before_iff, not_lt]

end Time

namespace Coaching.NewSession

/-! ## 2. Rules -/

/-- The request breaks a rule. -/
def Breaks (n : NewSession) : Fault → Prop
  | .blankTitle => ∀ c ∈ n.title.toList, isBlank c = true
  | .endNotAfterStart => n.endsAt.key ≤ n.startsAt.key
  | .noParticipants => n.maxParticipants = some 0

instance (n : NewSession) : DecidablePred n.Breaks := fun fault =>
  match fault with
  | .blankTitle => decidable_of_iff (allBlank n.title = true) List.all_eq_true
  | .endNotAfterStart => decidable_of_iff _ (Instant.before_eq_false_iff n.startsAt n.endsAt)
  | .noParticipants => inferInstanceAs (Decidable (n.maxParticipants = some 0))

/-- The first rule that the request breaks. -/
def firstBroken? (n : NewSession) : Option Fault :=
  [Fault.blankTitle, .endNotAfterStart, .noParticipants].find? fun fault => n.Breaks fault

theorem firstBroken?_eq_none_iff {n : NewSession} :
    n.firstBroken? = none ↔ ∀ fault, ¬ n.Breaks fault := by
  simp only [firstBroken?, List.find?_eq_none, decide_eq_true_eq]
  constructor
  · intro h fault
    refine h fault ?_
    cases fault <;> simp
  · exact fun h fault _ => h fault

/-- The rules are gone through one after the other. -/
theorem firstBroken?_eq (n : NewSession) :
    n.firstBroken? =
      if n.Breaks .blankTitle then some .blankTitle
      else if n.Breaks .endNotAfterStart then some .endNotAfterStart
      else if n.Breaks .noParticipants then some .noParticipants
      else none := by
  unfold firstBroken?
  by_cases htitle : n.Breaks .blankTitle <;> by_cases htimes : n.Breaks .endNotAfterStart <;>
    by_cases hcapacity : n.Breaks .noParticipants <;> simp [htitle, htimes, hcapacity]

/-- And so is a request that is checked. -/
theorem fault?_eq_firstBroken? (n : NewSession) : n.fault? = n.firstBroken? := by
  have htitle : allBlank n.title = true ↔ n.Breaks .blankTitle := List.all_eq_true
  have htimes : (!n.startsAt.before n.endsAt) = true ↔ n.Breaks .endNotAfterStart := by
    rw [Bool.not_eq_true', Instant.before_eq_false_iff]
    rfl
  have hcapacity : (n.maxParticipants == some 0) = true ↔ n.Breaks .noParticipants := beq_iff_eq
  rw [firstBroken?_eq, fault?]
  exact if_congr htitle rfl (if_congr htimes rfl (if_congr hcapacity rfl rfl))

/-! ## 3. Members -/

/-- The request has a member of this name. -/
def Gives (n : NewSession) (name : String) : Prop :=
  name ∈ ["title", "starts_at", "ends_at"] ∨
    name = "max_participants" ∧ n.maxParticipants ≠ none ∨
    name = "price_cents" ∧ n.priceCents ≠ none ∨
    name = "currency" ∧ n.currency ≠ none

theorem mem_names_iff (n : NewSession) (name : String) :
    name ∈ n.members.map Prod.fst ↔ n.Gives name := by
  obtain ⟨title, startsAt, endsAt, capacity, price, currency⟩ := n
  cases capacity <;> cases price <;> cases currency <;> simp [members, Gives, or_assoc]

/-- The body is the request: an object that is read as it, with a member, and just one, for
what the request has. -/
structure IsSaidBy (n : NewSession) (body : List UInt8) : Prop where
  read : decoder.decode body = .ok n
  object : ∃ members, Decoder.value.decode body = .ok (.object members) ∧
    (members.map Prod.fst).Nodup ∧ ∀ name, name ∈ members.map Prod.fst ↔ n.Gives name

theorem isSaidBy_of_perm {n : NewSession} {body : List UInt8} {members : List (String × Value)}
    (hread : decoder.decode body = .ok n) (hobject : Decoder.value.decode body = .ok (.object members))
    (hperm : members.Perm n.members) : n.IsSaidBy body := by
  have hnames : (members.map Prod.fst).Perm (n.members.map Prod.fst) := hperm.map Prod.fst
  refine ⟨hread, members, hobject, hnames.nodup_iff.mpr n.members_distinct, fun name => ?_⟩
  rw [hnames.mem_iff, mem_names_iff]

end Coaching.NewSession

end CoachClient
