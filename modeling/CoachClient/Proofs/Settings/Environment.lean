/-
CoachClient.Proofs.Settings.Environment — what the variables of an environment make of settings.

* `Environment.Gives`, `filled?_eq_some_iff` — a variable that is set, and not blank.
* `IsSeconds`, `readUnsigned_eq_ok_iff_isSeconds` — a text that denotes a number of seconds of 64
  bits, blanks around it apart; nothing else is read as one.
* `withAddress`, `takeEnvironment_eq` — the address is taken over first.
* `Takes` — what the settings are afterwards, and when there is a fault; `takeEnvironment_takes`
  puts it together from the three ways it can end.
* `malformed_timeout_leaves_address` — a fault in the time limit does not undo the address.

The two variables are read one after the other into one and the same settings. Whoever is told
of a fault must not go on with these, and nobody does: loading gives nothing back then.
-/
import CoachClient.Proofs.Text.Decimal
import CoachClient.Settings.Basic

namespace CoachClient.Settings

open CoachClient.Text

/-! ## 1. Variables -/

namespace Environment

variable {env : Environment} {name text : String}

/-- A variable is set to a text that is not blank. -/
def Gives (env : Environment) (name text : String) : Prop :=
  env.get? name = some text ∧ ∃ c ∈ text.toList, isBlank c = false

theorem filled?_eq_some_iff : env.filled? name = some text ↔ env.Gives name text := by
  unfold filled? Gives allBlank
  rw [Option.filter_eq_some_iff]
  simp

theorem filled?_eq_none_iff : env.filled? name = none ↔ ∀ text, ¬ env.Gives name text := by
  simp only [Option.eq_none_iff_forall_ne_some, Ne, filled?_eq_some_iff]

end Environment

/-- A text denotes a number of seconds that fits into 64 bits, with blanks around it. -/
def IsSeconds (text : String) (n : Nat) : Prop :=
  Denotes (trim text).toList n ∧ n < 2 ^ 64

theorem readUnsigned_eq_ok_iff_isSeconds {text : String} {n : Nat} :
    readUnsigned maxWord64 (trim text).toList = .ok n ↔ IsSeconds text n := by
  have hmax : maxWord64 = 2 ^ 64 - 1 := rfl
  rw [readUnsigned_eq_ok_iff, IsSeconds, hmax]
  have hfits : n ≤ 2 ^ 64 - 1 ↔ n < 2 ^ 64 := by omega
  rw [hfits]

/-! ## 2. Settings under an environment -/

/-- The settings with the address of an environment. -/
def withAddress (env : Environment) (s : Settings) : Settings :=
  match env.filled? Environment.baseUrlName with
  | some url => { s with baseUrl := trim url }
  | none => s

theorem takeEnvironment_eq (env : Environment) (s : Settings) :
    s.takeEnvironment env =
      match env.filled? Environment.timeoutName with
      | none => (s.withAddress env, .ok ())
      | some text =>
        match readUnsigned maxWord64 (trim text).toList with
        | .ok n => ({ s.withAddress env with timeoutSeconds := UInt64.ofNat n }, .ok ())
        | .error fault => (s.withAddress env, .error fault) := rfl

/-- What an environment makes of settings. -/
structure Takes (env : Environment) (s left : Settings) (outcome : Except NumberFault Unit) :
    Prop where
  /-- The address is taken over if there is one, whatever becomes of the time limit. -/
  address : ∀ text, env.Gives Environment.baseUrlName text → left.baseUrl = trim text
  noAddress : (∀ text, ¬ env.Gives Environment.baseUrlName text) → left.baseUrl = s.baseUrl
  /-- The one fault is a time limit that is no number of seconds. -/
  fails : (∃ fault, outcome = .error fault) ↔
    ∃ text, env.Gives Environment.timeoutName text ∧ ∀ n, ¬ IsSeconds text n
  /-- With it nothing but the address changes. -/
  failed : ∀ fault, outcome = .error fault → left = { s with baseUrl := left.baseUrl }
  /-- Without it the time limit is taken over if there is one. -/
  timeout : outcome = .ok () → ∀ text, env.Gives Environment.timeoutName text →
    IsSeconds text left.timeoutSeconds.toNat
  noTimeout : (∀ text, ¬ env.Gives Environment.timeoutName text) →
    left.timeoutSeconds = s.timeoutSeconds
  /-- Nothing else changes. -/
  others : left.loginPath = s.loginPath ∧ left.lastEmail = s.lastEmail

section
variable {env : Environment} {s : Settings}

theorem withAddress_of_gives {text : String} (h : env.Gives Environment.baseUrlName text) :
    (s.withAddress env).baseUrl = trim text := by
  rw [withAddress, Environment.filled?_eq_some_iff.mpr h]

theorem withAddress_of_not_gives (h : ∀ text, ¬ env.Gives Environment.baseUrlName text) :
    (s.withAddress env).baseUrl = s.baseUrl := by
  rw [withAddress, Environment.filled?_eq_none_iff.mpr h]

/-- Only the address is another one. -/
theorem withAddress_eq : s.withAddress env = { s with baseUrl := (s.withAddress env).baseUrl } := by
  unfold withAddress
  split <;> rfl

/-- A variable has one value. -/
theorem Environment.Gives.unique {name text text' : String} (h : env.Gives name text)
    (h' : env.Gives name text') : text = text' := Option.some.inj (h.1.symm.trans h'.1)

theorem takes_of_no_timeout (h : ∀ text, ¬ env.Gives Environment.timeoutName text) :
    Takes env s (s.withAddress env) (.ok ()) where
  address _ := withAddress_of_gives
  noAddress := withAddress_of_not_gives
  fails := by
    constructor
    · rintro ⟨_, hfault⟩
      cases hfault
    · rintro ⟨text, hgives, -⟩
      exact absurd hgives (h text)
  failed _ hfault := nomatch hfault
  timeout _ text hgives := absurd hgives (h text)
  noTimeout _ := by rw [withAddress_eq]
  others := by rw [withAddress_eq]; exact ⟨rfl, rfl⟩

theorem takes_of_seconds {text : String} {n : Nat}
    (hgives : env.Gives Environment.timeoutName text) (hseconds : IsSeconds text n) :
    Takes env s { s.withAddress env with timeoutSeconds := UInt64.ofNat n } (.ok ()) where
  address _ := withAddress_of_gives
  noAddress := withAddress_of_not_gives
  fails := by
    constructor
    · rintro ⟨_, hfault⟩
      cases hfault
    · rintro ⟨text', hgives', hno⟩
      obtain rfl := hgives.unique hgives'
      exact absurd hseconds (hno n)
  failed _ hfault := nomatch hfault
  timeout _ text' hgives' := by
    obtain rfl := hgives.unique hgives'
    have hword : (UInt64.ofNat n).toNat = n := UInt64.toNat_ofNat_of_lt' hseconds.2
    rw [hword]
    exact hseconds
  noTimeout hno := absurd hgives (hno text)
  others := by rw [withAddress_eq]; exact ⟨rfl, rfl⟩

theorem takes_of_no_seconds {text : String} (hgives : env.Gives Environment.timeoutName text)
    (hno : ∀ n, ¬ IsSeconds text n) (fault : NumberFault) :
    Takes env s (s.withAddress env) (.error fault) where
  address _ := withAddress_of_gives
  noAddress := withAddress_of_not_gives
  fails := ⟨fun _ => ⟨text, hgives, hno⟩, fun _ => ⟨fault, rfl⟩⟩
  failed _ _ := withAddress_eq
  timeout hok := nomatch hok
  noTimeout hnone := absurd hgives (hnone text)
  others := by rw [withAddress_eq]; exact ⟨rfl, rfl⟩

end

/-- **An environment is taken over variable by variable.** The address is taken over if it is
given. There is a fault just if a time limit is given that is no number of seconds, and then
nothing but the address has changed. Otherwise the time limit is taken over as well if it is
given, and nothing else changes. -/
theorem takeEnvironment_takes (env : Environment) (s : Settings) :
    Takes env s (s.takeEnvironment env).1 (s.takeEnvironment env).2 := by
  rw [takeEnvironment_eq]
  cases htimeout : env.filled? Environment.timeoutName with
  | none => exact takes_of_no_timeout (Environment.filled?_eq_none_iff.mp htimeout)
  | some text =>
    have hgives := Environment.filled?_eq_some_iff.mp htimeout
    dsimp only
    cases hread : readUnsigned maxWord64 (trim text).toList with
    | ok n => exact takes_of_seconds hgives (readUnsigned_eq_ok_iff_isSeconds.mp hread)
    | error fault =>
      have hno : ∀ n, ¬ IsSeconds text n := by
        intro n hn
        rw [readUnsigned_eq_ok_iff_isSeconds.mpr hn] at hread
        cases hread
      exact takes_of_no_seconds hgives hno fault

/-- An environment with an address and with a time limit that is no number. -/
def halfReadable : Environment :=
  [(Environment.baseUrlName, "http://service"), (Environment.timeoutName, "soon")]

/-- There is a fault, and yet the address is another one. -/
theorem malformed_timeout_leaves_address :
    (initial.takeEnvironment halfReadable).2 = .error .invalidDigit ∧
      (initial.takeEnvironment halfReadable).1 = { initial with baseUrl := "http://service" } ∧
      (initial.takeEnvironment halfReadable).1 ≠ initial := by
  decide

end CoachClient.Settings
