/-
CoachClient.Proofs.Text.Decimal — numbers that are written read back.

* `digitsValue_digits`, `digits_inj` — the digits of a number denote it.
* `digits_eq`, `digits_cons`, `digits_of_head_zero` — they are known from the last one on, and
  the first is no zero.
* `digitsValue_padded`, `length_padded`, `isDigit_of_mem_padded` — zeros in front
  change nothing but the width, and the width is what was asked for if the number
  fits.
* `not_mem_digits`, `not_mem_padded`, `not_mem_signed` — nothing else stands in a number.
* `le_digitsOnto` — what is read onto a number is not less.
* `readMagnitude_digits`, `readUnsigned_digits`, `readSigned_signed` — a number within the
  bounds is read from the text it is written as.
* `Denotes`, `readUnsigned_eq_ok_iff` — what numbers without a sign may look like, and that
  nothing else is read.
-/
import CoachClient.Text.Decimal
import Mathlib.Algebra.Group.Nat.Defs
import Mathlib.Tactic.IntervalCases

namespace CoachClient.Text

/-! ## 1. Digits -/

/-- The number that digits denote when they are read onto another one. -/
def digitsOnto (acc : Nat) (cs : List Char) : Nat :=
  cs.foldl (fun acc c => 10 * acc + digitValue c) acc

theorem digitsOnto_eq (acc : Nat) (cs : List Char) :
    digitsOnto acc cs = Nat.ofDigitChars 10 cs acc := by
  unfold digitsOnto digitValue
  rw [Nat.ofDigitChars_eq_foldl]

theorem digitsOnto_cons (acc : Nat) (c : Char) (cs : List Char) :
    digitsOnto acc (c :: cs) = digitsOnto (10 * acc + digitValue c) cs := by
  unfold digitsOnto
  rw [List.foldl_cons]

/-- Reading on never makes a number less. -/
theorem le_digitsOnto (acc : Nat) (cs : List Char) : acc ≤ digitsOnto acc cs := by
  induction cs generalizing acc with
  | nil => exact Nat.le_refl acc
  | cons c cs ih =>
    have hnext := ih (10 * acc + digitValue c)
    rw [digitsOnto_cons]
    omega

theorem isDigit_of_mem_digits {n : Nat} {c : Char} (h : c ∈ digits n) : isDigit c = true := by
  have hdigit : c.isDigit = true := Nat.isDigit_of_mem_toDigits (by decide) (by decide) h
  unfold Char.isDigit at hdigit
  unfold isDigit
  simp only [Bool.and_eq_true, decide_eq_true_eq] at hdigit ⊢
  exact hdigit

theorem digits_ne_nil (n : Nat) : digits n ≠ [] := Nat.toDigits_ne_nil

theorem digitsValue_digits (n : Nat) : digitsValue (digits n) = n := by
  have hvalue := digitsOnto_eq 0 (digits n)
  rw [digits, Nat.ofDigitChars_ten_toDigits] at hvalue
  exact hvalue

/-- Numbers with the same digits are the same. -/
theorem digits_inj {m n : Nat} (h : digits m = digits n) : m = n := by
  rw [← digitsValue_digits m, h, digitsValue_digits]

/-- The digits of a number, from its last one. -/
theorem digits_eq (k : Nat) :
    digits k = if k < 10 then [k.digitChar] else digits (k / 10) ++ [(k % 10).digitChar] :=
  Nat.toDigits_eq_if (by decide)

/-- The first digit of a number is not a zero, unless the number is. -/
theorem digits_cons (k : Nat) :
    ∃ d ds, d < 10 ∧ (0 < k → 0 < d) ∧ digits k = d.digitChar :: ds := by
  induction k using Nat.strongRecOn with
  | ind k ih =>
    rw [digits_eq]
    split
    · rename_i hk
      exact ⟨k, [], hk, id, rfl⟩
    · obtain ⟨d, ds, hd, hpos, hds⟩ := ih (k / 10) (by omega)
      exact ⟨d, ds ++ [(k % 10).digitChar], hd, fun _ => hpos (by omega), by rw [hds]; rfl⟩

/-- Only the number zero begins with one. -/
theorem digits_of_head_zero {n : Nat} (h : (digits n).head? = some '0') : digits n = ['0'] := by
  obtain ⟨d, ds, hd, hpos, hcons⟩ := digits_cons n
  have hzero : d = 0 := by
    rw [hcons, List.head?_cons, Option.some.injEq] at h
    interval_cases d <;> first | rfl | exact absurd h (by decide)
  have hn : n = 0 := by omega
  rw [hn]
  rfl

/-! ## 2. Digits up to a width -/

theorem isDigit_of_mem_padded {width n : Nat} {c : Char} (h : c ∈ padded width n) :
    isDigit c = true := by
  unfold padded at h
  rcases List.mem_append.mp h with hzero | hdigit
  · rw [List.eq_of_mem_replicate hzero]
    decide
  · exact isDigit_of_mem_digits hdigit

theorem digitsValue_padded (width n : Nat) : digitsValue (padded width n) = n := by
  have hvalue := digitsOnto_eq 0 (padded width n)
  unfold padded at hvalue ⊢
  rw [Nat.ofDigitChars_append, Nat.ofDigitChars_replicate_zero, Nat.mul_zero, digits,
    Nat.ofDigitChars_ten_toDigits] at hvalue
  exact hvalue

theorem padded_ne_nil (width n : Nat) : padded width n ≠ [] := by
  unfold padded
  simp [digits_ne_nil]

/-- A number that fits has as many digits as it should. -/
theorem length_padded {width n : Nat} (hwidth : 0 < width) (h : n < 10 ^ width) :
    (padded width n).length = width := by
  have hlength : (digits n).length ≤ width :=
    (Nat.length_toDigits_le_iff (by decide) hwidth).mpr h
  unfold padded
  simp only [List.length_append, List.length_replicate]
  omega

theorem not_mem_digits {c : Char} (hc : isDigit c = false) (n : Nat) : c ∉ digits n := by
  intro hmem
  rw [isDigit_of_mem_digits hmem] at hc
  cases hc

theorem not_mem_padded {c : Char} (hc : isDigit c = false) (width n : Nat) :
    c ∉ padded width n := by
  intro hmem
  rw [isDigit_of_mem_padded hmem] at hc
  cases hc

theorem not_mem_signed {c : Char} (hc : isDigit c = false) (hminus : c ≠ '-') (i : Int) :
    c ∉ signed i := by
  unfold signed
  split
  · exact List.not_mem_cons_of_ne_of_not_mem hminus (not_mem_digits hc _)
  · exact not_mem_digits hc _

/-! ## 3. Numbers within bounds -/

/-- Digits are read onto what has been read before, if the number they denote fits. -/
theorem readOnto_digits {max acc : Nat} {ds : List Char} (hds : ∀ c ∈ ds, isDigit c = true)
    (hfits : digitsOnto acc ds ≤ max) : readOnto max acc ds = .ok (digitsOnto acc ds) := by
  induction ds generalizing acc with
  | nil => rfl
  | cons d ds ih =>
    rw [digitsOnto_cons] at hfits ⊢
    have hd : isDigit d = true := hds d List.mem_cons_self
    have hstep : 10 * acc + digitValue d ≤ max := Nat.le_trans (le_digitsOnto _ ds) hfits
    simp only [readOnto, hd, if_true, if_pos hstep]
    exact ih (fun c hc => hds c (List.mem_cons_of_mem d hc)) hfits

theorem readMagnitude_digits {max n : Nat} (h : n ≤ max) : readMagnitude max (digits n) = .ok n := by
  have hvalue : digitsOnto 0 (digits n) = n := digitsValue_digits n
  have hread : readOnto max 0 (digits n) = .ok (digitsOnto 0 (digits n)) :=
    readOnto_digits (fun _ hc => isDigit_of_mem_digits hc) (by rw [hvalue]; exact h)
  simp [readMagnitude, digits_ne_nil, hread, hvalue]

/-- The first digit of a number is no sign. -/
theorem digits_ne_sign (n : Nat) :
    ∃ d ds, digits n = d :: ds ∧ d ≠ '-' ∧ d ≠ '+' := by
  obtain ⟨d, ds, hcons⟩ := List.exists_cons_of_ne_nil (digits_ne_nil n)
  have hd : isDigit d = true := isDigit_of_mem_digits (hcons ▸ List.mem_cons_self)
  refine ⟨d, ds, hcons, ?_, ?_⟩ <;> (rintro rfl; exact absurd hd (by decide))

theorem readUnsigned_digits {max n : Nat} (h : n ≤ max) : readUnsigned max (digits n) = .ok n := by
  have hread := readMagnitude_digits h
  obtain ⟨d, ds, hcons, -, hplus⟩ := digits_ne_sign n
  rw [hcons] at hread ⊢
  simp [readUnsigned, hplus, hread]

/-- A number is read with its sign. -/
theorem readSigned_signed {below above : Nat} {i : Int} (hbelow : -(below : Int) ≤ i)
    (habove : i ≤ above) : readSigned below above (signed i) = .ok i := by
  unfold signed
  split
  · rename_i hneg
    have hread : readMagnitude below (digits i.natAbs) = .ok i.natAbs :=
      readMagnitude_digits (by omega)
    have hvalue : -(i.natAbs : Int) = i := by omega
    simp only [readSigned, hread]
    rw [hvalue]
  · rename_i hnonneg
    have hread : readMagnitude above (digits i.natAbs) = .ok i.natAbs :=
      readMagnitude_digits (by omega)
    have hvalue : (i.natAbs : Int) = i := by omega
    obtain ⟨d, ds, hcons, hminus, hplus⟩ := digits_ne_sign i.natAbs
    rw [hcons] at hread ⊢
    have hdigits : readSigned below above (d :: ds) = .ok (Int.ofNat i.natAbs) := by
      simp [readSigned, hminus, hplus, hread, Except.map]
    rw [hdigits]
    exact congrArg Except.ok hvalue

/-! ## 4. What is read -/

/-- The text is a number without a minus: digits, perhaps with a plus in front. -/
def Denotes (cs : List Char) (n : Nat) : Prop :=
  ∃ ds, (cs = ds ∨ cs = '+' :: ds) ∧ ds ≠ [] ∧ (∀ c ∈ ds, isDigit c = true) ∧ digitsValue ds = n

theorem readOnto_ok {max acc n : Nat} {cs : List Char} (h : readOnto max acc cs = .ok n) :
    (∀ c ∈ cs, isDigit c = true) ∧ digitsOnto acc cs = n ∧ (cs ≠ [] → n ≤ max) := by
  induction cs generalizing acc with
  | nil => exact ⟨by simp, Except.ok.inj h, fun hne => absurd rfl hne⟩
  | cons c cs ih =>
    simp only [readOnto] at h
    split at h
    · rename_i hdigit
      split at h
      · rename_i hfits
        obtain ⟨hdigits, hvalue, hmax⟩ := ih h
        refine ⟨List.forall_mem_cons.mpr ⟨hdigit, hdigits⟩, hvalue, fun _ => ?_⟩
        cases cs with
        | nil => exact hvalue ▸ hfits
        | cons d ds => exact hmax (List.cons_ne_nil d ds)
      · cases h
    · cases h

theorem readMagnitude_eq_ok_iff {max n : Nat} {cs : List Char} :
    readMagnitude max cs = .ok n ↔
      cs ≠ [] ∧ (∀ c ∈ cs, isDigit c = true) ∧ digitsValue cs = n ∧ n ≤ max := by
  cases cs with
  | nil => simp [readMagnitude]
  | cons c cs =>
    rw [readMagnitude, if_neg (by simp)]
    constructor
    · intro h
      obtain ⟨hdigits, hvalue, hmax⟩ := readOnto_ok h
      exact ⟨List.cons_ne_nil c cs, hdigits, hvalue, hmax (List.cons_ne_nil c cs)⟩
    · rintro ⟨-, hdigits, rfl, hmax⟩
      exact readOnto_digits hdigits hmax

/-- Numbers up to the bound are read, and nothing else is. -/
theorem readUnsigned_eq_ok_iff {max n : Nat} {cs : List Char} :
    readUnsigned max cs = .ok n ↔ Denotes cs n ∧ n ≤ max := by
  have hplus : isDigit '+' = false := by decide
  unfold readUnsigned
  split
  · simp [Denotes]
  · rename_i ds
    rw [readMagnitude_eq_ok_iff]
    constructor
    · rintro ⟨hne, hdigits, hvalue, hmax⟩
      exact ⟨⟨ds, Or.inr rfl, hne, hdigits, hvalue⟩, hmax⟩
    · rintro ⟨⟨ds', rfl | hcons, hne, hdigits, hvalue⟩, hmax⟩
      · exact absurd (hdigits '+' List.mem_cons_self) (by simp [hplus])
      · obtain rfl := (List.cons.inj hcons).2
        exact ⟨hne, hdigits, hvalue, hmax⟩
  · rename_i hnil hcons
    rw [readMagnitude_eq_ok_iff]
    constructor
    · rintro ⟨hne, hdigits, hvalue, hmax⟩
      exact ⟨⟨cs, Or.inl rfl, hne, hdigits, hvalue⟩, hmax⟩
    · rintro ⟨⟨ds, rfl | rfl, hne, hdigits, hvalue⟩, hmax⟩
      · exact ⟨hne, hdigits, hvalue, hmax⟩
      · exact absurd rfl (hcons ds)

end CoachClient.Text
