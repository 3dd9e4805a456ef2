/-
CoachClient.Proofs.Json.Numerals — numbers, read and passed over.

* `IsMagnitude.skips`, `isMagnitude_of_skipNumber` — what is passed over as a number.
* `Consumes` — a reader takes a part of the text that has a form, and the same from every
  text that goes on with that part.
* `readNumber_consumes` — what is read as a number has the form of one, and what it is read
  as depends on nothing behind it.

A number has no closing mark: a reader goes on as long as it can. So each statement leaves
open what follows, but for its first byte, which must not go on with a number. The value of
a number is not looked at here, only that it is decided by the bytes of the number.
-/
import CoachClient.Json.Skip
import CoachClient.Proofs.Json.Grammar
import CoachClient.Proofs.Success

namespace CoachClient.Json

open CoachClient.Number CoachClient.Text

/-! ## 1. Where digits end -/

theorem endsDigits_cons {b : UInt8} (hb : isDigitByte b = false) (rest : List UInt8) :
    EndsDigits (b :: rest) := by
  intro d hd
  rw [← Option.some.inj hd]
  exact hb

/-- Neither a point nor an exponent comes next. -/
theorem EndsNumber.ne_cons {rest : List UInt8} (h : EndsNumber rest) :
    (∀ r, rest ≠ 0x2E :: r) ∧ (∀ r, rest ≠ 0x65 :: r) ∧ (∀ r, rest ≠ 0x45 :: r) := by
  refine ⟨?_, ?_, ?_⟩
  · rintro r rfl
    exact (h 0x2E rfl).2.1 rfl
  · rintro r rfl
    exact (h 0x65 rfl).2.2.1 rfl
  · rintro r rfl
    exact (h 0x45 rfl).2.2.2 rfl

theorem skipDigits_split (c : Cursor) :
    ∃ ds rest, c.rest = ds ++ rest ∧ AllDigits ds ∧ EndsDigits rest ∧
      c.skipDigits = ⟨rest, c.offset + ds.length⟩ :=
  passWhile_split isDigitByte c.rest c.offset

theorem skipDigits_digits {ds rest : List UInt8} (hds : AllDigits ds) (hrest : EndsDigits rest)
    (n : Nat) : (⟨ds ++ rest, n⟩ : Cursor).skipDigits = ⟨rest, n + ds.length⟩ := by
  rw [Cursor.skipDigits, passWhile_append hds, passWhile_of_not hrest]

theorem skipDigits_cons {d : UInt8} (hd : isDigitByte d = true) (r : List UInt8) (n : Nat) :
    (⟨d :: r, n⟩ : Cursor).skipDigits = (⟨r, n + 1⟩ : Cursor).skipDigits := by
  simp [Cursor.skipDigits, passWhile, hd]

/-- What may follow a number may follow the digits before its exponent. -/
theorem IsExponent.ends {exponent : List UInt8} (h : IsExponent exponent) {rest : List UInt8}
    (hrest : EndsNumber rest) :
    EndsDigits (exponent ++ rest) ∧ ∀ r, exponent ++ rest ≠ 0x2E :: r := by
  rcases h with rfl | ⟨e, power, rfl, he, -⟩
  · exact ⟨hrest.endsDigits, hrest.ne_cons.1⟩
  · rcases he with rfl | rfl
    · exact ⟨endsDigits_cons (by decide) _, by simp⟩
    · exact ⟨endsDigits_cons (by decide) _, by simp⟩

theorem IsNumberTail.endsDigits {tail : List UInt8} (h : IsNumberTail tail) {rest : List UInt8}
    (hrest : EndsNumber rest) : EndsDigits (tail ++ rest) := by
  obtain ⟨fraction, exponent, rfl, rfl | ⟨d, ds, rfl, -, -⟩, hexponent⟩ := h
  · exact (hexponent.ends hrest).1
  · exact endsDigits_cons (by decide) _

/-! ## 2. Numbers that are passed over -/

/-- Pass over an exponent after its sign. -/
def skipPower (c : Cursor) : Except Failure Cursor :=
  match c.rest with
  | [] => c.failHere .invalidNumber
  | b :: r =>
    let next : Cursor := ⟨r, c.offset + 1⟩
    if isDigitByte b then .ok next.skipDigits else next.failHere .invalidNumber

theorem skipExponent_cons (b : UInt8) (r : List UInt8) (n : Nat) :
    skipExponent ⟨b :: r, n⟩ =
      if b = 0x2B ∨ b = 0x2D then skipPower ⟨r, n + 1⟩ else skipPower ⟨b :: r, n⟩ := by
  split
  · rename_i hsign
    rcases hsign with rfl | rfl <;> rfl
  · rename_i hsign
    simp only [not_or] at hsign
    unfold skipExponent
    split
    · rename_i heq
      exact absurd (List.cons.inj heq).1 hsign.1
    · rename_i heq
      exact absurd (List.cons.inj heq).1 hsign.2
    · rfl

theorem skipPower_ok {c c' : Cursor} (h : skipPower c = .ok c') :
    ∃ d ds, c.rest = d :: ds ++ c'.rest ∧ isDigitByte d = true ∧ AllDigits ds := by
  unfold skipPower at h
  split at h
  · cases h
  · rename_i d r hrest
    dsimp only at h
    split at h
    · rename_i hd
      obtain ⟨ds, rest, hr, hds, -, hskip⟩ := skipDigits_split ⟨r, c.offset + 1⟩
      have hr : r = ds ++ rest := hr
      obtain rfl := Except.ok.inj h
      exact ⟨d, ds, by rw [hskip, hrest, hr]; rfl, hd, hds⟩
    · cases h

theorem isPower_of_skipExponent {c c' : Cursor} (h : skipExponent c = .ok c') :
    ∃ power, IsPower power ∧ c.rest = power ++ c'.rest := by
  obtain ⟨rest, n⟩ := c
  cases rest with
  | nil => cases h
  | cons b r =>
    rw [skipExponent_cons] at h
    split at h
    · rename_i hsign
      obtain ⟨d, ds, hr, hd, hds⟩ := skipPower_ok h
      have hr : r = d :: ds ++ c'.rest := hr
      refine ⟨[b] ++ d :: ds, ⟨[b], d, ds, rfl, ?_, hd, hds⟩, by rw [hr]; rfl⟩
      rcases hsign with rfl | rfl
      · exact Or.inr (Or.inl rfl)
      · exact Or.inr (Or.inr rfl)
    · obtain ⟨d, ds, hr, hd, hds⟩ := skipPower_ok h
      exact ⟨d :: ds, ⟨[], d, ds, rfl, Or.inl rfl, hd, hds⟩, hr⟩

theorem IsPower.skips {power : List UInt8} (h : IsPower power) {rest : List UInt8}
    (hrest : EndsNumber rest) (n : Nat) :
    ∃ n', skipExponent ⟨power ++ rest, n⟩ = .ok ⟨rest, n'⟩ := by
  obtain ⟨sign, d, ds, rfl, hsign, hd, hds⟩ := h
  have hpower : ∀ n, ∃ n', skipPower ⟨d :: (ds ++ rest), n⟩ = .ok ⟨rest, n'⟩ := fun n =>
    ⟨_, by simp only [skipPower, hd, if_true, skipDigits_digits hds hrest.endsDigits]; rfl⟩
  rcases hsign with rfl | rfl | rfl
  · obtain ⟨n', hskip⟩ := hpower n
    have hnone : ¬ (d = 0x2B ∨ d = 0x2D) := by
      rintro (rfl | rfl) <;> exact absurd hd (by decide)
    exact ⟨n', by rw [List.nil_append, List.cons_append, skipExponent_cons, if_neg hnone, hskip]⟩
  · exact hpower (n + 1)
  · exact hpower (n + 1)

theorem isExponent_of_skipOptionalExponent {c c' : Cursor} (h : skipOptionalExponent c = .ok c') :
    ∃ exponent, IsExponent exponent ∧ c.rest = exponent ++ c'.rest := by
  unfold skipOptionalExponent at h
  split at h
  · rename_i r hrest
    obtain ⟨power, hpower, hr⟩ := isPower_of_skipExponent h
    have hr : r = power ++ c'.rest := hr
    exact ⟨0x65 :: power, Or.inr ⟨0x65, power, rfl, Or.inl rfl, hpower⟩, by rw [hrest, hr]; rfl⟩
  · rename_i r hrest
    obtain ⟨power, hpower, hr⟩ := isPower_of_skipExponent h
    have hr : r = power ++ c'.rest := hr
    exact ⟨0x45 :: power, Or.inr ⟨0x45, power, rfl, Or.inr rfl, hpower⟩, by rw [hrest, hr]; rfl⟩
  · obtain rfl := Except.ok.inj h
    exact ⟨[], Or.inl rfl, rfl⟩

theorem IsExponent.skips {exponent : List UInt8} (h : IsExponent exponent) {rest : List UInt8}
    (hrest : EndsNumber rest) (n : Nat) :
    ∃ n', skipOptionalExponent ⟨exponent ++ rest, n⟩ = .ok ⟨rest, n'⟩ := by
  rcases h with rfl | ⟨e, power, rfl, he, hpower⟩
  · refine ⟨n, ?_⟩
    unfold skipOptionalExponent
    split
    · rename_i hstart
      exact absurd hstart (hrest.ne_cons.2.1 _)
    · rename_i hstart
      exact absurd hstart (hrest.ne_cons.2.2 _)
    · rfl
  · obtain ⟨n', hskip⟩ := hpower.skips hrest (n + 1)
    rcases he with rfl | rfl
    · exact ⟨n', hskip⟩
    · exact ⟨n', hskip⟩

theorem isNumberTail_of_skipNumberTail {c c' : Cursor} (h : skipNumberTail c = .ok c') :
    ∃ tail, IsNumberTail tail ∧ c.rest = tail ++ c'.rest := by
  unfold skipNumberTail at h
  split at h
  · rename_i r hrest
    obtain ⟨ds, rest, hr, hds, -, hskip⟩ := skipDigits_split ⟨r, c.offset + 1⟩
    dsimp only at h
    split at h
    · cases h
    · rename_i hsome
      rw [hskip] at h hsome
      obtain ⟨exponent, hexponent, hleft⟩ := isExponent_of_skipOptionalExponent h
      obtain rfl : rest = exponent ++ c'.rest := hleft
      cases ds with
      | nil => exact absurd rfl hsome
      | cons d ds =>
        obtain ⟨hd, hds⟩ := List.forall_mem_cons.mp hds
        refine ⟨0x2E :: d :: ds ++ exponent, ⟨0x2E :: d :: ds, exponent, rfl,
          Or.inr ⟨d, ds, rfl, hd, hds⟩, hexponent⟩, ?_⟩
        rw [hrest, show r = _ from hr]
        simp
  · obtain ⟨exponent, hexponent, hrest⟩ := isExponent_of_skipOptionalExponent h
    exact ⟨exponent, ⟨[], exponent, rfl, Or.inl rfl, hexponent⟩, hrest⟩

theorem IsNumberTail.skips {tail : List UInt8} (h : IsNumberTail tail) {rest : List UInt8}
    (hrest : EndsNumber rest) (n : Nat) :
    ∃ n', skipNumberTail ⟨tail ++ rest, n⟩ = .ok ⟨rest, n'⟩ := by
  obtain ⟨fraction, exponent, rfl, hfraction, hexponent⟩ := h
  obtain ⟨hends, hpoint⟩ := hexponent.ends hrest
  rcases hfraction with rfl | ⟨d, ds, rfl, hd, hds⟩
  · obtain ⟨n', hskip⟩ := hexponent.skips hrest n
    refine ⟨n', ?_⟩
    unfold skipNumberTail
    split
    · rename_i hstart
      exact absurd hstart (hpoint _)
    · exact hskip
  · have hdigits := skipDigits_digits (List.forall_mem_cons.mpr ⟨hd, hds⟩) hends (n + 1)
    obtain ⟨n', hskip⟩ := hexponent.skips hrest (n + 1 + (d :: ds).length)
    have hstart : 0x2E :: d :: ds ++ exponent ++ rest =
        0x2E :: (d :: ds ++ (exponent ++ rest)) := by
      simp
    have hsome : n + 1 + (d :: ds).length ≠ n + 1 := by
      rw [List.length_cons]
      omega
    refine ⟨n', ?_⟩
    simp only [hstart, skipNumberTail, hdigits, if_neg hsome, hskip]

/-- What is passed over as a number has the form of one. -/
theorem isMagnitude_of_skipNumber {c c' : Cursor} (h : skipNumber c = .ok c') :
    ∃ m, IsMagnitude m ∧ c.rest = m ++ c'.rest := by
  unfold skipNumber at h
  split at h
  · cases h
  · rename_i b r hrest
    dsimp only at h
    split at h
    · rename_i hb
      have htail : skipNumberTail ⟨r, c.offset + 1⟩ = .ok c' := by
        split at h
        · split at h
          · cases h
          · exact h
        · exact h
      obtain ⟨tail, htail, hr⟩ := isNumberTail_of_skipNumberTail htail
      have hr : r = tail ++ c'.rest := hr
      exact ⟨[0x30] ++ tail, ⟨[0x30], tail, rfl, Or.inl rfl, htail⟩, by rw [hrest, hb, hr]; rfl⟩
    split at h
    · rename_i hzero hb
      obtain ⟨ds, rest, hr, hds, -, hskip⟩ := skipDigits_split ⟨r, c.offset + 1⟩
      have hr : r = ds ++ rest := hr
      rw [hskip] at h
      obtain ⟨tail, htail, hrest'⟩ := isNumberTail_of_skipNumberTail h
      have hrest' : rest = tail ++ c'.rest := hrest'
      refine ⟨b :: ds ++ tail, ⟨b :: ds, tail, rfl, Or.inr ⟨b, ds, rfl, hzero, hb, hds⟩, htail⟩, ?_⟩
      rw [hrest, hr, hrest']
      simp
    · cases h

/-- A number is passed over to its end. -/
theorem IsMagnitude.skips {m : List UInt8} (h : IsMagnitude m) {rest : List UInt8}
    (hrest : EndsNumber rest) (n : Nat) :
    ∃ n', skipNumber ⟨m ++ rest, n⟩ = .ok ⟨rest, n'⟩ := by
  obtain ⟨whole, tail, rfl, hwhole, htail⟩ := h
  have hends := htail.endsDigits hrest
  rcases hwhole with rfl | ⟨d, ds, rfl, hzero, hd, hds⟩
  · obtain ⟨n', hskip⟩ := htail.skips hrest (n + 1)
    have hstart : [0x30] ++ tail ++ rest = 0x30 :: (tail ++ rest) := rfl
    refine ⟨n', ?_⟩
    rw [hstart]
    cases hnext : tail ++ rest with
    | nil =>
      rw [hnext] at hskip
      exact hskip
    | cons b r =>
      rw [hnext] at hskip hends
      simp only [skipNumber, if_true, hends b rfl, Bool.false_eq_true, if_false, hskip]
  · obtain ⟨n', hskip⟩ := htail.skips hrest (n + 1 + ds.length)
    have hstart : d :: ds ++ tail ++ rest = d :: (ds ++ (tail ++ rest)) := by simp
    refine ⟨n', ?_⟩
    simp only [hstart, skipNumber, if_neg hzero, hd, if_true, skipDigits_digits hds hends, hskip]

/-! ## 3. Digits that are read -/

/-- With one more digit the significand outgrows a word of 64 bits. -/
def Overflows (value : Nat) (d : UInt8) : Prop :=
  isDigitByte d = true ∧ maxWord64 < value * 10 + (d.toNat - 0x30)

theorem readSignificand_full {value : Nat} {d : UInt8} (h : Overflows value d) (r : List UInt8)
    (n : Nat) : readSignificand value (d :: r) n = (value, true, ⟨d :: r, n⟩) := by
  simp only [readSignificand, h.1, if_true, if_neg (Nat.not_le.mpr h.2)]

/-- Digits are read as far as they fit, whatever follows them. -/
theorem readSignificand_split (acc : Nat) (input : List UInt8) :
    ∃ ds rest value, input = ds ++ rest ∧ AllDigits ds ∧
      (∀ x n, readSignificand acc (ds ++ x) n = readSignificand value x (n + ds.length)) ∧
      (EndsDigits rest ∨ ∃ d r, rest = d :: r ∧ Overflows value d) := by
  induction input generalizing acc with
  | nil =>
    exact ⟨[], [], acc, rfl, by simp [AllDigits], fun _ _ => rfl, Or.inl (by simp [EndsDigits])⟩
  | cons b input ih =>
    by_cases hb : isDigitByte b = true
    · by_cases hfits : acc * 10 + (b.toNat - 0x30) ≤ maxWord64
      · obtain ⟨ds, rest, value, rfl, hds, hread, hend⟩ := ih (acc * 10 + (b.toNat - 0x30))
        refine ⟨b :: ds, rest, value, rfl, List.forall_mem_cons.mpr ⟨hb, hds⟩, fun x n => ?_, hend⟩
        simp only [List.cons_append, readSignificand, hb, if_true, if_pos hfits, hread,
          List.length_cons, Nat.add_assoc, Nat.add_comm 1]
      · exact ⟨[], b :: input, acc, rfl, by simp [AllDigits], fun _ _ => rfl,
          Or.inr ⟨b, input, rfl, hb, Nat.not_le.mp hfits⟩⟩
    · exact ⟨[], b :: input, acc, rfl, by simp [AllDigits], fun _ _ => rfl,
        Or.inl (endsDigits_cons (by simpa using hb) input)⟩

/-- With one more digit the exponent outgrows a signed word of 32 bits. -/
def OverflowsExponent (e : Nat) (d : UInt8) : Prop :=
  isDigitByte d = true ∧ 0x80000000 ≤ e * 10 + (d.toNat - 0x30)

theorem readExponentDigits_full {e : Nat} {d : UInt8} (h : OverflowsExponent e d) (r : List UInt8)
    (n : Nat) : readExponentDigits e (d :: r) n = (none, ⟨r, n + 1⟩) := by
  simp only [readExponentDigits, h.1, if_true, if_neg (Nat.not_lt.mpr h.2)]

theorem readExponentDigits_end {rest : List UInt8} (h : EndsDigits rest) (e n : Nat) :
    readExponentDigits e rest n = (some e, ⟨rest, n⟩) := by
  cases rest with
  | nil => rfl
  | cons b r => simp [readExponentDigits, h b rfl]

theorem readExponentDigits_split (acc : Nat) (input : List UInt8) :
    ∃ ds rest e, input = ds ++ rest ∧ AllDigits ds ∧
      (∀ x n, readExponentDigits acc (ds ++ x) n = readExponentDigits e x (n + ds.length)) ∧
      (EndsDigits rest ∨ ∃ d r, rest = d :: r ∧ OverflowsExponent e d) := by
  induction input generalizing acc with
  | nil =>
    exact ⟨[], [], acc, rfl, by simp [AllDigits], fun _ _ => rfl, Or.inl (by simp [EndsDigits])⟩
  | cons b input ih =>
    by_cases hb : isDigitByte b = true
    · by_cases hfits : acc * 10 + (b.toNat - 0x30) < 0x80000000
      · obtain ⟨ds, rest, e, rfl, hds, hread, hend⟩ := ih (acc * 10 + (b.toNat - 0x30))
        refine ⟨b :: ds, rest, e, rfl, List.forall_mem_cons.mpr ⟨hb, hds⟩, fun x n => ?_, hend⟩
        simp only [List.cons_append, readExponentDigits, hb, if_true, if_pos hfits, hread,
          List.length_cons, Nat.add_assoc, Nat.add_comm 1]
      · exact ⟨[], b :: input, acc, rfl, by simp [AllDigits], fun _ _ => rfl,
          Or.inr ⟨b, input, rfl, hb, Nat.not_lt.mp hfits⟩⟩
    · exact ⟨[], b :: input, acc, rfl, by simp [AllDigits], fun _ _ => rfl,
        Or.inl (endsDigits_cons (by simpa using hb) input)⟩

/-! ## 4. Numbers that are read -/

/-- The reader takes a part of the text that has the form, and takes the same from every text
that goes on with that part. -/
def Consumes {β : Type} (f : Cursor → Except Failure (β × Cursor)) (form : List UInt8 → Prop) :
    Prop :=
  ∀ c b c', f c = .ok (b, c') → ∃ m, c.rest = m ++ c'.rest ∧ form m ∧
    ∀ rest n, EndsNumber rest → ∃ n', f ⟨m ++ rest, n⟩ = .ok (b, ⟨rest, n'⟩)

theorem floatAt_ok {negative : Bool} {significand : Nat} {exponent : Int} {c c' : Cursor}
    {x : Number} (h : floatAt negative significand exponent c = .ok (x, c')) :
    c' = c ∧ ∀ c₂, floatAt negative significand exponent c₂ = .ok (x, c₂) := by
  unfold floatAt at h ⊢
  split at h
  · rename_i y hscale
    obtain ⟨rfl, rfl⟩ := Prod.mk.inj (Except.ok.inj h)
    exact ⟨rfl, fun _ => rfl⟩
  · cases h

/-- The part of a number after the sign of its exponent. -/
def readPower (down negative : Bool) (significand : Nat) (shift : Int) (c : Cursor) :
    Except Failure (Number × Cursor) :=
  match c.rest with
  | [] => c.failHere .endInValue
  | b :: r =>
    let c₂ : Cursor := ⟨r, c.offset + 1⟩
    if isDigitByte b then
      match readExponentDigits (b.toNat - 0x30) c₂.rest c₂.offset with
      | (some e, c₃) => floatAt negative significand (if down then shift - e else shift + e) c₃
      | (none, c₃) =>
        if significand != 0 && !down then c₃.failHere .numberOutOfRange
        else .ok (.float negative ⟨0, binary64.minExponent⟩, c₃.skipDigits)
    else c₂.failHere .invalidNumber

/-- Digits, at least one. -/
def IsDigits (bs : List UInt8) : Prop := ∃ d ds, bs = d :: ds ∧ isDigitByte d = true ∧ AllDigits ds

section
variable (down negative : Bool) (significand : Nat) (shift : Int)

theorem readPower_consumes : Consumes (readPower down negative significand shift) IsDigits := by
  intro c x c' h
  unfold readPower at h
  split at h
  · cases h
  rename_i b r hrest
  dsimp only at h
  split at h
  swap
  · cases h
  rename_i hb
  obtain ⟨ds, rest, e, hr, hds, hread, hend⟩ := readExponentDigits_split (b.toNat - 0x30) r
  rw [hr, hread] at h
  rcases hend with hends | ⟨d, r', rfl, hd⟩
  · rw [readExponentDigits_end hends] at h
    obtain ⟨rfl, hagain⟩ := floatAt_ok h
    refine ⟨b :: ds, by rw [hrest, hr]; rfl, ⟨b, ds, rfl, hb, hds⟩, fun rest n hrest => ?_⟩
    refine ⟨n + 1 + ds.length, ?_⟩
    simp only [readPower, List.cons_append, hb, if_true, hread,
      readExponentDigits_end hrest.endsDigits]
    exact hagain _
  · -- the exponent is beyond all bounds: its further digits are passed over
    rw [readExponentDigits_full hd] at h
    obtain ⟨ds', rest, hr', hds', hends, hskip⟩ :=
      skipDigits_split ⟨r', c.offset + 1 + ds.length + 1⟩
    have hr' : r' = ds' ++ rest := hr'
    dsimp only at h
    split at h
    · cases h
    rename_i hzero
    obtain ⟨rfl, rfl⟩ := Prod.mk.inj (Except.ok.inj h)
    refine ⟨b :: (ds ++ d :: ds'), by rw [hskip, hrest, hr, hr']; simp, ⟨b, ds ++ d :: ds', rfl, hb,
      List.forall_mem_append.mpr ⟨hds, List.forall_mem_cons.mpr ⟨hd.1, hds'⟩⟩⟩,
      fun rest n hrest => ⟨n + 1 + ds.length + 1 + ds'.length, ?_⟩⟩
    simp only [readPower, List.cons_append, List.append_assoc, hb, if_true, hread,
      readExponentDigits_full hd, if_neg hzero, skipDigits_digits hds' hrest.endsDigits]

theorem readExponent_cons (b : UInt8) (r : List UInt8) (n : Nat) :
    readExponent negative significand shift ⟨b :: r, n⟩ =
      if b = 0x2B then readPower false negative significand shift ⟨r, n + 1⟩
      else if b = 0x2D then readPower true negative significand shift ⟨r, n + 1⟩
      else readPower false negative significand shift ⟨b :: r, n⟩ := by
  split
  · rename_i hplus
    subst hplus
    rfl
  split
  · rename_i hminus
    subst hminus
    rfl
  · rename_i hplus hminus
    unfold readExponent
    split
    · rename_i heq
      split at heq
      · rename_i heq'
        exact absurd (List.cons.inj heq').1 hplus
      · rename_i heq'
        exact absurd (List.cons.inj heq').1 hminus
      · obtain ⟨rfl, rfl⟩ := Prod.mk.inj heq
        rfl

theorem readExponent_consumes : Consumes (readExponent negative significand shift) IsPower := by
  intro c x c' h
  obtain ⟨rest, n⟩ := c
  cases rest with
  | nil => cases h
  | cons b r =>
    rw [readExponent_cons] at h
    split at h
    · rename_i hplus
      obtain ⟨m, hr, ⟨d, ds, rfl, hd, hds⟩, hagain⟩ := readPower_consumes _ _ _ _ _ _ _ h
      have hr : r = d :: ds ++ c'.rest := hr
      refine ⟨[0x2B] ++ d :: ds, by rw [hplus, hr]; rfl,
        ⟨[0x2B], d, ds, rfl, Or.inr (Or.inl rfl), hd, hds⟩, fun rest n hrest => ?_⟩
      exact hagain rest (n + 1) hrest
    split at h
    · rename_i hminus
      obtain ⟨m, hr, ⟨d, ds, rfl, hd, hds⟩, hagain⟩ := readPower_consumes _ _ _ _ _ _ _ h
      have hr : r = d :: ds ++ c'.rest := hr
      refine ⟨[0x2D] ++ d :: ds, by rw [hminus, hr]; rfl,
        ⟨[0x2D], d, ds, rfl, Or.inr (Or.inr rfl), hd, hds⟩, fun rest n hrest => ?_⟩
      exact hagain rest (n + 1) hrest
    · rename_i hplus hminus
      obtain ⟨m, hr, ⟨d, ds, rfl, hd, hds⟩, hagain⟩ := readPower_consumes _ _ _ _ _ _ _ h
      obtain ⟨rfl, -⟩ : b = d ∧ _ := List.cons.inj hr
      refine ⟨b :: ds, hr, ⟨[], b, ds, rfl, Or.inl rfl, hd, hds⟩, fun rest n hrest => ?_⟩
      obtain ⟨n', hread⟩ := hagain rest n hrest
      refine ⟨n', ?_⟩
      rw [List.cons_append, readExponent_cons, if_neg hplus, if_neg hminus]
      exact hread

theorem readOptionalExponent_consumes :
    Consumes (readOptionalExponent negative significand shift) IsExponent := by
  intro c x c' h
  unfold readOptionalExponent at h
  split at h
  · rename_i r hrest
    obtain ⟨power, hr, hpower, hagain⟩ := readExponent_consumes _ _ _ _ _ _ h
    have hr : r = power ++ c'.rest := hr
    exact ⟨0x65 :: power, by rw [hrest, hr]; rfl, Or.inr ⟨0x65, power, rfl, Or.inl rfl, hpower⟩,
      fun rest n hends => hagain rest (n + 1) hends⟩
  · rename_i r hrest
    obtain ⟨power, hr, hpower, hagain⟩ := readExponent_consumes _ _ _ _ _ _ h
    have hr : r = power ++ c'.rest := hr
    exact ⟨0x45 :: power, by rw [hrest, hr]; rfl, Or.inr ⟨0x45, power, rfl, Or.inr rfl, hpower⟩,
      fun rest n hends => hagain rest (n + 1) hends⟩
  · obtain ⟨rfl, hagain⟩ := floatAt_ok h
    refine ⟨[], rfl, Or.inl rfl, fun rest n hends => ⟨n, ?_⟩⟩
    unfold readOptionalExponent
    split
    · rename_i hstart
      exact absurd hstart (hends.ne_cons.2.1 _)
    · rename_i hstart
      exact absurd hstart (hends.ne_cons.2.2 _)
    · exact hagain _

/-- The part of a number after its point: digits and an exponent. -/
theorem readFraction_consumes : Consumes (readFraction negative significand shift)
    fun m => ∃ ds exponent, m = ds ++ exponent ∧ IsDigits ds ∧ IsExponent exponent := by
  intro c x c' h
  unfold readFraction at h
  obtain ⟨ds, rest, value, hc, hds, hread, hend⟩ := readSignificand_split significand c.rest
  rw [hc, hread] at h
  rcases hend with hends | ⟨d, r, rfl, hd⟩
  · rw [readSignificand_end hends] at h
    simp only [Bool.false_eq_true, if_false, Nat.add_sub_cancel_left] at h
    split at h
    · split at h <;> cases h
    rename_i hsome
    obtain ⟨d, ds, rfl⟩ : ∃ d ds', ds = d :: ds' :=
      List.exists_cons_of_ne_nil fun hnil => hsome (by rw [hnil]; rfl)
    obtain ⟨hd, hds⟩ := List.forall_mem_cons.mp hds
    obtain ⟨exponent, hrest, hexponent, hagain⟩ := readOptionalExponent_consumes _ _ _ _ _ _ h
    obtain rfl : rest = exponent ++ c'.rest := hrest
    refine ⟨d :: ds ++ exponent, by rw [hc]; simp,
      ⟨d :: ds, exponent, rfl, ⟨d, ds, rfl, hd, hds⟩, hexponent⟩, fun rest n hends' => ?_⟩
    obtain ⟨n', hagain⟩ := hagain rest (n + (d :: ds).length) hends'
    have hplace : n + (d :: ds).length ≠ n := by
      rw [List.length_cons]
      omega
    refine ⟨n', ?_⟩
    simp only [readFraction, List.append_assoc, hread,
      readSignificand_end (hexponent.ends hends').1, Bool.false_eq_true, if_false, if_neg hplace,
      Nat.add_sub_cancel_left]
    exact hagain
  · -- the digits that no longer fit are passed over
    rw [readSignificand_full hd] at h
    simp only [if_true, Nat.add_sub_cancel_left, skipDigits_cons hd.1] at h
    obtain ⟨ds', rest, hr, hds', hends, hskip⟩ := skipDigits_split ⟨r, c.offset + ds.length + 1⟩
    obtain rfl : r = ds' ++ rest := hr
    rw [hskip] at h
    obtain ⟨exponent, hrest, hexponent, hagain⟩ := readOptionalExponent_consumes _ _ _ _ _ _ h
    obtain rfl : rest = exponent ++ c'.rest := hrest
    have hall : AllDigits (ds ++ d :: ds') :=
      List.forall_mem_append.mpr ⟨hds, List.forall_mem_cons.mpr ⟨hd.1, hds'⟩⟩
    obtain ⟨e, es, hes⟩ : ∃ e es, ds ++ d :: ds' = e :: es :=
      List.exists_cons_of_ne_nil (by simp)
    rw [hes] at hall
    obtain ⟨he, hes'⟩ := List.forall_mem_cons.mp hall
    refine ⟨ds ++ d :: ds' ++ exponent, by rw [hc]; simp,
      ⟨ds ++ d :: ds', exponent, rfl, ⟨e, es, hes, he, hes'⟩, hexponent⟩, fun rest n hends' => ?_⟩
    obtain ⟨n', hagain⟩ := hagain rest (n + ds.length + 1 + ds'.length) hends'
    refine ⟨n', ?_⟩
    simp only [readFraction, List.append_assoc, List.cons_append, hread, readSignificand_full hd,
      if_true, Nat.add_sub_cancel_left, skipDigits_cons hd.1,
      skipDigits_digits hds' (hexponent.ends hends').1]
    exact hagain

/-- A point with digits and an exponent has the form of what follows a whole part. -/
theorem isNumberTail_point {ds exponent : List UInt8} (hds : IsDigits ds)
    (hexponent : IsExponent exponent) : IsNumberTail (0x2E :: (ds ++ exponent)) := by
  obtain ⟨d, ds, rfl, hd, hds⟩ := hds
  exact ⟨0x2E :: d :: ds, exponent, rfl, Or.inr ⟨d, ds, rfl, hd, hds⟩, hexponent⟩

theorem IsExponent.isNumberTail {exponent : List UInt8} (h : IsExponent exponent) :
    IsNumberTail exponent := ⟨[], exponent, rfl, Or.inl rfl, h⟩

/-- The rest of a number without a point and without an exponent. -/
def finishInteger (c : Cursor) : Except Failure (Number × Cursor) :=
  if !negative then .ok (.int significand, c)
  else if significand = 0 || minInt64Magnitude < significand then floatAt true significand 0 c
  else .ok (.int (-(significand : Int)), c)

theorem finishNumber_of_ends {rest : List UInt8} (h : EndsNumber rest) {n : Nat} :
    finishNumber negative significand ⟨rest, n⟩ = finishInteger negative significand ⟨rest, n⟩ := by
  obtain ⟨hpoint, hlower, hupper⟩ := h.ne_cons
  unfold finishNumber
  split
  · rename_i hstart
    exact absurd hstart (hpoint _)
  · rename_i hstart
    exact absurd hstart (hlower _)
  · rename_i hstart
    exact absurd hstart (hupper _)
  · rfl

theorem finishInteger_ok {negative : Bool} {significand : Nat} {c c' : Cursor} {x : Number}
    (h : finishInteger negative significand c = .ok (x, c')) :
    c' = c ∧ ∀ c₂, finishInteger negative significand c₂ = .ok (x, c₂) := by
  unfold finishInteger at h ⊢
  split at h
  · rename_i hpositive
    obtain ⟨rfl, rfl⟩ := Prod.mk.inj (Except.ok.inj h)
    exact ⟨rfl, fun _ => if_pos hpositive⟩
  rename_i hnegative
  simp only [if_neg hnegative]
  split at h
  · rename_i hfloat
    simp only [if_pos hfloat]
    exact floatAt_ok h
  · rename_i hfits
    obtain ⟨rfl, rfl⟩ := Prod.mk.inj (Except.ok.inj h)
    exact ⟨rfl, fun _ => if_neg hfits⟩

theorem finishNumber_consumes : Consumes (finishNumber negative significand) IsNumberTail := by
  intro c x c' h
  unfold finishNumber at h
  split at h
  · rename_i r hrest
    obtain ⟨m, hr, ⟨ds, exponent, rfl, hds, hexponent⟩, hagain⟩ :=
      readFraction_consumes _ _ _ _ _ _ h
    have hr : r = ds ++ exponent ++ c'.rest := hr
    exact ⟨_, by rw [hrest, hr]; rfl, isNumberTail_point hds hexponent,
      fun rest n hends => hagain rest (n + 1) hends⟩
  · rename_i r hrest
    obtain ⟨power, hr, hpower, hagain⟩ := readExponent_consumes _ _ _ _ _ _ h
    have hr : r = power ++ c'.rest := hr
    have hexponent : IsExponent (0x65 :: power) := Or.inr ⟨0x65, power, rfl, Or.inl rfl, hpower⟩
    exact ⟨_, by rw [hrest, hr]; rfl, hexponent.isNumberTail,
      fun rest n hends => hagain rest (n + 1) hends⟩
  · rename_i r hrest
    obtain ⟨power, hr, hpower, hagain⟩ := readExponent_consumes _ _ _ _ _ _ h
    have hr : r = power ++ c'.rest := hr
    have hexponent : IsExponent (0x45 :: power) := Or.inr ⟨0x45, power, rfl, Or.inr rfl, hpower⟩
    exact ⟨_, by rw [hrest, hr]; rfl, hexponent.isNumberTail,
      fun rest n hends => hagain rest (n + 1) hends⟩
  · obtain ⟨rfl, hagain⟩ := finishInteger_ok h
    refine ⟨[], rfl, (show IsExponent [] from Or.inl rfl).isNumberTail,
      fun rest n hends => ⟨n, ?_⟩⟩
    rw [List.nil_append, finishNumber_of_ends negative significand hends]
    exact hagain _

/-- The rest of a number whose whole part has outgrown a word, from the first digit that does
not fit. -/
theorem finishLongNumber_consumes {d : UInt8} (hd : isDigitByte d = true) :
    Consumes (fun c => finishLongNumber negative significand ⟨d :: c.rest, c.offset⟩)
      fun m => ∃ ds tail, m = ds ++ tail ∧ AllDigits ds ∧ IsNumberTail tail := by
  intro c x c' h
  obtain ⟨ds, rest, hsplit, hds, hends, hskip⟩ := skipDigits_split ⟨c.rest, c.offset + 1⟩
  have hc : c.rest = ds ++ rest := hsplit
  have hplaces : ∀ n, n + 1 + ds.length - n = 1 + ds.length := fun n => by omega
  simp only [finishLongNumber, skipDigits_cons hd, hskip, hplaces] at h
  split at h
  · rename_i r
    obtain ⟨m, hr, ⟨ds', exponent, rfl, hds', hexponent⟩, hagain⟩ :=
      readFraction_consumes _ _ _ _ _ _ h
    have hr : r = ds' ++ exponent ++ c'.rest := hr
    refine ⟨ds ++ 0x2E :: (ds' ++ exponent), by rw [hc, hr]; simp,
      ⟨ds, _, rfl, hds, isNumberTail_point hds' hexponent⟩, fun rest n hrest => ?_⟩
    obtain ⟨n', hagain⟩ := hagain rest (n + 1 + ds.length + 1) hrest
    refine ⟨n', ?_⟩
    simp only [finishLongNumber, skipDigits_cons hd, List.append_assoc,
      skipDigits_digits hds ((isNumberTail_point hds' hexponent).endsDigits hrest), hplaces]
    exact hagain
  · obtain ⟨exponent, hrest, hexponent, hagain⟩ := readOptionalExponent_consumes _ _ _ _ _ _ h
    obtain rfl : rest = exponent ++ c'.rest := hrest
    refine ⟨ds ++ exponent, by rw [hc]; simp, ⟨ds, exponent, rfl, hds, hexponent.isNumberTail⟩,
      fun rest n hrest => ?_⟩
    obtain ⟨n', hagain⟩ := hagain rest (n + 1 + ds.length) hrest
    obtain ⟨hends, hpoint⟩ := hexponent.ends hrest
    refine ⟨n', ?_⟩
    simp only [finishLongNumber, skipDigits_cons hd, List.append_assoc,
      skipDigits_digits hds hends, hplaces]
    exact hagain

/-- What is read as a number has the form of one, and is read the same before anything that
does not go on with it. -/
theorem readNumber_consumes : Consumes (readNumber negative) IsMagnitude := by
  intro c x c' h
  unfold readNumber at h
  split at h
  · cases h
  rename_i b r hrest
  dsimp only at h
  split at h
  · rename_i hb
    have hfinish : finishNumber negative 0 ⟨r, c.offset + 1⟩ = .ok (x, c') := by
      split at h
      · split at h
        · cases h
        · exact h
      · exact h
    obtain ⟨tail, hr, htail, hagain⟩ := finishNumber_consumes _ _ _ _ _ hfinish
    have hr : r = tail ++ c'.rest := hr
    refine ⟨[0x30] ++ tail, by rw [hrest, hb, hr]; rfl, ⟨[0x30], tail, rfl, Or.inl rfl, htail⟩,
      fun rest n hends => ?_⟩
    obtain ⟨n', hagain⟩ := hagain rest (n + 1) hends
    refine ⟨n', ?_⟩
    have hdigits := htail.endsDigits hends
    rw [List.append_assoc, List.singleton_append]
    cases hnext : tail ++ rest with
    | nil =>
      rw [hnext] at hagain
      exact hagain
    | cons d r =>
      rw [hnext] at hagain hdigits
      simp only [readNumber, if_true, hdigits d rfl, Bool.false_eq_true, if_false, hagain]
  split at h
  swap
  · cases h
  rename_i hzero hb
  obtain ⟨ds, rest, value, hr, hds, hread, hend⟩ := readSignificand_split (b.toNat - 0x30) r
  rw [hr, hread] at h
  rcases hend with hends | ⟨d, r', rfl, hd⟩
  · rw [readSignificand_end hends] at h
    obtain ⟨tail, hrest', htail, hagain⟩ := finishNumber_consumes _ _ _ _ _ h
    obtain rfl : rest = tail ++ c'.rest := hrest'
    refine ⟨b :: ds ++ tail, by rw [hrest, hr]; simp,
      ⟨b :: ds, tail, rfl, Or.inr ⟨b, ds, rfl, hzero, hb, hds⟩, htail⟩, fun rest n hends => ?_⟩
    obtain ⟨n', hagain⟩ := hagain rest (n + 1 + ds.length) hends
    refine ⟨n', ?_⟩
    simp only [readNumber, List.cons_append, List.append_assoc, if_neg hzero, hb, if_true, hread,
      readSignificand_end (htail.endsDigits hends), Bool.false_eq_true, if_false, hagain]
  · rw [readSignificand_full hd] at h
    obtain ⟨m, hr', ⟨ds', tail, rfl, hds', htail⟩, hagain⟩ :=
      finishLongNumber_consumes negative value hd.1 ⟨r', c.offset + 1 + ds.length⟩ x c' h
    obtain rfl : r' = ds' ++ tail ++ c'.rest := hr'
    refine ⟨b :: (ds ++ d :: ds') ++ tail, by rw [hrest, hr]; simp,
      ⟨b :: (ds ++ d :: ds'), tail, rfl, Or.inr ⟨b, ds ++ d :: ds', rfl, hzero, hb,
        List.forall_mem_append.mpr ⟨hds, List.forall_mem_cons.mpr ⟨hd.1, hds'⟩⟩⟩, htail⟩,
      fun rest n hends => ?_⟩
    obtain ⟨n', hagain⟩ := hagain rest (n + 1 + ds.length) hends
    refine ⟨n', ?_⟩
    simp only [List.append_assoc] at hagain
    simp only [readNumber, List.cons_append, List.append_assoc, if_neg hzero, hb, if_true, hread,
      readSignificand_full hd, hagain]

end

end CoachClient.Json
