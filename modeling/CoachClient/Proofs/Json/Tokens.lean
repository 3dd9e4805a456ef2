/-
CoachClient.Proofs.Json.Tokens — the tokens that are written read back.

* `IsGap`, `Cursor.skipBlanks_gap` — the blanks between tokens are passed over.
* `TextReads` — bytes up to a closing quote stand for other bytes; its rules are
  the ways in which a character can be written.
* `readTextBody_quote` — a quoted text reads back.
* `readNumber_digits` — a number that fits a word of 64 bits reads back, if what
  follows does not go on with it.
* `InWords`, `signed_reads` — so does an integer with its sign.

What is read does not depend on the offset, so nothing is said about offsets
but that there is one.
-/
import CoachClient.Json.Cursor
import CoachClient.Proofs.Text.Decimal
import CoachClient.Proofs.Text.Utf8

namespace CoachClient.Json

open CoachClient.Text CoachClient.Text.Utf8

/-! ## 1. Blanks -/

theorem Cursor.skipBlanks_blank {b : UInt8} (h : isBlankByte b = true) (r : List UInt8) (n : Nat) :
    (⟨b :: r, n⟩ : Cursor).skipBlanks = (⟨r, n + 1⟩ : Cursor).skipBlanks := by
  simp [Cursor.skipBlanks, passWhile, h]

theorem Cursor.skipBlanks_of_not {b : UInt8} (h : isBlankByte b = false) (r : List UInt8)
    (n : Nat) : (⟨b :: r, n⟩ : Cursor).skipBlanks = ⟨b :: r, n⟩ := by
  simp [Cursor.skipBlanks, passWhile, h]

/-- Leading bytes that are passed are passed over one by one. -/
theorem passWhile_append {p : UInt8 → Bool} {bs : List UInt8} (h : ∀ b ∈ bs, p b = true)
    (rest : List UInt8) (n : Nat) :
    passWhile p (bs ++ rest) n = passWhile p rest (n + bs.length) := by
  induction bs generalizing n with
  | nil => rfl
  | cons b bs ih =>
    rw [List.cons_append, passWhile, if_pos (h b List.mem_cons_self),
      ih fun d hd => h d (List.mem_cons_of_mem b hd), List.length_cons, Nat.add_right_comm n 1,
      Nat.add_assoc]

theorem passWhile_of_not {p : UInt8 → Bool} {rest : List UInt8}
    (h : ∀ b ∈ rest.head?, p b = false) (n : Nat) : passWhile p rest n = ⟨rest, n⟩ := by
  cases rest with
  | nil => rfl
  | cons b r => simp [passWhile, h b rfl]

/-- What is passed over, and where that ends. -/
theorem passWhile_split (p : UInt8 → Bool) (input : List UInt8) (n : Nat) :
    ∃ bs rest, input = bs ++ rest ∧ (∀ b ∈ bs, p b = true) ∧ (∀ b ∈ rest.head?, p b = false) ∧
      passWhile p input n = ⟨rest, n + bs.length⟩ := by
  induction input generalizing n with
  | nil => exact ⟨[], [], rfl, by simp, by simp, rfl⟩
  | cons b input ih =>
    by_cases hb : p b = true
    · obtain ⟨bs, rest, rfl, hbs, hrest, hpass⟩ := ih (n + 1)
      refine ⟨b :: bs, rest, rfl, List.forall_mem_cons.mpr ⟨hb, hbs⟩, hrest, ?_⟩
      rw [passWhile, if_pos hb, hpass, List.length_cons, Nat.add_right_comm n 1, Nat.add_assoc]
    · refine ⟨[], b :: input, rfl, by simp, fun d hd => ?_, if_neg hb⟩
      rw [← Option.some.inj hd]
      simpa using hb

/-- Blanks between tokens, as they are written. -/
def IsGap (gap : List Char) : Prop := ∀ c ∈ gap, c = ' ' ∨ c = '\n'

/-- A gap is passed over. -/
theorem Cursor.skipBlanks_gap {gap : List Char} (h : IsGap gap) (r : List UInt8) (n : Nat) :
    ∃ n', (⟨encodeAll gap ++ r, n⟩ : Cursor).skipBlanks = (⟨r, n'⟩ : Cursor).skipBlanks := by
  induction gap generalizing n with
  | nil => exact ⟨n, rfl⟩
  | cons c gap ih =>
    obtain ⟨n', hgap⟩ := ih (fun d hd => h d (List.mem_cons_of_mem c hd)) (n + 1)
    obtain ⟨b, hbyte, hblank⟩ : ∃ b, encodeChar c = [b] ∧ isBlankByte b = true := by
      rcases h c List.mem_cons_self with rfl | rfl
      · exact ⟨0x20, rfl, by decide⟩
      · exact ⟨0x0A, rfl, by decide⟩
    refine ⟨n', ?_⟩
    rw [encodeAll_cons, hbyte, List.append_assoc, List.singleton_append,
      Cursor.skipBlanks_blank hblank, hgap]

/-- The start of a line is a gap. -/
theorem isGap_newline (level : Nat) : IsGap (newline level) := by
  intro c hc
  rcases List.mem_cons.mp hc with rfl | hc
  · exact Or.inr rfl
  · exact Or.inl (List.eq_of_mem_replicate hc)

/-! ## 2. Texts -/

/-- The bytes of a character that needs no escape. -/
theorem plain_of_mem_encodeChar {c : Char} (hcontrol : 0x20 ≤ c.toNat) (hquote : c ≠ '"')
    (hescape : c ≠ '\\') {b : UInt8} (hb : b ∈ encodeChar c) : 0x20 ≤ b ∧ b ≠ 0x22 ∧ b ≠ 0x5C := by
  by_cases hascii : c.toNat < 0x80
  · rw [encodeChar_of_ascii hascii, List.mem_singleton] at hb
    subst hb
    have hne : ∀ d : Char, d.toNat < 256 → c ≠ d → UInt8.ofNat c.toNat ≠ UInt8.ofNat d.toNat := by
      intro d hd hcd heq
      have := congrArg UInt8.toNat heq
      rw [toNat_ofNat (by omega), toNat_ofNat hd] at this
      exact hcd (Char.toNat_inj.mp this)
    refine ⟨?_, hne '"' (by decide) hquote, hne '\\' (by decide) hescape⟩
    rw [UInt8.le_iff_toNat_le, toNat_ofNat (by omega)]
    exact hcontrol
  · have hhigh : 0x80 ≤ b := high_of_mem_encodeChar (by omega) hb
    refine ⟨?_, ?_, ?_⟩
    · exact UInt8.le_trans (by decide) hhigh
    · rintro rfl
      exact absurd hhigh (by decide)
    · rintro rfl
      exact absurd hhigh (by decide)

/-- The bytes `input` go on with `bytes` up to a closing quote, and `rest` is
what follows it. -/
def TextReads (input bytes rest : List UInt8) : Prop :=
  ∀ fuel n, input.length < fuel →
    ∃ n', readTextBytes fuel ⟨input, n⟩ = .ok (bytes, ⟨rest, n'⟩)

namespace TextReads

variable {input bytes rest : List UInt8}

theorem close (rest : List UInt8) : TextReads (0x22 :: rest) [] rest := by
  intro fuel n hfuel
  obtain ⟨fuel, rfl⟩ : ∃ k, fuel = k + 1 := ⟨fuel - 1, by simp at hfuel; omega⟩
  exact ⟨n + 1, rfl⟩

/-- A byte that stands for itself. -/
theorem plain {b : UInt8} (hcontrol : 0x20 ≤ b) (hquote : b ≠ 0x22) (hescape : b ≠ 0x5C)
    (h : TextReads input bytes rest) : TextReads (b :: input) (b :: bytes) rest := by
  intro fuel n hfuel
  simp only [List.length_cons] at hfuel
  obtain ⟨fuel, rfl⟩ : ∃ k, fuel = k + 1 := ⟨fuel - 1, by omega⟩
  obtain ⟨n', hread⟩ := h fuel (n + 1) (by omega)
  refine ⟨n', ?_⟩
  simp only [readTextBytes, if_neg hquote, if_neg hescape, UInt8.not_lt.mpr hcontrol, if_false,
    hread]
  rfl

/-- An escape of any form. -/
theorem escape {e decoded : List UInt8} (he : 0 < e.length)
    (hread : ∀ n, ∃ n', readEscape ⟨e ++ input, n⟩ = .ok (decoded, ⟨input, n'⟩))
    (h : TextReads input bytes rest) :
    TextReads (0x5C :: (e ++ input)) (decoded ++ bytes) rest := by
  intro fuel n hfuel
  simp only [List.length_cons, List.length_append] at hfuel
  obtain ⟨fuel, rfl⟩ : ∃ k, fuel = k + 1 := ⟨fuel - 1, by omega⟩
  obtain ⟨n₁, hescape⟩ := hread (n + 1)
  obtain ⟨n', hrest⟩ := h fuel n₁ (by omega)
  refine ⟨n', ?_⟩
  have hquote : (0x5C : UInt8) ≠ 0x22 := by decide
  simp only [readTextBytes, if_neg hquote, if_true, hescape, bind, Except.bind, hrest]

/-- An escape of one letter. -/
theorem short {c d e : Char} {b x : UInt8} (h : TextReads input bytes rest) (hc : (c == d) = true)
    (hb : encodeChar e = [b]) (hx : encodeChar d = [x]) (hletter : b ≠ 0x75)
    (hshort : shortEscape b = some x) :
    TextReads (encodeAll ['\\', e] ++ input) (encodeChar c ++ bytes) rest := by
  have hread : ∀ n, ∃ n', readEscape ⟨[b] ++ input, n⟩ = .ok ([x], ⟨input, n'⟩) := fun n =>
    ⟨n + 1, by simp [readEscape, hletter, hshort]⟩
  have hinput : encodeAll ['\\', e] ++ input = 0x5C :: ([b] ++ input) := by
    rw [encodeAll_cons, encodeAll_cons, hb]
    rfl
  rw [hinput, eq_of_beq hc, hx]
  exact escape (by simp) hread h

theorem hexValue_hexDigit : ∀ d < 16, encodeChar (hexDigit d) = [UInt8.ofNat (hexDigit d).toNat] ∧
    hexValue (UInt8.ofNat (hexDigit d).toNat) = some d := by
  decide

/-- An escape by the code point, with its last two digits. -/
theorem codePoint {c : Char} (hc : c.toNat < 0x100) (h : TextReads input bytes rest) :
    TextReads (encodeAll ['\\', 'u', '0', '0', hexDigit (c.toNat / 16), hexDigit (c.toNat % 16)]
      ++ input) (encodeChar c ++ bytes) rest := by
  obtain ⟨hhigh, hhigh'⟩ := hexValue_hexDigit (c.toNat / 16) (by omega)
  obtain ⟨hlow, hlow'⟩ := hexValue_hexDigit (c.toNat % 16) (by omega)
  generalize UInt8.ofNat (hexDigit (c.toNat / 16)).toNat = high at hhigh hhigh'
  generalize UInt8.ofNat (hexDigit (c.toNat % 16)).toNat = low at hlow hlow'
  have hread : ∀ n, ∃ n', readEscape ⟨[0x75, 0x30, 0x30, high, low] ++ input, n⟩ =
      .ok (encodeChar c, ⟨input, n'⟩) := by
    intro n
    have hquad : readHexQuad ⟨[0x30, 0x30, high, low] ++ input, n + 1⟩ =
        .ok (c.toNat, ⟨input, n + 1 + 4⟩) := by
      have hzero : hexValue 0x30 = some 0 := rfl
      have hvalue : ((0 * 16 + 0) * 16 + c.toNat / 16) * 16 + c.toNat % 16 = c.toNat := by omega
      simp only [readHexQuad, List.cons_append, List.nil_append, hzero, hhigh', hlow', hvalue]
    have hpair : ¬ (0xDC00 ≤ c.toNat && c.toNat ≤ 0xDFFF) = true := by
      simp
      omega
    have hsingle : (decide (c.toNat < 0xD800) || decide (0xDBFF < c.toNat)) = true := by
      simp
      omega
    refine ⟨n + 1 + 4, ?_⟩
    simp only [List.cons_append, List.nil_append] at hquad
    simp only [readEscape, List.cons_append, List.nil_append, if_true, readUnicodeEscape, hquad,
      bind, Except.bind, if_neg hpair, if_pos hsingle, Char.ofNat_toNat]
  have hinput : encodeAll ['\\', 'u', '0', '0', hexDigit (c.toNat / 16), hexDigit (c.toNat % 16)]
      ++ input = 0x5C :: ([0x75, 0x30, 0x30, high, low] ++ input) := by
    simp only [encodeAll_cons, encodeAll_nil, hhigh, hlow]
    rfl
  rw [hinput]
  exact escape (by simp) hread h

/-- A run of bytes that stand for themselves. -/
theorem plains {bs : List UInt8} (hbs : ∀ b ∈ bs, 0x20 ≤ b ∧ b ≠ 0x22 ∧ b ≠ 0x5C)
    (h : TextReads input bytes rest) : TextReads (bs ++ input) (bs ++ bytes) rest := by
  induction bs with
  | nil => exact h
  | cons b bs ih =>
    obtain ⟨hcontrol, hquote, hescape⟩ := hbs b List.mem_cons_self
    exact (ih fun b hb => hbs b (List.mem_cons_of_mem _ hb)).plain hcontrol hquote hescape

/-- A character that stands for itself. -/
theorem raw {c : Char} (hcontrol : 0x20 ≤ c.toNat) (hquote : c ≠ '"') (hescape : c ≠ '\\')
    (h : TextReads input bytes rest) :
    TextReads (encodeAll [c] ++ input) (encodeChar c ++ bytes) rest := by
  rw [encodeAll_cons, encodeAll_nil, List.append_nil]
  exact h.plains fun b hb => plain_of_mem_encodeChar hcontrol hquote hescape hb

/-- A character as it is written. -/
theorem escapeChar (c : Char) (h : TextReads input bytes rest) :
    TextReads (encodeAll (Json.escapeChar c) ++ input) (encodeChar c ++ bytes) rest := by
  unfold Json.escapeChar
  split
  · rename_i hc
    exact h.short hc (b := 0x22) (x := 0x22) rfl rfl (by decide) rfl
  split
  · rename_i hc
    exact h.short hc (b := 0x5C) (x := 0x5C) rfl rfl (by decide) rfl
  split
  · rename_i hc
    exact h.short hc (b := 0x62) (x := 0x08) rfl rfl (by decide) rfl
  split
  · rename_i hc
    exact h.short hc (b := 0x66) (x := 0x0C) rfl rfl (by decide) rfl
  split
  · rename_i hc
    exact h.short hc (b := 0x6E) (x := 0x0A) rfl rfl (by decide) rfl
  split
  · rename_i hc
    exact h.short hc (b := 0x72) (x := 0x0D) rfl rfl (by decide) rfl
  split
  · rename_i hc
    exact h.short hc (b := 0x74) (x := 0x09) rfl rfl (by decide) rfl
  split
  · exact h.codePoint (by omega)
  · rename_i hquote hescape _ _ _ _ _ hcontrol
    exact h.raw (by omega) (by simpa using hquote) (by simpa using hescape)

/-- Characters as they are written, with a closing quote after them. -/
theorem escapeChars (cs : List Char) (rest : List UInt8) :
    TextReads (encodeAll (cs.flatMap Json.escapeChar) ++ 0x22 :: rest) (encodeAll cs) rest := by
  induction cs with
  | nil => exact close rest
  | cons c cs ih =>
    rw [List.flatMap_cons, encodeAll_append, List.append_assoc, encodeAll_cons]
    exact ih.escapeChar c

end TextReads

/-- The bytes of a quoted text. -/
theorem encodeAll_quote (s : String) (rest : List UInt8) :
    encodeAll (quote s) ++ rest =
      0x22 :: (encodeAll (s.toList.flatMap escapeChar) ++ 0x22 :: rest) := by
  have hquote : encodeChar '"' = [0x22] := rfl
  simp [quote, hquote]

/-- A quoted text reads back. -/
theorem readTextBody_quote (s : String) (rest : List UInt8) (n : Nat) :
    ∃ n', readTextBody ⟨encodeAll (s.toList.flatMap escapeChar) ++ 0x22 :: rest, n⟩ =
      .ok (s, ⟨rest, n'⟩) := by
  obtain ⟨n', h⟩ := TextReads.escapeChars s.toList rest _ n (Nat.lt_succ_self _)
  refine ⟨n', ?_⟩
  have hdecode : decode (encodeAll s.toList) = some s := decode_encode s
  simp only [readTextBody, h, bind, Except.bind, hdecode]

/-! ## 3. Numbers -/

/-- No digit comes next. -/
def EndsDigits (rest : List UInt8) : Prop := ∀ b ∈ rest.head?, isDigitByte b = false

/-- What follows does not go on with a number. -/
def EndsNumber (rest : List UInt8) : Prop :=
  ∀ b ∈ rest.head?, isDigitByte b = false ∧ b ≠ 0x2E ∧ b ≠ 0x65 ∧ b ≠ 0x45

theorem EndsNumber.endsDigits {rest : List UInt8} (h : EndsNumber rest) : EndsDigits rest :=
  fun b hb => (h b hb).1

theorem endsNumber_cons {b : UInt8} (h : isDigitByte b = false ∧ b ≠ 0x2E ∧ b ≠ 0x65 ∧ b ≠ 0x45)
    (rest : List UInt8) : EndsNumber (b :: rest) := by
  intro d hd
  rw [← Option.some.inj hd]
  exact h

/-- The byte of a digit. -/
theorem digitByte : ∀ d < 10, encodeChar d.digitChar = [UInt8.ofNat (d + 0x30)] ∧
    isDigitByte (UInt8.ofNat (d + 0x30)) = true ∧ (UInt8.ofNat (d + 0x30)).toNat - 0x30 = d := by
  decide

theorem readSignificand_digit {d acc : Nat} (hd : d < 10) (hfits : acc * 10 + d ≤ maxWord64)
    (rest : List UInt8) (n : Nat) :
    readSignificand acc (UInt8.ofNat (d + 0x30) :: rest) n =
      readSignificand (acc * 10 + d) rest (n + 1) := by
  obtain ⟨-, hdigit, hvalue⟩ := digitByte d hd
  simp only [readSignificand, hdigit, if_true, hvalue, if_pos hfits]

/-- Digits are read onto what has been read before. -/
theorem readSignificand_digits (k acc : Nat) (rest : List UInt8) (n : Nat)
    (hfits : acc * 10 ^ (digits k).length + k ≤ maxWord64) :
    ∃ n', readSignificand acc (encodeAll (digits k) ++ rest) n =
      readSignificand (acc * 10 ^ (digits k).length + k) rest n' := by
  induction k using Nat.strongRecOn generalizing rest n with
  | ind k ih =>
    rw [digits_eq] at hfits ⊢
    split at hfits
    · rename_i hk
      simp only [List.length_singleton, Nat.pow_one] at hfits
      refine ⟨n + 1, ?_⟩
      rw [if_pos hk, encodeAll_cons, (digitByte k hk).1]
      simpa using readSignificand_digit hk hfits rest n
    · rename_i hk
      -- the last digit is part of what follows the others
      rw [List.length_append, List.length_singleton, Nat.pow_succ, ← Nat.mul_assoc] at hfits
      have hlast : k % 10 < 10 := Nat.mod_lt k (by decide)
      obtain ⟨n₁, hfront⟩ :=
        ih (k / 10) (by omega) (UInt8.ofNat (k % 10 + 0x30) :: rest) n (by omega)
      refine ⟨n₁ + 1, ?_⟩
      rw [if_neg hk, encodeAll_append, encodeAll_cons, (digitByte _ hlast).1, List.append_assoc]
      refine hfront.trans ((readSignificand_digit hlast (by omega) rest n₁).trans ?_)
      rw [List.length_append, List.length_singleton, Nat.pow_succ, ← Nat.mul_assoc]
      congr 1
      omega

theorem readSignificand_end {rest : List UInt8} (h : EndsDigits rest) (k n : Nat) :
    readSignificand k rest n = (k, false, ⟨rest, n⟩) := by
  cases rest with
  | nil => rfl
  | cons b r => simp [readSignificand, h b rfl]

/-- The integer that a number after its sign denotes. -/
def withSign (negative : Bool) (k : Nat) : Int := if negative then -(k : Int) else k

/-- A number after its sign is an integer: no minus stands before a zero, nor before
what is less than every signed word. -/
def FitsSign (negative : Bool) (k : Nat) : Prop :=
  negative = true → 0 < k ∧ k ≤ minInt64Magnitude

theorem finishNumber_end {negative : Bool} {k : Nat} (hsign : FitsSign negative k)
    {rest : List UInt8} (h : EndsNumber rest) (n : Nat) :
    finishNumber negative k ⟨rest, n⟩ = .ok (.int (withSign negative k), ⟨rest, n⟩) := by
  unfold finishNumber
  split
  · rename_i hrest
    exact absurd rfl (h 0x2E (by simp only at hrest; rw [hrest]; rfl)).2.1
  · rename_i hrest
    exact absurd rfl (h 0x65 (by simp only at hrest; rw [hrest]; rfl)).2.2.1
  · rename_i hrest
    exact absurd rfl (h 0x45 (by simp only at hrest; rw [hrest]; rfl)).2.2.2
  · cases negative with
    | false => rfl
    | true =>
      obtain ⟨hpos, hsmall⟩ := hsign rfl
      have hinside : ¬ (k = 0 ∨ minInt64Magnitude < k) := by omega
      simp [hinside, withSign]

/-- A number that fits reads back. -/
theorem readNumber_digits {negative : Bool} {k : Nat} (hk : k ≤ maxWord64)
    (hsign : FitsSign negative k) {rest : List UInt8} (h : EndsNumber rest) (n : Nat) :
    ∃ n', readNumber negative ⟨encodeAll (digits k) ++ rest, n⟩ =
      .ok (.int (withSign negative k), ⟨rest, n'⟩) := by
  rcases Nat.eq_zero_or_pos k with rfl | hpos
  · refine ⟨n + 1, ?_⟩
    have hzero : encodeAll (digits 0) = [0x30] := by decide
    rw [hzero]
    have hfinish := finishNumber_end hsign h (n + 1)
    cases rest with
    | nil => exact hfinish
    | cons b r =>
      simp only [readNumber, List.singleton_append, if_true, (h b rfl).1, Bool.false_eq_true,
        if_false]
      exact hfinish
  · obtain ⟨d, ds, hd', hd, hds⟩ := digits_cons k
    specialize hd hpos
    obtain ⟨n', hread⟩ := readSignificand_digits k 0 rest n (by omega)
    rw [Nat.zero_mul, Nat.zero_add, readSignificand_end h.endsDigits] at hread
    obtain ⟨hbyte, hdigit, hvalue⟩ := digitByte d hd'
    rw [hds, encodeAll_cons, hbyte, List.append_assoc, List.singleton_append] at hread ⊢
    have hmax : 0 * 10 + d ≤ maxWord64 := by
      have : maxWord64 = 2 ^ 64 - 1 := rfl
      omega
    rw [readSignificand_digit hd' hmax, Nat.zero_mul, Nat.zero_add] at hread
    have hzero : UInt8.ofNat (d + 0x30) ≠ 0x30 := by
      intro heq
      rw [heq] at hvalue
      have hnone : (0x30 : UInt8).toNat - 0x30 = 0 := rfl
      omega
    refine ⟨n', ?_⟩
    simp only [readNumber, if_neg hzero, hdigit, if_true, hvalue, hread, Bool.false_eq_true,
      if_false]
    exact finishNumber_end hsign h n'

/-! ## 4. Integers -/

/-- The integer is a signed or an unsigned word of 64 bits. -/
def InWords (i : Int) : Prop := -(minInt64Magnitude : Int) ≤ i ∧ i ≤ maxWord64

/-- The bytes are a minus sign and what is read as a number after it, or are read as
a number themselves, and the number is `i`. -/
def NumberReads (input : List UInt8) (i : Int) (rest : List UInt8) : Prop :=
  ∃ b r, input = b :: r ∧ ∀ n,
    (b = 0x2D ∧ ∃ n', readNumber true ⟨r, n + 1⟩ = .ok (.int i, ⟨rest, n'⟩)) ∨
      (isDigitByte b = true ∧ ∃ n', readNumber false ⟨b :: r, n⟩ = .ok (.int i, ⟨rest, n'⟩))

/-- An integer that fits a word reads back with its sign. -/
theorem signed_reads {i : Int} (hi : InWords i) {rest : List UInt8} (h : EndsNumber rest) :
    NumberReads (encodeAll (signed i) ++ rest) i rest := by
  obtain ⟨hlow, hhigh⟩ := hi
  have hwords : minInt64Magnitude ≤ maxWord64 := by decide
  unfold signed
  split
  · rename_i hneg
    have hminus : encodeChar '-' = [0x2D] := rfl
    have hvalue : withSign true i.natAbs = i := by
      simp only [withSign, if_true]
      omega
    have hsign : FitsSign true i.natAbs := fun _ => by omega
    refine ⟨0x2D, encodeAll (digits i.natAbs) ++ rest, ?_, fun n => Or.inl ⟨rfl, ?_⟩⟩
    · rw [encodeAll_cons, hminus]
      rfl
    · obtain ⟨n', hread⟩ := readNumber_digits (by omega) hsign h (n + 1)
      exact ⟨n', by rw [hread, hvalue]⟩
  · rename_i hneg
    have hvalue : withSign false i.natAbs = i := by
      simp only [withSign, Bool.false_eq_true, if_false]
      omega
    obtain ⟨d, ds, hd, -, hds⟩ := digits_cons i.natAbs
    obtain ⟨hbyte, hdigit, -⟩ := digitByte d hd
    have hfirst : encodeAll (digits i.natAbs) ++ rest =
        UInt8.ofNat (d + 0x30) :: (encodeAll ds ++ rest) := by
      rw [hds, encodeAll_cons, hbyte]
      rfl
    refine ⟨_, _, hfirst, fun n => Or.inr ⟨hdigit, ?_⟩⟩
    have hsign : FitsSign false i.natAbs := fun hfalse => absurd hfalse (by decide)
    obtain ⟨n', hread⟩ := readNumber_digits (by omega) hsign h n
    rw [hfirst, hvalue] at hread
    exact ⟨n', hread⟩

/-- An integer begins with a minus sign or with a digit. -/
theorem signed_start {i : Int} (hi : InWords i) (rest : List UInt8) :
    ∃ b r, encodeAll (signed i) ++ rest = b :: r ∧ (b = 0x2D ∨ isDigitByte b = true) := by
  have hends : EndsNumber [] := fun b hb => nomatch hb
  obtain ⟨b, r, hfirst, hread⟩ := signed_reads hi hends
  rw [List.append_nil] at hfirst
  refine ⟨b, r ++ rest, by rw [hfirst, List.cons_append], ?_⟩
  exact (hread 0).imp And.left And.left

/-- A digit is none of the other bytes that a value can begin with. -/
theorem not_digitByte {b : UInt8} (h : isDigitByte b = true) :
    isBlankByte b = false ∧ b ≠ 0x2D ∧ b ≠ 0x6E ∧ b ≠ 0x74 ∧ b ≠ 0x66 ∧ b ≠ 0x5D := by
  have hne : ∀ x : UInt8, isDigitByte x = false → b ≠ x := by
    rintro x hx rfl
    exact absurd h (by simp [hx])
  refine ⟨?_, hne _ (by decide), hne _ (by decide), hne _ (by decide), hne _ (by decide),
    hne _ (by decide)⟩
  simp [isBlankByte, hne 0x20 (by decide), hne 0x0A (by decide), hne 0x09 (by decide),
    hne 0x0D (by decide)]

end CoachClient.Json
