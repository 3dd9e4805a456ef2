/-
CoachClient.Proofs.Json.Spelling — texts between quotes, read and passed over.

* `IsQuad.reads`, `quad_of_readHexQuad` — four hexadecimal digits and their value.
* `IsTextBody.skips`, `isTextBody_of_skipText` — what is passed over as a text.
* `Spells.reads`, `spells_of_readTextBody` — what is read as a text, and what it is read as.

Each reader takes all that the grammar allows, up to the closing quote, and nothing else.
A text that is passed over may hold a surrogate that stands alone, or bytes that are not
UTF-8; a text that is read may not, so there is one grammar for each.
-/
import CoachClient.Json.Skip
import CoachClient.Proofs.Json.Grammar
import CoachClient.Proofs.Success

namespace CoachClient.Json

open CoachClient.Text CoachClient.Text.Utf8

/-! ## 1. Code points -/

theorem hexValue_lt {b : UInt8} {n : Nat} (h : hexValue b = some n) : n < 16 := by
  unfold hexValue at h
  split at h
  · rename_i hdigit
    obtain rfl := Option.some.inj h
    simp [UInt8.le_iff_toNat_le] at hdigit
    omega
  split at h
  · rename_i hlower
    obtain rfl := Option.some.inj h
    simp [UInt8.le_iff_toNat_le] at hlower
    omega
  split at h
  · rename_i hupper
    obtain rfl := Option.some.inj h
    simp [UInt8.le_iff_toNat_le] at hupper
    omega
  · cases h

theorem IsQuad.lt {digits : List UInt8} {n : Nat} (h : IsQuad digits n) : n < 0x10000 := by
  obtain ⟨a, b, d, e, h₁, h₂, h₃, h₄, -, ha, hb, hd, he, rfl⟩ := h
  have := hexValue_lt ha
  have := hexValue_lt hb
  have := hexValue_lt hd
  have := hexValue_lt he
  omega

theorem IsQuad.reads {digits : List UInt8} {n : Nat} (h : IsQuad digits n) (rest : List UInt8)
    (k : Nat) : readHexQuad ⟨digits ++ rest, k⟩ = .ok (n, ⟨rest, k + 4⟩) := by
  obtain ⟨a, b, d, e, h₁, h₂, h₃, h₄, rfl, ha, hb, hd, he, rfl⟩ := h
  simp only [readHexQuad, List.cons_append, List.nil_append, ha, hb, hd, he]

theorem quad_of_readHexQuad {c c' : Cursor} {n : Nat} (h : readHexQuad c = .ok (n, c')) :
    ∃ digits, IsQuad digits n ∧ c.rest = digits ++ c'.rest := by
  unfold readHexQuad at h
  split at h
  · rename_i a b d e r hrest
    dsimp only at h
    split at h
    · rename_i h₁ h₂ h₃ h₄ ha hb hd he
      obtain ⟨rfl, rfl⟩ := Prod.mk.inj (Except.ok.inj h)
      exact ⟨[a, b, d, e], ⟨a, b, d, e, h₁, h₂, h₃, h₄, rfl, ha, hb, hd, he, rfl⟩, hrest⟩
    · cases h
  · cases h

/-! ## 2. Texts that are passed over -/

/-- An escape is passed over whatever it names. -/
theorem skipEscape_ok {c c' : Cursor} (h : skipEscape c = .ok c') :
    ∃ piece, c.rest = piece ++ c'.rest ∧
      ∀ body, IsTextBody body → IsTextBody (0x5C :: (piece ++ body)) := by
  unfold skipEscape at h
  split at h
  · cases h
  · rename_i b r hrest
    dsimp only at h
    split at h
    · rename_i hb
      subst hb
      obtain ⟨⟨n, c₁⟩, hquad, rfl⟩ := map_eq_ok.mp h
      obtain ⟨digits, hdigits, hr⟩ := quad_of_readHexQuad hquad
      have hr : r = digits ++ c₁.rest := hr
      exact ⟨0x75 :: digits, by rw [hrest, hr]; rfl, fun body hbody => .codePoint hdigits hbody⟩
    split at h
    · rename_i hb
      obtain ⟨x, hx⟩ := Option.isSome_iff_exists.mp hb
      obtain rfl := Except.ok.inj h
      exact ⟨[b], hrest, fun body hbody => .short hx hbody⟩
    · cases h

theorem isTextBody_of_skipTextBody {fuel : Nat} {c c' : Cursor} (h : skipTextBody fuel c = .ok c') :
    ∃ body, IsTextBody body ∧ c.rest = body ++ 0x22 :: c'.rest := by
  induction fuel generalizing c with
  | zero => cases h
  | succ fuel ih =>
    unfold skipTextBody at h
    split at h
    · cases h
    · rename_i b r hrest
      dsimp only at h
      split at h
      · rename_i hb
        obtain rfl := Except.ok.inj h
        exact ⟨[], .nil, by rw [hrest, hb]; rfl⟩
      split at h
      · rename_i hb
        obtain ⟨c₁, hescape, h⟩ := bind_eq_ok.mp h
        obtain ⟨piece, hr, hpiece⟩ := skipEscape_ok hescape
        have hr : r = piece ++ c₁.rest := hr
        obtain ⟨body, hbody, hc₁⟩ := ih h
        refine ⟨0x5C :: (piece ++ body), hpiece body hbody, ?_⟩
        rw [hrest, hb, hr, hc₁]
        simp
      split at h
      · cases h
      · rename_i hquote hescape hcontrol
        obtain ⟨body, hbody, hr⟩ := ih h
        have hr : r = body ++ 0x22 :: c'.rest := hr
        exact ⟨b :: body, .plain ⟨UInt8.not_lt.mp hcontrol, hquote, hescape⟩ hbody,
          by rw [hrest, hr]; rfl⟩

/-- What is passed over as a text is one. -/
theorem isTextBody_of_skipText {c c' : Cursor} (h : skipText c = .ok c') :
    ∃ body, IsTextBody body ∧ c.rest = body ++ 0x22 :: c'.rest := isTextBody_of_skipTextBody h

theorem IsTextBody.skipTextBody {body : List UInt8} (h : IsTextBody body) {fuel : Nat}
    (hfuel : body.length < fuel) (rest : List UInt8) (n : Nat) :
    ∃ n', Json.skipTextBody fuel ⟨body ++ 0x22 :: rest, n⟩ = .ok ⟨rest, n'⟩ := by
  induction h generalizing fuel n with
  | nil =>
    obtain ⟨fuel, rfl⟩ : ∃ k, fuel = k + 1 := ⟨fuel - 1, by simp at hfuel; omega⟩
    exact ⟨n + 1, rfl⟩
  | @plain b body hb _ ih =>
    simp only [List.length_cons] at hfuel
    obtain ⟨fuel, rfl⟩ : ∃ k, fuel = k + 1 := ⟨fuel - 1, by omega⟩
    obtain ⟨n', hskip⟩ := ih (show body.length < fuel by omega) (n + 1)
    obtain ⟨hcontrol, hquote, hescape⟩ := hb
    refine ⟨n', ?_⟩
    simp only [List.cons_append, Json.skipTextBody, if_neg hquote, if_neg hescape,
      UInt8.not_lt.mpr hcontrol, if_false, hskip]
  | @short b x body hb _ ih =>
    simp only [List.length_cons] at hfuel
    obtain ⟨fuel, rfl⟩ : ∃ k, fuel = k + 1 := ⟨fuel - 1, by omega⟩
    obtain ⟨n', hskip⟩ := ih (show body.length < fuel by omega) (n + 1 + 1)
    have hletter : b ≠ 0x75 := by
      rintro rfl
      cases hb
    have hquote : (0x5C : UInt8) ≠ 0x22 := by decide
    refine ⟨n', ?_⟩
    simp only [List.cons_append, Json.skipTextBody, if_neg hquote, if_true, skipEscape,
      if_neg hletter, hb, Option.isSome_some, bind, Except.bind, hskip]
  | @codePoint digits body k hdigits _ ih =>
    simp only [List.length_cons, List.length_append] at hfuel
    obtain ⟨fuel, rfl⟩ : ∃ k, fuel = k + 1 := ⟨fuel - 1, by omega⟩
    obtain ⟨n', hskip⟩ := ih (show body.length < fuel by omega) (n + 1 + 1 + 4)
    have hquote : (0x5C : UInt8) ≠ 0x22 := by decide
    refine ⟨n', ?_⟩
    simp only [List.cons_append, List.append_assoc, Json.skipTextBody, if_neg hquote, if_true,
      skipEscape, hdigits.reads, Except.map, bind, Except.bind, hskip]

/-- A text is passed over to its closing quote. -/
theorem IsTextBody.skips {body : List UInt8} (h : IsTextBody body) (rest : List UInt8) (n : Nat) :
    ∃ n', skipText ⟨body ++ 0x22 :: rest, n⟩ = .ok ⟨rest, n'⟩ :=
  h.skipTextBody (by rw [List.length_append]; omega) rest n

/-! ## 3. Texts that are read -/

theorem readPairByte_ok {b : UInt8} {c c' : Cursor} (h : readPairByte b c = .ok c') :
    c.rest = b :: c'.rest := by
  unfold readPairByte at h
  split at h
  · cases h
  · rename_i x r hrest
    dsimp only at h
    split at h
    · rename_i hx
      obtain rfl := Except.ok.inj h
      rw [hrest, hx]
    · cases h

/-- A code point is read with all its digits: one character, or a pair of surrogates for
one. -/
theorem readUnicodeEscape_ok {c c' : Cursor} {bytes : List UInt8}
    (h : readUnicodeEscape c = .ok (bytes, c')) :
    ∃ piece, c.rest = piece ++ c'.rest ∧
      ∀ more body, Spells more body →
        Spells (bytes ++ more) (0x5C :: 0x75 :: (piece ++ body)) := by
  unfold readUnicodeEscape at h
  obtain ⟨⟨m, c₁⟩, hquad, h⟩ := bind_eq_ok.mp h
  obtain ⟨high, hhigh, hc⟩ := quad_of_readHexQuad hquad
  have hsmall := hhigh.lt
  dsimp only at h
  split at h
  · cases h
  rename_i hlow
  split at h
  · rename_i hsingle
    obtain ⟨rfl, rfl⟩ := Prod.mk.inj (Except.ok.inj h)
    simp only [Bool.and_eq_true, Bool.or_eq_true, decide_eq_true_eq] at hlow hsingle
    have hvalue := toNat_charOfNat (n := m) (by omega)
    refine ⟨high, hc, fun more body hbody => ?_⟩
    exact .codePoint (by rw [hvalue]; exact hhigh) hbody
  · rename_i hsingle
    obtain ⟨c₂, hc₂, h⟩ := bind_eq_ok.mp h
    obtain ⟨c₃, hc₃, h⟩ := bind_eq_ok.mp h
    obtain ⟨⟨n, c₄⟩, hquad', h⟩ := bind_eq_ok.mp h
    obtain ⟨low, hlow', hc₄⟩ := quad_of_readHexQuad hquad'
    dsimp only at h
    split at h
    · cases h
    rename_i hpair
    obtain ⟨rfl, rfl⟩ := Prod.mk.inj (Except.ok.inj h)
    simp only [Bool.or_eq_true, decide_eq_true_eq] at hsingle hpair
    have hvalue := toNat_charOfNat
      (n := (m - 0xD800) * 0x400 + (n - 0xDC00) + 0x10000) (by omega)
    refine ⟨high ++ 0x5C :: 0x75 :: low, ?_, fun more body hbody => ?_⟩
    · rw [hc, readPairByte_ok hc₂, readPairByte_ok hc₃, hc₄]
      simp
    · have hspells := Spells.pair hhigh hlow' (by omega) (by omega) hvalue hbody
      simpa using hspells

/-- An escape that is read, and what it stands for. -/
theorem readEscape_ok {c c' : Cursor} {bytes : List UInt8} (h : readEscape c = .ok (bytes, c')) :
    ∃ piece, c.rest = piece ++ c'.rest ∧
      ∀ more body, Spells more body → Spells (bytes ++ more) (0x5C :: (piece ++ body)) := by
  unfold readEscape at h
  split at h
  · cases h
  · rename_i b r hrest
    dsimp only at h
    split at h
    · rename_i hb
      obtain ⟨piece, hr, hpiece⟩ := readUnicodeEscape_ok h
      have hr : r = piece ++ c'.rest := hr
      exact ⟨0x75 :: piece, by rw [hrest, hb, hr]; rfl, hpiece⟩
    split at h
    · rename_i x hx
      obtain ⟨rfl, rfl⟩ := Prod.mk.inj (Except.ok.inj h)
      exact ⟨[b], hrest, fun more body hbody => .short hx hbody⟩
    · cases h

theorem spells_of_readTextBytes {fuel : Nat} {c c' : Cursor} {bytes : List UInt8}
    (h : readTextBytes fuel c = .ok (bytes, c')) :
    ∃ body, Spells bytes body ∧ c.rest = body ++ 0x22 :: c'.rest := by
  induction fuel generalizing c bytes with
  | zero => cases h
  | succ fuel ih =>
    unfold readTextBytes at h
    split at h
    · cases h
    · rename_i b r hrest
      dsimp only at h
      split at h
      · rename_i hb
        obtain ⟨rfl, rfl⟩ := Prod.mk.inj (Except.ok.inj h)
        exact ⟨[], .nil, by rw [hrest, hb]; rfl⟩
      split at h
      · rename_i hb
        obtain ⟨⟨first, c₁⟩, hescape, h⟩ := bind_eq_ok.mp h
        obtain ⟨⟨more, c₂⟩, hmore, h⟩ := bind_eq_ok.mp h
        obtain ⟨rfl, rfl⟩ := Prod.mk.inj (Except.ok.inj h)
        obtain ⟨piece, hr, hpiece⟩ := readEscape_ok hescape
        have hr : r = piece ++ c₁.rest := hr
        obtain ⟨body, hbody, hc₁⟩ := ih hmore
        refine ⟨0x5C :: (piece ++ body), hpiece more body hbody, ?_⟩
        rw [hrest, hb, hr, hc₁]
        simp
      split at h
      · cases h
      · rename_i hquote hescape hcontrol
        obtain ⟨⟨more, c₁⟩, hmore, h⟩ := bind_eq_ok.mp h
        obtain ⟨rfl, rfl⟩ := Prod.mk.inj (Except.ok.inj h)
        obtain ⟨body, hbody, hr⟩ := ih hmore
        have hr : r = body ++ 0x22 :: c₁.rest := hr
        exact ⟨b :: body, .plain ⟨UInt8.not_lt.mp hcontrol, hquote, hescape⟩ hbody,
          by rw [hrest, hr]; rfl⟩

/-- What is read as a text is spelled by the bytes up to the closing quote. -/
theorem spells_of_readTextBody {c c' : Cursor} {s : String} (h : readTextBody c = .ok (s, c')) :
    ∃ body, Spells (encode s) body ∧ c.rest = body ++ 0x22 :: c'.rest := by
  unfold readTextBody at h
  obtain ⟨⟨bytes, next⟩, hbytes, h⟩ := bind_eq_ok.mp h
  dsimp only at h
  split at h
  · rename_i s' hdecode
    obtain ⟨rfl, rfl⟩ := Prod.mk.inj (Except.ok.inj h)
    rw [encode_of_decode hdecode]
    exact spells_of_readTextBytes hbytes
  · split at h <;> cases h

theorem Spells.textReads {bytes body : List UInt8} (h : Spells bytes body) (rest : List UInt8) :
    TextReads (body ++ 0x22 :: rest) bytes rest := by
  induction h with
  | nil => exact .close rest
  | plain hb _ ih => exact ih.plain hb.1 hb.2.1 hb.2.2
  | @short b x bytes body hb _ ih =>
    have hletter : b ≠ 0x75 := by
      rintro rfl
      cases hb
    have hread : ∀ n, ∃ n', readEscape ⟨[b] ++ (body ++ 0x22 :: rest), n⟩ =
        .ok ([x], ⟨body ++ 0x22 :: rest, n'⟩) := fun n =>
      ⟨n + 1, by simp only [readEscape, List.cons_append, List.nil_append, if_neg hletter, hb]⟩
    exact TextReads.escape (by simp) hread ih
  | @codePoint ch digits bytes body hc _ ih =>
    have hbounds := toNat_bounds ch
    have hread : ∀ n, ∃ n', readEscape ⟨(0x75 :: digits) ++ (body ++ 0x22 :: rest), n⟩ =
        .ok (encodeChar ch, ⟨body ++ 0x22 :: rest, n'⟩) := by
      intro n
      have hpair : ¬ (0xDC00 ≤ ch.toNat && ch.toNat ≤ 0xDFFF) = true := by
        simp
        omega
      have hsingle : (decide (ch.toNat < 0xD800) || decide (0xDBFF < ch.toNat)) = true := by
        simp
        omega
      refine ⟨n + 1 + 4, ?_⟩
      simp only [readEscape, List.cons_append, if_true, readUnicodeEscape, hc.reads, bind,
        Except.bind, if_neg hpair, if_pos hsingle, Char.ofNat_toNat]
    have hescape := TextReads.escape (by simp) hread ih
    simpa using hescape
  | @pair ch high low bytes body m n hhigh hlow hm hn hc _ ih =>
    have hread : ∀ k, ∃ k', readEscape
        ⟨(0x75 :: (high ++ 0x5C :: 0x75 :: low)) ++ (body ++ 0x22 :: rest), k⟩ =
          .ok (encodeChar ch, ⟨body ++ 0x22 :: rest, k'⟩) := by
      intro k
      have hfirst : ¬ (0xDC00 ≤ m && m ≤ 0xDFFF) = true := by
        simp
        omega
      have hsingle : ¬ (decide (m < 0xD800) || decide (0xDBFF < m)) = true := by
        simp
        omega
      have hsecond : ¬ (decide (n < 0xDC00) || decide (0xDFFF < n)) = true := by
        simp
        omega
      refine ⟨k + 1 + 4 + 1 + 1 + 4, ?_⟩
      simp only [readEscape, List.cons_append, List.append_assoc, if_true, readUnicodeEscape,
        hhigh.reads, hlow.reads, bind, Except.bind, if_neg hfirst, if_neg hsingle, readPairByte,
        if_neg hsecond, ← hc, Char.ofNat_toNat]
    have hescape := TextReads.escape (by simp) hread ih
    simpa using hescape

/-- A text is read as what it spells, up to its closing quote. -/
theorem Spells.reads {s : String} {body : List UInt8} (h : Spells (encode s) body)
    (rest : List UInt8) (n : Nat) :
    ∃ n', readTextBody ⟨body ++ 0x22 :: rest, n⟩ = .ok (s, ⟨rest, n'⟩) := by
  obtain ⟨n', hread⟩ := h.textReads rest _ n (Nat.lt_succ_self _)
  refine ⟨n', ?_⟩
  simp only [readTextBody, hread, bind, Except.bind, decode_encode]

end CoachClient.Json
