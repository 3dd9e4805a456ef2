/-
CoachClient.Proofs.Text.Utf8 — the UTF-8 form of a text reads back as the text, and no
other bytes do.

* `encodeAll` — the bytes of a list of characters, piece by piece.
* `decodeFrom_encodeChar` — what is read off the bytes of one character is that
  character, whatever follows.
* `decode_encode` — a text reads back.
* `encode_of_decode` — what is read as a text is its UTF-8 form, so there is no second way
  to write one.
* `encodeChar_of_ascii`, `high_of_mem_encodeChar` — a character is its own byte
  below U+0080, and above all its bytes are above 0x7F.
-/
import CoachClient.Text.Utf8

namespace CoachClient.Text.Utf8

/-! ## 1. Bytes of characters -/

/-- The bytes of a list of characters. -/
def encodeAll (cs : List Char) : List UInt8 := cs.flatMap encodeChar

@[simp] theorem encodeAll_nil : encodeAll [] = [] := rfl

@[simp] theorem encodeAll_cons (c : Char) (cs : List Char) :
    encodeAll (c :: cs) = encodeChar c ++ encodeAll cs := rfl

@[simp] theorem encodeAll_append (as bs : List Char) :
    encodeAll (as ++ bs) = encodeAll as ++ encodeAll bs := by
  simp [encodeAll]

theorem encode_ofList (cs : List Char) : encode (String.ofList cs) = encodeAll cs := by
  simp [encode, encodeAll]

theorem encode_eq (s : String) : encode s = encodeAll s.toList := rfl

theorem toNat_ofNat {n : Nat} (h : n < 256) : (UInt8.ofNat n).toNat = n :=
  UInt8.toNat_ofNat_of_lt' h

/-- The scalar values of characters. -/
theorem toNat_bounds (c : Char) : c.toNat < 0xD800 ∨ (0xDFFF < c.toNat ∧ c.toNat < 0x110000) :=
  c.valid

theorem encodeChar_of_ascii {c : Char} (h : c.toNat < 0x80) :
    encodeChar c = [UInt8.ofNat c.toNat] := by
  have hle : c.val.toNat ≤ 0x7f := by
    have : c.toNat = c.val.toNat := rfl
    omega
  simp only [encodeChar, String.utf8EncodeChar, hle, if_true]
  rfl

theorem encodeChar_two {c : Char} (h : 0x80 ≤ c.toNat) (h' : c.toNat < 0x800) :
    encodeChar c = [UInt8.ofNat (c.toNat / 64 % 32 + 0xC0), UInt8.ofNat (c.toNat % 64 + 0x80)] := by
  have hval : c.toNat = c.val.toNat := rfl
  simp only [encodeChar, String.utf8EncodeChar, show ¬ c.val.toNat ≤ 0x7f by omega,
    show c.val.toNat ≤ 0x7ff by omega, if_true, if_false]
  rfl

theorem encodeChar_three {c : Char} (h : 0x800 ≤ c.toNat) (h' : c.toNat < 0x10000) :
    encodeChar c = [UInt8.ofNat (c.toNat / 4096 % 16 + 0xE0),
      UInt8.ofNat (c.toNat / 64 % 64 + 0x80), UInt8.ofNat (c.toNat % 64 + 0x80)] := by
  have hval : c.toNat = c.val.toNat := rfl
  simp only [encodeChar, String.utf8EncodeChar, show ¬ c.val.toNat ≤ 0x7f by omega,
    show ¬ c.val.toNat ≤ 0x7ff by omega, show c.val.toNat ≤ 0xffff by omega, if_true, if_false]
  rfl

theorem encodeChar_four {c : Char} (h : 0x10000 ≤ c.toNat) :
    encodeChar c = [UInt8.ofNat (c.toNat / 262144 % 8 + 0xF0),
      UInt8.ofNat (c.toNat / 4096 % 64 + 0x80), UInt8.ofNat (c.toNat / 64 % 64 + 0x80),
      UInt8.ofNat (c.toNat % 64 + 0x80)] := by
  have hval : c.toNat = c.val.toNat := rfl
  simp only [encodeChar, String.utf8EncodeChar, show ¬ c.val.toNat ≤ 0x7f by omega,
    show ¬ c.val.toNat ≤ 0x7ff by omega, show ¬ c.val.toNat ≤ 0xffff by omega, if_false]
  rfl

/-- Above U+007F no byte of a character is one of ASCII. -/
theorem high_of_mem_encodeChar {c : Char} (h : 0x80 ≤ c.toNat) {b : UInt8}
    (hb : b ∈ encodeChar c) : 0x80 ≤ b := by
  have hbounds := toNat_bounds c
  have hhigh : ∀ n, 0x80 ≤ n → n < 256 → (0x80 : UInt8) ≤ UInt8.ofNat n := fun n hn hn' => by
    rw [UInt8.le_iff_toNat_le, toNat_ofNat hn']
    exact hn
  by_cases htwo : c.toNat < 0x800
  · simp only [encodeChar_two h htwo, List.mem_cons, List.not_mem_nil, or_false] at hb
    rcases hb with rfl | rfl <;> exact hhigh _ (by omega) (by omega)
  by_cases hthree : c.toNat < 0x10000
  · simp only [encodeChar_three (show 0x800 ≤ c.toNat by omega) hthree, List.mem_cons,
      List.not_mem_nil, or_false] at hb
    rcases hb with rfl | rfl | rfl <;> exact hhigh _ (by omega) (by omega)
  · simp only [encodeChar_four (show 0x10000 ≤ c.toNat by omega), List.mem_cons,
      List.not_mem_nil, or_false] at hb
    rcases hb with rfl | rfl | rfl | rfl <;> exact hhigh _ (by omega) (by omega)

/-! ## 2. Bytes of sequences -/

theorem beq_eq (a b : UInt8) : (a == b) = decide (a.toNat = b.toNat) := by
  rw [Bool.eq_iff_iff]
  simp [UInt8.toNat_inj]

theorem ascii_ofNat {n : Nat} (h : n < 256) : UInt8.ofNat n < 0x80 ↔ n < 0x80 := by
  rw [UInt8.lt_iff_toNat_lt, toNat_ofNat h]
  rfl

theorem payload_ofNat {n : Nat} (h : n < 64) : payload (UInt8.ofNat (n + 0x80)) = n := by
  rw [payload, toNat_ofNat (by omega)]
  omega

theorem isContinuation_ofNat {n : Nat} (h : n < 64) :
    isContinuation (UInt8.ofNat (n + 0x80)) = true := by
  simp only [isContinuation, UInt8.le_iff_toNat_le, toNat_ofNat (show n + 0x80 < 256 by omega)]
  simp
  omega

theorem opensTwo_ofNat {m n : Nat} (hm : m < 32) (hn : n < 64) (hlong : 2 ≤ m) :
    opensTwo (UInt8.ofNat (m + 0xC0)) (UInt8.ofNat (n + 0x80)) = true := by
  simp only [opensTwo, isContinuation_ofNat hn, UInt8.le_iff_toNat_le,
    toNat_ofNat (show m + 0xC0 < 256 by omega)]
  simp
  omega

theorem not_opensTwo {n : Nat} (h : 0xE0 ≤ n) (h' : n < 256) (b : UInt8) :
    opensTwo (UInt8.ofNat n) b = false := by
  simp only [opensTwo, UInt8.le_iff_toNat_le, toNat_ofNat h']
  simp
  omega

theorem opensThree_ofNat {m n : Nat} (hm : m < 16) (hn : n < 64) (hlong : m = 0 → 32 ≤ n)
    (hsurrogate : m = 13 → n < 32) :
    opensThree (UInt8.ofNat (m + 0xE0)) (UInt8.ofNat (n + 0x80)) = true := by
  simp only [opensThree, isContinuation_ofNat hn, UInt8.le_iff_toNat_le, beq_eq,
    toNat_ofNat (show m + 0xE0 < 256 by omega), toNat_ofNat (show n + 0x80 < 256 by omega)]
  simp
  omega

theorem not_opensThree {n : Nat} (h : 0xF0 ≤ n) (h' : n < 256) (b : UInt8) :
    opensThree (UInt8.ofNat n) b = false := by
  simp only [opensThree, UInt8.le_iff_toNat_le, beq_eq, toNat_ofNat h']
  simp
  omega

theorem opensFour_ofNat {m n : Nat} (hm : m < 5) (hn : n < 64) (hlong : m = 0 → 16 ≤ n)
    (hlast : m = 4 → n < 16) :
    opensFour (UInt8.ofNat (m + 0xF0)) (UInt8.ofNat (n + 0x80)) = true := by
  simp only [opensFour, isContinuation_ofNat hn, UInt8.le_iff_toNat_le, beq_eq,
    toNat_ofNat (show m + 0xF0 < 256 by omega), toNat_ofNat (show n + 0x80 < 256 by omega)]
  simp
  omega

/-! ## 3. Reading back -/

theorem decodeFrom_one {n : Nat} (h : n < 0x80) (rest : List UInt8) (offset : Nat) :
    decodeFrom offset (UInt8.ofNat n :: rest) =
      (decodeFrom (offset + 1) rest).map (Char.ofNat n :: ·) := by
  rw [decodeFrom.eq_def]
  simp only [if_pos ((ascii_ofNat (show n < 256 by omega)).mpr h),
    toNat_ofNat (show n < 256 by omega)]
  cases decodeFrom (offset + 1) rest <;> rfl

theorem decodeFrom_two {m n : Nat} (hm : m < 32) (hn : n < 64) (hlong : 2 ≤ m)
    (rest : List UInt8) (offset : Nat) :
    decodeFrom offset (UInt8.ofNat (m + 0xC0) :: UInt8.ofNat (n + 0x80) :: rest) =
      (decodeFrom (offset + 2) rest).map (Char.ofNat (m * 64 + n) :: ·) := by
  have hascii : ¬ UInt8.ofNat (m + 0xC0) < 0x80 := by
    rw [ascii_ofNat (by omega)]
    omega
  have hlead : (m + 0xC0) % 32 = m := by omega
  rw [decodeFrom.eq_def]
  simp only [if_neg hascii, opensTwo_ofNat hm hn hlong, if_true,
    toNat_ofNat (show m + 0xC0 < 256 by omega), payload_ofNat hn, hlead]
  cases decodeFrom (offset + 2) rest <;> rfl

theorem decodeFrom_three {k m n : Nat} (hk : k < 16) (hm : m < 64) (hn : n < 64)
    (hlong : k = 0 → 32 ≤ m) (hsurrogate : k = 13 → m < 32) (rest : List UInt8) (offset : Nat) :
    decodeFrom offset
        (UInt8.ofNat (k + 0xE0) :: UInt8.ofNat (m + 0x80) :: UInt8.ofNat (n + 0x80) :: rest) =
      (decodeFrom (offset + 3) rest).map (Char.ofNat ((k * 64 + m) * 64 + n) :: ·) := by
  have hascii : ¬ UInt8.ofNat (k + 0xE0) < 0x80 := by
    rw [ascii_ofNat (by omega)]
    omega
  have hlead : (k + 0xE0) % 16 = k := by omega
  rw [decodeFrom.eq_def]
  simp only [if_neg hascii, not_opensTwo (show 0xE0 ≤ k + 0xE0 by omega)
    (show k + 0xE0 < 256 by omega), opensThree_ofNat hk hm hlong hsurrogate,
    isContinuation_ofNat hn, Bool.and_self, Bool.false_eq_true, if_true, if_false,
    toNat_ofNat (show k + 0xE0 < 256 by omega), payload_ofNat hm, payload_ofNat hn, hlead]
  cases decodeFrom (offset + 3) rest <;> rfl

theorem decodeFrom_four {j k m n : Nat} (hj : j < 5) (hk : k < 64) (hm : m < 64) (hn : n < 64)
    (hlong : j = 0 → 16 ≤ k) (hlast : j = 4 → k < 16) (rest : List UInt8) (offset : Nat) :
    decodeFrom offset (UInt8.ofNat (j + 0xF0) :: UInt8.ofNat (k + 0x80) ::
        UInt8.ofNat (m + 0x80) :: UInt8.ofNat (n + 0x80) :: rest) =
      (decodeFrom (offset + 4) rest).map (Char.ofNat (((j * 64 + k) * 64 + m) * 64 + n) :: ·) := by
  have hascii : ¬ UInt8.ofNat (j + 0xF0) < 0x80 := by
    rw [ascii_ofNat (by omega)]
    omega
  have hlead : (j + 0xF0) % 8 = j := by omega
  rw [decodeFrom.eq_def]
  simp only [if_neg hascii, not_opensTwo (show 0xE0 ≤ j + 0xF0 by omega)
    (show j + 0xF0 < 256 by omega), not_opensThree (show 0xF0 ≤ j + 0xF0 by omega)
    (show j + 0xF0 < 256 by omega), opensFour_ofNat hj hk hlong hlast,
    isContinuation_ofNat hm, isContinuation_ofNat hn, Bool.and_self, Bool.false_and,
    Bool.false_eq_true, if_true, if_false, toNat_ofNat (show j + 0xF0 < 256 by omega),
    payload_ofNat hk, payload_ofNat hm, payload_ofNat hn, hlead]
  cases decodeFrom (offset + 4) rest <;> rfl

/-- What is read off the bytes of a character, whatever follows it. -/
theorem decodeFrom_encodeChar (c : Char) (rest : List UInt8) (offset : Nat) :
    decodeFrom offset (encodeChar c ++ rest) =
      (decodeFrom (offset + (encodeChar c).length) rest).map (c :: ·) := by
  -- a scalar value is neither a surrogate nor too large: its second byte is in range
  have hbounds := toNat_bounds c
  have hchar : ∀ n, n = c.toNat → Char.ofNat n = c := fun n hn => by rw [hn, Char.ofNat_toNat]
  by_cases hone : c.toNat < 0x80
  · rw [encodeChar_of_ascii hone]
    refine (decodeFrom_one hone rest offset).trans ?_
    rw [hchar _ rfl]
    rfl
  by_cases htwo : c.toNat < 0x800
  · rw [encodeChar_two (by omega) htwo]
    refine (decodeFrom_two (by omega) (by omega) (by omega) rest offset).trans ?_
    rw [hchar _ (by omega)]
    rfl
  by_cases hthree : c.toNat < 0x10000
  · rw [encodeChar_three (by omega) hthree]
    refine (decodeFrom_three (by omega) (by omega) (by omega) (by omega) (by omega) rest
      offset).trans ?_
    rw [hchar _ (by omega)]
    rfl
  · rw [encodeChar_four (by omega)]
    refine (decodeFrom_four (by omega) (by omega) (by omega) (by omega) (by omega) (by omega) rest
      offset).trans ?_
    rw [hchar _ (by omega)]
    rfl

theorem decodeFrom_encodeAll (cs : List Char) (offset : Nat) :
    decodeFrom offset (encodeAll cs) = .ok cs := by
  induction cs generalizing offset with
  | nil => rfl
  | cons c cs ih =>
    rw [encodeAll_cons, decodeFrom_encodeChar, ih]
    rfl

/-- A text reads back. -/
theorem decode_encode (s : String) : decode (encode s) = some s := by
  rw [decode, encode_eq, decodeFrom_encodeAll]
  simp

/-! ## 4. No other bytes -/

theorem toNat_charOfNat {n : Nat} (h : n < 0xD800 ∨ (0xDFFF < n ∧ n < 0x110000)) :
    (Char.ofNat n).toNat = n := by
  rw [Char.ofNat, dif_pos (show n.isValidChar from h)]
  rfl

theorem eq_ofNat {b : UInt8} {n : Nat} (h : n = b.toNat) : UInt8.ofNat n = b := by
  rw [h, UInt8.ofNat_toNat]

theorem isContinuation_bounds {b : UInt8} (h : isContinuation b = true) :
    0x80 ≤ b.toNat ∧ b.toNat ≤ 0xBF := by
  simpa [isContinuation, UInt8.le_iff_toNat_le] using h

/-- A sequence of two bytes is the form of the character that is read off it. -/
theorem encodeChar_of_two {a b : UInt8} (h : opensTwo a b = true) :
    encodeChar (Char.ofNat (a.toNat % 32 * 64 + payload b)) = [a, b] := by
  simp only [opensTwo, Bool.and_eq_true, decide_eq_true_eq, UInt8.le_iff_toNat_le] at h
  obtain ⟨⟨hlow, hhigh⟩, hb⟩ := h
  obtain ⟨hb', hb''⟩ := isContinuation_bounds hb
  have hlow' : 0xC2 ≤ a.toNat := hlow
  have hhigh' : a.toNat ≤ 0xDF := hhigh
  have hpayload : payload b = b.toNat - 0x80 := by
    unfold payload
    omega
  have hvalue := toNat_charOfNat (n := a.toNat % 32 * 64 + payload b) (by omega)
  rw [encodeChar_two (by omega) (by omega), hvalue, eq_ofNat (b := a) (by omega),
    eq_ofNat (b := b) (by omega)]

/-- A sequence of three bytes is neither overlong nor a surrogate. -/
theorem encodeChar_of_three {a b c : UInt8} (h : opensThree a b = true)
    (hc : isContinuation c = true) :
    encodeChar (Char.ofNat ((a.toNat % 16 * 64 + payload b) * 64 + payload c)) = [a, b, c] := by
  have hbounds : (0xE0 ≤ a.toNat ∧ a.toNat ≤ 0xEF) ∧ (0x80 ≤ b.toNat ∧ b.toNat ≤ 0xBF) ∧
      (a.toNat = 0xE0 → 0xA0 ≤ b.toNat) ∧ (a.toNat = 0xED → b.toNat ≤ 0x9F) := by
    simp only [opensThree, isContinuation, beq_eq, Bool.or_eq_true, Bool.and_eq_true,
      decide_eq_true_eq, UInt8.le_iff_toNat_le] at h
    simp at h
    omega
  obtain ⟨⟨ha, ha'⟩, ⟨hb, hb'⟩, hlong, hsurrogate⟩ := hbounds
  obtain ⟨hc', hc''⟩ := isContinuation_bounds hc
  have hpayload : payload b = b.toNat - 0x80 ∧ payload c = c.toNat - 0x80 := by
    unfold payload
    omega
  have hvalue := toNat_charOfNat (n := (a.toNat % 16 * 64 + payload b) * 64 + payload c) (by omega)
  rw [encodeChar_three (by omega) (by omega), hvalue, eq_ofNat (b := a) (by omega),
    eq_ofNat (b := b) (by omega), eq_ofNat (b := c) (by omega)]

/-- A sequence of four bytes is neither overlong nor above the last code point. -/
theorem encodeChar_of_four {a b c d : UInt8} (h : opensFour a b = true)
    (hc : isContinuation c = true) (hd : isContinuation d = true) :
    encodeChar (Char.ofNat (((a.toNat % 8 * 64 + payload b) * 64 + payload c) * 64 + payload d)) =
      [a, b, c, d] := by
  have hbounds : (0xF0 ≤ a.toNat ∧ a.toNat ≤ 0xF4) ∧ (0x80 ≤ b.toNat ∧ b.toNat ≤ 0xBF) ∧
      (a.toNat = 0xF0 → 0x90 ≤ b.toNat) ∧ (a.toNat = 0xF4 → b.toNat ≤ 0x8F) := by
    simp only [opensFour, isContinuation, beq_eq, Bool.or_eq_true, Bool.and_eq_true,
      decide_eq_true_eq, UInt8.le_iff_toNat_le] at h
    simp at h
    omega
  obtain ⟨⟨ha, ha'⟩, ⟨hb, hb'⟩, hlong, hlast⟩ := hbounds
  obtain ⟨hc', hc''⟩ := isContinuation_bounds hc
  obtain ⟨hd', hd''⟩ := isContinuation_bounds hd
  have hpayload : payload b = b.toNat - 0x80 ∧ payload c = c.toNat - 0x80 ∧
      payload d = d.toNat - 0x80 := by
    unfold payload
    omega
  have hvalue := toNat_charOfNat
    (n := ((a.toNat % 8 * 64 + payload b) * 64 + payload c) * 64 + payload d) (by omega)
  rw [encodeChar_four (by omega), hvalue, eq_ofNat (b := a) (by omega),
    eq_ofNat (b := b) (by omega), eq_ofNat (b := c) (by omega), eq_ofNat (b := d) (by omega)]

theorem map_cons_ok {x : Except Nat (List Char)} {ch : Char} {cs : List Char}
    (h : (x >>= fun more => .ok (ch :: more)) = Except.ok cs) :
    ∃ more, x = .ok more ∧ cs = ch :: more := by
  cases x with
  | error => cases h
  | ok more => exact ⟨more, rfl, (Except.ok.inj h).symm⟩

/-- What is read as a text is the form of that text. -/
theorem encodeAll_of_decodeFrom {offset : Nat} {bytes : List UInt8} {cs : List Char}
    (h : decodeFrom offset bytes = .ok cs) : encodeAll cs = bytes := by
  fun_induction decodeFrom offset bytes generalizing cs with
  | case1 =>
    obtain rfl := Except.ok.inj h
    rfl
  | case2 offset a ra hascii ih =>
    obtain ⟨more, hmore, rfl⟩ := map_cons_ok h
    have hlow : a.toNat < 0x80 := UInt8.lt_iff_toNat_lt.mp hascii
    have hvalue := toNat_charOfNat (n := a.toNat) (by omega)
    rw [encodeAll_cons, ih hmore, encodeChar_of_ascii (by omega), hvalue, UInt8.ofNat_toNat]
    rfl
  | case3 => cases h
  | case4 offset a _ b rb htwo ih =>
    obtain ⟨more, hmore, rfl⟩ := map_cons_ok h
    rw [encodeAll_cons, ih hmore, encodeChar_of_two htwo]
    rfl
  | case5 => cases h
  | case6 offset a _ b _ c rc hthree ih =>
    obtain ⟨more, hmore, rfl⟩ := map_cons_ok h
    obtain ⟨hopens, hc⟩ := Bool.and_eq_true_iff.mp hthree
    rw [encodeAll_cons, ih hmore, encodeChar_of_three hopens hc]
    rfl
  | case7 => cases h
  | case8 offset a _ b _ c _ d rd hfour ih =>
    obtain ⟨more, hmore, rfl⟩ := map_cons_ok h
    obtain ⟨hopens, hd⟩ := Bool.and_eq_true_iff.mp hfour
    obtain ⟨hopens, hc⟩ := Bool.and_eq_true_iff.mp hopens
    rw [encodeAll_cons, ih hmore, encodeChar_of_four hopens hc hd]
    rfl
  | case9 => cases h

/-- A text is read from no other bytes than its own. -/
theorem encode_of_decode {bytes : List UInt8} {s : String} (h : decode bytes = some s) :
    encode s = bytes := by
  unfold decode at h
  split at h
  · rename_i cs hread
    obtain rfl := Option.some.inj h
    rw [encode_ofList, encodeAll_of_decodeFrom hread]
  · cases h

end CoachClient.Text.Utf8
