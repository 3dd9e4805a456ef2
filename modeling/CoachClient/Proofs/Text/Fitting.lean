/-
CoachClient.Proofs.Text.Fitting — where a text is cut so that it does not outgrow its limit.

* `length_encodeAll` — the size of a text is the number of its bytes.
* `exists_fitting` — what fits is a beginning of the text, and the next character does not
  fit any more; `begins_fitting`, `lt_size_fitting` — so nothing longer fits, and at most
  three bytes of the limit are left.
* `isBoundary`, `boundaryBelow` — the same place found in the bytes: from the limit
  downward, the first one at which a character begins.
* `isBoundary_iff` — the places where characters begin are the sizes of beginnings.
* `boundaryBelow_encodeAll` — the search does not go past the first byte, and it ends where
  what fits ends.

The two descriptions of the place have nothing in common: one goes over the characters from
the left, the other over the bytes from the limit to the left.
-/
import CoachClient.Proofs.Text.Utf8

namespace CoachClient.Text.Utf8

/-! ## 1. Sizes -/

@[simp] theorem size_nil : size [] = 0 := rfl

@[simp] theorem size_cons (c : Char) (cs : List Char) : size (c :: cs) = charSize c + size cs := rfl

@[simp] theorem size_append (as bs : List Char) : size (as ++ bs) = size as + size bs := by
  induction as with
  | nil => simp
  | cons c as ih => rw [List.cons_append, size_cons, ih, size_cons, Nat.add_assoc]

theorem charSize_pos (c : Char) : 0 < charSize c := c.utf8Size_pos

theorem charSize_le_four (c : Char) : charSize c ≤ 4 := c.utf8Size_le_four

@[simp] theorem length_encodeChar (c : Char) : (encodeChar c).length = charSize c :=
  String.length_utf8EncodeChar c

/-- The size of a text is the number of its bytes. -/
@[simp] theorem length_encodeAll (cs : List Char) : (encodeAll cs).length = size cs := by
  induction cs with
  | nil => rfl
  | cons c cs ih => rw [encodeAll_cons, List.length_append, length_encodeChar, ih, size_cons]

/-- No character has more than four of them. -/
theorem size_le (cs : List Char) : size cs ≤ 4 * cs.length := by
  induction cs with
  | nil => exact Nat.zero_le _
  | cons c cs ih =>
    have hc := charSize_le_four c
    rw [size_cons, List.length_cons]
    omega

theorem size_replicate (n : Nat) (c : Char) : size (List.replicate n c) = n * charSize c := by
  induction n with
  | zero => rw [List.replicate_zero, size_nil, Nat.zero_mul]
  | succ n ih => rw [List.replicate_succ, size_cons, ih, Nat.succ_mul, Nat.add_comm]

/-! ## 2. What fits -/

/-- What fits is a beginning, and the next character does not fit any more. -/
theorem exists_fitting (limit : Nat) (cs : List Char) :
    ∃ back, cs = fitting limit cs ++ back ∧ size (fitting limit cs) ≤ limit ∧
      ∀ c ∈ back.head?, limit < size (fitting limit cs) + charSize c := by
  induction cs generalizing limit with
  | nil => exact ⟨[], rfl, Nat.zero_le limit, by simp⟩
  | cons c cs ih =>
    by_cases hfits : charSize c ≤ limit
    · obtain ⟨back, hsplit, hsize, hnext⟩ := ih (limit - charSize c)
      rw [fitting, if_pos hfits]
      refine ⟨back, by rw [List.cons_append, ← hsplit], ?_, fun d hd => ?_⟩
      · rw [size_cons]
        omega
      · have hd' := hnext d hd
        rw [size_cons]
        omega
    · rw [fitting, if_neg hfits]
      refine ⟨c :: cs, rfl, Nat.zero_le limit, fun d hd => ?_⟩
      obtain rfl := Option.some.inj hd
      simpa using hfits

theorem fitting_begins (limit : Nat) (cs : List Char) : fitting limit cs <+: cs := by
  obtain ⟨back, hsplit, -, -⟩ := exists_fitting limit cs
  exact ⟨back, hsplit.symm⟩

theorem size_fitting_le (limit : Nat) (cs : List Char) : size (fitting limit cs) ≤ limit := by
  obtain ⟨back, -, hsize, -⟩ := exists_fitting limit cs
  exact hsize

/-- No longer beginning fits. -/
theorem begins_fitting {limit : Nat} {cs front : List Char} (h : front <+: cs)
    (hsize : size front ≤ limit) : front <+: fitting limit cs := by
  obtain ⟨back, hsplit, -, hnext⟩ := exists_fitting limit cs
  rcases List.prefix_or_prefix_of_prefix h (fitting_begins limit cs) with hshort | ⟨more, hlong⟩
  · exact hshort
  · cases more with
    | nil =>
      rw [List.append_nil] at hlong
      exact hlong ▸ List.prefix_rfl
    | cons c more =>
      -- the character that it goes on with would have to fit
      obtain ⟨rest, hrest⟩ := h
      rw [← hlong, List.append_assoc, List.cons_append] at hrest
      have hback : back = c :: (more ++ rest) :=
        List.append_cancel_left (hsplit.symm.trans hrest.symm)
      have hc := hnext c (by rw [hback]; rfl)
      rw [← hlong, size_append, size_cons] at hsize
      omega

/-- Of a text that is cut at most three bytes less than the limit are kept. -/
theorem lt_size_fitting {limit : Nat} {cs : List Char} (h : limit < size cs) :
    limit < size (fitting limit cs) + 4 := by
  obtain ⟨back, hsplit, hsize, hnext⟩ := exists_fitting limit cs
  cases back with
  | nil =>
    rw [List.append_nil] at hsplit
    rw [← hsplit] at hsize
    omega
  | cons c back =>
    have hc := hnext c rfl
    have hfour := charSize_le_four c
    omega

/-! ## 3. Boundaries -/

/-- A place in the bytes of a text where a character begins, or their end. -/
def isBoundary (bytes : List UInt8) (n : Nat) : Bool :=
  match bytes[n]? with
  | some b => !isContinuation b
  | none => n == bytes.length

/-- The last such place up to a limit, looked for from the limit downward, as long as there
are bytes to look at. -/
def boundaryBelow (bytes : List UInt8) : Nat → Option Nat
  | 0 => if isBoundary bytes 0 then some 0 else none
  | n + 1 => if isBoundary bytes (n + 1) then some (n + 1) else boundaryBelow bytes n

/-- A character begins with a byte that continues nothing, and the others continue it. -/
theorem encodeChar_cons (c : Char) :
    ∃ b bs, encodeChar c = b :: bs ∧ isContinuation b = false ∧
      ∀ b' ∈ bs, isContinuation b' = true := by
  have hbounds := toNat_bounds c
  have hopens : ∀ {n : Nat}, n < 256 → n < 0x80 ∨ 0xC0 ≤ n →
      isContinuation (UInt8.ofNat n) = false := by
    intro n hn hout
    simp only [isContinuation, UInt8.le_iff_toNat_le, toNat_ofNat hn]
    simp
    omega
  by_cases hone : c.toNat < 0x80
  · exact ⟨_, [], encodeChar_of_ascii hone, hopens (by omega) (Or.inl hone), by simp⟩
  by_cases htwo : c.toNat < 0x800
  · refine ⟨_, _, encodeChar_two (by omega) htwo, hopens (by omega) (Or.inr (by omega)), ?_⟩
    simp only [List.mem_singleton, forall_eq]
    exact isContinuation_ofNat (Nat.mod_lt _ (by decide))
  by_cases hthree : c.toNat < 0x10000
  · refine ⟨_, _, encodeChar_three (by omega) hthree, hopens (by omega) (Or.inr (by omega)), ?_⟩
    simp only [List.mem_cons, List.not_mem_nil, or_false, forall_eq_or_imp, forall_eq]
    exact ⟨isContinuation_ofNat (Nat.mod_lt _ (by decide)),
      isContinuation_ofNat (Nat.mod_lt _ (by decide))⟩
  · refine ⟨_, _, encodeChar_four (by omega), hopens (by omega) (Or.inr (by omega)), ?_⟩
    simp only [List.mem_cons, List.not_mem_nil, or_false, forall_eq_or_imp, forall_eq]
    exact ⟨isContinuation_ofNat (Nat.mod_lt _ (by decide)),
      isContinuation_ofNat (Nat.mod_lt _ (by decide)),
      isContinuation_ofNat (Nat.mod_lt _ (by decide))⟩

/-- Inside its bytes no other character begins. -/
theorem isBoundary_inside {c : Char} {n : Nat} (cs : List Char) (hn : n < charSize c) :
    isBoundary (encodeAll (c :: cs)) n = true ↔ n = 0 := by
  obtain ⟨b, bs, hchar, hb, hbs⟩ := encodeChar_cons c
  have hlength : bs.length + 1 = charSize c := by
    rw [← length_encodeChar, hchar, List.length_cons]
  rw [encodeAll_cons, hchar, List.cons_append, isBoundary]
  cases n with
  | zero => simp [hb]
  | succ n =>
    have hn' : n < bs.length := by omega
    have hbyte : (bs ++ encodeAll cs)[n]? = some bs[n] := by
      rw [List.getElem?_append_left hn', List.getElem?_eq_getElem hn']
    simp only [List.getElem?_cons_succ, hbyte, hbs _ (List.getElem_mem hn')]
    simp

/-- Behind them it is as if the text began there. -/
theorem isBoundary_behind (c : Char) (cs : List Char) (n : Nat) :
    isBoundary (encodeAll (c :: cs)) (charSize c + n) = isBoundary (encodeAll cs) n := by
  have hbyte : (encodeChar c ++ encodeAll cs)[charSize c + n]? = (encodeAll cs)[n]? := by
    rw [← length_encodeChar, List.getElem?_append_right (Nat.le_add_right _ _),
      Nat.add_sub_cancel_left]
  rw [encodeAll_cons, isBoundary, isBoundary, hbyte]
  cases (encodeAll cs)[n]? with
  | some _ => rfl
  | none =>
    rw [List.length_append, length_encodeChar, Bool.eq_iff_iff, beq_iff_eq, beq_iff_eq,
      Nat.add_left_cancel_iff]

/-- Characters begin at the sizes of the beginnings of a text, and nowhere else. -/
theorem isBoundary_iff {cs : List Char} {n : Nat} :
    isBoundary (encodeAll cs) n = true ↔ ∃ front, front <+: cs ∧ size front = n := by
  induction cs generalizing n with
  | nil =>
    have hnil : isBoundary (encodeAll []) n = (n == 0) := rfl
    simp only [hnil, beq_iff_eq, List.prefix_nil, exists_eq_left, size_nil]
    exact eq_comm
  | cons c cs ih =>
    have hfronts : (∃ front, front <+: c :: cs ∧ size front = n) ↔
        n = 0 ∨ ∃ front, front <+: cs ∧ charSize c + size front = n := by
      simp only [List.prefix_cons_iff, or_and_right, exists_or, exists_eq_left, size_nil]
      refine or_congr eq_comm ⟨?_, ?_⟩
      · rintro ⟨-, ⟨front, rfl, hfront⟩, hsize⟩
        exact ⟨front, hfront, hsize⟩
      · rintro ⟨front, hfront, hsize⟩
        exact ⟨c :: front, ⟨front, rfl, hfront⟩, hsize⟩
    rw [hfronts]
    rcases Nat.lt_or_ge n (charSize c) with hinside | hbehind
    · rw [isBoundary_inside cs hinside, or_iff_left]
      rintro ⟨front, -, hsize⟩
      omega
    · obtain ⟨m, rfl⟩ := Nat.exists_eq_add_of_le hbehind
      have hpos := charSize_pos c
      rw [isBoundary_behind, ih, or_iff_right (show ¬ charSize c + m = 0 by omega)]
      simp only [Nat.add_left_cancel_iff]

/-- The search ends at the last boundary up to the limit. -/
theorem boundaryBelow_eq_some {bytes : List UInt8} {limit n : Nat} (hle : n ≤ limit)
    (hn : isBoundary bytes n = true)
    (hlast : ∀ m, isBoundary bytes m = true → m ≤ limit → m ≤ n) :
    boundaryBelow bytes limit = some n := by
  induction limit with
  | zero =>
    obtain rfl := Nat.le_zero.mp hle
    rw [boundaryBelow, if_pos hn]
  | succ limit ih =>
    by_cases hhere : isBoundary bytes (limit + 1) = true
    · obtain rfl : n = limit + 1 := Nat.le_antisymm hle (hlast _ hhere (Nat.le_refl _))
      rw [boundaryBelow, if_pos hn]
    · have hne : n ≠ limit + 1 := fun heq => hhere (heq ▸ hn)
      rw [boundaryBelow, if_neg hhere]
      exact ih (by omega) fun m hm hle' => hlast m hm (by omega)

/-- In the bytes of a text the search comes to an end, and that is where what fits ends. -/
theorem boundaryBelow_encodeAll (limit : Nat) (cs : List Char) :
    boundaryBelow (encodeAll cs) limit = some (size (fitting limit cs)) := by
  refine boundaryBelow_eq_some (size_fitting_le limit cs) ?_ fun m hm hle => ?_
  · exact isBoundary_iff.mpr ⟨_, fitting_begins limit cs, rfl⟩
  · obtain ⟨front, hfront, rfl⟩ := isBoundary_iff.mp hm
    obtain ⟨more, hmore⟩ := begins_fitting hfront hle
    rw [← hmore, size_append]
    exact Nat.le_add_right _ _

end CoachClient.Text.Utf8
