/-
CoachClient.Proofs.Url.Domain — a host does not end in a blank or a control.

* `mem_percentDecode`, `mem_of_decodeFrom` — a blank in a text is a byte of it
  and a character again: nothing that is decoded takes it in.
* `mem_composed` — no letter unites with it.
* `mem_writeLabel` — a label keeps it, in Punycode too.
* `domainToAscii_of_mem` — so it comes through to the ASCII form, where it is
  forbidden.
* `Host.parse_of_edge` — and what ends in it is no host of a special URL.

Blank means up to U+0020 here, which is what a URL loses at its ends. The tables
of folding and composition come in at two places only: neither has anything to
say about such a character.
-/
import CoachClient.Proofs.Text.Utf8
import CoachClient.Url.Host

namespace CoachClient.Url

open CoachClient.Text

/-- A blank or a control: what does not count at the ends of a URL. -/
def IsEdge (c : Char) : Prop := c.toNat ≤ 0x20

instance : DecidablePred IsEdge := fun c => inferInstanceAs (Decidable (c.toNat ≤ 0x20))

theorem IsEdge.ne {c d : Char} (h : IsEdge c) (hd : 0x20 < d.toNat) : c ≠ d := by
  rintro rfl
  exact absurd h (by unfold IsEdge; omega)

/-! ## 1. Decoding -/

theorem IsEdge.hexDigitValue {c : Char} (h : IsEdge c) : hexDigitValue c = none := by
  have hlow : ∀ d : Char, 0x20 < d.toNat → ¬ d ≤ c := fun d hd hle => by
    have hle' : d.toNat ≤ c.toNat := hle
    unfold IsEdge at h
    omega
  simp [Url.hexDigitValue, hlow '0' (by decide), hlow 'a' (by decide), hlow 'A' (by decide)]

theorem IsEdge.encodeChar {c : Char} (h : IsEdge c) :
    Utf8.encodeChar c = [UInt8.ofNat c.toNat] :=
  Utf8.encodeChar_of_ascii (by unfold IsEdge at h; omega)

/-- A blank is never a digit of an encoded byte, so it stays. -/
theorem mem_percentDecode {c : Char} (hc : IsEdge c) {cs : List Char} (h : c ∈ cs) :
    UInt8.ofNat c.toNat ∈ percentDecode cs := by
  have hpercent : c ≠ '%' := hc.ne (by decide)
  have hdigit : ∀ d x, Url.hexDigitValue d = some x → c ≠ d := by
    rintro d x hd rfl
    rw [hc.hexDigitValue] at hd
    cases hd
  fun_induction percentDecode cs with
  | case1 => exact absurd h List.not_mem_nil
  | case2 a b rest x y hb ha ih =>
    simp only [List.mem_cons, hpercent, hdigit a _ ha, hdigit b _ hb, false_or] at h
    exact List.mem_cons_of_mem _ (ih h)
  | case3 a b rest hno ih =>
    rcases List.mem_cons.mp h with h | h
    · exact absurd h hpercent
    · exact List.mem_cons_of_mem _ (ih h)
  | case4 d rest hd ih =>
    rcases List.mem_cons.mp h with rfl | h
    · rw [hc.encodeChar]
      exact List.mem_append_left _ (List.mem_singleton.mpr rfl)
    · exact List.mem_append_right _ (ih h)

/-- Bytes up to 0x7F are not among those of longer sequences. -/
theorem mem_of_high {b x : UInt8} {bytes : List UInt8} (hb : b < 0x80) (hx : 0x80 ≤ x)
    (h : b ∈ x :: bytes) : b ∈ bytes := by
  rcases List.mem_cons.mp h with rfl | h
  · exact absurd hx (by simpa using hb)
  · exact h

theorem high_of_isContinuation {x : UInt8} (h : Utf8.isContinuation x = true) : 0x80 ≤ x := by
  simp only [Utf8.isContinuation, Bool.and_eq_true, decide_eq_true_eq] at h
  exact h.1

theorem high_of_opensTwo {a x : UInt8} (h : Utf8.opensTwo a x = true) : 0x80 ≤ x := by
  simp only [Utf8.opensTwo, Bool.and_eq_true] at h
  exact high_of_isContinuation h.2

theorem high_of_opensThree {a x : UInt8} (h : Utf8.opensThree a x = true) : 0x80 ≤ x := by
  simp only [Utf8.opensThree, Utf8.isContinuation, UInt8.le_iff_toNat_le, Bool.or_eq_true,
    Bool.and_eq_true, decide_eq_true_eq, UInt8.reduceToNat] at h ⊢
  omega

theorem high_of_opensFour {a x : UInt8} (h : Utf8.opensFour a x = true) : 0x80 ≤ x := by
  simp only [Utf8.opensFour, Utf8.isContinuation, UInt8.le_iff_toNat_le, Bool.or_eq_true,
    Bool.and_eq_true, decide_eq_true_eq, UInt8.reduceToNat] at h ⊢
  omega

theorem decoded_cons {x : Except Nat (List Char)} {c : Char} {cs : List Char}
    (h : (do let rest ← x; Except.ok (c :: rest)) = Except.ok cs) :
    ∃ rest, x = .ok rest ∧ cs = c :: rest := by
  cases x with
  | error n => cases h
  | ok rest => exact ⟨rest, rfl, (Except.ok.inj h).symm⟩

/-- A byte of ASCII is a character of the text that is read. -/
theorem mem_of_decodeFrom {b : UInt8} (hb : b < 0x80) {offset : Nat} {bytes : List UInt8}
    {cs : List Char} (h : Utf8.decodeFrom offset bytes = .ok cs) (hmem : b ∈ bytes) :
    Char.ofNat b.toNat ∈ cs := by
  fun_induction Utf8.decodeFrom offset bytes generalizing cs with
  | case1 => exact absurd hmem List.not_mem_nil
  | case2 offset a rest ha ih =>
    obtain ⟨more, hmore, rfl⟩ := decoded_cons h
    rcases List.mem_cons.mp hmem with rfl | hmem
    · exact List.mem_cons_self
    · exact List.mem_cons_of_mem _ (ih hmore hmem)
  | case4 offset a ha x rest hopens ih =>
    obtain ⟨more, hmore, rfl⟩ := decoded_cons h
    exact List.mem_cons_of_mem _ (ih hmore
      (mem_of_high hb (high_of_opensTwo hopens) (mem_of_high hb (by simpa using ha) hmem)))
  | case6 offset a ha x htwo y rest hopens ih =>
    obtain ⟨more, hmore, rfl⟩ := decoded_cons h
    simp only [Bool.and_eq_true] at hopens
    exact List.mem_cons_of_mem _ (ih hmore (mem_of_high hb (high_of_isContinuation hopens.2)
      (mem_of_high hb (high_of_opensThree hopens.1) (mem_of_high hb (by simpa using ha) hmem))))
  | case8 offset a ha x htwo y hthree z rest hopens ih =>
    obtain ⟨more, hmore, rfl⟩ := decoded_cons h
    simp only [Bool.and_eq_true] at hopens
    exact List.mem_cons_of_mem _ (ih hmore (mem_of_high hb (high_of_isContinuation hopens.2)
      (mem_of_high hb (high_of_isContinuation hopens.1.2)
        (mem_of_high hb (high_of_opensFour hopens.1.1)
          (mem_of_high hb (by simpa using ha) hmem)))))
  | _ => cases h

/-- A blank in a text that is decoded. -/
theorem mem_of_decode {c : Char} (hc : IsEdge c) {bytes : List UInt8} {s : String}
    (h : Utf8.decode bytes = some s) (hmem : UInt8.ofNat c.toNat ∈ bytes) : c ∈ s.toList := by
  have hlow : c.toNat < 0x80 := by unfold IsEdge at hc; omega
  unfold Utf8.decode at h
  split at h
  · rename_i cs hcs
    have hmem' := mem_of_decodeFrom ((Utf8.ascii_ofNat (by omega)).mpr hlow) hcs hmem
    rw [Utf8.toNat_ofNat (by omega), Char.ofNat_toNat] at hmem'
    rw [← Option.some.inj h]
    simpa using hmem'
  · cases h

/-! ## 2. Folding and composition -/

theorem foldLetter_of_edge {c : Char} (hc : IsEdge c) : foldLetter c = some [c] := by
  have hlow : c.toNat < 0x80 := by unfold IsEdge at hc; omega
  have hsmall : c.toLower = c := by
    have hcapital : ¬ (65 ≤ c.val ∧ c.val ≤ 90) := fun h => by
      have hle : (65 : UInt32).toNat ≤ c.val.toNat := UInt32.le_iff_toNat_le.mp h.1
      have hval : c.toNat = c.val.toNat := rfl
      unfold IsEdge at hc
      simp only [UInt32.reduceToNat] at hle
      omega
    exact dif_neg hcapital
  simp [foldLetter, hlow, hsmall]

theorem mem_folded {c : Char} (hc : IsEdge c) {cs : List Char} {folded : List (List Char)}
    (h : cs.mapM foldLetter = some folded) (hmem : c ∈ cs) : c ∈ folded.flatten := by
  induction cs generalizing folded with
  | nil => exact absurd hmem List.not_mem_nil
  | cons d cs ih =>
    simp only [List.mapM_cons, Option.bind_eq_bind, Option.bind_eq_some_iff, Option.pure_def,
      Option.some.injEq] at h
    obtain ⟨word, hword, words, hwords, rfl⟩ := h
    rw [List.flatten_cons]
    rcases List.mem_cons.mp hmem with rfl | hmem
    · rw [foldLetter_of_edge hc] at hword
      rw [← Option.some.inj hword]
      exact List.mem_append_left _ (List.mem_singleton.mpr rfl)
    · exact List.mem_append_right _ (ih hwords hmem)

theorem spread_of_edge {c : Char} (hc : IsEdge c) (marks : Nat) : spread marks c = [c] := by
  have hsplit : split? c = none := by
    unfold IsEdge at hc
    simp [split?, show c.toNat < 0xC0 by omega]
  cases marks with
  | zero => rfl
  | succ marks => simp [spread, hsplit]

/-- No pair of the table begins with a blank. -/
theorem letterPairs_first : ∀ p ∈ letterPairs, 0x20 < p.2.1 := by decide +kernel

theorem unite_of_edge {c : Char} (hc : IsEdge c) (d : Char) : unite c d = none := by
  unfold IsEdge at hc
  have htable : letterPairs.find? (fun p => p.2.1 == c.toNat && p.2.2 == d.toNat) = none := by
    rw [List.find?_eq_none]
    intro p hp
    have := letterPairs_first p hp
    have hne : p.2.1 ≠ c.toNat := by omega
    simp [hne]
  have hhangul : uniteHangul c.toNat d.toNat = none := by
    simp [uniteHangul, placeIn, leading, syllable?, firstSyllable, show ¬ 0x1100 ≤ c.toNat by omega,
      show ¬ 0xAC00 ≤ c.toNat by omega]
  unfold unite
  split
  · rfl
  · simp [htable, hhangul]

theorem unite_edge {c : Char} (hc : IsEdge c) (letter : Char) : unite letter c = none := by
  unfold IsEdge at hc
  simp [unite, show c.toNat < 0x300 by omega]

theorem mem_place {c d : Char} {cs : List Char} : c ∈ place d cs ↔ c = d ∨ c ∈ cs := by
  induction cs with
  | nil => simp [place]
  | cons x cs ih =>
    unfold place
    split
    · simp [ih, or_left_comm]
    · simp

theorem mem_arrange {c : Char} {cs : List Char} : c ∈ arrange cs ↔ c ∈ cs := by
  induction cs with
  | nil => simp [arrange]
  | cons d cs ih =>
    have hstep : arrange (d :: cs) = place d (arrange cs) := rfl
    rw [hstep, mem_place, ih, List.mem_cons]

/-- A blank is gathered as it is: as the letter no mark unites with it, and it
unites with no letter. -/
theorem mem_gather {c : Char} (hc : IsEdge c) {letter : Char} {marks cs : List Char}
    (h : c = letter ∨ c ∈ marks ∨ c ∈ cs) : c ∈ gather letter marks cs := by
  induction cs generalizing letter marks with
  | nil => simpa [gather] using h
  | cons d cs ih =>
    unfold gather
    split
    · rename_i united hunited
      have hletter : c ≠ letter := by
        rintro rfl
        split at hunited
        · rw [unite_of_edge hc] at hunited
          cases hunited
        · cases hunited
      have hd : c ≠ d := by
        rintro rfl
        split at hunited
        · rw [unite_edge hc] at hunited
          cases hunited
        · cases hunited
      simp only [hletter, List.mem_cons, hd, false_or] at h
      exact ih (Or.inr h)
    · split
      · simp only [List.mem_cons, List.mem_append, List.mem_reverse] at h ⊢
        rcases h with h | h | rfl | h
        · exact Or.inl h
        · exact Or.inr (Or.inl h)
        · exact Or.inr (Or.inr (ih (Or.inl rfl)))
        · exact Or.inr (Or.inr (ih (Or.inr (Or.inr h))))
      · simp only [List.mem_cons] at h
        rcases h with h | h | h | h
        · exact ih (Or.inl h)
        · exact ih (Or.inr (Or.inl (List.mem_cons_of_mem _ h)))
        · exact ih (Or.inr (Or.inl (List.mem_cons.mpr (Or.inl h))))
        · exact ih (Or.inr (Or.inr h))

theorem mem_recompose {c : Char} (hc : IsEdge c) {cs : List Char} (h : c ∈ cs) :
    c ∈ recompose cs := by
  induction cs with
  | nil => exact absurd h List.not_mem_nil
  | cons d cs ih =>
    unfold recompose
    split
    · rcases List.mem_cons.mp h with h | h
      · exact mem_gather hc (Or.inl h)
      · exact mem_gather hc (Or.inr (Or.inr h))
    · rcases List.mem_cons.mp h with h | h
      · exact List.mem_cons.mpr (Or.inl h)
      · exact List.mem_cons_of_mem _ (ih h)

/-- The composed spelling has every blank of the text. -/
theorem mem_composed {c : Char} (hc : IsEdge c) {cs : List Char} (h : c ∈ cs) :
    c ∈ composed cs := by
  refine mem_recompose hc (mem_arrange.mpr (List.mem_flatMap.mpr ⟨c, h, ?_⟩))
  rw [spread_of_edge hc]
  exact List.mem_singleton.mpr rfl

/-! ## 3. Labels -/

theorem mem_splitPoints {c : Char} {cs : List Char} (hc : c ≠ '.') (h : c ∈ cs) :
    ∃ label ∈ splitPoints cs, c ∈ label := by
  induction cs with
  | nil => exact absurd h List.not_mem_nil
  | cons d cs ih =>
    unfold splitPoints
    split
    · rename_i hd
      rcases List.mem_cons.mp h with rfl | h
      · exact absurd hd hc
      · obtain ⟨label, hlabel, hmem⟩ := ih h
        exact ⟨label, List.mem_cons_of_mem _ hlabel, hmem⟩
    · split
      · rename_i hnone
        rcases List.mem_cons.mp h with rfl | h
        · exact ⟨[c], List.mem_singleton.mpr rfl, List.mem_singleton.mpr rfl⟩
        · obtain ⟨label, hlabel, -⟩ := ih h
          rw [hnone] at hlabel
          exact absurd hlabel List.not_mem_nil
      · rename_i first labels hsome
        rcases List.mem_cons.mp h with rfl | h
        · exact ⟨c :: first, List.mem_cons_self, List.mem_cons_self⟩
        · obtain ⟨label, hlabel, hmem⟩ := ih h
          rw [hsome] at hlabel
          rcases List.mem_cons.mp hlabel with rfl | hlabel
          · exact ⟨d :: label, List.mem_cons_self, List.mem_cons_of_mem _ hmem⟩
          · exact ⟨label, List.mem_cons_of_mem _ hlabel, hmem⟩

theorem mem_joinPoints {c : Char} {label : List Char} {labels : List (List Char)}
    (hlabel : label ∈ labels) (h : c ∈ label) : c ∈ joinPoints labels := by
  fun_induction joinPoints labels with
  | case1 => exact absurd hlabel List.not_mem_nil
  | case2 only => rwa [← List.mem_singleton.mp hlabel]
  | case3 first labels hne ih =>
    rcases List.mem_cons.mp hlabel with rfl | hlabel
    · exact List.mem_append_left _ h
    · exact List.mem_append_right _ (List.mem_cons_of_mem _ (ih hlabel))

theorem mem_encode {c : Char} (hc : IsEdge c) {label : List Char} (h : c ∈ label) :
    c ∈ Punycode.encode label := by
  have hbasic : c ∈ label.filter fun d => d.toNat < 0x80 :=
    List.mem_filter.mpr ⟨h, by unfold IsEdge at hc; simp; omega⟩
  have hne : (label.filter fun d => d.toNat < 0x80).isEmpty = false := by
    rw [List.isEmpty_eq_false_iff]
    exact List.ne_nil_of_mem hbasic
  simp only [Punycode.encode, hne, Bool.false_eq_true, if_false]
  exact List.mem_append_left _ (List.mem_append_left _ hbasic)

/-- A label that is read from Punycode is the one spelling of what it stands
for. -/
theorem encode_of_readLabel {label plain : List Char} (hcoded : codedPrefix.isPrefixOf label = true)
    (h : readLabel label = some plain) :
    isAscii plain = false ∧ Punycode.encode plain = label.drop codedPrefix.length := by
  rw [readLabel, if_pos hcoded] at h
  dsimp only at h
  split at h
  · obtain ⟨decoded, -, h⟩ := Option.bind_eq_some_iff.mp h
    split at h
    · rename_i hchecks
      obtain rfl := Option.some.inj h
      simp only [Bool.and_eq_true, Bool.not_eq_true', beq_iff_eq] at hchecks
      exact ⟨hchecks.1.1.1, hchecks.2⟩
    · cases h
  · cases h

/-- A label in ASCII has every blank of the label that it is made of. -/
theorem mem_writeLabel {c : Char} (hc : IsEdge c) {label plain : List Char}
    (hread : readLabel label = some plain) (h : c ∈ label) : c ∈ writeLabel plain := by
  by_cases hcoded : codedPrefix.isPrefixOf label = true
  · obtain ⟨hascii, hencode⟩ := encode_of_readLabel hcoded hread
    have hwhole : writeLabel plain = label := by
      rw [writeLabel, hascii, hencode]
      exact List.prefix_iff_eq_append.mp ( List.isPrefixOf_iff_prefix.mp hcoded)
    rwa [hwhole]
  · rw [readLabel, if_neg hcoded] at hread
    split at hread
    · obtain rfl := Option.some.inj hread
      unfold writeLabel
      split
      · exact h
      · exact List.mem_append_right _ (mem_encode hc h)
    · cases hread

/-! ## 4. Domains and hosts -/

theorem isForbidden_of_edge {c : Char} (hc : IsEdge c) : isForbidden c = true := by
  simp [isForbidden, show c.toNat ≤ 0x20 from hc]

/-- The labels that are read are those of the text, one for one. -/
theorem mem_of_mapM_readLabel {c : Char} (hc : IsEdge c) {label : List Char}
    {labels plains : List (List Char)} (h : labels.mapM readLabel = some plains)
    (hlabel : label ∈ labels) (hmem : c ∈ label) : ∃ plain ∈ plains, c ∈ writeLabel plain := by
  induction labels generalizing plains with
  | nil => exact absurd hlabel List.not_mem_nil
  | cons first labels ih =>
    simp only [List.mapM_cons, Option.bind_eq_bind, Option.bind_eq_some_iff, Option.pure_def,
      Option.some.injEq] at h
    obtain ⟨plain, hplain, rest, hrest, rfl⟩ := h
    rcases List.mem_cons.mp hlabel with rfl | hlabel
    · exact ⟨plain, List.mem_cons_self, mem_writeLabel hc hplain hmem⟩
    · obtain ⟨later, hlater, hc'⟩ := ih hrest hlabel
      exact ⟨later, List.mem_cons_of_mem _ hlater, hc'⟩

/-- A text with a blank in it is no domain. -/
theorem domainToAscii_of_mem {c : Char} (hc : IsEdge c) {cs : List Char} (h : c ∈ cs) :
    domainToAscii cs = none := by
  unfold domainToAscii
  cases hfolded : cs.mapM foldLetter with
  | none => rfl
  | some folded =>
    simp only [Option.bind_eq_bind, Option.bind_some]
    cases hplains : (splitPoints (composed folded.flatten)).mapM readLabel with
    | none => rfl
    | some plains =>
      obtain ⟨label, hlabel, hmem⟩ :=
        mem_splitPoints (hc.ne (by decide)) (mem_composed hc (mem_folded hc hfolded h))
      obtain ⟨plain, hplain, hwritten⟩ := mem_of_mapM_readLabel hc hplains hlabel hmem
      have hforbidden : (joinPoints (plains.map writeLabel)).any isForbidden = true :=
        List.any_eq_true.mpr ⟨c, mem_joinPoints (List.mem_map_of_mem hplain) hwritten,
          isForbidden_of_edge hc⟩
      exact if_pos (by rw [hforbidden, Bool.true_or])

/-- A text that ends in a blank is no host of a special URL. -/
theorem Host.parse_of_edge {c : Char} (hc : IsEdge c) (cs : List Char) :
    ∃ fault, Host.parse (cs ++ [c]) = .error fault := by
  unfold Host.parse
  split
  · rename_i rest hrest
    have hlast : rest.getLast? ≠ some ']' := by
      intro h
      have hwhole : (cs ++ [c]).getLast? = some ']' := by
        rw [hrest, List.getLast?_cons, h]
        rfl
      rw [List.getLast?_concat] at hwhole
      exact hc.ne (by decide) (Option.some.inj hwhole)
    exact ⟨.invalidAddress6, by simp [hlast]⟩
  · have hbyte := mem_percentDecode hc (List.mem_append_right cs (List.mem_singleton.mpr rfl))
    split
    · exact ⟨_, rfl⟩
    · rename_i decoded hdecoded
      rw [domainToAscii_of_mem hc (mem_of_decode hc hdecoded hbyte)]
      exact ⟨_, rfl⟩

end CoachClient.Url
