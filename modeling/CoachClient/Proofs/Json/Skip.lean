/-
CoachClient.Proofs.Json.Skip — a value is passed over exactly to its end.

* `Closes` — what the frames that are still open demand of the text: the rest of each, from
  the innermost to the outermost.
* `Opens` — the same where the next entry begins, and that is where closing stops.
* `skipWithin_ok`, `skipWithin_value` — a value is passed over, and with it all that the open
  frames demand.
* `skipValue_ok`, `IsValue.skips` — what is passed over is a value, and every value is passed
  over, at any depth.
* `IsValue.unique` — so a text begins with a value in one way only.

The loop keeps its open frames as data and not as calls. One relation between the frames and
the text, preserved by each round, carries both directions: from a run that succeeds it gives
the value, and from the value the run.
-/
import CoachClient.Proofs.Json.Numerals
import CoachClient.Proofs.Json.Spelling
import CoachClient.Proofs.Json.Values

namespace CoachClient.Json

/-! ## 1. Blanks -/

theorem Cursor.skipBlanks_split (c : Cursor) :
    ∃ gap rest n, IsBlanks gap ∧ c.rest = gap ++ rest ∧ (∀ b ∈ rest.head?, isBlankByte b = false) ∧
      c.skipBlanks = ⟨rest, n⟩ := by
  obtain ⟨gap, rest, hc, hgap, hrest, hskip⟩ := passWhile_split isBlankByte c.rest c.offset
  exact ⟨gap, rest, _, hgap, hc, hrest, hskip⟩

theorem IsBlanks.skip {gap : List UInt8} (hgap : IsBlanks gap) {b : UInt8}
    (hb : isBlankByte b = false) (r : List UInt8) (n : Nat) :
    (⟨gap ++ b :: r, n⟩ : Cursor).skipBlanks = ⟨b :: r, n + gap.length⟩ := by
  rw [Cursor.skipBlanks, passWhile_append hgap]
  exact Cursor.skipBlanks_of_not hb r _

theorem IsBlanks.append {gap gap' : List UInt8} (h : IsBlanks gap) (h' : IsBlanks gap') :
    IsBlanks (gap ++ gap') := List.forall_mem_append.mpr ⟨h, h'⟩

theorem isBlanks_nil : IsBlanks [] := fun _ hb => nomatch hb

/-- An entry is found behind blanks. -/
theorem IsBlanks.skip_entry {gap entry : List UInt8} (hgap : IsBlanks gap)
    (hentry : ∃ b r, entry = b :: r ∧ BeginsEntry b) (text : List UInt8) (n : Nat) :
    (⟨gap ++ (entry ++ text), n⟩ : Cursor).skipBlanks = ⟨entry ++ text, n + gap.length⟩ := by
  obtain ⟨b, r, rfl, hb⟩ := hentry
  exact hgap.skip hb.1 (r ++ text) n

/-! ## 2. Frames -/

/-- The byte that opens the frame. -/
def Frame.opening : Frame → UInt8
  | .list => 0x5B
  | .object => 0x7B

/-- The entries of the frame. -/
def Frame.Item : Frame → List UInt8 → Prop
  | .list => IsValue
  | .object => IsMember

theorem Frame.closing_cases (frame : Frame) : frame.closing = 0x5D ∨ frame.closing = 0x7D := by
  cases frame with
  | list => exact Or.inl rfl
  | object => exact Or.inr rfl

theorem Frame.closing_plain (frame : Frame) :
    isBlankByte frame.closing = false ∧ frame.closing ≠ 0x2C := by
  cases frame <;> decide

theorem Frame.Item.starts {frame : Frame} {entry : List UInt8} (h : frame.Item entry) :
    ∃ b r, entry = b :: r ∧ BeginsEntry b := by
  cases frame with
  | list => exact IsValue.starts h
  | object =>
    obtain ⟨-, -, gap, gap', -, -, rfl⟩ : IsMember entry := h
    exact ⟨_, _, rfl, by decide, by decide, by decide, by decide⟩

theorem Frame.isValue {frame : Frame} {entries : List (List UInt8)} {inside : List UInt8}
    (hitems : ∀ e ∈ entries, frame.Item e) (h : Listed frame.closing true entries inside) :
    IsValue (frame.opening :: inside) := by
  cases frame with
  | list => exact .list hitems h
  | object => exact .object hitems h

/-- The text up to `rest` closes the open frames, the innermost first. Only the innermost may
still be without an entry. -/
inductive Closes : (first : Bool) → List Frame → (text rest : List UInt8) → Prop
  | nil {first : Bool} {rest : List UInt8} : Closes first [] rest rest
  | cons {first : Bool} {frame : Frame} {outer : List Frame} {entries : List (List UInt8)}
      {left text rest : List UInt8} (hitems : ∀ e ∈ entries, frame.Item e)
      (hleft : Listed frame.closing first entries left) (h : Closes false outer text rest) :
      Closes first (frame :: outer) (left ++ text) rest

/-- The next entry of the innermost frame begins here; without a frame nothing does. -/
inductive Opens : List Frame → (text rest : List UInt8) → Prop
  | done {rest : List UInt8} : Opens [] rest rest
  | entry {frame : Frame} {outer : List Frame} {gap entry text rest : List UInt8}
      (hgap : IsBlanks gap) (hitem : frame.Item entry)
      (h : Closes false (frame :: outer) text rest) :
      Opens (frame :: outer) (gap ++ (entry ++ text)) rest

theorem Closes.endsNumber {frames : List Frame} {text rest : List UInt8}
    (h : Closes false frames text rest) (hrest : EndsNumber rest) : EndsNumber text := by
  cases h with
  | nil => exact hrest
  | cons _ hleft _ => exact hleft.endsNumber (Frame.closing_cases _) _

/-- Closing stops where the next entry begins. -/
theorem Closes.skipClosings {first : Bool} {frames : List Frame} {text rest : List UInt8}
    (h : Closes first frames text rest) {fuel : Nat} (hfuel : frames.length < fuel) (n : Nat) :
    ∃ open' c, Json.skipClosings fuel (!first) frames ⟨text, n⟩ = .ok (open', c) ∧
      Opens open' c.rest rest ∧ c.rest.length ≤ text.length := by
  induction h generalizing fuel n with
  | nil =>
    obtain ⟨fuel, rfl⟩ : ∃ k, fuel = k + 1 := ⟨fuel - 1, by simp at hfuel; omega⟩
    exact ⟨[], _, rfl, .done, Nat.le_refl _⟩
  | @cons first frame outer entries left text rest hitems hleft hclose ih =>
    simp only [List.length_cons] at hfuel
    obtain ⟨fuel, rfl⟩ : ∃ k, fuel = k + 1 := ⟨fuel - 1, by omega⟩
    obtain ⟨hblank, hcomma⟩ := frame.closing_plain
    cases hleft with
    | @closed _ gap hgap =>
      obtain ⟨open', c, hskip, hopens, hlength⟩ :=
        ih (show outer.length < fuel by omega) (n + gap.length + 1)
      refine ⟨open', c, ?_, hopens, ?_⟩
      · have hstart : gap ++ [frame.closing] ++ text = gap ++ frame.closing :: text := by simp
        simp only [Json.skipClosings, hstart, hgap.skip hblank, hcomma, decide_false,
          Bool.false_and, Bool.false_eq_true, if_false, if_true]
        exact hskip
      · rw [List.length_append, List.length_append]
        omega
    | @entry _ lead entry left entries hlead hleft =>
      obtain ⟨hentry, hitems⟩ := List.forall_mem_cons.mp hitems
      have hnext : Closes false (frame :: outer) (left ++ text) rest := .cons hitems hleft hclose
      cases hlead with
      | first hgap =>
        obtain ⟨b, r, hstart, hb, hother, hlist, hobject⟩ := hentry.starts
        have hclosing : b ≠ frame.closing := by
          rcases frame.closing_cases with h | h
          · exact h ▸ hlist
          · exact h ▸ hobject
        have hopens : Opens (frame :: outer) ([] ++ (entry ++ (left ++ text))) rest :=
          .entry isBlanks_nil hentry hnext
        refine ⟨frame :: outer, ⟨entry ++ (left ++ text), n + lead.length⟩, ?_, hopens, ?_⟩
        · have htext : lead ++ (entry ++ left) ++ text = lead ++ b :: (r ++ (left ++ text)) := by
            rw [hstart]
            simp
          have hentry' : entry ++ (left ++ text) = b :: (r ++ (left ++ text)) := by
            rw [hstart]
            simp
          simp only [Json.skipClosings, htext, hentry', hgap.skip hb, Bool.not_true, Bool.and_false,
            Bool.false_eq_true, if_false, if_neg hclosing]
        · simp only [List.length_append]
          omega
      | @next gap gap' hgap hgap' =>
        refine ⟨frame :: outer, ⟨gap' ++ (entry ++ (left ++ text)), n + gap.length + 1⟩, ?_,
          .entry hgap' hentry hnext, ?_⟩
        · have htext : gap ++ 0x2C :: gap' ++ (entry ++ left) ++ text =
              gap ++ 0x2C :: (gap' ++ (entry ++ (left ++ text))) := by
            simp
          simp only [Json.skipClosings, htext, hgap.skip (show isBlankByte 0x2C = false by decide),
            Bool.not_false, decide_true, Bool.and_self, if_true]
        · simp only [List.length_append, List.length_cons]
          omega

/-- Where closing stops and the next entry begins, the frames were there to be closed. -/
theorem closes_of_skipClosings {fuel : Nat} {afterItem : Bool} {frames open' : List Frame}
    {c c' : Cursor} {rest : List UInt8}
    (h : skipClosings fuel afterItem frames c = .ok (open', c'))
    (hopens : Opens open' c'.rest rest) :
    Closes (!afterItem) frames c.rest rest := by
  induction fuel generalizing afterItem frames c with
  | zero => cases h
  | succ fuel ih =>
    cases frames with
    | nil =>
      obtain ⟨rfl, rfl⟩ := Prod.mk.inj (Except.ok.inj h)
      cases hopens
      exact .nil
    | cons frame outer =>
      obtain ⟨gap, rest', n, hgap, hc, hrest', hskip⟩ := c.skipBlanks_split
      rw [hc]
      cases rest' with
      | nil =>
        simp only [skipClosings, hskip] at h
        cases h
      | cons b r =>
        simp only [skipClosings, hskip] at h
        split at h
        · -- a comma, and the next entry
          rename_i hcomma
          obtain ⟨hb, hafter⟩ := Bool.and_eq_true_iff.mp hcomma
          obtain rfl := of_decide_eq_true hb
          subst hafter
          obtain ⟨rfl, rfl⟩ := Prod.mk.inj (Except.ok.inj h)
          have hopens : Opens (frame :: outer) r rest := hopens
          cases hopens with
          | @entry _ _ gap' entry _ _ hgap' hitem hclose =>
            cases hclose with
            | @cons _ _ _ entries left text _ hitems hleft hclose =>
              have hlisted : Listed frame.closing false (entry :: entries)
                  (gap ++ 0x2C :: gap' ++ (entry ++ left)) := .entry (.next hgap hgap') hleft
              have hcloses := Closes.cons (List.forall_mem_cons.mpr ⟨hitem, hitems⟩) hlisted hclose
              simpa using hcloses
        split at h
        · -- the frame is closed
          rename_i hb
          subst hb
          have hlisted : Listed frame.closing (!afterItem) [] (gap ++ [frame.closing]) :=
            .closed hgap
          have hcloses := Closes.cons (by simp) hlisted (ih h)
          simpa using hcloses
        split at h
        · cases h
        · -- the first entry
          rename_i hafter
          obtain rfl : afterItem = false := by simpa using hafter
          obtain ⟨rfl, rfl⟩ := Prod.mk.inj (Except.ok.inj h)
          have hopens : Opens (frame :: outer) (b :: r) rest := hopens
          generalize b :: r = input at hopens
          cases hopens with
          | @entry _ _ gap' entry _ _ hgap' hitem hclose =>
            cases hclose with
            | @cons _ _ _ entries left text _ hitems hleft hclose =>
              have hlisted : Listed frame.closing true (entry :: entries)
                  (gap ++ gap' ++ (entry ++ left)) := .entry (.first (hgap.append hgap')) hleft
              have hcloses := Closes.cons (List.forall_mem_cons.mpr ⟨hitem, hitems⟩) hlisted hclose
              simpa using hcloses

/-! ## 3. Values -/

theorem readWord_ok {word : List UInt8} {c c' : Cursor} (h : readWord word c = .ok c') :
    c.rest = word ++ c'.rest := by
  induction word generalizing c with
  | nil =>
    obtain rfl := Except.ok.inj h
    rfl
  | cons w word ih =>
    obtain ⟨rest, n⟩ := c
    cases rest with
    | nil => cases h
    | cons b r =>
      simp only [readWord] at h
      split at h
      · rename_i hb
        have hr : r = word ++ c'.rest := ih h
        rw [hb, hr]
        rfl
      · cases h

/-- A value begins with a whole token or opens a frame. -/
theorem skipOpening_ok {c c' : Cursor} {opened : Option Frame}
    (h : skipOpening c = .ok (opened, c')) :
    match opened with
    | none => ∃ v, IsValue v ∧ c.rest = v ++ c'.rest
    | some frame => c.rest = frame.opening :: c'.rest := by
  unfold skipOpening at h
  split at h
  · cases h
  rename_i b r hrest
  dsimp only at h
  split at h
  · rename_i hb
    obtain ⟨c₁, hread, heq⟩ := map_eq_ok.mp h
    obtain ⟨rfl, rfl⟩ := Prod.mk.inj heq
    have hr : r = [0x75, 0x6C, 0x6C] ++ c₁.rest := readWord_ok hread
    exact ⟨_, .null, by rw [hrest, hb, hr]; rfl⟩
  split at h
  · rename_i hb
    obtain ⟨c₁, hread, heq⟩ := map_eq_ok.mp h
    obtain ⟨rfl, rfl⟩ := Prod.mk.inj heq
    have hr : r = [0x72, 0x75, 0x65] ++ c₁.rest := readWord_ok hread
    exact ⟨_, .yes, by rw [hrest, hb, hr]; rfl⟩
  split at h
  · rename_i hb
    obtain ⟨c₁, hread, heq⟩ := map_eq_ok.mp h
    obtain ⟨rfl, rfl⟩ := Prod.mk.inj heq
    have hr : r = [0x61, 0x6C, 0x73, 0x65] ++ c₁.rest := readWord_ok hread
    exact ⟨_, .no, by rw [hrest, hb, hr]; rfl⟩
  split at h
  · rename_i hb
    obtain ⟨c₁, hskip, heq⟩ := map_eq_ok.mp h
    obtain ⟨rfl, rfl⟩ := Prod.mk.inj heq
    obtain ⟨m, hm, hr⟩ := isMagnitude_of_skipNumber hskip
    have hr : r = m ++ c₁.rest := hr
    exact ⟨0x2D :: m, .negative hm, by rw [hrest, hb, hr]; rfl⟩
  split at h
  · obtain ⟨c₁, hskip, heq⟩ := map_eq_ok.mp h
    obtain ⟨rfl, rfl⟩ := Prod.mk.inj heq
    obtain ⟨m, hm, hr⟩ := isMagnitude_of_skipNumber hskip
    exact ⟨m, .number hm, hr⟩
  split at h
  · rename_i hb
    obtain ⟨c₁, hskip, heq⟩ := map_eq_ok.mp h
    obtain ⟨rfl, rfl⟩ := Prod.mk.inj heq
    obtain ⟨body, hbody, hr⟩ := isTextBody_of_skipText hskip
    have hr : r = body ++ 0x22 :: c₁.rest := hr
    exact ⟨0x22 :: (body ++ [0x22]), .text hbody, by rw [hrest, hb, hr]; simp⟩
  split at h
  · rename_i hb
    obtain ⟨rfl, rfl⟩ := Prod.mk.inj (Except.ok.inj h)
    rw [hrest, hb]
    rfl
  split at h
  · rename_i hb
    obtain ⟨rfl, rfl⟩ := Prod.mk.inj (Except.ok.inj h)
    rw [hrest, hb]
    rfl
  · cases h

/-- How a value begins: as a whole token, or by opening a frame. -/
theorem IsValue.skipOpening {v : List UInt8} (h : IsValue v) {text : List UInt8}
    (htext : EndsNumber text) (n : Nat) :
    (∃ n', Json.skipOpening ⟨v ++ text, n⟩ = .ok (none, ⟨text, n'⟩)) ∨
      ∃ frame entries inside, v = frame.opening :: inside ∧ (∀ e ∈ entries, frame.Item e) ∧
        Listed frame.closing true entries inside ∧
        Json.skipOpening ⟨v ++ text, n⟩ = .ok (some frame, ⟨inside ++ text, n + 1⟩) := by
  cases h with
  | null =>
    obtain ⟨n', hword⟩ := readWord_self [0x75, 0x6C, 0x6C] text (n + 1)
    refine Or.inl ⟨n', ?_⟩
    simp only [List.cons_append, List.nil_append] at hword ⊢
    simp only [Json.skipOpening, if_true, hword, Except.map]
  | yes =>
    obtain ⟨n', hword⟩ := readWord_self [0x72, 0x75, 0x65] text (n + 1)
    have hnull : (0x74 : UInt8) ≠ 0x6E := by decide
    refine Or.inl ⟨n', ?_⟩
    simp only [List.cons_append, List.nil_append] at hword ⊢
    simp only [Json.skipOpening, if_neg hnull, if_true, hword, Except.map]
  | no =>
    obtain ⟨n', hword⟩ := readWord_self [0x61, 0x6C, 0x73, 0x65] text (n + 1)
    have hnull : (0x66 : UInt8) ≠ 0x6E := by decide
    have htrue : (0x66 : UInt8) ≠ 0x74 := by decide
    refine Or.inl ⟨n', ?_⟩
    simp only [List.cons_append, List.nil_append] at hword ⊢
    simp only [Json.skipOpening, if_neg hnull, if_neg htrue, if_true, hword, Except.map]
  | number hm =>
    obtain ⟨n', hskip⟩ := hm.skips htext n
    obtain ⟨d, r, rfl, hd⟩ := hm.starts
    obtain ⟨-, hminus, hnull, htrue, hfalse, -⟩ := not_digitByte hd
    refine Or.inl ⟨n', ?_⟩
    simp only [List.cons_append] at hskip ⊢
    simp only [Json.skipOpening, if_neg hnull, if_neg htrue, if_neg hfalse, if_neg hminus, hd,
      if_true, hskip, Except.map]
  | @negative m hm =>
    obtain ⟨n', hskip⟩ := hm.skips htext (n + 1)
    have hother : (0x2D : UInt8) ≠ 0x6E ∧ (0x2D : UInt8) ≠ 0x74 ∧ (0x2D : UInt8) ≠ 0x66 := by
      decide
    obtain ⟨hnull, htrue, hfalse⟩ := hother
    refine Or.inl ⟨n', ?_⟩
    simp only [List.cons_append, Json.skipOpening, if_neg hnull, if_neg htrue, if_neg hfalse,
      if_true, hskip, Except.map]
  | @text body hbody =>
    obtain ⟨n', hskip⟩ := hbody.skips text (n + 1)
    refine Or.inl ⟨n', ?_⟩
    have hstart : 0x22 :: (body ++ [0x22]) ++ text = 0x22 :: (body ++ 0x22 :: text) := by simp
    rw [hstart]
    unfold Json.skipOpening
    simp only [hskip, Except.map]
    rfl
  | @list items inside hitems hinside =>
    exact Or.inr ⟨.list, items, inside, rfl, hitems, hinside, rfl⟩
  | @object entries inside hentries hinside =>
    exact Or.inr ⟨.object, entries, inside, rfl, hentries, hinside, rfl⟩

/-- A key is passed over with its colon. -/
theorem skipKey_ok {c c' : Cursor} (h : skipKey c = .ok c') :
    ∃ gap key gap', IsBlanks gap ∧ IsTextBody key ∧ IsBlanks gap' ∧
      c.rest = gap ++ 0x22 :: (key ++ 0x22 :: (gap' ++ 0x3A :: c'.rest)) := by
  obtain ⟨gap, rest, n, hgap, hc, -, hskip⟩ := c.skipBlanks_split
  unfold skipKey at h
  simp only [hskip] at h
  split at h
  · cases h
  rename_i b r
  split at h
  · rename_i hb
    obtain ⟨c₁, htext, h⟩ := bind_eq_ok.mp h
    obtain ⟨key, hkey, hr⟩ := isTextBody_of_skipText htext
    have hr : r = key ++ 0x22 :: c₁.rest := hr
    obtain ⟨gap', rest', n', hgap', hc₁, -, hskip'⟩ := c₁.skipBlanks_split
    simp only [hskip'] at h
    split at h
    · cases h
    split at h
    · rename_i d r' hd
      obtain rfl := Except.ok.inj h
      exact ⟨gap, key, gap', hgap, hkey, hgap', by rw [hc, hb, hr, hc₁, hd]⟩
    · cases h
  · cases h

theorem skipKey_entry {gap key gap' : List UInt8} (hgap : IsBlanks gap) (hkey : IsTextBody key)
    (hgap' : IsBlanks gap') (rest : List UInt8) (n : Nat) :
    ∃ n', skipKey ⟨gap ++ 0x22 :: (key ++ 0x22 :: (gap' ++ 0x3A :: rest)), n⟩ = .ok ⟨rest, n'⟩ := by
  obtain ⟨n', htext⟩ := hkey.skips (gap' ++ 0x3A :: rest) (n + gap.length + 1)
  refine ⟨n' + gap'.length + 1, ?_⟩
  simp only [skipKey, hgap.skip (show isBlankByte 0x22 = false by decide), if_true, htext, bind,
    Except.bind, hgap'.skip (show isBlankByte 0x3A = false by decide)]

/-- Go on where closing has stopped: with the next value, in an object behind its key. -/
def skipFrom (fuel : Nat) : List Frame → Cursor → Except Failure Cursor
  | [], c => .ok c
  | .list :: outer, c => skipWithin fuel (.list :: outer) c
  | .object :: outer, c => do
    let c' ← skipKey c
    skipWithin fuel (.object :: outer) c'

theorem skipFrom_eq (fuel : Nat) (open' : List Frame) (c : Cursor) :
    skipFrom fuel open' c = match open' with
      | [] => .ok c
      | .list :: _ => skipWithin fuel open' c
      | .object :: _ => skipKey c >>= skipWithin fuel open' := by
  rcases open' with - | ⟨- | -, outer⟩ <;> rfl

/-- One round: a value begins, the frames that end behind it are closed, and so on. -/
theorem skipWithin_succ (fuel : Nat) (frames : List Frame) (c : Cursor) :
    skipWithin (fuel + 1) frames c = (do
      let (opened, c₁) ← skipOpening c.skipBlanks
      let (open', c₂) ←
        skipClosings (frames.length + 2) opened.isNone (opened.toList ++ frames) c₁
      skipFrom fuel open' c₂) := by
  simp only [skipFrom_eq]
  conv_lhs => unfold skipWithin
  cases skipOpening c.skipBlanks with
  | error => rfl
  | ok found =>
    obtain ⟨opened, c₁⟩ := found
    cases opened <;> rfl

/-- A run that succeeds has passed over a value, and has closed all frames behind it. -/
theorem skipWithin_ok {fuel : Nat} {frames : List Frame} {c c' : Cursor}
    (h : skipWithin fuel frames c = .ok c') :
    ∃ v text n, IsValue v ∧ c.skipBlanks = ⟨v ++ text, n⟩ ∧ Closes false frames text c'.rest := by
  induction fuel generalizing frames c with
  | zero => cases h
  | succ fuel ih =>
    rw [skipWithin_succ] at h
    obtain ⟨⟨opened, c₁⟩, hopening, h⟩ := bind_eq_ok.mp h
    obtain ⟨⟨open', c₂⟩, hclosings, h⟩ := bind_eq_ok.mp h
    -- where closing has stopped, the next entry begins
    have hopens : Opens open' c₂.rest c'.rest := by
      rcases open' with - | ⟨- | -, outer⟩
      · obtain rfl := Except.ok.inj h
        exact .done
      · obtain ⟨v, text, n, hv, hskip, hcloses⟩ := ih h
        obtain ⟨gap, rest, _, hgap, hc₂, -, hskip'⟩ := c₂.skipBlanks_split
        obtain rfl : rest = v ++ text := congrArg Cursor.rest (hskip'.symm.trans hskip)
        rw [hc₂]
        exact .entry hgap hv hcloses
      · obtain ⟨c₃, hkey, h⟩ := bind_eq_ok.mp h
        obtain ⟨gap, key, gap', hgap, hkey, hgap', hc₂⟩ := skipKey_ok hkey
        obtain ⟨v, text, n, hv, hskip, hcloses⟩ := ih h
        obtain ⟨gap'', rest, _, hgap'', hc₃, -, hskip'⟩ := c₃.skipBlanks_split
        obtain rfl : rest = v ++ text := congrArg Cursor.rest (hskip'.symm.trans hskip)
        have hmember : Frame.object.Item
            (0x22 :: (key ++ 0x22 :: (gap' ++ 0x3A :: (gap'' ++ v)))) :=
          IsMember.of hkey hv ⟨gap', gap'', hgap', hgap'', rfl⟩
        have hopens := Opens.entry hgap hmember hcloses
        rw [hc₂, hc₃]
        simpa using hopens
    have hcloses := closes_of_skipClosings hclosings hopens
    obtain ⟨gap, rest, n, -, -, -, hskip⟩ := c.skipBlanks_split
    rw [hskip] at hopening ⊢
    have hvalue := skipOpening_ok hopening
    cases opened with
    | none =>
      obtain ⟨v, hv, hrest⟩ := hvalue
      have hrest : rest = v ++ c₁.rest := hrest
      exact ⟨v, c₁.rest, n, hv, by rw [hrest], hcloses⟩
    | some frame =>
      have hvalue : rest = frame.opening :: c₁.rest := hvalue
      have hcloses : Closes true (frame :: frames) c₁.rest c'.rest := hcloses
      generalize c₁.rest = input at hcloses hvalue
      cases hcloses with
      | @cons _ _ _ entries inside text _ hitems hinside hcloses =>
        exact ⟨frame.opening :: inside, text, n, Frame.isValue hitems hinside, by rw [hvalue]; rfl,
          hcloses⟩

/-- A value is passed over, and with it all that closes the open frames. -/
theorem skipWithin_value {fuel : Nat} {frames : List Frame} {v text rest : List UInt8}
    (hv : IsValue v) (hcloses : Closes false frames text rest) (hrest : EndsNumber rest)
    (hfuel : (v ++ text).length ≤ fuel) {c : Cursor} {n : Nat}
    (hc : c.skipBlanks = ⟨v ++ text, n⟩) :
    ∃ n', skipWithin fuel frames c = .ok ⟨rest, n'⟩ := by
  induction fuel generalizing frames v text c n with
  | zero =>
    obtain ⟨b, r, rfl, -⟩ := hv.starts
    simp at hfuel
  | succ fuel ih =>
    -- behind the beginning of the value the frames are closed up to the next entry
    have hround : ∃ opened c₁ open' c₂, skipOpening ⟨v ++ text, n⟩ = .ok (opened, c₁) ∧
        skipClosings (frames.length + 2) opened.isNone (opened.toList ++ frames) c₁ =
          .ok (open', c₂) ∧ Opens open' c₂.rest rest ∧ c₂.rest.length < (v ++ text).length := by
      rcases hv.skipOpening (hcloses.endsNumber hrest) n with
        ⟨n₁, hopening⟩ | ⟨frame, entries, inside, rfl, hitems, hinside, hopening⟩
      · obtain ⟨b, r, rfl, -⟩ := hv.starts
        obtain ⟨open', c₂, hclosings, hopens, hlength⟩ :=
          hcloses.skipClosings (show frames.length < frames.length + 2 by omega) n₁
        refine ⟨none, _, open', c₂, hopening, hclosings, hopens, ?_⟩
        simp only [List.cons_append, List.length_cons, List.length_append]
        omega
      · have hcloses' : Closes true (frame :: frames) (inside ++ text) rest :=
          .cons hitems hinside hcloses
        obtain ⟨open', c₂, hclosings, hopens, hlength⟩ := hcloses'.skipClosings
          (show (frame :: frames).length < frames.length + 2 by simp) (n + 1)
        refine ⟨some frame, _, open', c₂, hopening, hclosings, hopens, ?_⟩
        simp only [List.cons_append, List.length_cons, List.length_append] at hlength ⊢
        omega
    obtain ⟨opened, c₁, open', c₂, hopening, hclosings, hopens, hlength⟩ := hround
    have hfrom : ∃ n', skipFrom fuel open' c₂ = .ok ⟨rest, n'⟩ := by
      obtain ⟨input, n₂⟩ := c₂
      have hopens : Opens open' input rest := hopens
      have hlength : input.length < (v ++ text).length := hlength
      cases hopens with
      | done => exact ⟨n₂, rfl⟩
      | @entry frame outer gap entry text' _ hgap hitem hcloses' =>
        simp only [List.length_append] at hlength hfuel
        cases frame with
        | list =>
          have hvalue : IsValue entry := hitem
          exact ih hvalue hcloses' (by rw [List.length_append]; omega)
            (hgap.skip_entry hvalue.starts text' n₂)
        | object =>
          obtain @⟨key, value, _, hkey, hvalue, gap', gap'', hgap', hgap'', rfl⟩ :
            IsMember entry := hitem
          obtain ⟨n₃, hskip⟩ := skipKey_entry hgap hkey hgap' (gap'' ++ (value ++ text')) n₂
          have hstart : gap ++ (0x22 :: (key ++ 0x22 :: (gap' ++ 0x3A :: (gap'' ++ value))) ++ text') =
              gap ++ 0x22 :: (key ++ 0x22 :: (gap' ++ 0x3A :: (gap'' ++ (value ++ text')))) := by
            simp
          simp only [List.length_cons, List.length_append] at hlength
          obtain ⟨n', hwithin⟩ := ih hvalue hcloses' (by rw [List.length_append]; omega)
            (hgap''.skip_entry hvalue.starts text' n₃)
          refine ⟨n', ?_⟩
          simp only [skipFrom, hstart, hskip, bind, Except.bind, hwithin]
    obtain ⟨n', hfrom⟩ := hfrom
    refine ⟨n', ?_⟩
    rw [skipWithin_succ, hc]
    simp only [hopening, hclosings, hfrom, bind, Except.bind]

/-- What is passed over is a value behind blanks. -/
theorem skipValue_ok {c c' : Cursor} (h : skipValue c = .ok c') :
    ∃ v n, IsValue v ∧ c.skipBlanks = ⟨v ++ c'.rest, n⟩ := by
  obtain ⟨v, text, n, hv, hskip, hcloses⟩ := skipWithin_ok h
  generalize hrest : c'.rest = rest at hcloses
  cases hcloses
  exact ⟨v, n, hv, hskip⟩

/-- Every value is passed over, to its end and no further. -/
theorem IsValue.skips {v rest : List UInt8} (hv : IsValue v) (hrest : EndsNumber rest) {c : Cursor}
    {n : Nat} (hc : c.skipBlanks = ⟨v ++ rest, n⟩) : ∃ n', skipValue c = .ok ⟨rest, n'⟩ := by
  refine skipWithin_value hv .nil hrest ?_ hc
  obtain ⟨gap, rest', _, -, hsplit, -, hskip⟩ := c.skipBlanks_split
  obtain rfl : rest' = v ++ rest := congrArg Cursor.rest (hskip.symm.trans hc)
  simp only [hsplit, List.length_append]
  omega

/-- A text begins with a value in one way only. -/
theorem IsValue.unique {v w r s : List UInt8} (hv : IsValue v) (hw : IsValue w)
    (hr : EndsNumber r) (hs : EndsNumber s) (h : v ++ r = w ++ s) : v = w ∧ r = s := by
  have hplace : ∀ {u t : List UInt8}, IsValue u →
      (⟨u ++ t, 0⟩ : Cursor).skipBlanks = ⟨u ++ t, 0⟩ := by
    intro u t hu
    obtain ⟨b, r, rfl, hb⟩ := hu.starts
    exact Cursor.skipBlanks_of_not hb.1 _ _
  obtain ⟨n, hskip⟩ := hv.skips hr (hplace hv)
  obtain ⟨n', hskip'⟩ := hw.skips hs (hplace hw)
  rw [h, hskip'] at hskip
  obtain rfl : s = r := congrArg Cursor.rest (Except.ok.inj hskip)
  exact ⟨List.append_cancel_right h, rfl⟩

end CoachClient.Json
