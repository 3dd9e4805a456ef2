/-
CoachClient.Proofs.Json.Lists — lists that are read, item by item.

* `nextItem_ok`, `nextItem_entry`, `nextItem_closed` — where the next item begins, or where
  the list is closed.
* `readItems_ok`, `readItems_listed` — the items that are read are the items that are listed.
* `ReadsValues.items` — a list is read the same wherever it stands.
* `Takes.items_iff` — what is taken for a list is what is taken item by item.
* `Places` — a list in place of an object: the values in the declared order, and only those
  may be left out at the end that may be.
-/
import CoachClient.Proofs.Json.Takes

namespace CoachClient.Json

/-! ## 1. From item to item -/

theorem nextItem_ok {first : Bool} {c c' : Cursor} {more : Bool}
    (h : nextItem first c = .ok (more, c')) :
    (more = false → ∃ gap r, IsBlanks gap ∧ c.rest = gap ++ 0x5D :: r ∧ c'.rest = 0x5D :: r) ∧
      (more = true → ∃ lead, Lead first lead ∧ c.rest = lead ++ c'.rest ∧ c'.skipBlanks = c') := by
  obtain ⟨gap, rest, n, hgap, hc, hrest, hskip⟩ := c.skipBlanks_split
  have hplace : ∀ {k}, (⟨rest, k⟩ : Cursor).skipBlanks = ⟨rest, k⟩ := passWhile_of_not hrest _
  simp only [nextItem, hskip] at h
  split at h
  · cases h
  rename_i b r
  split at h
  · rename_i hb
    obtain ⟨rfl, rfl⟩ := Prod.mk.inj (Except.ok.inj h)
    subst hb
    exact ⟨fun _ => ⟨gap, r, hgap, hc, rfl⟩, by simp⟩
  split at h
  · -- a comma: the item begins behind it
    rename_i hcomma
    simp only [Bool.and_eq_true, decide_eq_true_eq, Bool.not_eq_true'] at hcomma
    obtain ⟨rfl, rfl⟩ := hcomma
    obtain ⟨gap', rest', n', hgap', hr, hrest', hskip'⟩ := (⟨r, n + 1⟩ : Cursor).skipBlanks_split
    have hr : r = gap' ++ rest' := hr
    simp only [hskip'] at h
    split at h
    · cases h
    split at h
    · cases h
    · obtain ⟨rfl, rfl⟩ := Prod.mk.inj (Except.ok.inj h)
      refine ⟨by simp, fun _ => ⟨gap ++ 0x2C :: gap', .next hgap hgap', by rw [hc, hr]; simp, ?_⟩⟩
      exact passWhile_of_not hrest' n'
  split at h
  · rename_i hfirst
    subst hfirst
    obtain ⟨rfl, rfl⟩ := Prod.mk.inj (Except.ok.inj h)
    exact ⟨by simp, fun _ => ⟨gap, .first hgap, hc, hplace⟩⟩
  · cases h

theorem nextItem_closed (first : Bool) {gap : List UInt8} (hgap : IsBlanks gap) (r : List UInt8)
    (n : Nat) : ∃ n', nextItem first ⟨gap ++ 0x5D :: r, n⟩ = .ok (false, ⟨0x5D :: r, n'⟩) :=
  ⟨_, by simp only [nextItem, hgap.skip (show isBlankByte 0x5D = false by decide), if_true]; rfl⟩

theorem nextItem_entry {first : Bool} {lead entry : List UInt8} (hlead : Lead first lead)
    (hentry : ∃ b r, entry = b :: r ∧ BeginsEntry b) (text : List UInt8) (n : Nat) :
    ∃ n', nextItem first ⟨lead ++ (entry ++ text), n⟩ = .ok (true, ⟨entry ++ text, n'⟩) := by
  obtain ⟨b, r, rfl, hb, hcomma, hbracket, -⟩ := hentry
  cases hlead with
  | first hgap =>
    refine ⟨n + lead.length, ?_⟩
    simp only [nextItem, List.cons_append, hgap.skip hb, if_neg hbracket, hcomma, decide_false,
      Bool.false_and, Bool.false_eq_true, if_false, if_true]
  | @next gap gap' hgap hgap' =>
    refine ⟨n + gap.length + 1 + gap'.length, ?_⟩
    have hstart : gap ++ 0x2C :: gap' ++ (b :: r ++ text) =
        gap ++ 0x2C :: (gap' ++ b :: (r ++ text)) := by
      simp
    have hother : (0x2C : UInt8) ≠ 0x5D := by decide
    rw [hstart, List.cons_append]
    simp only [nextItem, hgap.skip (show isBlankByte 0x2C = false by decide), if_neg hother,
      decide_true, Bool.not_false, Bool.and_self, if_true, hgap'.skip hb, if_neg hbracket]

theorem closeList_ok {c c' : Cursor} (h : closeList c = (.ok (), c')) :
    ∃ gap, IsBlanks gap ∧ c.rest = gap ++ 0x5D :: c'.rest := by
  obtain ⟨gap, rest, n, hgap, hc, -, hskip⟩ := c.skipBlanks_split
  simp only [closeList, hskip] at h
  split at h
  · cases h
  rename_i b r
  split at h
  · rename_i hb
    obtain ⟨-, rfl⟩ := Prod.mk.inj h
    subst hb
    exact ⟨gap, hgap, hc⟩
  split at h
  · split at h
    · split at h <;> cases h
    · cases h
  · cases h

theorem closeList_closed {gap : List UInt8} (hgap : IsBlanks gap) (r : List UInt8) (n : Nat) :
    ∃ n', closeList ⟨gap ++ 0x5D :: r, n⟩ = (.ok (), ⟨r, n'⟩) :=
  ⟨_, by simp only [closeList, hgap.skip (show isBlankByte 0x5D = false by decide), if_true]; rfl⟩

/-! ## 2. Items -/

section
variable {α : Type} {read : Reader α} {levels : Nat}

/-- An item that is a value and is taken for something. -/
def TakesItem (read : Reader α) (levels : Nat) (v : List UInt8) (a : α) : Prop :=
  IsValue v ∧ Takes read levels v a

/-- What is read as the items of a list is listed there. -/
theorem readItems_ok (hread : ReadsValues read) {fuel : Nat} {first : Bool} {c c' : Cursor}
    {as : List α} (h : readItems (read levels) fuel first c = .ok (as, c')) :
    ∃ items left r, Listed 0x5D first items left ∧ c.rest = left ++ r ∧ c'.rest = 0x5D :: r ∧
      List.Forall₂ (TakesItem read levels) items as := by
  induction fuel generalizing first c as with
  | zero => cases h
  | succ fuel ih =>
    unfold readItems at h
    obtain ⟨⟨more, c₁⟩, hnext, h⟩ := bind_eq_ok.mp h
    obtain ⟨hclosed, hentry⟩ := nextItem_ok hnext
    cases more with
    | false =>
      obtain ⟨rfl, rfl⟩ := Prod.mk.inj (Except.ok.inj h)
      obtain ⟨gap, r, hgap, hc, hc₁⟩ := hclosed rfl
      exact ⟨[], gap ++ [0x5D], r, .closed hgap, by rw [hc]; simp, hc₁, .nil⟩
    | true =>
      obtain ⟨lead, hlead, hc, hplace⟩ := hentry rfl
      obtain ⟨⟨a, c₂⟩, hitem, h⟩ := bind_eq_ok.mp h
      obtain ⟨⟨as, c₃⟩, hitems, h⟩ := bind_eq_ok.mp h
      obtain ⟨rfl, rfl⟩ := Prod.mk.inj (Except.ok.inj h)
      obtain ⟨items, left, r, hlisted, hc₂, hc₃, htakes⟩ := ih hitems
      have hends : EndsNumber c₂.rest := by
        rw [hc₂]
        exact hlisted.endsNumber (Or.inl rfl) r
      obtain ⟨v, n, hv, hskip, htake⟩ := hread _ _ _ _ hitem hends
      have hc₁ : c₁.rest = v ++ c₂.rest := congrArg Cursor.rest (hplace.symm.trans hskip)
      exact ⟨v :: items, lead ++ (v ++ left), r, .entry hlead hlisted,
        by rw [hc, hc₁, hc₂]; simp, hc₃, .cons ⟨hv, htake⟩ htakes⟩

/-- What is listed is read. -/
theorem readItems_listed {items : List (List UInt8)} {as : List α}
    (htakes : List.Forall₂ (TakesItem read levels) items as) {first : Bool} {left : List UInt8}
    (hlisted : Listed 0x5D first items left) {fuel : Nat} (hfuel : items.length < fuel)
    (r : List UInt8) (n : Nat) :
    ∃ n', readItems (read levels) fuel first ⟨left ++ r, n⟩ = .ok (as, ⟨0x5D :: r, n'⟩) := by
  induction htakes generalizing first left fuel n with
  | nil =>
    obtain ⟨fuel, rfl⟩ : ∃ k, fuel = k + 1 := ⟨fuel - 1, by simp at hfuel; omega⟩
    cases hlisted with
    | @closed _ gap hgap =>
      obtain ⟨n', hnext⟩ := nextItem_closed first hgap r n
      have hstart : gap ++ [0x5D] ++ r = gap ++ 0x5D :: r := by simp
      refine ⟨n', ?_⟩
      simp only [readItems, hstart, hnext, bind, Except.bind, Bool.false_eq_true, if_false]
  | @cons v a items as hitem htakes ih =>
    simp only [List.length_cons] at hfuel
    obtain ⟨fuel, rfl⟩ : ∃ k, fuel = k + 1 := ⟨fuel - 1, by omega⟩
    cases hlisted with
    | @entry _ lead _ left _ hlead hlisted =>
      obtain ⟨n₁, hnext⟩ := nextItem_entry hlead hitem.1.starts (left ++ r) n
      obtain ⟨n₂, hread⟩ := hitem.2 (left ++ r) n₁ _ (hlisted.endsNumber (Or.inl rfl) r)
        (hitem.1.skipBlanks (left ++ r) n₁)
      obtain ⟨n', hrest⟩ := ih hlisted (show items.length < fuel by omega) n₂
      refine ⟨n', ?_⟩
      simp only [readItems, List.append_assoc, hnext, bind, Except.bind, if_true, hread, hrest]

/-- A list whose items are taken is taken. -/
theorem Takes.items {items : List (List UInt8)} {text : List UInt8} {as : List α}
    (hlevels : 1 < levels) (hlist : IsList items text)
    (htakes : List.Forall₂ (Takes read (levels - 1)) items as) :
    Takes (Reader.items read) levels text as := by
  obtain ⟨inside, rfl, hvalues, hinside⟩ := hlist
  intro rest n c _ hc
  have hitems : List.Forall₂ (TakesItem read (levels - 1)) items as :=
    (List.forall₂_and_left items as).mpr ⟨hvalues, htakes⟩
  have hlength := hinside.length_le
  simp only [if_true] at hlength
  obtain ⟨n₁, hread⟩ := readItems_listed hitems hinside
    (show items.length < (inside ++ rest).length + 1 by rw [List.length_append]; omega) rest (n + 1)
  obtain ⟨n', hclose⟩ := closeList_closed isBlanks_nil rest n₁
  rw [List.nil_append] at hclose
  have hdeep : ¬ levels ≤ 1 := by omega
  refine ⟨n', ?_⟩
  rw [List.cons_append] at hc
  simp only [Reader.items, hc, if_true, if_neg hdeep, readListBody, hread, bind, Except.bind,
    hclose]

theorem IsList.values {items : List (List UInt8)} {text : List UInt8} (h : IsList items text) :
    ∀ v ∈ items, IsValue v := by
  obtain ⟨_, -, hvalues, -⟩ := h
  exact hvalues

/-- What is read as a list is a list, and is read item by item. -/
theorem items_ok (hread : ReadsValues read) {c c' : Cursor} {as : List α}
    (h : Reader.items read levels c = .ok (as, c')) :
    ∃ items text n, 1 < levels ∧ IsList items text ∧ c.skipBlanks = ⟨text ++ c'.rest, n⟩ ∧
      List.Forall₂ (Takes read (levels - 1)) items as := by
  obtain ⟨gap, rest, n, -, -, -, hskip⟩ := c.skipBlanks_split
  simp only [Reader.items, hskip] at h
  split at h
  · cases h
  rename_i b r
  split at h
  · rename_i hb
    subst hb
    split at h
    · cases h
    rename_i hdeep
    unfold readListBody at h
    obtain ⟨⟨as', rest₁, n₁⟩, hitems, hbody⟩ := bind_eq_ok.mp h
    obtain ⟨items, left, r', hlisted, hr, hc₁, htakes⟩ := readItems_ok hread hitems
    obtain rfl : rest₁ = 0x5D :: r' := hc₁
    obtain rfl : r = left ++ r' := hr
    obtain ⟨n', hclose⟩ := closeList_closed isBlanks_nil r' n₁
    rw [List.nil_append] at hclose
    simp only [hclose, bind, Except.bind] at hbody
    obtain ⟨rfl, rfl⟩ := Prod.mk.inj (Except.ok.inj hbody)
    obtain ⟨hvalues, htakes⟩ := (List.forall₂_and_left items as').mp htakes
    exact ⟨items, 0x5B :: left, n, by omega, ⟨left, rfl, hvalues, hlisted⟩, hskip, htakes⟩
  · exact absurd h wrongType_ne_ok

/-- A list is read the same wherever it stands. -/
theorem ReadsValues.items (hread : ReadsValues read) : ReadsValues (Reader.items read) := by
  intro levels c as c' h _
  obtain ⟨items, text, n, hlevels, hlist, hskip, htakes⟩ := items_ok hread h
  exact ⟨text, n, hlist.isValue, hskip, .items hlevels hlist htakes⟩

end

/-! ## 3. One list, one reading -/

/-- A value as it is written. -/
def verbatim : Reader (List UInt8) := fun _ c =>
  (skipValue c).map fun c' =>
    (c.skipBlanks.rest.take (c.skipBlanks.rest.length - c'.rest.length), c')

theorem takes_verbatim {v : List UInt8} (hv : IsValue v) (levels : Nat) :
    Takes verbatim levels v v := by
  intro rest n c hrest hc
  obtain ⟨n', hskip⟩ := hv.skips hrest hc
  exact ⟨n', by simp [verbatim, hskip, hc, Except.map]⟩

/-- A text is a list in one way only. -/
theorem IsList.unique {items items' : List (List UInt8)} {text : List UInt8}
    (h : IsList items text) (h' : IsList items' text) : items = items' := by
  have htakes : ∀ {items}, IsList items text → Takes (Reader.items verbatim) 2 text items := by
    intro items h
    exact .items (by decide) h (List.forall₂_same.mpr fun v hv => takes_verbatim (h.values v hv) 1)
  exact (htakes h).functional h.isValue (htakes h')

/-- What is taken for a list is what is taken item by item. -/
theorem Takes.items_iff {α : Type} {read : Reader α} (hread : ReadsValues read) {levels : Nat}
    {items : List (List UInt8)} {text : List UInt8} {as : List α} (hlist : IsList items text) :
    Takes (Reader.items read) levels text as ↔
      1 < levels ∧ List.Forall₂ (Takes read (levels - 1)) items as := by
  constructor
  · intro h
    have hplace := hlist.isValue.skipBlanks [] 0
    obtain ⟨n', hok⟩ := h [] 0 _ endsNumber_nil hplace
    obtain ⟨items', text', n, hlevels, hlist', hskip, htakes⟩ := items_ok hread hok
    obtain rfl : text = text' := by
      have hsame : text ++ [] = text' ++ [] := congrArg Cursor.rest (hplace.symm.trans hskip)
      simpa using hsame
    obtain rfl := hlist.unique hlist'
    exact ⟨hlevels, htakes⟩
  · rintro ⟨hlevels, htakes⟩
    exact .items hlevels hlist htakes

/-! ## 4. A list in place of an object -/

/-- The values of a list, in the order of the declared members. The members at the end that
may be missing need not be there. -/
inductive Places {μ : Type} (levels : Nat) : List (Field μ) → List (List UInt8) → List μ → Prop
  | done {fields : List (Field μ)} (h : fields.all Field.mayEnd = true) : Places levels fields [] []
  | item {f : Field μ} {fields : List (Field μ)} {v : List UInt8} {items : List (List UInt8)}
      {m : μ} {ms : List μ} (hv : IsValue v) (hm : Takes f.read levels v m)
      (h : Places levels fields items ms) : Places levels (f :: fields) (v :: items) (m :: ms)

section
variable {μ : Type} {levels : Nat} (expectedLength : String)

theorem Places.values {fields : List (Field μ)} {items : List (List UInt8)} {ms : List μ}
    (h : Places levels fields items ms) : ∀ v ∈ items, IsValue v := by
  induction h with
  | done => exact fun v hv => nomatch hv
  | item hv _ _ ih => exact List.forall_mem_cons.mpr ⟨hv, ih⟩

theorem located_ok {α : Type} {x : Except Failure α} {a : α} (h : located x = .ok a) :
    x = .ok a := by
  cases x with
  | error => cases h
  | ok a' => exact congrArg Except.ok (Except.ok.inj h)

/-- What is read in the order of the declared members is listed there. -/
theorem readPositional_ok {fields : List (Field μ)} (hread : ∀ f ∈ fields, ReadsValues f.read)
    {index : Nat} {c c' : Cursor} {ms : List μ}
    (h : readPositional expectedLength levels index fields c = .ok (ms, c')) {gap r : List UInt8}
    (hgap : IsBlanks gap) (hc' : c'.rest = gap ++ 0x5D :: r) :
    ∃ items left, Listed 0x5D (index == 0) items left ∧ c.rest = left ++ r ∧
      Places levels fields items ms := by
  induction fields generalizing index c ms with
  | nil =>
    obtain ⟨rfl, rfl⟩ := Prod.mk.inj (Except.ok.inj h)
    exact ⟨[], gap ++ [0x5D], .closed hgap, by rw [hc']; simp, .done rfl⟩
  | cons f fields ih =>
    unfold readPositional at h
    obtain ⟨⟨more, c₁⟩, hnext, h⟩ := bind_eq_ok.mp h
    obtain ⟨hclosed, hentry⟩ := nextItem_ok (located_ok hnext)
    dsimp only at h
    split at h
    · rename_i hmore
      obtain ⟨lead, hlead, hc, hplace⟩ := hentry hmore
      obtain ⟨⟨m, c₂⟩, hitem, h⟩ := bind_eq_ok.mp h
      obtain ⟨⟨ms, c₃⟩, hitems, h⟩ := bind_eq_ok.mp h
      obtain ⟨rfl, rfl⟩ := Prod.mk.inj (Except.ok.inj h)
      obtain ⟨hf, hfields⟩ := List.forall_mem_cons.mp hread
      obtain ⟨items, left, hlisted, hc₂, hplaces⟩ := ih hfields hitems
      have hlisted : Listed 0x5D false items left := hlisted
      have hc₂ : c₂.rest = left ++ r := hc₂
      have hends : EndsNumber c₂.rest := by
        rw [hc₂]
        exact hlisted.endsNumber (Or.inl rfl) r
      obtain ⟨v, n, hv, hskip, htake⟩ := hf _ _ _ _ (located_ok hitem) hends
      have hc₁ : c₁.rest = v ++ c₂.rest := congrArg Cursor.rest (hplace.symm.trans hskip)
      exact ⟨v :: items, lead ++ (v ++ left), .entry hlead hlisted, by rw [hc, hc₁, hc₂]; simp,
        .item hv htake hplaces⟩
    rename_i hmore
    split at h
    · rename_i hend
      obtain ⟨rfl, rfl⟩ := Prod.mk.inj (Except.ok.inj h)
      obtain ⟨gap₁, r₁, hgap₁, hc, hc₁⟩ := hclosed (by simpa using hmore)
      -- the place is the closing bracket itself
      obtain rfl : r₁ = r := by
        rw [hc₁] at hc'
        cases gap with
        | nil => exact (List.cons.inj hc').2
        | cons b gap =>
          have hb := hgap b List.mem_cons_self
          rw [← (List.cons.inj hc').1] at hb
          exact absurd hb (by decide)
      exact ⟨[], gap₁ ++ [0x5D], .closed hgap₁, by rw [hc]; simp, .done hend⟩
    · cases h

/-- The values of a list are read in the order of the declared members. -/
theorem readPositional_listed {fields : List (Field μ)} {items : List (List UInt8)} {ms : List μ}
    (hplaces : Places levels fields items ms) {index : Nat} {left : List UInt8}
    (hlisted : Listed 0x5D (index == 0) items left) (r : List UInt8) (n : Nat) :
    ∃ gap n', IsBlanks gap ∧
      readPositional expectedLength levels index fields ⟨left ++ r, n⟩ =
        .ok (ms, ⟨gap ++ 0x5D :: r, n'⟩) := by
  induction hplaces generalizing index left n with
  | @done fields hend =>
    cases hlisted with
    | @closed _ gap hgap =>
      have hstart : gap ++ [0x5D] ++ r = gap ++ 0x5D :: r := by simp
      cases fields with
      | nil => exact ⟨gap, n, hgap, by rw [hstart]; rfl⟩
      | cons f fields =>
        obtain ⟨n', hnext⟩ := nextItem_closed (index == 0) hgap r n
        refine ⟨[], n', isBlanks_nil, ?_⟩
        simp only [readPositional, hstart, hnext, located, bind, Except.bind, Bool.false_eq_true,
          if_false, hend, if_true, List.nil_append]
  | @item f fields v items m ms hv hm _ ih =>
    cases hlisted with
    | @entry _ lead _ left _ hlead hlisted =>
      have hends := hlisted.endsNumber (Or.inl rfl) r
      have hlisted : Listed 0x5D (index + 1 == 0) items left := hlisted
      obtain ⟨n₁, hnext⟩ := nextItem_entry hlead hv.starts (left ++ r) n
      obtain ⟨n₂, hread⟩ := hm (left ++ r) n₁ _ hends (hv.skipBlanks (left ++ r) n₁)
      obtain ⟨gap, n', hgap, hrest⟩ := ih hlisted n₂
      refine ⟨gap, n', hgap, ?_⟩
      simp only [readPositional, List.append_assoc, hnext, located, bind, Except.bind, if_true,
        hread, hrest]

end

end CoachClient.Json
