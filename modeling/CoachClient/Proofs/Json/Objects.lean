/-
CoachClient.Proofs.Json.Objects — objects that are read, member by member.

* `Gathers` — what is read off the members of an object: each declared one is taken by its
  reader, none of them comes twice, and the others are only passed over.
* `readMembers_ok`, `readMembers_listed` — what is read as members is what is gathered from
  the members that are listed.
* `ReadsValues.record` — a record is read the same wherever it stands.
* `IsObject.unique` — a text is an object in one way only.
* `Makes`, `Takes.record_iff` — what is taken for a record is made up of its members in an
  object, or of values in their order in a list.
* `Gathers.perm`, `Gathers.pass` — gathering does not depend on the order of the members, nor
  on members that are not declared.
-/
import CoachClient.Proofs.Json.Lists

namespace CoachClient.Json

open CoachClient.Text

/-! ## 1. From member to member -/

theorem nextKey_ok {first : Bool} {c c' : Cursor} {more : Bool}
    (h : nextKey first c = .ok (more, c')) :
    (more = false → ∃ gap r, IsBlanks gap ∧ c.rest = gap ++ 0x7D :: r ∧ c'.rest = 0x7D :: r) ∧
      (more = true → ∃ lead r, Lead first lead ∧ c.rest = lead ++ 0x22 :: r ∧
        c'.rest = 0x22 :: r) := by
  obtain ⟨gap, rest, n, hgap, hc, -, hskip⟩ := c.skipBlanks_split
  simp only [nextKey, hskip] at h
  split at h
  · cases h
  rename_i b r
  split at h
  · rename_i hb
    obtain ⟨rfl, rfl⟩ := Prod.mk.inj (Except.ok.inj h)
    subst hb
    exact ⟨fun _ => ⟨gap, r, hgap, hc, rfl⟩, by simp⟩
  split at h
  · -- a comma: the key begins behind it
    rename_i hcomma
    simp only [Bool.and_eq_true, decide_eq_true_eq, Bool.not_eq_true'] at hcomma
    obtain ⟨rfl, rfl⟩ := hcomma
    obtain ⟨gap', rest', n', hgap', hr, -, hskip'⟩ := (⟨r, n + 1⟩ : Cursor).skipBlanks_split
    obtain rfl : r = gap' ++ rest' := hr
    cases rest' with
    | nil =>
      simp only [hskip'] at h
      cases h
    | cons d r =>
      simp only [hskip'] at h
      split at h
      · rename_i hd
        obtain ⟨rfl, rfl⟩ := Prod.mk.inj (Except.ok.inj h)
        subst hd
        exact ⟨by simp, fun _ => ⟨gap ++ 0x2C :: gap', r, .next hgap hgap', by rw [hc]; simp, rfl⟩⟩
      split at h <;> cases h
  split at h
  · rename_i hfirst
    subst hfirst
    split at h
    · rename_i hb
      obtain ⟨rfl, rfl⟩ := Prod.mk.inj (Except.ok.inj h)
      subst hb
      exact ⟨by simp, fun _ => ⟨gap, r, .first hgap, hc, rfl⟩⟩
    · cases h
  · cases h

theorem nextKey_closed (first : Bool) {gap : List UInt8} (hgap : IsBlanks gap) (r : List UInt8)
    (n : Nat) : ∃ n', nextKey first ⟨gap ++ 0x7D :: r, n⟩ = .ok (false, ⟨0x7D :: r, n'⟩) :=
  ⟨_, by simp only [nextKey, hgap.skip (show isBlankByte 0x7D = false by decide), if_true]; rfl⟩

theorem nextKey_entry {first : Bool} {lead : List UInt8} (hlead : Lead first lead)
    (r : List UInt8) (n : Nat) :
    ∃ n', nextKey first ⟨lead ++ 0x22 :: r, n⟩ = .ok (true, ⟨0x22 :: r, n'⟩) := by
  have hquote : isBlankByte 0x22 = false := by decide
  cases hlead with
  | first hgap =>
    have hbrace : (0x22 : UInt8) ≠ 0x7D := by decide
    have hcomma : (0x22 : UInt8) ≠ 0x2C := by decide
    refine ⟨n + lead.length, ?_⟩
    simp only [nextKey, hgap.skip hquote, if_neg hbrace, hcomma, decide_false, Bool.false_and,
      Bool.false_eq_true, if_false, if_true]
  | @next gap gap' hgap hgap' =>
    refine ⟨n + gap.length + 1 + gap'.length, ?_⟩
    have hstart : gap ++ 0x2C :: gap' ++ 0x22 :: r = gap ++ 0x2C :: (gap' ++ 0x22 :: r) := by simp
    have hother : (0x2C : UInt8) ≠ 0x7D := by decide
    rw [hstart]
    simp only [nextKey, hgap.skip (show isBlankByte 0x2C = false by decide), if_neg hother,
      decide_true, Bool.not_false, Bool.and_self, if_true, hgap'.skip hquote]

theorem readColon_ok {c c' : Cursor} (h : readColon c = .ok c') :
    ∃ gap, IsBlanks gap ∧ c.rest = gap ++ 0x3A :: c'.rest := by
  obtain ⟨gap, rest, n, hgap, hc, -, hskip⟩ := c.skipBlanks_split
  simp only [readColon, hskip] at h
  split at h
  · cases h
  split at h
  · rename_i b r hb
    obtain rfl := Except.ok.inj h
    subst hb
    exact ⟨gap, hgap, hc⟩
  · cases h

theorem closeObject_closed {gap : List UInt8} (hgap : IsBlanks gap) (r : List UInt8) (n : Nat) :
    ∃ n', closeObject ⟨gap ++ 0x7D :: r, n⟩ = (.ok (), ⟨r, n'⟩) :=
  ⟨_, by simp only [closeObject, hgap.skip (show isBlankByte 0x7D = false by decide), if_true]; rfl⟩

theorem IsNamed.value {member : String × List UInt8} {entry : List UInt8}
    (h : IsNamed member entry) : IsValue member.2 := by
  obtain ⟨key, -, hvalue, -⟩ := h
  exact hvalue

/-- A member is read up to its value. -/
theorem IsNamed.reads {member : String × List UInt8} {entry : List UInt8}
    (h : IsNamed member entry) {first : Bool} {lead : List UInt8} (hlead : Lead first lead)
    (text : List UInt8) (n : Nat) :
    ∃ c₁ c₂ c₃ n', nextKey first ⟨lead ++ (entry ++ text), n⟩ = .ok (true, c₁) ∧
      readKey c₁ = .ok (member.1, c₂) ∧ readColon c₂ = .ok c₃ ∧
      c₃.skipBlanks = ⟨member.2 ++ text, n'⟩ := by
  obtain ⟨key, hkey, hvalue, gap, gap', hgap, hgap', rfl⟩ := h
  obtain ⟨n₁, hnext⟩ :=
    nextKey_entry hlead (key ++ 0x22 :: (gap ++ 0x3A :: (gap' ++ (member.2 ++ text)))) n
  obtain ⟨n₂, hread⟩ := hkey.reads (gap ++ 0x3A :: (gap' ++ (member.2 ++ text))) (n₁ + 1)
  have hstart : lead ++ (0x22 :: (key ++ 0x22 :: (gap ++ 0x3A :: (gap' ++ member.2))) ++ text) =
      lead ++ 0x22 :: (key ++ 0x22 :: (gap ++ 0x3A :: (gap' ++ (member.2 ++ text)))) := by simp
  rw [hstart]
  refine ⟨_, _, ⟨gap' ++ (member.2 ++ text), n₂ + gap.length + 1⟩, _, hnext, hread, ?_,
    hgap'.skip_entry hvalue.starts text _⟩
  simp only [readColon, hgap.skip (show isBlankByte 0x3A = false by decide), if_true]

/-- What is read as a member is one. -/
theorem isNamed_of_reads {first : Bool} {c c₁ c₂ c₃ : Cursor} {name : String} {v text : List UInt8}
    {n : Nat} (hnext : nextKey first c = .ok (true, c₁)) (hkey : readKey c₁ = .ok (name, c₂))
    (hcolon : readColon c₂ = .ok c₃) (hv : IsValue v) (hvalue : c₃.skipBlanks = ⟨v ++ text, n⟩) :
    ∃ lead entry, Lead first lead ∧ IsNamed (name, v) entry ∧ c.rest = lead ++ (entry ++ text) := by
  obtain ⟨lead, r, hlead, hc, hc₁⟩ := (nextKey_ok hnext).2 rfl
  obtain ⟨key, hspells, hr⟩ := spells_of_readTextBody hkey
  have hr : c₁.rest.drop 1 = key ++ 0x22 :: c₂.rest := hr
  rw [hc₁, List.drop_one, List.tail_cons] at hr
  obtain ⟨gap, hgap, hc₂⟩ := readColon_ok hcolon
  obtain ⟨gap', rest, _, hgap', hc₃, -, hskip⟩ := c₃.skipBlanks_split
  obtain rfl : rest = v ++ text := congrArg Cursor.rest (hskip.symm.trans hvalue)
  refine ⟨lead, 0x22 :: (key ++ 0x22 :: (gap ++ 0x3A :: (gap' ++ v))), hlead,
    ⟨key, hspells, hv, gap, gap', hgap, hgap', rfl⟩, ?_⟩
  rw [hc, hr, hc₂, hc₃]
  simp

/-! ## 2. Members -/

/-- The member is declared. -/
def declares {μ : Type} (fields : List (Field μ)) (member : String × List UInt8) : Bool :=
  (findField member.1 fields).isSome

/-- A member that is taken by the reader it is declared with. -/
def TakesMember {μ : Type} (fields : List (Field μ)) (levels : Nat)
    (member : String × List UInt8) (m : μ) : Prop :=
  ∃ f, findField member.1 fields = some f ∧ Takes f.read levels member.2 m

/-- What the members of an object gather to: the declared ones are taken, each by its reader.
None of them comes twice, or has been seen before. -/
structure Gathers {μ : Type} (fields : List (Field μ)) (levels : Nat) (seen : List String)
    (members : List (String × List UInt8)) (ms : List μ) : Prop where
  distinct : ((members.filter (declares fields)).map Prod.fst).Nodup
  fresh : ∀ name ∈ (members.filter (declares fields)).map Prod.fst, name ∉ seen
  taken : List.Forall₂ (TakesMember fields levels) (members.filter (declares fields)) ms

namespace Gathers

variable {μ : Type} {fields : List (Field μ)} {levels : Nat} {seen : List String}
  {members members' : List (String × List UInt8)} {ms : List μ}

theorem nil : Gathers fields levels seen [] [] where
  distinct := by simp
  fresh := by simp
  taken := .nil

/-- A declared member has not been seen, and is not seen again. -/
theorem cons_declared {f : Field μ} {name : String} {v : List UInt8}
    (hf : findField name fields = some f) :
    Gathers fields levels seen ((name, v) :: members) ms ↔
      name ∉ seen ∧ ∃ m ms', ms = m :: ms' ∧ Takes f.read levels v m ∧
        Gathers fields levels (name :: seen) members ms' := by
  have hdeclares : declares fields (name, v) = true := by simp [declares, hf]
  constructor
  · rintro ⟨hdistinct, hfresh, htaken⟩
    rw [List.filter_cons_of_pos hdeclares] at hdistinct hfresh htaken
    obtain ⟨hlater, hdistinct⟩ := List.nodup_cons.mp hdistinct
    obtain ⟨hname, hfresh⟩ := List.forall_mem_cons.mp hfresh
    cases htaken with
    | @cons _ m _ ms' hm htaken =>
      obtain ⟨f', hf', hm⟩ := hm
      obtain rfl : f = f' := Option.some.inj (hf.symm.trans hf')
      refine ⟨hname, m, ms', rfl, hm, hdistinct, fun name' hname' hseen => ?_, htaken⟩
      rcases List.mem_cons.mp hseen with rfl | hseen
      · exact hlater hname'
      · exact hfresh name' hname' hseen
  · rintro ⟨hname, m, ms', rfl, hm, hdistinct, hfresh, htaken⟩
    refine ⟨?_, ?_, ?_⟩
    · rw [List.filter_cons_of_pos hdeclares, List.map_cons, List.nodup_cons]
      exact ⟨fun hlater => hfresh name hlater List.mem_cons_self, hdistinct⟩
    · rw [List.filter_cons_of_pos hdeclares, List.map_cons, List.forall_mem_cons]
      exact ⟨hname, fun name' hname' hseen =>
        hfresh name' hname' (List.mem_cons_of_mem name hseen)⟩
    · rw [List.filter_cons_of_pos hdeclares]
      exact .cons ⟨f, hf, hm⟩ htaken

/-- A member that is not declared leaves nothing. -/
theorem cons_passed {name : String} {v : List UInt8} (hf : findField name fields = none) :
    Gathers fields levels seen ((name, v) :: members) ms ↔
      Gathers fields levels seen members ms := by
  have hdeclares : ¬ declares fields (name, v) = true := by simp [declares, hf]
  constructor
  · rintro ⟨hdistinct, hfresh, htaken⟩
    rw [List.filter_cons_of_neg hdeclares] at hdistinct hfresh htaken
    exact ⟨hdistinct, hfresh, htaken⟩
  · rintro ⟨hdistinct, hfresh, htaken⟩
    rw [← List.filter_cons_of_neg hdeclares] at hdistinct hfresh htaken
    exact ⟨hdistinct, hfresh, htaken⟩

/-- What is gathered does not depend on the order of the members. -/
theorem perm (h : Gathers fields levels seen members ms) (hperm : members'.Perm members) :
    ∃ ms', Gathers fields levels seen members' ms' ∧ ms'.Perm ms := by
  have hfilter := hperm.filter (declares fields)
  have hnames := hfilter.map Prod.fst
  obtain ⟨ms', htaken, hms⟩ := List.perm_comp_forall₂ hfilter h.taken
  exact ⟨ms', ⟨hnames.nodup_iff.mpr h.distinct,
    fun name hname => h.fresh name (hnames.mem_iff.mp hname), htaken⟩, hms⟩

/-- Members that are not declared change nothing. -/
theorem pass (h : Gathers fields levels seen members ms) {extra : List (String × List UInt8)}
    (hextra : ∀ e ∈ extra, findField e.1 fields = none) :
    Gathers fields levels seen (members ++ extra) ms := by
  have hnone : extra.filter (declares fields) = [] :=
    List.filter_eq_nil_iff.mpr fun e he => by simp [declares, hextra e he]
  refine ⟨?_, ?_, ?_⟩
  · rw [List.filter_append, hnone, List.append_nil]
    exact h.distinct
  · rw [List.filter_append, hnone, List.append_nil]
    exact h.fresh
  · rw [List.filter_append, hnone, List.append_nil]
    exact h.taken

end Gathers

section
variable {μ : Type} {fields : List (Field μ)} {levels : Nat}

theorem findField_mem {name : String} {f : Field μ} (h : findField name fields = some f) :
    f ∈ fields ∧ f.name = name := by
  induction fields with
  | nil => cases h
  | cons g fields ih =>
    unfold findField at h
    split at h
    · rename_i hname
      obtain rfl := Option.some.inj h
      exact ⟨List.mem_cons_self, hname⟩
    · obtain ⟨hmem, hname⟩ := ih h
      exact ⟨List.mem_cons_of_mem g hmem, hname⟩

/-- What is read as the members of an object is listed there, and gathered. -/
theorem readMembers_ok (hread : ∀ f ∈ fields, ReadsValues f.read) {fuel : Nat} {first : Bool}
    {seen : List String} {c c' : Cursor} {ms : List μ}
    (h : readMembers fields levels fuel first seen c = .ok (ms, c')) :
    ∃ members entries left r, List.Forall₂ IsNamed members entries ∧
      Listed 0x7D first entries left ∧ c.rest = left ++ r ∧ c'.rest = 0x7D :: r ∧
      Gathers fields levels seen members ms := by
  induction fuel generalizing first seen c ms with
  | zero => cases h
  | succ fuel ih =>
    unfold readMembers at h
    obtain ⟨⟨more, c₁⟩, hnext, h⟩ := bind_eq_ok.mp h
    have hnext := located_ok hnext
    dsimp only at h
    split at h
    swap
    · rename_i hmore
      obtain ⟨rfl, rfl⟩ := Prod.mk.inj (Except.ok.inj h)
      obtain ⟨gap, r, hgap, hc, hc₁⟩ := (nextKey_ok hnext).1 (by simpa using hmore)
      exact ⟨[], [], gap ++ [0x7D], r, .nil, .closed hgap, by rw [hc]; simp, hc₁, .nil⟩
    rename_i hmore
    subst hmore
    obtain ⟨⟨name, c₂⟩, hkey, h⟩ := bind_eq_ok.mp h
    have hkey := located_ok hkey
    dsimp only at h
    split at h
    · rename_i f hf
      split at h
      · cases h
      rename_i hnew
      obtain ⟨c₃, hcolon, h⟩ := bind_eq_ok.mp h
      obtain ⟨⟨m, c₄⟩, hvalue, h⟩ := bind_eq_ok.mp h
      obtain ⟨⟨ms, c₅⟩, hmembers, h⟩ := bind_eq_ok.mp h
      obtain ⟨rfl, rfl⟩ := Prod.mk.inj (Except.ok.inj h)
      obtain ⟨members, entries, left, r, hnamed, hlisted, hc₄, hc₅, hgathers⟩ := ih hmembers
      have hc₄ : c₄.rest = left ++ r := hc₄
      have hends : EndsNumber c₄.rest := by
        rw [hc₄]
        exact hlisted.endsNumber (Or.inr rfl) r
      obtain ⟨v, n, hv, hskip, htake⟩ :=
        hread f (findField_mem hf).1 _ _ _ _ (located_ok hvalue) hends
      obtain ⟨lead, entry, hlead, hentry, hc⟩ :=
        isNamed_of_reads hnext hkey (located_ok hcolon) hv hskip
      have hseen : name ∉ seen := by simpa using hnew
      exact ⟨(name, v) :: members, entry :: entries, lead ++ (entry ++ left), r,
        .cons hentry hnamed, .entry hlead hlisted, by rw [hc, hc₄]; simp, hc₅,
        (Gathers.cons_declared hf).mpr ⟨hseen, m, ms, rfl, htake, hgathers⟩⟩
    · rename_i hf
      obtain ⟨c₃, hcolon, h⟩ := bind_eq_ok.mp h
      obtain ⟨c₄, hvalue, h⟩ := bind_eq_ok.mp h
      obtain ⟨members, entries, left, r, hnamed, hlisted, hc₄, hc₅, hgathers⟩ := ih h
      obtain ⟨v, n, hv, hskip⟩ := skipValue_ok (located_ok hvalue)
      obtain ⟨lead, entry, hlead, hentry, hc⟩ :=
        isNamed_of_reads hnext hkey (located_ok hcolon) hv hskip
      exact ⟨(name, v) :: members, entry :: entries, lead ++ (entry ++ left), r,
        .cons hentry hnamed, .entry hlead hlisted, by rw [hc, hc₄]; simp, hc₅,
        (Gathers.cons_passed hf).mpr hgathers⟩

/-- The members that are listed are read as what they gather to. -/
theorem readMembers_listed {members : List (String × List UInt8)} {entries : List (List UInt8)}
    (hnamed : List.Forall₂ IsNamed members entries) {first : Bool} {left : List UInt8}
    (hlisted : Listed 0x7D first entries left) {seen : List String} {ms : List μ}
    (hgathers : Gathers fields levels seen members ms) {fuel : Nat}
    (hfuel : entries.length < fuel) (r : List UInt8) (n : Nat) :
    ∃ n', readMembers fields levels fuel first seen ⟨left ++ r, n⟩ = .ok (ms, ⟨0x7D :: r, n'⟩) := by
  induction hnamed generalizing first left seen ms fuel n with
  | nil =>
    obtain ⟨fuel, rfl⟩ : ∃ k, fuel = k + 1 := ⟨fuel - 1, by simp at hfuel; omega⟩
    cases hlisted with
    | @closed _ gap hgap =>
      obtain ⟨n', hnext⟩ := nextKey_closed first hgap r n
      have hstart : gap ++ [0x7D] ++ r = gap ++ 0x7D :: r := by simp
      obtain rfl : ms = [] := by simpa using hgathers.taken
      refine ⟨n', ?_⟩
      simp only [readMembers, hstart, hnext, located, bind, Except.bind, Bool.false_eq_true,
        if_false]
  | @cons member entry members entries hentry _ ih =>
    obtain ⟨name, v⟩ := member
    simp only [List.length_cons] at hfuel
    obtain ⟨fuel, rfl⟩ : ∃ k, fuel = k + 1 := ⟨fuel - 1, by omega⟩
    cases hlisted with
    | @entry _ lead _ left _ hlead hlisted =>
      have hends := hlisted.endsNumber (Or.inr rfl) r
      obtain ⟨c₁, c₂, c₃, n₁, hnext, hkey, hcolon, hvalue⟩ := hentry.reads hlead (left ++ r) n
      cases hf : findField name fields with
      | some f =>
        obtain ⟨hseen, m, ms', rfl, htake, hgathers⟩ := (Gathers.cons_declared hf).mp hgathers
        obtain ⟨n₂, hread⟩ := htake (left ++ r) n₁ c₃ hends hvalue
        obtain ⟨n', hrest⟩ := ih hlisted hgathers (show entries.length < fuel by omega) n₂
        have hnew : seen.contains name = false := by simpa using hseen
        refine ⟨n', ?_⟩
        simp only [readMembers, List.append_assoc, hnext, located, bind, Except.bind, if_true,
          hkey, hf, hnew, Bool.false_eq_true, if_false, hcolon, hread, hrest]
      | none =>
        obtain ⟨n₂, hskip⟩ := hentry.value.skips hends hvalue
        obtain ⟨n', hrest⟩ := ih hlisted ((Gathers.cons_passed hf).mp hgathers)
          (show entries.length < fuel by omega) n₂
        refine ⟨n', ?_⟩
        simp only [readMembers, List.append_assoc, hnext, located, bind, Except.bind, if_true,
          hkey, hf, hcolon, hskip, hrest]

end

/-! ## 3. One object, one reading -/

/-- The members that are listed are read as pairs. -/
theorem readPairs_listed {members : List (String × List UInt8)} {entries : List (List UInt8)}
    (hnamed : List.Forall₂ IsNamed members entries) {first : Bool} {left : List UInt8}
    (hlisted : Listed 0x7D first entries left) {fuel : Nat} (hfuel : entries.length < fuel)
    (r : List UInt8) (n : Nat) :
    ∃ n', readPairs (verbatim 0) fuel first ⟨left ++ r, n⟩ = .ok (members, ⟨0x7D :: r, n'⟩) := by
  induction hnamed generalizing first left fuel n with
  | nil =>
    obtain ⟨fuel, rfl⟩ : ∃ k, fuel = k + 1 := ⟨fuel - 1, by simp at hfuel; omega⟩
    cases hlisted with
    | @closed _ gap hgap =>
      obtain ⟨n', hnext⟩ := nextKey_closed first hgap r n
      have hstart : gap ++ [0x7D] ++ r = gap ++ 0x7D :: r := by simp
      refine ⟨n', ?_⟩
      simp only [readPairs, hstart, hnext, bind, Except.bind, Bool.false_eq_true, if_false]
  | @cons member entry members entries hentry _ ih =>
    simp only [List.length_cons] at hfuel
    obtain ⟨fuel, rfl⟩ : ∃ k, fuel = k + 1 := ⟨fuel - 1, by omega⟩
    cases hlisted with
    | @entry _ lead _ left _ hlead hlisted =>
      have hends := hlisted.endsNumber (Or.inr rfl) r
      obtain ⟨c₁, c₂, c₃, n₁, hnext, hkey, hcolon, hvalue⟩ := hentry.reads hlead (left ++ r) n
      obtain ⟨n₂, hread⟩ := takes_verbatim hentry.value 0 (left ++ r) n₁ c₃ hends hvalue
      obtain ⟨n', hrest⟩ := ih hlisted (show entries.length < fuel by omega) n₂
      refine ⟨n', ?_⟩
      simp only [readPairs, List.append_assoc, hnext, bind, Except.bind, if_true, hkey, hcolon,
        hread, hrest]

/-- A text is an object in one way only. -/
theorem IsObject.unique {members members' : List (String × List UInt8)} {text : List UInt8}
    (h : IsObject members text) (h' : IsObject members' text) : members = members' := by
  obtain ⟨entries, inside, rfl, hnamed, hlisted⟩ := h
  obtain ⟨entries', inside', heq, hnamed', hlisted'⟩ := h'
  obtain rfl : inside = inside' := (List.cons.inj heq).2
  have hfuel : entries.length < entries.length + entries'.length + 1 := by omega
  have hfuel' : entries'.length < entries.length + entries'.length + 1 := by omega
  obtain ⟨n, hread⟩ := readPairs_listed hnamed hlisted hfuel [] 0
  obtain ⟨n', hread'⟩ := readPairs_listed hnamed' hlisted' hfuel' [] 0
  exact congrArg Prod.fst (Except.ok.inj (hread.symm.trans hread'))

theorem IsObject.values {members : List (String × List UInt8)} {text : List UInt8}
    (h : IsObject members text) : ∀ m ∈ members, IsValue m.2 := by
  obtain ⟨entries, inside, rfl, hnamed, -⟩ := h
  have hvalues : List.Forall₂ (fun m e => IsValue m.2 ∧ IsNamed m e) members entries :=
    hnamed.imp fun m e hentry => ⟨hentry.value, hentry⟩
  exact ((List.forall₂_and_left members entries).mp hvalues).1

/-! ## 4. Records -/

section
variable {μ α : Type} (r : Record μ α) {levels : Nat} {text : List UInt8} {a : α}

/-- What makes up a record: members that are gathered, in an object, or values in the declared
order, in a list. -/
inductive Makes (levels : Nat) : List UInt8 → α → Prop
  | object {members : List (String × List UInt8)} {text : List UInt8} {ms : List μ} {a : α}
      (hobject : IsObject members text) (hgathers : Gathers r.fields levels [] members ms)
      (hassemble : r.assemble ms = .ok a) : Makes levels text a
  | list {items : List (List UInt8)} {text : List UInt8} {ms : List μ} {a : α}
      (hlist : IsList items text) (hplaces : Places levels r.fields items ms)
      (hassemble : r.assemble ms = .ok a) : Makes levels text a

theorem settle_ok {β : Type} {close : Cursor → Except Failure Unit × Cursor} {x : Except Trouble β}
    {b : β} (h : settle close x = .ok b) : x = .ok b := by
  cases x with
  | error trouble => cases trouble <;> cases h
  | ok b' => exact congrArg Except.ok (Except.ok.inj h)

theorem build_ok {ms : List μ} {c c' : Cursor} (h : r.build ms c = .ok (a, c')) :
    r.assemble ms = .ok a ∧ c' = c := by
  unfold Record.build at h
  split at h
  · rename_i hassemble
    obtain ⟨rfl, rfl⟩ := Prod.mk.inj (Except.ok.inj h)
    exact ⟨hassemble, rfl⟩
  · cases h

/-- What is read as a record is made up of its members. -/
theorem Record.reader_ok (hread : ∀ f ∈ r.fields, ReadsValues f.read) {c c' : Cursor}
    (h : r.reader levels c = .ok (a, c')) :
    1 < levels ∧ ∃ text n, c.skipBlanks = ⟨text ++ c'.rest, n⟩ ∧ Makes r (levels - 1) text a := by
  obtain ⟨gap, rest, n, -, -, -, hskip⟩ := c.skipBlanks_split
  simp only [Record.reader, hskip] at h
  split at h
  · cases h
  rename_i b r'
  split at h
  · rename_i hb
    subst hb
    split at h
    · cases h
    rename_i hdeep
    obtain ⟨⟨a', rest₁, n₁⟩, hinside, hclosed⟩ := bind_eq_ok.mp h
    obtain ⟨⟨ms, c₁⟩, hmembers, hbuild⟩ := bind_eq_ok.mp (settle_ok hinside)
    obtain ⟨hassemble, hc₁⟩ := build_ok r hbuild
    obtain ⟨members, entries, left, r₁, hnamed, hlisted, hr, hrest₁, hgathers⟩ :=
      readMembers_ok hread hmembers
    subst hc₁
    obtain rfl : rest₁ = 0x7D :: r₁ := hrest₁
    obtain rfl : r' = left ++ r₁ := hr
    obtain ⟨n', hclose⟩ := closeObject_closed isBlanks_nil r₁ n₁
    rw [List.nil_append] at hclose
    simp only [hclose, bind, Except.bind] at hclosed
    obtain ⟨rfl, rfl⟩ := Prod.mk.inj (Except.ok.inj hclosed)
    exact ⟨by omega, 0x7B :: left, n, hskip,
      .object ⟨entries, left, rfl, hnamed, hlisted⟩ hgathers hassemble⟩
  split at h
  · rename_i hb
    subst hb
    split at h
    · cases h
    rename_i hdeep
    obtain ⟨⟨a', c₁⟩, hinside, hclosed⟩ := bind_eq_ok.mp h
    obtain ⟨⟨ms, c₂⟩, hmembers, hbuild⟩ := bind_eq_ok.mp (settle_ok hinside)
    obtain ⟨hassemble, hc₁⟩ := build_ok r hbuild
    subst hc₁
    cases hclose : closeList c₁ with
    | mk closed c₂ =>
      simp only [hclose] at hclosed
      obtain ⟨⟨⟩, rfl, hclosed⟩ := bind_eq_ok.mp hclosed
      obtain ⟨rfl, rfl⟩ := Prod.mk.inj (Except.ok.inj hclosed)
      obtain ⟨gap', hgap', hc₁⟩ := closeList_ok hclose
      obtain ⟨items, left, hlisted, hr, hplaces⟩ := readPositional_ok _ hread hmembers hgap' hc₁
      obtain rfl : r' = left ++ c₂.rest := hr
      exact ⟨by omega, 0x5B :: left, n, hskip,
        .list ⟨left, rfl, hplaces.values, hlisted⟩ hplaces hassemble⟩
  · exact absurd h wrongType_ne_ok

/-- What is made up of members is taken for the record. -/
theorem Makes.takes (hlevels : 1 < levels) (h : Makes r (levels - 1) text a) :
    Takes r.reader levels text a := by
  intro rest n c _ hc
  have hdeep : ¬ levels ≤ 1 := by omega
  cases h with
  | object hobject hgathers hassemble =>
    obtain ⟨entries, inside, rfl, hnamed, hlisted⟩ := hobject
    have hlength := hlisted.length_le
    simp only [if_true] at hlength
    obtain ⟨n₁, hmembers⟩ := readMembers_listed hnamed hlisted hgathers
      (show entries.length < (inside ++ rest).length + 1 by rw [List.length_append]; omega) rest
      (n + 1)
    obtain ⟨n', hclose⟩ := closeObject_closed isBlanks_nil rest n₁
    rw [List.nil_append] at hclose
    rw [List.cons_append] at hc
    refine ⟨n', ?_⟩
    simp only [Record.reader, hc, if_true, if_neg hdeep, hmembers, bind, Except.bind, Record.build,
      hassemble, settle, hclose]
  | list hlist hplaces hassemble =>
    obtain ⟨inside, rfl, -, hlisted⟩ := hlist
    have hlisted : Listed 0x5D (0 == 0) _ inside := hlisted
    obtain ⟨gap, n₁, hgap, hmembers⟩ :=
      readPositional_listed r.expectedLength hplaces hlisted rest (n + 1)
    obtain ⟨n', hclose⟩ := closeList_closed hgap rest n₁
    have hother : (0x5B : UInt8) ≠ 0x7B := by decide
    rw [List.cons_append] at hc
    refine ⟨n', ?_⟩
    simp only [Record.reader, hc, if_neg hother, if_true, if_neg hdeep, hmembers, bind, Except.bind,
      Record.build, hassemble, settle, hclose]

theorem Makes.isValue (h : Makes r levels text a) : IsValue text := by
  cases h with
  | object hobject => exact hobject.isValue
  | list hlist => exact hlist.isValue

/-- A record is read the same wherever it stands. -/
theorem ReadsValues.record (hread : ∀ f ∈ r.fields, ReadsValues f.read) :
    ReadsValues r.reader := by
  intro levels c a c' h _
  obtain ⟨hlevels, text, n, hskip, hmakes⟩ := r.reader_ok hread h
  exact ⟨text, n, hmakes.isValue, hskip, hmakes.takes r hlevels⟩

/-- What is taken for a record is what it is made up of. -/
theorem Takes.record_iff (hread : ∀ f ∈ r.fields, ReadsValues f.read) (hv : IsValue text) :
    Takes r.reader levels text a ↔ 1 < levels ∧ Makes r (levels - 1) text a := by
  constructor
  · intro h
    have hplace := hv.skipBlanks [] 0
    obtain ⟨n', hok⟩ := h [] 0 _ endsNumber_nil hplace
    obtain ⟨hlevels, text', n, hskip, hmakes⟩ := r.reader_ok hread hok
    obtain rfl : text = text' := by
      have hsame : text ++ [] = text' ++ [] := congrArg Cursor.rest (hplace.symm.trans hskip)
      simpa using hsame
    exact ⟨hlevels, hmakes⟩
  · rintro ⟨hlevels, hmakes⟩
    exact hmakes.takes r hlevels

/-- What an object makes up is what its members gather to. -/
theorem Makes.object_iff {members : List (String × List UInt8)} (hobject : IsObject members text) :
    Makes r levels text a ↔
      ∃ ms, Gathers r.fields levels [] members ms ∧ r.assemble ms = .ok a := by
  constructor
  · intro h
    cases h with
    | object hobject' hgathers hassemble =>
      obtain rfl := hobject.unique hobject'
      exact ⟨_, hgathers, hassemble⟩
    | list hlist =>
      obtain ⟨_, _, rfl, -⟩ := hobject
      obtain ⟨_, heq, -⟩ := hlist
      cases heq
  · rintro ⟨ms, hgathers, hassemble⟩
    exact .object hobject hgathers hassemble

end

end CoachClient.Json
