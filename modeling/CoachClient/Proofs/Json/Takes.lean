/-
CoachClient.Proofs.Json.Takes — a reader takes a value for the same wherever it stands.

* `Takes` — the reader takes a text for a value, before anything that does not go on with a
  number.
* `ReadsValues` — whatever a reader takes is a value of the grammar, and it takes that value
  for the same everywhere. There is one rule for each reader of the wire types.
* `Takes.of_ok` — so what is taken once, where a value stands, is taken everywhere.
* `Takes.functional` — and for nothing else.

A reader stops where its value ends without having looked for the end beforehand. That it
stops where the grammar ends the value is what makes it possible to move values about.
-/
import CoachClient.Json.Record
import CoachClient.Proofs.Json.Skip

namespace CoachClient.Json

open CoachClient.Text

/-- The reader takes the text for `a`, wherever it stands. -/
def Takes {α : Type} (read : Reader α) (levels : Nat) (text : List UInt8) (a : α) : Prop :=
  ∀ rest n c, EndsNumber rest → c.skipBlanks = ⟨text ++ rest, n⟩ →
    ∃ n', read levels c = .ok (a, ⟨rest, n'⟩)

/-- Whatever the reader takes is a value, and it takes that value for the same wherever it
stands. -/
def ReadsValues {α : Type} (read : Reader α) : Prop :=
  ∀ levels c a c', read levels c = .ok (a, c') → EndsNumber c'.rest →
    ∃ v n, IsValue v ∧ c.skipBlanks = ⟨v ++ c'.rest, n⟩ ∧ Takes read levels v a

/-! ## 1. What is taken -/

/-- Blanks are passed over once. -/
theorem Cursor.skipBlanks_skipBlanks (c : Cursor) : c.skipBlanks.skipBlanks = c.skipBlanks := by
  obtain ⟨gap, rest, n, -, -, hrest, hskip⟩ := c.skipBlanks_split
  rw [hskip]
  exact passWhile_of_not hrest n

theorem IsValue.skipBlanks {v : List UInt8} (hv : IsValue v) (rest : List UInt8) (n : Nat) :
    (⟨v ++ rest, n⟩ : Cursor).skipBlanks = ⟨v ++ rest, n⟩ := by
  obtain ⟨b, r, rfl, hb⟩ := hv.starts
  exact Cursor.skipBlanks_of_not hb.1 _ _

section
variable {α : Type} {read : Reader α} {levels : Nat} {v : List UInt8} {a : α}

/-- What is taken once, where a value stands, is taken wherever it stands. -/
theorem Takes.of_ok (h : ReadsValues read) (hv : IsValue v) {c c' : Cursor} {rest : List UInt8}
    {n : Nat} (hc : c.skipBlanks = ⟨v ++ rest, n⟩) (hrest : EndsNumber rest)
    (hread : read levels c = .ok (a, c')) (hends : EndsNumber c'.rest) :
    c'.rest = rest ∧ Takes read levels v a := by
  obtain ⟨w, n', hw, hskip, htakes⟩ := h levels c a c' hread hends
  have hsame : v ++ rest = w ++ c'.rest := congrArg Cursor.rest (hc.symm.trans hskip)
  obtain ⟨rfl, hleft⟩ := hv.unique hw hrest hends hsame
  exact ⟨hleft.symm, htakes⟩

/-- A text is taken for one thing only. -/
theorem Takes.functional {a' : α} (hv : IsValue v) (h : Takes read levels v a)
    (h' : Takes read levels v a') : a = a' := by
  obtain ⟨n, hread⟩ := h [] 0 _ endsNumber_nil (hv.skipBlanks [] 0)
  obtain ⟨n', hread'⟩ := h' [] 0 _ endsNumber_nil (hv.skipBlanks [] 0)
  exact congrArg Prod.fst (Except.ok.inj (hread.symm.trans hread'))

end

/-! ## 2. Plain values -/

theorem wrongType_eq_error (α : Type) (expected : String) (c : Cursor) :
    ∃ failure, (wrongType expected c : Except Failure α) = .error failure := by
  unfold wrongType
  cases readFound c with
  | error failure => exact ⟨failure, rfl⟩
  | ok found => exact ⟨_, rfl⟩

theorem wrongType_ne_ok {α : Type} {expected : String} {c : Cursor} {a : α} :
    wrongType expected c ≠ .ok a := by
  obtain ⟨failure, h⟩ := wrongType_eq_error α expected c
  rw [h]
  exact nofun

/-- A text that is read is a value, and is read the same wherever it stands. -/
theorem quoted_value {r : List UInt8} {n : Nat} {s : String} {c' : Cursor}
    (h : readTextBody ⟨r, n⟩ = .ok (s, c')) :
    ∃ v, IsValue v ∧ 0x22 :: r = v ++ c'.rest ∧ ∀ rest, ∃ r', v ++ rest = 0x22 :: r' ∧
      ∀ n, ∃ n', readTextBody ⟨r', n⟩ = .ok (s, ⟨rest, n'⟩) := by
  obtain ⟨body, hbody, hr⟩ := spells_of_readTextBody h
  have hr : r = body ++ 0x22 :: c'.rest := hr
  exact ⟨0x22 :: (body ++ [0x22]), .text hbody.isTextBody, by rw [hr]; simp,
    fun rest => ⟨body ++ 0x22 :: rest, by simp, hbody.reads rest⟩⟩

/-- A word that is read is read wherever it stands. -/
theorem word_value {b : UInt8} {word r : List UInt8} {n : Nat} {c' : Cursor}
    (h : readWord word ⟨r, n⟩ = .ok c') :
    b :: r = b :: word ++ c'.rest ∧
      ∀ rest n, ∃ n', readWord word ⟨word ++ rest, n⟩ = .ok ⟨rest, n'⟩ := by
  have hr : r = word ++ c'.rest := readWord_ok h
  exact ⟨by rw [hr]; rfl, readWord_self word⟩

/-- What accepts a number does not look at the place. -/
def AnyPlace {α : Type} (accept : Number → Cursor → Except Failure (α × Cursor)) : Prop :=
  ∀ x c a c', accept x c = .ok (a, c') → c' = c ∧ ∀ c₂, accept x c₂ = .ok (a, c₂)

namespace ReadsValues

theorem text : ReadsValues Reader.text := by
  intro levels c s c' h hends
  obtain ⟨gap, rest, n, -, -, -, hskip⟩ := c.skipBlanks_split
  simp only [Reader.text, hskip] at h
  split at h
  · cases h
  rename_i b r
  split at h
  · rename_i hb
    subst hb
    obtain ⟨v, hv, hr, hagain⟩ := quoted_value h
    refine ⟨v, n, hv, by rw [hskip, hr], fun rest n c _ hc => ?_⟩
    obtain ⟨r', hstart, hread⟩ := hagain rest
    rw [hstart] at hc
    obtain ⟨n', hread⟩ := hread (n + 1)
    exact ⟨n', by simp only [Reader.text, hc, if_true, hread]⟩
  · exact absurd h wrongType_ne_ok

/-- A text with a content of its own. -/
theorem content {α : Type} (expected : String) (parse : String → Except String α) :
    ReadsValues (Reader.content expected parse) := by
  intro levels c a c' h hends
  obtain ⟨gap, rest, n, -, -, -, hskip⟩ := c.skipBlanks_split
  simp only [Reader.content, hskip] at h
  split at h
  · cases h
  rename_i b r
  split at h
  · rename_i hb
    subst hb
    obtain ⟨⟨s, next⟩, hread, h⟩ := bind_eq_ok.mp h
    dsimp only at h
    split at h
    · rename_i a' hparse
      obtain ⟨rfl, rfl⟩ := Prod.mk.inj (Except.ok.inj h)
      obtain ⟨v, hv, hr, hagain⟩ := quoted_value hread
      refine ⟨v, n, hv, by rw [hskip, hr], fun rest n c _ hc => ?_⟩
      obtain ⟨r', hstart, hread⟩ := hagain rest
      rw [hstart] at hc
      obtain ⟨n', hread⟩ := hread (n + 1)
      exact ⟨n', by simp only [Reader.content, hc, if_true, hread, bind, Except.bind, hparse]⟩
    · cases h
  · exact absurd h wrongType_ne_ok

theorem numeral {α : Type} (expected : String)
    {accept : Number → Cursor → Except Failure (α × Cursor)} (haccept : AnyPlace accept) :
    ReadsValues fun _ => readNumeral expected accept := by
  intro levels c a c' h hends
  obtain ⟨gap, rest, n, -, -, -, hskip⟩ := c.skipBlanks_split
  simp only [readNumeral, hskip] at h
  split at h
  · cases h
  rename_i b r
  split at h
  · rename_i hb
    subst hb
    obtain ⟨⟨x, next⟩, hread, h⟩ := bind_eq_ok.mp h
    obtain ⟨rfl, hagain⟩ := haccept x next a c' h
    obtain ⟨m, hr, hm, hread⟩ := readNumber_consumes true _ _ _ hread
    have hr : r = m ++ c'.rest := hr
    refine ⟨0x2D :: m, n, .negative hm, by rw [hskip, hr]; rfl, fun rest n c hrest hc => ?_⟩
    obtain ⟨n', hread⟩ := hread rest (n + 1) hrest
    rw [List.cons_append] at hc
    exact ⟨n', by simp only [readNumeral, hc, if_true, hread, bind, Except.bind, hagain]⟩
  rename_i hminus
  split at h
  · rename_i hb
    obtain ⟨⟨x, next⟩, hread, h⟩ := bind_eq_ok.mp h
    obtain ⟨rfl, hagain⟩ := haccept x next a c' h
    obtain ⟨m, hr, hm, hread⟩ := readNumber_consumes false _ _ _ hread
    have hr : b :: r = m ++ c'.rest := hr
    refine ⟨m, n, .number hm, by rw [hskip, hr], fun rest n c hrest hc => ?_⟩
    obtain ⟨n', hread⟩ := hread rest n hrest
    obtain ⟨d, m', rfl, hd⟩ := hm.starts
    obtain ⟨-, hminus, -⟩ := not_digitByte hd
    rw [List.cons_append] at hc hread
    refine ⟨n', ?_⟩
    simp only [readNumeral, hc, if_neg hminus, hd, if_true, hread, bind, Except.bind, hagain]
  · exact absurd h wrongType_ne_ok

theorem integer {α : Type} (expected : String) (fits : Int → Option α) :
    ReadsValues (readInteger expected fits) := by
  refine numeral expected ?_
  intro x c a c' h
  dsimp only at h
  split at h
  · split at h
    · obtain ⟨rfl, rfl⟩ := Prod.mk.inj (Except.ok.inj h)
      rename_i hfits
      exact ⟨rfl, fun c₂ => by simp only [hfits]⟩
    · cases h
  · cases h

theorem word32 : ReadsValues Reader.word32 := integer _ _

theorem word64 : ReadsValues Reader.word64 := integer _ _

theorem signed64 : ReadsValues Reader.signed64 := integer _ _

theorem bool : ReadsValues Reader.bool := by
  intro levels c a c' h hends
  obtain ⟨gap, rest, n, -, -, -, hskip⟩ := c.skipBlanks_split
  simp only [Reader.bool, hskip] at h
  split at h
  · cases h
  rename_i b r
  split at h
  · rename_i hb
    subst hb
    obtain ⟨c₁, hword, heq⟩ := map_eq_ok.mp h
    obtain ⟨rfl, rfl⟩ := Prod.mk.inj heq
    obtain ⟨hr, hagain⟩ := word_value (b := 0x74) hword
    refine ⟨_, n, .yes, by rw [hskip, hr], fun rest n c _ hc => ?_⟩
    obtain ⟨n', hword⟩ := hagain rest (n + 1)
    rw [List.cons_append] at hc
    exact ⟨n', by simp only [Reader.bool, hc, if_true, hword, Except.map]⟩
  rename_i htrue
  split at h
  · rename_i hb
    subst hb
    obtain ⟨c₁, hword, heq⟩ := map_eq_ok.mp h
    obtain ⟨rfl, rfl⟩ := Prod.mk.inj heq
    obtain ⟨hr, hagain⟩ := word_value (b := 0x66) hword
    refine ⟨_, n, .no, by rw [hskip, hr], fun rest n c _ hc => ?_⟩
    obtain ⟨n', hword⟩ := hagain rest (n + 1)
    rw [List.cons_append] at hc
    exact ⟨n', by simp only [Reader.bool, hc, if_neg htrue, if_true, hword, Except.map]⟩
  · exact absurd h wrongType_ne_ok

/-- A value or `null`. -/
theorem optional {α : Type} {read : Reader α} (hread : ReadsValues read) :
    ReadsValues (Reader.optional read) := by
  intro levels c a c' h hends
  obtain ⟨gap, rest, n, -, -, -, hskip⟩ := c.skipBlanks_split
  simp only [Reader.optional, hskip] at h
  split at h
  · -- nothing is left, and so there is no value
    obtain ⟨⟨a', c₁⟩, hinner, heq⟩ := map_eq_ok.mp h
    obtain ⟨v, n', hv, hskip', -⟩ := hread _ _ _ _ hinner (by
      obtain ⟨-, rfl⟩ := Prod.mk.inj heq
      exact hends)
    obtain ⟨b, r, rfl, -⟩ := hv.starts
    cases hskip'
  rename_i b r
  split at h
  · rename_i hb
    subst hb
    obtain ⟨c₁, hword, heq⟩ := map_eq_ok.mp h
    obtain ⟨rfl, rfl⟩ := Prod.mk.inj heq
    obtain ⟨hr, hagain⟩ := word_value (b := 0x6E) hword
    refine ⟨_, n, .null, by rw [hskip, hr], fun rest n c _ hc => ?_⟩
    obtain ⟨n', hword⟩ := hagain rest (n + 1)
    rw [List.cons_append] at hc
    exact ⟨n', by simp only [Reader.optional, hc, if_true, hword, Except.map]⟩
  · rename_i hnull
    obtain ⟨⟨a', c₁⟩, hinner, heq⟩ := map_eq_ok.mp h
    obtain ⟨rfl, rfl⟩ := Prod.mk.inj heq
    obtain ⟨v, n', hv, hskip', htakes⟩ := hread _ _ _ _ hinner hends
    rw [← hskip, Cursor.skipBlanks_skipBlanks] at hskip'
    have hstart : b :: r = v ++ c₁.rest := congrArg Cursor.rest (hskip.symm.trans hskip')
    refine ⟨v, n', hv, hskip', fun rest n c hrest hc => ?_⟩
    obtain ⟨n₂, hinner⟩ := htakes rest n c.skipBlanks hrest (by rw [c.skipBlanks_skipBlanks, hc])
    obtain ⟨d, v', rfl, -⟩ := hv.starts
    obtain ⟨rfl, -⟩ : b = d ∧ _ := List.cons.inj hstart
    rw [List.cons_append] at hc
    rw [hc] at hinner
    exact ⟨n₂, by simp only [Reader.optional, hc, if_neg hnull, hinner, Except.map]⟩

/-- A declared member is read as its value is. -/
theorem field {μ β : Type} {read : Reader β} (hread : ReadsValues read) (name : String)
    (tag : β → μ) (mayEnd : Bool) : ReadsValues (Field.of name read tag mayEnd).read := by
  intro levels c a c' h hends
  obtain ⟨⟨b, c₁⟩, hinner, heq⟩ := map_eq_ok.mp h
  obtain ⟨rfl, rfl⟩ := Prod.mk.inj heq
  obtain ⟨v, n, hv, hskip, htakes⟩ := hread _ _ _ _ hinner hends
  refine ⟨v, n, hv, hskip, fun rest n c hrest hc => ?_⟩
  obtain ⟨n', hinner⟩ := htakes rest n c hrest hc
  exact ⟨n', by simp only [Field.of, hinner, Except.map]⟩

end ReadsValues

end CoachClient.Json
