/-
CoachClient.Proofs.Json.Values — values that are written without blanks read back.

* `Value.Within` — a value whose numbers are integers of 64 bits and that does not
  open more than some levels.
* `readItems_text`, `readPairs_text` — the items of a list and the members of an
  object are read as they are left to be read.
* `Value.Within.reads` — such a value reads back with its members in order, by
  induction on its levels.
* `sortedMembers_perm` — members with different keys are only put in another order.
* `decode_flat`, `Record.decode_sorted` — so an object of plain values that is put in
  order and written reads back with the same members, as a value and as a record.
* `SameParts`, `sameParts_of_perm` — parts of different kinds are found in any order.
-/
import CoachClient.Proofs.Json.Members
import Mathlib.Data.List.Perm.Basic

namespace CoachClient.Json

open CoachClient.Text CoachClient.Text.Utf8

/-! ## 1. Values of some levels -/

/-- The numbers of the value are integers of 64 bits, and a reader needs no more than
`depth` levels for it. -/
inductive Value.Within : (depth : Nat) → Value → Prop
  | null (depth : Nat) : Within (depth + 1) .null
  | bool (depth : Nat) (b : Bool) : Within (depth + 1) (.bool b)
  | integer (depth : Nat) {i : Int} (hi : InWords i) : Within (depth + 1) (.ofInt i)
  | text (depth : Nat) (s : String) : Within (depth + 1) (.text s)
  | list {depth : Nat} {items : List Value} (h : ∀ v ∈ items, Within (depth + 1) v) :
      Within (depth + 2) (.list items)
  | object {depth : Nat} {members : List (String × Value)}
      (h : ∀ m ∈ members, Within (depth + 1) m.2) : Within (depth + 2) (.object members)

/-- The text begins with a value, and not with the end of a list. -/
def StartsItem (text : List Char) : Prop :=
  ∀ rest, ∃ b r, encodeAll text ++ rest = b :: r ∧ isBlankByte b = false ∧ b ≠ 0x5D

theorem Value.Within.startsItem {depth : Nat} {v : Value} (h : v.Within depth) :
    StartsItem v.compactChars := by
  intro rest
  cases h with
  | null depth => exact ⟨0x6E, _, rfl, by decide, by decide⟩
  | bool depth b =>
    cases b with
    | true => exact ⟨0x74, _, rfl, by decide, by decide⟩
    | false => exact ⟨0x66, _, rfl, by decide, by decide⟩
  | @integer depth i hi =>
    obtain ⟨b, r, hfirst, hb⟩ := signed_start hi rest
    refine ⟨b, r, hfirst, ?_⟩
    rcases hb with rfl | hdigit
    · decide
    · obtain ⟨hblank, -, -, -, -, hbracket⟩ := not_digitByte hdigit
      exact ⟨hblank, hbracket⟩
  | text depth s => exact ⟨_, _, encodeAll_quote s rest, by decide, by decide⟩
  | list h => exact ⟨0x5B, _, rfl, by decide, by decide⟩
  | object h => exact ⟨0x7B, _, rfl, by decide, by decide⟩

/-! ## 2. Items -/

/-- The items of a list that are left to be read. -/
def itemsText : (first : Bool) → List (List Char) → List Char
  | _, [] => [']']
  | first, text :: texts => separator first ++ text ++ itemsText false texts

theorem compactItems_eq (items : List Value) :
    compactItems items = itemsText true (items.map Value.compactChars) := by
  induction items with
  | nil => rfl
  | cons v items ih =>
    cases items with
    | nil => simp [compactItems, itemsText, separator]
    | cons v' items =>
      rw [compactItems, ih]
      · simp [itemsText, separator]
      · exact List.cons_ne_nil v' items

theorem length_lt_itemsText (texts : List (List Char)) :
    texts.length < (encodeAll (itemsText false texts)).length := by
  induction texts with
  | nil => exact Nat.one_pos
  | cons text texts ih =>
    have hcomma : (encodeAll (separator false)).length = 1 := rfl
    simp only [itemsText, encodeAll_append, List.length_append, hcomma, List.length_cons]
    omega

theorem length_le_itemsText (texts : List (List Char)) :
    texts.length ≤ (encodeAll (itemsText true texts)).length := by
  cases texts with
  | nil => exact Nat.zero_le _
  | cons text texts =>
    have hrest := length_lt_itemsText texts
    simp only [itemsText, encodeAll_append, List.length_append, List.length_cons]
    omega

theorem endsNumber_itemsText (texts : List (List Char)) (rest : List UInt8) :
    EndsNumber (encodeAll (itemsText false texts) ++ rest) := by
  cases texts with
  | nil => exact endsNumber_cons (by decide) _
  | cons text texts => exact endsNumber_cons (b := 0x2C) (by decide) _

theorem nextItem_end (first : Bool) (rest : List UInt8) (n : Nat) :
    nextItem first ⟨0x5D :: rest, n⟩ = .ok (false, ⟨0x5D :: rest, n⟩) := by
  simp only [nextItem, Cursor.skipBlanks_of_not (show isBlankByte 0x5D = false by decide), if_true]

/-- An item that begins here, or behind a comma. -/
theorem nextItem_item {text : List Char} (h : StartsItem text) (first : Bool) (rest : List UInt8)
    (n : Nat) :
    ∃ n', nextItem first ⟨encodeAll (separator first ++ text) ++ rest, n⟩ =
      .ok (true, ⟨encodeAll text ++ rest, n'⟩) := by
  obtain ⟨b, r, hfirst, hblank, hbracket⟩ := h rest
  cases first with
  | true =>
    refine ⟨n, ?_⟩
    simp only [separator, if_true, List.nil_append, hfirst, nextItem,
      Cursor.skipBlanks_of_not hblank, if_neg hbracket, Bool.not_true, Bool.and_false,
      Bool.false_eq_true, if_false]
  | false =>
    have hcomma : encodeAll (separator false ++ text) ++ rest = 0x2C :: b :: r := by
      rw [encodeAll_append, List.append_assoc, hfirst]
      rfl
    refine ⟨n + 1, ?_⟩
    have hother : (0x2C : UInt8) ≠ 0x5D := by decide
    simp only [hcomma, hfirst, nextItem,
      Cursor.skipBlanks_of_not (show isBlankByte 0x2C = false by decide), if_neg hother,
      Cursor.skipBlanks_of_not hblank, if_neg hbracket, decide_true,
      Bool.not_false, Bool.and_self, if_true]

section
variable {α : Type} {depth levels : Nat} {read : Reader α}

/-- From the items that are left to be read, they are read. -/
theorem readItems_text {texts : List (List Char)} {as : List α}
    (h : List.Forall₂ (fun text a => StartsItem text ∧ Reads depth read text a) texts as)
    (hlevels : depth ≤ levels) (fuel : Nat) (first : Bool) (rest : List UInt8) (n : Nat)
    (hfuel : texts.length < fuel) :
    ∃ n', readItems (read levels) fuel first ⟨encodeAll (itemsText first texts) ++ rest, n⟩ =
      .ok (as, ⟨0x5D :: rest, n'⟩) := by
  induction h generalizing fuel first n with
  | nil =>
    obtain ⟨fuel, rfl⟩ : ∃ k, fuel = k + 1 := ⟨fuel - 1, by simp at hfuel; omega⟩
    have hend : encodeAll (itemsText first []) ++ rest = 0x5D :: rest := rfl
    refine ⟨n, ?_⟩
    simp only [readItems, hend, nextItem_end, bind, Except.bind, Bool.false_eq_true, if_false]
  | @cons text a texts as hitem _ ih =>
    obtain ⟨hstart, hreads⟩ := hitem
    simp only [List.length_cons] at hfuel
    obtain ⟨fuel, rfl⟩ : ∃ k, fuel = k + 1 := ⟨fuel - 1, by omega⟩
    have hsplit : encodeAll (itemsText first (text :: texts)) ++ rest =
        encodeAll (separator first ++ text) ++ (encodeAll (itemsText false texts) ++ rest) := by
      simp [itemsText]
    obtain ⟨n₁, hnext⟩ := nextItem_item hstart first (encodeAll (itemsText false texts) ++ rest) n
    obtain ⟨n₂, hread⟩ := hreads levels (encodeAll (itemsText false texts) ++ rest) n₁ hlevels
      (endsNumber_itemsText texts rest) _ rfl
    obtain ⟨n', hrest⟩ := ih fuel false n₂ (by omega)
    refine ⟨n', ?_⟩
    simp only [readItems, hsplit, hnext, bind, Except.bind, if_true, hread, hrest]

/-- A list after its opening bracket. -/
theorem readListBody_text {texts : List (List Char)} {as : List α}
    (h : List.Forall₂ (fun text a => StartsItem text ∧ Reads depth read text a) texts as)
    (hlevels : depth ≤ levels) (rest : List UInt8) (n : Nat) :
    ∃ n', readListBody (read levels) ⟨encodeAll (itemsText true texts) ++ rest, n⟩ =
      .ok (as, ⟨rest, n'⟩) := by
  have hfuel : texts.length < (encodeAll (itemsText true texts) ++ rest).length + 1 := by
    have := length_le_itemsText texts
    rw [List.length_append]
    omega
  obtain ⟨n', hitems⟩ := readItems_text h hlevels _ true rest n hfuel
  refine ⟨n' + 1, ?_⟩
  simp only [readListBody, hitems, bind, Except.bind, closeList,
    Cursor.skipBlanks_of_not (show isBlankByte 0x5D = false by decide), if_true]

/-! ## 3. Pairs -/

/-- From the members that are left to be read, they are read as pairs. -/
theorem readPairs_text {members : List (String × List Char)} {pairs : List (String × α)}
    (h : List.Forall₂ (fun m p => m.1 = p.1 ∧ Reads depth read m.2 p.2) members pairs)
    (hlevels : depth ≤ levels) (l : Layout) (fuel : Nat) (first : Bool) (rest : List UInt8) (n : Nat)
    (hfuel : members.length < fuel) :
    ∃ n', readPairs (read levels) fuel first ⟨encodeAll (membersText l first members) ++ rest, n⟩ =
      .ok (pairs, ⟨0x7D :: rest, n'⟩) := by
  induction h generalizing fuel first n with
  | nil =>
    obtain ⟨fuel, rfl⟩ : ∃ k, fuel = k + 1 := ⟨fuel - 1, by simp at hfuel; omega⟩
    obtain ⟨n', hend⟩ := nextKey_end l first rest n
    refine ⟨n', ?_⟩
    simp only [readPairs, hend, bind, Except.bind, Bool.false_eq_true, if_false]
  | @cons m p members pairs hmember _ ih =>
    obtain ⟨k, text⟩ := m
    obtain ⟨k', a⟩ := p
    obtain ⟨rfl, hreads⟩ : k = k' ∧ Reads depth read text a := hmember
    simp only [List.length_cons] at hfuel
    obtain ⟨fuel, rfl⟩ : ∃ k, fuel = k + 1 := ⟨fuel - 1, by omega⟩
    obtain ⟨c₁, c₂, c₃, n₁, hnext, hkey, hcolon, hvalue⟩ :=
      member_value hreads hlevels l first k members rest n
    obtain ⟨n', hrest⟩ := ih fuel false n₁ (by omega)
    refine ⟨n', ?_⟩
    simp only [readPairs, hnext, bind, Except.bind, if_true, hkey, hcolon, hvalue, hrest]

end

/-! ## 4. Order -/

theorem sortedItems_eq (items : List Value) : sortedItems items = items.map Value.sorted := by
  induction items with
  | nil => simp [sortedItems]
  | cons v items ih => simp [sortedItems, ih]

theorem sortedMembers_eq (members done : List (String × Value)) :
    sortedMembers members done =
      (members.map fun m => (m.1, m.2.sorted)).foldl (fun ms (k, v) => insertMember k v ms) done := by
  induction members generalizing done with
  | nil => simp [sortedMembers]
  | cons m members ih =>
    obtain ⟨k, v⟩ := m
    simp [sortedMembers, ih]

/-- A new key is put in somewhere. -/
theorem insertMember_perm {key : String} {members : List (String × Value)}
    (h : key ∉ members.map Prod.fst) (value : Value) :
    (insertMember key value members).Perm ((key, value) :: members) := by
  induction members with
  | nil => exact List.Perm.refl _
  | cons m members ih =>
    obtain ⟨k, v⟩ := m
    simp only [List.map_cons, List.mem_cons, not_or] at h
    unfold insertMember
    rw [if_neg h.1]
    split
    · exact List.Perm.refl _
    · exact ((ih h.2).cons (k, v)).trans (List.Perm.swap _ _ _)

theorem foldl_insertMember_perm {members done : List (String × Value)}
    (h : (members.map Prod.fst ++ done.map Prod.fst).Nodup) :
    (members.foldl (fun ms (k, v) => insertMember k v ms) done).Perm (members ++ done) := by
  induction members generalizing done with
  | nil => exact List.Perm.refl _
  | cons m members ih =>
    obtain ⟨k, v⟩ := m
    simp only [List.map_cons, List.cons_append, List.nodup_cons, List.mem_append, not_or] at h
    obtain ⟨⟨hlater, hdone⟩, hrest⟩ := h
    have hinsert := insertMember_perm hdone v
    have hnext : (members.map Prod.fst ++ (insertMember k v done).map Prod.fst).Nodup := by
      refine ((hinsert.map Prod.fst).append_left _).nodup_iff.mpr ?_
      refine List.perm_middle.nodup_iff.mpr (List.nodup_cons.mpr ⟨?_, hrest⟩)
      simp only [List.mem_append, not_or]
      exact ⟨hlater, hdone⟩
    rw [List.foldl_cons]
    exact ((ih hnext).trans (hinsert.append_left members)).trans List.perm_middle

/-- Members with different keys are only put in another order. -/
theorem sortedMembers_perm {members : List (String × Value)}
    (h : (members.map Prod.fst).Nodup) :
    (sortedMembers members []).Perm (members.map fun m => (m.1, m.2.sorted)) := by
  rw [sortedMembers_eq]
  have hkeys : ((members.map fun m => (m.1, m.2.sorted)).map Prod.fst ++
      ([] : List (String × Value)).map Prod.fst).Nodup := by
    rw [List.map_map, List.map_nil, List.append_nil]
    exact h
  simpa using foldl_insertMember_perm hkeys

/-! ## 5. Values -/

theorem readWord_self (word rest : List UInt8) (n : Nat) :
    ∃ n', readWord word ⟨word ++ rest, n⟩ = .ok ⟨rest, n'⟩ := by
  induction word generalizing n with
  | nil => exact ⟨n, rfl⟩
  | cons b word ih =>
    obtain ⟨n', h⟩ := ih (n + 1)
    refine ⟨n', ?_⟩
    rw [← h]
    simp only [List.cons_append, readWord, if_true]

/-- What a reader of values has to do where a value begins. -/
theorem reads_readValue {depth : Nat} {text : List Char} {v : Value}
    (h : ∀ levels rest, depth ≤ levels → EndsNumber rest → ∃ b r,
      encodeAll text ++ rest = b :: r ∧ isBlankByte b = false ∧
        ∀ n c, Cursor.skipBlanks c = ⟨b :: r, n⟩ →
          ∃ n', readValue (levels + 1) c = .ok (v, ⟨rest, n'⟩)) :
    Reads (depth + 1) readValue text v := by
  intro levels rest n hlevels hrest c hc
  obtain ⟨levels, rfl⟩ : ∃ k, levels = k + 1 := ⟨levels - 1, by omega⟩
  obtain ⟨b, r, hfirst, hblank, hread⟩ := h levels rest (by omega) hrest
  rw [hfirst, Cursor.skipBlanks_of_not hblank] at hc
  exact hread n c hc

/-- A value of some levels reads back with its members in order. -/
theorem Value.Within.reads {depth : Nat} {v : Value} (h : v.Within depth) :
    Reads depth readValue v.compactChars v.sorted := by
  induction h with
  | null depth =>
    refine reads_readValue fun levels rest _ _ => ⟨0x6E, [0x75, 0x6C, 0x6C] ++ rest, rfl, by decide,
      fun n c hc => ?_⟩
    obtain ⟨n', hword⟩ := readWord_self [0x75, 0x6C, 0x6C] rest (n + 1)
    exact ⟨n', by simp only [readValue, hc, if_true, hword, Except.map, Value.sorted]⟩
  | bool depth b =>
    cases b with
    | true =>
      refine reads_readValue fun levels rest _ _ => ⟨0x74, [0x72, 0x75, 0x65] ++ rest, rfl,
        by decide, fun n c hc => ?_⟩
      obtain ⟨n', hword⟩ := readWord_self [0x72, 0x75, 0x65] rest (n + 1)
      have hnull : (0x74 : UInt8) ≠ 0x6E := by decide
      exact ⟨n', by
        simp only [readValue, hc, if_neg hnull, if_true, hword, Except.map, Value.sorted]⟩
    | false =>
      refine reads_readValue fun levels rest _ _ => ⟨0x66, [0x61, 0x6C, 0x73, 0x65] ++ rest, rfl,
        by decide, fun n c hc => ?_⟩
      obtain ⟨n', hword⟩ := readWord_self [0x61, 0x6C, 0x73, 0x65] rest (n + 1)
      have hnull : (0x66 : UInt8) ≠ 0x6E := by decide
      have htrue : (0x66 : UInt8) ≠ 0x74 := by decide
      exact ⟨n', by
        simp only [readValue, hc, if_neg hnull, if_neg htrue, if_true, hword, Except.map,
          Value.sorted]⟩
  | @integer depth i hi =>
    refine reads_readValue fun levels rest _ hrest => ?_
    obtain ⟨b, r, hfirst, hread⟩ := signed_reads hi hrest
    obtain ⟨b', r', hfirst', hblank, -⟩ := (Value.Within.integer depth hi).startsItem rest
    obtain ⟨rfl, rfl⟩ : b = b' ∧ r = r' := List.cons.inj (hfirst.symm.trans hfirst')
    refine ⟨b, r, hfirst, hblank, fun n c hc => ?_⟩
    rcases hread n with ⟨rfl, n', hnumber⟩ | ⟨hdigit, n', hnumber⟩
    · have hother : (0x2D : UInt8) ≠ 0x6E ∧ (0x2D : UInt8) ≠ 0x74 ∧ (0x2D : UInt8) ≠ 0x66 := by
        decide
      obtain ⟨hnull, htrue, hfalse⟩ := hother
      refine ⟨n', ?_⟩
      simp only [readValue, hc, if_neg hnull, if_neg htrue, if_neg hfalse, if_true, hnumber,
        Except.map, Value.ofInt, Value.sorted]
    · obtain ⟨-, hminus, hnull, htrue, hfalse, -⟩ := not_digitByte hdigit
      refine ⟨n', ?_⟩
      simp only [readValue, hc, if_neg hnull, if_neg htrue, if_neg hfalse, if_neg hminus, hdigit,
        if_true, hnumber, Except.map, Value.ofInt, Value.sorted]
  | text depth s =>
    refine reads_readValue fun levels rest _ _ => ⟨_, _, encodeAll_quote s rest, by decide,
      fun n c hc => ?_⟩
    obtain ⟨n', hread⟩ := readTextBody_quote s rest (n + 1)
    refine ⟨n', ?_⟩
    simp only [readValue, hc, hread]
    rfl
  | @list depth items h ih =>
    refine reads_readValue fun levels rest hlevels _ =>
      ⟨0x5B, encodeAll (itemsText true (items.map Value.compactChars)) ++ rest, ?_, by decide,
        fun n c hc => ?_⟩
    · rw [Value.compactChars, compactItems_eq]
      rfl
    · have hitems : List.Forall₂ (fun text a => StartsItem text ∧ Reads (depth + 1) readValue text a)
          (items.map Value.compactChars) (sortedItems items) := by
        rw [sortedItems_eq, List.forall₂_map_left_iff, List.forall₂_map_right_iff,
          List.forall₂_same]
        exact fun v hv => ⟨(h v hv).startsItem, ih v hv⟩
      obtain ⟨n', hread⟩ := readListBody_text hitems hlevels rest (n + 1)
      have hlevel : levels ≠ 0 := by omega
      refine ⟨n', ?_⟩
      simp only [readValue, hc, if_neg hlevel, hread]
      rfl
  | @object depth members h ih =>
    refine reads_readValue fun levels rest hlevels _ =>
      ⟨0x7B, encodeAll (membersText .compact true (members.map fun m => (m.1, m.2.compactChars)))
        ++ rest, ?_, by decide, fun n c hc => ?_⟩
    · rw [Value.compactChars, compactMembers_eq]
      rfl
    · have hpairs : List.Forall₂ (fun m p => m.1 = p.1 ∧ Reads (depth + 1) readValue m.2 p.2)
          (members.map fun m => (m.1, m.2.compactChars))
          (members.map fun m => (m.1, m.2.sorted)) := by
        rw [List.forall₂_map_left_iff, List.forall₂_map_right_iff, List.forall₂_same]
        exact fun m hm => ⟨rfl, ih m hm⟩
      have hfuel : (members.map fun m => (m.1, m.2.compactChars)).length <
          (encodeAll (membersText .compact true (members.map fun m => (m.1, m.2.compactChars)))
            ++ rest).length + 1 := by
        have := length_le_membersText (l := .compact) true
          (members.map fun m => (m.1, m.2.compactChars))
        rw [List.length_append]
        omega
      obtain ⟨n', hread⟩ := readPairs_text hpairs hlevels .compact _ true rest (n + 1) hfuel
      have hlevel : levels ≠ 0 := by omega
      refine ⟨n' + 1, ?_⟩
      rw [Value.sorted, sortedMembers_eq]
      simp only [readValue, hc, if_neg hlevel, hread, bind, Except.bind, closeObject,
        Cursor.skipBlanks_of_not (show isBlankByte 0x7D = false by decide), if_true]
      rfl

/-! ## 6. Objects of plain values -/

/-- A value that opens no level has nothing to put in order. -/
theorem Value.Within.sorted_eq {v : Value} (h : v.Within 1) : v.sorted = v := by
  cases h with
  | null => simp only [Value.sorted]
  | bool => simp only [Value.sorted]
  | integer => simp only [Value.ofInt, Value.sorted]
  | text => simp only [Value.sorted]

section
variable {members : List (String × Value)}

/-- Plain members with different keys are only put in another order. -/
theorem sortedMembers_perm_of_plain (hdistinct : (members.map Prod.fst).Nodup)
    (hplain : ∀ m ∈ members, m.2.Within 1) : (sortedMembers members []).Perm members := by
  have hsame : members.map (fun m => (m.1, m.2.sorted)) = members := by
    have heach : ∀ m ∈ members, (m.1, m.2.sorted) = id m := fun m hm => by
      rw [(hplain m hm).sorted_eq]
      rfl
    rw [List.map_congr_left heach, List.map_id]
  have hperm := sortedMembers_perm hdistinct
  rwa [hsame] at hperm

/-- An object of plain values that is put in order and written reads back with the same
members. -/
theorem decode_flat (hdistinct : (members.map Prod.fst).Nodup)
    (hplain : ∀ m ∈ members, m.2.Within 1) :
    ∃ ms, Decoder.value.decode (encode (Value.object members).sorted.compact) =
        .ok (.object ms) ∧ ms.Perm members := by
  have hperm := sortedMembers_perm_of_plain hdistinct hplain
  have hplain' : ∀ m ∈ sortedMembers members [], m.2.Within 1 := fun m hm =>
    hplain m (hperm.mem_iff.mp hm)
  have hdistinct' : ((sortedMembers members []).map Prod.fst).Nodup :=
    (hperm.map Prod.fst).nodup_iff.mpr hdistinct
  have hreads := (Value.Within.object hplain').reads
  refine ⟨sortedMembers (sortedMembers members []) [], ?_,
    (sortedMembers_perm_of_plain hdistinct' hplain').trans hperm⟩
  rw [Value.sorted] at hreads ⊢
  exact Decoder.decode_of_reads (d := .value) hreads (by decide)

/-- A record whose members are put in order and written reads back, if they make the
same record in any order. -/
theorem Record.decode_sorted {μ α : Type} (r : Record μ α) {ms : List μ} {a : α}
    (hfits : List.Forall₂ (FitsAs Value.compactChars r.fields) members ms)
    (hdistinct : (members.map Prod.fst).Nodup) (hplain : ∀ m ∈ members, m.2.Within 1)
    (hassemble : ∀ ms', ms'.Perm ms → r.assemble ms' = .ok a) :
    r.decoder.decode (encode (Value.object members).sorted.compact) = .ok a := by
  have hperm := sortedMembers_perm_of_plain hdistinct hplain
  obtain ⟨ms', hfits', hms⟩ := List.perm_comp_forall₂ hperm hfits
  have hdistinct' : ((sortedMembers members []).map Prod.fst).Nodup :=
    (hperm.map Prod.fst).nodup_iff.mpr hdistinct
  rw [Value.sorted]
  exact r.decode_compact hfits' hdistinct' (hassemble ms' hms)

end

/-! ## 7. Parts of a record -/

/-- What is looked up in a list does not depend on its order, if there is at most one of
it. -/
theorem findSome?_perm {α β : Type} {f : α → Option β} {as bs : List α} (h : as.Perm bs)
    (hone : as.Pairwise fun a b => f a = none ∨ f b = none) : as.findSome? f = bs.findSome? f := by
  induction h with
  | nil => rfl
  | cons a h ih =>
    rw [List.findSome?_cons, List.findSome?_cons, ih (List.pairwise_cons.mp hone).2]
  | swap a b as =>
    have hpair := (List.pairwise_cons.mp hone).1 a List.mem_cons_self
    rcases hpair with hb | ha
    · simp [List.findSome?_cons, hb]
    · simp [List.findSome?_cons, ha]
  | trans h₁ h₂ ih₁ ih₂ =>
    have hmiddle := (h₁.pairwise_iff fun hab => hab.symm).mp hone
    exact (ih₁ hone).trans (ih₂ hmiddle)

/-- Lists of parts in which the same is found of every kind. -/
def SameParts {μ κ : Type} (kind : μ → κ) (ms ms' : List μ) : Prop :=
  ∀ {β : Type} (f : μ → Option β) (k : κ), (∀ m, kind m ≠ k → f m = none) →
    ms.findSome? f = ms'.findSome? f

/-- Parts of different kinds are the same in any order. -/
theorem sameParts_of_perm {μ κ : Type} {kind : μ → κ} {ms ms' : List μ} (h : ms.Perm ms')
    (hkinds : (ms'.map kind).Nodup) : SameParts kind ms ms' := by
  intro β f k hf
  refine (findSome?_perm h.symm ?_).symm
  refine (List.pairwise_map.mp hkinds).imp fun {a b} hne => ?_
  by_cases ha : kind a = k
  · exact Or.inr (hf b fun hb => hne (ha.trans hb.symm))
  · exact Or.inl (hf a ha)

end CoachClient.Json
