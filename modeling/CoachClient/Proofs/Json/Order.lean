/-
CoachClient.Proofs.Json.Order — values that are in order stay as they are.

* `Value.Ordered` — the keys of every object in the value ascend, so none is there twice.
* `foldl_insertMember_ascending` — members that come in order are put in one behind the
  other.
* `Value.Ordered.sorted_eq` — putting such a value in order does nothing.
* `Value.Ordered.decode_written` — so it reads back from its text as it was, if no reader
  runs out of levels in it.

Whatever is read is put in order, and that is the only way in which it can differ from what
was written.
-/
import CoachClient.Proofs.Json.Nested

namespace CoachClient.Json

/-- The keys of every object in the value ascend. -/
inductive Value.Ordered : Value → Prop
  | null : Ordered .null
  | bool (b : Bool) : Ordered (.bool b)
  | number (n : Number) : Ordered (.number n)
  | text (s : String) : Ordered (.text s)
  | list {items : List Value} (h : ∀ v ∈ items, Ordered v) : Ordered (.list items)
  | object {members : List (String × Value)} (hkeys : members.Pairwise fun m m' => m.1 < m'.1)
      (h : ∀ m ∈ members, Ordered m.2) : Ordered (.object members)

/-- A key behind all others is put in at the end. -/
theorem insertMember_of_last {key : String} {members : List (String × Value)}
    (h : ∀ m ∈ members, m.1 < key) (value : Value) :
    insertMember key value members = members ++ [(key, value)] := by
  induction members with
  | nil => rfl
  | cons m members ih =>
    obtain ⟨k, v⟩ := m
    have hk : k < key := h (k, v) List.mem_cons_self
    have hne : key ≠ k := fun heq => String.lt_irrefl k (heq ▸ hk)
    have hnot : ¬ key < k := String.lt_asymm hk
    rw [insertMember, if_neg hne, if_neg hnot, ih fun m hm => h m (List.mem_cons_of_mem _ hm)]
    rfl

/-- Members in order are put in one behind the other. -/
theorem foldl_insertMember_ascending {members : List (String × Value)}
    (done : List (String × Value)) (h : (done ++ members).Pairwise fun m m' => m.1 < m'.1) :
    members.foldl (fun ms (k, v) => insertMember k v ms) done = done ++ members := by
  induction members generalizing done with
  | nil => simp
  | cons m members ih =>
    obtain ⟨k, v⟩ := m
    have hlast : ∀ m ∈ done, m.1 < k := fun m hm =>
      (List.pairwise_append.mp h).2.2 m hm (k, v) List.mem_cons_self
    rw [List.append_cons] at h ⊢
    simp only [List.foldl_cons, insertMember_of_last hlast, ih _ h]

/-- Putting a value in order that is in order does nothing. -/
theorem Value.Ordered.sorted_eq {v : Value} (h : v.Ordered) : v.sorted = v := by
  induction h with
  | null => rw [Value.sorted] <;> simp
  | bool b => rw [Value.sorted] <;> simp
  | number n => rw [Value.sorted] <;> simp
  | text s => rw [Value.sorted] <;> simp
  | @list items _ ih =>
    rw [Value.sorted, sortedItems_eq, List.map_congr_left ih, List.map_id']
  | @object members hkeys _ ih =>
    have hsame : members.map (fun m => (m.1, m.2.sorted)) = members := by
      have heach : ∀ m ∈ members, (m.1, m.2.sorted) = id m := fun m hm => by
        rw [ih m hm]
        rfl
      rw [List.map_congr_left heach, List.map_id]
    rw [Value.sorted, sortedMembers_eq, hsame, foldl_insertMember_ascending []]
    · rfl
    · exact hkeys

/-- A value in order reads back as it was. -/
theorem Value.Ordered.decode_written {v : Value} (h : v.Ordered) (hwithin : v.Within maxLevels) :
    Decoder.value.decode (written v) = .ok v := by
  have hreads := hwithin.reads
  rw [h.sorted_eq] at hreads
  exact Decoder.decode_of_reads (d := .value) hreads (Nat.le_refl maxLevels)

end CoachClient.Json
