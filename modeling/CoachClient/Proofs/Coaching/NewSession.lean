/-
CoachClient.Proofs.Coaching.NewSession — requests for sessions that are written read
back.

* `NewSession.members` — the members of a request: the three that are always there,
  and those that were given.
* `NewSession.parts` — what they are read as; `assemble_of_perm` — in any order they
  make the request.
* `NewSession.decode_sorted` — so a request that is put in order and written reads
  back, with its instants.
-/
import CoachClient.Proofs.Coaching.Parts
import CoachClient.Proofs.Time.Wire

namespace CoachClient.Coaching

open CoachClient.Json CoachClient.Text CoachClient.Time

theorem reads_readInstant {depth : Nat} (t : Instant) :
    Reads depth readInstant (quote t.wire) t := by
  refine Reads.content ?_
  rw [Instant.read_wire]
  rfl

namespace NewSession

/-- The members of a request. -/
def members (n : NewSession) : List (String × Value) :=
  [("title", .text n.title), ("starts_at", .text n.startsAt.wire), ("ends_at", .text n.endsAt.wire)]
    ++ (n.maxParticipants.map fun m => ("max_participants", Value.ofNat m.toNat)).toList
    ++ (n.priceCents.map fun p => ("price_cents", Value.ofInt p.toInt)).toList
    ++ (n.currency.map fun c => ("currency", Value.text c)).toList

/-- What the members of a request are read as. -/
def parts (n : NewSession) : List Part :=
  [.title n.title, .startsAt n.startsAt, .endsAt n.endsAt]
    ++ (n.maxParticipants.map fun m => Part.maxParticipants (some m)).toList
    ++ (n.priceCents.map fun p => Part.priceCents (some p)).toList
    ++ (n.currency.map fun c => Part.currency (some c)).toList

theorem forall₂_option {α β γ : Type} {R : β → γ → Prop} {f : α → β} {g : α → γ}
    (h : ∀ a, R (f a) (g a)) (o : Option α) :
    List.Forall₂ R (o.map f).toList (o.map g).toList := by
  cases o with
  | none => exact .nil
  | some a => exact .cons (h a) .nil

theorem fits_members (n : NewSession) :
    List.Forall₂ (FitsAs Value.compactChars record.fields) n.members n.parts := by
  have hfixed : List.Forall₂ (FitsAs Value.compactChars record.fields)
      [("title", .text n.title), ("starts_at", .text n.startsAt.wire),
        ("ends_at", .text n.endsAt.wire)]
      [.title n.title, .startsAt n.startsAt, .endsAt n.endsAt] :=
    .cons ⟨_, rfl, (Reads.text n.title).field _ _ _⟩
      (.cons ⟨_, rfl, (reads_readInstant n.startsAt).field _ _ _⟩
        (.cons ⟨_, rfl, (reads_readInstant n.endsAt).field _ _ _⟩ .nil))
  have hcapacity : ∀ m : UInt32, FitsAs Value.compactChars record.fields
      ("max_participants", Value.ofNat m.toNat) (.maxParticipants (some m)) := fun m =>
    ⟨_, rfl,
      ((Reads.word32 m).optional_some (startsValue_signed (inWords_word32 m))).field _ _ _⟩
  have hprice : ∀ p : Int64, FitsAs Value.compactChars record.fields
      ("price_cents", Value.ofInt p.toInt) (.priceCents (some p)) := fun p =>
    ⟨_, rfl, ((Reads.signed64 p).optional_some (startsValue_signed (inWords_int64 p))).field _ _ _⟩
  have hcurrency : ∀ c : String, FitsAs Value.compactChars record.fields
      ("currency", Value.text c) (.currency (some c)) := fun c =>
    ⟨_, rfl, ((Reads.text c).optional_some (startsValue_quote c)).field _ _ _⟩
  exact List.rel_append (List.rel_append (List.rel_append hfixed
    (forall₂_option hcapacity n.maxParticipants)) (forall₂_option hprice n.priceCents))
    (forall₂_option hcurrency n.currency)

theorem members_distinct (n : NewSession) : (n.members.map Prod.fst).Nodup := by
  obtain ⟨title, startsAt, endsAt, capacity, price, currency⟩ := n
  cases capacity <;> cases price <;> cases currency <;> simp [members]

theorem members_plain (n : NewSession) : ∀ m ∈ n.members, m.2.Within 1 := by
  intro m hm
  simp only [members, List.mem_append, List.mem_cons, List.not_mem_nil, or_false,
    Option.mem_toList, Option.map_eq_some_iff] at hm
  rcases hm with ((((rfl | rfl | rfl) | ⟨k, -, rfl⟩) | ⟨p, -, rfl⟩) | ⟨c, -, rfl⟩)
  · exact .text 0 _
  · exact .text 0 _
  · exact .text 0 _
  · exact .integer 0 (inWords_word32 k)
  · exact .integer 0 (inWords_int64 p)
  · exact .text 0 _

theorem parts_distinct (n : NewSession) : (n.parts.map Part.name).Nodup := by
  obtain ⟨title, startsAt, endsAt, capacity, price, currency⟩ := n
  cases capacity <;> cases price <;> cases currency <;> simp [parts, Part.name]

/-- In any order the parts make the request. -/
theorem assemble_of_perm {n : NewSession} {ms : List Part} (h : ms.Perm n.parts) :
    assemble ms = .ok n := by
  rw [assemble_same (sameParts_of_perm h n.parts_distinct)]
  obtain ⟨title, startsAt, endsAt, capacity, price, currency⟩ := n
  cases capacity <;> cases price <;> cases currency <;> rfl

/-- A request that is put in order and written reads back. -/
theorem decode_sorted (n : NewSession) :
    decoder.decode (Utf8.encode n.toValue.sorted.compact) = .ok n :=
  record.decode_sorted n.fits_members n.members_distinct n.members_plain
    fun _ h => assemble_of_perm h

end NewSession

end CoachClient.Coaching
