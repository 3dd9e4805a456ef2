/-
CoachClient.Proofs.Coaching.RoundTrip — what goes over the wire reads back as what it
was.

* `Session.isWritten`, `Profile.isWritten`, `Account.isWritten`, `NewSession.isWritten` —
  a record reads back from the object that is written for it: each of its members does,
  and put together they are the record.
* `Page.isWritten` — so does a page of what reads back.
* `wire_types_round_trip` — all types of the wire.

An absent value is written as `null`, except in a request for a session, where it is not
written at all; both are read as absent.
-/
import CoachClient.Coaching.Account
import CoachClient.Coaching.Page
import CoachClient.Proofs.Coaching.NewSession
import CoachClient.Proofs.Json.Nested

namespace CoachClient.Coaching

open CoachClient.Json CoachClient.Text CoachClient.Time

/-! ## 1. Values that may be absent -/

section
variable {depth : Nat}

theorem reads_text? (s : Option String) :
    Reads depth (Reader.optional Reader.text) (Value.ofText? s).compactChars s := by
  cases s with
  | none => exact Reads.optional_none Reader.text
  | some s => exact (Reads.text s).optional_some (startsValue_quote s)

theorem reads_instant? (t : Option Instant) :
    Reads depth (Reader.optional readInstant) (Value.ofText? (t.map Instant.wire)).compactChars
      t := by
  cases t with
  | none => exact Reads.optional_none readInstant
  | some t => exact (reads_readInstant t).optional_some (startsValue_quote t.wire)

theorem reads_word32? (n : Option UInt32) :
    Reads depth (Reader.optional Reader.word32) (ofWord32? n).compactChars n := by
  cases n with
  | none => exact Reads.optional_none Reader.word32
  | some n => exact (Reads.word32 n).optional_some (startsValue_signed (inWords_word32 n))

end

/-! ## 2. Records -/

namespace Session

/-- What the members of a session are read as. -/
def parts (s : Session) : List Part :=
  [.id s.id, .coachId s.coachId, .coachName s.coachName, .title s.title, .startsAt s.startsAt,
    .endsAt s.endsAt, .maxParticipants s.maxParticipants, .priceCents s.priceCents,
    .currency s.currency, .status s.status]

/-- A session reads back. -/
theorem isWritten : Written 2 decoder.read toValue where
  starts _ := startsItem_object _
  reads s := by
    refine record.reads_compact s.parts Nat.one_pos ?_ (by simp) rfl
    exact .cons ⟨_, rfl, (Reads.text s.id).field _ _ _⟩
      (.cons ⟨_, rfl, (Reads.text s.coachId).field _ _ _⟩
      (.cons ⟨_, rfl, (reads_text? s.coachName).field _ _ _⟩
      (.cons ⟨_, rfl, (Reads.text s.title).field _ _ _⟩
      (.cons ⟨_, rfl, (reads_readInstant s.startsAt).field _ _ _⟩
      (.cons ⟨_, rfl, (reads_readInstant s.endsAt).field _ _ _⟩
      (.cons ⟨_, rfl, (reads_word32? s.maxParticipants).field _ _ _⟩
      (.cons ⟨_, rfl, (Reads.signed64 s.priceCents).field _ _ _⟩
      (.cons ⟨_, rfl, (Reads.text s.currency).field _ _ _⟩
      (.cons ⟨_, rfl, (Reads.text s.status).field _ _ _⟩ .nil)))))))))

end Session

namespace NewSession

/-- A request for a session reads back. -/
theorem isWritten : Written 2 decoder.read toValue where
  starts _ := startsItem_object _
  reads n := record.reads_compact _ Nat.one_pos n.fits_members n.members_distinct
    (assemble_of_perm (List.Perm.refl _))

end NewSession

namespace Profile

/-- A profile reads back. -/
theorem isWritten : Written 3 decoder.read toValue where
  starts _ := startsItem_object _
  reads p := by
    refine record.reads_compact [.email p.email, .roles p.roles] Nat.two_pos ?_
      (by simp) rfl
    exact .cons ⟨_, rfl, (Reads.text p.email).field _ _ _⟩
      (.cons ⟨_, rfl, ((Written.text.items Nat.one_pos).reads p.roles).field _ _ _⟩ .nil)

end Profile

namespace Account

/-- What the members of an account are read as. -/
def parts (a : Account) : List Part :=
  [.id a.id, .email a.email, .roles a.roles, .disabledAt a.disabledAt,
    .disabledReason a.disabledReason, .createdAt a.createdAt]

/-- An account reads back. -/
theorem isWritten : Written 3 decoder.read toValue where
  starts _ := startsItem_object _
  reads a := by
    refine record.reads_compact a.parts Nat.two_pos ?_ (by simp) rfl
    exact .cons ⟨_, rfl, (Reads.text a.id).field _ _ _⟩
      (.cons ⟨_, rfl, (Reads.text a.email).field _ _ _⟩
      (.cons ⟨_, rfl, ((Written.text.items Nat.one_pos).reads a.roles).field _ _ _⟩
      (.cons ⟨_, rfl, (reads_instant? a.disabledAt).field _ _ _⟩
      (.cons ⟨_, rfl, (reads_text? a.disabledReason).field _ _ _⟩
      (.cons ⟨_, rfl, (reads_readInstant a.createdAt).field _ _ _⟩ .nil)))))

end Account

namespace Page

/-- A page of what reads back reads back. -/
theorem isWritten {α : Type} {depth : Nat} {item : Decoder α} {write : α → Value}
    (h : Written (depth + 1) item.read write) :
    Written (depth + 3) (Page.decoder item).read (Page.toValue write) where
  starts _ := startsItem_object _
  reads p := by
    refine (record item.read).reads_compact
      [.items p.items, .limit p.limit, .offset p.offset, .hasMore p.hasMore]
      (Nat.succ_pos _) ?_ (by simp) rfl
    exact .cons ⟨_, rfl, ((h.items (Nat.succ_pos _)).reads p.items).field _ _ _⟩
      (.cons ⟨_, rfl, (Reads.word32 p.limit).field _ _ _⟩
      (.cons ⟨_, rfl, (Reads.word32 p.offset).field _ _ _⟩
      (.cons ⟨_, rfl, (Reads.bool p.hasMore).field _ _ _⟩ .nil)))

end Page

/-! ## 3. All types of the wire -/

/-- **What goes over the wire survives a round trip.** Whatever a session, a request for
one, a profile, an account, or a page of sessions, accounts or numbers has been read from,
it reads back as the same value from the text that is written for it; and a text that has
been written again is written the same way from then on. -/
theorem wire_types_round_trip :
    Session.decoder.RoundTrips Session.toValue ∧
      NewSession.decoder.RoundTrips NewSession.toValue ∧
      Profile.decoder.RoundTrips Profile.toValue ∧
      Account.decoder.RoundTrips Account.toValue ∧
      (Page.decoder Session.decoder).RoundTrips (Page.toValue Session.toValue) ∧
      (Page.decoder Account.decoder).RoundTrips (Page.toValue Account.toValue) ∧
      (Page.decoder Decoder.word32).RoundTrips (Page.toValue fun k => .ofNat k.toNat) := by
  have hsession := Session.isWritten
  have haccount := Account.isWritten
  have hnumber : Written 1 Decoder.word32.read fun k => .ofNat k.toNat := Written.word32
  refine ⟨hsession.roundTrips (by decide), NewSession.isWritten.roundTrips (by decide),
    Profile.isWritten.roundTrips (by decide), haccount.roundTrips (by decide), ?_, ?_, ?_⟩
  · exact (Page.isWritten hsession).roundTrips (by decide)
  · exact (Page.isWritten haccount).roundTrips (by decide)
  · exact (Page.isWritten hnumber).roundTrips (by decide)

/-- A page with a session that begins in a leap second of another zone and ends after the
years of four digits, all of it in lists. -/
def leapText : List UInt8 := Utf8.encode <|
  "[[[\"s1\", \"c1\", null, \"Läufe\\u0001\", \"2016-12-31T18:59:60.5-05:00\", " ++
  "\"+12345-01-01 00:00:00 Z\", 4294967295, -9223372036854775808, \"€\", \"open\"]], 20]"

/-- The page is written as objects and in UTC, and that is the same page. -/
theorem leap_page_round_trips :
    ∃ page, (Page.decoder Session.decoder).decode leapText = .ok page ∧
      page.items.map (fun s => (s.startsAt.wire, s.endsAt.wire)) =
        [("2016-12-31T23:59:60.500Z", "+12345-01-01T00:00:00Z")] ∧
      (Page.decoder Session.decoder).decode (written (page.toValue Session.toValue)) =
        .ok page := by
  obtain ⟨-, -, -, -, hpages, -⟩ := wire_types_round_trip
  have hitems : ((Page.decoder Session.decoder).decode leapText).toOption.map
      (fun page => page.items.map fun s => (s.startsAt.wire, s.endsAt.wire)) =
        some [("2016-12-31T23:59:60.500Z", "+12345-01-01T00:00:00Z")] := by decide +kernel
  cases hdecode : (Page.decoder Session.decoder).decode leapText with
  | error fault =>
    rw [hdecode] at hitems
    cases hitems
  | ok page =>
    rw [hdecode] at hitems
    exact ⟨page, rfl, Option.some.inj hitems, hpages.value page⟩

end CoachClient.Coaching
