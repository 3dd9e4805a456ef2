/-
CoachClient.Proofs.Coaching.Rearranged — what the service sends is read in any order.

* `Session.declared`, `NewSession.declared`, `Profile.declared`, `Account.declared`,
  `Grant.declared`, `Page.declared` — the names of the declared members, and where records
  stand in them.
* `Session.record_declares` and the like — each member is read on its own.
* `Page.keeps` — a page is kept as its items are.
* `decoding_ignores_order` — so for every type that is decoded the order of members does not
  matter, members that are not declared do not, and a declared one that comes twice is a fault.
-/
import CoachClient.Proofs.Coaching.Parts
import CoachClient.Proofs.Settings.Members

namespace CoachClient.Coaching

open CoachClient.Json CoachClient.Text

/-! ## 1. Records without others in them -/

theorem readsValues_readInstant : ReadsValues readInstant := .content _ _

namespace Session

/-- The declared members of a session. -/
def declared : List (String × Shape) :=
  [("id", .plain), ("coach_id", .plain), ("coach_name", .plain), ("title", .plain),
    ("starts_at", .plain), ("ends_at", .plain), ("max_participants", .plain),
    ("price_cents", .plain), ("currency", .plain), ("status", .plain)]

theorem record_declares : Declares Part.name record.fields declared :=
  .cons (Field.isDeclared (.plain .text) fun _ => rfl)
    (.cons (Field.isDeclared (.plain .text) fun _ => rfl)
      (.cons (Field.isDeclared (.plain (.optional .text)) fun _ => rfl)
        (.cons (Field.isDeclared (.plain .text) fun _ => rfl)
          (.cons (Field.isDeclared (.plain readsValues_readInstant) fun _ => rfl)
            (.cons (Field.isDeclared (.plain readsValues_readInstant) fun _ => rfl)
              (.cons (Field.isDeclared (.plain (.optional .word32)) fun _ => rfl)
                (.cons (Field.isDeclared (.plain .signed64) fun _ => rfl)
                  (.cons (Field.isDeclared (.plain .text) fun _ => rfl)
                    (.cons (Field.isDeclared (.plain .text) fun _ => rfl) .nil)))))))))

theorem keeps : Keeps record.reader (.record declared) :=
  .record record (fun _ _ => assemble_same) record_declares

end Session

namespace NewSession

/-- The declared members of a request. -/
def declared : List (String × Shape) :=
  [("title", .plain), ("starts_at", .plain), ("ends_at", .plain), ("max_participants", .plain),
    ("price_cents", .plain), ("currency", .plain)]

theorem record_declares : Declares Part.name record.fields declared :=
  .cons (Field.isDeclared (.plain .text) fun _ => rfl)
    (.cons (Field.isDeclared (.plain readsValues_readInstant) fun _ => rfl)
      (.cons (Field.isDeclared (.plain readsValues_readInstant) fun _ => rfl)
        (.cons (Field.isDeclared (.plain (.optional .word32)) fun _ => rfl)
          (.cons (Field.isDeclared (.plain (.optional .signed64)) fun _ => rfl)
            (.cons (Field.isDeclared (.plain (.optional .text)) fun _ => rfl) .nil)))))

end NewSession

namespace Profile

/-- The declared members of a profile. -/
def declared : List (String × Shape) := [("email", .plain), ("roles", .plain)]

theorem record_declares : Declares Part.name record.fields declared :=
  .cons (Field.isDeclared (.plain .text) fun _ => rfl)
    (.cons (Field.isDeclared (.plain (.items .text)) fun _ => rfl) .nil)

end Profile

namespace Account

/-- The declared members of an account. -/
def declared : List (String × Shape) :=
  [("id", .plain), ("email", .plain), ("roles", .plain), ("disabled_at", .plain),
    ("disabled_reason", .plain), ("created_at", .plain)]

theorem record_declares : Declares Part.name record.fields declared :=
  .cons (Field.isDeclared (.plain .text) fun _ => rfl)
    (.cons (Field.isDeclared (.plain .text) fun _ => rfl)
      (.cons (Field.isDeclared (.plain (.items .text)) fun _ => rfl)
        (.cons (Field.isDeclared (.plain (.optional readsValues_readInstant)) fun _ => rfl)
          (.cons (Field.isDeclared (.plain (.optional .text)) fun _ => rfl)
            (.cons (Field.isDeclared (.plain readsValues_readInstant) fun _ => rfl) .nil)))))

theorem keeps : Keeps record.reader (.record declared) :=
  .record record (fun _ _ => assemble_same) record_declares

end Account

namespace Grant

/-- The declared member of a grant. -/
def declared : List (String × Shape) := [("access_token", .plain)]

theorem record_declares : Declares Part.name record.fields declared :=
  .cons (Field.isDeclared (.plain .text) fun _ => rfl) .nil

end Grant

/-! ## 2. Pages -/

namespace Page

/-- The declared members of a page, where the items have a shape of their own. -/
def declared (item : Shape) : List (String × Shape) :=
  [("items", .list item), ("limit", .plain), ("offset", .plain), ("has_more", .plain)]

variable {α : Type} {item : Decoder α} {shape : Shape}

theorem record_declares (h : Keeps item.read shape) :
    Declares Part.name (record item.read).fields (declared shape) :=
  .cons (Field.isDeclared h.items fun _ => rfl)
    (.cons (Field.isDeclared (.plain .word32) fun _ => rfl)
      (.cons (Field.isDeclared (.plain .word32) fun _ => rfl)
        (.cons (Field.isDeclared (.plain .bool) fun _ => rfl) .nil)))

/-- The order does not matter for a page if it does not for its items. -/
theorem ignoresOrder (h : Keeps item.read shape) :
    (Page.decoder item).IgnoresOrder (.record (declared shape)) :=
  (record item.read).ignoresOrder (fun _ _ => assemble_same) (record_declares h)

end Page

/-! ## 3. All types that are decoded -/

/-- **Decoding does not depend on the order of members, nor on unknown ones.** Take a text that
is decoded as a session, a request for one, an account, a profile, a grant, a page of sessions
or of accounts, or as settings. With the members of its objects in another order, and any
members among them that are not declared, it is decoded as the same value; this holds for the
items of a page as well. A text with a declared member twice is never decoded. -/
theorem decoding_ignores_order :
    Session.decoder.IgnoresOrder (.record Session.declared) ∧
      NewSession.decoder.IgnoresOrder (.record NewSession.declared) ∧
      Account.decoder.IgnoresOrder (.record Account.declared) ∧
      Profile.decoder.IgnoresOrder (.record Profile.declared) ∧
      Grant.decoder.IgnoresOrder (.record Grant.declared) ∧
      (Page.decoder Session.decoder).IgnoresOrder
        (.record (Page.declared (.record Session.declared))) ∧
      (Page.decoder Account.decoder).IgnoresOrder
        (.record (Page.declared (.record Account.declared))) ∧
      Settings.decoder.IgnoresOrder (.record Settings.declared) := by
  refine ⟨?_, ?_, ?_, ?_, ?_, Page.ignoresOrder Session.keeps, Page.ignoresOrder Account.keeps,
    Settings.decoder_ignoresOrder⟩
  · exact Session.record.ignoresOrder (fun _ _ => Session.assemble_same) Session.record_declares
  · exact NewSession.record.ignoresOrder (fun _ _ => NewSession.assemble_same)
      NewSession.record_declares
  · exact Account.record.ignoresOrder (fun _ _ => Account.assemble_same) Account.record_declares
  · exact Profile.record.ignoresOrder (fun _ _ => Profile.assemble_same) Profile.record_declares
  · exact Grant.record.ignoresOrder (fun _ _ => Grant.assemble_same) Grant.record_declares

/-- A grant is found among members that nobody declared, but not if it comes twice, however its
name is spelled. -/
example :
    Grant.decoder.decode (Utf8.encode
        "\x7b\"x\": [\x7b\x7d, \"]\\\"\"], \"access_token\": \"t\", \"x\": 1e999\x7d") = .ok ⟨"t"⟩ ∧
      (Grant.decoder.decode (Utf8.encode
        "\x7b\"access_token\": \"t\", \"\\u0061ccess_token\": \"t\"\x7d")).toOption = none := by
  decide +kernel

end CoachClient.Coaching
