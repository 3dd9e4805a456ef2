/-
CoachClient.Coaching.Page — lists that come a page at a time.

* `Page α` — items with the place of the page in the whole list and whether more
  follow.
* `Page.nextOffset?` — where the next page begins: after the items of this one,
  unless nothing follows or the number would outgrow a word of 32 bits.
* `PageRequest` — which page is asked for; `PageRequest.query` is its query.
-/
import CoachClient.Json.Record

namespace CoachClient.Coaching

open CoachClient.Json CoachClient.Text

/-- A page of a list. -/
structure Page (α : Type) where
  items : List α
  limit : UInt32
  offset : UInt32
  hasMore : Bool
  deriving DecidableEq, Repr

namespace Page

/-- The offset of the page after this one. -/
def nextOffset? {α : Type} (p : Page α) : Option UInt32 :=
  let next := p.offset.toNat + p.items.length
  if p.hasMore && next ≤ maxWord32 then some (UInt32.ofNat next) else none

/-- A declared member of a page. -/
inductive Part (α : Type) where
  | items (as : List α)
  | limit (n : UInt32)
  | offset (n : UInt32)
  | hasMore (b : Bool)

/-- Put a page together; only the items have to be there. -/
def assemble {α : Type} (parts : List (Part α)) : Except String (Page α) := do
  let items ← need "items" (parts.findSome? fun | .items as => some as | _ => none)
  .ok {
    items
    limit := (parts.findSome? fun | .limit n => some n | _ => none).getD 0
    offset := (parts.findSome? fun | .offset n => some n | _ => none).getD 0
    hasMore := (parts.findSome? fun | .hasMore b => some b | _ => none).getD false }

/-- Pages as a record. -/
def record {α : Type} (item : Reader α) : Record (Part α) (Page α) where
  name := "Page"
  fields := [
    .of "items" (Reader.items item) .items false,
    .of "limit" Reader.word32 .limit true,
    .of "offset" Reader.word32 .offset true,
    .of "has_more" Reader.bool .hasMore true]
  assemble := assemble

/-- The decoder of pages. -/
def decoder {α : Type} (item : Decoder α) : Decoder (Page α) := (record item.read).decoder

/-- A page as an object. -/
def toValue {α : Type} (item : α → Value) (p : Page α) : Value := .object [
  ("items", .list (p.items.map item)),
  ("limit", .ofNat p.limit.toNat),
  ("offset", .ofNat p.offset.toNat),
  ("has_more", .bool p.hasMore)]

end Page

/-- Which page of a list is asked for. -/
structure PageRequest where
  limit : UInt32
  offset : UInt32
  deriving DecidableEq, Repr

/-- The number of items asked for when nothing is said. -/
def defaultPageLimit : UInt32 := 20

/-- The first page. -/
def PageRequest.first : PageRequest := ⟨defaultPageLimit, 0⟩

/-- The query that asks for the page. -/
def PageRequest.query (r : PageRequest) : String :=
  String.ofList ("limit=".toList ++ digits r.limit.toNat
    ++ "&offset=".toList ++ digits r.offset.toNat)

end CoachClient.Coaching
