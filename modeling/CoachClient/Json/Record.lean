/-
CoachClient.Json.Record — records: objects with declared members.

* `Field μ` — a declared member: its name, how its value is read into a member
  `μ`, and whether a list may leave it out.
* `Record μ α` — the declared members of a type `α`, in order, and how a list of
  members is put together.
* `Record.reader` — from an object the members may come in any order, unknown
  ones are passed over, a repeated one is a fault; from a list the values come
  in the declared order.

A record does not depend on the order of its members: `Record.assemble` looks
members up by what they are and not by where they stood.
-/
import CoachClient.Json.Reader

namespace CoachClient.Json

open CoachClient.Text

/-- A declared member of a record. -/
structure Field (μ : Type) where
  /-- The key. -/
  name : String
  /-- Reads the value. -/
  read : Reader μ
  /-- A list that ends before this member still makes a record. -/
  mayEnd : Bool

/-- A declared member whose value is read as a `β` and tagged. -/
def Field.of {μ β : Type} (name : String) (read : Reader β) (tag : β → μ)
    (mayEnd : Bool) : Field μ :=
  ⟨name, fun levels c => (read levels c).map fun (b, c') => (tag b, c'), mayEnd⟩

/-- A record type. -/
structure Record (μ α : Type) where
  /-- What the record is called in messages. -/
  name : String
  /-- The declared members in order. -/
  fields : List (Field μ)
  /-- The record with these members, or the name of one that is missing. -/
  assemble : List μ → Except String α

/-- What is expected where an object of this type may stand. -/
def Record.expected {μ α : Type} (r : Record μ α) : String := "struct " ++ r.name

/-- What is expected of a list in place of an object. -/
def Record.expectedLength {μ α : Type} (r : Record μ α) : String :=
  let n := r.fields.length
  r.expected ++ " with " ++ String.ofList (digits n) ++ (if n = 1 then " element" else " elements")

/-- The declared member with a name. -/
def findField {μ : Type} (name : String) : List (Field μ) → Option (Field μ)
  | [] => none
  | f :: fs => if f.name = name then some f else findField name fs

/-- Trouble inside a record: a failure that has its offset, or a reason that
will be reported where the record ends. -/
inductive Trouble where
  | located (failure : Failure)
  | pending (cause : Cause) (place : Cursor)

/-- A failure inside a record as it stands. -/
def located {α : Type} : Except Failure α → Except Trouble α
  | .ok a => .ok a
  | .error f => .error (.located f)

/-- Report a pending reason where closing the record stops. -/
def settle {α : Type} (close : Cursor → Except Failure Unit × Cursor) :
    Except Trouble α → Except Failure α
  | .ok a => .ok a
  | .error (.located f) => .error f
  | .error (.pending cause c) => (close c).2.failHere cause

/-- The members of an object up to its closing brace. -/
def readMembers {μ : Type} (fields : List (Field μ)) (levels : Nat) :
    Nat → (first : Bool) → (seen : List String) → Cursor → Except Trouble (List μ × Cursor)
  | 0, _, _, c => located (c.failHere .endInObject)
  | fuel + 1, first, seen, c => do
    let (more, c₁) ← located (nextKey first c)
    if more then
      let (key, c₂) ← located (readKey c₁)
      match findField key fields with
      | some f =>
        if seen.contains key then .error (.pending (.repeated key) c₂)
        else
          let c₃ ← located (readColon c₂)
          let (m, c₄) ← located (f.read levels c₃)
          let (ms, c₅) ← readMembers fields levels fuel false (key :: seen) c₄
          .ok (m :: ms, c₅)
      | none =>
        let c₃ ← located (readColon c₂)
        let c₄ ← located (skipValue c₃)
        readMembers fields levels fuel false seen c₄
    else .ok ([], c₁)

/-- The values of a list in the order of the declared members. -/
def readPositional {μ : Type} (expectedLength : String) (levels : Nat) :
    (index : Nat) → List (Field μ) → Cursor → Except Trouble (List μ × Cursor)
  | _, [], c => .ok ([], c)
  | index, f :: fs, c => do
    let (more, c₁) ← located (nextItem (index == 0) c)
    if more then
      let (m, c₂) ← located (f.read levels c₁)
      let (ms, c₃) ← readPositional expectedLength levels (index + 1) fs c₂
      .ok (m :: ms, c₃)
    else if (f :: fs).all Field.mayEnd then .ok ([], c₁)
    else
      let short := index + ((f :: fs).takeWhile Field.mayEnd).length
      .error (.pending (.wrongLength short expectedLength) c₁)

/-- Put members together, a missing one being reported at the end. -/
def Record.build {μ α : Type} (r : Record μ α) (members : List μ) (c : Cursor) :
    Except Trouble (α × Cursor) :=
  match r.assemble members with
  | .ok a => .ok (a, c)
  | .error field => .error (.pending (.missing field) c)

/-- Read a record from an object or from a list. -/
def Record.reader {μ α : Type} (r : Record μ α) : Reader α := fun levels c => do
  let c := c.skipBlanks
  match c.rest with
  | [] => c.failNext .endInValue
  | b :: rest =>
    let next : Cursor := ⟨rest, c.offset + 1⟩
    if b = 0x7B then
      if levels ≤ 1 then c.failNext .tooDeep
      else
        let (a, c₁) ← settle closeObject do
          let (ms, c₁) ← readMembers r.fields (levels - 1) (next.rest.length + 1) true [] next
          r.build ms c₁
        let (closed, c₂) := closeObject c₁
        closed
        .ok (a, c₂)
    else if b = 0x5B then
      if levels ≤ 1 then c.failNext .tooDeep
      else
        let (a, c₁) ← settle closeList do
          let (ms, c₁) ← readPositional r.expectedLength (levels - 1) 0 r.fields next
          r.build ms c₁
        let (closed, c₂) := closeList c₁
        closed
        .ok (a, c₂)
    else wrongType r.expected c

/-- The decoder of a record type. -/
def Record.decoder {μ α : Type} (r : Record μ α) : Decoder α :=
  .strict r.expected r.reader

/-- A member that has to be there. -/
def need {β : Type} (field : String) : Option β → Except String β
  | some b => .ok b
  | none => .error field

end CoachClient.Json
