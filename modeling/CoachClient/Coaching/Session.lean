/-
CoachClient.Coaching.Session — coaching sessions as the service describes them,
and requests for new ones.

* `Session` — a scheduled session; `Session.durationMinutes`,
  `Session.isCancelled` and `Session.coachShown` are read off it.
* `NewSession` — what is asked for when a session is created; `NewSession.fault?`
  names the first rule it breaks.
* `Session.record`, `NewSession.record` — how they are read from JSON.
* `Session.toValue`, `NewSession.toValue` — how they are written.
-/
import CoachClient.Json.Record
import CoachClient.Time.Reading

namespace CoachClient.Coaching

open CoachClient.Json CoachClient.Text CoachClient.Time

/-- An instant on the wire. -/
def readInstant : Reader Instant :=
  Reader.content "an RFC 3339 formatted date and time string" fun s =>
    (Instant.read s).mapError Time.Fault.message

/-- A number that may be absent, as a value. -/
def ofWord32? : Option UInt32 → Value
  | none => .null
  | some n => .ofNat n.toNat

/-! ## 1. Sessions -/

/-- A coaching session. -/
structure Session where
  id : String
  coachId : String
  coachName : Option String
  title : String
  startsAt : Instant
  endsAt : Instant
  maxParticipants : Option UInt32
  priceCents : Int64
  currency : String
  status : String
  deriving DecidableEq, Repr

namespace Session

/-- The whole minutes from start to end, rounded toward zero. -/
def durationMinutes (s : Session) : Int := s.startsAt.minutesUntil s.endsAt

/-- A text without the case of its ASCII letters. -/
def lowered (s : String) : List Char := s.toList.map Char.toLower

/-- The session will not take place; both spellings of the status count, in any
case. -/
def isCancelled (s : Session) : Bool :=
  lowered s.status == "cancelled".toList || lowered s.status == "canceled".toList

/-- The coach's name, or the coach's id when the name is not known. -/
def coachShown (s : Session) : String := s.coachName.getD s.coachId

/-- A declared member of a session. -/
inductive Part where
  | id (s : String)
  | coachId (s : String)
  | coachName (s : Option String)
  | title (s : String)
  | startsAt (t : Instant)
  | endsAt (t : Instant)
  | maxParticipants (n : Option UInt32)
  | priceCents (n : Int64)
  | currency (s : String)
  | status (s : String)
  deriving DecidableEq

/-- Put a session together. Name, capacity, price and currency may be absent. -/
def assemble (parts : List Part) : Except String Session := do
  let id ← need "id" (parts.findSome? fun | .id s => some s | _ => none)
  let coachId ← need "coach_id" (parts.findSome? fun | .coachId s => some s | _ => none)
  let title ← need "title" (parts.findSome? fun | .title s => some s | _ => none)
  let startsAt ← need "starts_at" (parts.findSome? fun | .startsAt t => some t | _ => none)
  let endsAt ← need "ends_at" (parts.findSome? fun | .endsAt t => some t | _ => none)
  let status ← need "status" (parts.findSome? fun | .status s => some s | _ => none)
  .ok {
    id, coachId, title, startsAt, endsAt, status
    coachName := (parts.findSome? fun | .coachName s => some s | _ => none).getD none
    maxParticipants := (parts.findSome? fun | .maxParticipants n => some n | _ => none).getD none
    priceCents := (parts.findSome? fun | .priceCents n => some n | _ => none).getD 0
    currency := (parts.findSome? fun | .currency s => some s | _ => none).getD "" }

/-- Sessions as a record. -/
def record : Record Part Session where
  name := "Session"
  fields := [
    .of "id" Reader.text .id false,
    .of "coach_id" Reader.text .coachId false,
    .of "coach_name" (Reader.optional Reader.text) .coachName true,
    .of "title" Reader.text .title false,
    .of "starts_at" readInstant .startsAt false,
    .of "ends_at" readInstant .endsAt false,
    .of "max_participants" (Reader.optional Reader.word32) .maxParticipants true,
    .of "price_cents" Reader.signed64 .priceCents true,
    .of "currency" Reader.text .currency true,
    .of "status" Reader.text .status false]
  assemble := assemble

/-- The decoder of sessions. -/
def decoder : Decoder Session := record.decoder

/-- A session as an object. -/
def toValue (s : Session) : Value := .object [
  ("id", .text s.id),
  ("coach_id", .text s.coachId),
  ("coach_name", .ofText? s.coachName),
  ("title", .text s.title),
  ("starts_at", .text s.startsAt.wire),
  ("ends_at", .text s.endsAt.wire),
  ("max_participants", ofWord32? s.maxParticipants),
  ("price_cents", .ofInt s.priceCents.toInt),
  ("currency", .text s.currency),
  ("status", .text s.status)]

end Session

/-! ## 2. New sessions -/

/-- What is asked for when a session is created. -/
structure NewSession where
  title : String
  startsAt : Instant
  endsAt : Instant
  maxParticipants : Option UInt32
  priceCents : Option Int64
  currency : Option String
  deriving DecidableEq, Repr

namespace NewSession

/-- A rule for new sessions. -/
inductive Fault where
  | blankTitle
  | endNotAfterStart
  | noParticipants
  deriving DecidableEq, Repr

/-- The wording of a broken rule. -/
def Fault.message : Fault → String
  | .blankTitle => "title must not be empty"
  | .endNotAfterStart => "session must end after it starts"
  | .noParticipants => "max participants must be at least 1"

/-- The first rule that the request breaks. -/
def fault? (n : NewSession) : Option Fault :=
  if allBlank n.title then some .blankTitle
  else if !n.startsAt.before n.endsAt then some .endNotAfterStart
  else if n.maxParticipants == some 0 then some .noParticipants
  else none

/-- A declared member of a request. -/
inductive Part where
  | title (s : String)
  | startsAt (t : Instant)
  | endsAt (t : Instant)
  | maxParticipants (n : Option UInt32)
  | priceCents (n : Option Int64)
  | currency (s : Option String)
  deriving DecidableEq

/-- Put a request together. Capacity, price and currency may be absent. -/
def assemble (parts : List Part) : Except String NewSession := do
  let title ← need "title" (parts.findSome? fun | .title s => some s | _ => none)
  let startsAt ← need "starts_at" (parts.findSome? fun | .startsAt t => some t | _ => none)
  let endsAt ← need "ends_at" (parts.findSome? fun | .endsAt t => some t | _ => none)
  .ok {
    title, startsAt, endsAt
    maxParticipants := (parts.findSome? fun | .maxParticipants n => some n | _ => none).getD none
    priceCents := (parts.findSome? fun | .priceCents n => some n | _ => none).getD none
    currency := (parts.findSome? fun | .currency s => some s | _ => none).getD none }

/-- Requests as a record. A list has to hold a value for every member. -/
def record : Record Part NewSession where
  name := "NewSession"
  fields := [
    .of "title" Reader.text .title false,
    .of "starts_at" readInstant .startsAt false,
    .of "ends_at" readInstant .endsAt false,
    .of "max_participants" (Reader.optional Reader.word32) .maxParticipants false,
    .of "price_cents" (Reader.optional Reader.signed64) .priceCents false,
    .of "currency" (Reader.optional Reader.text) .currency false]
  assemble := assemble

/-- The decoder of requests. -/
def decoder : Decoder NewSession := record.decoder

/-- A request as an object; a value that was not given has no member. -/
def toValue (n : NewSession) : Value := .object <|
  [("title", .text n.title), ("starts_at", .text n.startsAt.wire), ("ends_at", .text n.endsAt.wire)]
    ++ (n.maxParticipants.map fun m => ("max_participants", Value.ofNat m.toNat)).toList
    ++ (n.priceCents.map fun p => ("price_cents", Value.ofInt p.toInt)).toList
    ++ (n.currency.map fun c => ("currency", Value.text c)).toList

end NewSession

end CoachClient.Coaching
