/-
CoachClient.Json.Value — free-form JSON.

* `Number` — an integer, or a floating point number of 64 bits kept as a sign
  and a magnitude.
* `Value` — the six kinds of JSON value. The members of an object are a list of
  pairs; a value that was read has them in ascending order of their keys, a
  value made from a record has them in the order of its fields.
* `insertMember` — put a member into an ascending list, replacing the value of
  a key that is already there.
* `Value.sorted` — every object of a value in ascending order, where the last of
  several members with one key counts.
* `memberOf` — the value of a key.
-/
import CoachClient.Number.Binary

namespace CoachClient.Json

open CoachClient.Number

/-- A JSON number: an integer that fits a word of 64 bits, or a floating point
number of 64 bits. -/
inductive Number where
  | int (value : Int)
  | float (negative : Bool) (magnitude : Magnitude)
  deriving Repr, DecidableEq

/-- A JSON value. -/
inductive Value where
  | null
  | bool (b : Bool)
  | number (n : Number)
  | text (s : String)
  | list (items : List Value)
  | object (members : List (String × Value))
  deriving Repr, BEq, Inhabited

/-- Put a member into a list in ascending order of keys; a key that is there
already gets the new value. -/
def insertMember (key : String) (value : Value) : List (String × Value) → List (String × Value)
  | [] => [(key, value)]
  | (k, v) :: rest =>
    if key = k then (key, value) :: rest
    else if key < k then (key, value) :: (k, v) :: rest
    else (k, v) :: insertMember key value rest

mutual

/-- A value with the members of all its objects in ascending order of keys. -/
def Value.sorted : Value → Value
  | .list items => .list (sortedItems items)
  | .object members => .object (sortedMembers members [])
  | v => v

/-- The items of a list, each sorted. -/
def sortedItems : List Value → List Value
  | [] => []
  | v :: vs => v.sorted :: sortedItems vs

/-- Members put one after the other into an ascending list. -/
def sortedMembers : List (String × Value) → List (String × Value) → List (String × Value)
  | [], done => done
  | (k, v) :: rest, done => sortedMembers rest (insertMember k v.sorted done)

end

/-- The value of a key in a list of members. -/
def memberOf (key : String) : List (String × Value) → Option Value
  | [] => none
  | (k, v) :: rest => if key = k then some v else memberOf key rest

/-- An integer as a value. -/
def Value.ofInt (i : Int) : Value := .number (.int i)

/-- A natural number as a value. -/
def Value.ofNat (n : Nat) : Value := .number (.int n)

/-- A text that may be absent, as a value. -/
def Value.ofText? : Option String → Value
  | none => .null
  | some s => .text s

/-- A list of texts as a value. -/
def Value.ofTexts (ss : List String) : Value := .list (ss.map .text)

end CoachClient.Json
