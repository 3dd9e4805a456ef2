/-
CoachClient.Json.Entries — objects made of pairs of values.

* `Value.asKey` — the key that a value can serve as: a text itself, a number or
  a truth value by its text. Nothing else is a key.
* `Value.ofPairs` — the object with such members.
-/
import CoachClient.Json.Failure

namespace CoachClient.Json

/-- The key that a value can serve as. -/
def Value.asKey : Value → Option String
  | .text s => some s
  | .number n => some (String.ofList n.text)
  | .bool b => some (if b then "true" else "false")
  | .null | .list _ | .object _ => none

/-- The object with the given members, or the reason why there is none. -/
def Value.ofPairs (pairs : List (Value × Value)) : Except Cause Value := do
  let members ← pairs.mapM fun (k, v) =>
    match k.asKey with
    | some key => .ok (key, v)
    | none => .error Cause.keyMustBeText
  .ok (.object members)

end CoachClient.Json
