/-
CoachClient.Service.Failure — why a call to the service fails.

* `Refusal` — why a call cannot be made into a request.
* `Details` — what a service says about a failure: the members of an object.
* `Failure` — the ways a call can fail.
* `Failure.ofResponse` — the failure that a response stands for.
* `detailMessage` — the first of the keys `error`, `detail`, `message` and `body`
  that has something to say.
* `Failure.describe` — the full wording; `Failure.message` — the wording for the
  user, which for a failure that the service reports is what the service says.
-/
import CoachClient.Http.Exchange
import CoachClient.Json.Reader

namespace CoachClient.Service

open CoachClient.Http CoachClient.Json CoachClient.Text CoachClient.Time

/-! ## 1. Reasons -/

/-- Why a call cannot be made into a request. -/
inductive Refusal where
  | headerName (name : String)
  | headerValue (name : String)
  | credential
  | segment (id : String)
  | body (cause : Cause)
  /-- A reason given in words. -/
  | stated (text : String)
  deriving DecidableEq, Repr

/-- The wording of a refusal. -/
def Refusal.message : Refusal → String
  | .headerName name => "invalid header name " ++ quoted name
  | .headerValue name => "invalid value for header " ++ name
  | .credential => "credential contains characters not allowed in a header"
  | .segment id => "invalid id " ++ quoted id
  | .body cause => "body could not be encoded: " ++ cause.message
  | .stated text => text

/-- What a service says about a failure. -/
abbrev Details := List (String × Value)

/-- Why a call fails. -/
inductive Failure where
  /-- There is no response. -/
  | transport (fault : Http.Fault)
  /-- The service reports a failure. -/
  | reported (status : Status) (details : Details)
  /-- The answer is not what was asked for. -/
  | unreadable (endpoint : String) (fault : Json.Fault)
  | timedOut (endpoint : String) (after : Duration)
  | cancelled (endpoint : String)
  /-- There was no request. -/
  | refused (refusal : Refusal)

/-! ## 2. Wording -/

/-- The most bytes of a body that are shown. -/
def maxShown : Nat := 500

/-- A text as far as it is shown; what is cut says how long it was. -/
def cutShown (cs : List Char) : List Char :=
  let size := Utf8.size cs
  if size ≤ maxShown then cs
  else Utf8.fitting maxShown cs ++ "... (truncated, ".toList ++ digits size ++ " total bytes)".toList

/-- The key under which something other than an object is kept. -/
def otherKey : String := "body"

/-- The keys under which services say what went wrong, the first one first. -/
def messageKeys : List String := ["error", "detail", "message", otherKey]

/-- What a value says: a text says itself, unless it is empty, `null` says
nothing, and all else says its JSON text. -/
def saidBy : Value → Option String
  | .null => none
  | .text s => if s.isEmpty then none else some s
  | v => some (String.ofList (cutShown v.compactChars))

/-- What a service says about a failure in its own words. -/
def detailMessage (details : Details) : Option String :=
  messageKeys.findSome? fun key => (memberOf key details).bind saidBy

/-- All that a service says about a failure. -/
def describeDetails (details : Details) : String :=
  match detailMessage details with
  | some message => message
  | none =>
    if details.isEmpty then "no details"
    else String.ofList (cutShown (Value.object details).compactChars)

namespace Failure

/-- The failure that a response stands for. What is no JSON, and `null`, says
nothing. -/
def ofResponse (status : Status) (body : List UInt8) : Failure :=
  match Decoder.value.decode body with
  | .ok (.object members) => .reported status members
  | .ok .null | .error _ => .reported status []
  | .ok v => .reported status [(otherKey, v)]

/-- The full wording. -/
def describe : Failure → String
  | .transport fault => "Network error: " ++ fault.message
  | .reported status details => "API error " ++ status.text ++ ": " ++ describeDetails details
  | .unreadable endpoint fault => "Invalid response from " ++ endpoint ++ ": " ++ fault.message
  | .timedOut endpoint after =>
    "Request to " ++ endpoint ++ " timed out after " ++ String.ofList after.secondsText ++ "s"
  | .cancelled endpoint => "Request to " ++ endpoint ++ " was cancelled"
  | .refused refusal => "Invalid request: " ++ refusal.message

/-- The wording for the user. -/
def message : Failure → String
  | .reported status details =>
    (detailMessage details).getD (status.reason?.getD "Request failed")
  | f => f.describe

/-- The status of the response, if the service reports the failure. -/
def status? : Failure → Option Status
  | .reported status _ => some status
  | _ => none

/-- What the service says about the failure. -/
def details? : Failure → Option Details
  | .reported _ details => some details
  | _ => none

/-- The service does not know who is asking. -/
def isUnauthorized (f : Failure) : Bool := f.status? == some Status.unauthorized

/-- Who is asking may not do this. -/
def isForbidden (f : Failure) : Bool := f.status? == some Status.forbidden

/-- There is no such thing. -/
def isNotFound (f : Failure) : Bool := f.status? == some Status.notFound

end Failure

end CoachClient.Service
