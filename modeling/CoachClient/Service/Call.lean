/-
CoachClient.Service.Call — calls to the service on behalf of who is signed in.

* `Call` — what is asked for, before anybody's credential is attached.
* `mergeHeaders` — the headers of a request: a default, those of the call, and
  the credential, which no header of the call can touch.
* `Client` — where the service is and how long to wait for it.
* `Client.dispatch` — a call with a credential as a request.
* `classify` — the result that a status and a body stand for.
* `Client.start`, `Client.send` — make a call with a credential, or with the
  credential of the moment.
-/
import CoachClient.Json.Entries
import CoachClient.Json.Reader
import CoachClient.Service.Failure
import CoachClient.Service.Flow

namespace CoachClient.Service

open CoachClient.Access CoachClient.Http CoachClient.Json CoachClient.Text CoachClient.Time

/-! ## 1. Calls -/

/-- What is asked of the service. -/
structure Call where
  method : String
  /-- A path, possibly with a query, below the address of the service. -/
  endpoint : String
  body : Option Value := none
  /-- Further headers, a later one replacing an earlier one of its name. -/
  headers : List (String × String) := []
  /-- How long to wait, if not as long as usual. -/
  timeout : Option Duration := none
  cancellation : Cancellation := .never

namespace Call

/-- Ask for something. -/
def get (endpoint : String) : Call := { method := "GET", endpoint }

/-- Hand something in. -/
def post (endpoint : String) : Call := { method := "POST", endpoint }

/-- Put something in place. -/
def put (endpoint : String) : Call := { method := "PUT", endpoint }

/-- The call with a body. -/
def withBody (c : Call) (v : Value) : Call := { c with body := some v.sorted }

/-- The call with an object made of pairs of values as its body. -/
def withPairs (c : Call) (pairs : List (Value × Value)) : Except Failure Call :=
  match Value.ofPairs pairs with
  | .ok v => .ok (c.withBody v)
  | .error cause => .error (.refused (.body cause))

end Call

/-! ## 2. Headers -/

/-- What a body is unless the call says otherwise. -/
def jsonType : String := "application/json"

/-- The value of the header that carries a credential. -/
def bearer (credential : String) : String := "Bearer " ++ credential

/-- Add a header of a call. The credential is not for calls to set. -/
def addHeader (hs : Headers) (header : String × String) : Except Refusal Headers :=
  let (name, value) := header
  if !isHeaderName name then .error (.headerName name)
  else if headerName name = authorization then .ok hs
  else if !isHeaderValue value then .error (.headerValue (headerName name))
  else .ok (hs.set (headerName name) value)

/-- The headers of a request. -/
def mergeHeaders (credential : Option String) (extra : List (String × String)) :
    Except Refusal Headers := do
  let hs ← extra.foldlM addHeader [(contentType, jsonType)]
  match credential with
  | none => .ok hs
  | some c =>
    if isHeaderValue (bearer c) then .ok (hs.set authorization (bearer c)) else .error .credential

/-! ## 3. Requests -/

/-- Where the service is and how long to wait for it. -/
structure Client where
  baseUrl : String
  timeout : Duration
  deriving DecidableEq, Repr

namespace Client

/-- The address of an endpoint: exactly one slash parts it from the address of
the service, which loses those at its end. -/
def address (c : Client) (endpoint : String) : String :=
  let base := String.ofList (dropEndWhile (· == '/') c.baseUrl.toList)
  if endpoint.toList.head? = some '/' then base ++ endpoint else base ++ "/" ++ endpoint

/-- A call with a credential as a request. -/
def dispatch (c : Client) (credential : Option String) (call : Call) : Except Refusal Dispatch := do
  let headers ← mergeHeaders credential call.headers
  .ok {
    method := call.method
    url := c.address call.endpoint
    headers
    body := match call.body with
      | some v => Utf8.encode v.compact
      | none => []
    deadline := call.timeout.getD c.timeout
    cancellation := call.cancellation }

end Client

/-! ## 4. Results -/

/-- The result that a status and a body stand for. -/
def classify {α : Type} (d : Decoder α) (endpoint : String) (status : Status)
    (body : List UInt8) : Except Failure α :=
  if !status.isSuccess then .error (.ofResponse status body)
  else if status == .noContent || body.isEmpty then d.decodeNull.mapError (.unreadable endpoint)
  else (d.decode body).mapError (.unreadable endpoint)

/-- The result of a call from what came of its request. -/
def settle {α : Type} (d : Decoder α) (endpoint : String) (deadline : Duration) :
    Outcome → Except Failure α
  | .answered status body => classify d endpoint status body
  | .failed fault => .error (.transport fault)
  | .timedOut => .error (.timedOut endpoint deadline)
  | .cancelled => .error (.cancelled endpoint)

namespace Client

/-- Make a call with a credential. -/
def start {α : Type} (c : Client) (d : Decoder α) (call : Call) (credential : Option String) :
    Flow (Except Failure α) :=
  match c.dispatch credential call with
  | .error refusal => .done (.error (.refused refusal))
  | .ok dispatch =>
    .exchange dispatch fun outcome => .done (settle d call.endpoint dispatch.deadline outcome)

/-- Make a call with the credential of the moment. -/
def send {α : Type} (c : Client) (d : Decoder α) (call : Call) : Flow (Except Failure α) :=
  .observe fun s => c.start d call s.credential?

end Client

end CoachClient.Service
