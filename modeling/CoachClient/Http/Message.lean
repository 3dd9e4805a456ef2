/-
CoachClient.Http.Message — what goes over the wire, and who answers.

* `Request`, `Response` — the two messages of an exchange.
* `Answer` — what comes of a request: a whole response, one that breaks off, a
  connection that is closed, silence, or nobody there to take it.
* `Service` — any behaviour of the other side: an answer to a request, given the
  requests that have arrived before it.
* `Service.scripted` — a service that gives prepared answers one after another.
-/
import CoachClient.Http.Header
import CoachClient.Http.Status
import CoachClient.Url.Parse

namespace CoachClient.Http

open CoachClient.Url

/-- A request as it is sent. -/
structure Request where
  method : String
  url : Url
  headers : Headers
  /-- No bytes when there is no body. -/
  body : List UInt8
  deriving DecidableEq, Repr

/-- A response as it is received, its header names in any case and possibly
repeated. -/
structure Response where
  status : Status
  headers : List (String × String)
  body : List UInt8
  deriving DecidableEq, Repr

/-- The values of all headers of a response with a name. -/
def Response.all (r : Response) (name : String) : List String :=
  (r.headers.filter fun h => headerName h.1 == name).map fun h => headerValue h.2

/-- The value of the first header of a response with a name. -/
def Response.first? (r : Response) (name : String) : Option String := (r.all name).head?

/-- What comes of a request. -/
inductive Answer where
  /-- The response arrives in full. -/
  | full (r : Response)
  /-- The connection breaks before the end of the body. -/
  | broken (r : Response)
  /-- The connection is closed without a response. -/
  | closed
  /-- Nothing ever comes back. -/
  | silence
  /-- There is nobody to take the request. -/
  | unreachable
  deriving DecidableEq, Repr

/-- A behaviour of the other side: its answer to a request after earlier ones. -/
abbrev Service := (earlier : List Request) → Request → Answer

/-- A service at one origin that gives prepared answers in order, and the same
answer to every request after them. Nobody is anywhere else. -/
def Service.scripted (origin : Origin) (script : List Answer) (afterwards : Answer) : Service :=
  fun earlier r =>
    if r.url.origin = origin then (script[earlier.length]?).getD afterwards else .unreachable

end CoachClient.Http
