/-
CoachClient.Http.Exchange — one exchange with a service, redirects included.

* `Fault` — why an exchange fails, with its wording.
* `Dispatch` — a request with its time limit and what becomes of it when nobody
  wants the answer any more.
* `Dispatch.request` — the first request: user information moves from the URL
  into a header, which a header of the same name replaces.
* `followUp` — the request that a response leads to.
* `exchange` — send a request and follow at most ten redirects. A request that
  gets no answer is reported at the URL where the exchange began.
* `perform` — an exchange with its time limit and its cancellation.

Every request that arrives is added to `Traffic.requests`, in order; cookies of
every response go into `Traffic.jar`.
-/
import CoachClient.Http.Cookie
import CoachClient.Http.Message
import CoachClient.Text.Base64
import CoachClient.Time.Duration
import CoachClient.Url.Reference
import CoachClient.Url.Userinfo

namespace CoachClient.Http

open CoachClient.Text CoachClient.Time CoachClient.Url

/-! ## 1. Faults -/

/-- Why an exchange fails. -/
inductive Fault where
  | unusableUrl
  | unsupportedUrl (url : Url)
  | noAnswer (url : Url)
  | brokenBody
  | tooManyRedirects (url : Url)
  deriving DecidableEq, Repr

/-- The place of a fault. -/
def atUrl (what : String) (url : Url) : String := what ++ " for url (" ++ url.text ++ ")"

/-- The wording of a fault. -/
def Fault.message : Fault → String
  | .unusableUrl => "builder error"
  | .unsupportedUrl url => atUrl "builder error" url
  | .noAnswer url => atUrl "error sending request" url
  | .brokenBody => "error decoding response body"
  | .tooManyRedirects url => atUrl "error following redirect" url

/-! ## 2. The first request -/

/-- When the answer to a request stops being wanted. -/
inductive Cancellation where
  | never
  /-- Before anything is sent. -/
  | before
  /-- As soon as the request has arrived. -/
  | onArrival
  deriving DecidableEq, Repr

/-- What is asked of the client: the parts of a request, and the limits of its
exchange. -/
structure Dispatch where
  method : String
  url : String
  headers : Headers
  body : List UInt8
  deadline : Duration
  cancellation : Cancellation
  deriving DecidableEq, Repr

/-- A name and a password as the value of a header. -/
def basicCredential (name : String) (password : Option String) : String :=
  "Basic " ++ String.ofList (Base64.encode (Utf8.encode (name ++ ":" ++ password.getD "")))

/-- Who is asking. -/
def agent : String := "coachline/0.1.0"

/-- Give a header a value unless it has one. -/
def Headers.setDefault (name value : String) (hs : Headers) : Headers :=
  if (hs.get? name).isSome then hs else hs.set name value

/-- The first request of a dispatch. -/
def Dispatch.request (d : Dispatch) : Except Fault Request := do
  let url ← (Url.parse d.url).mapError fun _ => Fault.unusableUrl
  let (url, userinfo) := url.takeUserinfo
  if !url.isWeb || !url.isNameable then .error (.unsupportedUrl url)
  else
    let fromUrl : Headers := match userinfo with
      | some (name, password) => [(authorization, basicCredential name password)]
      | none => []
    let headers := (Headers.setAll d.headers fromUrl).setDefault accept "*/*"
    .ok { method := d.method, url, headers := headers.setDefault userAgent agent, body := d.body }

/-! ## 3. Redirects -/

/-- The redirects that are followed in one exchange. -/
def maxRedirects : Nat := 10

/-- Headers that describe a body. -/
def bodyHeaders : List String :=
  [contentType, "content-length", "content-encoding", "transfer-encoding"]

/-- Headers that are meant for one host only. -/
def hostHeaders : List String :=
  [authorization, cookie, "cookie2", "proxy-authorization", "www-authenticate"]

/-- Take several headers away. -/
def Headers.removeAll (names : List String) (hs : Headers) : Headers :=
  names.foldl (fun acc name => acc.remove name) hs

/-- The request without its body. -/
def Request.withoutBody (r : Request) : Request :=
  { r with body := [], headers := r.headers.removeAll bodyHeaders }

/-- The request as a redirect with a status wants it repeated, or nothing when
the status is no redirect. -/
def Request.redirected (r : Request) (status : Status) : Option Request :=
  match status.code with
  | 301 | 302 => some (if r.method == "POST" then { r.withoutBody with method := "GET" } else r)
  | 303 => some (if r.method == "HEAD" then r.withoutBody else { r.withoutBody with method := "GET" })
  | 307 | 308 => some r
  | _ => none

/-- Two URLs lead to the same host and port. -/
def sameHost (a b : Url) : Bool := a.host == b.host && a.origin.port == b.origin.port

/-- The request that a response leads to. A redirect without a usable target is an
ordinary response and leads nowhere. -/
def followUp (r : Request) (response : Response) : Option Request := do
  let next ← r.redirected response.status
  let url ← r.url.refer (← response.first? location)
  let headers := if sameHost r.url url then next.headers else next.headers.removeAll hostHeaders
  some { next with url, headers }

/-! ## 4. Exchanges -/

/-- What has gone over the wire so far. -/
structure Traffic where
  jar : Jar
  /-- The requests that have arrived. -/
  requests : List Request
  deriving DecidableEq, Repr

/-- Nothing yet. -/
def Traffic.none : Traffic := ⟨[], []⟩

/-- How an exchange ends. -/
inductive Ending where
  | answered (status : Status) (body : List UInt8)
  | failed (fault : Fault)
  | silent
  deriving DecidableEq, Repr

/-- The request with the cookies for its URL, unless it has its own. -/
def Request.withCookies (r : Request) (jar : Jar) : Request :=
  match jar.line r.url with
  | some line => { r with headers := r.headers.setDefault cookie line }
  | none => r

/-- The response to a request can have a body. -/
def mayHaveBody (method : String) (status : Status) : Bool :=
  method != "HEAD" && status.code != 204 && status.code != 304

/-- The end of an exchange with a response that is not followed any further. -/
def ending (r : Request) (response : Response) (whole : Bool) : Ending :=
  if !mayHaveBody r.method response.status then .answered response.status []
  else if whole then .answered response.status response.body
  else .failed .brokenBody

/-- What one request comes to. -/
inductive Step where
  | over (ending : Ending)
  | onward (next : Request)
  deriving DecidableEq, Repr

/-- What becomes of a request once its response is there. -/
def Request.proceed (r : Request) (response : Response) (whole : Bool) : Step :=
  match followUp r response with
  | some next => .onward next
  | none => .over (ending r response whole)

/-- Send one request of an exchange that began with the URL `first`. -/
def step (service : Service) (now : Int) (first : Url) (r : Request) (t : Traffic) :
    Step × Traffic :=
  let sent := r.withCookies t.jar
  let arrived : Traffic := { t with requests := t.requests ++ [sent] }
  let received (response : Response) : Traffic :=
    { arrived with jar := t.jar.store now r.url (response.all setCookie) }
  match service t.requests sent with
  | .unreachable => (.over (.failed (.noAnswer first)), t)
  | .closed => (.over (.failed (.noAnswer first)), arrived)
  | .silence => (.over .silent, arrived)
  | .full response => (r.proceed response true, received response)
  | .broken response => (r.proceed response false, received response)

/-- Send a request, and follow redirects as long as `hops` are left. -/
def exchange (service : Service) (now : Int) (first : Url) :
    (hops : Nat) → Request → Traffic → Ending × Traffic
  | 0, r, t =>
    match step service now first r t with
    | (.over ending, t') => (ending, t')
    | (.onward _, t') => (.failed (.tooManyRedirects r.url.named), t')
  | hops + 1, r, t =>
    match step service now first r t with
    | (.over ending, t') => (ending, t')
    | (.onward next, t') =>
      if next.url.isWeb then exchange service now first hops next t'
      else (.failed (.unsupportedUrl next.url), t')

/-! ## 5. Limits -/

/-- What comes of a dispatch. -/
inductive Outcome where
  | answered (status : Status) (body : List UInt8)
  | failed (fault : Fault)
  | timedOut
  | cancelled
  deriving DecidableEq, Repr

/-- How an exchange without a cancellation ends. -/
def Ending.outcome : Ending → Outcome
  | .answered status body => .answered status body
  | .failed fault => .failed fault
  | .silent => .timedOut

/-- Carry out a dispatch. One that is cancelled beforehand does nothing; one
that may not take any time does not get as far as the wire. -/
def perform (service : Service) (now : Int) (d : Dispatch) (t : Traffic) : Outcome × Traffic :=
  match d.cancellation, d.request with
  | .before, _ => (.cancelled, t)
  | _, .error fault => (.failed fault, t)
  | cancellation, .ok r =>
    if d.deadline.isZero then (.timedOut, t)
    else
      let (ending, t') := exchange service now r.url maxRedirects r t
      if cancellation = .onArrival && t.requests.length < t'.requests.length then
        (.cancelled, { t with requests := t'.requests.take (t.requests.length + 1) })
      else (ending.outcome, t')

end CoachClient.Http
