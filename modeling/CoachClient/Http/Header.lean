/-
CoachClient.Http.Header — header names, header values and lists of headers.

* `isHeaderName`, `isHeaderValue` — what may stand for a name and for a value.
* `Headers` — headers by name in small letters, each name once, in the order in
  which the names came.
* `Headers.set`, `Headers.get?`, `Headers.remove`, `Headers.setAll`.
-/
import CoachClient.Text.Blank
import CoachClient.Text.Utf8

namespace CoachClient.Http

open CoachClient.Text

/-- A character of a header name. -/
def isTokenChar (c : Char) : Bool :=
  ('a' ≤ c && c ≤ 'z') || ('A' ≤ c && c ≤ 'Z') || ('0' ≤ c && c ≤ '9')
    || ['!', '#', '$', '%', '&', '\x27', '*', '+', '-', '.', '^', '_', '\x60', '|', '~'].contains c

/-- The longest name of a header. -/
def maxHeaderName : Nat := 65535

/-- The text is a header name: not empty, not too long, and made of token
characters. -/
def isHeaderName (s : String) : Bool :=
  let cs := s.toList
  !cs.isEmpty && cs.length ≤ maxHeaderName && cs.all isTokenChar

/-- A name without the case of its letters. -/
def headerName (s : String) : String := String.ofList (s.toList.map Char.toLower)

/-- The text is a header value: no controls but the tab. -/
def isHeaderValue (s : String) : Bool :=
  s.toList.all fun c => c == '\t' || (0x20 ≤ c.toNat && c.toNat != 0x7F)

/-- The character may stand around a value without being part of it. -/
def isPadding (c : Char) : Bool := c == ' ' || c == '\t'

/-- A header value as it is received, without the padding around it. -/
def headerValue (s : String) : String :=
  String.ofList (dropEndWhile isPadding (s.toList.dropWhile isPadding))

/-- Headers by name in small letters. -/
abbrev Headers := List (String × String)

/-- Give a header a value, in its place when it is there and at the end when it
is not. -/
def Headers.set (name value : String) : Headers → Headers
  | [] => [(name, value)]
  | (n, v) :: rest => if n = name then (name, value) :: rest else (n, v) :: Headers.set name value rest

/-- The value of a header. -/
def Headers.get? (name : String) : Headers → Option String
  | [] => none
  | (n, v) :: rest => if n = name then some v else Headers.get? name rest

/-- Take a header away. -/
def Headers.remove (name : String) (hs : Headers) : Headers := hs.filter fun h => h.1 != name

/-- Give every header of a list its value. -/
def Headers.setAll (new : Headers) (hs : Headers) : Headers :=
  new.foldl (fun acc h => Headers.set h.1 h.2 acc) hs

/-- The name of the header that carries the credential. -/
def authorization : String := "authorization"

/-- The name of the header that says what a body is. -/
def contentType : String := "content-type"

/-- The name of the header that carries cookies to the service. -/
def cookie : String := "cookie"

/-- The name of the header that carries a cookie from the service. -/
def setCookie : String := "set-cookie"

/-- The name of the header that says where a redirect leads. -/
def location : String := "location"

/-- The name of the header that says who is asking. -/
def userAgent : String := "user-agent"

/-- The name of the header that says which answers are understood. -/
def accept : String := "accept"

end CoachClient.Http
