/-
CoachClient.Http.Cookie — cookies and the jar that keeps them.

* `Cookie` — name, value and where it may be sent.
* `Cookie.read` — a cookie as a response sets it, in the context of the URL that
  answered; one for a foreign domain is refused.
* `Jar.store` — keep the cookies of a response: a cookie replaces the one with
  its domain, path and name, and one that has expired only removes it.
* `Jar.line` — the cookies for a request, as one header value.
-/
import CoachClient.Text.Blank
import CoachClient.Text.Parts
import CoachClient.Time.Instant
import CoachClient.Url.Parse

namespace CoachClient.Http

open CoachClient.Text CoachClient.Time CoachClient.Url

/-! ## 1. Cookies -/

/-- A cookie that is kept. -/
structure Cookie where
  name : List Char
  value : List Char
  /-- The host it was set by or the domain it was set for. -/
  domain : List Char
  /-- It goes to that host only, not to the hosts below the domain. -/
  hostOnly : Bool
  path : List Char
  /-- It goes only where nobody can listen. -/
  secure : Bool
  deriving DecidableEq, Repr

/-- The attributes of a cookie as they are written. -/
structure Attributes where
  domain : Option (List Char) := none
  path : Option (List Char) := none
  maxAge : Option Nat := none
  expires : Option Int := none
  secure : Bool := false

/-- A text without the blanks at both ends. -/
def trimmed (cs : List Char) : List Char := dropEndWhile isBlank (cs.dropWhile isBlank)

/-- A name and the value after its equals sign, both without blanks around
them. -/
def splitPair (cs : List Char) : List Char × Option (List Char) :=
  let (name, value) := cutAt '=' cs
  (trimmed name, value.map trimmed)

/-! ## 2. Dates -/

/-- What follows a fixed text. -/
def takeText (text cs : List Char) : Option (List Char) :=
  if text.isPrefixOf cs then some (cs.drop text.length) else none

/-- What follows the name of a day of the week. -/
def takeWeekday (names : List String) (cs : List Char) : Option (List Char) :=
  names.findSome? fun name => takeText name.toList cs

/-- The days of the week. -/
def weekdays : List String :=
  ["Monday", "Tuesday", "Wednesday", "Thursday", "Friday", "Saturday", "Sunday"]

/-- The days of the week in three letters. -/
def shortWeekdays : List String := ["Mon", "Tue", "Wed", "Thu", "Fri", "Sat", "Sun"]

/-- A month by its three letters. -/
def takeMonth (cs : List Char) : Option (Nat × List Char) :=
  (List.range 12).findSome? fun i => (takeText (monthName (i + 1)) cs).map ((i + 1, ·))

/-- A number of two digits. -/
def takeTwoDigits (cs : List Char) : Option (Nat × List Char) :=
  match cs with
  | a :: b :: rest => if isDigit a && isDigit b then some (digitsValue [a, b], rest) else none
  | _ => none

/-- A number of two digits, a blank standing for a zero in front. -/
def takePaddedDay (cs : List Char) : Option (Nat × List Char) :=
  match cs with
  | ' ' :: d :: rest => if isDigit d then some (digitValue d, rest) else none
  | _ => takeTwoDigits cs

/-- A number of one to four digits. -/
def takeDigits (cs : List Char) : Option (Nat × List Char) :=
  let ds := (cs.take 4).takeWhile isDigit
  if ds.isEmpty then none else some (digitsValue ds, cs.drop ds.length)

/-- A year of up to four digits, possibly with a sign. -/
def takeYear (cs : List Char) : Option (Int × List Char) :=
  match cs with
  | '-' :: rest => (takeDigits rest).map fun (n, rest) => (-(n : Int), rest)
  | '+' :: rest => (takeDigits rest).map fun (n, rest) => ((n : Int), rest)
  | _ => (takeDigits cs).map fun (n, rest) => ((n : Int), rest)

/-- A time of day as seconds. -/
def takeClock (cs : List Char) : Option (Nat × List Char) := do
  let (h, cs) ← takeTwoDigits cs
  let cs ← takeText [':'] cs
  let (m, cs) ← takeTwoDigits cs
  let cs ← takeText [':'] cs
  let (s, cs) ← takeTwoDigits cs
  if h < 24 && m < 60 && s < 60 then some (h * 3600 + m * 60 + s, cs) else none

/-- A year below one hundred is one of the years from 1969 to 2068. -/
def fullYear (y : Int) : Int :=
  if 0 ≤ y && y ≤ 68 then y + 2000 else if 69 ≤ y && y ≤ 99 then y + 1900 else y

/-- The seconds of a date and time, counted from the year zero. -/
def secondsOf (year : Int) (month day clock : Nat) : Option Int := do
  let date ← Date.of? (fullYear year) month day
  some (date.dayNumber * secondsPerDay + clock)

/-- The end of a date: the time of day in Greenwich. -/
def takeGreenwich (cs : List Char) : Option Nat := do
  let (clock, cs) ← takeClock (← takeText [' '] cs)
  if cs == " GMT".toList then some clock else none

/-- A date such as `Sun, 06 Nov 1994 08:49:37 GMT`, or with dashes between day,
month and year. -/
def readShortDate (mark : Char) (cs : List Char) : Option Int := do
  let cs ← takeWeekday shortWeekdays cs
  let (day, cs) ← takeTwoDigits (← takeText ", ".toList cs)
  let (month, cs) ← takeMonth (← takeText [mark] cs)
  let (year, cs) ← takeYear (← takeText [mark] cs)
  let clock ← takeGreenwich cs
  secondsOf year month day clock

/-- A date such as `Sunday, 06-Nov-94 08:49:37 GMT`. -/
def readLongDate (cs : List Char) : Option Int := do
  let cs ← takeWeekday weekdays cs
  let (day, cs) ← takeTwoDigits (← takeText ", ".toList cs)
  let (month, cs) ← takeMonth (← takeText ['-'] cs)
  let (year, cs) ← takeTwoDigits (← takeText ['-'] cs)
  let clock ← takeGreenwich cs
  secondsOf year month day clock

/-- A date such as `Sun Nov  6 08:49:37 1994`. -/
def readPlainDate (cs : List Char) : Option Int := do
  let cs ← takeWeekday shortWeekdays cs
  let (month, cs) ← takeMonth (← takeText [' '] cs)
  let (day, cs) ← takePaddedDay (← takeText [' '] cs)
  let (clock, cs) ← takeClock (← takeText [' '] cs)
  let (year, cs) ← takeYear (← takeText [' '] cs)
  if cs.isEmpty then secondsOf year month day clock else none

/-- A date in one of the forms in use. -/
def readExpiry (cs : List Char) : Option Int :=
  readShortDate ' ' cs <|> readLongDate cs <|> readPlainDate cs <|> readShortDate '-' cs

/-! ## 3. Reading -/

/-- Take one attribute into account; unknown ones and those without a usable
value change nothing. -/
def readAttribute (a : Attributes) (cs : List Char) : Attributes :=
  let (key, value) := splitPair cs
  let name := String.ofList (key.map Char.toLower)
  match name, value with
  | "secure", _ => { a with secure := true }
  | "max-age", some v =>
    let (past, ds) : Bool × List Char := match v with
      | '-' :: ds => (true, ds)
      | ds => (false, ds)
    if !ds.all isDigit then a
    else if past then { a with maxAge := some 0 }
    else { a with maxAge := some (if ds.isEmpty then maxInt64 else digitsValue ds) }
  | "domain", some d => if d.isEmpty then a else { a with domain := some d }
  | "path", some p => { a with path := some p }
  | "expires", some e =>
    match readExpiry e with
    | some t => { a with expires := some t }
    | none => a
  | _, _ => a

/-- The host of a URL as a text. -/
def hostText (u : Url) : List Char := (u.host.map Host.text).getD []

/-- The host of a URL is a domain and not an address. -/
def hasDomain (u : Url) : Bool :=
  match u.host with
  | some (.domain _) => true
  | _ => false

/-- The host of a URL is the domain or lies below it. -/
def domainMatches (u : Url) (domain : List Char) : Bool :=
  hostText u == domain || (hasDomain u && ('.' :: domain).isSuffixOf (hostText u))

/-- The path of a URL as a text. -/
def pathText (u : Url) : List Char := u.path.text

/-- The directory of a path: everything before its last slash. -/
def defaultPath (u : Url) : List Char :=
  let upTo := ((pathText u).reverse.dropWhile (· != '/')).drop 1
  if upTo.isEmpty then ['/'] else upTo.reverse

/-- The path of a URL is the given path or lies below it. -/
def pathMatches (u : Url) (path : List Char) : Bool :=
  let here := pathText u
  here == path
    || (path.isPrefixOf here
        && (path.getLast? == some '/' || (here.drop path.length).head? == some '/'))

/-- Nobody can listen on the way: the connection is encrypted, or it does not
leave this machine. -/
def isTrustworthy (u : Url) : Bool :=
  u.scheme == "https".toList || ((u.host.map Host.isLoopback).getD false)

/-- A domain without a point in front. -/
def withoutPoint (domain : List Char) : List Char :=
  match domain with
  | '.' :: rest => rest
  | _ => domain

/-- A cookie that a response from a URL sets, and whether it has expired at the
second `now`. A domain that is empty counts as none. -/
def Cookie.read (now : Int) (from_ : Url) (line : String) : Option (Cookie × Bool) :=
  match parts ';' line.toList with
  | [] => none
  | pair :: rest =>
    match splitPair pair with
    | (_, none) => none
    | ([], some _) => none
    | (name, some value) =>
      let a := rest.foldl readAttribute {}
      let expired := match a.maxAge, a.expires with
        | some age, _ => age == 0
        | none, some t => decide (t ≤ now)
        | none, none => false
      let path := match a.path with
        | some ('/' :: p) => '/' :: p
        | _ => defaultPath from_
      match trimmed (withoutPoint (a.domain.getD [])) with
      | [] =>
        some ({ name, value, domain := hostText from_, hostOnly := true, path, secure := a.secure }, expired)
      | d =>
        let domain := withoutPoint (d.map Char.toLower)
        if domainMatches from_ domain then
          some ({ name, value, domain, hostOnly := false, path, secure := a.secure }, expired)
        else none

/-! ## 4. The jar -/

/-- The cookies that are kept. -/
abbrev Jar := List Cookie

/-- Two cookies stand for the same thing. -/
def Cookie.sameAs (a b : Cookie) : Bool :=
  a.domain == b.domain && a.path == b.path && a.name == b.name

/-- Keep the cookie of one line of a response. -/
def Jar.storeLine (now : Int) (from_ : Url) (jar : Jar) (line : String) : Jar :=
  match Cookie.read now from_ line with
  | none => jar
  | some (c, expired) =>
    let others := jar.filter fun old => !old.sameAs c
    if expired then others else others ++ [c]

/-- Keep the cookies of a response. -/
def Jar.store (now : Int) (from_ : Url) (lines : List String) (jar : Jar) : Jar :=
  lines.foldl (Jar.storeLine now from_) jar

/-- The cookie goes with a request to a URL. -/
def Cookie.goesTo (u : Url) (c : Cookie) : Bool :=
  (if c.hostOnly then hostText u == c.domain else domainMatches u c.domain)
    && pathMatches u c.path && (!c.secure || isTrustworthy u)

/-- The cookies for a request as one header value, or nothing when there are
none. -/
def Jar.line (u : Url) (jar : Jar) : Option String :=
  let mine := jar.filter (Cookie.goesTo u)
  if mine.isEmpty then none
  else some (String.intercalate "; " (mine.map fun c => String.ofList (c.name ++ '=' :: c.value)))

end CoachClient.Http
