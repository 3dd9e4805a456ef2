/-
CoachClient.Url.Parse — URLs, read the way browsers read them.

* `Url` — scheme, user information, host, port, path, query and fragment.
* `Url.text` — the written form; `Url.target` is what a request line names;
  `Url.origin` is what decides where a request goes.
* `Url.parse` — a URL on its own. Blanks and controls at the ends and tabs and
  line breaks anywhere are dropped. In a special URL a backslash is a slash, any
  number of slashes may follow the scheme, and the authority ends at the first
  slash, question mark or number sign.

Each step splits the text in two and never looks back: the scheme at the first
colon, the authority at the first terminator, the user information at the last
at sign of the authority, the path at the first `?` or `#`.
-/
import CoachClient.Text.Blank
import CoachClient.Url.Host

namespace CoachClient

open CoachClient.Text CoachClient.Url

/-! ## 1. URLs -/

/-- The path of a URL: segments with a slash before each, or any text. -/
inductive Url.Path where
  | plain (text : List Char)
  | segments (parts : List (List Char))
  deriving DecidableEq, Repr

/-- A URL. -/
structure Url where
  scheme : List Char
  username : List Char
  password : Option (List Char)
  host : Option Host
  port : Option Nat
  path : Path
  query : Option (List Char)
  fragment : Option (List Char)
  deriving DecidableEq, Repr

namespace Url

/-- The port that a scheme uses when none is given; only special schemes have
one. -/
def defaultPort (scheme : List Char) : Option Nat :=
  if scheme == "http".toList || scheme == "ws".toList then some 80
  else if scheme == "https".toList || scheme == "wss".toList then some 443
  else if scheme == "ftp".toList then some 21
  else none

/-- The kind of a scheme decides how the rest of a URL is read. -/
inductive Kind where
  | file
  | special
  | other
  deriving DecidableEq, Repr

/-- The kind of a scheme. -/
def Kind.of (scheme : List Char) : Kind :=
  if scheme == "file".toList then .file
  else if (defaultPort scheme).isSome then .special else .other

/-- A backslash is read as a slash. -/
def Kind.foldsBackslash (k : Kind) : Bool := k != .other

/-- The character parts segments. -/
def isSlash (k : Kind) (c : Char) : Bool := c == '/' || (k.foldsBackslash && c == '\\')

/-- The written form of a path. -/
def Path.text : Path → List Char
  | .plain text => text
  | .segments parts => parts.flatMap fun part => '/' :: part

/-- The user information with its at sign. -/
def userinfoText (username : List Char) (password : Option (List Char)) : List Char :=
  match password with
  | some p => username ++ ':' :: p ++ ['@']
  | none => if username.isEmpty then [] else username ++ ['@']

/-- A part that may be absent, with the mark in front of it. -/
def marked (mark : Char) : Option (List Char) → List Char
  | some text => mark :: text
  | none => []

/-- The written form of the authority, if there is one. -/
def authority? (u : Url) : Option (List Char) :=
  u.host.map fun h =>
    userinfoText u.username u.password ++ h.text ++ marked ':' (u.port.map digits)

/-- What stands between the scheme and the path: the authority behind two slashes.
Without one, a path that starts with two slashes gets a point in front of it, so
that it is not taken for an authority. -/
def beforePath (u : Url) : List Char :=
  match u.authority?, u.path with
  | some authority, _ => '/' :: '/' :: authority
  | none, .segments ([] :: _ :: _) => ['/', '.']
  | none, _ => []

/-- The written form of a URL. -/
def text (u : Url) : String :=
  String.ofList
    (u.scheme ++ ':' :: u.beforePath ++ u.path.text ++ marked '?' u.query ++ marked '#' u.fragment)

/-- What a request line names: path and query. -/
def target (u : Url) : String := String.ofList (u.path.text ++ marked '?' u.query)

/-- Where a request to a URL goes: scheme, host and port. -/
structure Origin where
  scheme : List Char
  host : Option Host
  port : Option Nat
  deriving DecidableEq, Repr

/-- The origin of a URL, its port written out. -/
def origin (u : Url) : Origin := ⟨u.scheme, u.host, u.port <|> defaultPort u.scheme⟩

/-- The URL uses one of the two protocols of the web. -/
def isWeb (u : Url) : Bool := u.scheme == "http".toList || u.scheme == "https".toList

/-! ## 2. Splitting -/

/-- The text that is read: without controls and blanks at its ends, without tabs
and line breaks. -/
def significant (s : String) : List Char :=
  (dropEndWhile (fun c => c.toNat ≤ 0x20) (s.toList.dropWhile fun c => c.toNat ≤ 0x20)).filter
    fun c => c != '\t' && c != '\n' && c != '\r'

/-- An ASCII letter. -/
def isLetter (c : Char) : Bool := ('a' ≤ c && c ≤ 'z') || ('A' ≤ c && c ≤ 'Z')

/-- A character of a scheme after its first one. -/
def isSchemeChar (c : Char) : Bool := isLetter c || isDigit c || c == '+' || c == '-' || c == '.'

/-- The scheme in small letters and what follows its colon. -/
def splitScheme (cs : List Char) : Option (List Char × List Char) :=
  let name := cs.takeWhile isSchemeChar
  match cs.dropWhile isSchemeChar, name with
  | ':' :: rest, c :: _ => if isLetter c then some (name.map Char.toLower, rest) else none
  | _, _ => none

/-- The character ends the authority. -/
def endsAuthority (k : Kind) (c : Char) : Bool := isSlash k c || c == '?' || c == '#'

/-- The character ends the path. -/
def endsPath (c : Char) : Bool := c == '?' || c == '#'

/-- The text before and after the last at sign, if there is one. -/
def splitLastAt (cs : List Char) : Option (List Char × List Char) :=
  let back := cs.reverse
  match back.dropWhile (· != '@') with
  | _ :: before => some (before.reverse, (back.takeWhile (· != '@')).reverse)
  | [] => none

/-- The host and the rest, parted at the first colon outside brackets. -/
def splitPort : (inBrackets : Bool) → List Char → List Char × Option (List Char)
  | _, [] => ([], none)
  | inBrackets, c :: cs =>
    if c = ':' && !inBrackets then ([], some cs)
    else
      let (host, port) := splitPort (if c = '[' then true else if c = ']' then false else inBrackets) cs
      (c :: host, port)

/-- A port: digits up to 65535, or nothing. A backslash ends it in any URL; what
stands from there on belongs to the path. -/
def readPort (scheme : List Char) (cs : List Char) : Except Fault (Option Nat × List Char) :=
  let ds := cs.takeWhile isDigit
  let rest := cs.dropWhile isDigit
  let n := digitsValue ds
  if 65535 < n || rest.head?.any (· != '\\') then .error .invalidPort
  else .ok (if ds.isEmpty || defaultPort scheme = some n then none else some n, rest)

/-! ## 3. Authority -/

/-- User information, host and port. -/
structure Authority where
  username : List Char
  password : Option (List Char)
  host : Host
  port : Option Nat
  /-- What was taken for the authority and belongs to the path. -/
  rest : List Char

/-- User name and password of a user information. -/
def readUserinfo (cs : List Char) : List Char × Option (List Char) :=
  let name := percentEncode userinfoSet (cs.takeWhile (· != ':'))
  match cs.dropWhile (· != ':') with
  | _ :: c :: rest => (name, some (percentEncode userinfoSet (c :: rest)))
  | _ => (name, none)

/-- An authority. A special URL needs a host; in any URL user information or a
port needs one, and so does an at sign, unless the URL ends with it. -/
def readAuthority (scheme : List Char) (isEnd : Bool) (cs : List Char) : Except Fault Authority := do
  let (username, password, hostAndPort, credentials) ← match splitLastAt cs with
    | none => .ok ([], none, cs, false)
    | some ([], rest) =>
      if rest.isEmpty && !isEnd then .error Fault.emptyHost else .ok ([], none, rest, false)
    | some (info, rest) =>
      let (name, password) := readUserinfo info
      .ok (name, password, rest, !name.isEmpty || password.isSome)
  let (hostText, portText) := splitPort false hostAndPort
  let host ← if Kind.of scheme == .special then
      if hostText.isEmpty then .error .emptyHost else Host.parse hostText
    else Host.parseOpaque hostText
  if hostText.isEmpty && (portText.isSome || credentials) then .error .emptyHost
  else
    let (port, rest) ← match portText with
      | some ds => readPort scheme ds
      | none => .ok (none, [])
    .ok { username, password, host, port, rest }

/-! ## 4. Path, query and fragment -/

/-- What a segment of a path stands for. -/
inductive Dots where
  /-- For itself. -/
  | none
  /-- For the place it stands at. -/
  | here
  /-- For the segment above. -/
  | above
  deriving DecidableEq, Repr

/-- A segment of dots, of which each may be encoded. -/
def Dots.of (segment : List Char) : Dots :=
  let s := segment.map Char.toLower
  if ["..".toList, "%2e%2e".toList, "%2e.".toList, ".%2e".toList].contains s then .above
  else if [".".toList, "%2e".toList].contains s then .here
  else .none

/-- The segment names a drive: a letter and a colon or a bar. -/
def isDrive : List Char → Bool
  | [letter, mark] => isLetter letter && (mark == ':' || mark == '|')
  | _ => false

/-- One segment less at the end of a path that is kept in reverse. A drive stays
where it is. -/
def goUp : (done : List (List Char)) → List (List Char)
  | [] => []
  | last :: before => if isDrive last then last :: before else before

/-- The pieces of a path between its slashes. -/
def splitSlashes (k : Kind) : List Char → List (List Char)
  | [] => [[]]
  | c :: cs =>
    if isSlash k c then [] :: splitSlashes k cs
    else match splitSlashes k cs with
      | [] => [[c]]
      | piece :: pieces => (c :: piece) :: pieces

/-- Segments put after `done`, which is kept in reverse: dots are resolved, and
dots at the end leave an empty segment. -/
def resolveDots : (done : List (List Char)) → List (List Char) → List (List Char)
  | done, [] => done.reverse
  | done, [last] =>
    match Dots.of last with
    | .above => ([] :: goUp done).reverse
    | .here => ([] :: done).reverse
    | .none => (last :: done).reverse
  | done, segment :: rest =>
    match Dots.of segment with
    | .above => resolveDots (goUp done) rest
    | .here => resolveDots done rest
    | .none => resolveDots (segment :: done) rest

/-- The segments of a path after its first slash, which goes on from the segments
`directory`. -/
def readSegments (k : Kind) (directory : List (List Char)) (cs : List Char) : List (List Char) :=
  resolveDots directory.reverse ((splitSlashes k cs).map (percentEncode pathSet))

/-- The path that follows an authority. Only a special URL has one always. -/
def readPathStart (k : Kind) (cs : List Char) : Path :=
  match cs with
  | [] => if k = .other then .plain [] else .segments [[]]
  | c :: rest =>
    if isSlash k c then .segments (readSegments k [] rest) else .segments (readSegments k [] cs)

/-- A path without the empty segments that it starts with, if anything follows
them. -/
def withoutLeadingSlashes : List (List Char) → List (List Char)
  | [] :: next :: rest => withoutLeadingSlashes (next :: rest)
  | segments => segments

/-- The segments of the path of a local file, and whether they start with a drive,
which is written with a colon. -/
def readFilePath (cs : List Char) : List (List Char) × Bool :=
  let cs := if cs.head?.any (isSlash .file) then cs.drop 1 else cs
  let pieces := (splitSlashes .file cs).map (percentEncode pathSet)
  match pieces.dropWhile fun piece => Dots.of piece != .none with
  | first :: rest =>
    if isDrive first then (resolveDots [first.take 1 ++ [':']] rest, true)
    else (withoutLeadingSlashes (resolveDots [first] rest), false)
  | [] => ([[]], false)

/-- Query and fragment of what follows a path. -/
def readTail (k : Kind) (cs : List Char) : Option (List Char) × Option (List Char) :=
  let set := if k = .other then querySet else specialQuerySet
  let fragmentOf (rest : List Char) : Option (List Char) := match rest with
    | _ :: f => some (percentEncode fragmentSet f)
    | [] => none
  match cs with
  | '?' :: rest =>
    (some (percentEncode set (rest.takeWhile (· != '#'))), fragmentOf (rest.dropWhile (· != '#')))
  | _ => (none, fragmentOf cs)

/-! ## 5. Reading -/

/-- The part of a URL after `//`. -/
def readHierarchy (scheme : List Char) (cs : List Char) : Except Fault Url := do
  let k := Kind.of scheme
  let rest := cs.dropWhile fun c => !endsAuthority k c
  let authority ← readAuthority scheme rest.isEmpty (cs.takeWhile fun c => !endsAuthority k c)
  let rest := authority.rest ++ rest
  let path := readPathStart k (rest.takeWhile fun c => !endsPath c)
  let (query, fragment) := readTail k (rest.dropWhile fun c => !endsPath c)
  .ok {
    scheme, username := authority.username, password := authority.password
    host := some authority.host, port := authority.port, path, query, fragment }

/-- The host of a local file and what follows it. This machine is no host, and
neither is a drive. -/
def readFileHost (cs : List Char) : Except Fault (Host × List Char) := do
  let name := cs.takeWhile fun c => !endsAuthority .file c
  let rest := cs.dropWhile fun c => !endsAuthority .file c
  if isDrive name then .ok (.domain [], cs)
  else if name.isEmpty then .ok (.domain [], rest)
  else
    let host ← Host.parse name
    .ok (if host = .domain "localhost".toList then .domain [] else host, rest)

/-- A local file: the host may be left out, and a path that starts with a drive
has none. -/
def readFile (cs : List Char) : Except Fault Url := do
  let slashes := cs.takeWhile (isSlash .file)
  let (host, rest) ← if 2 ≤ slashes.length then readFileHost (cs.drop 2) else .ok (.domain [], cs)
  let (parts, isOnDrive) := readFilePath (rest.takeWhile fun c => !endsPath c)
  let (query, fragment) := readTail .file (rest.dropWhile fun c => !endsPath c)
  .ok {
    scheme := "file".toList, username := [], password := none
    host := some (if isOnDrive then .domain [] else host), port := none
    path := .segments parts, query, fragment }

/-- A URL without an authority. -/
def readPlain (scheme : List Char) (cs : List Char) : Url :=
  let text := cs.takeWhile fun c => !endsPath c
  let path := match text with
    | '/' :: rest => Path.segments (readSegments .other [] rest)
    | _ => .plain (percentEncode opaqueSet text)
  let (query, fragment) := readTail .other (cs.dropWhile fun c => !endsPath c)
  { scheme, username := [], password := none, host := none, port := none, path, query, fragment }

/-- What follows the colon of a scheme. -/
def readAfterScheme (scheme : List Char) (cs : List Char) : Except Fault Url :=
  match Kind.of scheme with
  | .file => readFile cs
  | .special => readHierarchy scheme (cs.dropWhile (isSlash .special))
  | .other =>
    match cs with
    | '/' :: '/' :: rest => readHierarchy scheme rest
    | _ => .ok (readPlain scheme cs)

/-- Read a URL on its own. -/
def parse (s : String) : Except Fault Url :=
  match splitScheme (significant s) with
  | some (scheme, rest) => readAfterScheme scheme rest
  | none => .error .noScheme

end Url

end CoachClient
