/-
CoachClient.Url.Reference — references to other resources, as a header gives
them.

* `Url.join` — a reference in the context of a URL of the web. One with a scheme
  of its own stands for itself. Two slashes start another authority, one starts
  another path, and a path without one goes on from the directory of the URL.
* `Url.isNameable` — a request can name the URL: its authority is made of plain
  characters, and it is not too long.
* `Url.refer` — where a reference leads, if a request can go there.

A reference goes through the same functions as a whole URL, so blanks and
characters beyond ASCII in it are encoded and backslashes are slashes.
-/
import CoachClient.Url.Parse

namespace CoachClient.Url

open CoachClient.Text

/-! ## 1. Context -/

/-- The segments that a path goes on from: all but the last one. -/
def Path.directory : Path → List (List Char)
  | .plain _ => []
  | .segments parts => parts.dropLast

/-- What follows two slashes or more: two plain ones are taken away and no more
than these, otherwise all of them. -/
def afterSlashes (k : Kind) (cs : List Char) : List Char :=
  match cs with
  | '/' :: '/' :: rest => rest
  | _ => cs.dropWhile (isSlash k)

/-- A reference without a scheme, in the context of a URL. -/
def joinRelative (base : Url) (cs : List Char) : Except Fault Url :=
  let k := Kind.of base.scheme
  let slashes := (cs.takeWhile (isSlash k)).length
  if 2 ≤ slashes then readHierarchy base.scheme (afterSlashes k cs)
  else
    let path := cs.takeWhile fun c => !endsPath c
    let (query, fragment) := readTail k (cs.dropWhile fun c => !endsPath c)
    if path.isEmpty then .ok { base with query := query <|> base.query, fragment }
    else
      let directory := if slashes = 0 then base.path.directory else []
      .ok { base with path := .segments (readSegments k directory (path.drop slashes)), query, fragment }

/-- A reference in the context of a URL. The scheme of that URL, if fewer than
two slashes follow it, is as good as none. -/
def join (base : Url) (s : String) : Except Fault Url :=
  let cs := significant s
  match splitScheme cs with
  | some (scheme, rest) =>
    if scheme = base.scheme && Kind.of scheme = .special
        && (rest.takeWhile (isSlash .special)).length < 2 then joinRelative base rest
    else readAfterScheme scheme rest
  | none => joinRelative base cs

/-! ## 2. What a request can name -/

/-- A character that stands for itself in an authority. -/
def isPlainChar (c : Char) : Bool :=
  isLetter c || isDigit c
    || ['-', '.', '_', '~', '!', '$', '&', '\x27', '(', ')', '*', '+', ',', ';', '='].contains c

/-- What is kept while an authority is gone through. -/
structure AuthorityScan where
  /-- The colons since the last at sign or closing bracket. -/
  colons : Nat := 0
  opened : Bool := false
  closed : Bool := false
  /-- An encoded byte has come since the last at sign or closing bracket. -/
  encoded : Bool := false
  /-- An at sign has come just before. -/
  afterAt : Bool := false

/-- An authority that a request can be sent to: encoded bytes and several colons
stand only in the user information or in brackets, and a host follows the user
information. -/
def isUsableAuthority : AuthorityScan → List Char → Bool
  | s, [] => s.opened == s.closed && s.colons ≤ 1 && !s.afterAt && !s.encoded
  | s, c :: cs =>
    let s' : AuthorityScan := { s with afterAt := false }
    if c = ':' then s.colons < 8 && isUsableAuthority { s' with colons := s.colons + 1 } cs
    else if c = '[' then !s.encoded && !s.opened && isUsableAuthority { s' with opened := true } cs
    else if c = ']' then
      s.opened && !s.closed
        && isUsableAuthority { s' with colons := 0, closed := true, encoded := false } cs
    else if c = '@' then
      isUsableAuthority { s' with colons := 0, encoded := false, afterAt := true } cs
    else if c = '%' then isUsableAuthority { s' with encoded := true } cs
    else isPlainChar c && isUsableAuthority s' cs

/-- The longest URL that a request can name. -/
def maxTargetLength : Nat := 65534

/-- The longest scheme that a request can name. -/
def maxSchemeLength : Nat := 64

/-- A request can name the URL. One without an authority is taken for an authority
as a whole. -/
def isNameable (u : Url) : Bool :=
  u.text.length ≤ maxTargetLength && match u.authority? with
    | some authority =>
      !authority.isEmpty && u.scheme.length ≤ maxSchemeLength && isUsableAuthority {} authority
    | none => isUsableAuthority {} u.text.toList

/-- The URL as a request names it: without a fragment, and with a path wherever
there is an authority. -/
def named (u : Url) : Url :=
  { u with
    path := if u.host.isSome && u.path = .plain [] then .segments [[]] else u.path
    fragment := none }

/-! ## 3. Destinations -/

/-- Where a reference leads in the context of a URL, if a request can name it. -/
def refer (base : Url) (s : String) : Option Url :=
  match base.join s with
  | .ok u => if u.isNameable then some u.named else none
  | .error _ => none

end CoachClient.Url
