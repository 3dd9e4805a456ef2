/-
CoachClient.Url.Userinfo — a name and a password in a URL.

* `Url.takeUserinfo` — the URL without them, and the two as texts.
-/
import CoachClient.Url.Parse

namespace CoachClient.Url

open CoachClient.Text

/-- The encoded text as text, if it is the encoding of a text. -/
def decodedText (cs : List Char) : Option String := Utf8.decode (percentDecode cs)

/-- A URL without user information, and the name and password that were in it.
Those that are no text stay where they are. -/
def takeUserinfo (u : Url) : Url × Option (String × Option String) :=
  match decodedText u.username with
  | none => (u, none)
  | some name =>
    let password := u.password.bind decodedText
    if name.isEmpty && password.isNone then (u, none)
    else ({ u with username := [], password := none }, some (name, password))

end CoachClient.Url
