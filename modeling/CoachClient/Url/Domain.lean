/-
CoachClient.Url.Domain — domain names in ASCII.

* `isForbidden` — the ASCII characters that no domain may hold.
* `readLabel` — a label in letters: one that starts with `xn--` is the written
  form of a label that needs it, and of no other spelling of that label.
* `writeLabel` — a label in ASCII: one with other letters is written in Punycode
  behind `xn--`.
* `domainToAscii` — a domain in ASCII. Its letters are folded and composed, its
  labels are read, and if any letter runs from right to left all of them have to
  keep to one direction.
-/
import CoachClient.Url.Domain.Composition
import CoachClient.Url.Domain.Direction
import CoachClient.Url.Domain.Folding
import CoachClient.Url.Domain.Joining
import CoachClient.Url.Punycode

namespace CoachClient.Url

open CoachClient.Text

/-! ## 1. Points -/

/-- The parts of a text between the points. -/
def splitPoints : List Char → List (List Char)
  | [] => [[]]
  | c :: cs =>
    if c = '.' then [] :: splitPoints cs
    else match splitPoints cs with
      | [] => [[c]]
      | label :: labels => (c :: label) :: labels

/-- The parts joined by points. -/
def joinPoints : List (List Char) → List Char
  | [] => []
  | [label] => label
  | label :: labels => label ++ '.' :: joinPoints labels

/-! ## 2. Labels -/

/-- The ASCII characters that no domain may hold. -/
def isForbidden (c : Char) : Bool :=
  c.toNat ≤ 0x20 || c.toNat == 0x7F
    || ['%', '#', '/', ':', '<', '>', '?', '@', '[', '\\', ']', '^', '|'].contains c

/-- The prefix of labels that are written in Punycode. -/
def codedPrefix : List Char := ['x', 'n', '-', '-']

/-- Every character is one of ASCII. -/
def isAscii (cs : List Char) : Bool := cs.all fun c => c.toNat < 0x80

/-- A label in letters, folded and composed, starts with a letter and has joiners
only where they may stand. -/
def isLabel (label : List Char) : Bool :=
  !codedPrefix.isPrefixOf label && !label.head?.any isMark && joinersFit [] label

/-- The label is as folding and composing leave it. -/
def isSettled (label : List Char) : Bool :=
  label.all (fun c => foldLetter c == some [c]) && composed label == label

/-- A folded and composed label in letters. -/
def readLabel (label : List Char) : Option (List Char) :=
  if codedPrefix.isPrefixOf label then do
    let coded := label.drop codedPrefix.length
    let plain ← if isAscii coded then Punycode.decode coded else none
    if !isAscii plain && isSettled plain && isLabel plain && Punycode.encode plain == coded then
      some plain
    else none
  else if isLabel label then some label
  else none

/-- A label in ASCII. -/
def writeLabel (label : List Char) : List Char :=
  if isAscii label then label else codedPrefix ++ Punycode.encode label

/-! ## 3. Domains -/

/-- A domain in ASCII, or nothing when it is not a domain. -/
def domainToAscii (domain : List Char) : Option (List Char) := do
  let folded ← domain.mapM foldLetter
  let labels ← (splitPoints (composed folded.flatten)).mapM readLabel
  let ascii := joinPoints (labels.map writeLabel)
  let inDisorder := labels.any (·.any turns) && !labels.all keepsDirection
  if ascii.any isForbidden || inDisorder then none else some ascii

end CoachClient.Url
