/-
CoachClient.Url.Host — the host of a URL.

* `Fault` — why a text is not a URL.
* `Host` — a domain, an address of four bytes, or an address of eight words.
* `readAddress4` — up to four numbers in decimal, octal or hexadecimal, the last
  one filling the bytes that are left.
* `readAddress6` — eight words in hexadecimal, a run of zeros written `::`, the
  last two words possibly as four decimal numbers.
* `Host.parse` — the host of a special URL; `Host.parseOpaque` that of another.
* `Host.text` — its written form, the longest run of zeros written `::`.
-/
import CoachClient.Text.Decimal
import CoachClient.Url.Domain
import CoachClient.Url.Percent

namespace CoachClient.Url

open CoachClient.Text

/-- Why a text is not a URL. -/
inductive Fault where
  | noScheme
  | emptyHost
  | invalidPort
  | invalidAddress4
  | invalidAddress6
  | invalidDomain
  | invalidHostCharacter
  deriving DecidableEq, Repr

/-- The wording of a fault. -/
def Fault.message : Fault → String
  | .noScheme => "relative URL without a base"
  | .emptyHost => "empty host"
  | .invalidPort => "invalid port number"
  | .invalidAddress4 => "invalid IPv4 address"
  | .invalidAddress6 => "invalid IPv6 address"
  | .invalidDomain => "invalid international domain name"
  | .invalidHostCharacter => "invalid domain character"

/-- The host of a URL. -/
inductive Host where
  | domain (name : List Char)
  | address4 (value : Nat)
  | address6 (words : List Nat)
  deriving DecidableEq, Repr

/-! ## 1. Addresses of four bytes -/

/-- What one part of an address is. -/
inductive Part where
  | notNumber
  | tooLarge
  | number (n : Nat)
  deriving DecidableEq

/-- The value of digits in a base, if they are all digits of it. -/
def readBase (base : Nat) (cs : List Char) : Option Nat :=
  cs.foldlM (fun acc c => match hexDigitValue c with
    | some d => if d < base then some (acc * base + d) else none
    | none => none) 0

/-- One part of an address: `0x` stands before hexadecimal digits, `0` before
octal ones; nothing after it is zero. -/
def readPart (cs : List Char) : Part :=
  let (base, ds) : Nat × List Char := match cs with
    | '0' :: 'x' :: ds => (16, ds)
    | '0' :: 'X' :: ds => (16, ds)
    | '0' :: d :: ds => (8, d :: ds)
    | ds => (10, ds)
  if cs.isEmpty then .notNumber
  else match readBase base ds with
    | none => .notNumber
    | some n => if n ≤ maxWord32 then .number n else .tooLarge

/-- The last label of a domain, before a point at its end. -/
def lastLabel (name : List Char) : Option (List Char) :=
  match (splitPoints name).reverse with
  | [] :: label :: _ => some label
  | [] :: [] => none
  | label :: _ => some label
  | [] => none

/-- A domain whose last label is a number has to be an address. -/
def endsInNumber (name : List Char) : Bool :=
  match lastLabel name with
  | none => false
  | some label => (!label.isEmpty && label.all isDigit) || readPart label != .notNumber

/-- The bytes before the last one of an address, with the places they have. -/
def placeParts : (place : Nat) → List Nat → Option Nat
  | _, [] => some 0
  | 0, _ :: _ => none
  | place + 1, n :: ns =>
    if n ≤ 255 then (placeParts place ns).map (· + n * Nat.pow 256 (place + 1)) else none

/-- An address of four bytes. -/
def readAddress4 (name : List Char) : Option Nat := do
  let parts := splitPoints name
  let parts := if parts.getLast? == some [] then parts.dropLast else parts
  let numbers ← parts.mapM fun part => match readPart part with
    | .number n => some n
    | _ => none
  let last ← numbers.getLast?
  if 4 < numbers.length then none
  else if Nat.pow 256 (5 - numbers.length) ≤ last then none
  else (placeParts 3 numbers.dropLast).map (· + last)

/-! ## 2. Addresses of eight words -/

/-- A word of up to four hexadecimal digits. -/
def readWord6 : (max : Nat) → (acc count : Nat) → List Char → Nat × Nat × List Char
  | 0, acc, count, cs => (acc, count, cs)
  | _ + 1, acc, count, [] => (acc, count, [])
  | max + 1, acc, count, c :: cs =>
    match hexDigitValue c with
    | some d => readWord6 max (acc * 16 + d) (count + 1) cs
    | none => (acc, count, c :: cs)

/-- A decimal number up to 255 without a zero in front. -/
def readByte (cs : List Char) : Option Nat :=
  if cs.isEmpty || 3 < cs.length || !cs.all isDigit || (cs.head? == some '0' && 1 < cs.length) then none
  else let n := digitsValue cs; if n ≤ 255 then some n else none

/-- The last two words as four decimal numbers. -/
def readTail6 (cs : List Char) : Option (List Nat) := do
  let bytes ← (splitPoints cs).mapM readByte
  match bytes with
  | [a, b, c, d] => some [a * 256 + b, c * 256 + d]
  | _ => none

/-- The words of an address, and where `::` stood. -/
def readWords6 : Nat → (words : List Nat) → (gap : Option Nat) → List Char →
    Option (List Nat × Option Nat)
  | 0, _, _, _ => none
  | _ + 1, words, gap, [] => some (words, gap)
  | fuel + 1, words, gap, ':' :: cs =>
    if gap.isSome then none else readWords6 fuel words (some words.length) cs
  | fuel + 1, words, gap, c :: cs =>
    if 8 ≤ words.length then none
    else
      let (value, count, rest) := readWord6 4 0 0 (c :: cs)
      match rest with
      | '.' :: _ =>
        if count = 0 || 6 < words.length then none
        else (readTail6 (c :: cs)).map fun tail => (words ++ tail, gap)
      | ':' :: [] => none
      | ':' :: ':' :: more =>
        if count = 0 then none else readWords6 fuel (words ++ [value]) gap (':' :: more)
      | ':' :: more => if count = 0 then none else readWords6 fuel (words ++ [value]) gap more
      | [] => if count = 0 then none else some (words ++ [value], gap)
      | _ :: _ => none

/-- An address of eight words. -/
def readAddress6 (cs : List Char) : Option (List Nat) := do
  let start ← match cs with
    | ':' :: ':' :: rest => some (':' :: rest)
    | ':' :: _ => none
    | _ => some cs
  let (words, gap) ← readWords6 (cs.length + 1) [] none start
  match gap with
  | none => if words.length = 8 then some words else none
  | some place =>
    if 8 ≤ words.length then none
    else some (words.take place ++ List.replicate (8 - words.length) 0 ++ words.drop place)

/-! ## 3. Hosts -/

/-- The host of a special URL: an address in brackets, or a domain that is
percent-decoded first; a domain that ends in a number has to be an address. -/
def Host.parse (cs : List Char) : Except Fault Host :=
  match cs with
  | '[' :: rest =>
    if rest.getLast? == some ']' then
      match readAddress6 rest.dropLast with
      | some words => .ok (.address6 words)
      | none => .error .invalidAddress6
    else .error .invalidAddress6
  | _ =>
    match Utf8.decode (percentDecode cs) with
    | none => .error .invalidDomain
    | some decoded =>
      match domainToAscii decoded.toList with
      | none => .error .invalidDomain
      | some name =>
        if name.isEmpty then .error .emptyHost
        else if endsInNumber name then
          match readAddress4 name with
          | some value => .ok (.address4 value)
          | none => .error .invalidAddress4
        else .ok (.domain name)

/-- The host of a URL that is not special: an address in brackets, or any text
without the characters that part a URL. -/
def Host.parseOpaque (cs : List Char) : Except Fault Host :=
  match cs with
  | '[' :: _ => Host.parse cs
  | _ =>
    if cs.any fun c => c == '\x00' || c == ' '
        || ['#', '/', ':', '<', '>', '?', '@', '[', '\\', ']', '^', '|'].contains c then
      .error .invalidHostCharacter
    else .ok (.domain (percentEncode opaqueSet cs))

/-- The longest run of two or more zeros, as its place and length; the first of
several. -/
def longestZeros : (place : Nat) → List Nat → Option (Nat × Nat)
  | _, [] => none
  | place, w :: ws =>
    let run := ((w :: ws).takeWhile (· == 0)).length
    match longestZeros (place + 1) ws with
    | none => if 2 ≤ run then some (place, run) else none
    | some (p, n) => if 2 ≤ run && n ≤ run then some (place, run) else some (p, n)

/-- Words in hexadecimal, parted by colons. -/
def wordsText (words : List Nat) : List Char :=
  (words.map (Nat.toDigits 16)).intersperse [':'] |>.flatten

/-- The written form of a host. -/
def Host.text : Host → List Char
  | .domain name => name
  | .address4 v =>
    joinPoints [digits (v / 16777216), digits (v / 65536 % 256), digits (v / 256 % 256), digits (v % 256)]
  | .address6 words =>
    match longestZeros 0 words with
    | none => '[' :: wordsText words ++ [']']
    | some (place, run) =>
      '[' :: wordsText (words.take place) ++ ':' :: ':' :: wordsText (words.drop (place + run)) ++ [']']

/-- The host is this machine. -/
def Host.isLoopback : Host → Bool
  | .domain name => name == "localhost".toList
  | .address4 v => v / 16777216 == 127
  | .address6 words => words == [0, 0, 0, 0, 0, 0, 0, 1]

end CoachClient.Url
