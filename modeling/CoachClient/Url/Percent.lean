/-
CoachClient.Url.Percent — percent-encoding.

* `EncodeSet` — which ASCII characters a part of a URL cannot hold as they are;
  controls and everything outside ASCII are encoded in every part.
* `percentEncode` — the encoded characters, each byte as `%` and two digits in
  upper case.
* `percentDecode` — the bytes of a text; a `%` without two digits stands for
  itself.
-/
import CoachClient.Text.Utf8

namespace CoachClient.Url

open CoachClient.Text

/-- The printable ASCII characters that have to be encoded. -/
abbrev EncodeSet := List Char

/-- In a path that is not made of segments only controls are encoded. -/
def opaqueSet : EncodeSet := []

/-- In a fragment. -/
def fragmentSet : EncodeSet := [' ', '"', '<', '>', '\x60']

/-- In a query. -/
def querySet : EncodeSet := [' ', '"', '#', '<', '>']

/-- In the query of a special URL. -/
def specialQuerySet : EncodeSet := querySet ++ ['\x27']

/-- In a segment of a path. -/
def pathSet : EncodeSet := fragmentSet ++ ['#', '?', '{', '}']

/-- In a user name or password. -/
def userinfoSet : EncodeSet := pathSet ++ ['/', ':', ';', '=', '@', '[', '\\', ']', '^', '|']

/-- A hexadecimal digit in upper case. -/
def upperHexDigit (n : Nat) : Char :=
  if n < 10 then Char.ofNat (0x30 + n) else Char.ofNat (0x41 + (n - 10))

/-- One byte as `%` and two digits. -/
def percentByte (b : UInt8) : List Char :=
  ['%', upperHexDigit (b.toNat / 16), upperHexDigit (b.toNat % 16)]

/-- The character has to be encoded. -/
def mustEncode (set : EncodeSet) (c : Char) : Bool :=
  c.toNat < 0x20 || 0x7F ≤ c.toNat || set.contains c

/-- One character, encoded if it has to be. -/
def percentEncodeChar (set : EncodeSet) (c : Char) : List Char :=
  if mustEncode set c then (Utf8.encodeChar c).flatMap percentByte else [c]

/-- A text with the characters encoded that have to be. -/
def percentEncode (set : EncodeSet) (cs : List Char) : List Char :=
  cs.flatMap (percentEncodeChar set)

/-- The value of a hexadecimal digit of either case. -/
def hexDigitValue (c : Char) : Option Nat :=
  if '0' ≤ c && c ≤ '9' then some (c.toNat - 0x30)
  else if 'a' ≤ c && c ≤ 'f' then some (c.toNat - 0x61 + 10)
  else if 'A' ≤ c && c ≤ 'F' then some (c.toNat - 0x41 + 10)
  else none

/-- The bytes that an encoded text stands for. -/
def percentDecode : List Char → List UInt8
  | [] => []
  | '%' :: a :: b :: rest =>
    match hexDigitValue a, hexDigitValue b with
    | some h, some l => UInt8.ofNat (h * 16 + l) :: percentDecode rest
    | _, _ => 0x25 :: percentDecode (a :: b :: rest)
  | c :: rest => Utf8.encodeChar c ++ percentDecode rest

end CoachClient.Url
