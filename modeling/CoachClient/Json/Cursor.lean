/-
CoachClient.Json.Cursor — a place in a JSON text, and the tokens read there.

* `Cursor` — the bytes that are still to be read and the number already read.
* `Cursor.failHere`, `Cursor.failNext` — a failure reported at the place, or at
  the byte that comes next.
* `Cursor.skipBlanks`, `readWord` — blanks and the words `null`, `true`,
  `false`.
* `readTextBody` — a text after its opening quote, with its escapes resolved.
* `readNumber` — a number; integers that fit a word of 64 bits stay integers,
  every other number becomes a floating point number.
-/
import CoachClient.Json.Failure
import CoachClient.Text.Utf8

namespace CoachClient.Json

open CoachClient.Number CoachClient.Text

/-! ## 1. Places -/

/-- A place in a text: what is left of it, and how many bytes came before. -/
structure Cursor where
  rest : List UInt8
  offset : Nat
  deriving Repr, DecidableEq

/-- The beginning of a text. -/
def Cursor.start (input : List UInt8) : Cursor := ⟨input, 0⟩

/-- A failure at this place. -/
def Cursor.failHere {α : Type} (c : Cursor) (cause : Cause) : Except Failure α :=
  .error ⟨cause, some c.offset⟩

/-- A failure at the byte that comes next; at the end of the text, there. -/
def Cursor.failNext {α : Type} (c : Cursor) (cause : Cause) : Except Failure α :=
  .error ⟨cause, some (if c.rest.isEmpty then c.offset else c.offset + 1)⟩

/-- A blank between tokens. -/
def isBlankByte (b : UInt8) : Bool := b == 0x20 || b == 0x0A || b == 0x09 || b == 0x0D

/-- A decimal digit. -/
def isDigitByte (b : UInt8) : Bool := 0x30 ≤ b && b ≤ 0x39

/-- The place after the leading bytes that satisfy `p`. -/
def passWhile (p : UInt8 → Bool) : List UInt8 → Nat → Cursor
  | [], n => ⟨[], n⟩
  | b :: r, n => if p b then passWhile p r (n + 1) else ⟨b :: r, n⟩

/-- The place after the blanks that stand here. -/
def Cursor.skipBlanks (c : Cursor) : Cursor := passWhile isBlankByte c.rest c.offset

/-- The place after the digits that stand here. -/
def Cursor.skipDigits (c : Cursor) : Cursor := passWhile isDigitByte c.rest c.offset

/-- Read a fixed word. -/
def readWord : List UInt8 → Cursor → Except Failure Cursor
  | [], c => .ok c
  | _ :: _, ⟨[], n⟩ => Cursor.failHere ⟨[], n⟩ .endInValue
  | w :: ws, ⟨b :: r, n⟩ =>
    if b = w then readWord ws ⟨r, n + 1⟩ else Cursor.failHere ⟨r, n + 1⟩ .expectedWord

/-! ## 2. Texts -/

/-- The value of a hexadecimal digit of either case. -/
def hexValue (b : UInt8) : Option Nat :=
  if 0x30 ≤ b && b ≤ 0x39 then some (b.toNat - 0x30)
  else if 0x61 ≤ b && b ≤ 0x66 then some (b.toNat - 0x61 + 10)
  else if 0x41 ≤ b && b ≤ 0x46 then some (b.toNat - 0x41 + 10)
  else none

/-- Four hexadecimal digits. -/
def readHexQuad (c : Cursor) : Except Failure (Nat × Cursor) :=
  match c.rest with
  | a :: b :: d :: e :: r =>
    let next : Cursor := ⟨r, c.offset + 4⟩
    match hexValue a, hexValue b, hexValue d, hexValue e with
    | some h₁, some h₂, some h₃, some h₄ => .ok (((h₁ * 16 + h₂) * 16 + h₃) * 16 + h₄, next)
    | _, _, _, _ => next.failHere .invalidEscape
  | short => Cursor.failHere ⟨[], c.offset + short.length⟩ .endInText

/-- The byte `b` has to come next inside a surrogate pair. -/
def readPairByte (b : UInt8) (c : Cursor) : Except Failure Cursor :=
  match c.rest with
  | [] => c.failHere .endInText
  | x :: r =>
    let next : Cursor := ⟨r, c.offset + 1⟩
    if x = b then .ok next else next.failHere .unfinishedSurrogate

/-- What stands after `\u`: four digits, or a pair of surrogates. -/
def readUnicodeEscape (c : Cursor) : Except Failure (List UInt8 × Cursor) := do
  let (n, c₁) ← readHexQuad c
  if 0xDC00 ≤ n && n ≤ 0xDFFF then c₁.failHere .loneSurrogate
  else if n < 0xD800 || 0xDBFF < n then .ok (Utf8.encodeChar (Char.ofNat n), c₁)
  else
    let c₂ ← readPairByte 0x5C c₁
    let c₃ ← readPairByte 0x75 c₂
    let (m, c₄) ← readHexQuad c₃
    if m < 0xDC00 || 0xDFFF < m then c₄.failHere .loneSurrogate
    else
      .ok (Utf8.encodeChar (Char.ofNat ((n - 0xD800) * 0x400 + (m - 0xDC00) + 0x10000)), c₄)

/-- The byte that a short escape stands for. -/
def shortEscape (b : UInt8) : Option UInt8 :=
  if b = 0x22 then some 0x22
  else if b = 0x5C then some 0x5C
  else if b = 0x2F then some 0x2F
  else if b = 0x62 then some 0x08
  else if b = 0x66 then some 0x0C
  else if b = 0x6E then some 0x0A
  else if b = 0x72 then some 0x0D
  else if b = 0x74 then some 0x09
  else none

/-- What stands after a backslash. -/
def readEscape (c : Cursor) : Except Failure (List UInt8 × Cursor) :=
  match c.rest with
  | [] => c.failHere .endInText
  | b :: r =>
    let next : Cursor := ⟨r, c.offset + 1⟩
    if b = 0x75 then readUnicodeEscape next
    else match shortEscape b with
      | some x => .ok ([x], next)
      | none => next.failHere .invalidEscape

/-- The bytes of a text up to its closing quote, escapes resolved. -/
def readTextBytes : Nat → Cursor → Except Failure (List UInt8 × Cursor)
  | 0, c => c.failHere .endInText
  | fuel + 1, c =>
    match c.rest with
    | [] => c.failHere .endInText
    | b :: r =>
      let next : Cursor := ⟨r, c.offset + 1⟩
      if b = 0x22 then .ok ([], next)
      else if b = 0x5C then do
        let (bytes, c₁) ← readEscape next
        let (more, c₂) ← readTextBytes fuel c₁
        .ok (bytes ++ more, c₂)
      else if b < 0x20 then next.failHere .controlInText
      else do
        let (more, c₁) ← readTextBytes fuel next
        .ok (b :: more, c₁)

/-- A text after its opening quote. Bytes that are not UTF-8 are reported at the
first of them, once the closing quote has been found. -/
def readTextBody (c : Cursor) : Except Failure (String × Cursor) := do
  let (bytes, next) ← readTextBytes (c.rest.length + 1) c
  match Utf8.decode bytes with
  | some s => .ok (s, next)
  | none =>
    match Utf8.decodeFrom c.offset (c.rest.take (next.offset - 1 - c.offset)) with
    | .ok _ => next.failHere .invalidCodePoint
    | .error bad => .error ⟨.invalidCodePoint, some (bad + 1)⟩

/-! ## 3. Numbers -/

/-- Digits read onto `acc` as long as the value fits a word of 64 bits: the
value, whether a digit was left over, and the place reached. -/
def readSignificand (acc : Nat) : List UInt8 → Nat → Nat × Bool × Cursor
  | [], n => (acc, false, ⟨[], n⟩)
  | b :: r, n =>
    if isDigitByte b then
      let value := acc * 10 + (b.toNat - 0x30)
      if value ≤ maxWord64 then readSignificand value r (n + 1) else (acc, true, ⟨b :: r, n⟩)
    else (acc, false, ⟨b :: r, n⟩)

/-- Repeated division by ten to the 308th until the exponent is within the
range of the powers of ten, or nothing is left. -/
def downscale : Nat → Magnitude → Int → Magnitude × Int
  | 0, x, e => (x, e)
  | fuel + 1, x, e =>
    if -308 ≤ e || x.mantissa = 0 then (x, e)
    else match binary64.round (Nat.pow 10 308) 1 with
      | none => (x, e)
      | some p => match binary64.div x p with
        | none => (x, e)
        | some y => downscale fuel y (e + 308)

/-- The floating point number for `significand · 10 ^ exponent`: the rounded
significand is multiplied or divided by a rounded power of ten. -/
def scaleByTen (significand : Nat) (exponent : Int) : Option Magnitude := do
  let x ← binary64.round significand 1
  if x.mantissa = 0 then some x
  else if 308 < exponent then none
  else if 0 ≤ exponent then
    let p ← binary64.round (Nat.pow 10 exponent.toNat) 1
    binary64.mul x p
  else
    let (y, e) := downscale 8 x exponent
    if y.mantissa = 0 then some y
    else
      let p ← binary64.round (Nat.pow 10 (-e).toNat) 1
      binary64.div y p

/-- A scaled number as the result of reading up to `c`. -/
def floatAt (negative : Bool) (significand : Nat) (exponent : Int) (c : Cursor) :
    Except Failure (Number × Cursor) :=
  match scaleByTen significand exponent with
  | some x => .ok (.float negative x, c)
  | none => c.failHere .numberOutOfRange

/-- The digits of an exponent onto `acc`; nothing when the value outgrows a
signed word of 32 bits, with the place after the digit that did it. -/
def readExponentDigits (acc : Nat) : List UInt8 → Nat → Option Nat × Cursor
  | [], n => (some acc, ⟨[], n⟩)
  | b :: r, n =>
    if isDigitByte b then
      let value := acc * 10 + (b.toNat - 0x30)
      if value < 0x80000000 then readExponentDigits value r (n + 1) else (none, ⟨r, n + 1⟩)
    else (some acc, ⟨b :: r, n⟩)

/-- The part of a number after its `e`. -/
def readExponent (negative : Bool) (significand : Nat) (shift : Int) (c : Cursor) :
    Except Failure (Number × Cursor) :=
  let (down, c₁) : Bool × Cursor := match c.rest with
    | 0x2B :: r => (false, ⟨r, c.offset + 1⟩)
    | 0x2D :: r => (true, ⟨r, c.offset + 1⟩)
    | _ => (false, c)
  match c₁.rest with
  | [] => c₁.failHere .endInValue
  | b :: r =>
    let c₂ : Cursor := ⟨r, c₁.offset + 1⟩
    if isDigitByte b then
      match readExponentDigits (b.toNat - 0x30) c₂.rest c₂.offset with
      | (some e, c₃) => floatAt negative significand (if down then shift - e else shift + e) c₃
      | (none, c₃) =>
        if significand != 0 && !down then c₃.failHere .numberOutOfRange
        else .ok (.float negative ⟨0, binary64.minExponent⟩, c₃.skipDigits)
    else c₂.failHere .invalidNumber

/-- An exponent if one stands here, or the number as it is. -/
def readOptionalExponent (negative : Bool) (significand : Nat) (shift : Int) (c : Cursor) :
    Except Failure (Number × Cursor) :=
  match c.rest with
  | 0x65 :: r => readExponent negative significand shift ⟨r, c.offset + 1⟩
  | 0x45 :: r => readExponent negative significand shift ⟨r, c.offset + 1⟩
  | _ => floatAt negative significand shift c

/-- The part of a number after its point. Digits that no longer fit the
significand are passed over. -/
def readFraction (negative : Bool) (significand : Nat) (shift : Int) (c : Cursor) :
    Except Failure (Number × Cursor) :=
  let (value, full, c₁) := readSignificand significand c.rest c.offset
  let exponent := shift - ((c₁.offset - c.offset : Nat) : Int)
  if full then readOptionalExponent negative value exponent c₁.skipDigits
  else if c₁.offset = c.offset then
    if c₁.rest.isEmpty then c₁.failNext .endInValue else c₁.failNext .invalidNumber
  else readOptionalExponent negative value exponent c₁

/-- The rest of a number whose whole part has been read and fits. -/
def finishNumber (negative : Bool) (significand : Nat) (c : Cursor) :
    Except Failure (Number × Cursor) :=
  match c.rest with
  | 0x2E :: r => readFraction negative significand 0 ⟨r, c.offset + 1⟩
  | 0x65 :: r => readExponent negative significand 0 ⟨r, c.offset + 1⟩
  | 0x45 :: r => readExponent negative significand 0 ⟨r, c.offset + 1⟩
  | _ =>
    if !negative then .ok (.int significand, c)
    else if significand = 0 || minInt64Magnitude < significand then floatAt true significand 0 c
    else .ok (.int (-(significand : Int)), c)

/-- The rest of a number whose whole part has outgrown a word of 64 bits: its
further digits only count as places. -/
def finishLongNumber (negative : Bool) (significand : Nat) (c : Cursor) :
    Except Failure (Number × Cursor) :=
  let c₁ := c.skipDigits
  let places : Int := ((c₁.offset - c.offset : Nat) : Int)
  match c₁.rest with
  | 0x2E :: r => readFraction negative significand places ⟨r, c₁.offset + 1⟩
  | _ => readOptionalExponent negative significand places c₁

/-- A number after its sign. -/
def readNumber (negative : Bool) (c : Cursor) : Except Failure (Number × Cursor) :=
  match c.rest with
  | [] => c.failHere .endInValue
  | b :: r =>
    let next : Cursor := ⟨r, c.offset + 1⟩
    if b = 0x30 then
      match r with
      | d :: _ => if isDigitByte d then next.failNext .invalidNumber else finishNumber negative 0 next
      | [] => finishNumber negative 0 next
    else if isDigitByte b then
      let (value, full, c₁) := readSignificand (b.toNat - 0x30) next.rest next.offset
      if full then finishLongNumber negative value c₁ else finishNumber negative value c₁
    else next.failHere .invalidNumber

end CoachClient.Json
