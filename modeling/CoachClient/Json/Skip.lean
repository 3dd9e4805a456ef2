/-
CoachClient.Json.Skip — passing over a value without looking into it.

A member whose name a record does not declare is passed over. Its value has to
be well formed, but it may be nested to any depth, its texts may hold any bytes
outside ASCII, and its numbers may be of any size.

* `skipText`, `skipNumber` — one token.
* `Frame` — a list or an object that is open.
* `skipValue` — a whole value. The open frames are kept as a list, so the work
  is a plain loop whatever the nesting.
-/
import CoachClient.Json.Cursor

namespace CoachClient.Json

/-! ## 1. Tokens -/

/-- Pass over what stands after a backslash; the digits of a code point are
checked but not what they name. -/
def skipEscape (c : Cursor) : Except Failure Cursor :=
  match c.rest with
  | [] => c.failHere .endInText
  | b :: r =>
    let next : Cursor := ⟨r, c.offset + 1⟩
    if b = 0x75 then (readHexQuad next).map Prod.snd
    else if (shortEscape b).isSome then .ok next
    else next.failHere .invalidEscape

/-- Pass over a text after its opening quote. -/
def skipTextBody : Nat → Cursor → Except Failure Cursor
  | 0, c => c.failHere .endInText
  | fuel + 1, c =>
    match c.rest with
    | [] => c.failHere .endInText
    | b :: r =>
      let next : Cursor := ⟨r, c.offset + 1⟩
      if b = 0x22 then .ok next
      else if b = 0x5C then do
        let c₁ ← skipEscape next
        skipTextBody fuel c₁
      else if b < 0x20 then c.failHere .controlInText
      else skipTextBody fuel next

/-- Pass over a text after its opening quote. -/
def skipText (c : Cursor) : Except Failure Cursor := skipTextBody (c.rest.length + 1) c

/-- Pass over an exponent after its `e`. -/
def skipExponent (c : Cursor) : Except Failure Cursor :=
  let c₁ : Cursor := match c.rest with
    | 0x2B :: r => ⟨r, c.offset + 1⟩
    | 0x2D :: r => ⟨r, c.offset + 1⟩
    | _ => c
  match c₁.rest with
  | [] => c₁.failHere .invalidNumber
  | b :: r =>
    let next : Cursor := ⟨r, c₁.offset + 1⟩
    if isDigitByte b then .ok next.skipDigits else next.failHere .invalidNumber

/-- Pass over an exponent if one stands here. -/
def skipOptionalExponent (c : Cursor) : Except Failure Cursor :=
  match c.rest with
  | 0x65 :: r => skipExponent ⟨r, c.offset + 1⟩
  | 0x45 :: r => skipExponent ⟨r, c.offset + 1⟩
  | _ => .ok c

/-- Pass over what follows the whole part of a number. -/
def skipNumberTail (c : Cursor) : Except Failure Cursor :=
  match c.rest with
  | 0x2E :: r =>
    let c₁ : Cursor := ⟨r, c.offset + 1⟩
    let c₂ := c₁.skipDigits
    if c₂.offset = c₁.offset then c₂.failNext .invalidNumber else skipOptionalExponent c₂
  | _ => skipOptionalExponent c

/-- Pass over a number after its sign. -/
def skipNumber (c : Cursor) : Except Failure Cursor :=
  match c.rest with
  | [] => c.failHere .invalidNumber
  | b :: r =>
    let next : Cursor := ⟨r, c.offset + 1⟩
    if b = 0x30 then
      match r with
      | d :: _ => if isDigitByte d then next.failNext .invalidNumber else skipNumberTail next
      | [] => skipNumberTail next
    else if isDigitByte b then skipNumberTail next.skipDigits
    else next.failHere .invalidNumber

/-! ## 2. Values -/

/-- A list or an object that has been opened and not yet closed. -/
inductive Frame where
  | list
  | object
  deriving Repr, DecidableEq

/-- The failure when something other than a comma or the end follows an item. -/
def Frame.expectedEnd : Frame → Cause
  | .list => .expectedListEnd
  | .object => .expectedObjectEnd

/-- The failure when the text ends inside the frame. -/
def Frame.unfinished : Frame → Cause
  | .list => .endInList
  | .object => .endInObject

/-- The byte that closes the frame. -/
def Frame.closing : Frame → UInt8
  | .list => 0x5D
  | .object => 0x7D

/-- What a value begins with: a whole token, or an opening bracket. -/
def skipOpening (c : Cursor) : Except Failure (Option Frame × Cursor) :=
  match c.rest with
  | [] => c.failNext .endInValue
  | b :: r =>
    let next : Cursor := ⟨r, c.offset + 1⟩
    if b = 0x6E then (readWord [0x75, 0x6C, 0x6C] next).map (none, ·)
    else if b = 0x74 then (readWord [0x72, 0x75, 0x65] next).map (none, ·)
    else if b = 0x66 then (readWord [0x61, 0x6C, 0x73, 0x65] next).map (none, ·)
    else if b = 0x2D then (skipNumber next).map (none, ·)
    else if isDigitByte b then (skipNumber c).map (none, ·)
    else if b = 0x22 then (skipText next).map (none, ·)
    else if b = 0x5B then .ok (some .list, next)
    else if b = 0x7B then .ok (some .object, next)
    else c.failNext .expectedValue

/-- Close every frame that ends here. The answer is the frames still open, the
innermost first, at the place where their next item or key begins; when none is
left the value is complete. A comma is only accepted after an item. -/
def skipClosings : Nat → (afterItem : Bool) → List Frame → Cursor →
    Except Failure (List Frame × Cursor)
  | 0, _, _, c => c.failHere .endInValue
  | _ + 1, _, [], c => .ok ([], c)
  | fuel + 1, afterItem, frame :: outer, c =>
    let c₁ := c.skipBlanks
    match c₁.rest with
    | [] => c₁.failNext frame.unfinished
    | b :: r =>
      let next : Cursor := ⟨r, c₁.offset + 1⟩
      if b = 0x2C && afterItem then .ok (frame :: outer, next)
      else if b = frame.closing then skipClosings fuel true outer next
      else if afterItem then c₁.failNext frame.expectedEnd
      else .ok (frame :: outer, c₁)

/-- Pass over a key and its colon. -/
def skipKey (c : Cursor) : Except Failure Cursor := do
  let c₁ := c.skipBlanks
  match c₁.rest with
  | [] => c₁.failNext .endInObject
  | b :: r =>
    if b = 0x22 then
      let c₂ ← skipText ⟨r, c₁.offset + 1⟩
      let c₃ := c₂.skipBlanks
      match c₃.rest with
      | [] => c₃.failNext .endInObject
      | d :: s => if d = 0x3A then .ok ⟨s, c₃.offset + 1⟩ else c₃.failNext .expectedColon
    else c₁.failNext .keyMustBeText

/-- Pass over values until all frames are closed. -/
def skipWithin : Nat → List Frame → Cursor → Except Failure Cursor
  | 0, _, c => c.failHere .endInValue
  | fuel + 1, frames, c => do
    let (opened, c₁) ← skipOpening c.skipBlanks
    let (left, c₂) ← match opened with
      | some frame => skipClosings (frames.length + 2) false (frame :: frames) c₁
      | none => skipClosings (frames.length + 2) true frames c₁
    match left with
    | [] => .ok c₂
    | .list :: _ => skipWithin fuel left c₂
    | .object :: _ => do
      let c₃ ← skipKey c₂
      skipWithin fuel left c₃

/-- Pass over one value. -/
def skipValue (c : Cursor) : Except Failure Cursor := skipWithin (c.rest.length + 1) [] c

end CoachClient.Json
