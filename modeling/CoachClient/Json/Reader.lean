/-
CoachClient.Json.Reader — reading typed values from a JSON text.

A reader goes through the text once, from left to right, and reports the first
fault it meets, whether it is one of the notation or one of the expected shape.

* `Reader α` — reads an `α` at a place, with a number of levels that may still
  be opened.
* `Reader.text`, `Reader.word32`, `Reader.word64`, `Reader.signed64`,
  `Reader.bool`, `Reader.unit`, `Reader.optional`, `Reader.items` — the readers
  of the wire types.
* `readValue` — any value.
* `Decoder α` — a reader together with what it makes of a bare `null`, which is
  what an empty answer stands for.
* `Decoder.decode` — a whole text.
-/
import CoachClient.Json.Skip

namespace CoachClient.Json

open CoachClient.Text

/-- Reads an `α`. The first argument is the number of levels of nesting left. -/
abbrev Reader (α : Type) := Nat → Cursor → Except Failure (α × Cursor)

/-- The levels of nesting a text may have, the outermost level counted too. -/
def maxLevels : Nat := 128

/-! ## 1. Mismatches -/

/-- What stands here instead of the value that was expected. Words, numbers and
texts are read to their end; a list or an object is only recognised. -/
def readFound (c : Cursor) : Except Failure (Found × Cursor) :=
  match c.rest with
  | [] => c.failNext .expectedValue
  | b :: r =>
    let next : Cursor := ⟨r, c.offset + 1⟩
    let ofNumber : Except Failure (Number × Cursor) → Except Failure (Found × Cursor)
      | .ok (.int i, c') => .ok (.int i, c')
      | .ok (.float negative x, c') => .ok (.float negative x, c')
      | .error e => .error e
    if b = 0x6E then (readWord [0x75, 0x6C, 0x6C] next).map (.null, ·)
    else if b = 0x74 then (readWord [0x72, 0x75, 0x65] next).map (.bool true, ·)
    else if b = 0x66 then (readWord [0x61, 0x6C, 0x73, 0x65] next).map (.bool false, ·)
    else if b = 0x2D then ofNumber (readNumber true next)
    else if isDigitByte b then ofNumber (readNumber false c)
    else if b = 0x22 then (readTextBody next).map fun (s, c') => (.text s, c')
    else if b = 0x5B then .ok (.list, c)
    else if b = 0x7B then .ok (.object, c)
    else c.failNext .expectedValue

/-- The failure when a value of another type stands here. -/
def wrongType {α : Type} (expected : String) (c : Cursor) : Except Failure α := do
  let (found, next) ← readFound c
  next.failHere (.wrongType found expected)

/-! ## 2. Plain values -/

/-- A text. -/
def Reader.text : Reader String := fun _ c =>
  let c := c.skipBlanks
  match c.rest with
  | [] => c.failNext .endInValue
  | b :: r => if b = 0x22 then readTextBody ⟨r, c.offset + 1⟩ else wrongType "a string" c

/-- A number, handed to `accept` once it has been read. -/
def readNumeral {α : Type} (expected : String)
    (accept : Number → Cursor → Except Failure (α × Cursor)) (c : Cursor) :
    Except Failure (α × Cursor) :=
  let c := c.skipBlanks
  match c.rest with
  | [] => c.failNext .endInValue
  | b :: r =>
    if b = 0x2D then do
      let (n, next) ← readNumber true ⟨r, c.offset + 1⟩
      accept n next
    else if isDigitByte b then do
      let (n, next) ← readNumber false c
      accept n next
    else wrongType expected c

/-- An integer that satisfies a bound; another integer is a wrong value, a
floating point number a wrong type. -/
def readInteger {α : Type} (expected : String) (fits : Int → Option α) : Reader α := fun _ c =>
  readNumeral expected (fun n next => match n with
    | .int i => match fits i with
      | some a => .ok (a, next)
      | none => next.failHere (.wrongValue (.int i) expected)
    | .float negative x => next.failHere (.wrongType (.float negative x) expected)) c

/-- An unsigned word of 32 bits. -/
def Reader.word32 : Reader UInt32 :=
  readInteger "u32" fun i => if 0 ≤ i && i ≤ maxWord32 then some (UInt32.ofNat i.toNat) else none

/-- An unsigned word of 64 bits. -/
def Reader.word64 : Reader UInt64 :=
  readInteger "u64" fun i => if 0 ≤ i && i ≤ maxWord64 then some (UInt64.ofNat i.toNat) else none

/-- A signed word of 64 bits; every integer that was read is above its lower
bound. -/
def Reader.signed64 : Reader Int64 :=
  readInteger "i64" fun i => if i ≤ maxInt64 then some (Int64.ofInt i) else none

/-- A truth value. -/
def Reader.bool : Reader Bool := fun _ c =>
  let c := c.skipBlanks
  match c.rest with
  | [] => c.failNext .endInValue
  | b :: r =>
    let next : Cursor := ⟨r, c.offset + 1⟩
    if b = 0x74 then (readWord [0x72, 0x75, 0x65] next).map (true, ·)
    else if b = 0x66 then (readWord [0x61, 0x6C, 0x73, 0x65] next).map (false, ·)
    else wrongType "a boolean" c

/-- Nothing but `null`. -/
def Reader.unit : Reader Unit := fun _ c =>
  let c := c.skipBlanks
  match c.rest with
  | [] => c.failNext .endInValue
  | b :: r =>
    if b = 0x6E then (readWord [0x75, 0x6C, 0x6C] ⟨r, c.offset + 1⟩).map ((), ·)
    else wrongType "unit" c

/-- A value or `null`. -/
def Reader.optional {α : Type} (read : Reader α) : Reader (Option α) := fun levels c =>
  let c := c.skipBlanks
  match c.rest with
  | [] => (read levels c).map fun (a, c') => (some a, c')
  | b :: r =>
    if b = 0x6E then (readWord [0x75, 0x6C, 0x6C] ⟨r, c.offset + 1⟩).map (none, ·)
    else (read levels c).map fun (a, c') => (some a, c')

/-- A text with a content of its own; a content that is refused is reported
after the closing quote. -/
def Reader.content {α : Type} (expected : String) (parse : String → Except String α) :
    Reader α := fun _ c =>
  let c := c.skipBlanks
  match c.rest with
  | [] => c.failNext .endInValue
  | b :: r =>
    if b = 0x22 then do
      let (s, next) ← readTextBody ⟨r, c.offset + 1⟩
      match parse s with
      | .ok a => .ok (a, next)
      | .error reason => next.failHere (.invalidContent reason)
    else wrongType expected c

/-! ## 3. Lists -/

/-- Whether another item of a list comes, and the place where it begins or where
the closing bracket stands. -/
def nextItem (first : Bool) (c : Cursor) : Except Failure (Bool × Cursor) :=
  let c := c.skipBlanks
  match c.rest with
  | [] => c.failNext .endInList
  | b :: r =>
    if b = 0x5D then .ok (false, c)
    else if b = 0x2C && !first then
      let next := Cursor.skipBlanks ⟨r, c.offset + 1⟩
      match next.rest with
      | [] => next.failNext .endInValue
      | d :: _ => if d = 0x5D then next.failNext .trailingComma else .ok (true, next)
    else if first then .ok (true, c)
    else c.failNext .expectedListEnd

/-- The place after a closing bracket, or the failure with the place reached. -/
def closeList (c : Cursor) : Except Failure Unit × Cursor :=
  let c := c.skipBlanks
  match c.rest with
  | [] => (c.failNext .endInList, c)
  | b :: r =>
    let next : Cursor := ⟨r, c.offset + 1⟩
    if b = 0x5D then (.ok (), next)
    else if b = 0x2C then
      let next := next.skipBlanks
      match next.rest with
      | d :: _ =>
        if d = 0x5D then (next.failNext .trailingComma, next)
        else (next.failNext .trailingCharacters, next)
      | [] => (next.failNext .trailingCharacters, next)
    else (c.failNext .trailingCharacters, c)

/-- The items of a list up to its closing bracket. -/
def readItems {α : Type} (item : Cursor → Except Failure (α × Cursor)) :
    Nat → (first : Bool) → Cursor → Except Failure (List α × Cursor)
  | 0, _, c => c.failHere .endInList
  | fuel + 1, first, c => do
    let (more, c₁) ← nextItem first c
    if more then
      let (a, c₂) ← item c₁
      let (as, c₃) ← readItems item fuel false c₂
      .ok (a :: as, c₃)
    else .ok ([], c₁)

/-- A list after its opening bracket. -/
def readListBody {α : Type} (item : Cursor → Except Failure (α × Cursor)) (c : Cursor) :
    Except Failure (List α × Cursor) := do
  let (as, c₁) ← readItems item (c.rest.length + 1) true c
  let (closed, c₂) := closeList c₁
  closed
  .ok (as, c₂)

/-- A list of values of one type. -/
def Reader.items {α : Type} (item : Reader α) : Reader (List α) := fun levels c =>
  let c := c.skipBlanks
  match c.rest with
  | [] => c.failNext .endInValue
  | b :: r =>
    if b = 0x5B then
      if levels ≤ 1 then c.failNext .tooDeep
      else readListBody (item (levels - 1)) ⟨r, c.offset + 1⟩
    else wrongType "a sequence" c

/-! ## 4. Objects -/

/-- Whether another member of an object comes, and the place of its opening
quote or of the closing brace. -/
def nextKey (first : Bool) (c : Cursor) : Except Failure (Bool × Cursor) :=
  let c := c.skipBlanks
  match c.rest with
  | [] => c.failNext .endInObject
  | b :: r =>
    if b = 0x7D then .ok (false, c)
    else if b = 0x2C && !first then
      let next := Cursor.skipBlanks ⟨r, c.offset + 1⟩
      match next.rest with
      | [] => next.failNext .endInValue
      | d :: _ =>
        if d = 0x22 then .ok (true, next)
        else if d = 0x7D then next.failNext .trailingComma
        else next.failNext .keyMustBeText
    else if first then
      if b = 0x22 then .ok (true, c) else c.failNext .keyMustBeText
    else c.failNext .expectedObjectEnd

/-- A key at its opening quote. -/
def readKey (c : Cursor) : Except Failure (String × Cursor) :=
  readTextBody ⟨c.rest.drop 1, c.offset + 1⟩

/-- The colon between a key and its value. -/
def readColon (c : Cursor) : Except Failure Cursor :=
  let c := c.skipBlanks
  match c.rest with
  | [] => c.failNext .endInObject
  | b :: r => if b = 0x3A then .ok ⟨r, c.offset + 1⟩ else c.failNext .expectedColon

/-- The place after a closing brace, or the failure with the place reached. -/
def closeObject (c : Cursor) : Except Failure Unit × Cursor :=
  let c := c.skipBlanks
  match c.rest with
  | [] => (c.failNext .endInObject, c)
  | b :: r =>
    if b = 0x7D then (.ok (), ⟨r, c.offset + 1⟩)
    else if b = 0x2C then (c.failNext .trailingComma, c)
    else (c.failNext .trailingCharacters, c)

/-- The members of an object up to its closing brace, each value read by
`value`. -/
def readPairs {α : Type} (value : Cursor → Except Failure (α × Cursor)) :
    Nat → (first : Bool) → Cursor → Except Failure (List (String × α) × Cursor)
  | 0, _, c => c.failHere .endInObject
  | fuel + 1, first, c => do
    let (more, c₁) ← nextKey first c
    if more then
      let (key, c₂) ← readKey c₁
      let c₃ ← readColon c₂
      let (a, c₄) ← value c₃
      let (pairs, c₅) ← readPairs value fuel false c₄
      .ok ((key, a) :: pairs, c₅)
    else .ok ([], c₁)

/-! ## 5. Any value -/

/-- A value of any kind; of several members with one key the last counts. -/
def readValue : Reader Value
  | 0, c => c.skipBlanks.failNext .tooDeep
  | levels + 1, c =>
    let c := c.skipBlanks
    match c.rest with
    | [] => c.failNext .endInValue
    | b :: r =>
      let next : Cursor := ⟨r, c.offset + 1⟩
      if b = 0x6E then (readWord [0x75, 0x6C, 0x6C] next).map (.null, ·)
      else if b = 0x74 then (readWord [0x72, 0x75, 0x65] next).map (.bool true, ·)
      else if b = 0x66 then (readWord [0x61, 0x6C, 0x73, 0x65] next).map (.bool false, ·)
      else if b = 0x2D then (readNumber true next).map fun (n, c') => (.number n, c')
      else if isDigitByte b then (readNumber false c).map fun (n, c') => (.number n, c')
      else if b = 0x22 then (readTextBody next).map fun (s, c') => (.text s, c')
      else if b = 0x5B then
        if levels = 0 then c.failNext .tooDeep
        else do
          let (items, c₁) ← readListBody (readValue levels) next
          .ok (.list items, c₁)
      else if b = 0x7B then
        if levels = 0 then c.failNext .tooDeep
        else do
          let (pairs, c₁) ← readPairs (readValue levels) (next.rest.length + 1) true next
          let (closed, c₂) := closeObject c₁
          closed
          .ok (.object (pairs.foldl (fun ms (k, v) => insertMember k v ms) []), c₂)
      else c.failNext .expectedValue

/-! ## 6. Whole texts -/

/-- How a type is read: from a text, and from a bare `null`. -/
structure Decoder (α : Type) where
  read : Reader α
  ofNull : Except Cause α

/-- A type that a bare `null` does not fit. -/
def Decoder.strict {α : Type} (expected : String) (read : Reader α) : Decoder α :=
  ⟨read, .error (.wrongType .null expected)⟩

/-- One value with nothing but blanks around it. -/
def Decoder.readWhole {α : Type} (d : Decoder α) (input : List UInt8) : Except Failure α := do
  let (a, c) ← d.read maxLevels (Cursor.start input)
  let c := c.skipBlanks
  if c.rest.isEmpty then .ok a else c.failNext .trailingCharacters

/-- Read a whole text. -/
def Decoder.decode {α : Type} (d : Decoder α) (input : List UInt8) : Except Fault α :=
  (d.readWhole input).mapError (Failure.fault input)

/-- What a bare `null` is read as. -/
def Decoder.decodeNull {α : Type} (d : Decoder α) : Except Fault α :=
  d.ofNull.mapError fun cause => ⟨cause, none⟩

/-- Any JSON value. -/
def Decoder.value : Decoder Value := ⟨readValue, .ok .null⟩

/-- Nothing but `null`. -/
def Decoder.unit : Decoder Unit := ⟨Reader.unit, .ok ()⟩

/-- A value or `null`. -/
def Decoder.optional {α : Type} (d : Decoder α) : Decoder (Option α) :=
  ⟨Reader.optional d.read, .ok none⟩

/-- A truth value. -/
def Decoder.bool : Decoder Bool := .strict "a boolean" Reader.bool

/-- A text. -/
def Decoder.text : Decoder String := .strict "a string" Reader.text

/-- An unsigned word of 32 bits. -/
def Decoder.word32 : Decoder UInt32 := .strict "u32" Reader.word32

/-- A list of values of one type. -/
def Decoder.items {α : Type} (d : Decoder α) : Decoder (List α) :=
  .strict "a sequence" (Reader.items d.read)

end CoachClient.Json
