/-
CoachClient.Text.Utf8 — the UTF-8 form of a text.

* `encode` — the bytes of a text, each character by its shortest form.
* `decodeFrom` — the text of a list of bytes; it accepts exactly the well-formed
  sequences (no overlong forms, no surrogates, nothing above U+10FFFF) and on
  failure names the offset of the first sequence that is not well formed.
* `decode` — the same from offset zero, without the offset.
-/

namespace CoachClient.Text.Utf8

/-- The bytes of one character. -/
def encodeChar (c : Char) : List UInt8 := String.utf8EncodeChar c

/-- The bytes of a text. -/
def encode (s : String) : List UInt8 := s.toList.flatMap encodeChar

/-- A byte that continues a sequence. -/
def isContinuation (b : UInt8) : Bool := 0x80 ≤ b && b ≤ 0xBF

/-- The first two bytes of a sequence of two. -/
def opensTwo (a b : UInt8) : Bool := 0xC2 ≤ a && a ≤ 0xDF && isContinuation b

/-- The first two bytes of a sequence of three: neither overlong nor a
surrogate. -/
def opensThree (a b : UInt8) : Bool :=
  (a == 0xE0 && 0xA0 ≤ b && b ≤ 0xBF)
    || (0xE1 ≤ a && a ≤ 0xEC && isContinuation b)
    || (a == 0xED && 0x80 ≤ b && b ≤ 0x9F)
    || (0xEE ≤ a && a ≤ 0xEF && isContinuation b)

/-- The first two bytes of a sequence of four: neither overlong nor above the
last code point. -/
def opensFour (a b : UInt8) : Bool :=
  (a == 0xF0 && 0x90 ≤ b && b ≤ 0xBF)
    || (0xF1 ≤ a && a ≤ 0xF3 && isContinuation b)
    || (a == 0xF4 && 0x80 ≤ b && b ≤ 0x8F)

/-- The six low bits of a continuation byte. -/
def payload (b : UInt8) : Nat := b.toNat % 64

/-- Read bytes as text; a failure gives the offset of the first ill-formed
sequence, counted from `offset` for the first byte. -/
def decodeFrom (offset : Nat) : List UInt8 → Except Nat (List Char)
  | [] => .ok []
  | a :: ra =>
    if a < 0x80 then do
      let cs ← decodeFrom (offset + 1) ra
      .ok (Char.ofNat a.toNat :: cs)
    else match ra with
    | [] => .error offset
    | b :: rb =>
      if opensTwo a b then do
        let cs ← decodeFrom (offset + 2) rb
        .ok (Char.ofNat (a.toNat % 32 * 64 + payload b) :: cs)
      else match rb with
      | [] => .error offset
      | c :: rc =>
        if opensThree a b && isContinuation c then do
          let cs ← decodeFrom (offset + 3) rc
          .ok (Char.ofNat ((a.toNat % 16 * 64 + payload b) * 64 + payload c) :: cs)
        else match rc with
        | [] => .error offset
        | d :: rd =>
          if opensFour a b && isContinuation c && isContinuation d then do
            let cs ← decodeFrom (offset + 4) rd
            .ok (Char.ofNat (((a.toNat % 8 * 64 + payload b) * 64 + payload c) * 64 + payload d) :: cs)
          else .error offset

/-- The text of a list of bytes, if they are well formed. -/
def decode (bytes : List UInt8) : Option String :=
  match decodeFrom 0 bytes with
  | .ok cs => some (String.ofList cs)
  | .error _ => none

/-- The number of bytes of one character. -/
def charSize (c : Char) : Nat := c.utf8Size

/-- The number of bytes of a list of characters. -/
def size : List Char → Nat
  | [] => 0
  | c :: cs => charSize c + size cs

/-- The longest beginning of a list of characters whose bytes number at most
`limit`. -/
def fitting (limit : Nat) : List Char → List Char
  | [] => []
  | c :: cs => if charSize c ≤ limit then c :: fitting (limit - charSize c) cs else []

end CoachClient.Text.Utf8
