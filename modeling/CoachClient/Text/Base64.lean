/-
CoachClient.Text.Base64 — bytes in base 64 with padding.

* `Base64.encode` — three bytes become four characters; a last group of one or
  two bytes is filled up with `=`.
-/

namespace CoachClient.Text.Base64

/-- The character for a value below sixty-four. -/
def character (n : Nat) : Char :=
  if n < 26 then Char.ofNat (0x41 + n)
  else if n < 52 then Char.ofNat (0x61 + (n - 26))
  else if n < 62 then Char.ofNat (0x30 + (n - 52))
  else if n = 62 then '+' else '/'

/-- The text of a list of bytes. -/
def encode : List UInt8 → List Char
  | [] => []
  | [a] =>
    let n := a.toNat * 16
    [character (n / 64), character (n % 64), '=', '=']
  | [a, b] =>
    let n := (a.toNat * 256 + b.toNat) * 4
    [character (n / 4096), character (n / 64 % 64), character (n % 64), '=']
  | a :: b :: c :: rest =>
    let n := (a.toNat * 256 + b.toNat) * 256 + c.toNat
    character (n / 262144) :: character (n / 4096 % 64) :: character (n / 64 % 64)
      :: character (n % 64) :: encode rest

end CoachClient.Text.Base64
