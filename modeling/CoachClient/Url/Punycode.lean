/-
CoachClient.Url.Punycode — labels of a domain in letters, digits and hyphens.

A label outside ASCII is written as its ASCII characters, a hyphen, and a list
of differences: the other code points in ascending order, each with the number
of places passed over since the last one. The differences are numbers in base
36 with thresholds that adapt to the sizes seen so far.

* `Punycode.encode` — the written form of a label.
* `Punycode.decode` — the label of a written form, if it is one.
-/

namespace CoachClient.Url.Punycode

/-- The character of a digit in base 36. -/
def digitChar (d : Nat) : Char :=
  if d < 26 then Char.ofNat (0x61 + d) else Char.ofNat (0x30 + (d - 26))

/-- The digit of a character in lower case. -/
def digitOf (c : Char) : Option Nat :=
  if 'a' ≤ c && c ≤ 'z' then some (c.toNat - 0x61)
  else if '0' ≤ c && c ≤ '9' then some (c.toNat - 0x30 + 26)
  else none

/-- The threshold at place `k`. -/
def threshold (k bias : Nat) : Nat :=
  if k ≤ bias then 1 else if bias + 26 ≤ k then 26 else k - bias

/-- Divide by thirty-five until the value is small, counting the places. -/
def shrink : Nat → Nat → Nat → Nat × Nat
  | 0, delta, k => (delta, k)
  | fuel + 1, delta, k => if 455 < delta then shrink fuel (delta / 35) (k + 36) else (delta, k)

/-- The bias after a difference. -/
def adapt (delta count : Nat) (first : Bool) : Nat :=
  let start := if first then delta / 700 else delta / 2
  let (d, k) := shrink (Nat.log2 start + 1) (start + start / count) 0
  k + 36 * d / (d + 38)

/-- The digits of a difference. -/
def encodeDifference : Nat → (bias k q : Nat) → List Char
  | 0, _, _, _ => []
  | fuel + 1, bias, k, q =>
    let t := threshold k bias
    if q < t then [digitChar q]
    else digitChar (t + (q - t) % (36 - t)) :: encodeDifference fuel bias (k + 36) ((q - t) / (36 - t))

/-- The state of encoding: the text so far, the difference, the bias and the
number of characters done. -/
structure Progress where
  out : List Char
  delta : Nat
  bias : Nat
  done : Nat

/-- Go on past one character of the label while looking for code point `m`. -/
def encodeStep (basic m : Nat) (p : Progress) (c : Char) : Progress :=
  if c.toNat < m then { p with delta := p.delta + 1 }
  else if c.toNat = m then
    { out := p.out ++ encodeDifference (Nat.log2 p.delta + 2) p.bias 36 p.delta
      delta := 0
      bias := adapt p.delta (p.done + 1) (p.done == basic)
      done := p.done + 1 }
  else p

/-- Put a number into an ascending list without repetition. -/
def insertAscending (x : Nat) : List Nat → List Nat
  | [] => [x]
  | y :: ys => if x < y then x :: y :: ys else if x = y then y :: ys else y :: insertAscending x ys

/-- The code points in turn, from `n` on. -/
def encodeAll (label : List Char) (basic : Nat) : List Nat → Nat → Progress → Progress
  | [], _, p => p
  | m :: ms, n, p =>
    let p := { p with delta := p.delta + (m - n) * (p.done + 1) }
    let p := label.foldl (encodeStep basic m) p
    encodeAll label basic ms (m + 1) { p with delta := p.delta + 1 }

/-- The written form of a label. -/
def encode (label : List Char) : List Char :=
  let basic := label.filter fun c => c.toNat < 0x80
  let others := (label.filter fun c => 0x80 ≤ c.toNat).foldl (fun acc c => insertAscending c.toNat acc) []
  let p := encodeAll label basic.length others 0x80 ⟨[], 0, 72, basic.length⟩
  (if basic.isEmpty then [] else basic ++ ['-']) ++ p.out

/-- Read one difference onto `i` with weight `w` at place `k`. -/
def decodeDifference (bias : Nat) : (k i w : Nat) → List Char → Option (Nat × List Char)
  | _, _, _, [] => none
  | k, i, w, c :: cs =>
    match digitOf c with
    | none => none
    | some d =>
      let t := threshold k bias
      let i := i + d * w
      if d < t then some (i, cs) else decodeDifference bias (k + 36) i (w * (36 - t)) cs

/-- Put a character at a place of a list. -/
def insertAt (cs : List Char) (i : Nat) (c : Char) : List Char := cs.take i ++ c :: cs.drop i

/-- Read differences until the text ends. -/
def decodeAll : Nat → (n i bias : Nat) → List Char → List Char → Option (List Char)
  | 0, _, _, _, _, _ => none
  | fuel + 1, n, i, bias, out, cs =>
    if cs.isEmpty then some out
    else match decodeDifference bias 36 i 1 cs with
      | none => none
      | some (j, rest) =>
        let size := out.length + 1
        let n := n + j / size
        if 0x10FFFF < n || (0xD800 ≤ n && n ≤ 0xDFFF) then none
        else
          decodeAll fuel n (j % size + 1) (adapt (j - i) size (i == 0))
            (insertAt out (j % size) (Char.ofNat n)) rest

/-- The label of a written form. -/
def decode (cs : List Char) : Option (List Char) :=
  let tail := (cs.reverse.takeWhile (· != '-')).reverse
  let head := cs.take (cs.length - tail.length - 1)
  if tail.length = cs.length then decodeAll (cs.length + 1) 0x80 0 72 [] cs
  else decodeAll (cs.length + 1) 0x80 0 72 head tail

end CoachClient.Url.Punycode
