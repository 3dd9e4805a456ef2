/-
CoachClient.Text.Similarity — how alike two words are.

Two characters agree when they are the same and stand not too far apart. The
similarity of two words is the mean of three shares: of the characters of the
first that agree with one of the second, of those of the second that agree with
one of the first, and of those agreeing that are in the right order.

* `agreements` — the characters that agree, with their places.
* `similarity` — the similarity as a floating point number. The roundings count:
  a sum of shares that makes seven tenths exactly can come out above it.
* `similar` — the candidates that are more than seven tenths similar to a word,
  the most similar one last.
-/
import CoachClient.Number.Binary

namespace CoachClient.Text

open CoachClient.Number

/-- How far apart two characters that agree may stand. -/
def reach (a b : List Char) : Nat := max a.length b.length / 2 - 1

/-- The first place from `low` up to before `high` where a word has a character
and which is not taken. -/
def placeOf (c : Char) (low high : Nat) (taken : List Nat) : (place : Nat) → List Char → Option Nat
  | _, [] => none
  | place, d :: ds =>
    if low ≤ place && place < high && c = d && !taken.contains place then some place
    else placeOf c low high taken (place + 1) ds

/-- The characters of a word that agree with one of `b`, and the places taken in
`b`. -/
def agreements (far : Nat) (b : List Char) :
    (place : Nat) → (taken : List Nat) → List Char → List Char × List Nat
  | _, taken, [] => ([], taken)
  | place, taken, c :: cs =>
    match placeOf c (place - far) (place + far + 1) taken 0 b with
    | some there =>
      let (chars, taken) := agreements far b (place + 1) (there :: taken) cs
      (c :: chars, taken)
    | none => agreements far b (place + 1) taken cs

/-- The characters of a word at the given places, in the order of the word. -/
def charsAt (places : List Nat) (cs : List Char) : List Char :=
  (cs.zipIdx.filter fun (_, place) => places.contains place).map Prod.fst

/-- The number of places where two lists differ. -/
def differences (xs ys : List Char) : Nat :=
  ((xs.zip ys).filter fun (x, y) => x != y).length

/-- The similarity of two words in 64 bits: each share is rounded, and so are the
two sums and the division by three. -/
def similarity (a b : List Char) : Option Magnitude := do
  if a.isEmpty && b.isEmpty then binary64.round 1 1
  else
    let (chars, places) := agreements (reach a b) b 0 [] a
    let agreeing := chars.length
    if agreeing = 0 then binary64.round 0 1
    else
      let swapped := differences chars (charsAt places b) / 2
      let ofFirst ← binary64.round agreeing a.length
      let ofSecond ← binary64.round agreeing b.length
      let inOrder ← binary64.round (agreeing - swapped) agreeing
      let both ← binary64.add ofFirst ofSecond
      let sum ← binary64.add both inOrder
      binary64.div sum (← binary64.round 3 1)

/-- The least similarity that does not count as similar: seven tenths in 64
bits, which is a little less than seven tenths. -/
def similarityBound : Option Magnitude := binary64.round 7 10

/-- The candidates with their similarity to a word, without those that are not
similar to it. -/
def rateSimilar (word : String) (candidates : List String) : List (Magnitude × String) :=
  candidates.filterMap fun c => do
    let rate ← similarity word.toList c.toList
    let bound ← similarityBound
    if bound.isBelow rate then some (rate, c) else none

/-- The candidates that are similar to a word, the most similar one last. -/
def similar (word : String) (candidates : List String) : List String :=
  ((rateSimilar word candidates).mergeSort fun x y => !y.1.isBelow x.1).map Prod.snd

end CoachClient.Text
