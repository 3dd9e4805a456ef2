/-
CoachClient.Number.Shortest — the fewest decimal digits that name a binary
number.

* `Scientific` — digits with the decimal exponent of the first of them.
* `Format.shortest` — among the decimals that round back to the number, one with
  the fewest digits, and of those the nearest to it; of two that are equally
  near, the one with the even last digit.
* `Scientific.positional` — such digits written out around a decimal point.
-/
import CoachClient.Number.Binary

namespace CoachClient.Number

/-- The number `d₁.d₂d₃… · 10 ^ exponent`, its digits without zeros at the
end. -/
structure Scientific where
  digits : List Char
  exponent : Int
  deriving Repr, DecidableEq

/-- The interval of the reals that round to `x`, in units of which `x` is
`4 · mantissa`: the distances to its two ends. Below a power of two the
neighbour is nearer. -/
def Format.gaps (f : Format) (x : Magnitude) : Nat × Nat :=
  (if x.mantissa = Nat.pow 2 (f.precision - 1) && decide (f.minExponent < x.exponent) then 1
    else 2, 2)

/-- The number of places a ratio below one is moved up until it is at least
one. -/
def placesBelowOne (num den : Nat) : Nat → Nat
  | 0 => 0
  | fuel + 1 => if den ≤ num then 0 else placesBelowOne (num * 10) den fuel + 1

/-- The decimal exponent of the first digit of a positive ratio. -/
def decimalExponent (num den : Nat) : Int :=
  if den ≤ num then ((Nat.toDigits 10 (num / den)).length : Int) - 1
  else -(placesBelowOne num den (Nat.log2 den + 1) : Int)

/-- Drop the zeros at the end of a list of digits. -/
def dropTrailingZeros (ds : List Char) : List Char :=
  (ds.reverse.dropWhile (· == '0')).reverse

/-- Search with `count` digits, then with one more, until a decimal falls into
the interval around `num / den`, whose ends are `low / den` and `high / den`. -/
def searchDigits (num low high den : Nat) (closed : Bool) (first : Int) : Nat → Nat → Scientific
  | 0, _ => ⟨['0'], 0⟩
  | fuel + 1, count =>
    let place := first - ((count : Int) - 1)
    let grow := if 0 ≤ place then 1 else Nat.pow 10 (-place).toNat
    let shrink := if 0 ≤ place then Nat.pow 10 place.toNat else 1
    let unit := den * shrink
    let value := num * grow
    let below := value / unit
    let inside (k : Nat) : Bool :=
      let p := k * unit
      if closed then low * grow ≤ p && p ≤ high * grow else low * grow < p && p < high * grow
    let pick (k : Nat) : Scientific :=
      let ds := Nat.toDigits 10 k
      ⟨dropTrailingZeros ds, place + (ds.length : Int) - 1⟩
    let r := value % unit
    match inside below, inside (below + 1) with
    | true, false => pick below
    | false, true => pick (below + 1)
    | true, true =>
      if 2 * r < unit then pick below
      else if unit < 2 * r then pick (below + 1)
      else if below % 2 = 0 then pick below else pick (below + 1)
    | false, false => searchDigits num low high den closed first fuel (count + 1)

/-- The fewest digits that round back to `x`. -/
def Format.shortest (f : Format) (x : Magnitude) : Scientific :=
  if x.mantissa = 0 then ⟨['0'], 0⟩
  else
    let (down, up) := f.gaps x
    let (u, den) := descale 1 1 (2 - x.exponent)
    let num := 4 * x.mantissa * u
    searchDigits num ((4 * x.mantissa - down) * u) ((4 * x.mantissa + up) * u) den
      (x.mantissa % 2 == 0) (decimalExponent num den) 20 1

/-- The digits around a decimal point: the whole part, and the digits after the
point (possibly none). -/
def Scientific.positional (s : Scientific) : List Char × List Char :=
  if s.exponent < 0 then
    (['0'], List.replicate ((-s.exponent).toNat - 1) '0' ++ s.digits)
  else
    let whole := s.exponent.toNat + 1
    (s.digits.take whole ++ List.replicate (whole - s.digits.length) '0', s.digits.drop whole)

end CoachClient.Number
