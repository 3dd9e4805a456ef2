/-
CoachClient.Number.Binary — binary floating point numbers in exact arithmetic.

* `Format` — a binary format by its precision and its range of exponents;
  `binary64` and `binary32` are the two in use.
* `Magnitude` — a non-negative number `mantissa · 2 ^ exponent`; such numbers are
  compared by `Magnitude.isBelow`.
* `Format.round` — the number of a format nearest to a ratio of two natural
  numbers, halves to the even mantissa; nothing when the ratio is too large.
* `Format.mul`, `Format.div`, `Format.add` — the rounded product, quotient and
  sum.

Everything is computed in `Nat` and `Int`, so each result is a closed term that
evaluates in the logic.
-/

namespace CoachClient.Number

/-! ## 1. Formats and numbers -/

/-- A binary floating point format: the mantissa has at most `precision` bits
and the exponent lies between the two bounds. -/
structure Format where
  precision : Nat
  minExponent : Int
  maxExponent : Int
  deriving Repr, DecidableEq

/-- The format of 64 bits. -/
def binary64 : Format := ⟨53, -1074, 971⟩

/-- The format of 32 bits. -/
def binary32 : Format := ⟨24, -149, 104⟩

/-- The non-negative number `mantissa · 2 ^ exponent`. -/
structure Magnitude where
  mantissa : Nat
  exponent : Int
  deriving Repr, DecidableEq

/-- The number as a ratio of natural numbers. -/
def Magnitude.ratio (x : Magnitude) : Nat × Nat :=
  if 0 ≤ x.exponent then (x.mantissa * Nat.pow 2 x.exponent.toNat, 1)
  else (x.mantissa, Nat.pow 2 (-x.exponent).toNat)

/-- The first number is smaller than the second. -/
def Magnitude.isBelow (x y : Magnitude) : Bool :=
  let (a, b) := x.ratio
  let (c, d) := y.ratio
  a * d < c * b

/-! ## 2. Rounding -/

/-- The ratio `num / (den · 2 ^ e)` as a pair. -/
def descale (num den : Nat) (e : Int) : Nat × Nat :=
  if 0 ≤ e then (num, den * Nat.pow 2 e.toNat) else (num * Nat.pow 2 (-e).toNat, den)

/-- The natural number nearest to a ratio; a half goes to the even one. -/
def nearest (num den : Nat) : Nat :=
  let q := num / den
  let r := num % den
  if 2 * r < den then q else if den < 2 * r then q + 1 else if q % 2 = 0 then q else q + 1

/-- The number of the format that is nearest to `num / den`, or nothing when it
would be beyond the largest exponent. -/
def Format.round (f : Format) (num den : Nat) : Option Magnitude :=
  if num = 0 then some ⟨0, f.minExponent⟩
  else
    let spread : Int := (Nat.log2 num : Int) - (Nat.log2 den : Int)
    let low := max (spread - f.precision) f.minExponent
    let (n₀, d₀) := descale num den low
    let e := if Nat.pow 2 f.precision ≤ n₀ / d₀ then low + 1 else low
    let (n, d) := descale num den e
    let m := nearest n d
    let x : Magnitude :=
      if m = Nat.pow 2 f.precision then ⟨Nat.pow 2 (f.precision - 1), e + 1⟩ else ⟨m, e⟩
    if f.maxExponent < x.exponent then none else some x

/-! ## 3. Arithmetic -/

/-- The rounded product. -/
def Format.mul (f : Format) (x y : Magnitude) : Option Magnitude :=
  let (a, b) := x.ratio
  let (c, d) := y.ratio
  f.round (a * c) (b * d)

/-- The rounded quotient; the divisor is not zero. -/
def Format.div (f : Format) (x y : Magnitude) : Option Magnitude :=
  let (a, b) := x.ratio
  let (c, d) := y.ratio
  f.round (a * d) (b * c)

/-- The rounded sum. -/
def Format.add (f : Format) (x y : Magnitude) : Option Magnitude :=
  let (a, b) := x.ratio
  let (c, d) := y.ratio
  f.round (a * d + c * b) (b * d)

end CoachClient.Number
