/-
Finite numbers in 64-bit binary floating point. A magnitude is kept as its place among all finite
magnitudes, counted from zero, so that equal magnitudes have one form and the next place is the next
larger magnitude. Arithmetic is exact on natural numbers and rounds once, a half to the even
neighbour.
-/
import IamConvergence.Number.Power

namespace IamConvergence

/-- The number of magnitudes in a binade, from a power of two up to the next. -/
def Binary64.binade : Nat := twoPow 52

/-- The number of finite magnitudes. -/
def Binary64.places : Nat := 2047 * Binary64.binade

/-- A finite 64-bit floating-point number. -/
structure Binary64 where
  negative : Bool
  place : Nat
  place_lt : place < Binary64.places := by decide
  deriving DecidableEq

/-- A quotient rounded to the nearest integer, a half to the even neighbour. -/
def roundDiv (num den : Nat) : Nat :=
  let q := num / den
  let r := num % den
  if 2 * r < den then q
  else if den < 2 * r then q + 1
  else if q % 2 = 0 then q else q + 1

namespace Binary64

/-! ## Meaning -/

/-- The integer that `2 ^ exponent` multiplies. -/
def mantissa (x : Binary64) : Nat :=
  if x.place < binade then x.place else binade + x.place % binade

/-- The power of two that the mantissa counts. -/
def exponent (x : Binary64) : Int :=
  if x.place < binade then -1074 else (x.place / binade : Nat) - 1075

/-- Positive zero. -/
def zero : Binary64 := ⟨false, 0, by decide⟩

/-- Whether two numbers have the same value; the two zeros do. -/
def same (x y : Binary64) : Bool :=
  x.place == y.place && (x.negative == y.negative || x.place == 0)

/-! ## Rounding -/

/-- The fraction `num / den` divided by `2 ^ e`, as a numerator and a denominator. -/
def shifted (num den : Nat) (e : Int) : Nat × Nat :=
  (num * twoPow (-e).toNat, den * twoPow e.toNat)

/-- The exponent under which `num / den` has a mantissa of 53 bits, or the least exponent. -/
def exponentFor (num den : Nat) : Int :=
  let e : Int := (num.log2 : Int) - (den.log2 : Int) - 52
  let (n, d) := shifted num den e
  max (if n < d * binade then e - 1 else e) (-1074)

/-- The place nearest to a positive fraction. A mantissa that rounds up to 2^53 carries into the
next binade by the addition. -/
def placeOf (num den : Nat) : Nat :=
  if num = 0 then 0
  else
    let e := exponentFor num den
    let (n, d) := shifted num den e
    (e + 1074).toNat * binade + roundDiv n d

/-- The number nearest to a fraction, if it does not exceed the largest finite one. -/
def ofFraction? (negative : Bool) (num den : Nat) : Option Binary64 :=
  if h : placeOf num den < places then some ⟨negative, placeOf num den, h⟩ else none

/-- The number nearest to `num / den` times `2 ^ e`. -/
def ofScaled? (negative : Bool) (num den : Nat) (e : Int) : Option Binary64 :=
  let (n, d) := shifted num den (-e)
  ofFraction? negative n d

/-- The number nearest to a natural number. -/
def ofNat? (n : Nat) : Option Binary64 := ofFraction? false n 1

/-- The number nearest to an integer. -/
def ofInt? (i : Int) : Option Binary64 := ofFraction? (i < 0) i.natAbs 1

/-! ## Arithmetic -/

/-- Rounded product. -/
def mul? (x y : Binary64) : Option Binary64 :=
  ofScaled? (x.negative != y.negative) (x.mantissa * y.mantissa) 1 (x.exponent + y.exponent)

/-- Rounded quotient; the divisor is not zero. -/
def div? (x y : Binary64) : Option Binary64 :=
  ofScaled? (x.negative != y.negative) x.mantissa y.mantissa (x.exponent - y.exponent)

/-- The number nearest to a power of ten. -/
def tenPow? (k : Nat) : Option Binary64 := ofNat? (tenPow k)

/-- The largest `k` for which `10 ^ k` is finite. -/
def greatestTenPow : Nat := 308

/-- Scales up by a power of ten with one rounding of the power and one of the product. Beyond the
largest finite power of ten only zero stays finite. -/
def scaleUp? (x : Binary64) (k : Nat) : Option Binary64 :=
  if k ≤ greatestTenPow then (tenPow? k).bind x.mul?
  else if x.place = 0 then some x else none

/-- Divides `n` times by the largest finite power of ten; zero stays as it is. -/
def divGreatest? (x : Binary64) : Nat → Option Binary64
  | 0 => some x
  | n + 1 =>
    if x.place = 0 then some x
    else ((tenPow? greatestTenPow).bind x.div?).bind (divGreatest? · n)

/-- Scales down by a power of ten: by the largest finite one until the rest is at most that, then
by the rest. -/
def scaleDown? (x : Binary64) (k : Nat) : Option Binary64 :=
  let n := (k - 1) / greatestTenPow
  (x.divGreatest? n).bind fun y => (tenPow? (k - n * greatestTenPow)).bind y.div?

/-- Scales by a power of ten of either sign. -/
def scaleTen? (x : Binary64) (e : Int) : Option Binary64 :=
  if 0 ≤ e then x.scaleUp? e.toNat else x.scaleDown? (-e).toNat

end Binary64

end IamConvergence
