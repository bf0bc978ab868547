/-
The shortest decimal that reads back as a given floating-point number. Among the decimals inside the
interval of reals that round to the number, those with the fewest digits are taken, and of these the
nearest.
-/
import IamConvergence.Number.Binary64

namespace IamConvergence

/-- The decimal `digits · 10 ^ exponent`. -/
structure Decimal where
  digits : Nat
  exponent : Int
  deriving DecidableEq

namespace Decimal

/-- A fraction in units of `10 ^ p`. -/
def inUnits (num den : Nat) (p : Int) : Nat × Nat :=
  (num * tenPow (-p).toNat, den * tenPow p.toNat)

/-- The number of decimal digits of a natural number. -/
def width (n : Nat) : Nat := (Nat.toDigits 10 n).length

/-- The least `k` with `num / den < 10 ^ k`, for a positive fraction. -/
def magnitude (num den : Nat) : Int :=
  if den ≤ num then width (num / den)
  else
    let w := width (den / num)
    if den = num * tenPow (w - 1) then 2 - w else 1 - w

/-- The interval of reals that round to a number, in quarters of the unit `2 ^ exponent`, with
whether its ends belong to it. Below the foot of a binade the spacing is half of that above. -/
structure Interval where
  lower : Nat
  upper : Nat
  closed : Bool

/-- The rounding interval of a number. -/
def Interval.of (x : Binary64) : Interval where
  lower := 4 * x.mantissa - (if x.mantissa = Binary64.binade ∧ -1074 < x.exponent then 1 else 2)
  upper := 4 * x.mantissa + 2
  closed := x.mantissa % 2 == 0

/-- Whether `d` lies in the interval, where `n / m` turns quarters into units of `d`. -/
def Interval.holds (i : Interval) (n m d : Nat) : Bool :=
  if i.closed then i.lower * n ≤ d * m && d * m ≤ i.upper * n
  else i.lower * n < d * m && d * m < i.upper * n

/-- The point of the grid `10 ^ p` that stands for the number, if one of the number's two
neighbours on the grid reads back as it: the nearer, and of two equally near the even one. -/
def onGrid? (x : Binary64) (p : Int) : Option Nat :=
  let (num, den) := Binary64.shifted 1 4 (-x.exponent)
  let (n, m) := inUnits num den p
  let i := Interval.of x
  let v := 4 * x.mantissa * n
  let d := v / m
  match i.holds n m d, i.holds n m (d + 1) with
  | true, true =>
    let r := v % m
    if 2 * r < m then some d
    else if m < 2 * r then some (d + 1)
    else some (if d % 2 = 0 then d else d + 1)
  | true, false => some d
  | false, true => some (d + 1)
  | false, false => none

/-- The first grid with a hit, from one digit to seventeen. -/
def firstGrid (x : Binary64) (k : Int) : List Nat → Decimal
  | [] => ⟨0, 0⟩
  | w :: ws =>
    match onGrid? x (k - w) with
    | some d => ⟨d, k - w⟩
    | none => firstGrid x k ws

/-- The shortest decimal that reads back as a number other than zero. -/
def shortest (x : Binary64) : Decimal :=
  let (num, den) := Binary64.shifted x.mantissa 1 (-x.exponent)
  firstGrid x (magnitude num den) (List.range' 1 17)

/-- Drops zeros at the end of a list of digits, counting them. -/
def trimZeros (ds : List Char) : List Char × Nat :=
  let kept := (ds.reverse.dropWhile (· == '0')).reverse
  (kept, ds.length - kept.length)

/-- How a decimal is laid out: positionally while its leading digit stands for a power of ten in a
given range, otherwise with an exponent. -/
structure Layout where
  leastPositional : Int
  mostPositional : Int
  exponentMark : Char
  plusSign : Bool

/-- The digits of an exponent with its sign. -/
def Layout.exponentText (l : Layout) (e : Int) : List Char :=
  let sign := if e < 0 then ['-'] else if l.plusSign then ['+'] else []
  l.exponentMark :: sign ++ Nat.toDigits 10 e.natAbs

/-- The text of a decimal other than zero. A whole number keeps one zero after the point. -/
def Layout.text (l : Layout) (d : Decimal) : List Char :=
  let (ds, zeros) := trimZeros (Nat.toDigits 10 d.digits)
  let p := d.exponent + zeros
  let lead := p + ds.length - 1
  if l.leastPositional ≤ lead ∧ lead ≤ l.mostPositional then
    if 0 ≤ p then ds ++ List.replicate p.toNat '0' ++ ['.', '0']
    else if 0 ≤ lead then ds.take (lead + 1).toNat ++ '.' :: ds.drop (lead + 1).toNat
    else '0' :: '.' :: List.replicate (-lead - 1).toNat '0' ++ ds
  else
    match ds with
    | [] => []
    | [c] => c :: l.exponentText lead
    | c :: rest => c :: '.' :: rest ++ l.exponentText lead

end Decimal

end IamConvergence
