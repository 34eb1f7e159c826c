import Brokerage.Binary64.Basic

/-!
The shortest decimal that reads back: of the decimals in the interval that rounds to a number, one
with the fewest digits, and of those the nearest.
-/

namespace Brokerage

/-- The digits of a decimal, none of them a zero at the end, and the exponent of the first. -/
structure Decimal where
  digits : List Char
  exponent : Int
  deriving DecidableEq, Repr

namespace Magnitude

/-- The exponent of the first decimal digit of `num / den`, both positive. -/
def decimalExponent (num den : Nat) : Int :=
  if den ≤ num then ((Nat.toDigits 10 (num / den)).length : Int) - 1
  else -(Nat.toDigits 10 ((num + den - 1) / num - 1)).length

/-- The grid of decimals with last digit at `10 ^ k`, laid over quarters of the last binary place:
how long a step and a quarter are in a common unit. -/
def gridStep (x : Magnitude) (k : Int) : Nat × Nat :=
  let (tenUp, tenDown) := power 10 k
  let (twoUp, twoDown) := power 2 (x.exponent - 2)
  (tenUp * twoDown, twoUp * tenDown)

/-- The decimal `q * 10 ^ k` lies in the interval of numbers that round to `x`. The ends belong to
it if the mantissa is even; below a power of two the interval is half as wide. -/
def reads (x : Magnitude) (k : Int) (q : Nat) : Bool :=
  let (step, quarter) := x.gridStep k
  let below := if x.mantissa = Nat.pow 2 52 && -1074 < x.exponent then 1 else 2
  let low := (4 * x.mantissa - below) * quarter
  let high := (4 * x.mantissa + 2) * quarter
  if x.mantissa % 2 = 0 then low ≤ q * step && q * step ≤ high
  else low < q * step && q * step < high

/-- The nearest point of the grid at `10 ^ k` that reads back as `x`, if one does. -/
def onGrid? (x : Magnitude) (k : Int) : Option Nat :=
  let (step, quarter) := x.gridStep k
  let here := 4 * x.mantissa * quarter
  let q := here / step
  let down := x.reads k q
  let up := x.reads k (q + 1)
  if down && up then
    if 2 * (here % step) < step then some q
    else if step < 2 * (here % step) then some (q + 1)
    else if q % 2 = 0 then some q else some (q + 1)
  else if down then some q
  else if up then some (q + 1)
  else none

def dropTrailingZeros (digits : List Char) : List Char :=
  (digits.reverse.dropWhile (· == '0')).reverse

/-- The shortest decimal that reads back as `x`; seventeen digits always do. -/
def shortest (x : Magnitude) : Decimal :=
  let top := decimalExponent x.numerator x.denominator
  let found := (List.range 17).findSome? fun (n : Nat) =>
    (x.onGrid? (top - n)).map fun q => (q, top - n)
  match found with
  | none => ⟨['0'], 0⟩
  | some (q, k) =>
    let digits := Nat.toDigits 10 q
    ⟨dropTrailingZeros digits, k + digits.length - 1⟩

end Magnitude

/-- Digits and a point, for a decimal of any size; a whole number ends in `.0`. -/
def Decimal.positional (d : Decimal) : List Char :=
  if d.exponent < 0 then
    ['0', '.'] ++ List.replicate (-d.exponent - 1).toNat '0' ++ d.digits
  else
    let whole := d.exponent.toNat + 1
    if d.digits.length ≤ whole then
      d.digits ++ List.replicate (whole - d.digits.length) '0' ++ ['.', '0']
    else d.digits.take whole ++ '.' :: d.digits.drop whole

/-- One digit before the point, and the exponent with its sign. -/
def Decimal.scientific (d : Decimal) : List Char :=
  let mantissa := match d.digits with
    | [] => []
    | [first] => [first]
    | first :: rest => first :: '.' :: rest
  let sign := if d.exponent < 0 then '-' else '+'
  mantissa ++ 'e' :: sign :: Nat.toDigits 10 d.exponent.natAbs

namespace Binary64

def signChars (x : Binary64) : List Char := if x.negative then ['-'] else []

/-- The number as a record holds it: in full from `1e-5` up to `1e16`, scientific outside. -/
def recordText (x : Binary64) : List Char :=
  if x.magnitude.mantissa = 0 then x.signChars ++ ['0', '.', '0']
  else
    let d := x.magnitude.shortest
    if -5 ≤ d.exponent && d.exponent < 16 then x.signChars ++ d.positional
    else x.signChars ++ d.scientific

end Binary64

end Brokerage
