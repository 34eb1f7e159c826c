/-!
Finite binary64 numbers as integers times powers of two: rounding of a fraction to the nearest
such number, and the product and quotient of two of them, each rounded once.
-/

namespace Brokerage

/-- `mantissa * 2 ^ exponent`, without a sign. -/
structure Magnitude where
  mantissa : Nat
  exponent : Int
  deriving DecidableEq, Repr

/-- A finite binary64 number; zero has a sign too. -/
structure Binary64 where
  negative : Bool
  magnitude : Magnitude
  deriving DecidableEq, Repr

namespace Magnitude

/-- `base ^ k` as a numerator and a denominator, for an exponent of either sign. -/
def power (base : Nat) (k : Int) : Nat × Nat :=
  if 0 ≤ k then (Nat.pow base k.toNat, 1) else (1, Nat.pow base (-k).toNat)

def numerator (x : Magnitude) : Nat := x.mantissa * (power 2 x.exponent).1

def denominator (x : Magnitude) : Nat := (power 2 x.exponent).2

/-- The integer nearest to `num / den`; a half goes to the even neighbour. -/
def roundToEven (num den : Nat) : Nat :=
  let q := num / den
  let twice := 2 * (num % den)
  if twice < den then q
  else if den < twice then q + 1
  else if q % 2 = 0 then q else q + 1

/-- The exponent that gives `num / den` a mantissa of 53 bits, or the least exponent there is. -/
def exponentFor (num den : Nat) : Int :=
  let guess : Int := num.log2 - den.log2 - 53
  let (up, down) := power 2 guess
  let wide := num * down < Nat.pow 2 53 * (den * up)
  max (if wide then guess else guess + 1) (-1074)

/-- The number nearest to `num / den`, or `none` past the largest finite number. -/
def nearest? (num den : Nat) : Option Magnitude :=
  if num = 0 then some ⟨0, -1074⟩
  else
    let e := exponentFor num den
    let (up, down) := power 2 e
    let m := roundToEven (num * down) (den * up)
    let x : Magnitude := if m = Nat.pow 2 53 then ⟨Nat.pow 2 52, e + 1⟩ else ⟨m, e⟩
    if 971 < x.exponent then none else some x

def mul? (x y : Magnitude) : Option Magnitude :=
  nearest? (x.numerator * y.numerator) (x.denominator * y.denominator)

def div? (x y : Magnitude) : Option Magnitude :=
  nearest? (x.numerator * y.denominator) (x.denominator * y.numerator)

end Magnitude

end Brokerage
