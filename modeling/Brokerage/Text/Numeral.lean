/-!
Numerals. Those in settings are decimal: an optional plus sign and at least one ASCII digit, with no
blanks and no separators. One is read only if its number lies below a bound, and what is wrong with
one that cannot be read is what its first bad character shows. Other texts begin with digits of some
base, or are written as numbers that need not be whole.
-/

namespace Brokerage.Text.Numeral

def isDigit (c : Char) : Bool := '0' ≤ c && c ≤ '9'

def digitValue (c : Char) : Nat := c.toNat - 48

/-- The value of a hexadecimal digit of either case. -/
def hexValue? (c : Char) : Option Nat :=
  if isDigit c then some (digitValue c)
  else if 'a' ≤ c && c ≤ 'f' then some (c.toNat - 87)
  else if 'A' ≤ c && c ≤ 'F' then some (c.toNat - 55)
  else none

/-- The values of the digits that a text begins with. -/
def leading (value? : Char → Option Nat) : List Char → List Nat
  | [] => []
  | c :: rest =>
    match value? c with
    | some value => value :: leading value? rest
    | none => []

/-- The number of digits with these values in some base, most significant first. -/
def ofValues (base : Nat) (values : List Nat) : Nat := values.foldl (base * · + ·) 0

/-- The number that a row of digits denotes, most significant first. -/
def ofDigits (digits : List Char) : Nat :=
  digits.foldl (fun n c => 10 * n + digitValue c) 0

/-- `cs` without a plus sign at its front. -/
def unsigned : List Char → List Char
  | '+' :: rest => rest
  | cs => cs

/-- The number that `s` denotes, if `s` is a numeral and the number is below `bound`. -/
def read? (bound : Nat) (s : String) : Option Nat :=
  let digits := unsigned s.toList
  if digits ≠ [] && digits.all isDigit && ofDigits digits < bound then some (ofDigits digits)
  else none

/-- A row of digits with `E` or `e` before it and perhaps a sign, or nothing. -/
def isExponent : List Char → Bool
  | [] => true
  | c :: rest =>
    let digits := match rest with
      | '+' :: digits | '-' :: digits => digits
      | digits => digits
    (c = 'e' || c = 'E') && digits ≠ [] && digits.all isDigit

/-- `cs` is written as a number without a sign that need not be whole: digits with perhaps a point
among them and an exponent behind them, or a name. -/
def isUnsignedDecimal (cs : List Char) : Bool :=
  let whole := cs.takeWhile isDigit
  let (fraction, rest) := match cs.drop whole.length with
    | '.' :: rest => (rest.takeWhile isDigit, rest.dropWhile isDigit)
    | rest => ([], rest)
  ["inf", "infinity", "nan"].contains (String.ofList cs).toLower ||
    (whole ++ fraction ≠ [] && isExponent rest)

/-- Why a text denotes no number below a bound. -/
inductive Fault where
  | empty
  | badDigit
  | tooLarge
  deriving DecidableEq, Repr

def Fault.message : Fault → String
  | empty => "cannot parse integer from empty string"
  | badDigit => "invalid digit found in string"
  | tooLarge => "number too large to fit in target type"

/-- The first fault of `cs` after digits that denote `n`. -/
def digitFault? (bound : Nat) : Nat → List Char → Option Fault
  | _, [] => none
  | n, c :: rest =>
    if !isDigit c then some .badDigit
    else if bound ≤ 10 * n + digitValue c then some .tooLarge
    else digitFault? bound (10 * n + digitValue c) rest

/-- What is wrong with `s` as a numeral of a number below `bound`. -/
def fault? (bound : Nat) (s : String) : Option Fault :=
  match s.toList with
  | [] => some .empty
  | cs => if unsigned cs = [] then some .badDigit else digitFault? bound 0 (unsigned cs)

end Brokerage.Text.Numeral
