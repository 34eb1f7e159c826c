import Brokerage.Text.Numeral
import Brokerage.Text.Pieces

/-!
Numeric addresses of machines: four decimal numbers with a point between two, or eight groups of
hexadecimal digits with a colon between two. Of the groups one run may be left out, which two colons
in its place tell, and the last two may be written as four decimal numbers.
-/

namespace Brokerage.Address.Numeric

open Text (pieces)
open Text.Numeral (isDigit hexValue? ofDigits)

/-- A number below 256 without needless zeros. -/
def isOctet (cs : List Char) : Bool :=
  cs ≠ [] && cs.length ≤ 3 && cs.all isDigit && (cs.length = 1 || cs.head? ≠ some '0') &&
    ofDigits cs < 256

def isQuartet (cs : List Char) : Bool :=
  let numbers := pieces '.' cs
  numbers.length = 4 && numbers.all isOctet

def isGroup (cs : List Char) : Bool :=
  cs ≠ [] && cs.length ≤ 4 && cs.all fun c => (hexValue? c).isSome

/-- How many groups `parts` are, if they are groups; four numbers at the end stand for two. -/
def groupCount? : List (List Char) → Option Nat
  | [] => some 0
  | [last] => if isGroup last then some 1 else if isQuartet last then some 2 else none
  | part :: rest => if isGroup part then (groupCount? rest).map (· + 1) else none

/-- The groups of a text; the empty text has none. -/
def groups (cs : List Char) : List (List Char) := if cs = [] then [] else pieces ':' cs

/-- What stands before the first two colons that follow each other, and what after them. -/
def splitGap? : List Char → Option (List Char × List Char)
  | ':' :: ':' :: rest => some ([], rest)
  | c :: rest => (splitGap? rest).map fun (front, back) => (c :: front, back)
  | [] => none

/-- Eight groups, or fewer around a gap. No quartet can stand before the gap. -/
def isGroups (cs : List Char) : Bool :=
  match splitGap? cs with
  | none => groupCount? (groups cs) = some 8
  | some (front, back) =>
    (groups front).all isGroup &&
      match groupCount? (groups back) with
      | some n => (groups front).length + n ≤ 7
      | none => false

/-- A numeric address of either form. -/
def isAddress (cs : List Char) : Bool := isQuartet cs || isGroups cs

end Brokerage.Address.Numeric
