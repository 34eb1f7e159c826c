import Brokerage.Json.Basic
import Brokerage.Binary64.Shortest

/-!
Compact JSON text. No blanks are written, fields come in the order in which they stand, and of the
characters of a text only the quote, the backslash and the first 32 code points are escaped.
-/

namespace Brokerage.Json

/-- The digit for `n` below 16, letters in lower case. -/
def hexDigit (n : Nat) : Char :=
  if n < 10 then Char.ofNat (48 + n) else Char.ofNat (87 + n)

def escapeChar (c : Char) : List Char :=
  if c = '"' then ['\\', '"']
  else if c = '\\' then ['\\', '\\']
  else if c = '\n' then ['\\', 'n']
  else if c = '\r' then ['\\', 'r']
  else if c = '\t' then ['\\', 't']
  else if c.toNat = 8 then ['\\', 'b']
  else if c.toNat = 12 then ['\\', 'f']
  else if c.toNat < 32 then ['\\', 'u', '0', '0', hexDigit (c.toNat / 16), hexDigit (c.toNat % 16)]
  else [c]

def printText (s : String) : List Char :=
  '"' :: (s.toList.flatMap escapeChar ++ ['"'])

def printWhole (n : Int) : List Char :=
  if n < 0 then '-' :: Nat.toDigits 10 n.natAbs else Nat.toDigits 10 n.natAbs

def printNumber : Number → List Char
  | .whole n => printWhole n
  | .float x => x.recordText

mutual

def print : Json → List Char
  | .null => ['n', 'u', 'l', 'l']
  | .bool true => ['t', 'r', 'u', 'e']
  | .bool false => ['f', 'a', 'l', 's', 'e']
  | .num n => printNumber n
  | .str s => printText s
  | .arr [] => ['[', ']']
  | .arr (v :: vs) => '[' :: (print v ++ printItems vs)
  | .obj [] => ['\x7b', '\x7d']
  | .obj ((k, v) :: rest) => '\x7b' :: (printText k ++ ':' :: (print v ++ printFields rest))

/-- The items after the first, with the bracket that ends the list. -/
def printItems : List Json → List Char
  | [] => [']']
  | v :: vs => ',' :: (print v ++ printItems vs)

/-- The fields after the first, with the brace that ends the record. -/
def printFields : List (String × Json) → List Char
  | [] => ['\x7d']
  | (k, v) :: rest => ',' :: (printText k ++ ':' :: (print v ++ printFields rest))

end

/-- The compact text of `v`. -/
def text (v : Json) : String := String.ofList v.print

end Brokerage.Json

namespace Brokerage

/-- The compact text of a record. -/
def Fields.text (fields : Fields) : String := (Json.obj fields).text

end Brokerage
