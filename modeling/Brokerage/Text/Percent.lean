import Brokerage.Text.Utf8

/-!
Percent-encoding: a text as it may stand inside a URI. Letters, digits and four marks stand for
themselves, and every other character is written as the bytes of its UTF-8 form. Reading takes any
two hexadecimal digits after a percent sign for a byte, and a percent sign without them for itself.
-/

namespace Brokerage.Text.Percent

/-- The bytes of letters and digits. -/
def isAlphanumericByte (b : UInt8) : Bool :=
  let n := b.toNat
  (48 ≤ n && n ≤ 57) || (65 ≤ n && n ≤ 90) || (97 ≤ n && n ≤ 122)

/-- The bytes that stand for themselves. -/
def isPlain (b : UInt8) : Bool :=
  let n := b.toNat
  isAlphanumericByte b || n == 45 || n == 46 || n == 95 || n == 126

/-- The digit for `n` below 16, letters in upper case. -/
def hexDigit (n : Nat) : Char :=
  if n < 10 then Char.ofNat (48 + n) else Char.ofNat (55 + n)

/-- A percent sign and two hexadecimal digits. -/
def escapeByte (b : UInt8) : List Char :=
  ['%', hexDigit (b.toNat / 16), hexDigit (b.toNat % 16)]

/-- One byte: itself if it is plain, or else escaped. -/
def encodeByte (b : UInt8) : List Char :=
  if isPlain b then [Char.ofNat b.toNat] else escapeByte b

def encodeChars (cs : List Char) : List Char := (Utf8.encode cs).flatMap encodeByte

def encode (s : String) : String := String.ofList (encodeChars s.toList)

/-- The encoding in which letters and digits alone are plain. -/
def encodeStrictly (cs : List Char) : List Char :=
  (Utf8.encode cs).flatMap fun b =>
    if isAlphanumericByte b then [Char.ofNat b.toNat] else escapeByte b

/-- The value of a hexadecimal digit of either case. -/
def hexValue? (b : UInt8) : Option Nat :=
  let n := b.toNat
  if 48 ≤ n && n ≤ 57 then some (n - 48)
  else if 65 ≤ n && n ≤ 70 then some (n - 55)
  else if 97 ≤ n && n ≤ 102 then some (n - 87)
  else none

/-- The byte of a percent sign. -/
def mark : UInt8 := 37

def decodeBytes : List UInt8 → List UInt8
  | [] => []
  | [a] => [a]
  | [a, b] => [a, b]
  | a :: b :: c :: rest =>
    if a = mark then
      match hexValue? b, hexValue? c with
      | some high, some low => UInt8.ofNat (16 * high + low) :: decodeBytes rest
      | _, _ => a :: decodeBytes (b :: c :: rest)
    else a :: decodeBytes (b :: c :: rest)

/-- The bytes that an encoded text stands for. -/
def bytes (cs : List Char) : List UInt8 := decodeBytes (Utf8.encode cs)

/-- The text that an encoded text stands for. -/
def decode (cs : List Char) : Except Utf8.Fault (List Char) := Utf8.decode (bytes cs)

end Brokerage.Text.Percent
