import Brokerage.Json.Basic
import Brokerage.Json.Spelling

/-!
What a spelling means. A number literal without fraction and exponent is whole if 64 bits hold it;
any other is a binary64 number, and one that is too large means nothing. An escape of half a
surrogate pair means nothing either, and neither does a value nested more than 127 levels deep.
-/

namespace Brokerage.Json

/-- The text that glyphs spell; two escapes of a surrogate pair are one character. -/
def Glyph.read? : List Glyph → Option (List Char)
  | [] => some []
  | .char c :: rest => (Glyph.read? rest).map (c :: ·)
  | .code n :: rest =>
    if 0xd800 ≤ n && n < 0xdc00 then
      match rest with
      | .code m :: rest =>
        if 0xdc00 ≤ m && m < 0xe000 then
          (Glyph.read? rest).map
            (Char.ofNat (0x10000 + (n - 0xd800) * 0x400 + (m - 0xdc00)) :: ·)
        else none
      | _ => none
    else if 0xdc00 ≤ n && n < 0xe000 then none
    else (Glyph.read? rest).map (Char.ofNat n :: ·)

def Glyph.text? (glyphs : List Glyph) : Option String :=
  (Glyph.read? glyphs).map String.ofList

namespace Literal

/-- The leading digits of a literal in 64 bits, and the power of ten that scales them. -/
structure Scaled where
  significand : Nat
  exponent : Int
  /-- A digit of the whole part did not fit. -/
  overflowed : Bool

open Text.Numeral (digitValue ofDigits)

/-- A digit of the whole part: once one does not fit, each further one only scales. -/
def Scaled.whole (s : Scaled) (c : Char) : Scaled :=
  let next := s.significand * 10 + digitValue c
  if s.overflowed || Nat.pow 2 64 ≤ next then ⟨s.significand, s.exponent + 1, true⟩
  else ⟨next, s.exponent, false⟩

/-- The digits of the fraction up to the first that does not fit. -/
def Scaled.fraction (s : Scaled) : List Char → Scaled
  | [] => s
  | c :: rest =>
    let next := s.significand * 10 + digitValue c
    if Nat.pow 2 64 ≤ next then s
    else Scaled.fraction ⟨next, s.exponent - 1, s.overflowed⟩ rest

def wholePart (n : Literal) : Scaled := n.whole.foldl Scaled.whole ⟨0, 0, false⟩

/-- The binary64 number nearest to `10 ^ k`. -/
def powerOfTen? (k : Nat) : Option Magnitude := Magnitude.nearest? (Nat.pow 10 k) 1

/-- The exponent of the largest power of ten that is a binary64 number. -/
def largestPower : Nat := 308

/-- `x` divided by the largest power of ten as often as `steps` says, and once by `10 ^ last`, with
a rounding each time; it stops at zero. -/
def divideDown : Nat → Nat → Magnitude → Option Magnitude
  | 0, last, x => (powerOfTen? last).bind x.div?
  | steps + 1, last, x =>
    if x.mantissa = 0 then some x
    else ((powerOfTen? largestPower).bind x.div?).bind (divideDown steps last)

/-- The significand rounded to a binary64 number, then scaled by its power of ten. -/
def Scaled.magnitude? (s : Scaled) : Option Magnitude :=
  match Magnitude.nearest? s.significand 1 with
  | none => none
  | some x =>
    if s.exponent < 0 then
      let k := (-s.exponent).toNat
      let steps := (k - 1) / largestPower
      divideDown steps (k - steps * largestPower) x
    else if s.exponent ≤ largestPower then (powerOfTen? s.exponent.toNat).bind x.mul?
    else if x.mantissa = 0 then some x
    else none

/-- The literal scaled by its fraction and exponent. -/
def scaled (n : Literal) : Scaled :=
  let s := n.wholePart.fraction n.fraction
  match n.exponent with
  | none => s
  | some (true, digits) => { s with exponent := s.exponent - ofDigits digits }
  | some (false, digits) => { s with exponent := s.exponent + ofDigits digits }

def float? (n : Literal) : Option Number :=
  n.scaled.magnitude?.map fun x => .float ⟨n.negative, x⟩

/-- A whole literal that 64 bits hold is whole; a negative zero and any other are binary64. -/
def number? (n : Literal) : Option Number :=
  if n.fraction ≠ [] || n.exponent.isSome || n.wholePart.overflowed then n.float?
  else
    let value := n.wholePart.significand
    if !n.negative then some (.whole value)
    else if value = 0 || Nat.pow 2 63 < value then n.float?
    else some (.whole (-value))

end Literal

mutual

/-- The value that a spelling means, nested at most `depth` levels deep. -/
def Spelling.value? (depth : Nat) : Spelling → Option Json
  | .null => some .null
  | .bool b => some (.bool b)
  | .number n => n.number?.map .num
  | .text glyphs => (Glyph.text? glyphs).map .str
  | .array items =>
    match depth with
    | 0 => none
    | depth + 1 => (Spelling.values? depth items).map .arr
  | .object members =>
    match depth with
    | 0 => none
    | depth + 1 => (Spelling.pairs? depth members).map fun pairs => .obj (Fields.ofList pairs)

def Spelling.values? (depth : Nat) : List Spelling → Option (List Json)
  | [] => some []
  | item :: items =>
    match Spelling.value? depth item, Spelling.values? depth items with
    | some v, some vs => some (v :: vs)
    | _, _ => none

def Spelling.pairs? (depth : Nat) :
    List (List Glyph × Spelling) → Option (List (String × Json))
  | [] => some []
  | (name, item) :: members =>
    match Glyph.text? name, Spelling.value? depth item, Spelling.pairs? depth members with
    | some k, some v, some rest => some ((k, v) :: rest)
    | _, _, _ => none

end

/-- How deep a value may be nested. -/
def maxDepth : Nat := 127

/-- The value of a JSON text. -/
def read? (s : String) : Option Json :=
  (Spelling.ofChars? s.toList).bind (Spelling.value? maxDepth)

end Brokerage.Json

namespace Brokerage

/-- The record of a JSON text that holds one. -/
def Fields.read? (s : String) : Option Fields :=
  match Json.read? s with
  | some (.obj fields) => some fields
  | _ => none

end Brokerage
