import Brokerage.Text.Numeral

/-!
JSON texts as they are spelled: the grammar, with number literals and escapes kept as written and
fields in the order of the text, repeated ones too. What a spelling means is decided elsewhere, so
that a part nobody reads need not mean anything.
-/

namespace Brokerage.Json

/-- A character of a text literal: itself, or the code of a `\u` escape. -/
inductive Glyph where
  | char (c : Char)
  | code (n : Nat)
  deriving DecidableEq, Repr

/-- A number literal: its sign and the digits of its parts. -/
structure Literal where
  negative : Bool
  whole : List Char
  fraction : List Char
  /-- Whether the exponent is negative, and its digits. -/
  exponent : Option (Bool × List Char)
  deriving DecidableEq, Repr

inductive Spelling where
  | null
  | bool (b : Bool)
  | number (n : Literal)
  | text (glyphs : List Glyph)
  | array (items : List Spelling)
  | object (members : List (List Glyph × Spelling))
  deriving Repr, Inhabited

namespace Spelling

open Text.Numeral (hexValue?)

/-- Space, tab and the two line ends; no other blank may stand between tokens. -/
def isGap (c : Char) : Bool := c == ' ' || c == '\t' || c == '\n' || c == '\r'

def skipGap (cs : List Char) : List Char := cs.dropWhile isGap

def hexCode? (a b c d : Char) : Option Nat :=
  match hexValue? a, hexValue? b, hexValue? c, hexValue? d with
  | some a, some b, some c, some d => some (((a * 16 + b) * 16 + c) * 16 + d)
  | _, _, _, _ => none

/-- The character that a backslash and a letter stand for. -/
def escaped? (c : Char) : Option Char :=
  if c = '"' || c = '\\' || c = '/' then some c
  else if c = 'b' then some (Char.ofNat 8)
  else if c = 'f' then some (Char.ofNat 12)
  else if c = 'n' then some '\n'
  else if c = 'r' then some '\r'
  else if c = 't' then some '\t'
  else none

/-- The glyphs up to the quote that ends a text literal, and what follows it. -/
def scanText : List Char → Option (List Glyph × List Char)
  | '"' :: rest => some ([], rest)
  | '\\' :: 'u' :: a :: b :: c :: d :: rest =>
    match hexCode? a b c d, scanText rest with
    | some n, some (glyphs, rest) => some (.code n :: glyphs, rest)
    | _, _ => none
  | '\\' :: e :: rest =>
    match escaped? e, scanText rest with
    | some c, some (glyphs, rest) => some (.char c :: glyphs, rest)
    | _, _ => none
  | c :: rest =>
    if c = '\\' || c.toNat < 32 then none
    else (scanText rest).map fun (glyphs, rest) => (.char c :: glyphs, rest)
  | [] => none

open Text.Numeral (isDigit)

/-- At least one digit, as many as there are. -/
def scanDigits (cs : List Char) : Option (List Char × List Char) :=
  match cs.takeWhile isDigit with
  | [] => none
  | digits => some (digits, cs.dropWhile isDigit)

/-- The whole part of a number: a zero that stands alone, or digits that start with another. -/
def scanWhole (cs : List Char) : Option (List Char × List Char) :=
  match scanDigits cs with
  | some ('0' :: _ :: _, _) => none
  | found => found

/-- The digits after a point, none if there is no point. -/
def scanFraction : List Char → Option (List Char × List Char)
  | '.' :: rest => scanDigits rest
  | cs => some ([], cs)

def scanExponentDigits (negative : Bool) (cs : List Char) :
    Option (Option (Bool × List Char) × List Char) :=
  (scanDigits cs).map fun (digits, rest) => (some (negative, digits), rest)

def scanExponent : List Char → Option (Option (Bool × List Char) × List Char)
  | [] => some (none, [])
  | c :: cs =>
    if c = 'e' || c = 'E' then
      match cs with
      | '+' :: rest => scanExponentDigits false rest
      | '-' :: rest => scanExponentDigits true rest
      | rest => scanExponentDigits false rest
    else some (none, c :: cs)

def scanUnsigned (negative : Bool) (cs : List Char) : Option (Spelling × List Char) :=
  match scanWhole cs with
  | none => none
  | some (whole, cs) =>
    match scanFraction cs with
    | none => none
    | some (fraction, cs) =>
      (scanExponent cs).map fun (exponent, cs) =>
        (.number ⟨negative, whole, fraction, exponent⟩, cs)

def scanNumber : List Char → Option (Spelling × List Char)
  | '-' :: rest => scanUnsigned true rest
  | cs => scanUnsigned false cs

mutual

/-- One value and what follows it. The first argument bounds the number of steps. -/
def scanValue : Nat → List Char → Option (Spelling × List Char)
  | 0, _ => none
  | fuel + 1, cs =>
    match skipGap cs with
    | 'n' :: 'u' :: 'l' :: 'l' :: rest => some (.null, rest)
    | 't' :: 'r' :: 'u' :: 'e' :: rest => some (.bool true, rest)
    | 'f' :: 'a' :: 'l' :: 's' :: 'e' :: rest => some (.bool false, rest)
    | '"' :: rest => (scanText rest).map fun (glyphs, rest) => (.text glyphs, rest)
    | '[' :: rest =>
      match skipGap rest with
      | ']' :: rest => some (.array [], rest)
      | rest => (scanItems fuel rest).map fun (items, rest) => (.array items, rest)
    | '\x7b' :: rest =>
      match skipGap rest with
      | '\x7d' :: rest => some (.object [], rest)
      | rest => (scanMembers fuel rest).map fun (members, rest) => (.object members, rest)
    | cs => scanNumber cs

/-- At least one item, and the bracket that ends the list. -/
def scanItems : Nat → List Char → Option (List Spelling × List Char)
  | 0, _ => none
  | fuel + 1, cs =>
    match scanValue fuel cs with
    | none => none
    | some (item, rest) =>
      match skipGap rest with
      | ']' :: rest => some ([item], rest)
      | ',' :: rest => (scanItems fuel rest).map fun (items, rest) => (item :: items, rest)
      | _ => none

/-- At least one member, and the brace that ends the record. -/
def scanMembers : Nat → List Char → Option (List (List Glyph × Spelling) × List Char)
  | 0, _ => none
  | fuel + 1, cs =>
    match skipGap cs with
    | '"' :: rest =>
      match scanText rest with
      | none => none
      | some (name, rest) =>
        match skipGap rest with
        | ':' :: rest =>
          match scanValue fuel rest with
          | none => none
          | some (value, rest) =>
            match skipGap rest with
            | '\x7d' :: rest => some ([(name, value)], rest)
            | ',' :: rest =>
              (scanMembers fuel rest).map fun (members, rest) => ((name, value) :: members, rest)
            | _ => none
        | _ => none
    | _ => none

end

/-- The spelling of a whole text: one value, with nothing but gaps around it. -/
def ofChars? (cs : List Char) : Option Spelling :=
  match scanValue (cs.length + 1) cs with
  | some (v, rest) => if skipGap rest = [] then some v else none
  | none => none

end Spelling

end Brokerage.Json
