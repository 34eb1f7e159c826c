import Brokerage.Text.Alphanumeric

/-!
Single characters in patterns. Switches, which a pattern can turn on and off itself, decide how they
are read. Only such patterns can be used as need no tables of cases and of kinds of characters: with
the whole character set, no literal can stand for both of its cases, and no letter for a kind of
characters; without it, nothing can stand for a part of a character.
-/

namespace Brokerage.Log.Pattern

open Text (isBlankChar isLatinLetter inRanges)
open Text.Numeral (isDigit hexValue?)

/-- How the characters of a pattern are read. -/
structure Switches where
  /-- A letter stands for both of its cases. -/
  anyCase : Bool := false
  /-- Blanks and comments do not count. -/
  spaced : Bool := false
  /-- Characters are those of the whole character set, and not bytes. -/
  unicode : Bool := true
  deriving DecidableEq, Repr

namespace Switches

/-- The letters of the switches. Some only matter to what a pattern matches. -/
def letters : List Char := "imsUuRx".toList

/-- Letters that turn switches on, and off after a minus sign. No letter is repeated. -/
def areLetters (cs : List Char) : Bool :=
  cs.all (fun c => c = '-' || letters.contains c) && cs.Nodup && cs.getLast? ≠ some '-'

/-- Turns the switch of a letter on or off. -/
def turn (s : Switches) (on : Bool) (letter : Char) : Switches :=
  match letter with
  | 'i' => { s with anyCase := on }
  | 'x' => { s with spaced := on }
  | 'u' => { s with unicode := on }
  | _ => s

/-- The switches after letters, of which the first turn them `on`. -/
def turned (s : Switches) (on : Bool) : List Char → Switches
  | [] => s
  | c :: rest => if c = '-' then s.turned false rest else (s.turn on c).turned on rest

/-- What follows blanks and comments, or the rest of a comment. -/
def afterBlanks (inComment : Bool) : List Char → List Char
  | [] => []
  | c :: rest =>
    if inComment then afterBlanks (c ≠ '\n') rest
    else if isBlankChar c then afterBlanks false rest
    else if c = '#' then afterBlanks true rest
    else c :: rest

/-- What follows that does count. -/
def skip (s : Switches) (cs : List Char) : List Char :=
  if s.spaced then afterBlanks false cs else cs

/-- The next character that is neither blank nor begins a comment, even if it is in a comment. -/
def glance? (s : Switches) (cs : List Char) : Option Char :=
  if s.spaced then
    match cs.dropWhile isBlankChar with
    | '#' :: rest => (rest.dropWhile isBlankChar).head?
    | rest => rest.head?
  else cs.head?

end Switches

/-- What a character, or a backslash with what belongs to it, stands for. -/
inductive Item where
  | literal (c : Char)
  /-- A literal that is written as a byte. -/
  | byte (c : Char)
  /-- Characters of some kind. -/
  | kind
  | anchor
  /-- The beginning or the end of a word. -/
  | boundary
  deriving DecidableEq, Repr

namespace Item

/-- A literal can be used outside of classes. -/
def isUsable (s : Switches) : Item → Bool
  | literal _ => !(s.unicode && s.anyCase)
  | byte c => if s.unicode then !s.anyCase else c.toNat < 0x80
  | _ => true

/-- The character of a literal that can be used in a class, where all literals are as bytes are. -/
def member? (s : Switches) : Item → Option Char
  | literal c | byte c => if (byte c).isUsable s then some c else none
  | _ => none

/-- The character with a number in `count` more hexadecimal digits, and what follows them. -/
def readHex? (s : Switches) : Nat → Nat → List Char → Option (Char × List Char)
  | 0, n, cs => if n.isValidChar then some (Char.ofNat n, cs) else none
  | count + 1, n, cs =>
    match s.skip cs with
    | [] => none
    | d :: rest =>
      match hexValue? d with
      | some value => readHex? s count (16 * n + value) rest
      | none => none

/-- How many hexadecimal digits follow a letter. -/
def digitCount? : Char → Option Nat
  | 'x' => some 2
  | 'u' => some 4
  | 'U' => some 8
  | _ => none

/-- The control character that a letter stands for. -/
def control? : Char → Option Char
  | 'a' => some '\x07'
  | 't' => some '\t'
  | 'n' => some '\n'
  | 'v' => some '\x0b'
  | 'f' => some '\x0c'
  | 'r' => some '\r'
  | _ => none

/-- A character of ASCII that stands for itself after a backslash. -/
def isMark (c : Char) : Bool := c.toNat < 0x80 && !isLatinLetter c && !isDigit c

/-- Reads what follows a backslash. -/
def readEscaped? (s : Switches) : List Char → Option (Item × List Char)
  | [] => none
  | c :: rest =>
    match digitCount? c, control? c with
    | some count, _ =>
      (readHex? s count 0 rest).map fun (d, rest) => (if count = 2 then byte d else literal d, rest)
    | none, some d => some (literal d, rest)
    | none, none =>
      if ['A', 'z'].contains c then some (anchor, rest)
      else if ['b', 'B', '<', '>'].contains c then some (boundary, rest)
      else if ['d', 's', 'w'].contains c && !s.unicode then some (kind, rest)
      else if isMark c then some (literal c, rest)
      else none

/-- Reads a character, or a backslash and what belongs to it. -/
def read? (s : Switches) : List Char → Option (Item × List Char)
  | [] => none
  | '\\' :: rest => readEscaped? s rest
  | c :: rest => some (literal c, rest)

end Item

end Brokerage.Log.Pattern
