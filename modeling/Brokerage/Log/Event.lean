import Brokerage.Text.Pieces

/-!
Events of a log: a level, the part of the program that reports, a message and named values. In a
log a message shows no control character that could steer a terminal.
-/

namespace Brokerage.Log

inductive Level where
  | error
  | warn
  | info
  | debug
  | trace
  deriving DecidableEq, Repr

/-- How much is logged at a level: at least that level and everything graver. -/
def Level.rank : Level → Nat
  | error => 1
  | warn => 2
  | info => 3
  | debug => 4
  | trace => 5

def Level.label : Level → String
  | error => "ERROR"
  | warn => "WARN"
  | info => "INFO"
  | debug => "DEBUG"
  | trace => "TRACE"

structure Event where
  level : Level
  /-- The part of the program that reports, as a path of names. -/
  target : String
  message : String
  /-- Names, and values as they are written. -/
  fields : List (String × String) := []
  deriving DecidableEq, Repr

namespace Event

/-- The names of everything in an event; the message has one too. -/
def fieldNames (e : Event) : List String := "message" :: e.fields.map (·.1)

def hexadecimal (n : Nat) : List Char := Nat.toDigits 16 n

/-- A character of a message as it is shown: bell, backspace, form feed, escape and delete by a
number of two digits, and the controls of the second half by their code point. -/
def shownChar (c : Char) : List Char :=
  let n := c.toNat
  if n = 0x7 || n = 0x8 || n = 0xc then ['\\', 'x', '0'] ++ hexadecimal n
  else if n = 0x1b || n = 0x7f then ['\\', 'x'] ++ hexadecimal n
  else if 0x80 ≤ n && n ≤ 0x9f then ['\\', 'u', '\x7b'] ++ hexadecimal n ++ ['\x7d']
  else [c]

def shownMessage (e : Event) : String := String.ofList (e.message.toList.flatMap shownChar)

def text (e : Event) : String :=
  e.level.label ++ " " ++ e.target ++ ": " ++
    " ".intercalate (e.shownMessage :: e.fields.map fun (name, value) => name ++ "=" ++ value)

/-- The lines that an event takes in a log. -/
def lines (e : Event) : List String := (Text.pieces '\n' e.text.toList).map String.ofList

end Event

end Brokerage.Log
