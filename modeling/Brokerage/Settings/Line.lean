import Brokerage.Text.Blank

/-!
Lines of a settings file. A line goes on over a line end that stands in quotes, and ends before a
comment: a number sign after a blank. A line that starts with a number sign is a comment as a whole.
-/

namespace Brokerage.Settings

open Text (isBlankChar)

/-- Where in a line a character stands: what came before it decides what it means. -/
inductive Position where
  | plain
  /-- After a blank. Of several blanks in a row every second one counts. -/
  | blank
  | escaped
  | single
  | singleEscaped
  | double
  | doubleEscaped
  deriving DecidableEq, Repr

/-- The position after `c`. -/
def Position.after (p : Position) (c : Char) : Position :=
  let opened : Option Position :=
    if c = '\\' then some escaped
    else if c = '"' then some double
    else if c = '\'' then some single
    else none
  match p with
  | plain =>
    if isBlankChar c && c != '\n' && c != '\r' then blank else opened.getD plain
  | blank => opened.getD plain
  | escaped => plain
  | single => if c = '\\' then singleEscaped else if c = '\'' then plain else single
  | singleEscaped => single
  | double => if c = '\\' then doubleEscaped else if c = '"' then plain else double
  | doubleEscaped => double

/-- The rows of a text, each with its line end. -/
def rows : List Char → List (List Char)
  | [] => []
  | c :: rest =>
    if c = '\n' then [c] :: rows rest
    else
      match rows rest with
      | [] => [[c]]
      | row :: more => (c :: row) :: more

/-- What counts of a row, and the position at its end if no comment ends it. -/
def follow : Position → List Char → List Char × Option Position
  | p, [] => ([], some p)
  | p, c :: rest =>
    if p = .blank && c = '#' then ([], none)
    else
      let (row, last) := follow (p.after c) rest
      (c :: row, last)

/-- A line without its line end. -/
def withoutEnd (line : List Char) : List Char :=
  match line.reverse with
  | '\n' :: '\r' :: rest => rest.reverse
  | '\n' :: rest => rest.reverse
  | _ => line

def isComment (line : List Char) : Bool := (line.dropWhile isBlankChar).head? = some '#'

/-- The lines that rows make up, when `line` has been begun and is at `p`. The last is none if it
does not come to its end. -/
def linesFrom (p : Position) (line : List Char) : List (List Char) → List (Option (List Char))
  | [] => if p = .plain then [] else [none]
  | row :: rest =>
    if isComment (line ++ row) then some [] :: linesFrom .plain [] rest
    else
      match follow p row with
      | (counted, none) => some (line ++ counted) :: linesFrom .plain [] rest
      | (_, some .plain) => some (withoutEnd (line ++ row)) :: linesFrom .plain [] rest
      | (_, some p) => linesFrom p (line ++ row) rest

def lines (text : List Char) : List (Option (List Char)) := linesFrom .plain [] (rows text)

end Brokerage.Settings
