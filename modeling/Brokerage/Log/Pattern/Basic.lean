import Brokerage.Log.Pattern.Class

/-!
Patterns for the values of an event: which texts are patterns that can be used. A pattern is one or
several rows of parts with bars between them; a part is a character, a class, or a group in round
brackets, which holds such rows itself, and can be repeated.

A pattern is written between braces, so there is no closing brace in it, and no number of
repetitions and no long name of a character or of a kind can come to its end.
-/

namespace Brokerage.Log.Pattern

open Text (after? isAlphabetic isAlphanumeric)

/-- Why a pattern cannot be used. -/
inductive Fault where
  | malformed
  /-- It asks for words, and letters of all scripts make up a word. -/
  | unicodeBoundary
  deriving DecidableEq, Repr

def Fault.message : Fault → String
  | malformed => "error building NFA"
  | unicodeBoundary =>
    "unsupported regex feature for DFAs: cannot build DFAs for regexes with Unicode word " ++
      "boundaries; switch to ASCII word boundaries, or heuristically enable Unicode word " ++
      "boundaries or use a different regex engine"

/-- How deep a pattern may be nested. -/
def greatestDepth : Nat := 250

/-- A group that has not ended, or the whole pattern. -/
structure OpenGroup where
  /-- The switches that hold again after it. -/
  outside : Switches := {}
  /-- The rows that have ended, and how deep the deepest of them is. -/
  rows : Nat := 0
  deepestRow : Nat := 0
  /-- The parts of the row that has not ended, and how deep the deepest but the last of them is. -/
  count : Nat := 0
  deepest : Nat := 0
  /-- How deep the last part is, if it can be repeated. -/
  last? : Option Nat := none

namespace OpenGroup

/-- How deep the row is that has not ended. -/
def row (g : OpenGroup) : Nat := depthTogether g.count (max g.deepest (g.last?.getD 0))

/-- With one more part, which cannot be repeated if it has no depth. -/
def add (g : OpenGroup) (depth? : Option Nat) : OpenGroup :=
  { g with count := g.count + 1, deepest := max g.deepest (g.last?.getD 0), last? := depth? }

/-- With a bar behind all that it has. -/
def endRow (g : OpenGroup) : OpenGroup :=
  { outside := g.outside, rows := g.rows + 1, deepestRow := max g.deepestRow g.row }

/-- With its last part repeated. -/
def repeatLast? (g : OpenGroup) : Option OpenGroup :=
  g.last?.map fun depth => { g with last? := some (depth + 1) }

/-- How deep everything in the group is. -/
def content (g : OpenGroup) : Nat := depthTogether (g.rows + 1) (max g.deepestRow g.row)

end OpenGroup

/-- A pattern as far as it has been read. -/
structure Reading where
  switches : Switches := {}
  /-- The names of groups. -/
  names : List String := []
  /-- The beginning or the end of a word with letters of all scripts is asked for. -/
  findsWords : Bool := false
  /-- The innermost group that has not ended, and those around it. -/
  group : OpenGroup := {}
  outer : List OpenGroup := []

namespace Reading

def add (r : Reading) (depth : Nat) : Reading := { r with group := r.group.add (some depth) }

/-- Begins a group with switches of its own. -/
def beginGroup (r : Reading) (switches : Switches) : Reading :=
  { r with
    switches := switches
    group := { outside := r.switches }
    outer := r.group :: r.outer }

/-- Ends the innermost group, if there is one. -/
def endGroup? (r : Reading) : Option Reading :=
  match r.outer with
  | [] => none
  | g :: outer =>
    some { r with
      switches := r.group.outside
      group := g.add (some (r.group.content + 1))
      outer := outer }

/-- A name of a group: letters, numbers and some marks. -/
def isName : List Char → Bool
  | [] => false
  | c :: rest =>
    (c = '_' || isAlphabetic c) &&
      rest.all fun c => ['_', '.', '[', ']'].contains c || isAlphanumeric c

/-- Reads the name of a group behind its bracket. No two groups have one name. -/
def readName? (r : Reading) (cs : List Char) : Option (Reading × List Char) :=
  let name := cs.takeWhile (· != '>')
  match cs.drop name.length with
  | [] => none
  | _ :: rest =>
    if isName name && !r.names.contains (String.ofList name) then
      some ({ r.beginGroup r.switches with names := String.ofList name :: r.names }, rest)
    else none

/-- Reads switches for a group, or for the rest of the group that they stand in. -/
def readSwitches? (r : Reading) (cs : List Char) : Option (Reading × List Char) :=
  let letters := cs.takeWhile fun c => c != ':' && c != ')'
  let switches := r.switches.turned true letters
  if !Switches.areLetters letters then none
  else
    match cs.drop letters.length with
    | ':' :: rest => some (r.beginGroup switches, rest)
    | ')' :: rest =>
      if letters = [] then none
      else some ({ r with switches := switches, group := r.group.add none }, rest)
    | _ => none

/-- Reads what can follow a round bracket. -/
def readOpening? (r : Reading) (cs : List Char) : Option (Reading × List Char) :=
  let cs := r.switches.skip cs
  match (after? "?P<" cs).or (after? "?<" cs), after? "?" cs with
  | some rest, _ => r.readName? rest
  | none, some rest => r.readSwitches? rest
  | none, none => some (r.beginGroup r.switches, cs)

/-- Reads a character, or a backslash and what belongs to it. A point stands for any character. -/
def readItem? (r : Reading) (cs : List Char) : Option (Reading × List Char) :=
  if ['.', '^', '$'].contains (cs.headD ' ') then
    if cs.head? = some '.' && !r.switches.unicode then none else some (r.add 0, cs.drop 1)
  else do
    let (item, rest) ← Item.read? r.switches cs
    if item.isUsable r.switches then
      let r := r.add 0
      if item = .boundary && r.switches.unicode then some ({ r with findsWords := true }, rest)
      else some (r, rest)
    else none

/-- Reads one part of a pattern, or what stands between parts. -/
def readPart? (r : Reading) : List Char → Option (Reading × List Char)
  | [] => none
  | c :: rest =>
    match c with
    | '(' => r.readOpening? rest
    | ')' => r.endGroup?.map fun r => (r, rest)
    | '|' => some ({ r with group := r.group.endRow }, rest)
    | '[' => (OpenClass.read? r.switches rest).map fun (depth, rest) => (r.add depth, rest)
    | '?' | '*' | '+' =>
      r.group.repeatLast?.map fun group =>
        ({ r with group := group }, if rest.head? = some '?' then rest.drop 1 else rest)
    | '{' => none
    | _ => r.readItem? (c :: rest)

/-- Reads on to the end of a pattern, in at most `fuel` steps. -/
def readOn? : Nat → Reading → List Char → Option Reading
  | 0, _, _ => none
  | fuel + 1, r, cs =>
    match r.switches.skip cs with
    | [] => some r
    | cs =>
      match r.readPart? cs with
      | some (r, rest) => readOn? fuel r rest
      | none => none

end Reading

/-- What is wrong with a pattern. -/
def fault? (pattern : List Char) : Option Fault :=
  match Reading.readOn? (pattern.length + 1) {} pattern with
  | none => some .malformed
  | some r =>
    if r.outer ≠ [] || greatestDepth < r.group.content then some .malformed
    else if r.findsWords then some .unicodeBoundary
    else none

end Brokerage.Log.Pattern
