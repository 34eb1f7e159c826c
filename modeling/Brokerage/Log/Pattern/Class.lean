import Brokerage.Log.Pattern.Item
import Brokerage.Text.Pieces

/-!
Classes in patterns: characters in brackets, of which any one is meant, or any other. A class is
made of characters, ranges and classes, and of what operators leave of two such rows. How deep it is
nested matters, because a pattern may not be too deep.
-/

namespace Brokerage.Log.Pattern

/-- How deep some parts that stand together are, of which the deepest is `deepest`. -/
def depthTogether (count deepest : Nat) : Nat := if count ≤ 1 then deepest else deepest + 1

/-- A class that has not ended. -/
structure OpenClass where
  /-- Nothing but minus signs has been read. -/
  fresh : Bool := true
  /-- The parts after the last operator, and how deep the deepest of them is. -/
  count : Nat := 0
  deepest : Nat := 0
  /-- How deep all before the last operator is, if there is one. -/
  operand? : Option Nat := none

namespace OpenClass

/-- With one more part. -/
def add (k : OpenClass) (depth : Nat := 0) : OpenClass :=
  { k with fresh := false, count := k.count + 1, deepest := max k.deepest depth }

/-- How deep everything in the class is. -/
def content (k : OpenClass) : Nat :=
  let own := depthTogether k.count k.deepest
  match k.operand? with
  | none => own
  | some before => max before own + 1

/-- With an operator behind all that it has. -/
def operate (k : OpenClass) : OpenClass := { fresh := false, operand? := some k.content }

/-- The depth of the class if it ends here. -/
def depth (k : OpenClass) : Nat := k.content + 1

/-- Reads the beginning of a class behind its bracket. Without the whole character set no class can
be of the other characters. -/
def begin? (s : Switches) (cs : List Char) : Option (OpenClass × List Char) :=
  match s.skip cs with
  | '^' :: rest => if s.unicode then some ({}, rest) else none
  | rest => some ({}, rest)

/-- The names of classes. -/
def names : List String :=
  ["alnum", "alpha", "ascii", "blank", "cntrl", "digit", "graph", "lower", "print", "punct",
    "space", "upper", "word", "xdigit"]

/-- Reads the name of a class behind its bracket, and whether the other characters are meant. -/
def named? (cs : List Char) : Option (Bool × List Char) := do
  let rest ← Text.after? ":" cs
  let (isOther, rest) := match rest with
    | '^' :: rest => (true, rest)
    | rest => (false, rest)
  let name := rest.takeWhile (· != ':')
  let rest ← Text.after? ":]" (rest.drop name.length)
  if names.contains (String.ofList name) then some (isOther, rest) else none

/-- Reads a character or a range. A minus sign before the end of a class or before another one makes
no range. -/
def readMember? (s : Switches) (cs : List Char) : Option (List Char) := do
  let (first, rest) ← Item.read? s cs
  match s.skip rest with
  | '-' :: after =>
    if [some ']', some '-'].contains (s.glance? after) then
      if first = .kind || (first.member? s).isSome then some ('-' :: after) else none
    else
      let (last, rest) ← Item.read? s (s.skip after)
      if (← first.member? s) ≤ (← last.member? s) then some rest else none
  | rest => if first = .kind || (first.member? s).isSome then some rest else none

/-- Two equal characters that are an operator. -/
def isOperator (c d : Char) : Bool := c = d && ['&', '-', '~'].contains c

/-- Reads on in the innermost of the open classes, in at most `fuel` steps: the depth of the
outermost one, and what follows it. -/
def readOn? (s : Switches) :
    Nat → OpenClass → List OpenClass → List Char → Option (Nat × List Char)
  | 0, _, _, _ => none
  | fuel + 1, k, outer, cs =>
    let usable := !(s.unicode && s.anyCase)
    match s.skip cs with
    | [] => none
    | c :: rest =>
      if k.fresh && (c = '-' || (c = ']' && k.count = 0)) then
        if usable then readOn? s fuel { k.add with fresh := c = '-' } outer rest else none
      else if c = '[' then
        match named? rest with
        | some (isOther, rest) =>
          if usable && (s.unicode || !isOther) then readOn? s fuel k.add outer rest else none
        | none =>
          match begin? s rest with
          | some (inner, rest) => readOn? s fuel inner (k :: outer) rest
          | none => none
      else if c = ']' then
        match outer with
        | [] => some (k.depth, rest)
        | o :: outer => readOn? s fuel (o.add k.depth) outer rest
      else if (rest.head?.map (isOperator c)).getD false then
        readOn? s fuel k.operate outer (rest.drop 1)
      else
        match readMember? s (c :: rest) with
        | some rest => readOn? s fuel k.add outer rest
        | none => none

/-- Reads a class behind its bracket: how deep it is, and what follows it. -/
def read? (s : Switches) (cs : List Char) : Option (Nat × List Char) := do
  let (k, rest) ← begin? s cs
  readOn? s (rest.length + 1) k [] rest

end OpenClass

end Brokerage.Log.Pattern
