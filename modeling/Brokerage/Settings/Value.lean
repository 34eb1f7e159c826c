import Brokerage.Text.Alphanumeric

/-!
Values in a settings file. A value is written plainly, in quotes, or in several such pieces without
a blank between them. Outside of single quotes a backslash takes the next character as it is, and a
dollar sign stands for the value of the variable whose name follows, in braces or not.
-/

namespace Brokerage.Settings

/-- Where in a value a character stands. Escapes and names remember if they are in double quotes. -/
inductive Place where
  | plain
  | single
  | double
  | escaped (quoted : Bool)
  /-- After a dollar sign and some characters of a name. -/
  | naming (quoted : Bool) (name : List Char)
  /-- After a dollar sign, a brace and some characters of a name. -/
  | braced (quoted : Bool) (name : List Char)
  /-- After the value. -/
  | ended

/-- The place outside of an escape or a name. -/
def Place.outside (quoted : Bool) : Place := if quoted then double else plain

/-- What a character after a backslash stands for. -/
def unescape? (c : Char) : Option Char :=
  if c = 'n' then some '\n'
  else if ['\\', '\'', '"', '$', ' '].contains c then some c
  else none

/-- The value that is written, if it is written well. -/
def value? (lookup : String → String) : Place → List Char → Option (List Char)
  | .plain, [] | .escaped false, [] | .ended, [] => some []
  | .naming false name, [] => some (lookup (String.ofList name)).toList
  | .single, [] | .double, [] | .escaped true, [] | .naming true _, [] | .braced _ _, [] => none
  | .plain, c :: rest =>
    if c = '$' then value? lookup (.naming false []) rest
    else if c = '\'' then value? lookup .single rest
    else if c = '"' then value? lookup .double rest
    else if c = '\\' then value? lookup (.escaped false) rest
    else if c = ' ' || c = '\t' then value? lookup .ended rest
    else (value? lookup .plain rest).map (c :: ·)
  | .single, c :: rest =>
    if c = '\'' then value? lookup .plain rest else (value? lookup .single rest).map (c :: ·)
  | .double, c :: rest =>
    if c = '$' then value? lookup (.naming true []) rest
    else if c = '"' then value? lookup .plain rest
    else if c = '\\' then value? lookup (.escaped true) rest
    else (value? lookup .double rest).map (c :: ·)
  | .escaped quoted, c :: rest =>
    match unescape? c with
    | some d => (value? lookup (.outside quoted) rest).map (d :: ·)
    | none => none
  | .naming quoted name, c :: rest =>
    if Text.isAlphanumeric c then value? lookup (.naming quoted (name ++ [c])) rest
    else if c = '{' && name = [] then value? lookup (.braced quoted []) rest
    else
      let meant := (lookup (String.ofList name)).toList
      if c = '$' then (value? lookup (.naming quoted []) rest).map (meant ++ ·)
      else (value? lookup (.outside quoted) rest).map (meant ++ c :: ·)
  | .braced quoted name, c :: rest =>
    if c = '}' then
      (value? lookup (.outside quoted) rest).map ((lookup (String.ofList name)).toList ++ ·)
    else value? lookup (.braced quoted (name ++ [c])) rest
  | .ended, c :: rest =>
    if c = ' ' || c = '\t' then value? lookup .ended rest
    else if c = '#' then some []
    else none

end Brokerage.Settings
