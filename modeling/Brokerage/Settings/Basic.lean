import Brokerage.Settings.Line
import Brokerage.Settings.Value
import Brokerage.Text.Pieces

/-!
Settings files: lines that set a variable each. A variable that is set already keeps its value, so
of two settings of one variable the first stands. Reading stops at the first line that is wrong, and
the settings before it stand.
-/

namespace Brokerage

/-- The value of a variable; one that is no text counts as not set. -/
abbrev Environment := String → Option String

/-- The value of `other` in a variable that is written as its name, an equals sign and its value:
what follows `other` and an equals sign, if it starts so. With an equals sign in it, `other` can
find the end of another variable's value. -/
def valueIn? (name value other : String) : Option String :=
  (Text.after? (other ++ "=") (name ++ "=" ++ value).toList).map String.ofList

/-- The environment of names with their values. The first in which a name is found counts. -/
def Environment.ofList (settings : List (String × String)) : Environment := fun name =>
  settings.findSome? fun (other, value) => valueIn? other value name

namespace Settings

open Text (isBlankChar trimChars isLatinLetter isPlainAlphanumeric)

/-- Sets a variable, which comes after all others. -/
def assign (env : Environment) (name value : String) : Environment := fun other =>
  if other = name then some value else (env other).or (valueIn? name value other)

/-- The name at the front of a line, and what follows the blanks after it. -/
def name? (line : List Char) : Option (String × List Char) :=
  let isPart (c : Char) : Bool := isPlainAlphanumeric c || c = '_' || c = '.'
  match line with
  | c :: _ =>
    if isLatinLetter c || c = '_' then
      some (String.ofList (line.takeWhile isPart),
        (line.dropWhile isPart).dropWhile isBlankChar)
    else none
  | [] => none

/-- What follows an equals sign and the blanks after it. -/
def afterEquals? : List Char → Option (List Char)
  | '=' :: rest => some (rest.dropWhile isBlankChar)
  | _ => none

/-- A line with something on it: a name and the value as it is written. The word `export` may stand
in front, and is a name itself if an equals sign follows it. -/
def setting? (line : List Char) : Option (String × List Char) := do
  let (name, rest) ← name? line
  match afterEquals? rest with
  | some value => return (name, value)
  | none =>
    if name = "export" then do
      let (name, rest) ← name? rest
      return (name, ← afterEquals? rest)
    else none

/-- The value that is written; a variable that is not set stands for nothing. -/
def valueOf? (env : Environment) (written : List Char) : Option String :=
  if written.head? = some '#' then some ""
  else (value? (fun name => (env name).getD "") .plain written).map String.ofList

/-- The variables after the settings in `lines`. -/
def loadLines (env : Environment) : List (Option (List Char)) → Environment
  | [] => env
  | none :: _ => env
  | some line :: rest =>
    let line := trimChars line
    if line = [] || line.head? = some '#' then loadLines env rest
    else
      match setting? line with
      | none => env
      | some (name, written) =>
        match valueOf? env written with
        | none => env
        | some value =>
          loadLines (if (env name).isSome then env else assign env name value) rest

/-- The variables of `env` with those that a settings file sets. A byte order mark at the start of
the file is no part of it. -/
def load (env : Environment) (file : String) : Environment :=
  match file.toList with
  | '\ufeff' :: rest => loadLines env (lines rest)
  | text => loadLines env (lines text)

/-- The longest runs of characters for which `p` holds. -/
def runs (p : Char → Bool) (text : List Char) : List String :=
  let marked := text.map fun c => if p c then c else '\n'
  ((Text.pieces '\n' marked).filter (· ≠ [])).map String.ofList

/-- All names in a settings file that a variable could be asked for by. -/
def mentioned (file : String) : List String :=
  let text := file.toList
  let braced := (Text.pieces '{' text).map fun piece => String.ofList (piece.takeWhile (· != '}'))
  runs (fun c => isPlainAlphanumeric c || c = '_' || c = '.') text ++
    runs Text.isAlphanumeric text ++ braced

end Settings

end Brokerage
