import Brokerage.Address.Filename
import Brokerage.Text.Form
import Brokerage.Text.Quoted

/-!
Addresses of databases in files, from what follows `sqlite:`: a path, and options behind a question
mark. The path is percent-encoded, and the options are a form.
-/

namespace Brokerage.Address.File

open Text (after? cut)

/-- How the options of an address ask for the database to be opened. -/
structure Wish where
  readOnly : Bool := false
  inMemory : Bool := false
  frozen : Bool := false
  layer? : Option String := none

def unknownValue (value setting : String) : String :=
  "unknown value " ++ Text.quoted value ++ " for `" ++ setting ++ "`"

/-- Takes one option into account, or says what is wrong with it. -/
def Wish.withOption (wish : Wish) (option : String × String) : Except String Wish :=
  let (name, value) := option
  match name with
  | "mode" =>
    match value with
    | "ro" => .ok { wish with readOnly := true }
    | "rw" | "rwc" => .ok wish
    | "memory" => .ok { wish with inMemory := true }
    | _ => .error (unknownValue value name)
  | "cache" =>
    if value = "private" || value = "shared" then .ok wish else .error (unknownValue value name)
  | "immutable" =>
    match value with
    | "true" | "1" => .ok { wish with frozen := true }
    | "false" | "0" => .ok { wish with frozen := false }
    | _ => .error (unknownValue value name)
  | "vfs" => .ok { wish with layer? := some value }
  | _ => .error ("unknown query parameter `" ++ name ++ "` while parsing connection URL")

/-- `cs` without any number of `start` at its front. -/
def withoutStarts (start : String) (cs : List Char) : List Char :=
  match after? start cs with
  | some rest => if rest.length < cs.length then withoutStarts start rest else cs
  | none => cs
termination_by cs.length

/-- The name of the file: a path as it stands, or a URI if there is something to be said about the
opening that no path can say. -/
def nameOf (path : List Char) (wish : Wish) : List Char :=
  let said := (if wish.frozen then ["immutable=true".toList] else []) ++
    (wish.layer?.toList.map fun layer => "vfs=".toList ++ Text.Form.encode layer.toList)
  if said.isEmpty then path
  else "file:".toList ++ Text.Percent.encodeStrictly path ++ '?' :: Text.joined '&' said

/-- Reads an address as far as the options that it has. -/
def wish? (url : List Char) : Except DatabaseFault (List Char × Wish) := do
  let rest := withoutStarts "sqlite:" (withoutStarts "sqlite://" url)
  let (database, query) := cut '?' rest
  let (path, start) ←
    if database = ":memory:".toList then
      pure ("file:memory".toList, { inMemory := true : Wish })
    else
      match Text.Percent.decode database with
      | .ok path => pure (path, {})
      | .error fault => throw (.configuration fault.message)
  match (Text.Form.pairs query).foldlM Wish.withOption start with
  | .ok wish => return (path, wish)
  | .error reason => throw (.configuration reason)

/-- Where an address leads. -/
def read (url : List Char) : Except DatabaseFault Filename := do
  let (path, wish) ← wish? url
  let name := nameOf path wish
  if name.any (·.toNat = 0) then
    throw (.connection "filename passed to SQLite must not contain nul bytes")
  Filename.read ⟨wish.readOnly, !wish.readOnly, wish.inMemory⟩ name

end Brokerage.Address.File
