import Brokerage.Json.Basic
import Brokerage.Binary64.Shortest
import Brokerage.Text.Quoted

/-!
Readers of typed records from JSON values. A record is read in two passes: first every field that
the record knows is checked in the order of the value, so that a wrong type is found before a
missing field, then the fields are taken in the order of the record's declaration. A list stands for
a record as well: its items are the fields in that order, and it may end before those that can be
left out.
-/

namespace Brokerage

/-- What a reader asks of a value. -/
inductive Expected where
  | text
  | boolean
  | sequence
  | map
  /-- A record of the given name. -/
  | record (name : String)
  /-- A list that stands for the record of the given name, with an item for each of its fields. -/
  | elements (name : String) (count : Nat)
  /-- A list without the items that no field is left for. -/
  | fewerElements
  deriving DecidableEq, Repr

inductive DecodeError where
  | mismatch (found : Json) (expected : Expected)
  | missing (field : String)
  /-- A list that stands for a record has too few or too many items. -/
  | length (found : Nat) (expected : Expected)
  deriving Repr

def Expected.describe : Expected → String
  | .text => "a string"
  | .boolean => "a boolean"
  | .sequence => "a sequence"
  | .map => "a map"
  | .record name => "struct " ++ name
  | .elements name count => "struct " ++ name ++ " with " ++ toString count ++ " elements"
  | .fewerElements => "fewer elements in array"

/-- How a message shows a value of the wrong type: its kind, and for a scalar the value itself. -/
def Json.describe : Json → String
  | .null => "null"
  | .bool b => "boolean `" ++ (if b then "true" else "false") ++ "`"
  | .num (.whole n) => "integer `" ++ toString n ++ "`"
  | .num (.float x) => "floating point `" ++ String.ofList x.recordText ++ "`"
  | .str s => "string " ++ Text.quoted s
  | .arr _ => "sequence"
  | .obj _ => "map"

def DecodeError.message : DecodeError → String
  | .mismatch found expected =>
    "invalid type: " ++ found.describe ++ ", expected " ++ expected.describe
  | .missing field => "missing field `" ++ field ++ "`"
  | .length found expected =>
    "invalid length " ++ toString found ++ ", expected " ++ expected.describe

/-- Reads a value as an `α`. -/
abbrev Reader (α : Type) := Json → Except DecodeError α

namespace Reader

def text : Reader String
  | .str s => .ok s
  | v => .error (.mismatch v .text)

def boolean : Reader Bool
  | .bool b => .ok b
  | v => .error (.mismatch v .boolean)

/-- A list, read up to the first bad item. -/
def list {α : Type} (item : Reader α) : Reader (List α)
  | .arr items => items.mapM item
  | v => .error (.mismatch v .sequence)

/-- A record of any names, whose values all have one type. -/
def map {α : Type} (value : Reader α) : Reader (List (String × α))
  | .obj fields => fields.mapM fun (k, v) => (value v).map (k, ·)
  | v => .error (.mismatch v .map)

/-- Null counts as absent. -/
def optional {α : Type} (value : Reader α) : Reader (Option α)
  | .null => .ok none
  | v => (value v).map some

def any : Reader Json := .ok

/-- A field that a record knows: its name and the check of its type. -/
structure Slot where
  name : String
  check : Reader Unit
  /-- A list that stands for the record has to have an item for the field. -/
  needed : Bool

/-- The slot of a field read by `value`, which may be left out. -/
def slot {α : Type} (name : String) (value : Reader α) : Slot :=
  ⟨name, fun v => (value v).map fun _ => (), false⟩

/-- The slot of a field read by `value`, which has to be there. -/
def neededSlot {α : Type} (name : String) (value : Reader α) : Slot :=
  { slot name value with needed := true }

/-- The first wrong type among the known fields, in the order of the value. -/
def checkFields (slots : List Slot) (fields : Fields) : Except DecodeError Unit :=
  fields.forM fun (k, v) =>
    match slots.find? (·.name = k) with
    | some s => s.check v
    | none => .ok ()

/-- The items of a list as the fields of a record, in the order of its declaration. -/
def named (slots : List Slot) (items : List Json) : Fields := (slots.map (·.name)).zip items

/-- Whether `count` items stand for a record: none is wanting, and none is left over. -/
def checkLength (name : String) (slots : List Slot) (count : Nat) : Except DecodeError Unit :=
  match (slots.drop count).findIdx? (·.needed) with
  | some i => .error (.length (count + i) (.elements name slots.length))
  | none => if slots.length < count then .error (.length count .fewerElements) else .ok ()

/-- The fields of a record of the given name, their types checked. -/
def record (name : String) (slots : List Slot) : Reader Fields
  | .obj fields => (checkFields slots fields).map fun _ => fields
  | .arr items => do
    let fields := named slots items
    checkFields slots fields
    checkLength name slots items.length
    return fields
  | v => .error (.mismatch v (.record name))

/-- A field that has to be there. -/
def required {α : Type} (name : String) (value : Reader α) (fields : Fields) :
    Except DecodeError α :=
  match fields.get? name with
  | some v => value v
  | none => .error (.missing name)

/-- A field with a value to stand in for it. -/
def withDefault {α : Type} (name : String) (value : Reader α) (default : α) (fields : Fields) :
    Except DecodeError α :=
  match fields.get? name with
  | some v => value v
  | none => .ok default

end Reader

end Brokerage
