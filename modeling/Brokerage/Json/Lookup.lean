import Brokerage.Json.Basic

/-!
Looking into JSON values of which nothing is known for certain: a part that is absent or of another
type reads as an empty one.
-/

namespace Brokerage.Json

/-- The field of a record under `key`. -/
def field? (j : Json) (key : String) : Option Json :=
  match j with
  | obj fields => Fields.get? key fields
  | _ => none

/-- The field of a record under `key`; an absent one is null. -/
def field (j : Json) (key : String) : Json := (j.field? key).getD null

def asText? : Json → Option String
  | str s => some s
  | _ => none

def asInt? : Json → Option Int
  | num (.whole n) => some n
  | _ => none

def asNat? (j : Json) : Option Nat := j.asInt?.map Int.toNat

def asText (j : Json) : String := j.asText?.getD ""

def asInt (j : Json) : Int := j.asInt?.getD 0

def asNat (j : Json) : Nat := j.asInt.toNat

def asBool : Json → Bool
  | bool b => b
  | _ => false

def asList : Json → List Json
  | arr items => items
  | _ => []

def asFields : Json → Fields
  | obj fields => fields
  | _ => []

/-- The text of a field. -/
def textAt (j : Json) (key : String) : String := (j.field key).asText

/-- The texts in the list of a field. -/
def textsAt (j : Json) (key : String) : List String := (j.field key).asList.map asText

/-- The items in the list of a field. -/
def itemsAt (j : Json) (key : String) : List Json := (j.field key).asList

/-- A value, or null for none. -/
def ofOption (v : Option Json) : Json := v.getD null

def ofText? (s : Option String) : Json := ofOption (s.map str)

end Brokerage.Json
