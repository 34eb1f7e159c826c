import Brokerage.Binary64.Basic

/-!
JSON values, and free-form records: lists of named values in ascending order of name, as provider
metadata, credentials and request parameters are held.
-/

namespace Brokerage

/-- A number is whole, from `-2^63` up to `2^64 - 1`, or a binary64 number. -/
inductive Json.Number where
  | whole (n : Int)
  | float (x : Binary64)
  deriving DecidableEq, Repr

inductive Json where
  | null
  | bool (b : Bool)
  | num (n : Json.Number)
  | str (s : String)
  | arr (items : List Json)
  | obj (fields : List (String × Json))
  deriving Repr, Inhabited

/-- Named values. Those that the library builds have ascending names, each once. -/
abbrev Fields := List (String × Json)

namespace Fields

/-- Sets `key` to `value`, in its place by name. -/
def insert (key : String) (value : Json) : Fields → Fields
  | [] => [(key, value)]
  | (k, v) :: rest =>
    if key < k then (key, value) :: (k, v) :: rest
    else if key = k then (key, value) :: rest
    else (k, v) :: insert key value rest

def get? (key : String) (fields : Fields) : Option Json := fields.lookup key

/-- The union of two records; where both have a name, the value in `overrides` stands. -/
def merge (base overrides : Fields) : Fields :=
  overrides.foldl (fun merged (k, v) => insert k v merged) base

/-- The record of a list of pairs; of a repeated name the last value stands. -/
def ofList (pairs : List (String × Json)) : Fields := merge [] pairs

/-- The text under `key`, if there is one and it is a text. -/
def text? (key : String) (fields : Fields) : Option String :=
  match fields.get? key with
  | some (.str s) => some s
  | _ => none

/-- Names ascend, so each occurs once. -/
def Sorted (fields : Fields) : Prop := fields.Pairwise fun a b => a.1 < b.1

end Fields

namespace Json

def ofNat (n : Nat) : Json := .num (.whole n)

def ofInt (n : Int) : Json := .num (.whole n)

/-- A list of texts. -/
def texts (items : List String) : Json := .arr (items.map .str)

end Json

end Brokerage
