import Brokerage.Json.Decoding

/-!
Authorization policies: bindings of roles to members. Merged bindings name each role once, in
ascending order, with its members in ascending order; a role without members is dropped.
-/

namespace Brokerage

structure RoleBinding where
  role : String
  members : List String
  deriving DecidableEq, Repr

/-- A policy, with the tag of the version that was read. -/
structure Policy where
  bindings : List RoleBinding
  etag : String
  deriving DecidableEq, Repr

namespace RoleBinding

/-- Adds a text to an ascending list, unless it is there. -/
def insertText (s : String) : List String → List String
  | [] => [s]
  | t :: rest =>
    if s < t then s :: t :: rest
    else if s = t then t :: rest
    else t :: insertText s rest

/-- The texts of a list in ascending order, each once. -/
def ascending (texts : List String) : List String :=
  texts.foldl (fun sorted s => insertText s sorted) []

/-- The members that some binding gives `role` to. -/
def membersOf (bindings : List RoleBinding) (role : String) : List String :=
  ascending ((bindings.filter (·.role = role)).flatMap (·.members))

/-- The bindings with one entry for each role that has members. -/
def merge (bindings : List RoleBinding) : List RoleBinding :=
  ((ascending (bindings.map (·.role))).map fun role => ⟨role, membersOf bindings role⟩).filter
    fun b => !b.members.isEmpty

/-- Takes `member` out of every binding. -/
def removeMember (member : String) (bindings : List RoleBinding) : List RoleBinding :=
  bindings.map fun b => { b with members := b.members.filter (· != member) }

open Reader

def slots : List Slot := [neededSlot "role" text, neededSlot "members" (list text)]

def ofJson (v : Json) : Except DecodeError RoleBinding := do
  let fields ← record "PolicyBinding" slots v
  let role ← required "role" text fields
  let members ← required "members" (list text) fields
  return ⟨role, members⟩

def toJson (b : RoleBinding) : Json :=
  .obj [("role", .str b.role), ("members", Json.texts b.members)]

end RoleBinding

end Brokerage
