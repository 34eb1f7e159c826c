import Brokerage.Record.Basic
import Brokerage.Text.Percent
import Brokerage.Text.Pieces

/-!
Names of database files. A name is a path, or a URI when it starts with `file:`. A URI may name the
local machine before its path, is percent-encoded, and can carry options that decide how the file is
opened; what follows a number sign does not count.
-/

namespace Brokerage.Address

/-- What may be done with a database. -/
structure Access where
  /-- Nothing is written, and nothing is created. -/
  readOnly : Bool := false
  /-- A file that is missing is created. -/
  creates : Bool := true
  /-- The database lives as long as its connection. -/
  inMemory : Bool := false
  deriving DecidableEq, Repr

/-- A name that was read: where it leads, and how that is opened. -/
structure Filename where
  path : String
  access : Access
  /-- The file is taken never to change. -/
  frozen : Bool := false
  /-- Nobody else is taken to use the file. -/
  unlocked : Bool := false
  /-- The name of the layer that reads and writes files, if one is asked for. -/
  layer? : Option String := none
  /-- The file whose rights a new file is to have, if one is asked for. -/
  modelPath? : Option String := none
  deriving DecidableEq, Repr

namespace Filename

open Text (pieces cut after?)
open Text.Numeral (isDigit digitValue hexValue? leading ofValues)

def refusal (reason : String) : DatabaseFault := .refused 1 reason

/-- The text of a part of a URI. A null byte ends the part. -/
def decodePart (cs : List Char) : String :=
  String.ofList (Text.Utf8.decodeLossy ((Text.Percent.bytes cs).takeWhile (· ≠ 0)))

/-- The options of a URI; those without a name do not count. -/
def options (query : List Char) : List (String × String) :=
  ((pieces '&' query).map fun option =>
    let (name, value) := cut '=' option
    (decodePart name, decodePart value)).filter (·.1 ≠ "")

/-- The access that a mode stands for. Unless the database is in memory, no mode can allow more
than `access` does. -/
def withMode (access : Access) (mode : String) : Except DatabaseFault Access :=
  let notAllowed : Except DatabaseFault Access :=
    .error (.refused 3 ("access mode not allowed: " ++ mode))
  match mode with
  | "ro" => .ok ⟨true, false, false⟩
  | "rw" => if access.readOnly && !access.inMemory then notAllowed else .ok ⟨false, false, false⟩
  | "rwc" => if access.creates || access.inMemory then .ok ⟨false, true, false⟩ else notAllowed
  | "memory" => .ok ⟨false, false, true⟩
  | _ => .error (refusal ("no such access mode: " ++ mode))

/-- Takes one option into account. -/
def withOption (name : Filename) (option : String × String) : Except DatabaseFault Filename :=
  match option with
  | ("mode", mode) => (withMode name.access mode).map fun access => { name with access := access }
  | ("cache", cache) =>
    if cache = "shared" || cache = "private" then .ok name
    else .error (refusal ("no such cache mode: " ++ cache))
  | ("vfs", layer) => .ok { name with layer? := some layer }
  | _ => .ok name

/-- The number that a text begins with, in decimal or, behind `0x`, in hexadecimal. One of more than
31 bits counts as zero. -/
def leadingNumber (cs : List Char) : Nat :=
  let decimal? (c : Char) : Option Nat := if isDigit c then some (digitValue c) else none
  let n := match leading hexValue? (((after? "0x" cs).or (after? "0X" cs)).getD []) with
    | [] => ofValues 10 (leading decimal? cs)
    | values => ofValues 16 values
  if n < Nat.pow 2 31 then n else 0

/-- A word of assent, or a number other than a multiple of 256. -/
def isTrue (value : String) : Bool :=
  if (value.toList.head?.map isDigit).getD false then leadingNumber value.toList % 256 ≠ 0
  else ["on", "yes", "true"].contains value.toLower

/-- What follows the name of the machine in a URI, which can only be the local one. -/
def afterMachine (cs : List Char) : Except DatabaseFault (List Char) :=
  match after? "//" cs with
  | none => .ok cs
  | some rest =>
    let machine := rest.takeWhile (· != '/')
    if machine = [] || machine = "localhost".toList then .ok (rest.drop machine.length)
    else .error (refusal ("invalid uri authority: " ++ String.ofList machine))

/-- The layers that there are. -/
def layers : List String := ["unix", "unix-none", "unix-dotfile", "unix-excl", "memdb"]

/-- Reads a name as a path or as a URI. -/
def read (access : Access) (name : List Char) : Except DatabaseFault Filename :=
  match after? "file:" name with
  | none => .ok { path := String.ofList name, access := access }
  | some rest => do
    let rest ← afterMachine rest
    let (path, query) := cut '?' (rest.takeWhile (· != '#'))
    let chosen := options query
    let isChosen (option : String) : Bool := ((chosen.lookup option).map isTrue).getD false
    let name : Filename :=
      { path := decodePart path
        access := access
        frozen := isChosen "immutable"
        unlocked := isChosen "nolock"
        modelPath? := chosen.lookup "modeof" }
    let name ← chosen.foldlM withOption name
    match name.layer? with
    | some layer =>
      if !layers.contains layer then .error (refusal ("no such vfs: " ++ layer))
    | none => pure ()
    return name

/-- The name leads to no file: the database is in memory, or nobody else can find it. -/
def isPrivate (name : Filename) : Bool :=
  name.access.inMemory || name.path = "" || name.path = ":memory:"

end Filename

end Brokerage.Address
