import Brokerage.Address.Basic
import Brokerage.Disk.Image
import Brokerage.Schema.Database

/-!
A disk: its directories, the databases in its files, and its other files. Everything is known by its
full path, in which no step leads back. A path is made full by following it step by step from the
working directory; only a step that leads through a file, or a name that is too long, makes it lead
nowhere.

A database has neighbours, files with something added to its name: two tell what is left of
transactions, and one that the database is in use. They matter when it is opened.
-/

namespace Brokerage

structure Disk where
  /-- Where paths start that do not start at the root. -/
  workingDirectory : String := "/"
  directories : List String := ["/"]
  databases : List (String × Database) := []
  otherFiles : List (String × Disk.Image) := []

/-- A database that was found, and the full path of its file. -/
structure Found where
  database : Database
  path? : Option String := none
  /-- The number of the first migration that cannot be written to it, and why. -/
  barrier? : Option (Nat × Disk.Fault) := none

namespace Disk

open Address (Filename)
open Text (pieces joined)

/-- The greatest number of bytes in the name of a file. -/
def longestName : Nat := 255

/-- The greatest number of bytes in a full path. -/
def longestPath : Nat := 512

/-- What is added to the name of a file to name the journal of its database. -/
def journalSuffix : String := "-journal"

/-- What is added to name the log of changes. -/
def logSuffix : String := "-wal"

/-- What is added to name the file that tells that the database is in use. -/
def lockSuffix : String := ".lock"

/-! ### Paths -/

/-- The full path of nested directories or files, the innermost first. -/
def pathOf (names : List (List Char)) : String :=
  String.ofList ('/' :: joined '/' names.reverse)

def isFile (d : Disk) (path : String) : Bool :=
  (d.databases.lookup path).isSome || (d.otherFiles.lookup path).isSome

def isDirectory (d : Disk) (path : String) : Bool := d.directories.contains path

/-- The steps of a path from the root. -/
def steps (d : Disk) (path : String) : List (List Char) :=
  let path := if path.startsWith "/" then path else d.workingDirectory ++ "/" ++ path
  pieces '/' path.toList

/-- Where a step leads from where `names` lead. -/
def stepFrom (names : List (List Char)) (name : List Char) : List (List Char) :=
  if name = [] || name = ['.'] then names
  else if name = ['.', '.'] then names.drop 1
  else name :: names

/-- Goes one step on, if neither a file nor the length is in the way. -/
def step? (d : Disk) (names : List (List Char)) (name : List Char) :
    Option (List (List Char)) :=
  let next := stepFrom names name
  if next.length ≤ names.length then some next
  else if (Text.Utf8.encode name).length ≤ longestName && !d.isFile (pathOf names) &&
      (pathOf next).utf8ByteSize < longestPath then
    some next
  else none

/-- The full path that `path` leads to, if a file can be there. -/
def fullPath? (d : Disk) (path : String) : Option String :=
  match (d.steps path).foldlM d.step? [] with
  | none | some [] => none
  | some names =>
    let full := pathOf names
    if full.utf8ByteSize + journalSuffix.length ≤ longestPath then some full else none

/-- Something is at a full path. -/
def holds (d : Disk) (path : String) : Bool := d.isFile path || d.isDirectory path

/-- Something is where `path` leads. Every step has to start in a directory. -/
def finds (d : Disk) (path : String) : Bool :=
  let step? (names : List (List Char)) (name : List Char) : Option (List (List Char)) :=
    if d.isDirectory (pathOf names) then some (stepFrom names name) else none
  path ≠ "" && (((d.steps path).foldlM step? []).map fun names => d.holds (pathOf names)).getD false

/-- The directory in which something with a full path is. -/
def directoryOf (path : String) : String :=
  let before := (path.toList.reverse.dropWhile (· != '/')).drop 1
  if before = [] then "/" else String.ofList before.reverse

/-- The name of the file at a full path is short enough to have something added. -/
def canAdd (path suffix : String) : Bool :=
  let name := path.toList.reverse.takeWhile (· != '/')
  (Text.Utf8.encode name).length + suffix.length ≤ longestName

/-! ### Files -/

/-- Without the file at a full path. -/
def erase (d : Disk) (path : String) : Disk :=
  { d with
    databases := d.databases.filter (·.1 != path)
    otherFiles := d.otherFiles.filter (·.1 != path) }

def write (d : Disk) (path : String) (db : Database) : Disk :=
  let d := d.erase path
  { d with databases := (path, db) :: d.databases }

theorem lookup_write (d : Disk) (path : String) (db : Database) :
    (d.write path db).databases.lookup path = some db := by
  simp [write]

/-- With bytes in the file at a full path. No byte, or a single one, is an empty database. -/
def writeBytes (d : Disk) (path : String) (bytes : List UInt8) : Disk :=
  if bytes.length ≤ 1 then d.write path .empty
  else
    let d := d.erase path
    { d with otherFiles := (path, ⟨bytes⟩) :: d.otherFiles }

def writeText (d : Disk) (path text : String) : Disk :=
  d.writeBytes path (Text.Utf8.encode text.toList)

/-- There is a file at a full path, and something in it. -/
def isWritten (d : Disk) (path : String) : Bool :=
  match d.databases.lookup path with
  | some db => db ≠ .empty
  | none => (d.otherFiles.lookup path).isSome

/-- Keeps a database that has changed in the file at a full path, if it has one. Its journal goes
away with that. -/
def keep (d : Disk) (path? : Option String) (before after : Database) : Disk :=
  match path? with
  | some path => if before = after then d else (d.erase (path ++ journalSuffix)).write path after
  | none => d

/-! ### Opening a database -/

/-- What is done with a disk, and can fail on the way. -/
abbrev Action := ExceptT Fault (StateM Disk)

/-- Connections tell each other by a file that they use the database. -/
def locksByFile (name : Filename) : Bool := name.layer? = some "unix-dotfile" && !name.unlocked

/-- Connections can share memory. -/
def sharesMemory (name : Filename) : Bool :=
  !name.unlocked && name.layer? ≠ some "unix-dotfile" && name.layer? ≠ some "unix-none"

/-- Makes sure that there is a file. A missing one is created empty. A directory can be opened for
reading, and then not be read. -/
def findOrCreate (path : String) (name : Filename) : Action Unit := do
  let d ← get
  if (name.modelPath?.map fun model => !d.finds model).getD false then throw .noModel
  if d.isDirectory path then
    throw (if name.access.readOnly then .isDirectory else .cannotOpen)
  if !d.isFile path then
    if name.access.creates && d.isDirectory (directoryOf path) then set (d.write path .empty)
    else throw .cannotOpen

/-- Tells others that the database is in use. -/
def lock (path : String) (name : Filename) : Action Unit := do
  if locksByFile name then
    if !canAdd path lockSuffix then throw .cannotLock
    if (← get).holds (path ++ lockSuffix) then throw .locked

/-- Undoes what a journal tells of. It is of no use to a database in which nothing is written. -/
def settleJournal (path : String) (name : Filename) : Action Unit := do
  let d ← get
  let journal := path ++ journalSuffix
  if d.isWritten journal then
    if d.isWritten path then
      if !locksByFile name then
        if name.access.readOnly then throw .journalLeft else set (d.erase journal)
    else if !name.access.readOnly then set (d.erase journal)

/-- Takes over what a log tells of, for which memory is shared. -/
def settleLog (path : String) (name : Filename) : Action Unit := do
  let d ← get
  let log := path ++ logSuffix
  if d.isWritten log then
    if !d.isWritten path then set (d.erase log)
    else if !sharesMemory name then throw .cannotOpen
    else if !name.access.readOnly then set (d.erase log)

/-- Why nothing can be written to the database at a full path: it is not meant to be, or there can
be no journal. -/
def barrier? (path : String) (name : Filename) : Option Fault :=
  if name.access.readOnly || name.frozen then some .readOnly
  else if !canAdd path journalSuffix then some .cannotOpen
  else none

/-- The database in the file at a full path. -/
def read (path : String) (name : Filename) : Action Found := do
  let d ← get
  let barrier? := (barrier? path name).map fun fault => (0, fault)
  match d.databases.lookup path, d.otherFiles.lookup path with
  | some db, _ => return ⟨db, some path, barrier?⟩
  | none, some image =>
    match image.readFault? (name.frozen || sharesMemory name) with
    | some fault => throw fault
    | none => return ⟨.empty, some path, barrier?.or image.writeFault?⟩
  | none, none => throw .cannotOpen

/-- Opens the database that a name leads to. One that never changes has no neighbours. -/
def openFile (name : Filename) : Action Found := do
  match (← get).fullPath? name.path with
  | none => throw .cannotOpen
  | some path =>
    findOrCreate path name
    if !name.frozen then
      lock path name
      settleJournal path name
      settleLog path name
    read path name

end Disk

/-- Migrations are applied to a database up to the first that cannot be written to it. -/
def Found.target (found : Found) : MigrationTarget Database where
  lastApplied := Database.target.lastApplied
  apply m db :=
    match found.barrier? with
    | some (first, fault) =>
      if first ≤ m.sequence then .error fault.refusal else Database.target.apply m db
    | none => Database.target.apply m db

end Brokerage
