import Brokerage.Schema.Snapshot
import Brokerage.Startup

/-!
The command line: a start with the variables of the process and those of a settings file. Databases
are kept in files as snapshots.
-/

namespace Brokerage.CommandLine

/-- The variables that a start reads. -/
def variableNames : List String :=
  ["BROKER_DATABASE_URL", "BROKER_DB_MAX_CONNECTIONS", "BROKER_INSTANCE_LIMIT",
    "BROKER_CLAIM_TIMEOUT_SECS", "RUST_LOG"]

/-- Where a settings file may be: here, or in a directory above. -/
def settingsPaths : List String :=
  (List.range 32).map fun n => String.join (List.replicate n "../") ++ ".env"

/-- The bytes in a file. -/
def readIfPresent (path : String) : IO (Option ByteArray) := do
  try return some (← IO.FS.readBinFile path) catch _ => return none

/-- The values of some variables of the process. -/
def processEnvironment (names : List String) : IO Environment := do
  let values ← names.mapM fun name => return (name, ← IO.getEnv name)
  return fun name => (values.lookup name).join

/-- The variables of the process, with those of the nearest settings file. -/
def environment : IO Environment := do
  let files ← settingsPaths.mapM readIfPresent
  match (files.findSome? id).bind String.fromUTF8? with
  | some file =>
    let names := (Settings.mentioned file).filter (· ≠ "")
    return Settings.load (← processEnvironment (variableNames ++ names)) file
  | none => processEnvironment variableNames

/-- A disk with what is at a full path. -/
def withPath (disk : Disk) (path : String) : IO Disk := do
  if ← ((← IO.currentDir) / path).isDir then
    return { disk with directories := path :: disk.directories }
  match ← readIfPresent path with
  | none => return disk
  | some bytes =>
    match (String.fromUTF8? bytes).bind Database.ofSnapshot? with
    | some db => return disk.write path db
    | none => return disk.writeBytes path bytes.toList

/-- Something with a full path, and the directories around it, from the outside in. -/
def around (path : String) : List String :=
  let names := Text.pieces '/' path.toList
  (List.range' 2 (names.length - 1)).map fun n => String.ofList (Text.joined '/' (names.take n))

/-- The disk as far as a start with the variables of `env` can see it. -/
def diskOf (env : Environment) : IO Disk := do
  let disk : Disk := { workingDirectory := toString (← IO.currentDir) }
  match Startup.filename? env with
  | none => return disk
  | some name =>
    let files := (name.path :: name.modelPath?.toList).filterMap disk.fullPath?
    let neighbours := files.flatMap fun path =>
      ["", Disk.journalSuffix, Disk.logSuffix, Disk.lockSuffix].map (path ++ ·)
    (neighbours.flatMap around).eraseDups.foldlM withPath disk

/-- Brings the files to what a disk has become. -/
def keep (before after : Disk) : IO Unit := do
  for (path, _) in before.databases do
    if !after.isFile path then IO.FS.removeFile path
  for (path, _) in before.otherFiles do
    if !after.isFile path then IO.FS.removeFile path
  for (path, db) in after.databases do
    IO.FS.writeFile path db.snapshot

end Brokerage.CommandLine

open Brokerage CommandLine in
def main : IO UInt32 := do
  let env ← environment
  let disk ← diskOf env
  let outcome := Startup.run env disk
  keep disk outcome.disk
  outcome.log.forM fun line => IO.println line
  IO.eprint outcome.errorOutput
  return outcome.exitCode.toUInt32
