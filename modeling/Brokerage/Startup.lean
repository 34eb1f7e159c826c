import Brokerage.Broker.Display
import Brokerage.Config
import Brokerage.Disk.Basic
import Brokerage.Log.Filter

/-!
What an operator starts: the settings are read, the database is opened and brought to the current
schema, and a log tells how far it went. The databases are those of a disk, by path.
-/

namespace Brokerage

/-- A database at the current schema, where it is kept, and the migrations that this took. -/
structure Opened where
  database : Database
  path? : Option String
  applied : List Migration

/-- What happened on the way to the current schema: the migrations begun, and the outcome. -/
structure Opening where
  begun : List Migration
  outcome : Except MigrationError Opened
  disk : Disk

/-- The migrations of `pending` up to the one that failed. -/
def begunUpTo (failed : Int) (pending : List Migration) : List Migration :=
  pending.take ((pending.takeWhile (·.sequence ≠ failed)).length + 1)

/-- Brings a database to the current schema, and keeps it as far as that went. -/
def bringUp (disk : Disk) (found : Found) : Opening :=
  let db := found.database
  match Migrator.broker.pending db.lastApplied with
  | .error e => ⟨[], .error e, disk⟩
  | .ok pending =>
    let (result, after) := Migrator.broker.run found.target db
    let disk := disk.keep found.path? db after
    match result with
    | .ok _ => ⟨pending, .ok ⟨after, found.path?, pending⟩, disk⟩
    | .error (.failed sequence cause) =>
      ⟨begunUpTo sequence pending, .error (.failed sequence cause), disk⟩
    | .error e => ⟨[], .error e, disk⟩

/-- Opens the database at an address. No server is reached from here. -/
def openUrl (disk : Disk) (url : String) : Opening :=
  match Address.parse url with
  | .error e => ⟨[], .error e, disk⟩
  | .ok (.memory writable) =>
    bringUp disk ⟨.empty, none, if writable then none else some (0, .readOnly)⟩
  | .ok (.file name) =>
    match Disk.openFile name disk with
    | (.error fault, disk) => ⟨[], .error (.store fault.refusal), disk⟩
    | (.ok found, disk) => bringUp disk found
  | .ok .server => ⟨[], .error (.store (.database .poolTimedOut)), disk⟩

/-- Opens the database at an address, lets `work` use it, and keeps what is left. -/
def useDatabase {α : Type} (disk : Disk) (url : String) (work : Database → α × Database) :
    Except MigrationError α × Disk :=
  let opening := openUrl disk url
  match opening.outcome with
  | .error e => (.error e, opening.disk)
  | .ok opened =>
    let (result, db) := work opened.database
    (.ok result, opening.disk.keep opened.path? opened.database db)

/-- What a start comes to. -/
structure Outcome where
  exitCode : Nat
  /-- The lines of the log. -/
  log : List String
  errorOutput : String
  disk : Disk

namespace Startup

open Log (Event Filter)

/-- The part of the program that reports on a start, and the two parts below it. -/
def target : String := "broker_core"

def info (message : String) (fields : List (String × String) := []) : Event :=
  ⟨.info, target, message, fields⟩

def failure (message : String) (fields : List (String × String) := []) : Event :=
  ⟨.error, target, message, fields⟩

def configured (c : Config) : Event :=
  info "Configuration loaded"
    [("max_connections", toString c.maxConnections),
      ("instance_limit", Display.optional (c.instanceLimit.map toString)),
      ("claim_timeout", Display.duration c.claimTimeout)]

/-- A report on a migration that is begun. -/
def applying (m : Migration) : Event :=
  ⟨.info, target ++ "::migrations", "Applying migration",
    [("sequence", toString m.sequence), ("description", Text.quoted m.description)]⟩

/-- A report that no migration is left to do. -/
def upToDate (last : Option Int) : Event :=
  ⟨.debug, target ++ "::migrations", "Schema is up to date",
    [("last", Display.optional (last.map toString))]⟩

def ready (applied : Nat) : Event :=
  ⟨.info, target ++ "::store", "Record store ready",
    [("backend", "\"sqlite\""), ("applied", toString applied)]⟩

/-- A report on an option of a server that is not heeded. -/
def ignoring (option : String × String) : Event :=
  ⟨.warn, "sqlx_postgres::options::parse", "ignoring unrecognized connect parameter",
    [("key", option.1), ("value", option.2)]⟩

/-- The warning that no instance can be created, if that is so. -/
def limitReached (limit : Option Nat) (live : Nat) : List Event :=
  match limit with
  | none => []
  | some limit =>
    if live < limit then []
    else
      [failure "Instance limit already reached; provisioning will be refused"
        [("live_instances", toString live), ("limit", toString limit)]]

/-- What an error that ends a start is caused by, outermost first. -/
def causes : MigrationError → List String
  | .store (.database fault) => fault.layers
  | .store (.malformed _ fault) => [fault.message]
  | .failed _ (.database fault) => (StoreError.database fault).message :: fault.layers
  | .failed _ cause => [cause.message]
  | _ => []

/-- A cause with `start` before it, and its further lines as far to the right as the first. -/
def causeText (start cause : String) : String :=
  let margin := String.ofList ('\n' :: List.replicate start.length ' ')
  start ++ margin.intercalate ((Text.pieces '\n' cause.toList).map String.ofList) ++ "\n"

/-- Causes one below the other; they are numbered if there are several. -/
def causeLines : List String → String
  | [cause] => causeText "    " cause
  | causes =>
    String.join (causes.zipIdx.map fun (c, i) => causeText ("    " ++ toString i ++ ": ") c)

/-- An error and its causes, as they end a start. -/
def errorOutput (message : String) (causes : List String) : String :=
  "Error: " ++ message ++ "\n" ++
    if causes.isEmpty then "" else "\nCaused by:\n" ++ causeLines causes

/-- The name of the file in which a start with the variables of `env` would look for a database. -/
def filename? (env : Environment) : Option Address.Filename :=
  match Config.ofEnvironment env with
  | .error _ => none
  | .ok config =>
    match Address.parse config.databaseUrl with
    | .ok (.file name) => some name
    | _ => none

/-- What happens in a start: its exit code, the events, what is said of an error, and the disk that
is left. -/
structure Course where
  exitCode : Nat
  events : List Event
  complaint : String
  disk : Disk

/-- The course of a start with the variables of `env`. -/
def course (env : Environment) (disk : Disk) : Course :=
  let begun := [info "Starting Broker Core"]
  match Config.ofEnvironment env with
  | .error e =>
    ⟨1, begun ++ [failure ("Configuration error: " ++ e.message)], errorOutput e.message [], disk⟩
  | .ok config =>
    let opening := openUrl disk config.databaseUrl
    let events := begun ++ [configured config, info "Opening record store..."] ++
      (Address.ignoredOptions config.databaseUrl).map ignoring ++ opening.begun.map applying
    match opening.outcome with
    | .error e =>
      ⟨1, events ++ [failure ("Record store error: " ++ e.message)],
        errorOutput e.message (causes e), opening.disk⟩
    | .ok opened =>
      let last := opened.database.lastApplied
      let live := opened.database.store.countAllInstances
      ⟨0, events ++ (if opened.applied.isEmpty then [upToDate last] else []) ++
          [ready opened.applied.length, info "Database health check passed",
            info "Broker Core initialized successfully" [("live_instances", toString live)]] ++
          limitReached config.instanceLimit live,
        "", opening.disk⟩

/-- The filter that an operator asks for, which does not hold for the start itself: of that
everything but the details is logged. -/
def filter (setting : String) : Filter :=
  Filter.insert { target? := some target, threshold := some .info } (Filter.ofSetting setting)

/-- A start with the variables of `env`. -/
def run (env : Environment) (disk : Disk) : Outcome :=
  let setting := (env "RUST_LOG").getD ""
  let course := course env disk
  let events := course.events.filter (filter setting).admits
  let notices := String.join ((Filter.notices setting).map (· ++ "\n"))
  ⟨course.exitCode, events.flatMap Event.lines, notices ++ course.complaint, course.disk⟩

end Startup

end Brokerage
