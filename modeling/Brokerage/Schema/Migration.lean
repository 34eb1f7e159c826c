import Brokerage.Record.Basic
import Brokerage.Schema.Script

/-!
Migrations: numbered schema scripts, and the run that applies those a database does not have yet.
A database records the numbers applied to it in a ledger; the highest decides what is left to do.
A script that fails leaves the scripts before it applied.
-/

namespace Brokerage

structure Migration where
  sequence : Int
  description : String
  script : SchemaScript
  deriving DecidableEq, Repr

inductive MigrationError where
  /-- The database has migrations that this library does not know. -/
  | schemaAhead (found supported : Int)
  | unsupportedBaseline (found oldest : Int)
  | failed (sequence : Int) (cause : StoreError)
  | unsupportedUrl (scheme : String)
  /-- The ledger cannot be read, or no connection be made. -/
  | store (cause : StoreError)
  deriving DecidableEq, Repr

/-- The name of a kind of error. -/
def MigrationError.kind : MigrationError → String
  | .schemaAhead _ _ => "SchemaAhead"
  | .unsupportedBaseline _ _ => "UnsupportedBaseline"
  | .failed _ _ => "Failed"
  | .unsupportedUrl _ => "UnsupportedUrl"
  | .store _ => "Store"

def MigrationError.message : MigrationError → String
  | .schemaAhead found supported =>
    "database schema is at migration " ++ toString found ++ " but this build only knows up to " ++
      toString supported ++ "; upgrade the broker before connecting it to this database"
  | .unsupportedBaseline found oldest =>
    "database schema is at migration " ++ toString found ++
      ", older than the oldest supported baseline " ++ toString oldest
  | .failed sequence cause => "migration " ++ toString sequence ++ " failed: " ++ cause.message
  | .unsupportedUrl scheme => "unsupported database url scheme: " ++ scheme
  | .store cause => cause.message

/-- Migrations in ascending order, and the oldest schema that they can start from. -/
structure Migrator where
  migrations : List Migration
  oldestSupported : Int
  deriving Repr

/-- Something that migrations are applied to, with a state of type `σ`. Applying a migration also
records its number, or fails and changes nothing. -/
structure MigrationTarget (σ : Type) where
  lastApplied : σ → Except StoreError (Option Int)
  apply : Migration → σ → Except StoreError σ

namespace Migrator

/-- Migrations of one number keep their order. -/
def ofList (migrations : List Migration) (oldestSupported : Int) : Migrator :=
  ⟨migrations.mergeSort fun a b => a.sequence ≤ b.sequence, oldestSupported⟩

/-- The highest number, or `-1` if there is no migration. -/
def latest (m : Migrator) : Int :=
  match m.migrations.getLast? with
  | some last => last.sequence
  | none => -1

/-- The migrations left to apply after the highest number in a ledger. -/
def pending (m : Migrator) (lastApplied : Option Int) : Except MigrationError (List Migration) :=
  let last := lastApplied.getD (-1)
  if m.latest < last then .error (.schemaAhead last m.latest)
  else if 0 ≤ last && last < m.oldestSupported then
    .error (.unsupportedBaseline last m.oldestSupported)
  else .ok (m.migrations.dropWhile (·.sequence ≤ last))

/-- Applies migrations in order up to the first that fails. -/
def applyAll {σ : Type} (target : MigrationTarget σ) :
    List Migration → σ → Except MigrationError Unit × σ
  | [], s => (.ok (), s)
  | m :: rest, s =>
    match target.apply m s with
    | .ok s' => applyAll target rest s'
    | .error e => (.error (.failed m.sequence e), s)

/-- Applies what is left to do, and says how many migrations that were. -/
def run {σ : Type} (m : Migrator) (target : MigrationTarget σ) (s : σ) :
    Except MigrationError Nat × σ :=
  match target.lastApplied s with
  | .error e => (.error (.store e), s)
  | .ok last =>
    match m.pending last with
    | .error e => (.error e, s)
    | .ok pending =>
      match applyAll target pending s with
      | (.ok (), s') => (.ok pending.length, s')
      | (.error e, s') => (.error e, s')

/-- The migrations of the broker's own schema. -/
def broker : Migrator :=
  ofList
    [⟨0, "create instance, binding, request, plan and ledger tables", .baseline⟩,
      ⟨1, "add explicit instance status", .instanceStatus⟩,
      ⟨2, "unique live binding per instance, request lookup index", .liveBindingIndex⟩,
      ⟨3, "add binding status for claimed binds", .bindingStatus⟩]
    0

end Migrator

end Brokerage
