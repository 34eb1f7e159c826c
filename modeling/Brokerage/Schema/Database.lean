import Brokerage.Schema.Migration
import Brokerage.Store.Call

/-!
A database on its way to the current schema: which parts of the schema it has, the rows in it, and
the ledger of migrations. At the current schema it answers as its store does; before, a statement
that names a missing table or column is refused, and pairs of bindings are not yet unique.
-/

namespace Brokerage

/-- The parts of the schema that a database has. -/
structure Schema where
  tables : Bool := false
  instanceStatus : Bool := false
  livePairs : Bool := false
  bindingStatus : Bool := false
  deriving DecidableEq, Repr

def Schema.current : Schema := ⟨true, true, true, true⟩

structure Database where
  schema : Schema := {}
  store : Store := {}
  /-- The numbers of the applied migrations, in the order of application. -/
  ledger : List Int := []
  deriving DecidableEq, Repr

/-- A statement refused as an error in its text. -/
def StoreError.badStatement (reason : String) : StoreError := .database (.refused 1 reason)

def StoreError.duplicateStatus : StoreError := .badStatement "duplicate column name: status"

namespace Database

/-- A database without tables. -/
def empty : Database := {}

/-- Some pair has two live bindings. -/
def sharesLivePair : List BindingRow → Bool
  | [] => false
  | r :: rest =>
    (r.live && rest.any fun r' => r'.live && r'.isOf r.instanceId r.bindingId) ||
      sharesLivePair rest

/-- The effect of a script. A column that is added reads as active in the rows before it. -/
def runScript (db : Database) : SchemaScript → Except StoreError Database
  | .baseline => .ok { db with schema := { db.schema with tables := true } }
  | .instanceStatus =>
    if db.schema.instanceStatus then .error .duplicateStatus
    else .ok { db with
      schema := { db.schema with instanceStatus := true }
      store := { db.store with
        instances := db.store.instances.map (·.withStatus .active) } }
  | .liveBindingIndex =>
    if db.schema.livePairs then .ok db
    else if sharesLivePair db.store.bindings then .error Store.bindingTaken
    else .ok { db with schema := { db.schema with livePairs := true } }
  | .bindingStatus =>
    if db.schema.bindingStatus then .error .duplicateStatus
    else .ok { db with
      schema := { db.schema with bindingStatus := true }
      store := { db.store with
        bindings := db.store.bindings.map (·.withStatus .active) } }

/-- Runs the script of a migration and records its number. -/
def applyMigration (m : Migration) (db : Database) : Except StoreError Database :=
  (db.runScript m.script).map fun db => { db with ledger := db.ledger ++ [m.sequence] }

/-- The highest number in the ledger. -/
def lastApplied (db : Database) : Option Int := if db.schema.tables then db.ledger.max? else none

def target : MigrationTarget Database where
  lastApplied db := .ok db.lastApplied
  apply := applyMigration

/-- Brings the database to the current schema. -/
def migrate (db : Database) : Except MigrationError Nat × Database := Migrator.broker.run target db

/-- A fresh database at the current schema. -/
def migrated : Database := empty.migrate.2

def instanceTable : String := "service_instance_details"

def bindingTable : String := "service_binding_credentials"

/-- The table that a call is about, if any. -/
def tableOf : StoreCall → Option String
  | .countInstances _ | .countAllInstances | .createInstance _ | .claimInstance _ _
  | .saveInstance _ | .getInstance _ | .getInstanceIncludingDeleted _ | .softDeleteInstance _
  | .isInstanceSoftDeleted _ | .releaseInstanceClaim _ => some instanceTable
  | .countBindings _ _ | .createBinding _ | .saveBinding _ | .releaseBindingClaim _
  | .getBinding _ _ | .getBindingIncludingDeleted _ _ | .softDeleteBinding _ _
  | .isBindingSoftDeleted _ _ => some bindingTable
  | .createRequest _ | .listRequests _ => some "provision_request_details"
  | .createPlan _ | .getPlan _ _ => some "plan_details"
  | .healthCheck => none

/-- Whether a call reads or writes a status, and if it inserts one. -/
def usesStatus : StoreCall → Option Bool
  | .createInstance _ | .claimInstance _ _ | .createBinding _ => some true
  | .saveInstance _ | .getInstance _ | .getInstanceIncludingDeleted _ | .releaseInstanceClaim _
  | .saveBinding _ | .releaseBindingClaim _ | .getBinding _ _
  | .getBindingIncludingDeleted _ _ => some false
  | _ => none

/-- The refusal of a call for want of a table or a column. -/
def refusal? (schema : Schema) (call : StoreCall) : Option StoreError :=
  match tableOf call with
  | none => none
  | some table =>
    let hasStatus := if table = instanceTable then schema.instanceStatus else schema.bindingStatus
    if !schema.tables then some (.badStatement ("no such table: " ++ table))
    else
      match usesStatus call with
      | some inserts =>
        if hasStatus then none
        else if inserts then
          some (.badStatement ("table " ++ table ++ " has no column named status"))
        else some (.badStatement "no such column: status")
      | none => none

/-- The answer to a call, with the store after it. -/
def answer (db : Database) (now : Instant) (call : StoreCall) :
    Except StoreError (call.Value × Store) :=
  match refusal? db.schema call with
  | some e => .error e
  | none =>
    match call with
    | .createBinding row =>
      if db.schema.livePairs then db.store.answer now (.createBinding row)
      else .ok (db.store.insertBinding row)
    | call => db.store.answer now call

/-- What a call returns and the database that it leaves: the same one after a failure. -/
def step (db : Database) (now : Instant) (call : StoreCall) :
    Except StoreError call.Value × Database :=
  match db.answer now call with
  | .ok (value, store) => (.ok value, { db with store := store })
  | .error e => (.error e, db)

end Database

end Brokerage
