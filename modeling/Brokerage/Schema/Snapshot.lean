import Brokerage.Json.Reading
import Brokerage.Record.Listing
import Brokerage.Schema.Database

/-!
Snapshots of databases: a database as one JSON text, from which it can be read again. A text that is
not a whole snapshot reads as no database.
-/

namespace Brokerage

namespace Snapshot

def timeFields (createdAt updatedAt : Instant) (deletedAt? : Option Instant) :
    List (String × Json) :=
  [("created_at", Json.ofInt createdAt), ("updated_at", Json.ofInt updatedAt),
    ("deleted_at", Json.ofOption (deletedAt?.map Json.ofInt))]

/-- The text of a field that has to be one. -/
def text? (j : Json) (key : String) : Option String := (j.field key).asText?

def int? (j : Json) (key : String) : Option Int := (j.field key).asInt?

def bool? (j : Json) (key : String) : Option Bool :=
  match j.field key with
  | .bool b => some b
  | _ => none

/-- The rows in the list of a field. -/
def rows? {α : Type} (j : Json) (key : String) (row? : Json → Option α) : Option (List α) :=
  match j.field key with
  | .arr items => items.mapM row?
  | _ => none

/-- A time that need not be there, null if it is not. -/
def time? (j : Json) (key : String) : Option (Option Instant) :=
  match j.field key with
  | .null => some none
  | v => v.asInt?.map some

end Snapshot

open Snapshot

namespace InstanceRow

def toJson (r : InstanceRow) : Json :=
  .obj (r.columns ++ timeFields r.createdAt r.updatedAt r.deletedAt?)

def ofJson? (j : Json) : Option InstanceRow := do
  return {
    id := ← text? j "id"
    name := ← text? j "name"
    location := ← text? j "location"
    url := ← text? j "url"
    otherDetails := ← text? j "other_details"
    serviceId := ← text? j "service_id"
    planId := ← text? j "plan_id"
    spaceGuid := ← text? j "space_guid"
    organizationGuid := ← text? j "organization_guid"
    statusText := ← text? j "status"
    createdAt := ← int? j "created_at"
    updatedAt := ← int? j "updated_at"
    deletedAt? := ← time? j "deleted_at" }

end InstanceRow

namespace BindingRow

def toJson (r : BindingRow) : Json :=
  .obj (r.columns ++ timeFields r.createdAt r.updatedAt r.deletedAt?)

def ofJson? (j : Json) : Option BindingRow := do
  return {
    id := ← int? j "id"
    instanceId := ← text? j "instance_id"
    bindingId := ← text? j "binding_id"
    serviceId := ← text? j "service_id"
    otherDetails := ← text? j "other_details"
    statusText := ← text? j "status"
    createdAt := ← int? j "created_at"
    updatedAt := ← int? j "updated_at"
    deletedAt? := ← time? j "deleted_at" }

end BindingRow

namespace RequestRow

def toJson (r : RequestRow) : Json := .obj (r.columns ++ [("created_at", Json.ofInt r.createdAt)])

def ofJson? (j : Json) : Option RequestRow := do
  return {
    id := ← int? j "id"
    instanceId := ← text? j "instance_id"
    requestDetails := ← text? j "request_details"
    createdAt := ← int? j "created_at" }

end RequestRow

namespace PlanRow

def toJson (r : PlanRow) : Json :=
  .obj (r.columns ++ timeFields r.createdAt r.updatedAt r.deletedAt?)

def ofJson? (j : Json) : Option PlanRow := do
  return {
    id := ← text? j "id"
    serviceId := ← text? j "service_id"
    name := ← text? j "name"
    features := ← text? j "features"
    createdAt := ← int? j "created_at"
    updatedAt := ← int? j "updated_at"
    deletedAt? := ← time? j "deleted_at" }

end PlanRow

namespace Schema

def toJson (s : Schema) : Json :=
  .obj [("tables", .bool s.tables), ("instance_status", .bool s.instanceStatus),
    ("live_pairs", .bool s.livePairs), ("binding_status", .bool s.bindingStatus)]

def ofJson? (j : Json) : Option Schema := do
  return ⟨← bool? j "tables", ← bool? j "instance_status", ← bool? j "live_pairs",
    ← bool? j "binding_status"⟩

end Schema

namespace Store

def toJson (s : Store) : Json :=
  .obj [("instances", .arr (s.instances.map InstanceRow.toJson)),
    ("bindings", .arr (s.bindings.map BindingRow.toJson)),
    ("requests", .arr (s.requests.map RequestRow.toJson)),
    ("plans", .arr (s.plans.map PlanRow.toJson)),
    ("last_binding_id", Json.ofInt s.lastBindingId),
    ("last_request_id", Json.ofInt s.lastRequestId)]

def ofJson? (j : Json) : Option Store := do
  return {
    instances := ← rows? j "instances" InstanceRow.ofJson?
    bindings := ← rows? j "bindings" BindingRow.ofJson?
    requests := ← rows? j "requests" RequestRow.ofJson?
    plans := ← rows? j "plans" PlanRow.ofJson?
    lastBindingId := ← int? j "last_binding_id"
    lastRequestId := ← int? j "last_request_id" }

end Store

namespace Database

def toJson (db : Database) : Json :=
  .obj [("schema", db.schema.toJson), ("store", db.store.toJson),
    ("ledger", .arr (db.ledger.map Json.ofInt))]

def ofJson? (j : Json) : Option Database := do
  return {
    schema := ← Schema.ofJson? (j.field "schema")
    store := ← Store.ofJson? (j.field "store")
    ledger := ← rows? j "ledger" Json.asInt? }

/-- The text of a snapshot. -/
def snapshot (db : Database) : String := db.toJson.text

/-- The database of a snapshot; a file without text holds an empty one. -/
def ofSnapshot? (text : String) : Option Database :=
  if text.isEmpty then some .empty else (Json.read? text).bind ofJson?

end Database

end Brokerage
