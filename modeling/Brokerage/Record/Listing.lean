import Brokerage.Json.Lookup
import Brokerage.Store.Basic

/-!
Listings of the rows of a store: every column by its name, but times as ages in minutes, so that a
listing does not depend on when it was made.
-/

namespace Brokerage

/-- The age of `t` in minutes, from the half minute on the next. -/
def ageInMinutes (now t : Instant) : Json := Json.ofInt ((now - t + 30) / 60)

def ages (now createdAt updatedAt : Instant) (deletedAt? : Option Instant) : List (String × Json) :=
  [("created_min", ageInMinutes now createdAt), ("updated_min", ageInMinutes now updatedAt),
    ("deleted_min", Json.ofOption (deletedAt?.map (ageInMinutes now)))]

/-- The columns that hold no time. -/
def InstanceRow.columns (r : InstanceRow) : List (String × Json) :=
  [("id", .str r.id), ("name", .str r.name), ("location", .str r.location), ("url", .str r.url),
    ("other_details", .str r.otherDetails), ("service_id", .str r.serviceId),
    ("plan_id", .str r.planId), ("space_guid", .str r.spaceGuid),
    ("organization_guid", .str r.organizationGuid), ("status", .str r.statusText)]

def InstanceRow.listed (now : Instant) (r : InstanceRow) : List (String × Json) :=
  r.columns ++ ages now r.createdAt r.updatedAt r.deletedAt?

def BindingRow.columns (r : BindingRow) : List (String × Json) :=
  [("id", Json.ofInt r.id), ("instance_id", .str r.instanceId), ("binding_id", .str r.bindingId),
    ("service_id", .str r.serviceId), ("other_details", .str r.otherDetails),
    ("status", .str r.statusText)]

def BindingRow.listed (now : Instant) (r : BindingRow) : List (String × Json) :=
  r.columns ++ ages now r.createdAt r.updatedAt r.deletedAt?

def RequestRow.columns (r : RequestRow) : List (String × Json) :=
  [("id", Json.ofInt r.id), ("instance_id", .str r.instanceId),
    ("request_details", .str r.requestDetails)]

def RequestRow.listed (now : Instant) (r : RequestRow) : List (String × Json) :=
  r.columns ++ [("created_min", ageInMinutes now r.createdAt)]

def PlanRow.columns (r : PlanRow) : List (String × Json) :=
  [("id", .str r.id), ("service_id", .str r.serviceId), ("name", .str r.name),
    ("features", .str r.features)]

/-- The instances by identifier, and the bindings and requests by number; deleted rows too. -/
def Store.listing (now : Instant) (s : Store) : Json :=
  let instances := s.instances.mergeSort fun a b => !decide (b.id < a.id)
  .obj [("instances", .arr (instances.map fun r => .obj (r.listed now))),
    ("bindings", .arr (s.bindings.map fun r => .obj (r.listed now))),
    ("requests", .arr (s.requests.map fun r => .obj (r.listed now)))]

end Brokerage
