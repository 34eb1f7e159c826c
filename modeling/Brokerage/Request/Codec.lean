import Brokerage.Json.Decoding
import Brokerage.Request.Basic

/-!
The JSON forms of the requests. Unknown fields are passed over; an optional field that is absent is
left out when a request is written.
-/

namespace Brokerage

open Reader

/-- The field `name`, if it has a value. -/
def optionalField (name : String) (value : Option Json) : List (String × Json) :=
  match value with
  | some v => [(name, v)]
  | none => []

namespace ProvisionRequest

def slots : List Slot :=
  [neededSlot "service_id" text, neededSlot "plan_id" text, slot "organization_guid" text,
    slot "space_guid" text, slot "parameters" (optional any)]

def ofJson (v : Json) : Except DecodeError ProvisionRequest := do
  let fields ← record "ProvisionDetails" slots v
  let serviceId ← required "service_id" text fields
  let planId ← required "plan_id" text fields
  let organizationGuid ← withDefault "organization_guid" text "" fields
  let spaceGuid ← withDefault "space_guid" text "" fields
  let parameters ← withDefault "parameters" (optional any) none fields
  return ⟨serviceId, planId, organizationGuid, spaceGuid, parameters⟩

def toJson (r : ProvisionRequest) : Json :=
  .obj ([("service_id", .str r.serviceId), ("plan_id", .str r.planId),
    ("organization_guid", .str r.organizationGuid), ("space_guid", .str r.spaceGuid)] ++
    optionalField "parameters" r.parameters?)

end ProvisionRequest

namespace DeprovisionRequest

def slots : List Slot := [neededSlot "service_id" text, neededSlot "plan_id" text]

def ofJson (v : Json) : Except DecodeError DeprovisionRequest := do
  let fields ← record "DeprovisionDetails" slots v
  let serviceId ← required "service_id" text fields
  let planId ← required "plan_id" text fields
  return ⟨serviceId, planId⟩

def toJson (r : DeprovisionRequest) : Json :=
  .obj [("service_id", .str r.serviceId), ("plan_id", .str r.planId)]

end DeprovisionRequest

namespace BindRequest

def slots : List Slot :=
  [neededSlot "service_id" text, neededSlot "plan_id" text, slot "app_guid" (optional text),
    slot "parameters" (optional any)]

def ofJson (v : Json) : Except DecodeError BindRequest := do
  let fields ← record "BindDetails" slots v
  let serviceId ← required "service_id" text fields
  let planId ← required "plan_id" text fields
  let appGuid ← withDefault "app_guid" (optional text) none fields
  let parameters ← withDefault "parameters" (optional any) none fields
  return ⟨serviceId, planId, appGuid, parameters⟩

def toJson (r : BindRequest) : Json :=
  .obj ([("service_id", .str r.serviceId), ("plan_id", .str r.planId)] ++
    optionalField "app_guid" (r.appGuid?.map .str) ++
    optionalField "parameters" r.parameters?)

end BindRequest

namespace UnbindRequest

def slots : List Slot := [neededSlot "service_id" text, neededSlot "plan_id" text]

def ofJson (v : Json) : Except DecodeError UnbindRequest := do
  let fields ← record "UnbindDetails" slots v
  let serviceId ← required "service_id" text fields
  let planId ← required "plan_id" text fields
  return ⟨serviceId, planId⟩

def toJson (r : UnbindRequest) : Json :=
  .obj [("service_id", .str r.serviceId), ("plan_id", .str r.planId)]

end UnbindRequest

namespace UpdateRequest

def slots : List Slot :=
  [neededSlot "service_id" text, slot "plan_id" (optional text), slot "parameters" (optional any),
    slot "previous_plan_id" (optional text)]

def ofJson (v : Json) : Except DecodeError UpdateRequest := do
  let fields ← record "UpdateDetails" slots v
  let serviceId ← required "service_id" text fields
  let planId ← withDefault "plan_id" (optional text) none fields
  let parameters ← withDefault "parameters" (optional any) none fields
  let previousPlanId ← withDefault "previous_plan_id" (optional text) none fields
  return ⟨serviceId, planId, parameters, previousPlanId⟩

def toJson (r : UpdateRequest) : Json :=
  .obj ([("service_id", .str r.serviceId)] ++
    optionalField "plan_id" (r.planId?.map .str) ++
    optionalField "parameters" r.parameters? ++
    optionalField "previous_plan_id" (r.previousPlanId?.map .str))

end UpdateRequest

end Brokerage
