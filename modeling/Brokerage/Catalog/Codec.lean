import Brokerage.Catalog.Basic
import Brokerage.Json.Decoding

/-!
The JSON forms of plans and services. Every field may be left out when one is read, and none is
left out when one is written.
-/

namespace Brokerage

open Reader

namespace Plan

def slots : List Slot :=
  [slot "id" text, slot "name" text, slot "description" text, slot "free" boolean,
    slot "service_properties" (map text)]

def ofJson (v : Json) : Except DecodeError Plan := do
  let fields ← record "ServicePlan" slots v
  let id ← withDefault "id" text "" fields
  let name ← withDefault "name" text "" fields
  let description ← withDefault "description" text "" fields
  let free ← withDefault "free" boolean false fields
  let properties ← withDefault "service_properties" (map text) [] fields
  return ⟨id, name, description, free, properties⟩

def toJson (p : Plan) : Json :=
  .obj [("id", .str p.id), ("name", .str p.name), ("description", .str p.description),
    ("free", .bool p.free),
    ("service_properties", .obj (p.properties.map fun (k, v) => (k, .str v)))]

end Plan

namespace Service

def slots : List Slot :=
  [slot "id" text, slot "name" text, slot "description" text, slot "bindable" boolean,
    slot "plan_updateable" boolean, slot "tags" (list text), slot "plans" (list Plan.ofJson)]

def ofJson (v : Json) : Except DecodeError Service := do
  let fields ← record "ServiceDefinition" slots v
  let id ← withDefault "id" text "" fields
  let name ← withDefault "name" text "" fields
  let description ← withDefault "description" text "" fields
  let bindable ← withDefault "bindable" boolean false fields
  let planUpdateable ← withDefault "plan_updateable" boolean false fields
  let tags ← withDefault "tags" (list text) [] fields
  let plans ← withDefault "plans" (list Plan.ofJson) [] fields
  return ⟨id, name, description, bindable, planUpdateable, tags, plans⟩

def toJson (s : Service) : Json :=
  .obj [("id", .str s.id), ("name", .str s.name), ("description", .str s.description),
    ("bindable", .bool s.bindable), ("plan_updateable", .bool s.planUpdateable),
    ("tags", Json.texts s.tags), ("plans", .arr (s.plans.map Plan.toJson))]

end Service

end Brokerage
