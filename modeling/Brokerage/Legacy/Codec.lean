import Brokerage.Catalog.Codec
import Brokerage.Json.Lookup
import Brokerage.Legacy.Path

/-!
The JSON forms of upgrade candidates and paths. A part that is absent reads as an empty text.
-/

namespace Brokerage

namespace UpgradeCandidate

def ofJson (j : Json) : UpgradeCandidate where
  serviceId := j.textAt "service_id"
  legacyPlanName := j.textAt "legacy_plan_name"
  newPlanId := j.textAt "new_plan_id"
  newPlanName := j.textAt "new_plan_name"

def toJson (c : UpgradeCandidate) : Json :=
  .obj [("service_id", .str c.serviceId), ("legacy_plan_name", .str c.legacyPlanName),
    ("new_plan_id", .str c.newPlanId), ("new_plan_name", .str c.newPlanName)]

end UpgradeCandidate

namespace UpgradePath

def ofJson (j : Json) : UpgradePath where
  serviceId := j.textAt "service_id"
  legacyPlanId := j.textAt "legacy_plan_id"
  legacyPlanName := j.textAt "legacy_plan_name"
  newPlanId := j.textAt "new_plan_id"
  newPlanName := j.textAt "new_plan_name"

def toJson (p : UpgradePath) : Json :=
  .obj [("service_id", .str p.serviceId), ("legacy_plan_id", .str p.legacyPlanId),
    ("legacy_plan_name", .str p.legacyPlanName), ("new_plan_id", .str p.newPlanId),
    ("new_plan_name", .str p.newPlanName)]

end UpgradePath

end Brokerage
