import Brokerage.Broker.Basic
import Brokerage.Text.Quoted

/-!
Legacy plans and what replaces them. Earlier installations gave their plans identifiers of their
own; a candidate names such a plan by its service and name, and becomes a path once the store tells
which identifier the plan has in this installation.
-/

namespace Brokerage

/-- A legacy plan that the store may know, and its replacement. -/
structure UpgradeCandidate where
  serviceId : String
  legacyPlanName : String
  newPlanId : String
  newPlanName : String
  deriving DecidableEq, Repr

/-- A legacy plan of this installation, and its replacement. -/
structure UpgradePath where
  serviceId : String
  legacyPlanId : String
  legacyPlanName : String
  newPlanId : String
  newPlanName : String
  deriving DecidableEq, Repr

namespace UpgradePath

/-- The name under which the catalog shows the legacy plan. -/
def catalogName (p : UpgradePath) : String := "legacy3-" ++ p.legacyPlanName

/-- The legacy plan as the catalog shows it. -/
def plan (p : UpgradePath) : Plan where
  id := p.legacyPlanId
  name := p.catalogName
  description := "Legacy plan, must be upgraded to " ++ Text.quoted p.newPlanName
  free := true

/-- The path starts at `planId` of `serviceId`. -/
def startsAt (p : UpgradePath) (serviceId planId : String) : Bool :=
  p.serviceId == serviceId && p.legacyPlanId == planId

end UpgradePath

namespace UpgradeCandidate

/-- The path of a candidate whose plan is stored as `row`. -/
def path (c : UpgradeCandidate) (row : PlanRow) : UpgradePath :=
  ⟨c.serviceId, row.id, c.legacyPlanName, c.newPlanId, c.newPlanName⟩

/-- The path of a candidate, if the store has its plan. -/
def resolve (c : UpgradeCandidate) : Action (Option UpgradePath) := do
  match ← (StoreCall.getPlan c.serviceId c.legacyPlanName).result with
  | .ok row => return some (c.path row)
  | .error e => if e.isNotFound then return none else throw (.store e)

/-- The paths of the candidates whose plans are stored, in the order of the candidates. -/
def resolveAll : List UpgradeCandidate → Action (List UpgradePath)
  | [] => return []
  | c :: rest => do
    let path ← c.resolve
    let paths ← resolveAll rest
    return path.toList ++ paths

/-- The plans that releases before fixed identifiers made for themselves. -/
def defaults : List UpgradeCandidate :=
  [⟨"83837945-1547-41e0-b661-ea31d76eed11", "default",
      "10866183-a775-49e8-96e3-4e7a901e4a79", "default"⟩,
    ⟨"5ad2dce0-51f7-4ede-8b46-293d6df1e8d4", "default",
      "be7954e1-ecfb-4936-a0b6-db35e6424c7a", "default"⟩,
    ⟨"628629e3-79f5-4255-b981-d14c6c7856be", "default",
      "622f4da3-8731-492a-af29-66a9146f8333", "default"⟩,
    ⟨"c5ddfe15-24d9-47f8-8ffe-f6b7daa9cf4a", "default",
      "ab6c2287-b4bc-4ff4-a36a-0575e7910164", "default"⟩,
    ⟨"76d4abb2-fee7-4c8f-aee1-bcea2837f02b", "default",
      "05f1fb6b-b5f0-48a2-9c2b-a5f236507a97", "default"⟩,
    ⟨"f80c0a3e-bd4d-4809-a900-b4e33a6450f1", "default",
      "10ff4e72-6e84-44eb-851f-bdb38a791914", "default"⟩,
    ⟨"b9e4332e-b42b-4680-bda5-ea1506797474", "nearline",
      "a42c1182-d1a0-4d40-82c1-28220518b360", "nearline"⟩,
    ⟨"b9e4332e-b42b-4680-bda5-ea1506797474", "reduced_availability",
      "1a1f4fe6-1904-44d0-838c-4c87a9490a6b", "reduced-availability"⟩,
    ⟨"b9e4332e-b42b-4680-bda5-ea1506797474", "standard",
      "e1d11f65-da66-46ad-977c-6d56513baf43", "standard"⟩]

end UpgradeCandidate

end Brokerage
