import Brokerage.Legacy.Path

/-!
A broker that works on no legacy plan. An instance on such a plan can only be moved to the plan that
replaces it, which changes its row and nothing else; everything but a poll is refused until then.
-/

namespace Brokerage

/-- A broker, and the paths off the legacy plans of this installation. -/
structure Upgrader where
  broker : Broker
  paths : List UpgradePath

namespace Upgrader

/-- The first path that starts at a plan. -/
def path? (u : Upgrader) (serviceId planId : String) : Option UpgradePath :=
  u.paths.find? (·.startsAt serviceId planId)

/-- A service with the legacy plans that can still be met under it. -/
def augment (u : Upgrader) (s : Service) : Service :=
  match (u.paths.filter (·.serviceId = s.id)).map (·.plan) with
  | [] => s
  | plans => { s with planUpdateable := true, plans := s.plans ++ plans }

def services (u : Upgrader) : List Service := u.broker.registry.services.map u.augment

/-- Why no instance is created on a legacy plan. -/
def provisionRefusal (p : UpgradePath) : BrokerError :=
  .legacyPlan ("The plan " ++ Text.quoted p.catalogName ++
    " is only available for compatibility purposes, use " ++ Text.quoted p.newPlanName ++
    " instead.")

/-- Why nothing is done with an instance on a legacy plan. -/
def useRefusal (verb : String) (p : UpgradePath) : BrokerError :=
  .legacyPlan ("The instance you're trying to " ++ verb ++
    " is using an unsupported plan. You must update it first by running " ++
    "`cf update-service SERVICE_NAME -p " ++ p.newPlanName ++ "`")

/-- Why an instance on a legacy plan is not moved to another. -/
def targetRefusal (p : UpgradePath) : BrokerError :=
  .legacyPlan ("you can only upgrade this legacy plan to " ++ Text.quoted p.newPlanName)

/-- Refuses to go on with an instance that is on a legacy plan. -/
def checkUpgraded (u : Upgrader) (verb instanceId : String) : Action Unit := do
  let row ← liveInstance instanceId
  match u.path? row.serviceId row.planId with
  | none => return
  | some p => throw (useRefusal verb p)

def provision (u : Upgrader) (now : Instant) (instanceId : String) (request : ProvisionRequest)
    (asyncAllowed : Bool) : Action Bool :=
  match u.path? request.serviceId request.planId with
  | some p => throw (provisionRefusal p)
  | none => u.broker.provision now instanceId request asyncAllowed

def deprovision (u : Upgrader) (now : Instant) (instanceId : String) (request : DeprovisionRequest)
    (asyncAllowed : Bool) : Action Bool := do
  u.checkUpgraded "deprovision" instanceId
  u.broker.deprovision now instanceId request asyncAllowed

def bind (u : Upgrader) (now : Instant) (instanceId bindingId : String) (request : BindRequest) :
    Action Fields := do
  u.checkUpgraded "bind" instanceId
  u.broker.bind now instanceId bindingId request

def unbind (u : Upgrader) (now : Instant) (instanceId bindingId : String) : Action Unit := do
  u.checkUpgraded "unbind" instanceId
  u.broker.unbind now instanceId bindingId

/-- Moves an instance off a legacy plan, to the plan that replaces it and no other. -/
def update (u : Upgrader) (instanceId : String) (request : UpdateRequest) : Action Bool := do
  let row ← liveInstance instanceId
  match u.path? row.serviceId row.planId with
  | none => Broker.update
  | some p => do
    Fallible.require (request.planId? = some p.newPlanId) (targetRefusal p)
    (StoreCall.saveInstance { row with planId := p.newPlanId }).value
    return false

end Upgrader

end Brokerage
