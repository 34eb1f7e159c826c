import Brokerage.Legacy.Upgrader

/-!
Operations as values, and what serves them: a broker by itself, or one that upgrades legacy plans.
-/

namespace Brokerage

inductive Operation where
  | provision (instanceId : String) (request : ProvisionRequest) (asyncAllowed : Bool)
  | deprovision (instanceId : String) (request : DeprovisionRequest) (asyncAllowed : Bool)
  | bind (instanceId bindingId : String) (request : BindRequest)
  | unbind (instanceId bindingId : String) (request : UnbindRequest)
  | update (instanceId : String) (request : UpdateRequest) (asyncAllowed : Bool)
  | lastOperation (instanceId : String)
  deriving Repr

namespace Operation

def kind : Operation → OperationKind
  | provision _ _ _ => .provision
  | deprovision _ _ _ => .deprovision
  | bind _ _ _ => .bind
  | unbind _ _ _ => .unbind
  | update _ _ _ => .update
  | lastOperation _ => .lastOperation

/-- The instance that an operation is about. -/
def instanceId : Operation → String
  | provision id _ _ | deprovision id _ _ | bind id _ _ | unbind id _ _ | update id _ _
  | lastOperation id => id

end Operation

inductive Response where
  | provisioned (isAsync : Bool)
  | deprovisioned (isAsync : Bool)
  | bound (credentials : Fields)
  | unbound
  | updated (isAsync : Bool)
  | reported (report : LastOperation)
  deriving Repr

/-- How a transport answers an operation that succeeded. -/
def Response.status : Response → ResponseStatus
  | provisioned isAsync => if isAsync then .accepted else .created
  | deprovisioned isAsync | updated isAsync => if isAsync then .accepted else .ok
  | bound _ => .created
  | unbound | reported _ => .ok

def Broker.perform (b : Broker) (now : Instant) : Operation → Action Response
  | .provision id request asyncAllowed => do
    return .provisioned (← b.provision now id request asyncAllowed)
  | .deprovision id request asyncAllowed => do
    return .deprovisioned (← b.deprovision now id request asyncAllowed)
  | .bind id bindingId request => do return .bound (← b.bind now id bindingId request)
  | .unbind id bindingId _ => do
    b.unbind now id bindingId
    return .unbound
  | .update _ _ _ => do return .updated (← Broker.update)
  | .lastOperation id => do return .reported (← b.lastOperation now id)

def Upgrader.perform (u : Upgrader) (now : Instant) : Operation → Action Response
  | .provision id request asyncAllowed => do
    return .provisioned (← u.provision now id request asyncAllowed)
  | .deprovision id request asyncAllowed => do
    return .deprovisioned (← u.deprovision now id request asyncAllowed)
  | .bind id bindingId request => do return .bound (← u.bind now id bindingId request)
  | .unbind id bindingId _ => do
    u.unbind now id bindingId
    return .unbound
  | .update id request _ => do return .updated (← u.update id request)
  | .lastOperation id => u.broker.perform now (.lastOperation id)

/-- What serves operations. -/
inductive Deployment where
  | bare (broker : Broker)
  | upgrading (upgrader : Upgrader)

namespace Deployment

def services : Deployment → List Service
  | bare b => b.registry.services
  | upgrading u => u.services

def perform (d : Deployment) (now : Instant) (op : Operation) : Action Response :=
  match d with
  | bare b => b.perform now op
  | upgrading u => u.perform now op

end Deployment

end Brokerage
