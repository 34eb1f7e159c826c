import Brokerage.Store.Basic

/-!
Calls to a record store, as values. A store answers a call by the operation of that name, and a
call that fails leaves the store as it is.
-/

namespace Brokerage

inductive StoreCall where
  | countInstances (id : String)
  | countAllInstances
  | createInstance (row : InstanceRow)
  | claimInstance (row : InstanceRow) (request : RequestRow)
  | saveInstance (row : InstanceRow)
  | getInstance (id : String)
  | getInstanceIncludingDeleted (id : String)
  | softDeleteInstance (id : String)
  | isInstanceSoftDeleted (id : String)
  | releaseInstanceClaim (id : String)
  | countBindings (instanceId bindingId : String)
  | createBinding (row : BindingRow)
  | saveBinding (row : BindingRow)
  | releaseBindingClaim (id : Int)
  | getBinding (instanceId bindingId : String)
  | getBindingIncludingDeleted (instanceId bindingId : String)
  | softDeleteBinding (instanceId bindingId : String)
  | isBindingSoftDeleted (instanceId bindingId : String)
  | createRequest (row : RequestRow)
  | listRequests (instanceId : String)
  | createPlan (row : PlanRow)
  | getPlan (serviceId name : String)
  | healthCheck
  deriving DecidableEq, Repr

namespace StoreCall

/-- What a call yields when it does not fail. -/
@[reducible] def Value : StoreCall → Type
  | countInstances _ | countAllInstances | countBindings _ _ => Nat
  | createInstance _ | saveInstance _ | softDeleteInstance _ => Unit
  | claimInstance _ _ | createBinding _ | createRequest _ => Int
  | getInstance _ | getInstanceIncludingDeleted _ => InstanceRow
  | isInstanceSoftDeleted _ | releaseInstanceClaim _ => Bool
  | saveBinding _ | softDeleteBinding _ _ => Unit
  | releaseBindingClaim _ | isBindingSoftDeleted _ _ => Bool
  | getBinding _ _ | getBindingIncludingDeleted _ _ => BindingRow
  | listRequests _ => List RequestRow
  | createPlan _ | healthCheck => Unit
  | getPlan _ _ => PlanRow

/-- The name under which operators know a call. -/
def name : StoreCall → String
  | countInstances _ => "count_instances"
  | countAllInstances => "count_all_instances"
  | createInstance _ => "create_instance"
  | claimInstance _ _ => "claim_instance"
  | saveInstance _ => "save_instance"
  | getInstance _ => "get_instance"
  | getInstanceIncludingDeleted _ => "get_instance_including_deleted"
  | softDeleteInstance _ => "soft_delete_instance"
  | isInstanceSoftDeleted _ => "is_instance_soft_deleted"
  | releaseInstanceClaim _ => "release_instance_claim"
  | countBindings _ _ => "count_bindings"
  | createBinding _ => "create_binding"
  | saveBinding _ => "save_binding"
  | releaseBindingClaim _ => "release_binding_claim"
  | getBinding _ _ => "get_binding"
  | getBindingIncludingDeleted _ _ => "get_binding_including_deleted"
  | softDeleteBinding _ _ => "soft_delete_binding"
  | isBindingSoftDeleted _ _ => "is_binding_soft_deleted"
  | createRequest _ => "create_provision_request"
  | listRequests _ => "list_provision_requests"
  | createPlan _ => "create_legacy_plan"
  | getPlan _ _ => "get_legacy_plan"
  | healthCheck => "health_check"

end StoreCall

namespace Store

/-- A query: a value, and the store unchanged. -/
def reading {α : Type} (s : Store) (answer : Except StoreError α) : Except StoreError (α × Store) :=
  answer.map fun a => (a, s)

/-- A write that yields nothing. -/
def writing (result : Except StoreError Store) : Except StoreError (Unit × Store) :=
  result.map fun s => ((), s)

/-- The answer to a call at the time `now`, with the store after it. -/
def answer (s : Store) (now : Instant) : (call : StoreCall) → Except StoreError (call.Value × Store)
  | .countInstances id => .ok (s.countInstances id, s)
  | .countAllInstances => .ok (s.countAllInstances, s)
  | .createInstance row => writing (s.createInstance row)
  | .claimInstance row request => s.claimInstance row request
  | .saveInstance row => writing (s.saveInstance now row)
  | .getInstance id => s.reading (s.getInstance id)
  | .getInstanceIncludingDeleted id => s.reading (s.getInstanceIncludingDeleted id)
  | .softDeleteInstance id => writing (s.softDeleteInstance now id)
  | .isInstanceSoftDeleted id => .ok (s.isInstanceSoftDeleted id, s)
  | .releaseInstanceClaim id => .ok (s.releaseInstanceClaim id)
  | .countBindings i b => .ok (s.countBindings i b, s)
  | .createBinding row => s.createBinding row
  | .saveBinding row => writing (s.saveBinding now row)
  | .releaseBindingClaim id => .ok (s.releaseBindingClaim id)
  | .getBinding i b => s.reading (s.getBinding i b)
  | .getBindingIncludingDeleted i b => s.reading (s.getBindingIncludingDeleted i b)
  | .softDeleteBinding i b => writing (s.softDeleteBinding now i b)
  | .isBindingSoftDeleted i b => .ok (s.isBindingSoftDeleted i b, s)
  | .createRequest row => .ok (s.createRequest row)
  | .listRequests id => .ok (s.requestsOf id, s)
  | .createPlan row => writing (s.createPlan row)
  | .getPlan serviceId name => s.reading (s.getPlan serviceId name)
  | .healthCheck => .ok ((), s)

/-- What a call returns and the store that it leaves: the same one after a failure. -/
def step (s : Store) (now : Instant) (call : StoreCall) : Except StoreError call.Value × Store :=
  match s.answer now call with
  | .ok (value, s') => (.ok value, s')
  | .error e => (.error e, s)

end Store

end Brokerage
