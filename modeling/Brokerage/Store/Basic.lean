import Brokerage.Record.Basic

/-!
The record store: four tables and the operations on them. Rows keep the order in which they were
inserted. A deleted instance or binding keeps its row, hidden from the queries for live rows; only
a claim that is released leaves its table. An operation that fails changes nothing.
-/

namespace Brokerage

structure Store where
  instances : List InstanceRow := []
  bindings : List BindingRow := []
  requests : List RequestRow := []
  plans : List PlanRow := []
  /-- The number given last to a binding; numbers are never given twice. -/
  lastBindingId : Int := 0
  lastRequestId : Int := 0
  deriving DecidableEq, Repr

namespace Store

def empty : Store := {}

/-! ### Instances -/

/-- The live row of an instance. -/
def liveInstance? (s : Store) (id : String) : Option InstanceRow :=
  s.instances.find? fun r => r.id = id && r.live

def countInstances (s : Store) (id : String) : Nat :=
  s.instances.countP fun r => r.id = id && r.live

def countAllInstances (s : Store) : Nat := s.instances.countP (·.live)

def createInstance (s : Store) (row : InstanceRow) : Except StoreError Store :=
  if s.instances.any (·.id = row.id) then
    .error (.constraint "UNIQUE constraint failed: service_instance_details.id")
  else .ok { s with instances := s.instances ++ [{ row with deletedAt? := none }] }

/-- Appends a request under the next number. -/
def createRequest (s : Store) (row : RequestRow) : Int × Store :=
  let id := s.lastRequestId + 1
  (id, { s with requests := s.requests ++ [{ row with id := id }], lastRequestId := id })

/-- Inserts an instance together with the request for it. -/
def claimInstance (s : Store) (row : InstanceRow) (request : RequestRow) :
    Except StoreError (Int × Store) :=
  (s.createInstance row).map fun s => s.createRequest request

def instanceNotFound (id : String) : StoreError := .notFound "instance" id

/-- The columns that saving a row overwrites. -/
def overwriteInstance (now : Instant) (new old : InstanceRow) : InstanceRow :=
  { old with
    name := new.name
    location := new.location
    url := new.url
    otherDetails := new.otherDetails
    planId := new.planId
    spaceGuid := new.spaceGuid
    organizationGuid := new.organizationGuid
    statusText := new.statusText
    updatedAt := now }

/-- Applies `f` to the live row of an instance. -/
def updateInstance (s : Store) (id : String) (f : InstanceRow → InstanceRow) :
    Except StoreError Store :=
  if s.instances.any fun r => r.id = id && r.live then
    .ok { s with instances := s.instances.map fun r => if r.id = id && r.live then f r else r }
  else .error (instanceNotFound id)

def saveInstance (s : Store) (now : Instant) (row : InstanceRow) : Except StoreError Store :=
  s.updateInstance row.id (overwriteInstance now row)

def getInstance (s : Store) (id : String) : Except StoreError InstanceRow :=
  match s.liveInstance? id with
  | some r => .ok r
  | none => .error (instanceNotFound id)

def getInstanceIncludingDeleted (s : Store) (id : String) : Except StoreError InstanceRow :=
  match s.instances.find? (·.id = id) with
  | some r => .ok r
  | none => .error (instanceNotFound id)

def softDeleteInstance (s : Store) (now : Instant) (id : String) : Except StoreError Store :=
  s.updateInstance id fun r => { r with deletedAt? := some now, updatedAt := now }

def isInstanceSoftDeleted (s : Store) (id : String) : Bool :=
  match s.instances.find? (·.id = id) with
  | some r => !r.live
  | none => false

/-- A row that may be released: live, and pending by its very text. -/
def releasableInstance (id : String) (r : InstanceRow) : Bool :=
  r.id = id && r.statusText = InstanceStatus.pending.text && r.live

/-- Removes the claim on an instance, and says whether there was one. -/
def releaseInstanceClaim (s : Store) (id : String) : Bool × Store :=
  (s.instances.any (releasableInstance id),
    { s with instances := s.instances.filter fun r => !releasableInstance id r })

/-! ### Bindings -/

def liveBinding? (s : Store) (instanceId bindingId : String) : Option BindingRow :=
  s.bindings.find? fun r => r.isOf instanceId bindingId && r.live

def countBindings (s : Store) (instanceId bindingId : String) : Nat :=
  s.bindings.countP fun r => r.isOf instanceId bindingId && r.live

/-- Appends a binding under the next number. -/
def insertBinding (s : Store) (row : BindingRow) : Int × Store :=
  let id := s.lastBindingId + 1
  (id, { s with
    bindings := s.bindings ++ [{ row with id := id, deletedAt? := none }]
    lastBindingId := id })

/-- The refusal of a second live binding of one pair. -/
def bindingTaken : StoreError :=
  .constraint ("UNIQUE constraint failed: service_binding_credentials.service_instance_id, " ++
    "service_binding_credentials.binding_id")

def createBinding (s : Store) (row : BindingRow) : Except StoreError (Int × Store) :=
  if s.bindings.any fun r => r.isOf row.instanceId row.bindingId && r.live then
    .error bindingTaken
  else .ok (s.insertBinding row)

def bindingNotFound (instanceId bindingId : String) : StoreError :=
  .notFound "binding" (instanceId ++ "/" ++ bindingId)

/-- Applies `f` to the live bindings that `p` picks, or fails with `e` if there is none. -/
def updateBindings (s : Store) (p : BindingRow → Bool) (e : StoreError)
    (f : BindingRow → BindingRow) : Except StoreError Store :=
  if s.bindings.any fun r => p r && r.live then
    .ok { s with bindings := s.bindings.map fun r => if p r && r.live then f r else r }
  else .error e

def saveBinding (s : Store) (now : Instant) (row : BindingRow) : Except StoreError Store :=
  s.updateBindings (·.id = row.id) (.notFound "binding" (toString row.id)) fun old =>
    { old with otherDetails := row.otherDetails, statusText := row.statusText, updatedAt := now }

def releasableBinding (id : Int) (r : BindingRow) : Bool :=
  r.id = id && r.statusText = BindingStatus.pending.text && r.live

/-- Removes the claim with the given number, and says whether there was one. -/
def releaseBindingClaim (s : Store) (id : Int) : Bool × Store :=
  (s.bindings.any (releasableBinding id),
    { s with bindings := s.bindings.filter fun r => !releasableBinding id r })

def getBinding (s : Store) (instanceId bindingId : String) : Except StoreError BindingRow :=
  match s.liveBinding? instanceId bindingId with
  | some r => .ok r
  | none => .error (bindingNotFound instanceId bindingId)

/-- The newest row of the pair; rows stand in the order of their numbers. -/
def getBindingIncludingDeleted (s : Store) (instanceId bindingId : String) :
    Except StoreError BindingRow :=
  match s.bindings.reverse.find? (·.isOf instanceId bindingId) with
  | some r => .ok r
  | none => .error (bindingNotFound instanceId bindingId)

def softDeleteBinding (s : Store) (now : Instant) (instanceId bindingId : String) :
    Except StoreError Store :=
  s.updateBindings (·.isOf instanceId bindingId) (bindingNotFound instanceId bindingId) fun r =>
    { r with deletedAt? := some now, updatedAt := now }

/-- The pair has rows, and none of them is live. -/
def isBindingSoftDeleted (s : Store) (instanceId bindingId : String) : Bool :=
  let rows := s.bindings.filter (·.isOf instanceId bindingId)
  !rows.isEmpty && rows.all (!·.live)

/-! ### Requests and plans -/

/-- The requests for an instance, oldest first. -/
def requestsOf (s : Store) (instanceId : String) : List RequestRow :=
  s.requests.filter (·.instanceId = instanceId)

def createPlan (s : Store) (row : PlanRow) : Except StoreError Store :=
  if s.plans.any (·.id = row.id) then
    .error (.constraint "UNIQUE constraint failed: plan_details.id")
  else .ok { s with plans := s.plans ++ [{ row with deletedAt? := none }] }

/-- The plan stored first under a service and a name. -/
def getPlan (s : Store) (serviceId name : String) : Except StoreError PlanRow :=
  match s.plans.find? fun p => p.serviceId = serviceId && p.name = name && p.deletedAt?.isNone with
  | some p => .ok p
  | none => .error (.notFound "plan" (serviceId ++ "/" ++ name))

end Store

end Brokerage
