import Brokerage.Broker.Error
import Brokerage.Broker.Transition
import Brokerage.Catalog.Registry
import Brokerage.Program
import Brokerage.Request.Codec
import Brokerage.Store.Call

/-!
The broker. Its operations are programs over calls to a record store and to providers. An instance
or a binding is claimed by a pending row before its provider hears of it, so that of two callers one
wins; the claim is released if the provider fails, and counts as abandoned once it is old.
-/

namespace Brokerage

/-- Calls that the broker makes. -/
inductive BrokerCall where
  | store (call : StoreCall)
  | provider (provider : Provider) (call : ProviderCall)
  deriving Repr

@[reducible] def BrokerCall.Answer : BrokerCall → Type
  | store call => Except StoreError call.Value
  | provider _ call => Except ProviderError call.Value

@[reducible] def brokerInterface : Interface where
  Call := BrokerCall
  Answer := BrokerCall.Answer

/-- A step of the broker's work. -/
abbrev Action (α : Type) := Fallible brokerInterface BrokerError α

/-- What the store answers. -/
def StoreCall.result (call : StoreCall) : Action (Except StoreError call.Value) :=
  ExceptT.lift (Program.call (I := brokerInterface) (.store call))

/-- What the store answers, a failure of it being one of the operation. -/
def StoreCall.value (call : StoreCall) : Action call.Value := do
  match ← call.result with
  | .ok a => return a
  | .error e => throw (.store e)

/-- What the provider answers. -/
def Provider.result (p : Provider) (call : ProviderCall) :
    Action (Except ProviderError call.Value) :=
  ExceptT.lift (Program.call (I := brokerInterface) (.provider p call))

def Provider.value (p : Provider) (call : ProviderCall) : Action call.Value := do
  match ← p.result call with
  | .ok a => return a
  | .error e => throw (.provider e)

/-- A lookup in the catalog, a failure of it being one of the operation. -/
def ofCatalog {α : Type} (r : Except CatalogError α) : Action α :=
  Fallible.ofExcept (r.mapError .catalog)

structure Broker where
  registry : Registry Provider
  /-- How many instances may be live; any number if there is no limit. -/
  instanceLimit : Option Nat := none
  /-- The age in seconds at which a claim counts as abandoned. -/
  claimTimeout : Nat := 600

/-- Seconds that the clock can measure; an age beyond them is never reached. -/
def maxTimeout : Nat := (Nat.pow 2 63 - 1) / 1000

/-- What an operation yields. -/
structure LastOperation where
  state : OperationState
  description : Option String
  deriving DecidableEq, Repr

/-- Said when a finished operation may have been either. -/
def undeterminedOperation : String :=
  "Couldn't determine if provision or deprovision flow, this may leave orphaned resources, " ++
    "contact your operator for cleanup"

/-- The live row of an instance; there being none is an error of its own. -/
def liveInstance (instanceId : String) : Action InstanceRow := do
  match ← (StoreCall.getInstance instanceId).result with
  | .ok row => return row
  | .error e => throw (if e.isNotFound then .instanceDoesNotExist instanceId else .store e)

/-- The operation that the row's status names is still under way. -/
def inProgress (row : InstanceRow) : BrokerError := .operationInProgress row.id row.statusText

namespace Broker

/-- A claim made at `createdAt` is abandoned at `now`. -/
def isStale (b : Broker) (now createdAt : Instant) : Bool :=
  b.claimTimeout ≤ maxTimeout && (b.claimTimeout : Int) ≤ now - createdAt

def checkInstanceLimit (b : Broker) : Action Unit :=
  match b.instanceLimit with
  | none => return
  | some limit => do
    let live ← StoreCall.countAllInstances.value
    Fallible.require (live < limit) (.instanceLimitExceeded limit)

/-- Claims an instance; the identifier being taken is an error of its own. -/
def claimInstance (row : InstanceRow) (request : RequestRow) : Action Unit := do
  match ← (StoreCall.claimInstance row request).result with
  | .ok _ => return
  | .error e => throw (if e.isConstraint then .instanceAlreadyExists row.id else .store e)

/-- The row of an instance once its provider has made the resource. -/
def provisionedRow (row : InstanceRow) (metadata : InstanceMetadata) (isAsync : Bool) :
    InstanceRow :=
  (({ row with
      name := metadata.name
      location := metadata.location
      url := metadata.url }).withDetails metadata.details).withStatus
    (if isAsync then .provisioning else .active)

/-- Creates an instance, and says whether that finishes out of band. -/
def provision (b : Broker) (now : Instant) (instanceId : String) (request : ProvisionRequest)
    (asyncAllowed : Bool) : Action Bool := do
  b.checkInstanceLimit
  let count ← (StoreCall.countInstances instanceId).value
  Fallible.require (count = 0) (.instanceAlreadyExists instanceId)
  let (plan, provider) ← ofCatalog (b.registry.resolve request.serviceId request.planId)
  let isAsync := provider.provisionsAsync
  Fallible.require (!isAsync || asyncAllowed) .asyncRequired
  match request.parameters with
  | .error e => throw (.invalidParameters e.reason)
  | .ok _ =>
    let row : InstanceRow :=
      { InstanceRow.claim now instanceId request.serviceId plan.id with
        organizationGuid := request.organizationGuid
        spaceGuid := request.spaceGuid }
    claimInstance row (.of now instanceId request.toJson)
    match ← provider.result (.provision instanceId request plan) with
    | .error e => do
      let _ ← (StoreCall.releaseInstanceClaim instanceId).result
      throw (.provider e)
    | .ok metadata => do
      match ← (StoreCall.saveInstance (provisionedRow row metadata isAsync)).result with
      | .ok () => return isAsync
      | .error e => throw (.orphaned "instance" instanceId "provision" e)

/-- Refuses to delete an instance that is being deleted, or that another call has claimed. -/
def checkDeletable (b : Broker) (now : Instant) (row : InstanceRow) : Action Unit :=
  match row.status with
  | .deprovisioning => throw (inProgress row)
  | .pending => Fallible.require (b.isStale now row.createdAt) (inProgress row)
  | .provisioning | .active => return

/-- Deletes an instance, and says whether that finishes out of band. -/
def deprovision (b : Broker) (now : Instant) (instanceId : String) (request : DeprovisionRequest)
    (asyncAllowed : Bool) : Action Bool := do
  let row ← liveInstance instanceId
  b.checkDeletable now row
  let provider ← ofCatalog (b.registry.provider row.serviceId)
  let isAsync := provider.deprovisionsAsync
  Fallible.require (!isAsync || asyncAllowed) .asyncRequired
  provider.value (.deprovision row request)
  let written ←
    if isAsync then (StoreCall.saveInstance (row.withStatus .deprovisioning)).result
    else (StoreCall.softDeleteInstance instanceId).result
  match written with
  | .ok () => return isAsync
  | .error e => throw (.orphaned "instance" instanceId "deprovision" e)

/-- Claims a binding and yields its number; the pair being taken is an error of its own. -/
def claimBinding (row : BindingRow) : Action Int := do
  match ← (StoreCall.createBinding row).result with
  | .ok id => return id
  | .error e =>
    throw (if e.isConstraint then .bindingAlreadyExists row.instanceId row.bindingId else .store e)

/-- Issues credentials for an instance, and yields what the application gets to see of them. -/
def bind (b : Broker) (now : Instant) (instanceId bindingId : String) (request : BindRequest) :
    Action Fields := do
  let count ← (StoreCall.countBindings instanceId bindingId).value
  Fallible.require (count = 0) (.bindingAlreadyExists instanceId bindingId)
  Fallible.require ((request.appGuid?.getD "") ≠ "") .appGuidRequired
  let row ← liveInstance instanceId
  Fallible.require (row.status = .active) (inProgress row)
  let provider ← ofCatalog (b.registry.provider row.serviceId)
  let claim := BindingRow.claim now instanceId bindingId row.serviceId
  let id ← claimBinding claim
  match ← provider.result (.bind row bindingId request) with
  | .error e => do
    let _ ← (StoreCall.releaseBindingClaim id).result
    throw (.provider e)
  | .ok credentials => do
    let issued := ({ claim with id := id }.withCredentials credentials).withStatus .active
    match ← (StoreCall.saveBinding issued).result with
    | .error e => throw (.orphaned "binding" bindingId "bind" e)
    | .ok () => provider.value (.joinCredentials credentials row)

/-- The live row of a binding; there being none is an error of its own. -/
def liveBinding (instanceId bindingId : String) : Action BindingRow := do
  match ← (StoreCall.getBinding instanceId bindingId).result with
  | .ok row => return row
  | .error e =>
    throw (if e.isNotFound then .bindingDoesNotExist instanceId bindingId else .store e)

/-- Withdraws credentials. An abandoned claim has none, and only its row goes. -/
def unbind (b : Broker) (now : Instant) (instanceId bindingId : String) : Action Unit := do
  let row ← liveInstance instanceId
  let binding ← liveBinding instanceId bindingId
  match binding.status with
  | .pending => do
    Fallible.require (b.isStale now binding.createdAt) (.bindingInProgress instanceId bindingId)
    (StoreCall.softDeleteBinding instanceId bindingId).value
  | .active => do
    let provider ← ofCatalog (b.registry.provider row.serviceId)
    provider.value (.unbind row binding)
    match ← (StoreCall.softDeleteBinding instanceId bindingId).result with
    | .ok () => return
    | .error e => throw (.orphaned "binding" bindingId "unbind" e)

/-- The base broker changes no plans. -/
def update : Action Bool := throw .planChangeNotSupported

/-- Asks which operation it was that finished, where the status does not say. -/
def finishedWork (provider : Provider) (row : InstanceRow) :
    Action (Except ProviderError WorkKind) :=
  match WorkKind.inFlight row.status with
  | some kind => return .ok kind
  | none => do
    match ← provider.result (.wasDelete row) with
    | .ok wasDelete => return .ok (if wasDelete then .delete else .create)
    | .error e => return .error e

/-- The call that carries out an action on a row. -/
def carryOut (row : InstanceRow) : RecordAction → Action (Except StoreError Unit)
  | .softDelete => (StoreCall.softDeleteInstance row.id).result
  | .markActive => (StoreCall.saveInstance (row.withStatus .active)).result
  | .markProvisioning => (StoreCall.saveInstance (row.withStatus .provisioning)).result
  | .releaseClaim => do
    match ← (StoreCall.releaseInstanceClaim row.id).result with
    | .ok _ => return .ok ()
    | .error e => return .error e

/-- What the caller is told when an action could not be carried out. -/
def actionFailure (e : StoreError) : RecordAction → String
  | .softDelete =>
    "Error deleting instance details from database: " ++ e.message ++
      ". WARNING: this instance will remain visible; contact your operator for cleanup"
  | .markActive =>
    "Error marking instance as active: " ++ e.message ++ ". The next poll will retry the update"
  | .markProvisioning =>
    "Error marking instance as provisioning: " ++ e.message ++
      ". The next poll will retry the update"
  | .releaseClaim =>
    "Error releasing abandoned instance claim: " ++ e.message ++ ". The next poll will retry"

/-- Reports an outcome, and does to the row what it means for it. A row that could not be written
changes the description only. -/
def settle (row : InstanceRow) (outcome : PollOutcome) : Action LastOperation :=
  let t := Transition.next row.status outcome
  match t.action with
  | none => return ⟨t.state, t.description⟩
  | some action => do
    match ← carryOut row action with
    | .ok () => return ⟨t.state, t.description⟩
    | .error e => return ⟨t.state, some (actionFailure e action)⟩

/-- Reports on the operation that is under way on an instance. -/
def lastOperation (b : Broker) (now : Instant) (instanceId : String) : Action LastOperation := do
  let row ← liveInstance instanceId
  let provider ← ofCatalog (b.registry.provider row.serviceId)
  Fallible.require (provider.provisionsAsync || provider.deprovisionsAsync)
    (.pollingNotApplicable row.serviceId)
  if row.status = .pending && !b.isStale now row.createdAt then
    return ⟨.inProgress, none⟩
  else
    match ← provider.result (.poll row) with
    | .ok false => settle row .pending
    | .ok true =>
      match ← finishedWork provider row with
      | .ok kind => settle row (.done kind)
      | .error _ => return ⟨.succeeded, some undeterminedOperation⟩
    | .error e => settle row (if e.isTransient then .transient e.message else .failed e.message)

end Broker

end Brokerage
