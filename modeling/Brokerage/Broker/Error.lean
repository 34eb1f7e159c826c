import Brokerage.Provider.Basic

/-!
Errors of the broker's operations, and how a transport answers them. The same error is answered
differently by different operations: a missing instance is gone for one that deletes.
-/

namespace Brokerage

inductive OperationKind where
  | catalog
  | provision
  | deprovision
  | bind
  | unbind
  | update
  | lastOperation
  deriving DecidableEq, Repr

inductive ResponseStatus where
  | ok
  | created
  | accepted
  | notFound
  | conflict
  | gone
  | unprocessableEntity
  | internalServerError
  deriving DecidableEq, Repr

namespace ResponseStatus

def code : ResponseStatus → Nat
  | ok => 200
  | created => 201
  | accepted => 202
  | notFound => 404
  | conflict => 409
  | gone => 410
  | unprocessableEntity => 422
  | internalServerError => 500

def text : ResponseStatus → String
  | ok => "Ok"
  | created => "Created"
  | accepted => "Accepted"
  | notFound => "NotFound"
  | conflict => "Conflict"
  | gone => "Gone"
  | unprocessableEntity => "UnprocessableEntity"
  | internalServerError => "InternalServerError"

end ResponseStatus

inductive BrokerError where
  | instanceAlreadyExists (instanceId : String)
  | instanceDoesNotExist (instanceId : String)
  | instanceLimitExceeded (limit : Nat)
  | bindingAlreadyExists (instanceId bindingId : String)
  | bindingDoesNotExist (instanceId bindingId : String)
  /-- The credentials are still being made. -/
  | bindingInProgress (instanceId bindingId : String)
  /-- The provider works out of band only, which the caller does not take. -/
  | asyncRequired
  | planChangeNotSupported
  | appGuidRequired
  | invalidParameters (reason : String)
  /-- Another operation on the instance has not finished; `status` is what its row says. -/
  | operationInProgress (instanceId status : String)
  | pollingNotApplicable (serviceId : String)
  /-- The instance or the request is on a plan that has to be upgraded. -/
  | legacyPlan (reason : String)
  /-- The provider did what was asked, and the record of it could not be written. -/
  | orphaned (resource id action : String) (cause : StoreError)
  | catalog (cause : CatalogError)
  | provider (cause : ProviderError)
  | store (cause : StoreError)
  deriving DecidableEq, Repr

namespace BrokerError

def message : BrokerError → String
  | instanceAlreadyExists id => "instance " ++ id ++ " already exists"
  | instanceDoesNotExist id => "instance " ++ id ++ " does not exist"
  | instanceLimitExceeded limit => "instance limit of " ++ toString limit ++ " has been reached"
  | bindingAlreadyExists instanceId bindingId =>
    "binding " ++ bindingId ++ " already exists for instance " ++ instanceId
  | bindingDoesNotExist instanceId bindingId =>
    "binding " ++ bindingId ++ " does not exist for instance " ++ instanceId
  | bindingInProgress instanceId bindingId =>
    "binding " ++ bindingId ++ " for instance " ++ instanceId ++ " is still being created"
  | asyncRequired =>
    "this service plan requires client support for asynchronous service operations"
  | planChangeNotSupported => "the service does not support changing plans"
  | appGuidRequired =>
    "this service supports generation of credentials through binding an application only"
  | invalidParameters reason => "invalid parameters: " ++ reason
  | operationInProgress instanceId status =>
    "instance " ++ instanceId ++ " is " ++ status ++ "; another operation is in progress"
  | pollingNotApplicable serviceId =>
    "can't call LastOperation on a synchronous service (" ++ serviceId ++ ")"
  | legacyPlan reason => reason
  | orphaned resource id action cause =>
    action ++ " of " ++ resource ++ " " ++ id ++ " succeeded but saving its record failed: " ++
      cause.message ++ ". WARNING: this " ++ resource ++
      " may be orphaned or left stale and cannot be managed through the broker; " ++
      "contact your operator for cleanup"
  | catalog cause => cause.message
  | provider cause => cause.message
  | store cause => cause.message

/-- The code under which a platform knows the error. -/
def code : BrokerError → String
  | instanceAlreadyExists _ => "InstanceAlreadyExists"
  | instanceDoesNotExist _ => "InstanceDoesNotExist"
  | instanceLimitExceeded _ => "InstanceLimitExceeded"
  | bindingAlreadyExists _ _ => "BindingAlreadyExists"
  | bindingDoesNotExist _ _ => "BindingDoesNotExist"
  | bindingInProgress _ _ => "ConcurrencyError"
  | asyncRequired => "AsyncRequired"
  | planChangeNotSupported => "PlanChangeNotSupported"
  | appGuidRequired => "RequiresApp"
  | invalidParameters _ => "InvalidParameters"
  | operationInProgress _ _ => "ConcurrencyError"
  | pollingNotApplicable _ => "PollingNotApplicable"
  | legacyPlan _ => "LegacyPlan"
  | orphaned _ _ _ _ => "OrphanedResource"
  | catalog _ => "CatalogError"
  | provider _ => "ProviderError"
  | store _ => "StoreError"

def status (e : BrokerError) (operation : OperationKind) : ResponseStatus :=
  match e with
  | instanceAlreadyExists _ | bindingAlreadyExists _ _ => .conflict
  | instanceDoesNotExist _ =>
    if operation = .deprovision || operation = .unbind then .gone else .notFound
  | bindingDoesNotExist _ _ => .gone
  | asyncRequired | planChangeNotSupported | appGuidRequired | invalidParameters _
  | operationInProgress _ _ | bindingInProgress _ _ => .unprocessableEntity
  | provider cause => if cause.isCallerError then .unprocessableEntity else .internalServerError
  | _ => .internalServerError

/-- A resource may be left behind that no record tells of. -/
def isOrphaning : BrokerError → Bool
  | orphaned _ _ _ _ => true
  | _ => false

end BrokerError

end Brokerage
