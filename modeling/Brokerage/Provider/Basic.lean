import Brokerage.Account.Stored
import Brokerage.Catalog.Basic

/-!
Providers: what creates the resources behind instances and gives access to them. The broker knows a
provider by name and by which of its operations finish out of band, and reaches it through calls.
-/

namespace Brokerage

/-- What a provider reports about a resource that it created. -/
structure InstanceMetadata where
  name : String := ""
  location : String := ""
  url : String := ""
  /-- Whatever else it takes to find the resource again. -/
  details : Fields := []
  deriving Repr

inductive ProviderError where
  /-- The backend asks for another try later. -/
  | unavailable (reason : String)
  | backend (code : Nat) (reason : String)
  | invalidParameters (reason : String)
  | credentials (cause : CredentialError)
  | notSupported (capability : String)
  | other (reason : String)
  deriving DecidableEq, Repr

namespace ProviderError

def message : ProviderError → String
  | unavailable reason => "backend temporarily unavailable: " ++ reason
  | backend code reason => "backend error " ++ toString code ++ ": " ++ reason
  | invalidParameters reason => "invalid parameters: " ++ reason
  | credentials cause => cause.message
  | notSupported capability => capability ++ " is not supported by this provider"
  | other reason => reason

/-- The error is expected to clear up by itself. -/
def isTransient : ProviderError → Bool
  | unavailable _ => true
  | backend code _ => code == 503
  | credentials cause => cause.isTransient
  | _ => false

/-- The request is at fault. -/
def isCallerError : ProviderError → Bool
  | invalidParameters _ => true
  | credentials cause => cause.isCallerError
  | _ => false

end ProviderError

/-- Calls to a provider. -/
inductive ProviderCall where
  | provision (instanceId : String) (request : ProvisionRequest) (plan : Plan)
  | deprovision (row : InstanceRow) (request : DeprovisionRequest)
  | bind (row : InstanceRow) (bindingId : String) (request : BindRequest)
  | unbind (row : InstanceRow) (binding : BindingRow)
  /-- What an application gets to see of fresh credentials. -/
  | joinCredentials (credentials : Fields) (row : InstanceRow)
  /-- Whether the operation that is under way on the instance has finished. -/
  | poll (row : InstanceRow)
  /-- Whether the operation that finished last on the instance was a deletion. -/
  | wasDelete (row : InstanceRow)
  deriving Repr

@[reducible] def ProviderCall.Value : ProviderCall → Type
  | provision _ _ _ => InstanceMetadata
  | deprovision _ _ | unbind _ _ => Unit
  | bind _ _ _ | joinCredentials _ _ => Fields
  | poll _ | wasDelete _ => Bool

/-- The credentials that an application gets to see, where a provider has no rule of its own. -/
def joinPlain (credentials : Fields) (row : InstanceRow) : Except ProviderError Fields :=
  match joinCredentials credentials row with
  | .ok joined => .ok joined
  | .error e => .error (.other e.message)

/-- A provider as the registry knows it. -/
structure Provider where
  name : String
  provisionsAsync : Bool := false
  deprovisionsAsync : Bool := false
  deriving DecidableEq, Repr

end Brokerage
