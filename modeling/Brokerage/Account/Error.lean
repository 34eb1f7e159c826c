import Brokerage.Record.Basic
import Brokerage.Text.Quoted

/-!
What can go wrong when credentials are issued or withdrawn.
-/

namespace Brokerage

inductive CredentialError where
  /-- The request names no role. -/
  | missingRole
  | roleNotAllowed (role : String) (allowed : List String)
  | invalidParameters (reason : String)
  /-- The request names no user or no password. -/
  | missingUserCredentials
  /-- The policy is not the one that was read. -/
  | conflict (reason : String)
  /-- The policy was never the one that was read. -/
  | retriesExhausted (attempts : Nat)
  /-- The backend refuses a call. -/
  | backend (code : Nat) (reason : String)
  /-- An operation of the backend was still running at the last poll. -/
  | timedOut (operation : String) (polls : Nat)
  /-- Stored credentials cannot be read. -/
  | malformed (fault : JsonFault)
  /-- What is stored about the instance cannot be read. -/
  | instanceDetails (cause : StoreError)
  deriving DecidableEq, Repr

namespace CredentialError

/-- The name of a kind of error. -/
def kind : CredentialError → String
  | missingRole => "MissingRole"
  | roleNotAllowed _ _ => "RoleNotAllowed"
  | invalidParameters _ => "InvalidParameters"
  | missingUserCredentials => "MissingUserCredentials"
  | conflict _ => "Conflict"
  | retriesExhausted _ => "ConflictRetriesExhausted"
  | backend _ _ => "Backend"
  | timedOut _ _ => "OperationTimedOut"
  | malformed _ => "Malformed"
  | instanceDetails _ => "InstanceDetails"

def message : CredentialError → String
  | missingRole => "error getting role as string from request"
  | roleNotAllowed role allowed =>
    "the role " ++ role ++ " is not allowed for this service; you must use one of " ++
      Text.quotedList allowed
  | invalidParameters reason => "invalid bind parameters: " ++ reason
  | missingUserCredentials =>
    "Error binding, missing parameters. Required parameters are username and password"
  | conflict reason => "policy was modified concurrently: " ++ reason
  | retriesExhausted attempts =>
    "gave up updating the policy after " ++ toString attempts ++ " conflicting attempts"
  | backend code reason => "identity backend error " ++ toString code ++ ": " ++ reason
  | timedOut operation polls =>
    "operation " ++ operation ++ " did not finish after " ++ toString polls ++ " polls"
  | malformed fault => "error unmarshalling credentials: " ++ fault.message
  | instanceDetails cause => "error reading instance details: " ++ cause.message

/-- The backend expects the error to clear up by itself. -/
def isTransient : CredentialError → Bool
  | backend code _ => code == 503
  | _ => false

/-- The request is at fault. -/
def isCallerError : CredentialError → Bool
  | missingRole | roleNotAllowed _ _ | invalidParameters _ | missingUserCredentials => true
  | _ => false

end CredentialError

end Brokerage
