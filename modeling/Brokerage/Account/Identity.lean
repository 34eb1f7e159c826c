import Brokerage.Account.Error
import Brokerage.Account.Policy
import Brokerage.Account.Stored
import Brokerage.Program
import Brokerage.Request.Basic

/-!
Service identities as credentials. Every binding gets an account of its own, which is granted the
role that the request names and gets one key. The policy of the project is edited optimistically:
it is read, edited, merged and written back, and a write that finds another version starts over.
-/

namespace Brokerage

structure ServiceAccount where
  name : String
  displayName : String
  email : String
  uniqueId : String
  deriving DecidableEq, Repr

/-- Calls to an identity backend. -/
inductive IdentityCall where
  | createServiceAccount (accountId displayName : String)
  | createKey (account : ServiceAccount)
  | getPolicy
  /-- Refused with a conflict if the policy is not the one that was read. -/
  | setPolicy (policy : Policy)
  | deleteServiceAccount (uniqueId : String)
  deriving DecidableEq, Repr

@[reducible] def IdentityCall.Value : IdentityCall → Type
  | createServiceAccount _ _ => ServiceAccount
  | createKey _ => String
  | getPolicy => Policy
  | setPolicy _ | deleteServiceAccount _ => Unit

@[reducible] def identityInterface : Interface where
  Call := IdentityCall
  Answer call := Except CredentialError call.Value

/-- A program over the calls to an identity backend. -/
abbrev IdentityProgram (α : Type) := Fallible identityInterface CredentialError α

/-- Makes one call, and fails if it does. -/
def IdentityCall.ask (call : IdentityCall) : IdentityProgram call.Value :=
  ExceptT.mk (Program.call (I := identityInterface) call)

/-- The credentials of a binding that has a service account. -/
structure AccountInfo where
  name : String
  email : String
  uniqueId : String
  projectId : String
  privateKeyData : String
  deriving DecidableEq, Repr

namespace AccountInfo

def toFields (i : AccountInfo) : List (String × Json) :=
  [("Name", .str i.name), ("Email", .str i.email), ("UniqueId", .str i.uniqueId),
    ("ProjectId", .str i.projectId), ("PrivateKeyData", .str i.privateKeyData)]

/-- The credentials as a record. -/
def credentials (i : AccountInfo) : Fields := Fields.ofList i.toFields

/-- Reads stored credentials; no field may be missing. -/
def read? (text : String) : Option AccountInfo := do
  let stored ← StoredTexts.read? ["Name", "Email", "UniqueId", "ProjectId", "PrivateKeyData"] text
  let name ← stored.lookup "Name"
  let email ← stored.lookup "Email"
  let uniqueId ← stored.lookup "UniqueId"
  let projectId ← stored.lookup "ProjectId"
  let privateKeyData ← stored.lookup "PrivateKeyData"
  return ⟨name, email, uniqueId, projectId, privateKeyData⟩

end AccountInfo

/-- Issues service accounts in one project. -/
structure IdentityManager where
  projectId : String
  /-- The roles that may be asked for, ascending; any role if there is none. -/
  allowedRoles : List String := []
  maxAttempts : Nat := 3
  deriving DecidableEq, Repr

def accountPrefix : String := "sb-binding-"

/-- How many characters the backend takes for an account. -/
def maxAccountIdLength : Nat := 20

/-- The account of a binding: a fixed start and the binding's identifier, cut to fit. -/
def accountIdFor (bindingId : String) : String :=
  String.ofList ((accountPrefix ++ bindingId).toList.take maxAccountIdLength)

/-- The principal that a policy grants roles to. -/
def memberFor (email : String) : String := "serviceAccount:" ++ email

def qualifiedRole (role : String) : String := "roles/" ++ role

namespace IdentityManager

/-- The role that a request names, if it may be asked for. -/
def requestedRole (m : IdentityManager) (request : BindRequest) : Except CredentialError String :=
  match bindParameters request with
  | .error e => .error e
  | .ok fields =>
    match fields.text? "role" with
    | none => .error .missingRole
    | some role =>
      if m.allowedRoles.isEmpty || m.allowedRoles.contains role then .ok role
      else .error (.roleNotAllowed role m.allowedRoles)

/-- Reads the policy, writes it back edited and merged, and starts over on a conflict, as often as
`attempts` says; `limit` is how often that was allowed in all. -/
def updatePolicy (limit : Nat) (edit : List RoleBinding → List RoleBinding) :
    Nat → IdentityProgram Unit
  | 0 => throw (.retriesExhausted limit)
  | attempts + 1 => do
    let policy ← IdentityCall.getPolicy.ask
    let edited : Policy := { policy with bindings := RoleBinding.merge (edit policy.bindings) }
    match ← Fallible.attempt (IdentityCall.setPolicy edited).ask with
    | .ok () => return
    | .error (.conflict _) => updatePolicy limit edit attempts
    | .error e => throw e

def grantRole (m : IdentityManager) (role email : String) : IdentityProgram Unit :=
  updatePolicy m.maxAttempts (· ++ [⟨qualifiedRole role, [memberFor email]⟩]) m.maxAttempts

def revokeMember (m : IdentityManager) (email : String) : IdentityProgram Unit :=
  updatePolicy m.maxAttempts (RoleBinding.removeMember (memberFor email)) m.maxAttempts

/-- Creates the account of a binding, grants it roles and makes its key. -/
def createAccount (m : IdentityManager) (bindingId : String) (roles : List String) :
    IdentityProgram AccountInfo := do
  let id := accountIdFor bindingId
  let account ← (IdentityCall.createServiceAccount id id).ask
  roles.forM fun role => m.grantRole role account.email
  let key ← (IdentityCall.createKey account).ask
  return ⟨account.displayName, account.email, account.uniqueId, m.projectId, key⟩

/-- Issues the credentials of a binding. -/
def createCredentials (m : IdentityManager) (bindingId : String) (request : BindRequest) :
    IdentityProgram Fields := do
  let role ← Fallible.ofExcept (m.requestedRole request)
  let info ← m.createAccount bindingId [role]
  return info.credentials

/-- Withdraws the credentials of a binding: first what its account may do, then the account. -/
def deleteCredentials (m : IdentityManager) (binding : BindingRow) : IdentityProgram Unit :=
  match AccountInfo.read? binding.otherDetails with
  | none => throw (.malformed .unreadable)
  | some info => do
    m.revokeMember info.email
    (IdentityCall.deleteServiceAccount info.uniqueId).ask

end IdentityManager

end Brokerage
