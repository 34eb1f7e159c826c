import Brokerage.Account.Identity

/-!
An identity backend in memory: accounts by unique identifier, and one policy with a version. A write
of the policy takes effect only if it names the current version.
-/

namespace Brokerage

structure IdentityBackend where
  project : String
  policy : List RoleBinding := []
  version : Nat := 0
  /-- How many writes will still find that another writer was first. -/
  conflicts : Nat := 0
  /-- In the order of creation. -/
  accounts : List ServiceAccount := []
  deriving DecidableEq, Repr

namespace IdentityBackend

/-- The account that the backend makes under an identifier. -/
def newAccount (b : IdentityBackend) (id displayName : String) : ServiceAccount where
  name := "projects/" ++ b.project ++ "/serviceAccounts/" ++ id
  displayName := displayName
  email := id ++ "@" ++ b.project ++ ".example.com"
  uniqueId := "uid-" ++ id

def etag (b : IdentityBackend) : String := "v" ++ toString b.version

/-- Another writer is first, if one is due. -/
def disturb (b : IdentityBackend) : IdentityBackend :=
  if 0 < b.conflicts then { b with conflicts := b.conflicts - 1, version := b.version + 1 } else b

def answer : (call : IdentityCall) → IdentityBackend →
    Except CredentialError call.Value × IdentityBackend
  | .createServiceAccount id displayName, b =>
    let account := b.newAccount id displayName
    if b.accounts.any (·.uniqueId = account.uniqueId) then
      (.error (.backend 409 ("account " ++ id ++ " already exists")), b)
    else (.ok account, { b with accounts := b.accounts ++ [account] })
  | .createKey account, b => (.ok ("key-for-" ++ account.uniqueId), b)
  | .getPolicy, b => (.ok ⟨b.policy, b.etag⟩, b)
  | .setPolicy policy, b =>
    let b := b.disturb
    if policy.etag = b.etag then
      (.ok (), { b with policy := policy.bindings, version := b.version + 1 })
    else (.error (.conflict "etag mismatch"), b)
  | .deleteServiceAccount uniqueId, b =>
    if b.accounts.any (·.uniqueId = uniqueId) then
      (.ok (), { b with accounts := b.accounts.filter (·.uniqueId != uniqueId) })
    else (.error (.backend 404 ("account " ++ uniqueId ++ " not found")), b)

end IdentityBackend

namespace IdentityCall

/-- The name of a call. -/
def name : IdentityCall → String
  | createServiceAccount _ _ => "create_service_account"
  | createKey _ => "create_key"
  | getPolicy => "get_policy"
  | setPolicy _ => "set_policy"
  | deleteServiceAccount _ => "delete_service_account"

/-- How a call is noted. -/
def note : IdentityCall → String
  | createServiceAccount id _ => "create_service_account:" ++ id
  | createKey account => "create_key:" ++ account.uniqueId
  | getPolicy => "get_policy"
  | setPolicy policy => "set_policy:" ++ policy.etag ++ ":" ++ toString policy.bindings.length
  | deleteServiceAccount uniqueId => "delete_service_account:" ++ uniqueId

end IdentityCall

end Brokerage
