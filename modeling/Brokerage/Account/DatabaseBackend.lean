import Brokerage.Account.DatabaseUser

/-!
A database backend in memory: users, certificates, and the operations that it started, each of which
is done once it has been polled more often than a number set beforehand.
-/

namespace Brokerage

structure DatabaseBackend where
  pollsUntilDone : Nat := 0
  serverCa : String := "server ca"
  /-- Users, each after the name of its instance. -/
  users : List String := []
  /-- The common names of the certificates. -/
  certificates : List String := []
  /-- How often each operation was polled, by ascending name. -/
  polls : List (String × Nat) := []
  deriving DecidableEq, Repr

namespace DatabaseBackend

def setPolls (operation : String) (n : Nat) : List (String × Nat) → List (String × Nat)
  | [] => [(operation, n)]
  | (o, m) :: rest =>
    if operation < o then (operation, n) :: (o, m) :: rest
    else if operation = o then (operation, n) :: rest
    else (o, m) :: setPolls operation n rest

/-- Starts an operation, which has not been polled. -/
def start (operation : String) (b : DatabaseBackend) :
    Except CredentialError String × DatabaseBackend :=
  (.ok operation, { b with polls := setPolls operation 0 b.polls })

def userKey (instanceName username : String) : String := instanceName ++ "/" ++ username

def fingerprintOf (commonName : String) : String := "sha1-" ++ commonName

def answer : (call : DatabaseCall) → DatabaseBackend →
    Except CredentialError call.Value × DatabaseBackend
  | .insertUser instanceName username _, b =>
    let key := userKey instanceName username
    { b with users := b.users ++ [key] }.start ("insert-user:" ++ key)
  | .deleteUser instanceName username, b =>
    let key := userKey instanceName username
    if b.users.contains key then
      { b with users := b.users.erase key }.start ("delete-user:" ++ key)
    else (.error (.backend 404 ("user " ++ username ++ " not found")), b)
  | .insertCertificate _ commonName, b =>
    (.ok ⟨fingerprintOf commonName, "cert " ++ commonName, "key+" ++ commonName, b.serverCa⟩,
      { b with certificates := b.certificates ++ [commonName] })
  | .deleteCertificate instanceName fingerprint, b =>
    { b with
      certificates := b.certificates.filter (fingerprintOf · != fingerprint) }.start
        ("delete-cert:" ++ instanceName ++ "/" ++ fingerprint)
  | .operationDone operation, b =>
    let n := (b.polls.lookup operation).getD 0 + 1
    (.ok (b.pollsUntilDone < n), { b with polls := setPolls operation n b.polls })

end DatabaseBackend

namespace DatabaseCall

/-- The name of a call. -/
def name : DatabaseCall → String
  | insertUser _ _ _ => "insert_user"
  | deleteUser _ _ => "delete_user"
  | insertCertificate _ _ => "insert_ssl_cert"
  | deleteCertificate _ _ => "delete_ssl_cert"
  | operationDone _ => "operation_done"

/-- How a call is noted; polls are not. -/
def note? : DatabaseCall → Option String
  | insertUser instanceName username password =>
    some ("insert_user:" ++ instanceName ++ "/" ++ username ++ ":" ++ password)
  | deleteUser instanceName username => some ("delete_user:" ++ instanceName ++ "/" ++ username)
  | insertCertificate instanceName commonName =>
    some ("insert_ssl_cert:" ++ instanceName ++ "/" ++ commonName)
  | deleteCertificate instanceName fingerprint =>
    some ("delete_ssl_cert:" ++ instanceName ++ "/" ++ fingerprint)
  | operationDone _ => none

end DatabaseCall

end Brokerage
