import Brokerage.Account.Stored
import Brokerage.Program
import Brokerage.Text.Percent

/-!
Database users as credentials. Every binding gets the user that its request names and a client
certificate. What the backend starts is an operation, which is polled until it is done. A
certificate is withdrawn before its user.
-/

namespace Brokerage

structure Certificate where
  fingerprint : String
  cert : String
  privateKey : String
  serverCa : String
  deriving DecidableEq, Repr

/-- Calls to a database backend. An operation is known by its name. -/
inductive DatabaseCall where
  | insertUser (instanceName username password : String)
  /-- A user that does not exist is a backend error with code 404. -/
  | deleteUser (instanceName username : String)
  | insertCertificate (instanceName commonName : String)
  | deleteCertificate (instanceName fingerprint : String)
  | operationDone (operation : String)
  deriving DecidableEq, Repr

@[reducible] def DatabaseCall.Value : DatabaseCall → Type
  | insertUser _ _ _ | deleteUser _ _ | deleteCertificate _ _ => String
  | insertCertificate _ _ => Certificate
  | operationDone _ => Bool

@[reducible] def databaseInterface : Interface where
  Call := DatabaseCall
  Answer call := Except CredentialError call.Value

/-- A program over the calls to a database backend. -/
abbrev DatabaseProgram (α : Type) := Fallible databaseInterface CredentialError α

/-- Makes one call, and fails if it does. -/
def DatabaseCall.ask (call : DatabaseCall) : DatabaseProgram call.Value :=
  ExceptT.mk (Program.call (I := databaseInterface) call)

/-- The credentials of a binding that has a database user. -/
structure DatabaseInfo where
  username : String := ""
  password : String := ""
  /-- Empty if no certificate was issued. -/
  caCert : String := ""
  clientCert : String := ""
  clientKey : String := ""
  fingerprint : String := ""
  deriving DecidableEq, Repr

namespace DatabaseInfo

def toFields (i : DatabaseInfo) : List (String × Json) :=
  [("Username", .str i.username), ("Password", .str i.password), ("CaCert", .str i.caCert),
    ("ClientCert", .str i.clientCert), ("ClientKey", .str i.clientKey),
    ("Sha1Fingerprint", .str i.fingerprint)]

def credentials (i : DatabaseInfo) : Fields := Fields.ofList i.toFields

/-- Reads stored credentials; a missing field is empty. -/
def read? (text : String) : Option DatabaseInfo := do
  let stored ← StoredTexts.read?
    ["Username", "Password", "CaCert", "ClientCert", "ClientKey", "Sha1Fingerprint"] text
  let field name := (stored.lookup name).getD ""
  return ⟨field "Username", field "Password", field "CaCert", field "ClientCert",
    field "ClientKey", field "Sha1Fingerprint"⟩

end DatabaseInfo

inductive DatabaseFlavor where
  | mySql
  | postgres
  deriving DecidableEq, Repr

/-- Issues users and certificates on databases of one flavor. -/
structure DatabaseManager where
  flavor : DatabaseFlavor
  maxPolls : Nat := 300
  deriving DecidableEq, Repr

/-- The common name of a binding's certificate: ten characters of its identifier and an ending. -/
def certificateNameFor (bindingId : String) : String :=
  String.ofList (bindingId.toList.take 10) ++ "cert"

namespace DatabaseManager

/-- At least one poll is made. -/
def withMaxPolls (m : DatabaseManager) (maxPolls : Nat) : DatabaseManager :=
  { m with maxPolls := max maxPolls 1 }

/-- The user and the password that a request names. -/
def requestedUser (request : BindRequest) : Except CredentialError (String × String) :=
  match bindParameters request with
  | .error e => .error e
  | .ok fields =>
    match fields.text? "username", fields.text? "password" with
    | some username, some password => .ok (username, password)
    | _, _ => .error .missingUserCredentials

/-- Polls an operation until it is done, `polls` times at most; `limit` is how often that was
allowed in all. -/
def poll (limit : Nat) (operation : String) : Nat → DatabaseProgram Unit
  | 0 => throw (.timedOut operation limit)
  | polls + 1 => do
    let done ← (DatabaseCall.operationDone operation).ask
    if done then return else poll limit operation polls

def waitFor (m : DatabaseManager) (operation : String) : DatabaseProgram Unit :=
  poll m.maxPolls operation m.maxPolls

/-- Issues the credentials of a binding. -/
def createCredentials (m : DatabaseManager) (row : InstanceRow) (bindingId : String)
    (request : BindRequest) : DatabaseProgram Fields := do
  let (username, password) ← Fallible.ofExcept (requestedUser request)
  let operation ← (DatabaseCall.insertUser row.name username password).ask
  m.waitFor operation
  let cert ← (DatabaseCall.insertCertificate row.name (certificateNameFor bindingId)).ask
  let info : DatabaseInfo :=
    ⟨username, password, cert.serverCa, cert.cert, cert.privateKey, cert.fingerprint⟩
  return info.credentials

/-- Withdraws the certificate of stored credentials, if one was issued. -/
def deleteCertificate (m : DatabaseManager) (row : InstanceRow) (info : DatabaseInfo) :
    DatabaseProgram Unit :=
  if info.caCert.isEmpty then return
  else do
    let operation ← (DatabaseCall.deleteCertificate row.name info.fingerprint).ask
    m.waitFor operation

/-- Deletes the user of stored credentials; one that is gone already will do. -/
def deleteUser (m : DatabaseManager) (row : InstanceRow) (info : DatabaseInfo) :
    DatabaseProgram Unit := do
  match ← Fallible.attempt (DatabaseCall.deleteUser row.name info.username).ask with
  | .ok operation => m.waitFor operation
  | .error (.backend code reason) =>
    if code = 404 then return else throw (.backend code reason)
  | .error e => throw e

/-- Withdraws the credentials of a binding: first the certificate, then the user. -/
def deleteCredentials (m : DatabaseManager) (row : InstanceRow) (binding : BindingRow) :
    DatabaseProgram Unit :=
  match DatabaseInfo.read? binding.otherDetails with
  | none => throw (.malformed .unreadable)
  | some info => do
    m.deleteCertificate row info
    m.deleteUser row info

/-- The address by which an application connects with `credentials`. The prefix, the host and the
database are written as they are; all else is percent-encoded. -/
def connectionUri (m : DatabaseManager) (credentials : Fields) : String :=
  let field name := (credentials.text? name).getD ""
  let encoded name := Text.Percent.encode (field name)
  match m.flavor with
  | .mySql =>
    field "UriPrefix" ++ "mysql://" ++ encoded "Username" ++ ":" ++ encoded "Password" ++ "@" ++
      field "host" ++ "/" ++ field "database_name" ++ "?ssl_mode=required"
  | .postgres =>
    field "UriPrefix" ++ "postgres://" ++ encoded "Username" ++ ":" ++ encoded "Password" ++ "@" ++
      field "host" ++ "/" ++ field "database_name" ++ "?sslmode=require&sslcert=" ++
      encoded "ClientCert" ++ "&sslkey=" ++ encoded "ClientKey" ++ "&sslrootcert=" ++
      encoded "CaCert"

/-- Joined credentials with the address that they make. -/
def joinCredentials (m : DatabaseManager) (credentials : Fields) (row : InstanceRow) :
    Except StoreError Fields :=
  (Brokerage.joinCredentials credentials row).map fun joined =>
    joined.insert "uri" (.str (m.connectionUri joined))

end DatabaseManager

end Brokerage
