import Brokerage.Json.Printer
import Brokerage.Json.Reading
import Brokerage.Record.Status
import Brokerage.Text.Blank

/-!
The rows that the broker keeps: instances, bindings, provision requests and the plans of earlier
installations. Free-form records are held as JSON text; a blank text holds an empty record.
-/

namespace Brokerage

/-- Seconds on the clock by which claims age. -/
abbrev Instant := Int

/-- What is wrong with a JSON column. -/
inductive JsonFault where
  /-- The text is no JSON of the wanted form. -/
  | unreadable
  /-- A name in a record is to be written that is no text. -/
  | keyNotText
  deriving DecidableEq, Repr

/-- A fault is not described further than that there is one. -/
def JsonFault.message : JsonFault → String
  | .unreadable => "<json>"
  | .keyNotText => "key must be a string"

/-- What a database reports when it does not do what it is asked. -/
inductive DatabaseFault where
  | poolTimedOut
  | rowNotFound
  | poolClosed
  /-- The address cannot be used. -/
  | configuration (reason : String)
  /-- An option in the address cannot be used. -/
  | option (reason : String)
  /-- The connection does not come about. -/
  | connection (reason : String)
  /-- A statement is refused, with a result code. -/
  | refused (code : Nat) (reason : String)
  deriving DecidableEq, Repr

namespace DatabaseFault

/-- The fault, then what it wraps, from the outside in. -/
def layers : DatabaseFault → List String
  | poolTimedOut => ["pool timed out while waiting for an open connection"]
  | rowNotFound => ["no rows returned by a query that expected to return at least one row"]
  | poolClosed => ["attempted to acquire a connection on a closed pool"]
  | configuration reason => ["error with configuration: " ++ reason, reason]
  | option reason =>
    ["error with configuration: error with configuration: " ++ reason,
      "error with configuration: " ++ reason, reason]
  | connection reason => ["error communicating with database: " ++ reason, reason]
  | refused code reason =>
    let inner := "(code: " ++ toString code ++ ") " ++ reason
    ["error returned from database: " ++ inner, inner]

def message (fault : DatabaseFault) : String := fault.layers.headD ""

end DatabaseFault

inductive StoreError where
  /-- No row that may be seen has the key. -/
  | notFound (entity key : String)
  /-- A unique key is taken. -/
  | constraint (message : String)
  | database (fault : DatabaseFault)
  | malformed (field : String) (fault : JsonFault)
  deriving DecidableEq, Repr

namespace StoreError

/-- The name of a kind of error. -/
def kind : StoreError → String
  | notFound _ _ => "NotFound"
  | constraint _ => "ConstraintViolation"
  | database _ => "Database"
  | malformed _ _ => "Json"

def message : StoreError → String
  | notFound entity key => entity ++ " " ++ key ++ " not found"
  | constraint m => "constraint violation: " ++ m
  | database fault => "database error: " ++ fault.message
  | malformed field fault => "malformed " ++ field ++ ": " ++ fault.message

def isNotFound : StoreError → Bool
  | notFound _ _ => true
  | _ => false

def isConstraint : StoreError → Bool
  | constraint _ => true
  | _ => false

end StoreError

/-- The record that a column holds. -/
def readColumn (field text : String) : Except StoreError Fields :=
  if Text.isBlank text then .ok []
  else
    match Fields.read? text with
    | some fields => .ok fields
    | none => .error (.malformed field .unreadable)

structure InstanceRow where
  id : String
  name : String := ""
  location : String := ""
  url : String := ""
  /-- What the provider reported about the resource, as JSON text. -/
  otherDetails : String := "\x7b\x7d"
  serviceId : String
  planId : String
  spaceGuid : String := ""
  organizationGuid : String := ""
  statusText : String
  createdAt : Instant
  updatedAt : Instant
  deletedAt? : Option Instant := none
  deriving DecidableEq, Repr

namespace InstanceRow

/-- A claim: a pending row about which no provider has said anything. -/
def claim (now : Instant) (id serviceId planId : String) : InstanceRow where
  id := id
  serviceId := serviceId
  planId := planId
  statusText := InstanceStatus.pending.text
  createdAt := now
  updatedAt := now

def live (r : InstanceRow) : Bool := r.deletedAt?.isNone

def status (r : InstanceRow) : InstanceStatus := .ofText r.statusText

def withStatus (r : InstanceRow) (s : InstanceStatus) : InstanceRow :=
  { r with statusText := s.text }

def details (r : InstanceRow) : Except StoreError Fields :=
  readColumn "other_details" r.otherDetails

def withDetails (r : InstanceRow) (details : Fields) : InstanceRow :=
  { r with otherDetails := details.text }

end InstanceRow

structure BindingRow where
  /-- The number given to the row when it is stored. -/
  id : Int := 0
  instanceId : String
  bindingId : String
  serviceId : String
  /-- The credentials, as JSON text. -/
  otherDetails : String := "\x7b\x7d"
  statusText : String
  createdAt : Instant
  updatedAt : Instant
  deletedAt? : Option Instant := none
  deriving DecidableEq, Repr

namespace BindingRow

/-- A claim: a pending row without credentials. -/
def claim (now : Instant) (instanceId bindingId serviceId : String) : BindingRow where
  instanceId := instanceId
  bindingId := bindingId
  serviceId := serviceId
  statusText := BindingStatus.pending.text
  createdAt := now
  updatedAt := now

def live (r : BindingRow) : Bool := r.deletedAt?.isNone

/-- The row belongs to the pair. -/
def isOf (r : BindingRow) (instanceId bindingId : String) : Bool :=
  r.instanceId == instanceId && r.bindingId == bindingId

def status (r : BindingRow) : BindingStatus := .ofText r.statusText

def withStatus (r : BindingRow) (s : BindingStatus) : BindingRow := { r with statusText := s.text }

def credentials (r : BindingRow) : Except StoreError Fields :=
  readColumn "other_details" r.otherDetails

def withCredentials (r : BindingRow) (credentials : Fields) : BindingRow :=
  { r with otherDetails := credentials.text }

/-- An active row that holds credentials. -/
def issued (now : Instant) (instanceId bindingId serviceId : String) (credentials : Fields) :
    BindingRow :=
  ((claim now instanceId bindingId serviceId).withCredentials credentials).withStatus .active

end BindingRow

/-- A provision request as it came in. -/
structure RequestRow where
  id : Int := 0
  instanceId : String
  requestDetails : String
  createdAt : Instant
  deriving DecidableEq, Repr

def RequestRow.of (now : Instant) (instanceId : String) (request : Json) : RequestRow where
  instanceId := instanceId
  requestDetails := request.text
  createdAt := now

/-- The name of a field given as a value: a text, or a whole number or truth value spelled out. -/
def fieldName? : Json → Option String
  | .str s => some s
  | .num (.whole n) => some (String.ofList (Json.printWhole n))
  | .bool b => some (if b then "true" else "false")
  | _ => none

/-- A request given as pairs of a name and a value, written in their order, repeated names too. -/
def RequestRow.ofPairs (now : Instant) (instanceId : String) (pairs : List (Json × Json)) :
    Except StoreError RequestRow :=
  match pairs.mapM fun (k, v) => (fieldName? k).map fun name => (name, v) with
  | some fields => .ok (.of now instanceId (.obj fields))
  | none => .error (.malformed "request_details" .keyNotText)

/-- A plan of an earlier installation, which gave its plans identifiers of its own. -/
structure PlanRow where
  id : String
  serviceId : String
  name : String
  features : String
  createdAt : Instant
  updatedAt : Instant
  deletedAt? : Option Instant := none
  deriving DecidableEq, Repr

def PlanRow.of (now : Instant) (id serviceId name features : String) : PlanRow where
  id := id
  serviceId := serviceId
  name := name
  features := features
  createdAt := now
  updatedAt := now

end Brokerage
