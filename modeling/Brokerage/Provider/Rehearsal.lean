import Brokerage.Provider.Basic

/-!
A provider without a backend, for rehearsing what a broker does. Poll answers and failures can be
set beforehand, and every call is noted.
-/

namespace Brokerage

/-- The calls that a failure can be set for. -/
inductive Capability where
  | provision
  | deprovision
  | bind
  | unbind
  | poll
  | wasDelete
  deriving DecidableEq, Repr

def Capability.text : Capability → String
  | provision => "provision"
  | deprovision => "deprovision"
  | bind => "bind"
  | unbind => "unbind"
  | poll => "poll"
  | wasDelete => "was_delete"

structure Rehearsal where
  /-- The answers to the next polls; with none left a poll finds the operation finished. -/
  polls : List (Except ProviderError Bool) := []
  /-- Whether the operation that finished last was a deletion; not known if not set. -/
  wasDelete? : Option Bool := none
  /-- The failures to come, at most one for each capability. -/
  failures : List (Capability × ProviderError) := []
  /-- The calls so far. -/
  calls : List String := []

namespace Rehearsal

def pushPoll (r : Rehearsal) (answer : Except ProviderError Bool) : Rehearsal :=
  { r with polls := r.polls ++ [answer] }

def setWasDelete (r : Rehearsal) (wasDelete : Bool) : Rehearsal :=
  { r with wasDelete? := some wasDelete }

/-- Makes the next call of a capability fail. -/
def failNext (r : Rehearsal) (c : Capability) (e : ProviderError) : Rehearsal :=
  { r with failures := (c, e) :: r.failures.filter (·.1 != c) }

/-- How many calls of a capability there were. -/
def callCount (r : Rehearsal) (capability : String) : Nat :=
  r.calls.countP fun c => (capability ++ ":").toList.isPrefixOf c.toList

/-- Notes a call, and fails if a failure was set for it; the failure is then gone. -/
def receive (r : Rehearsal) (c : Capability) (subject : String) :
    Except ProviderError Unit × Rehearsal :=
  let r := { r with calls := r.calls ++ [c.text ++ ":" ++ subject] }
  match r.failures.lookup c with
  | some e => (.error e, { r with failures := r.failures.filter (·.1 != c) })
  | none => (.ok (), r)

/-- A received call goes on with `f`, unless it failed. -/
def andThen {α : Type} (received : Except ProviderError Unit × Rehearsal)
    (f : Rehearsal → Except ProviderError α × Rehearsal) : Except ProviderError α × Rehearsal :=
  match received with
  | (.ok (), r) => f r
  | (.error e, r) => (.error e, r)

/-- What the rehearsal says that it made: the request's parameters over a few fields of its own. -/
def metadata (instanceId : String) (request : ProvisionRequest) (plan : Plan) :
    Except ProviderError InstanceMetadata :=
  match request.parameters with
  | .error e => .error (.invalidParameters ("invalid parameters: " ++ e.reason))
  | .ok parameters =>
    let own := Fields.ofList
      [("resource_id", .str ("mock-" ++ instanceId)), ("plan", .str plan.name)]
    .ok
      { name := "mock-" ++ instanceId
        location := (plan.properties.lookup "location").getD "local"
        url := "mock://" ++ instanceId
        details := own.merge parameters }

/-- The credentials of a binding. -/
def credentials (bindingId : String) : Fields :=
  Fields.ofList
    [("username", .str ("user-" ++ bindingId)), ("password", .str ("secret-" ++ bindingId))]

/-- The answer to a poll, the next one set or that all is done. -/
def nextPoll (r : Rehearsal) : Except ProviderError Bool × Rehearsal :=
  match r.polls with
  | [] => (.ok true, r)
  | answer :: polls => (answer, { r with polls := polls })

def answer : (call : ProviderCall) → Rehearsal → Except ProviderError call.Value × Rehearsal
  | .provision instanceId request plan, r =>
    andThen (r.receive .provision instanceId) fun r => (metadata instanceId request plan, r)
  | .deprovision row _, r => r.receive .deprovision row.id
  | .bind row bindingId _, r =>
    andThen (r.receive .bind (row.id ++ "/" ++ bindingId)) fun r => (.ok (credentials bindingId), r)
  | .unbind row binding, r => r.receive .unbind (row.id ++ "/" ++ binding.bindingId)
  | .joinCredentials credentials row, r => (joinPlain credentials row, r)
  | .poll row, r => andThen (r.receive .poll row.id) nextPoll
  | .wasDelete row, r =>
    andThen (r.receive .wasDelete row.id) fun r =>
      match r.wasDelete? with
      | some wasDelete => (.ok wasDelete, r)
      | none => (.error (.notSupported "operation lookup"), r)

end Rehearsal

end Brokerage
