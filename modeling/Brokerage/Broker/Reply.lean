import Brokerage.Broker.Operation
import Brokerage.Json.Lookup

/-!
Replies to operations as JSON, each with the status that a transport puts beside it.
-/

namespace Brokerage

def ResponseStatus.fields (s : ResponseStatus) : List (String × Json) :=
  [("status", .str s.text), ("code", Json.ofNat s.code)]

/-- A failure: its kind, and what is said about it. -/
def failureReply (kind message : String) : Json :=
  .obj [("error", .str kind), ("message", .str message)]

namespace BrokerError

def reply (e : BrokerError) (operation : OperationKind) : Json :=
  .obj ([("error", .str e.code), ("message", .str e.message)] ++ (e.status operation).fields ++
    [("orphaning", .bool e.isOrphaning)])

end BrokerError

namespace ProviderError

def reply (e : ProviderError) : Json :=
  .obj [("error", .str "ProviderError"), ("message", .str e.message),
    ("transient", .bool e.isTransient), ("caller_error", .bool e.isCallerError)]

end ProviderError

namespace Response

/-- An instance has no dashboard. -/
def reply (r : Response) : Json :=
  let status := r.status.fields
  match r with
  | provisioned isAsync =>
    .obj ([("is_async", .bool isAsync), ("dashboard_url", .null)] ++ status)
  | deprovisioned isAsync | updated isAsync => .obj (("is_async", .bool isAsync) :: status)
  | bound credentials => .obj (("credentials", .obj credentials) :: status)
  | unbound => .null
  | reported report =>
    .obj [("state", .str report.state.text), ("description", Json.ofText? report.description)]

end Response

end Brokerage
