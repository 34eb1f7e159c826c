import Brokerage.Record.Status

/-!
What a poll means. The stored status and the provider's answer decide between them what the caller
is told and what happens to the row; only claims that were abandoned are polled while pending.
-/

namespace Brokerage

inductive OperationState where
  | inProgress
  | succeeded
  | failed
  deriving DecidableEq, Repr

def OperationState.text : OperationState → String
  | inProgress => "in progress"
  | succeeded => "succeeded"
  | failed => "failed"

/-- The two operations that may finish out of band. -/
inductive WorkKind where
  | create
  | delete
  deriving DecidableEq, Repr

def WorkKind.text : WorkKind → String
  | create => "create"
  | delete => "delete"

/-- The operation that a status says is under way. -/
def WorkKind.inFlight : InstanceStatus → Option WorkKind
  | .pending | .provisioning => some create
  | .deprovisioning => some delete
  | .active => none

/-- A provider's answer to a poll. -/
inductive PollOutcome where
  | pending
  /-- To be asked again later. -/
  | transient (reason : String)
  | failed (reason : String)
  | done (kind : WorkKind)
  deriving DecidableEq, Repr

/-- What happens to the row after a poll. -/
inductive RecordAction where
  | softDelete
  | markActive
  /-- The abandoned claim did reach the backend, which still works on it. -/
  | markProvisioning
  /-- The abandoned claim never came to a resource. -/
  | releaseClaim
  deriving DecidableEq, Repr

def RecordAction.text : RecordAction → String
  | softDelete => "SoftDelete"
  | markActive => "MarkActive"
  | markProvisioning => "MarkProvisioning"
  | releaseClaim => "ReleaseClaim"

structure Transition where
  state : OperationState
  action : Option RecordAction := none
  description : Option String := none
  deriving DecidableEq, Repr

/-- The transition for a stored status and the answer to a poll. -/
def Transition.next : InstanceStatus → PollOutcome → Transition
  | .pending, .pending => ⟨.inProgress, some .markProvisioning, none⟩
  | _, .pending => ⟨.inProgress, none, none⟩
  | _, .transient reason => ⟨.inProgress, none, some reason⟩
  | .pending, .failed reason => ⟨.failed, some .releaseClaim, some reason⟩
  | _, .failed reason => ⟨.failed, none, some reason⟩
  | _, .done .delete => ⟨.succeeded, some .softDelete, none⟩
  | .active, .done .create => ⟨.succeeded, none, none⟩
  | _, .done .create => ⟨.succeeded, some .markActive, none⟩

end Brokerage
