/-!
The states of an instance and of a binding, and the texts under which rows hold them. A text that
names no state reads as active.
-/

namespace Brokerage

inductive InstanceStatus where
  /-- Claimed by a provision that has not heard from its provider yet. -/
  | pending
  /-- The provider accepted the creation; polling tells when it is done. -/
  | provisioning
  | active
  /-- The provider accepted the deletion; polling tells when it is done. -/
  | deprovisioning
  deriving DecidableEq, Repr

namespace InstanceStatus

def text : InstanceStatus → String
  | pending => "pending"
  | provisioning => "provisioning"
  | active => "active"
  | deprovisioning => "deprovisioning"

def ofText (s : String) : InstanceStatus :=
  if s = "pending" then pending
  else if s = "provisioning" then provisioning
  else if s = "deprovisioning" then deprovisioning
  else active

@[simp] theorem ofText_text (s : InstanceStatus) : ofText s.text = s := by cases s <;> rfl

/-- Of all texts, only the one that is written reads as pending. -/
theorem ofText_eq_pending_iff {s : String} : ofText s = pending ↔ s = "pending" := by
  unfold ofText
  split
  · simp_all
  · split
    · simp_all
    · split <;> simp_all

end InstanceStatus

inductive BindingStatus where
  /-- Claimed by a bind that has not heard from its provider yet. -/
  | pending
  | active
  deriving DecidableEq, Repr

namespace BindingStatus

def text : BindingStatus → String
  | pending => "pending"
  | active => "active"

def ofText (s : String) : BindingStatus := if s = "pending" then pending else active

end BindingStatus

end Brokerage
