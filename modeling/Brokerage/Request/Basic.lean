import Brokerage.Json.Basic

/-!
What a platform asks of the broker: requests to provision, deprovision, bind, unbind and update.
Parameters are free-form; asked for, they are a record, and nothing counts as an empty one.
-/

namespace Brokerage

structure ProvisionRequest where
  serviceId : String := ""
  planId : String := ""
  organizationGuid : String := ""
  spaceGuid : String := ""
  parameters? : Option Json := none
  deriving Repr

structure DeprovisionRequest where
  serviceId : String := ""
  planId : String := ""
  deriving DecidableEq, Repr

structure BindRequest where
  serviceId : String := ""
  planId : String := ""
  /-- The application that the credentials are for. -/
  appGuid? : Option String := none
  parameters? : Option Json := none
  deriving Repr

structure UnbindRequest where
  serviceId : String := ""
  planId : String := ""
  deriving DecidableEq, Repr

structure UpdateRequest where
  serviceId : String := ""
  /-- The plan to move to, if the plan is to change. -/
  planId? : Option String := none
  parameters? : Option Json := none
  previousPlanId? : Option String := none
  deriving Repr

/-- Parameters that are no record. -/
structure ParameterError where
  found : Json
  deriving Repr

/-- The kind of a value, as a caller is told it. -/
def Json.kind : Json → String
  | .null => "null"
  | .bool _ => "a boolean"
  | .num _ => "a number"
  | .str _ => "a string"
  | .arr _ => "an array"
  | .obj _ => "an object"

def ParameterError.reason (e : ParameterError) : String :=
  "parameters must be a JSON object, got " ++ e.found.kind

/-- Parameters as a record; absent ones and null are empty. -/
def parameterFields : Option Json → Except ParameterError Fields
  | none => .ok []
  | some .null => .ok []
  | some (.obj fields) => .ok fields
  | some v => .error ⟨v⟩

def ProvisionRequest.parameters (r : ProvisionRequest) : Except ParameterError Fields :=
  parameterFields r.parameters?

def BindRequest.parameters (r : BindRequest) : Except ParameterError Fields :=
  parameterFields r.parameters?

end Brokerage
