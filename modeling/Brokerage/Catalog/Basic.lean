import Brokerage.Text.Blank
import Brokerage.Text.Quoted

/-!
The catalog: services and their plans. A catalog is checked once, when it is made, so that a
request never meets a service or plan without an identifier or a name, or two of one identifier.
-/

namespace Brokerage

structure Plan where
  id : String := ""
  name : String := ""
  description : String := ""
  free : Bool := false
  /-- Settings that only the provider reads, by ascending name. -/
  properties : List (String × String) := []
  deriving DecidableEq, Repr

structure Service where
  id : String := ""
  name : String := ""
  description : String := ""
  bindable : Bool := false
  planUpdateable : Bool := false
  tags : List String := []
  plans : List Plan := []
  deriving DecidableEq, Repr

inductive CatalogError where
  /-- A part is absent; `context` says of which definition. -/
  | missingField (part : String) (context : String)
  | duplicateService (serviceId : String)
  | duplicatePlan (serviceId planId : String)
  | serviceNotFound (serviceId : String)
  | planNotFound (serviceId planId : String)
  deriving DecidableEq, Repr

/-- The name of a kind of error. -/
def CatalogError.kind : CatalogError → String
  | .missingField _ _ => "MissingField"
  | .duplicateService _ => "DuplicateService"
  | .duplicatePlan _ _ => "DuplicatePlan"
  | .serviceNotFound _ => "ServiceNotFound"
  | .planNotFound _ _ => "PlanNotFound"

def CatalogError.message : CatalogError → String
  | .missingField part context => context ++ " is missing a " ++ part
  | .duplicateService id => "service " ++ id ++ " is defined more than once"
  | .duplicatePlan serviceId planId =>
    "plan " ++ planId ++ " is defined more than once in service " ++ serviceId
  | .serviceNotFound id => "unknown service ID: " ++ id
  | .planNotFound serviceId planId =>
    "plan ID " ++ planId ++ " could not be found for service " ++ serviceId

open Text (isBlank quoted)

/-- The first fault among `plans`, given the identifiers of the plans before them. -/
def Service.checkPlans (s : Service) (seen : List String) : List Plan → Except CatalogError Unit
  | [] => .ok ()
  | p :: rest =>
    if isBlank p.id then
      .error (.missingField "plan id" ("plan " ++ quoted p.name ++ " of service " ++ s.id))
    else if isBlank p.name then
      .error (.missingField "plan name" ("plan " ++ p.id ++ " of service " ++ s.id))
    else if p.id ∈ seen then .error (.duplicatePlan s.id p.id)
    else s.checkPlans (p.id :: seen) rest

/-- The first fault of a definition by itself. -/
def Service.check (s : Service) : Except CatalogError Unit :=
  if isBlank s.id then
    .error (.missingField "service id" ("service " ++ quoted s.name))
  else if isBlank s.name then
    .error (.missingField "service name" ("service " ++ s.id))
  else s.checkPlans [] s.plans

def Service.plan? (s : Service) (planId : String) : Option Plan :=
  s.plans.find? (·.id = planId)

/-- Services that have been checked, each identifier once, in the order of registration. -/
structure Catalog where
  services : List Service
  deriving Repr

namespace Catalog

/-- Adds the checked `services` to those before them, up to the first fault. -/
def extend (known : List Service) : List Service → Except CatalogError (List Service)
  | [] => .ok known
  | s :: rest =>
    match s.check with
    | .error e => .error e
    | .ok () =>
      if known.any (·.id = s.id) then .error (.duplicateService s.id)
      else extend (known ++ [s]) rest

def ofServices (services : List Service) : Except CatalogError Catalog :=
  (extend [] services).map (⟨·⟩)

def service (c : Catalog) (serviceId : String) : Except CatalogError Service :=
  match c.services.find? (·.id = serviceId) with
  | some s => .ok s
  | none => .error (.serviceNotFound serviceId)

def plan (c : Catalog) (serviceId planId : String) : Except CatalogError Plan :=
  match c.service serviceId with
  | .error e => .error e
  | .ok s =>
    match s.plan? planId with
    | some p => .ok p
    | none => .error (.planNotFound serviceId planId)

/-- All services in the order of their names. -/
def byName (c : Catalog) : List Service :=
  c.services.mergeSort fun a b => !decide (b.name < a.name)

def size (c : Catalog) : Nat := c.services.length

end Catalog

end Brokerage
