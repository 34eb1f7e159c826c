import Brokerage.Catalog.Basic

/-!
The registry: the catalog together with the provider that serves each service.
-/

namespace Brokerage

/-- Providers are of any type `π`; the pair registered last under an identifier stands first. -/
structure Registry (π : Type) where
  catalog : Catalog
  providers : List (String × π)

namespace Registry

variable {π : Type}

/-- The registry of services, each with its provider, if their catalog has no fault. -/
def ofEntries (entries : List (Service × π)) : Except CatalogError (Registry π) :=
  match Catalog.ofServices (entries.map (·.1)) with
  | .error e => .error e
  | .ok catalog => .ok ⟨catalog, (entries.map fun (s, p) => (s.id, p)).reverse⟩

def services (r : Registry π) : List Service := r.catalog.byName

def provider (r : Registry π) (serviceId : String) : Except CatalogError π :=
  match r.providers.lookup serviceId with
  | some p => .ok p
  | none => .error (.serviceNotFound serviceId)

/-- The plan and the provider of a request for `planId` of `serviceId`. -/
def resolve (r : Registry π) (serviceId planId : String) : Except CatalogError (Plan × π) :=
  match r.catalog.plan serviceId planId with
  | .error e => .error e
  | .ok plan => (r.provider serviceId).map fun p => (plan, p)

end Registry

end Brokerage
