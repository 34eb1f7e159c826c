import Brokerage.Broker.Assembly
import Brokerage.Text.Quoted

/-!
Brokers and their parts as a diagnosis shows them: the kind of a thing, and its parts by name.
-/

namespace Brokerage.Display

open Text (quoted quotedList)

/-- A record: its kind, and its parts between braces. -/
def record (kind : String) (parts : List (String × String)) : String :=
  kind ++ " \x7b " ++ ", ".intercalate (parts.map fun (name, value) => name ++ ": " ++ value) ++
    " \x7d"

def list (items : List String) : String := "[" ++ ", ".intercalate items ++ "]"

/-- Texts by name, between braces. -/
def dictionary (entries : List (String × String)) : String :=
  "\x7b" ++ ", ".intercalate (entries.map fun (name, value) => quoted name ++ ": " ++ value) ++
    "\x7d"

def boolean (b : Bool) : String := if b then "true" else "false"

def optional : Option String → String
  | none => "None"
  | some s => "Some(" ++ s ++ ")"

/-- A length of time in seconds. -/
def duration (seconds : Nat) : String := if seconds = 0 then "0ns" else toString seconds ++ "s"

def plan (p : Plan) : String :=
  record "ServicePlan"
    [("id", quoted p.id), ("name", quoted p.name), ("description", quoted p.description),
      ("free", boolean p.free),
      ("service_properties", dictionary (p.properties.map fun (k, v) => (k, quoted v)))]

def service (s : Service) : String :=
  record "ServiceDefinition"
    [("id", quoted s.id), ("name", quoted s.name), ("description", quoted s.description),
      ("bindable", boolean s.bindable), ("plan_updateable", boolean s.planUpdateable),
      ("tags", quotedList s.tags), ("plans", list (s.plans.map plan))]

/-- A registry; of its providers only the services are shown. -/
def registry {π : Type} (r : Registry π) : String :=
  let catalog := record "Catalog"
    [("services", dictionary (r.catalog.services.map fun s => (s.id, service s)))]
  record "ServiceRegistry"
    [("catalog", catalog), ("providers", quotedList (r.providers.reverse.map (·.1)))]

def broker (b : Broker) : String :=
  record "Broker"
    [("store", quoted "<Store>"), ("registry", registry b.registry),
      ("instance_limit", optional (b.instanceLimit.map toString)),
      ("claim_timeout", duration b.claimTimeout)]

def assembly (a : Assembly) : String :=
  record "BrokerBuilder"
    [("store", if a.hasStore then optional (some (quoted "...")) else optional none),
      ("registry", optional (a.registry?.map registry)),
      ("instance_limit", optional (a.instanceLimit.map toString)),
      ("claim_timeout", duration a.claimTimeout),
      ("upgrade_candidates", toString a.candidates.length)]

def upgradePath (p : UpgradePath) : String :=
  record "UpgradePath"
    [("service_id", quoted p.serviceId), ("legacy_plan_id", quoted p.legacyPlanId),
      ("legacy_plan_name", quoted p.legacyPlanName), ("new_plan_id", quoted p.newPlanId),
      ("new_plan_name", quoted p.newPlanName)]

/-- An upgrader; the broker inside is not shown. -/
def upgrader (paths : List UpgradePath) : String :=
  "LegacyPlanUpgrader \x7b upgrades: " ++ list (paths.map upgradePath) ++ ", .. \x7d"

end Brokerage.Display
