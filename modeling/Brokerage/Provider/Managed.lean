import Brokerage.Account.Scripted
import Brokerage.Provider.Basic

/-!
Providers put together from two managers: one makes and deletes resources, the other issues and
withdraws credentials. They work synchronously and cannot be polled.
-/

namespace Brokerage

/-- Makes and deletes resources, with a state of type `ρ`. -/
structure ResourceManager (ρ : Type) where
  create : String → ProvisionRequest → Plan → ρ → Except ProviderError InstanceMetadata × ρ
  delete : InstanceRow → DeprovisionRequest → ρ → Except ProviderError Unit × ρ

/-- Issues and withdraws credentials, with a state of type `σ`. -/
structure AccountManager (σ : Type) where
  create : InstanceRow → String → BindRequest → σ → Except CredentialError Fields × σ
  delete : InstanceRow → BindingRow → σ → Except CredentialError Unit × σ
  join : Fields → InstanceRow → Except CredentialError Fields

/-- Service accounts over a backend that answers calls. -/
def IdentityManager.over {σ : Type} (m : IdentityManager)
    (answer : (call : IdentityCall) → σ → Except CredentialError call.Value × σ) :
    AccountManager σ where
  create _ bindingId request := Program.run answer (m.createCredentials bindingId request).run
  delete _ binding := Program.run answer (m.deleteCredentials binding).run
  join credentials row := (joinCredentials credentials row).mapError .instanceDetails

/-- Database users over a backend that answers calls. -/
def DatabaseManager.over {σ : Type} (m : DatabaseManager)
    (answer : (call : DatabaseCall) → σ → Except CredentialError call.Value × σ) :
    AccountManager σ where
  create row bindingId request := Program.run answer (m.createCredentials row bindingId request).run
  delete row binding := Program.run answer (m.deleteCredentials row binding).run
  join credentials row := (m.joinCredentials credentials row).mapError .instanceDetails

/-- An answer of an account manager as one of its provider. -/
def fromAccounts {α ρ σ : Type} (resources : ρ) (result : Except CredentialError α × σ) :
    Except ProviderError α × ρ × σ :=
  (result.1.mapError .credentials, resources, result.2)

/-- An answer of a resource manager as one of its provider. -/
def fromResources {α ρ σ : Type} (accounts : σ) (result : Except ProviderError α × ρ) :
    Except ProviderError α × ρ × σ :=
  (result.1, result.2, accounts)

/-- The answer of the provider that two managers make. -/
def managedAnswer {ρ σ : Type} (resources : ResourceManager ρ) (accounts : AccountManager σ) :
    (call : ProviderCall) → ρ × σ → Except ProviderError call.Value × ρ × σ
  | .provision instanceId request plan, (r, s) =>
    fromResources s (resources.create instanceId request plan r)
  | .deprovision row request, (r, s) => fromResources s (resources.delete row request r)
  | .bind row bindingId request, (r, s) => fromAccounts r (accounts.create row bindingId request s)
  | .unbind row binding, (r, s) => fromAccounts r (accounts.delete row binding s)
  | .joinCredentials credentials row, s =>
    ((accounts.join credentials row).mapError .credentials, s)
  | .poll _, s => (.error (.notSupported "polling"), s)
  | .wasDelete _, s => (.error (.notSupported "operation lookup"), s)

/-- Resources that exist by being named, with failures that can be scripted. -/
structure NamedResources where
  /-- What is reported about every resource, its plan aside. -/
  metadata : Fields := []
  script : Script ProviderError := []

namespace NamedResources

/-- What is reported about the resource of an instance. -/
def describe (r : NamedResources) (instanceId : String) (plan : Plan) : InstanceMetadata where
  name := "res-" ++ instanceId
  location := "us"
  details := r.metadata.insert "plan" (.str plan.name)

/-- Answers from the script under `name`, or by `value`. -/
def answer {α : Type} (r : NamedResources) (name : String) (value : α) :
    Except ProviderError α × NamedResources :=
  match r.script.next name with
  | (some e, script) => (.error e, { r with script := script })
  | (none, script) => (.ok value, { r with script := script })

def manager : ResourceManager NamedResources where
  create instanceId _ plan r := r.answer "create" (r.describe instanceId plan)
  delete _ _ r := r.answer "delete" ()

end NamedResources

end Brokerage
