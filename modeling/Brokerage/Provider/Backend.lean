import Brokerage.Provider.Managed
import Brokerage.Provider.Minimal
import Brokerage.Provider.Rehearsal

/-!
The providers that this library can stand in for, each with the state of its backend.
-/

namespace Brokerage

inductive Backend where
  | rehearsal (state : Rehearsal)
  | minimal
  | identity (manager : IdentityManager) (resources : NamedResources)
      (accounts : Scripted IdentityBackend)
  | database (manager : DatabaseManager) (resources : NamedResources)
      (accounts : Scripted DatabaseBackend)

namespace Backend

def answer (call : ProviderCall) : Backend → Except ProviderError call.Value × Backend
  | rehearsal state =>
    let (result, state) := state.answer call
    (result, rehearsal state)
  | minimal => (minimalAnswer call, minimal)
  | identity m resources accounts =>
    let (result, resources, accounts) :=
      managedAnswer NamedResources.manager (m.over Scripted.answerIdentity) call
        (resources, accounts)
    (result, identity m resources accounts)
  | database m resources accounts =>
    let (result, resources, accounts) :=
      managedAnswer NamedResources.manager (m.over Scripted.answerDatabase) call
        (resources, accounts)
    (result, database m resources accounts)

end Backend

end Brokerage
