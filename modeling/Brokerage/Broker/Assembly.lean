import Brokerage.Broker.Operation

/-!
Putting a broker together from its parts: a store and a registry, which it needs, and settings that
have defaults. The legacy plans are looked up in the store when the parts are put together.
-/

namespace Brokerage

structure Assembly where
  hasStore : Bool := false
  registry? : Option (Registry Provider) := none
  instanceLimit : Option Nat := none
  claimTimeout : Nat := 600
  candidates : List UpgradeCandidate := []

inductive AssemblyError where
  | storeRequired
  | registryRequired
  /-- The legacy plans cannot be read. -/
  | plans (cause : BrokerError)
  deriving DecidableEq, Repr

def AssemblyError.message : AssemblyError → String
  | storeRequired => "store is required"
  | registryRequired => "registry is required"
  | plans cause => cause.message

/-- The broker that the parts make, with the upgrades of its legacy plans. -/
def Assembly.build (a : Assembly) : Fallible brokerInterface AssemblyError Deployment :=
  if !a.hasStore then throw .storeRequired
  else
    match a.registry? with
    | none => throw .registryRequired
    | some registry =>
      let broker : Broker := ⟨registry, a.instanceLimit, a.claimTimeout⟩
      ExceptT.mk ((UpgradeCandidate.resolveAll a.candidates).run >>= fun
        | .ok paths => return .ok (.upgrading ⟨broker, paths⟩)
        | .error e => return .error (.plans e))

end Brokerage
