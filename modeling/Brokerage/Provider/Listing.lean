import Brokerage.Account.Policy
import Brokerage.Json.Lookup
import Brokerage.Provider.Backend

/-!
Listings of backends: what they hold, and the calls that they noted.
-/

namespace Brokerage

def ServiceAccount.listed (a : ServiceAccount) : Json :=
  .obj [("name", .str a.name), ("display_name", .str a.displayName), ("email", .str a.email),
    ("unique_id", .str a.uniqueId)]

/-- The accounts are listed by their unique identifiers. -/
def IdentityBackend.listing (s : Scripted IdentityBackend) : Json :=
  let accounts := s.backend.accounts.mergeSort fun a b => !decide (b.uniqueId < a.uniqueId)
  .obj [("policy", .arr (s.backend.policy.map RoleBinding.toJson)),
    ("version", Json.ofNat s.backend.version),
    ("accounts", .arr (accounts.map ServiceAccount.listed)), ("calls", Json.texts s.calls)]

def DatabaseBackend.listing (s : Scripted DatabaseBackend) : Json :=
  .obj [("users", Json.texts s.backend.users), ("certs", Json.texts s.backend.certificates),
    ("polls", .obj (s.backend.polls.map fun (o, n) => (o, Json.ofNat n))),
    ("calls", Json.texts s.calls)]

def Backend.listing : Backend → Json
  | .rehearsal r => .obj [("calls", Json.texts r.calls)]
  | .minimal => .null
  | .identity _ _ accounts => IdentityBackend.listing accounts
  | .database _ _ accounts => DatabaseBackend.listing accounts

def InstanceMetadata.toJson (m : InstanceMetadata) : Json :=
  .obj [("name", .str m.name), ("location", .str m.location), ("url", .str m.url),
    ("other_details", .obj m.details)]

end Brokerage
