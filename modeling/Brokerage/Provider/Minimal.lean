import Brokerage.Provider.Basic

/-!
A provider that has nothing to do: whatever it is asked succeeds, and it cannot be polled.
-/

namespace Brokerage

/-- The answer of a provider that does what it must and no more. -/
def minimalAnswer : (call : ProviderCall) → Except ProviderError call.Value
  | .provision _ _ _ => .ok {}
  | .deprovision _ _ => .ok ()
  | .bind _ _ _ => .ok []
  | .unbind _ _ => .ok ()
  | .joinCredentials credentials row => joinPlain credentials row
  | .poll _ => .error (.notSupported "polling")
  | .wasDelete _ => .error (.notSupported "operation lookup")

end Brokerage
