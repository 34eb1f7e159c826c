import Brokerage.Broker.Assembly
import Brokerage.Provider.Backend
import Brokerage.Schema.Database

/-!
A session of a broker: a store whose calls can be made to fail, and the backends of its providers by
name. A call that is made to fail does not reach the store.
-/

namespace Brokerage

structure Session where
  store : Store := {}
  /-- The failures in force, by the name of the call. -/
  faults : List (String × StoreError) := []
  backends : List (String × Backend) := []

namespace Session

def setFault (s : Session) (name : String) (e : StoreError) : Session :=
  { s with faults := (name, e) :: s.faults.filter (·.1 != name) }

def clearFault (s : Session) (name : String) : Session :=
  { s with faults := s.faults.filter (·.1 != name) }

/-- Puts a backend in the place of the one under `name`, or after the others. -/
def setBackend (s : Session) (name : String) (b : Backend) : Session :=
  if s.backends.any (·.1 = name) then
    { s with backends := s.backends.map fun (n, old) => (n, if n = name then b else old) }
  else { s with backends := s.backends ++ [(name, b)] }

/-- The answer of the store, unless the call is made to fail. -/
def answerStore (now : Instant) (call : StoreCall) (s : Session) :
    Except StoreError call.Value × Session :=
  match s.faults.lookup call.name with
  | some e => (.error e, s)
  | none =>
    let (result, store) := s.store.step now call
    (result, { s with store := store })

/-- The answer of a provider's backend; a provider without one supports nothing. -/
def answerProvider (p : Provider) (call : ProviderCall) (s : Session) :
    Except ProviderError call.Value × Session :=
  match s.backends.lookup p.name with
  | none => (.error (.notSupported p.name), s)
  | some b =>
    let (result, b) := b.answer call
    (result, s.setBackend p.name b)

def answer (now : Instant) : (call : BrokerCall) → Session → call.Answer × Session
  | .store call, s => s.answerStore now call
  | .provider p call, s => s.answerProvider p call

/-- Runs a step of the broker's work at one reading of the clock. -/
def run {ε α : Type} (s : Session) (now : Instant) (program : Fallible brokerInterface ε α) :
    Except ε α × Session :=
  Program.run (answer now) program.run s

/-- Performs an operation. -/
def perform (s : Session) (d : Deployment) (now : Instant) (op : Operation) :
    Except BrokerError Response × Session :=
  s.run now (d.perform now op)

end Session

end Brokerage
