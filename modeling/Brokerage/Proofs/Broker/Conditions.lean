import Brokerage.Proofs.Broker.Poll

/-! Actions under conditions that leave nothing open: what providers answer, which calls to the
store fail, and what its clock says. Two runs of one action can then be compared. -/

namespace Brokerage

/-- What providers answer to what they are told and asked. -/
abbrev Answers : Type := Provider → (call : ProviderCall) → Except ProviderError call.Value

/-- What decides how an action goes, besides the store. -/
structure Conditions where
  time : Instant
  answers : Answers
  /-- The failure of a call; the store does what it is told if there is none. -/
  fault? : StoreCall → Option StoreError

/-- Calls that are told to change the store. -/
def StoreCall.writes : StoreCall → Bool
  | createInstance _ | claimInstance _ _ | saveInstance _ | softDeleteInstance _
  | releaseInstanceClaim _ | createBinding _ | saveBinding _ | releaseBindingClaim _
  | softDeleteBinding _ _ | createRequest _ | createPlan _ => true
  | countInstances _ | countAllInstances | getInstance _ | getInstanceIncludingDeleted _
  | isInstanceSoftDeleted _ | countBindings _ _ | getBinding _ _
  | getBindingIncludingDeleted _ _ | isBindingSoftDeleted _ _ | listRequests _ | getPlan _ _
  | healthCheck => false

namespace Conditions

/-- The store does what it is told. -/
def sound (time : Instant) (answers : Answers) : Conditions := ⟨time, answers, fun _ => none⟩

/-- The store can be read only. -/
def unwritable (time : Instant) (answers : Answers) (cause : StoreCall → StoreError) : Conditions :=
  ⟨time, answers, fun call => if call.writes then some (cause call) else none⟩

/-- The answer to a call, with the store after it: the same one if the call fails. -/
def answer (c : Conditions) : (call : BrokerCall) → Store → call.Answer × Store
  | .store call, s =>
    match c.fault? call with
    | some e => (.error e, s)
    | none => s.step c.time call
  | .provider p call, s => (c.answers p call, s)

/-- The result of an action, with the store after it. -/
def run {α : Type} (c : Conditions) (p : Action α) (s : Store) : Except BrokerError α × Store :=
  Program.run c.answer p.run s

variable {α β : Type} {c : Conditions} {s : Store}

theorem run_bind_of_ok {p : Action α} {a : α} {t : Store} (f : α → Action β)
    (ran : c.run p s = (.ok a, t)) : c.run (p >>= f) s = c.run (f a) t :=
  Fallible.run_bind_of_ok f ran

theorem run_providerResult (p : Provider) (call : ProviderCall)
    (f : Except ProviderError call.Value → Action α) :
    c.run (p.result call >>= f) s = c.run (f (c.answers p call)) s := rfl

theorem run_storeResult_of_fault {call : StoreCall} {e : StoreError}
    (fault : c.fault? call = some e) : c.run call.result s = (.ok (.error e), s) := by
  have asked : c.run call.result s =
      (.ok (c.answer (.store call) s).1, (c.answer (.store call) s).2) := rfl
  rw [asked, answer, fault]

theorem run_storeResult {call : StoreCall} (works : c.fault? call = none) :
    c.run call.result s = (.ok (s.step c.time call).1, (s.step c.time call).2) := by
  have asked : c.run call.result s =
      (.ok (c.answer (.store call) s).1, (c.answer (.store call) s).2) := rfl
  rw [asked, answer, works]

/-- The look-up of a live instance. -/
theorem run_liveInstance {id : String} {row : InstanceRow}
    (readable : c.fault? (.getInstance id) = none) (live : s.liveInstance? id = some row) :
    c.run (liveInstance id) s = (.ok row, s) := by
  have looked := run_storeResult (s := s) readable
  rw [Store.step_getInstance, Store.getInstance, live] at looked
  rw [liveInstance_eq, run_bind_of_ok _ looked]
  rfl

end Conditions

end Brokerage
