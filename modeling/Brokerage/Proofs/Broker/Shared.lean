import Brokerage.Proofs.Broker.World
import Brokerage.Proofs.Store.History

/-! A store that a broker shares. Other callers may make any calls to it between two calls of an
operation, so that the operation finds there what a history has made of what it left. -/

namespace Brokerage

/-- A call of a broker to its store is one of the ways in which a call may be made. -/
theorem World.made {faults : Faults} {call : StoreCall} {s s' : Store}
    {answer : Except StoreError call.Value} (h : World faults (.store call) s answer s') :
    Transaction.Made ⟨call, s, answer, s'⟩ := by
  cases h with
  | store now step => exact .answered now step
  | fault => exact .failed _

/-- The answers to the calls of a broker before which others may have called its store. -/
inductive Shared (faults : Faults) : (call : BrokerCall) → Store → call.Answer → Store → Prop
  | after {s t s' : Store} {h : List Transaction} {call : BrokerCall} {answer : call.Answer}
      (others : Store.History s h t) (answered : World faults call t answer s') :
      Shared faults call s answer s'

/-- While `P` holds, the action asks no provider, whoever else calls the store, and its result is
among those in `Q`. -/
def Quiet {α : Type} (faults : Faults) (P : Store → Prop) (p : Action α)
    (Q : Except BrokerError α → Prop) : Prop :=
  ∀ s trace r s', P s → Fallible.Runs (Shared faults) p s trace r s' →
    Consultation.ofTrace trace = [] ∧ P s' ∧ Q r

namespace Quiet

variable {faults : Faults} {P : Store → Prop} {α β : Type} {p : Action α}
  {Q : Except BrokerError α → Prop}

theorem ofExcept (result : Except BrokerError α) :
    Quiet faults P (Fallible.ofExcept result) (· = result) := by
  intro s trace r s' holds runs
  cases runs
  exact ⟨rfl, holds, rfl⟩

theorem bind {f : α → Action β} {R : Except BrokerError β → Prop} (first : Quiet faults P p Q)
    (fails : ∀ e, Q (.error e) → R (.error e))
    (goesOn : ∀ a, Q (.ok a) → Quiet faults P (f a) R) : Quiet faults P (p >>= f) R := by
  intro s trace r s' holds runs
  rcases Fallible.runs_bind runs with ⟨e, rfl, failed⟩ | ⟨before, after, a, t, rfl, runs, rest⟩
  · obtain ⟨silent, kept, result⟩ := first _ _ _ _ holds failed
    exact ⟨silent, kept, fails e result⟩
  · obtain ⟨silent, kept, result⟩ := first _ _ _ _ holds runs
    obtain ⟨silent', kept', result'⟩ := goesOn a result _ _ _ _ kept rest
    refine ⟨?_, kept', result'⟩
    rw [Consultation.ofTrace, List.filterMap_append, ← Consultation.ofTrace,
      ← Consultation.ofTrace, silent, silent', List.append_nil]

/-- A call to the store gets an answer that it gets in some store that `P` holds of, or fails. -/
theorem result (stable : Store.Stable P) (call : StoreCall) :
    Quiet faults P call.result fun r => ∃ answer, r = .ok answer ∧
      ((∃ t now, P t ∧ answer = (t.step now call).1) ∨ ∃ e, answer = .error e) := by
  intro s trace r s' holds runs
  have asked : Program.Runs (I := brokerInterface) (Shared faults)
      (.ask (BrokerCall.store call) fun answer => .done (.ok answer)) s trace r s' := runs
  cases asked with
  | ask answered rest =>
    cases rest
    cases answered with
    | after others answered =>
      have found := others.keeps stable holds
      refine ⟨rfl, answered.made.keeps stable found, _, rfl, ?_⟩
      cases answered with
      | store now step => exact .inl ⟨_, now, found, by rw [step]⟩
      | fault => exact .inr ⟨_, rfl⟩

theorem weaken {R : Except BrokerError α → Prop} (quiet : Quiet faults P p Q)
    (weaker : ∀ r, Q r → R r) : Quiet faults P p R := by
  intro s trace r s' holds runs
  obtain ⟨silent, kept, result⟩ := quiet _ _ _ _ holds runs
  exact ⟨silent, kept, weaker r result⟩

theorem value (stable : Store.Stable P) (call : StoreCall) :
    Quiet faults P call.value fun _ => True := by
  rw [StoreCall.value_eq]
  exact (result stable call).bind (fun _ _ => trivial) fun _ _ =>
    (ofExcept _).weaken fun _ _ => trivial

theorem require (h : Bool) (e : BrokerError) :
    Quiet faults P (Fallible.require h e) fun _ => True := by
  cases h with
  | true => exact (ofExcept (.ok ())).weaken fun _ _ => trivial
  | false => exact (ofExcept (.error e)).weaken fun _ _ => trivial

end Quiet

end Brokerage
