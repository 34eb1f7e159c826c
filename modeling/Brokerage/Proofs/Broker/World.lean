import Brokerage.Broker.Operation
import Brokerage.Proofs.Run

/-! The world of a broker: a store, whose calls may fail without effect beside the failures that it
has of itself, and providers, which may answer anything. What an action does in it is told by the
calls that it made to providers, its result, and the store that it leaves. -/

namespace Brokerage

/-- The failures of store calls that have to be reckoned with, the store's own left aside. -/
abbrev Faults : Type := StoreCall → StoreError → Prop

namespace Faults

/-- Any call may fail in any way. -/
def any : Faults := fun _ _ => True

/-- The store does not fail. -/
def none : Faults := fun _ _ => False

/-- Some call may fail. -/
def Possible (faults : Faults) : Prop := ∃ call e, faults call e

theorem not_possible_none : ¬ none.Possible := fun ⟨_, _, h⟩ => h

end Faults

/-- The answers to the calls of a broker. The store answers at any reading of the clock or fails
without effect, and a provider may answer anything. -/
inductive World (faults : Faults) : (call : BrokerCall) → Store → call.Answer → Store → Prop
  | store {s s' : Store} {call : StoreCall} {answer : Except StoreError call.Value}
      (now : Instant) : s.step now call = (answer, s') → World faults (.store call) s answer s'
  | fault {s : Store} {call : StoreCall} {e : StoreError} :
      faults call e → World faults (.store call) s (.error e) s
  | provider {s : Store} {p : Provider} {call : ProviderCall}
      (answer : Except ProviderError call.Value) : World faults (.provider p call) s answer s

/-- A call to a provider with the store at its time and the answer that it got. -/
structure Consultation where
  before : Store
  provider : Provider
  call : ProviderCall
  answer : Except ProviderError call.Value

namespace Consultation

/-- The consultation that an exchange is, if it was not with the store. -/
def ofExchange? : Exchange brokerInterface Store → Option Consultation
  | ⟨s, .provider p call, answer⟩ => some ⟨s, p, call, answer⟩
  | ⟨_, .store _, _⟩ => none

/-- The consultations of a trace. -/
def ofTrace (trace : List (Exchange brokerInterface Store)) : List Consultation :=
  trace.filterMap ofExchange?

end Consultation

/-- An action in the world: the consultations that it makes, its result and the store after it. -/
def Acts (faults : Faults) {α : Type} (p : Action α) (s : Store) (asked : List Consultation)
    (r : Except BrokerError α) (s' : Store) : Prop :=
  ∃ trace, Fallible.Runs (World faults) p s trace r s' ∧ Consultation.ofTrace trace = asked

theorem StoreCall.value_eq (call : StoreCall) :
    call.value = call.result >>= fun answer => Fallible.ofExcept (answer.mapError .store) := by
  refine congrArg (call.result >>= ·) (funext fun answer => ?_)
  cases answer <;> rfl

theorem Provider.value_eq (p : Provider) (call : ProviderCall) :
    p.value call = p.result call >>= fun answer =>
      Fallible.ofExcept (answer.mapError .provider) := by
  refine congrArg (p.result call >>= ·) (funext fun answer => ?_)
  cases answer <;> rfl

namespace Acts

variable {faults : Faults} {α β : Type} {s s' : Store} {asked : List Consultation}

theorem of_pure {a : α} {r : Except BrokerError α} (h : Acts faults (pure a) s asked r s') :
    asked = [] ∧ r = .ok a ∧ s' = s := by
  obtain ⟨trace, h, rfl⟩ := h
  obtain ⟨rfl, rfl, rfl⟩ := Fallible.runs_pure h
  exact ⟨rfl, rfl, rfl⟩

theorem of_throw {e : BrokerError} {r : Except BrokerError α}
    (h : Acts faults (throw e) s asked r s') : asked = [] ∧ r = .error e ∧ s' = s := by
  obtain ⟨trace, h, rfl⟩ := h
  obtain ⟨rfl, rfl, rfl⟩ := Fallible.runs_throw h
  exact ⟨rfl, rfl, rfl⟩

/-- An action that was refused: nobody heard of it, and the store is as it was. -/
def Refused (s : Store) (asked : List Consultation) (r : Except BrokerError α) (s' : Store) :
    Prop :=
  ∃ e : BrokerError, e.isOrphaning = false ∧ asked = [] ∧ r = .error e ∧ s' = s

/-- A failure of the store is told by an error of its own or as it is. -/
theorem Refused.of_throw {p : Bool} {e : BrokerError} {cause : StoreError}
    {r : Except BrokerError α} (orphans : e.isOrphaning = false)
    (h : Acts faults (throw (if p then e else .store cause)) s asked r s') :
    Refused s asked r s' := by
  obtain ⟨rfl, rfl, rfl⟩ := Acts.of_throw h
  exact ⟨_, by split <;> trivial, rfl, rfl, rfl⟩

theorem of_bind {p : Action α} {f : α → Action β} {r : Except BrokerError β} {s'' : Store}
    (h : Acts faults (p >>= f) s asked r s'') :
    (∃ e, r = .error e ∧ Acts faults p s asked (.error e) s'') ∨
      ∃ first last a s', asked = first ++ last ∧ Acts faults p s first (.ok a) s' ∧
        Acts faults (f a) s' last r s'' := by
  obtain ⟨trace, h, rfl⟩ := h
  rcases Fallible.runs_bind h with ⟨e, rfl, hp⟩ | ⟨first, last, a, s', rfl, hp, hf⟩
  · exact .inl ⟨e, rfl, trace, hp, rfl⟩
  · exact .inr ⟨_, _, a, s', List.filterMap_append, ⟨first, hp, rfl⟩, ⟨last, hf, rfl⟩⟩

theorem of_require {p : Bool} {e : BrokerError} {f : Unit → Action α} {r : Except BrokerError α}
    (h : Acts faults (Fallible.require p e >>= f) s asked r s') :
    p = true ∧ Acts faults (f ()) s asked r s' ∨
      p = false ∧ asked = [] ∧ r = .error e ∧ s' = s := by
  cases p with
  | true => exact .inl ⟨rfl, h⟩
  | false =>
    have failed : Acts faults (throw e : Action α) s asked r s' := h
    exact .inr ⟨rfl, of_throw failed⟩

theorem of_ofCatalog {result : Except CatalogError α} {f : α → Action β}
    {r : Except BrokerError β} (h : Acts faults (ofCatalog result >>= f) s asked r s') :
    (∃ a, result = .ok a ∧ Acts faults (f a) s asked r s') ∨
      ∃ e, result = .error e ∧ asked = [] ∧ r = .error (.catalog e) ∧ s' = s := by
  cases result with
  | ok a => exact .inl ⟨a, rfl, h⟩
  | error e =>
    have failed : Acts faults (throw (.catalog e) : Action β) s asked r s' := h
    exact .inr ⟨e, rfl, of_throw failed⟩

/-- What follows a store call gets the store's own answer, or a failure without effect. -/
theorem of_storeResult {call : StoreCall} {f : Except StoreError call.Value → Action α}
    {r : Except BrokerError α} (h : Acts faults (call.result >>= f) s asked r s') :
    (∃ now, Acts faults (f (s.step now call).1) (s.step now call).2 asked r s') ∨
      ∃ e, faults call e ∧ Acts faults (f (.error e)) s asked r s' := by
  obtain ⟨trace, h, rfl⟩ := h
  obtain ⟨answer, t, rest, answered, rfl, followed⟩ := Fallible.runs_call h
  cases answered with
  | store now step => exact .inl ⟨now, rest, by rw [step]; exact followed, rfl⟩
  | fault allowed => exact .inr ⟨_, allowed, rest, followed, rfl⟩

/-- What follows an action that makes a result of the answer to a store call gets that result. -/
theorem of_storeExcept {call : StoreCall} {p : Action α}
    {g : Except StoreError call.Value → Except BrokerError α} {f : α → Action β}
    {r : Except BrokerError β}
    (made : p = call.result >>= fun answer => Fallible.ofExcept (g answer))
    (h : Acts faults (p >>= f) s asked r s') :
    (∃ now, Acts faults (Fallible.ofExcept (g (s.step now call).1) >>= f) (s.step now call).2
        asked r s') ∨
      ∃ e, faults call e ∧
        Acts faults (Fallible.ofExcept (g (.error e)) >>= f) s asked r s' := by
  have sequenced : Acts faults (call.result >>= fun answer =>
      Fallible.ofExcept (g answer) >>= f) s asked r s' := by
    -- A single call makes both ways of bracketing the sequence the same program.
    rw [made] at h
    exact h
  exact of_storeResult sequenced

theorem of_ofExcept {result : Except BrokerError α} {r : Except BrokerError α}
    (h : Acts faults (Fallible.ofExcept result) s asked r s') :
    asked = [] ∧ r = result ∧ s' = s := by
  cases result with
  | ok a => exact of_pure h
  | error e => exact of_throw h

/-- A store call whose failure is one of the action. -/
theorem of_storeValue {call : StoreCall} {f : call.Value → Action α} {r : Except BrokerError α}
    (h : Acts faults (call.value >>= f) s asked r s') :
    (∃ now a, (s.step now call).1 = .ok a ∧ Acts faults (f a) (s.step now call).2 asked r s') ∨
      ∃ e, asked = [] ∧ r = .error (.store e) ∧
        (faults call e ∧ s' = s ∨ ∃ now, s.step now call = (.error e, s')) := by
  rcases of_storeExcept call.value_eq h with ⟨now, followed⟩ | ⟨e, allowed, failed⟩
  · cases step : s.step now call with
    | mk answer t =>
      rw [step] at followed
      cases answer with
      | ok a => exact .inl ⟨now, a, by rw [step], by rw [step]; exact followed⟩
      | error e =>
        obtain ⟨none, rfl, rfl⟩ := of_throw (α := α) followed
        exact .inr ⟨e, none, rfl, .inr ⟨now, step⟩⟩
  · obtain ⟨none, rfl, rfl⟩ := of_throw (α := α) failed
    exact .inr ⟨e, none, rfl, .inl ⟨allowed, rfl⟩⟩

/-- A store call that ends an action gives it its result. -/
theorem of_storeReply {call : StoreCall} {r : Except BrokerError call.Value}
    (h : Acts faults call.value s asked r s') :
    asked = [] ∧ ∃ answer : Except StoreError call.Value, r = answer.mapError .store ∧
      ((∃ now, s.step now call = (answer, s')) ∨
        ∃ e, answer = .error e ∧ faults call e ∧ s' = s) := by
  rw [StoreCall.value_eq] at h
  rcases of_storeResult h with ⟨now, followed⟩ | ⟨e, allowed, followed⟩
  · obtain ⟨none, value, rfl⟩ := of_ofExcept followed
    exact ⟨none, _, value, .inl ⟨now, rfl⟩⟩
  · obtain ⟨none, value, rfl⟩ := of_ofExcept followed
    exact ⟨none, _, value, .inr ⟨e, rfl, allowed, rfl⟩⟩

/-- What follows a call to a provider gets any answer to it. -/
theorem of_providerResult {p : Provider} {call : ProviderCall}
    {f : Except ProviderError call.Value → Action α} {r : Except BrokerError α}
    (h : Acts faults (p.result call >>= f) s asked r s') :
    ∃ answer rest, asked = ⟨s, p, call, answer⟩ :: rest ∧ Acts faults (f answer) s rest r s' := by
  obtain ⟨trace, h, rfl⟩ := h
  obtain ⟨answer, t, rest, answered, rfl, followed⟩ := Fallible.runs_call h
  cases answered
  exact ⟨answer, _, rfl, rest, followed, rfl⟩

/-- A call to a provider that ends an action gives it its result. -/
theorem of_providerReply {p : Provider} {call : ProviderCall}
    {r : Except BrokerError call.Value} (h : Acts faults (p.value call) s asked r s') :
    ∃ answer, asked = [⟨s, p, call, answer⟩] ∧ r = answer.mapError .provider ∧ s' = s := by
  rw [Provider.value_eq] at h
  obtain ⟨answer, rest, rfl, followed⟩ := of_providerResult h
  obtain ⟨rfl, value, rfl⟩ := of_ofExcept followed
  exact ⟨answer, rfl, value, rfl⟩

/-- A call to a provider whose failure is one of the action. -/
theorem of_providerValue {p : Provider} {call : ProviderCall} {f : call.Value → Action α}
    {r : Except BrokerError α} (h : Acts faults (p.value call >>= f) s asked r s') :
    (∃ a rest, asked = ⟨s, p, call, .ok a⟩ :: rest ∧ Acts faults (f a) s rest r s') ∨
      ∃ e, asked = [⟨s, p, call, .error e⟩] ∧ r = .error (.provider e) ∧ s' = s := by
  rw [Provider.value_eq] at h
  have sequenced : Acts faults (p.result call >>= fun answer =>
      Fallible.ofExcept (answer.mapError .provider) >>= f) s asked r s' := h
  obtain ⟨answer, rest, rfl, followed⟩ := of_providerResult sequenced
  cases answer with
  | ok a => exact .inl ⟨a, rest, rfl, followed⟩
  | error e =>
    obtain ⟨rfl, rfl, rfl⟩ := of_throw (α := α) followed
    exact .inr ⟨e, rfl, rfl, rfl⟩

/-- Whatever the providers answer, an action comes to an end. -/
theorem exists_answered (now : Instant)
    (answers : (call : ProviderCall) → Except ProviderError call.Value) (p : Action α) (s : Store) :
    ∃ asked r s', Acts faults p s asked r s' ∧ ∀ c ∈ asked, c.answer = answers c.call := by
  suffices ∀ program : Program brokerInterface (Except BrokerError α), ∀ s, ∃ trace r s',
      Program.Runs (World faults) program s trace r s' ∧
        ∀ c ∈ Consultation.ofTrace trace, c.answer = answers c.call by
    obtain ⟨trace, r, s', runs, told⟩ := this p.run s
    exact ⟨_, r, s', ⟨trace, runs, rfl⟩, told⟩
  intro program
  induction program with
  | done r => exact fun s => ⟨[], r, s, .done, List.forall_mem_nil _⟩
  | ask call next ih =>
    intro s
    cases call with
    | store call =>
      obtain ⟨trace, r, s', runs, told⟩ := ih (s.step now call).1 (s.step now call).2
      exact ⟨_, r, s', .ask (World.store now rfl) runs, told⟩
    | provider provider call =>
      obtain ⟨trace, r, s', runs, told⟩ := ih (answers call) s
      refine ⟨_, r, s', .ask (World.provider _) runs, fun c hc => ?_⟩
      rcases List.mem_cons.mp hc with rfl | hc
      · rfl
      · exact told c hc

end Acts

end Brokerage
