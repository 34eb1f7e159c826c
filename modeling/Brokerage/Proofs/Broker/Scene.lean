import Brokerage.Proofs.Reports
import Brokerage.Proofs.Store.Edits
import Brokerage.Proofs.Subject

/-! Scenes: a store that does not fail, and providers whose answers about an instance depend on
nothing that they were told about others. Two runs that begin in scenes which look the same from one
instance are compared step by step: they have the same result if, at each step, both stores have been
edited in the same way, and providers have been told the same. -/

namespace Brokerage

/-- A call that a provider got. -/
structure Instruction where
  provider : Provider
  call : ProviderCall

/-- What providers answer. An answer depends on the calls about the same instance that came before,
the latest first, to whichever provider. -/
abbrev LocalAnswers : Type :=
  List Instruction → Provider → (call : ProviderCall) → Except ProviderError call.Value

/-- A store, and what providers have been told so far, the latest first. -/
structure Scene where
  store : Store
  told : List Instruction := []

namespace Scene

/-- What providers have been told about an instance. -/
def toldOf (w : Scene) (id : String) : List Instruction := w.told.filter (·.call.instanceId = id)

/-- The answer to a call, with the scene after it. -/
def answer (now : Instant) (answers : LocalAnswers) :
    (call : BrokerCall) → Scene → call.Answer × Scene
  | .store call, w => ((w.store.step now call).1, { w with store := (w.store.step now call).2 })
  | .provider p call, w =>
    (answers (w.toldOf call.instanceId) p call, { w with told := ⟨p, call⟩ :: w.told })

/-- The result of an action, with the scene after it. -/
def run (now : Instant) (answers : LocalAnswers) {α : Type} (p : Action α) (w : Scene) :
    Except BrokerError α × Scene :=
  Program.run (answer now answers) p.run w

section Run

variable {now : Instant} {answers : LocalAnswers} {α β : Type} {w w' : Scene}

theorem run_bind_of_ok {p : Action α} {a : α} (f : α → Action β)
    (ran : run now answers p w = (.ok a, w')) :
    run now answers (p >>= f) w = run now answers (f a) w' :=
  Fallible.run_bind_of_ok f ran

theorem run_bind_of_error {p : Action α} {e : BrokerError} (f : α → Action β)
    (ran : run now answers p w = (.error e, w')) :
    run now answers (p >>= f) w = (.error e, w') :=
  Fallible.run_bind_of_error f ran

theorem run_storeResult (call : StoreCall) : run now answers call.result w =
    (.ok (w.store.step now call).1, { w with store := (w.store.step now call).2 }) := rfl

theorem run_providerResult (p : Provider) (call : ProviderCall) :
    run now answers (p.result call) w =
      (.ok (answers (w.toldOf call.instanceId) p call), { w with told := ⟨p, call⟩ :: w.told }) :=
  rfl

theorem run_of_done {p : Action α} {r : Except BrokerError α} (done : p.run = .done r) (w : Scene) :
    run now answers p w = (r, w) := by
  rw [run, done]
  rfl

/-- The answer of a look-up for the one row that there may be. -/
def found {ρ : Type} (row? : Option ρ) (e : BrokerError) : Except BrokerError ρ :=
  match row? with
  | some row => .ok row
  | none => .error e

theorem run_liveInstance (id : String) (w : Scene) : run now answers (liveInstance id) w =
    (found (w.store.liveInstance? id) (.instanceDoesNotExist id), w) := by
  rw [liveInstance_eq, run_bind_of_ok _ (run_storeResult _), Store.step_getInstance,
    Store.getInstance]
  cases w.store.liveInstance? id <;> rfl

theorem run_liveBinding (id bindingId : String) (w : Scene) :
    run now answers (Broker.liveBinding id bindingId) w =
      (found (w.store.liveBinding? id bindingId) (.bindingDoesNotExist id bindingId), w) := by
  rw [Broker.liveBinding_eq, run_bind_of_ok _ (run_storeResult _), Store.step_getBinding,
    Store.getBinding]
  cases w.store.liveBinding? id bindingId <;> rfl

/-- What no call to the store breaks, a run keeps. -/
theorem run_keeps {P : Store → Prop} (step : ∀ s call, P s → P (s.step now call).2) (p : Action α)
    (w : Scene) (holds : P w.store) : P (run now answers p w).2.store := by
  obtain ⟨p, rfl⟩ : ∃ q, p = ExceptT.mk q := ⟨p.run, rfl⟩
  induction p generalizing w with
  | done r => exact holds
  | ask call next ih =>
    refine ih (answer now answers call w).1 (answer now answers call w).2 ?_
    cases call with
    | store call => exact step w.store call holds
    | provider => exact holds

end Run

/-- Two scenes look the same from an instance. -/
structure Alike (id : String) (w v : Scene) : Prop where
  store : w.store.Alike id v.store
  told : w.toldOf id = v.toldOf id

theorem Alike.refl (id : String) (w : Scene) : Alike id w w := ⟨⟨rfl, rfl⟩, rfl⟩

end Scene

/-- How far an action about an instance has come: what it has made of the store, and what it has told
providers, the latest first. -/
structure Progress (id : String) where
  edit : Edit
  told : List Instruction
  edits : edit.About id
  tells : ∀ c ∈ told, c.call.instanceId = id

namespace Progress

variable {id : String}

/-- Nothing was done yet. -/
def start (id : String) : Progress id := ⟨.keep, [], trivial, List.forall_mem_nil _⟩

def tell (g : Progress id) (p : Provider) (call : ProviderCall) (about : call.instanceId = id) :
    Progress id :=
  { g with told := ⟨p, call⟩ :: g.told, tells := List.forall_mem_cons.mpr ⟨about, g.tells⟩ }

def edited (g : Progress id) (e : Edit) (about : e.About id) : Progress id :=
  { g with edit := e, edits := about }

end Progress

namespace Scene

/-- The scene once an action has come so far. -/
def after {id : String} (w : Scene) (g : Progress id) : Scene :=
  ⟨g.edit.apply w.store, g.told ++ w.told⟩

theorem Alike.toldOf_after {id : String} {w v : Scene} (alike : Alike id w v) (g : Progress id) :
    (w.after g).toldOf id = (v.after g).toldOf id := by
  have same : w.told.filter (·.call.instanceId = id) = v.told.filter (·.call.instanceId = id) :=
    alike.told
  rw [toldOf, toldOf, after, after, List.filter_append, List.filter_append, same]

/-- An action about one instance leaves a scene that looks the same from every other. -/
theorem alike_after {id k : String} (w : Scene) (g : Progress id) (other : k ≠ id) :
    Alike k w (w.after g) where
  store := Edit.alike_apply_ne g.edits other
  told := by
    have others : g.told.filter (·.call.instanceId = k) = [] := by
      refine List.filter_eq_nil_iff.mpr fun c hc => ?_
      simp [g.tells c hc, Ne.symm other]
    rw [toldOf, toldOf, after, List.filter_append, others, List.nil_append]

/-- Two actions, run from two scenes after the same progress, have the same result and make the same
progress. -/
def Parallel (now : Instant) (answers : LocalAnswers) {id : String} (w v : Scene) (g : Progress id)
    {α : Type} (p p' : Action α) : Prop :=
  ∃ r, ∃ g' : Progress id,
    run now answers p (w.after g) = (r, w.after g') ∧
      run now answers p' (v.after g) = (r, v.after g')

namespace Parallel

variable {now : Instant} {answers : LocalAnswers} {id : String} {w v : Scene} {α β : Type}
  {g : Progress id}

theorem done {p p' : Action α} {r : Except BrokerError α} (first : p.run = .done r)
    (second : p'.run = .done r) : Parallel now answers w v g p p' :=
  ⟨r, g, run_of_done first _, run_of_done second _⟩

/-- Actions that come to the same, and what follows on them. -/
theorem bind {p p' : Action α} {f f' : α → Action β} {g' : Progress id} {r : Except BrokerError α}
    (hw : run now answers p (w.after g) = (r, w.after g'))
    (hv : run now answers p' (v.after g) = (r, v.after g'))
    (next : ∀ a, r = .ok a → Parallel now answers w v g' (f a) (f' a)) :
    Parallel now answers w v g (p >>= f) (p' >>= f') := by
  cases r with
  | ok a =>
    rw [Parallel, run_bind_of_ok f hw, run_bind_of_ok f' hv]
    exact next a rfl
  | error e => exact ⟨.error e, g', run_bind_of_error f hw, run_bind_of_error f' hv⟩

theorem lookUp {ρ : Type} {p : Action ρ} {row? : Scene → Option ρ} {e : BrokerError}
    {f : ρ → Action α} (looks : ∀ u, run now answers p u = (found (row? u) e, u))
    (same : row? (w.after g) = row? (v.after g))
    (next : ∀ row, row? (w.after g) = some row → row? (v.after g) = some row →
      Parallel now answers w v g (f row) (f row)) :
    Parallel now answers w v g (p >>= f) (p >>= f) := by
  refine bind (looks _) (same ▸ looks (v.after g)) fun row looked => ?_
  cases held : row? (w.after g) with
  | none =>
    rw [held] at looked
    cases looked
  | some row =>
    rw [held] at looked
    cases looked
    exact next row held (same ▸ held)

theorem readValue {call : StoreCall} {a : call.Value} {f : call.Value → Action α}
    (hw : (w.after g).store.step now call = (.ok a, (w.after g).store))
    (hv : (v.after g).store.step now call = (.ok a, (v.after g).store))
    (next : Parallel now answers w v g (f a) (f a)) :
    Parallel now answers w v g (call.value >>= f) (call.value >>= f) := by
  have valued : ∀ u : Scene, u.store.step now call = (.ok a, u.store) →
      run now answers call.value u = (.ok a, u) := by
    intro u stepped
    rw [StoreCall.value_eq, run_bind_of_ok _ (run_storeResult call), stepped]
    rfl
  refine bind (valued _ hw) (valued _ hv) fun a' same => ?_
  cases same
  exact next

theorem require {p : Bool} {e : BrokerError} {f : Unit → Action α}
    (next : Parallel now answers w v g (f ()) (f ())) :
    Parallel now answers w v g (Fallible.require p e >>= f) (Fallible.require p e >>= f) := by
  cases p with
  | true => exact next
  | false => exact done (r := .error e) rfl rfl

theorem ofCatalog {result : Except CatalogError α} {f : α → Action β}
    (next : ∀ a, Parallel now answers w v g (f a) (f a)) :
    Parallel now answers w v g (Brokerage.ofCatalog result >>= f)
      (Brokerage.ofCatalog result >>= f) := by
  cases result with
  | ok a => exact next a
  | error e => exact done (r := .error (.catalog e)) rfl rfl

/-- A provider gives the same answer in both runs. -/
theorem ask (alike : Alike id w v) {p : Provider} {call : ProviderCall}
    (about : call.instanceId = id) {f f' : Except ProviderError call.Value → Action α}
    (next : ∀ answer, Parallel now answers w v (g.tell p call about) (f answer) (f' answer)) :
    Parallel now answers w v g (p.result call >>= f) (p.result call >>= f') := by
  have same : (w.after g).toldOf call.instanceId = (v.after g).toldOf call.instanceId := by
    rw [about]
    exact alike.toldOf_after g
  have second : run now answers (p.result call) (v.after g) =
      (.ok (answers ((w.after g).toldOf call.instanceId) p call),
        v.after (g.tell p call about)) := by
    rw [same]
    rfl
  exact bind (run_providerResult p call) second fun answer _ => next answer

theorem askValue (alike : Alike id w v) {p : Provider} {call : ProviderCall}
    (about : call.instanceId = id) {f : call.Value → Action α}
    (next : ∀ a, Parallel now answers w v (g.tell p call about) (f a) (f a)) :
    Parallel now answers w v g (p.value call >>= f) (p.value call >>= f) := by
  rw [Provider.value_eq]
  -- A single call makes both ways of bracketing the sequence the same program.
  show Parallel now answers w v g
    (p.result call >>= fun answer => Fallible.ofExcept (answer.mapError .provider) >>= f)
    (p.result call >>= fun answer => Fallible.ofExcept (answer.mapError .provider) >>= f)
  refine ask alike about fun answer => ?_
  cases answer with
  | ok a => exact next a
  | error e => exact done (r := .error (.provider e)) rfl rfl

theorem reply (alike : Alike id w v) {p : Provider} {call : ProviderCall}
    (about : call.instanceId = id) :
    Parallel now answers w v g (p.value call) (p.value call) := by
  rw [Provider.value_eq]
  refine ask alike about fun answer => ?_
  cases answer with
  | ok a => exact done (r := .ok a) rfl rfl
  | error e => exact done (r := .error (.provider e)) rfl rfl

theorem map {p p' : Action α} (f : α → β) (ran : Parallel now answers w v g p p') :
    Parallel now answers w v g (p >>= fun a => pure (f a)) (p' >>= fun a => pure (f a)) := by
  obtain ⟨r, g', hw, hv⟩ := ran
  exact bind hw hv fun a _ => done (r := .ok (f a)) rfl rfl

/-- Calls that edit both stores in the same way. -/
theorem write {call call' : StoreCall} {answer : Except StoreError call.Value}
    {answer' : Except StoreError call'.Value} {f : Except StoreError call.Value → Action α}
    {f' : Except StoreError call'.Value → Action α} {e : Edit} (about : e.About id)
    (hw : (g.edit.apply w.store).step now call = (answer, e.apply w.store))
    (hv : (g.edit.apply v.store).step now call' = (answer', e.apply v.store))
    (next : Parallel now answers w v (g.edited e about) (f answer) (f' answer')) :
    Parallel now answers w v g (call.result >>= f) (call'.result >>= f') := by
  have first : run now answers call.result (w.after g) =
      (.ok answer, w.after (g.edited e about)) := by
    rw [run_storeResult, after, hw]
    rfl
  have second : run now answers call'.result (v.after g) =
      (.ok answer', v.after (g.edited e about)) := by
    rw [run_storeResult, after, hv]
    rfl
  rw [Parallel, run_bind_of_ok f first, run_bind_of_ok f' second]
  exact next

section Start

variable (alike : Alike id w v)
include alike

theorem liveInstance {f : InstanceRow → Action α}
    (next : ∀ row, w.store.liveInstance? id = some row → v.store.liveInstance? id = some row →
      Parallel now answers w v (.start id) (f row) (f row)) :
    Parallel now answers w v (.start id) (Brokerage.liveInstance id >>= f)
      (Brokerage.liveInstance id >>= f) :=
  lookUp (run_liveInstance id) alike.store.liveInstance? next

theorem liveBinding {bindingId : String} {f : BindingRow → Action α}
    (next : ∀ row, w.store.liveBinding? id bindingId = some row →
      v.store.liveBinding? id bindingId = some row →
      Parallel now answers w v (.start id) (f row) (f row)) :
    Parallel now answers w v (.start id) (Broker.liveBinding id bindingId >>= f)
      (Broker.liveBinding id bindingId >>= f) :=
  lookUp (run_liveBinding id bindingId) alike.store.liveBinding? next

end Start

end Parallel

end Scene

end Brokerage
