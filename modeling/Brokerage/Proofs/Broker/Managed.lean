import Brokerage.Proofs.Broker.Performance
import Brokerage.Proofs.Rollback
import Brokerage.Provider.Managed

/-! A broker over a store that does not fail and providers that keep a state. A bind that a provider
may be told about succeeds if it issues and joins credentials; if it does not issue any, the store is
left as if there had been no bind. An unbind succeeds if the provider withdraws the credentials, and
leaves the store as it was if it does not. -/

namespace Brokerage

abbrev ProviderAnswers (τ : Type) : Type :=
  (call : ProviderCall) → τ → Except ProviderError call.Value × τ

/-- How the calls of a broker are answered by a store that does not fail and by providers. -/
def serve {τ : Type} (now : Instant) (answer : ProviderAnswers τ) :
    (call : BrokerCall) → Store × τ → call.Answer × Store × τ
  | .store call, (s, t) => ((s.step now call).1, (s.step now call).2, t)
  | .provider _ call, (s, t) => ((answer call t).1, s, (answer call t).2)

/-- The consultations that are answered on the way from one state of the providers to another. -/
def Consulted {τ : Type} (answer : ProviderAnswers τ) : List Consultation → τ → τ → Prop
  | [], t, t' => t' = t
  | c :: rest, t, t' =>
    c.answer = (answer c.call t).1 ∧ Consulted answer rest (answer c.call t).2 t'

theorem consulted_cons {τ : Type} {answer : ProviderAnswers τ} {s : Store} {p : Provider}
    {call : ProviderCall} {a : Except ProviderError call.Value} {rest : List Consultation}
    {t t' : τ} : Consulted answer (⟨s, p, call, a⟩ :: rest) t t' ↔
      a = (answer call t).1 ∧ Consulted answer rest (answer call t).2 t' := Iff.rfl

/-- What is done over a store and providers is done in the world, by the answers that they give. -/
theorem acts_of_serve {τ α : Type} {now : Instant} {answer : ProviderAnswers τ} {p : Action α}
    {r : Except BrokerError α} {s s' : Store} {t t' : τ}
    (ran : Program.run (serve now answer) p.run (s, t) = (r, s', t')) :
    ∃ asked, Acts .none p s asked r s' ∧ Consulted answer asked t t' := by
  -- The world allows every answer of a provider, and of a store that does not fail its own only.
  obtain ⟨p, rfl⟩ : ∃ q, p = ExceptT.mk q := ⟨p.run, rfl⟩
  induction p generalizing s t with
  | done r =>
    cases ran
    exact ⟨[], ⟨[], .done, rfl⟩, rfl⟩
  | ask call next ih =>
    cases call with
    | store call =>
      obtain ⟨asked, ⟨trace, runs, rfl⟩, consulted⟩ := ih _ ran
      exact ⟨_, ⟨_, .ask (World.store now rfl) runs, rfl⟩, consulted⟩
    | provider provider call =>
      obtain ⟨asked, ⟨trace, runs, rfl⟩, consulted⟩ := ih _ ran
      exact ⟨_, ⟨_, .ask (World.provider _) runs, rfl⟩, rfl, consulted⟩

namespace Store

/-- The store once a claim of a binding has been released. Its number is not given again. -/
def skipped (s : Store) : Store := { s with lastBindingId := s.lastBindingId + 1 }

variable {s : Store}

theorem sameRows_skipped : s.SameRows s.skipped := ⟨rfl, rfl, rfl⟩

theorem NumberedBindings.skipped (numbers : s.NumberedBindings) : s.skipped.NumberedBindings :=
  fun row held => Int.le_trans (numbers row held) (Int.le_add_one (Int.le_refl _))

end Store

namespace Broker

/-- Binds over a provider that two managers make. -/
def bindOver {ρ σ : Type} (b : Broker) (resources : ResourceManager ρ) (accounts : AccountManager σ)
    (now : Instant) (id bindingId : String) (request : BindRequest) :
    Store × ρ × σ → Except BrokerError Response × Store × ρ × σ :=
  Program.run (serve now (managedAnswer resources accounts))
    (b.perform now (.bind id bindingId request)).run

def BindsOver {ρ σ : Type} (b : Broker) (resources : ResourceManager ρ)
    (accounts : AccountManager σ) (now : Instant) (id bindingId : String) (request : BindRequest)
    (w : Store × ρ × σ) : Prop :=
  ∃ response after, b.bindOver resources accounts now id bindingId request w = (.ok response, after)

section Bind

variable {ρ σ : Type} {b : Broker} {resources : ResourceManager ρ} {accounts : AccountManager σ}
  {now : Instant} {id bindingId : String} {request : BindRequest} {s s' : Store} {x x' : ρ}
  {t t' : σ}

theorem ok_of_mapError {α ε ε' : Type} {f : ε → ε'} {r : Except ε α} {a : α}
    (mapped : r.mapError f = .ok a) : r = .ok a := by
  cases r with
  | ok => cases mapped; rfl
  | error => cases mapped

/-- A bind that succeeded got credentials, and could join them. -/
theorem BindsOver.issued
    (binds : b.BindsOver resources accounts now id bindingId request (s, x, t)) :
    ∃ row provider credentials t' joined, b.MayBind id bindingId request s row provider ∧
      accounts.create row bindingId request t = (.ok credentials, t') ∧
      accounts.join credentials row = .ok joined := by
  obtain ⟨response, ⟨s', x', t'⟩, bound⟩ := binds
  obtain ⟨asked, acts, consulted⟩ := acts_of_serve bound
  obtain ⟨r, made, acted⟩ := Acts.of_map acts
  cases Binding.of_acts acted with
  | refused | failed | orphaned => cases made
  | @bound row provider credentials saved may answer =>
    obtain ⟨created, joins, left⟩ := consulted
    cases left
    cases answer with
    | error => cases made
    | ok joined =>
      have issued := ok_of_mapError created.symm
      exact ⟨row, provider, credentials, _, joined, may, Prod.ext issued rfl,
        ok_of_mapError joins.symm⟩

variable {row : InstanceRow} {provider : Provider}

/-- Where no credentials are issued, the claim is released and nothing else has happened to the
store. -/
theorem MayBind.bindOver_of_error {e : CredentialError} (numbers : s.NumberedBindings)
    (may : b.MayBind id bindingId request s row provider)
    (failed : accounts.create row bindingId request t = (.error e, t')) :
    b.bindOver resources accounts now id bindingId request (s, x, t) =
      (.error (.provider (.credentials e)), s.skipped, x, t') := by
  have answered : managedAnswer resources accounts (.bind row bindingId request) (x, t) =
      (.error (.credentials e), x, t') := congrArg (fromAccounts x) failed
  rcases ran : b.bindOver resources accounts now id bindingId request (s, x, t) with ⟨_, s', w⟩
  obtain ⟨asked, acts, consulted⟩ := acts_of_serve ran
  obtain ⟨r, rfl, acted⟩ := Acts.of_map acts
  -- Of the courses of a bind, only the one in which the provider fails is left.
  cases Binding.of_acts acted with
  | refused _ cause => exact absurd may (cause.resolve_left Faults.not_possible_none row provider)
  | failed may' released =>
    cases may.live.symm.trans may'.live
    rw [consulted_cons, answered] at consulted
    obtain ⟨⟨⟩, left⟩ := consulted
    have released := released.resolve_right fun fault => Faults.not_possible_none fault.1
    rw [released, left, reserved, Store.releaseBindingClaim_withBinding numbers rfl]
    rfl
  | orphaned _ fault => exact absurd fault Faults.not_possible_none
  | bound _ may' =>
    cases may.live.symm.trans may'.live
    rw [consulted_cons, answered] at consulted
    obtain ⟨⟨⟩, -⟩ := consulted

theorem MayBind.bindsOver {credentials joined : Fields}
    (may : b.MayBind id bindingId request s row provider)
    (created : accounts.create row bindingId request t = (.ok credentials, t'))
    (joins : accounts.join credentials row = .ok joined) :
    b.BindsOver resources accounts now id bindingId request (s, x, t) := by
  have answered : managedAnswer resources accounts (.bind row bindingId request) (x, t) =
      (.ok credentials, x, t') := congrArg (fromAccounts x) created
  have shown : managedAnswer resources accounts (.joinCredentials credentials row) (x, t') =
      (.ok joined, x, t') := congrArg (·.mapError ProviderError.credentials, x, t') joins
  rcases ran : b.bindOver resources accounts now id bindingId request (s, x, t) with ⟨_, s', w⟩
  obtain ⟨asked, acts, consulted⟩ := acts_of_serve ran
  obtain ⟨r, rfl, acted⟩ := Acts.of_map acts
  cases Binding.of_acts acted with
  | refused _ cause => exact absurd may (cause.resolve_left Faults.not_possible_none row provider)
  | failed may' =>
    cases may.live.symm.trans may'.live
    rw [consulted_cons, answered] at consulted
    obtain ⟨⟨⟩, -⟩ := consulted
  | orphaned _ fault => exact absurd fault Faults.not_possible_none
  | bound _ may' =>
    cases may.live.symm.trans may'.live
    rw [consulted_cons, answered] at consulted
    obtain ⟨⟨⟩, joining⟩ := consulted
    rw [consulted_cons, shown] at joining
    obtain ⟨rfl, -⟩ := joining
    exact ⟨_, _, ran⟩

/-- Where credentials can always be joined, a bind that fails because of its provider was issued
none. -/
theorem MayBind.of_bindOver_error {cause : ProviderError} (numbers : s.NumberedBindings)
    (may : b.MayBind id bindingId request s row provider)
    (joins : ∀ credentials, ∃ joined, accounts.join credentials row = .ok joined)
    (failed : b.bindOver resources accounts now id bindingId request (s, x, t) =
      (.error (.provider cause), s', x', t')) :
    s' = s.skipped ∧ x' = x ∧
      ∃ e, accounts.create row bindingId request t = (.error e, t') := by
  rcases created : accounts.create row bindingId request t with ⟨e | credentials, u⟩
  · rw [may.bindOver_of_error numbers created] at failed
    cases failed
    exact ⟨rfl, rfl, e, rfl⟩
  · obtain ⟨joined, shown⟩ := joins credentials
    have binds : b.BindsOver resources accounts now id bindingId request (s, x, t) :=
      may.bindsOver created shown
    obtain ⟨response, after, bound⟩ := binds
    rw [bound] at failed
    cases failed

end Bind

/-- Unbinds over a provider that two managers make. -/
def unbindOver {ρ σ : Type} (b : Broker) (resources : ResourceManager ρ)
    (accounts : AccountManager σ) (now : Instant) (id bindingId : String)
    (request : UnbindRequest) : Store × ρ × σ → Except BrokerError Response × Store × ρ × σ :=
  Program.run (serve now (managedAnswer resources accounts))
    (b.perform now (.unbind id bindingId request)).run

section Unbind

variable {ρ σ : Type} {b : Broker} {resources : ResourceManager ρ} {accounts : AccountManager σ}
  {now : Instant} {id bindingId : String} {request : UnbindRequest} {s s' : Store} {x x' : ρ}
  {t t' : σ} {row : InstanceRow} {binding : BindingRow} {provider : Provider}

/-- The courses of an unbind of credentials that may be withdrawn. -/
inductive ManagedUnbinding (accounts : AccountManager σ) (faults : Faults) (id bindingId : String)
    (row : InstanceRow) (binding : BindingRow) (s : Store) (t : σ) :
    Except BrokerError Response → Store → σ → Prop
  | refused {e : BrokerError} (orphans : e.isOrphaning = false) (fault : faults.Possible) :
      ManagedUnbinding accounts faults id bindingId row binding s t (.error e) s t
  | failed {e : CredentialError} {t' : σ}
      (deleted : accounts.delete row binding t = (.error e, t')) :
      ManagedUnbinding accounts faults id bindingId row binding s t
        (.error (.provider (.credentials e))) s t'
  | orphaned {e : BrokerError} {t' : σ} (orphans : e.isOrphaning = true) (fault : faults.Possible)
      (deleted : accounts.delete row binding t = (.ok (), t')) :
      ManagedUnbinding accounts faults id bindingId row binding s t (.error e) s t'
  | done {t' : σ} (time : Instant) (deleted : accounts.delete row binding t = (.ok (), t')) :
      ManagedUnbinding accounts faults id bindingId row binding s t (.ok .unbound)
        (unbound id bindingId time s) t'

/-- A provider that is told to withdraw credentials answers what its account manager does. -/
theorem deleted_of_consulted {p : Provider} {answer : Except ProviderError Unit}
    (consulted : Consulted (managedAnswer resources accounts) [⟨s, p, .unbind row binding, answer⟩]
      (x, t) (x', t')) :
    x' = x ∧ ∃ result : Except CredentialError Unit, answer = result.mapError .credentials ∧
      accounts.delete row binding t = (result, t') := by
  obtain ⟨answered, left⟩ := consulted
  obtain ⟨rfl, rfl⟩ := Prod.mk.inj left
  exact ⟨rfl, _, answered, rfl⟩

theorem ManagedUnbinding.of_acts {faults : Faults} {asked : List Consultation}
    {r : Except BrokerError Response} (may : b.MayUnbind id bindingId s row binding provider)
    (acts : Acts faults (b.perform now (.unbind id bindingId request)) s asked r s')
    (consulted : Consulted (managedAnswer resources accounts) asked (x, t) (x', t')) :
    x' = x ∧ ManagedUnbinding accounts faults id bindingId row binding s t r s' t' := by
  obtain ⟨answer, rfl, acted⟩ := Acts.of_map acts
  cases Unbinding.of_acts acted with
  | refused orphans cause =>
    obtain ⟨rfl, rfl⟩ := Prod.mk.inj consulted
    exact ⟨rfl, .refused orphans (cause.resolve_right fun none => none.2 _ _ _ may)⟩
  | withdrawn time claimed =>
    cases may.held.symm.trans claimed.held
    cases may.active.symm.trans claimed.pending
  | failed may' =>
    cases may.live.symm.trans may'.live
    cases may.held.symm.trans may'.held
    obtain ⟨rfl, result, answered, deleted⟩ := deleted_of_consulted consulted
    cases result <;> cases answered
    exact ⟨rfl, .failed deleted⟩
  | orphaned may' fault =>
    cases may.live.symm.trans may'.live
    cases may.held.symm.trans may'.held
    obtain ⟨rfl, result, answered, deleted⟩ := deleted_of_consulted consulted
    cases result <;> cases answered
    exact ⟨rfl, .orphaned rfl fault deleted⟩
  | done time may' =>
    cases may.live.symm.trans may'.live
    cases may.held.symm.trans may'.held
    obtain ⟨rfl, result, answered, deleted⟩ := deleted_of_consulted consulted
    cases result <;> cases answered
    exact ⟨rfl, .done time deleted⟩

/-- A failed unbind leaves the store as it was. It is reported as orphaning if the credentials have
been withdrawn. -/
theorem ManagedUnbinding.of_error {faults : Faults} {e : BrokerError}
    (h : ManagedUnbinding accounts faults id bindingId row binding s t (.error e) s' t') :
    s' = s ∧ (e.isOrphaning = false ∧ t' = t ∨
      ∃ result, accounts.delete row binding t = (result, t') ∧
        (e.isOrphaning = true ↔ result = .ok ())) := by
  generalize refused : Except.error e = r at h
  cases h with
  | refused orphans =>
    cases refused
    exact ⟨rfl, .inl ⟨orphans, rfl⟩⟩
  | failed deleted =>
    cases refused
    exact ⟨rfl, .inr ⟨_, deleted, by nofun, by nofun⟩⟩
  | orphaned orphans _ deleted =>
    cases refused
    exact ⟨rfl, .inr ⟨_, deleted, fun _ => rfl, fun _ => orphans⟩⟩
  | done => cases refused

/-- Credentials that the account manager withdraws are unbound. -/
theorem MayUnbind.unbindOver_of_ok (request : UnbindRequest)
    (may : b.MayUnbind id bindingId s row binding provider)
    (deleted : accounts.delete row binding t = (.ok (), t')) :
    ∃ time, b.unbindOver resources accounts now id bindingId request (s, x, t) =
      (.ok .unbound, unbound id bindingId time s, x, t') := by
  rcases ran : b.unbindOver resources accounts now id bindingId request (s, x, t) with ⟨r, s', y, u⟩
  obtain ⟨asked, acts, consulted⟩ := acts_of_serve ran
  obtain ⟨rfl, course⟩ := ManagedUnbinding.of_acts may acts consulted
  cases course with
  | refused _ fault | orphaned _ fault => exact absurd fault Faults.not_possible_none
  | failed failed => cases deleted.symm.trans failed
  | done time deleted' =>
    cases deleted.symm.trans deleted'
    exact ⟨time, rfl⟩

/-- Where the account manager fails, nothing has happened to the store. -/
theorem MayUnbind.unbindOver_of_error {e : CredentialError}
    (may : b.MayUnbind id bindingId s row binding provider)
    (failed : accounts.delete row binding t = (.error e, t')) :
    b.unbindOver resources accounts now id bindingId request (s, x, t) =
      (.error (.provider (.credentials e)), s, x, t') := by
  rcases ran : b.unbindOver resources accounts now id bindingId request (s, x, t) with ⟨r, s', y, u⟩
  obtain ⟨asked, acts, consulted⟩ := acts_of_serve ran
  obtain ⟨rfl, course⟩ := ManagedUnbinding.of_acts may acts consulted
  cases course with
  | refused _ fault | orphaned _ fault => exact absurd fault Faults.not_possible_none
  | failed failed' =>
    cases failed.symm.trans failed'
    rfl
  | done _ deleted => cases failed.symm.trans deleted

end Unbind

end Broker

end Brokerage
