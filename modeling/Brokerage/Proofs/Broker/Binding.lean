import Brokerage.Proofs.Broker.Instance
import Brokerage.Proofs.Store.Bindings

/-! The courses that issuing and withdrawing credentials may take. -/

namespace Brokerage

namespace Acts

variable {faults : Faults} {α : Type} {s s' : Store} {asked : List Consultation}

/-- What follows the saving of a live binding finds it saved, or gets a failure without effect. -/
theorem of_saveBinding {row old : BindingRow} {f : Except StoreError Unit → Action α}
    {r : Except BrokerError α}
    (h : Acts faults ((StoreCall.saveBinding row).result >>= f) s asked r s')
    (held : old ∈ s.bindings) (same : old.id = row.id) (live : old.live = true) :
    (∃ time, Acts faults (f (.ok ()))
        (s.rewriteBindings (·.id = row.id) (Store.overwriteBinding time row)) asked r s') ∨
      faults.Possible ∧ ∃ e, Acts faults (f (.error e)) s asked r s' := by
  rcases of_storeResult h with ⟨time, followed⟩ | ⟨e, allowed, followed⟩
  · rw [Store.step_saveBinding_of_live time held same live] at followed
    exact .inl ⟨time, followed⟩
  · exact .inr ⟨⟨_, e, allowed⟩, e, followed⟩

theorem of_softDeleteBinding {instanceId bindingId : String} {row : BindingRow}
    {f : Except StoreError Unit → Action α} {r : Except BrokerError α}
    (live : s.liveBinding? instanceId bindingId = some row)
    (h : Acts faults ((StoreCall.softDeleteBinding instanceId bindingId).result >>= f)
      s asked r s') :
    (∃ time, Acts faults (f (.ok ()))
        (s.rewriteBindings (·.isOf instanceId bindingId) (Store.withdrawn time)) asked r s') ∨
      faults.Possible ∧ ∃ e, Acts faults (f (.error e)) s asked r s' := by
  rcases of_storeResult h with ⟨time, followed⟩ | ⟨e, allowed, followed⟩
  · rw [Store.step_softDeleteBinding_of_live time live] at followed
    exact .inl ⟨time, followed⟩
  · exact .inr ⟨⟨_, e, allowed⟩, e, followed⟩

end Acts

namespace Broker

/-- What a provider is told to issue credentials for is live and active, has none under the same
name, and is asked for on behalf of an application. -/
structure MayBind (b : Broker) (instanceId bindingId : String) (request : BindRequest) (s : Store)
    (row : InstanceRow) (provider : Provider) : Prop where
  vacant : s.liveBinding? instanceId bindingId = none
  application : request.appGuid?.getD "" ≠ ""
  live : s.liveInstance? instanceId = some row
  active : row.status = .active
  served : b.registry.provider row.serviceId = .ok provider

/-- The store in which a binding is claimed. -/
def reserved (now : Instant) (instanceId bindingId : String) (row : InstanceRow) (s : Store) :
    Store :=
  s.withBinding (.claim now instanceId bindingId row.serviceId)

/-- A claim as it is written once its provider has issued credentials. -/
def issuedRow (now : Instant) (instanceId bindingId : String) (row : InstanceRow) (id : Int)
    (credentials : Fields) : BindingRow :=
  ({ BindingRow.claim now instanceId bindingId row.serviceId with
    id := id }.withCredentials credentials).withStatus .active

/-- The store in which a claimed binding holds its credentials. -/
def issued (now : Instant) (instanceId bindingId : String) (row : InstanceRow)
    (credentials : Fields) (saved : Instant) (s : Store) : Store :=
  (reserved now instanceId bindingId row s).rewriteBindings (·.id = s.lastBindingId + 1)
    (Store.overwriteBinding saved
      (issuedRow now instanceId bindingId row (s.lastBindingId + 1) credentials))

/-- The courses of `bind`. -/
inductive Binding (b : Broker) (faults : Faults) (now : Instant) (instanceId bindingId : String)
    (request : BindRequest) (s : Store) :
    List Consultation → Except BrokerError Fields → Store → Prop
  | refused {e : BrokerError} (orphans : e.isOrphaning = false)
      (cause : faults.Possible ∨
        ∀ row provider, ¬ b.MayBind instanceId bindingId request s row provider) :
      Binding b faults now instanceId bindingId request s [] (.error e) s
  | failed {row : InstanceRow} {provider : Provider} {e : ProviderError} {s' : Store}
      (may : b.MayBind instanceId bindingId request s row provider)
      (released : s' = ((reserved now instanceId bindingId row s).releaseBindingClaim
          (s.lastBindingId + 1)).2 ∨
        faults.Possible ∧ s' = reserved now instanceId bindingId row s) :
      Binding b faults now instanceId bindingId request s
        [⟨reserved now instanceId bindingId row s, provider, .bind row bindingId request, .error e⟩]
        (.error (.provider e)) s'
  | orphaned {row : InstanceRow} {provider : Provider} {credentials : Fields} {e : StoreError}
      (may : b.MayBind instanceId bindingId request s row provider) (fault : faults.Possible) :
      Binding b faults now instanceId bindingId request s
        [⟨reserved now instanceId bindingId row s, provider, .bind row bindingId request,
          .ok credentials⟩]
        (.error (.orphaned "binding" bindingId "bind" e)) (reserved now instanceId bindingId row s)
  | bound {row : InstanceRow} {provider : Provider} {credentials : Fields} (saved : Instant)
      (may : b.MayBind instanceId bindingId request s row provider)
      (answer : Except ProviderError Fields) :
      Binding b faults now instanceId bindingId request s
        [⟨reserved now instanceId bindingId row s, provider, .bind row bindingId request,
            .ok credentials⟩,
          ⟨issued now instanceId bindingId row credentials saved s, provider,
            .joinCredentials credentials row, answer⟩]
        (answer.mapError .provider) (issued now instanceId bindingId row credentials saved s)

section Bind

variable {b : Broker} {faults : Faults} {now : Instant} {instanceId bindingId : String}
  {request : BindRequest} {s s' : Store} {asked : List Consultation}

theorem claimBinding_eq (row : BindingRow) : claimBinding row =
    (StoreCall.createBinding row).result >>= fun answer =>
      Fallible.ofExcept (answer.mapError fun e =>
        if e.isConstraint then .bindingAlreadyExists row.instanceId row.bindingId
        else .store e) := by
  refine congrArg ((StoreCall.createBinding row).result >>= ·) (funext fun answer => ?_)
  cases answer <;> rfl

/-- What follows the claim of a binding finds it claimed; else the pair is taken, or the claim
fails. -/
theorem of_claimBinding {α : Type} {row : BindingRow} {f : Int → Action α}
    {r : Except BrokerError α} (h : Acts faults (claimBinding row >>= f) s asked r s') :
    s.liveBinding? row.instanceId row.bindingId = none ∧
        Acts faults (f (s.lastBindingId + 1)) (s.withBinding row) asked r s' ∨
      Acts.Refused s asked r s' ∧
        (faults.Possible ∨ s.liveBinding? row.instanceId row.bindingId ≠ none) := by
  rcases Acts.of_storeExcept (claimBinding_eq row) h with ⟨time, followed⟩ | ⟨e, allowed, followed⟩
  · by_cases free : s.liveBinding? row.instanceId row.bindingId = none
    · rw [Store.step_createBinding_of_free time free] at followed
      exact .inl ⟨free, followed⟩
    · rw [Store.step_createBinding_of_taken time free] at followed
      exact .inr ⟨.of_throw rfl followed, .inr free⟩
  · exact .inr ⟨.of_throw rfl followed, .inl ⟨_, e, allowed⟩⟩

/-- A bind takes one of its courses. -/
theorem Binding.of_acts {r : Except BrokerError Fields}
    (h : Acts faults (b.bind now instanceId bindingId request) s asked r s') :
    Binding b faults now instanceId bindingId request s asked r s' := by
  unfold bind at h
  rcases Acts.of_storeValue h with ⟨_, _, ⟨⟩, counted⟩ | ⟨e, rfl, rfl, cause⟩
  case inr =>
    rcases cause with ⟨allowed, rfl⟩ | ⟨_, ⟨⟩⟩
    exact .refused rfl (.inl ⟨_, e, allowed⟩)
  simp only [Store.step_countBindings] at counted
  rcases Acts.of_require counted with ⟨-, asking⟩ | ⟨taken, rfl, rfl, rfl⟩
  case inr =>
    refine .refused rfl (.inr fun row provider may => ?_)
    simp [Store.liveBinding?_eq_none.mp may.vacant] at taken
  rcases Acts.of_require asking with ⟨application, looking⟩ | ⟨anonymous, rfl, rfl, rfl⟩
  case inr =>
    refine .refused rfl (.inr fun row provider may => ?_)
    exact of_decide_eq_false anonymous may.application
  rcases Acts.of_liveInstance looking with ⟨row, live, found⟩ | ⟨⟨e, orphans, rfl, rfl, rfl⟩, cause⟩
  case inr =>
    refine .refused orphans (cause.imp_right fun absent row provider may => ?_)
    rw [may.live] at absent
    cases absent
  have same : ∀ row' provider, b.MayBind instanceId bindingId request s row' provider →
      row' = row := fun _ _ may => by simpa [may.live] using live
  rcases Acts.of_require found with ⟨active, serving⟩ | ⟨busy, rfl, rfl, rfl⟩
  case inr =>
    refine .refused rfl (.inr fun row' provider may => ?_)
    obtain rfl := same row' provider may
    exact of_decide_eq_false busy may.active
  rcases Acts.of_ofCatalog serving with ⟨provider, served, claiming⟩ | ⟨e, unknown, rfl, rfl, rfl⟩
  case inr =>
    refine .refused rfl (.inr fun row' provider may => ?_)
    obtain rfl := same row' provider may
    rw [may.served] at unknown
    cases unknown
  rcases of_claimBinding claiming with ⟨vacant, asking⟩ | ⟨⟨e, orphans, rfl, rfl, rfl⟩, cause⟩
  case inr =>
    exact .refused orphans (cause.imp_right fun taken row provider may => taken may.vacant)
  have may : b.MayBind instanceId bindingId request s row provider :=
    ⟨vacant, of_decide_eq_true application, live, of_decide_eq_true active, served⟩
  obtain ⟨answer, rest, rfl, answered⟩ := Acts.of_providerResult asking
  cases answer with
  | error e =>
    rcases Acts.of_storeResult answered with ⟨time, ending⟩ | ⟨fault, allowed, ending⟩
    · obtain ⟨rfl, rfl, rfl⟩ := Acts.of_throw ending
      exact .failed may (.inl rfl)
    · obtain ⟨rfl, rfl, rfl⟩ := Acts.of_throw ending
      exact .failed may (.inr ⟨⟨_, fault, allowed⟩, rfl⟩)
  | ok credentials =>
    -- No store call came in between, so the claim is still there to be written.
    have held := Store.numbered_mem_withBinding s (.claim now instanceId bindingId row.serviceId)
    rcases Acts.of_saveBinding answered held rfl rfl with ⟨time, joining⟩ | ⟨fault, e, ending⟩
    · obtain ⟨answer, rfl, rfl, rfl⟩ := Acts.of_providerReply joining
      exact .bound time may answer
    · obtain ⟨rfl, rfl, rfl⟩ := Acts.of_throw ending
      exact .orphaned may fault

/-- A bind leaves the instances as they are. -/
theorem Binding.instances_eq {r : Except BrokerError Fields}
    (h : Binding b faults now instanceId bindingId request s asked r s') :
    s'.instances = s.instances := by
  cases h with
  | refused | orphaned | bound => rfl
  | failed _ released => rcases released with rfl | ⟨-, rfl⟩ <;> rfl

end Bind

/-- The claim of a binding that nobody is at any more. -/
structure MayWithdraw (b : Broker) (now : Instant) (instanceId bindingId : String) (s : Store)
    (row : InstanceRow) (claim : BindingRow) : Prop where
  live : s.liveInstance? instanceId = some row
  held : s.liveBinding? instanceId bindingId = some claim
  pending : claim.status = .pending
  abandoned : b.isStale now claim.createdAt = true

/-- What a provider is told to withdraw are the credentials of a live binding. -/
structure MayUnbind (b : Broker) (instanceId bindingId : String) (s : Store) (row : InstanceRow)
    (binding : BindingRow) (provider : Provider) : Prop where
  live : s.liveInstance? instanceId = some row
  held : s.liveBinding? instanceId bindingId = some binding
  active : binding.status = .active
  served : b.registry.provider row.serviceId = .ok provider

/-- The store in which a pair has no live binding. -/
def unbound (instanceId bindingId : String) (saved : Instant) (s : Store) : Store :=
  s.rewriteBindings (·.isOf instanceId bindingId) (Store.withdrawn saved)

/-- The courses of `unbind`. -/
inductive Unbinding (b : Broker) (faults : Faults) (now : Instant) (instanceId bindingId : String)
    (s : Store) : List Consultation → Except BrokerError Unit → Store → Prop
  | refused {e : BrokerError} (orphans : e.isOrphaning = false)
      (cause : faults.Possible ∨
        (∀ row claim, ¬ b.MayWithdraw now instanceId bindingId s row claim) ∧
          ∀ row binding provider, ¬ b.MayUnbind instanceId bindingId s row binding provider) :
      Unbinding b faults now instanceId bindingId s [] (.error e) s
  | withdrawn {row : InstanceRow} {claim : BindingRow} (saved : Instant)
      (may : b.MayWithdraw now instanceId bindingId s row claim) :
      Unbinding b faults now instanceId bindingId s [] (.ok ())
        (unbound instanceId bindingId saved s)
  | failed {row : InstanceRow} {binding : BindingRow} {provider : Provider} {e : ProviderError}
      (may : b.MayUnbind instanceId bindingId s row binding provider) :
      Unbinding b faults now instanceId bindingId s
        [⟨s, provider, .unbind row binding, .error e⟩] (.error (.provider e)) s
  | orphaned {row : InstanceRow} {binding : BindingRow} {provider : Provider} {e : StoreError}
      (may : b.MayUnbind instanceId bindingId s row binding provider) (fault : faults.Possible) :
      Unbinding b faults now instanceId bindingId s [⟨s, provider, .unbind row binding, .ok ()⟩]
        (.error (.orphaned "binding" bindingId "unbind" e)) s
  | done {row : InstanceRow} {binding : BindingRow} {provider : Provider} (saved : Instant)
      (may : b.MayUnbind instanceId bindingId s row binding provider) :
      Unbinding b faults now instanceId bindingId s [⟨s, provider, .unbind row binding, .ok ()⟩]
        (.ok ()) (unbound instanceId bindingId saved s)

section Unbind

variable {b : Broker} {faults : Faults} {now : Instant} {instanceId bindingId : String}
  {s s' : Store} {asked : List Consultation}

theorem liveBinding_eq (instanceId bindingId : String) : liveBinding instanceId bindingId =
    (StoreCall.getBinding instanceId bindingId).result >>= fun answer =>
      Fallible.ofExcept (answer.mapError fun e =>
        if e.isNotFound then .bindingDoesNotExist instanceId bindingId else .store e) := by
  refine congrArg ((StoreCall.getBinding instanceId bindingId).result >>= ·)
    (funext fun answer => ?_)
  cases answer <;> rfl

/-- What follows the look-up of a live binding gets its row; else there is none, or the look-up
fails. -/
theorem of_liveBinding {α : Type} {f : BindingRow → Action α} {r : Except BrokerError α}
    (h : Acts faults (liveBinding instanceId bindingId >>= f) s asked r s') :
    (∃ row, s.liveBinding? instanceId bindingId = some row ∧ Acts faults (f row) s asked r s') ∨
      Acts.Refused s asked r s' ∧
        (faults.Possible ∨ s.liveBinding? instanceId bindingId = none) := by
  rcases Acts.of_storeExcept (liveBinding_eq instanceId bindingId) h with
    ⟨time, followed⟩ | ⟨e, allowed, followed⟩
  · rw [Store.step_getBinding, Store.getBinding] at followed
    cases found : s.liveBinding? instanceId bindingId with
    | some row =>
      rw [found] at followed
      exact .inl ⟨row, rfl, followed⟩
    | none =>
      rw [found] at followed
      exact .inr ⟨.of_throw rfl followed, .inr rfl⟩
  · exact .inr ⟨.of_throw rfl followed, .inl ⟨_, e, allowed⟩⟩

/-- An unbind takes one of its courses. -/
theorem Unbinding.of_acts {r : Except BrokerError Unit}
    (h : Acts faults (b.unbind now instanceId bindingId) s asked r s') :
    Unbinding b faults now instanceId bindingId s asked r s' := by
  unfold unbind at h
  rcases Acts.of_liveInstance h with ⟨row, live, looking⟩ | ⟨⟨e, orphans, rfl, rfl, rfl⟩, cause⟩
  case inr =>
    refine .refused orphans (cause.imp_right fun absent => ⟨fun _ _ may => ?_, fun _ _ _ may => ?_⟩)
    all_goals simpa [absent] using may.live
  rcases of_liveBinding looking with ⟨binding, held, found⟩ | ⟨⟨e, orphans, rfl, rfl, rfl⟩, cause⟩
  case inr =>
    refine .refused orphans (cause.imp_right fun absent => ⟨fun _ _ may => ?_, fun _ _ _ may => ?_⟩)
    all_goals simpa [absent] using may.held
  cases status : binding.status with
  | pending =>
    rw [status] at found
    have used : ∀ row' binding' provider,
        ¬ b.MayUnbind instanceId bindingId s row' binding' provider := by
      intro row' binding' provider may
      obtain rfl : binding' = binding := by simpa [may.held] using held
      simp [may.active] at status
    rcases Acts.of_require found with ⟨stale, writing⟩ | ⟨fresh, rfl, rfl, rfl⟩
    case inr =>
      refine .refused rfl (.inr ⟨fun row' claim may => ?_, used⟩)
      obtain rfl : claim = binding := by simpa [may.held] using held
      simp [may.abandoned] at fresh
    obtain ⟨rfl, answer, rfl, ⟨time, step⟩ | ⟨e, rfl, allowed, rfl⟩⟩ := Acts.of_storeReply writing
    · rw [Store.step_softDeleteBinding_of_live time held] at step
      cases step
      exact .withdrawn time ⟨live, held, status, stale⟩
    · exact .refused rfl (.inl ⟨_, e, allowed⟩)
  | active =>
    rw [status] at found
    rcases Acts.of_ofCatalog found with ⟨provider, served, asking⟩ | ⟨e, unknown, rfl, rfl, rfl⟩
    case inr =>
      refine .refused rfl (.inr ⟨fun row' claim may => ?_, fun row' binding' provider may => ?_⟩)
      · obtain rfl : claim = binding := by simpa [may.held] using held
        simp [may.pending] at status
      · obtain rfl : row' = row := by simpa [may.live] using live
        simp [may.served] at unknown
    have may : b.MayUnbind instanceId bindingId s row binding provider :=
      ⟨live, held, status, served⟩
    rcases Acts.of_providerValue asking with ⟨_, rest, rfl, writing⟩ | ⟨e, rfl, rfl, rfl⟩
    case inr => exact .failed may
    rcases Acts.of_softDeleteBinding held writing with ⟨time, ending⟩ | ⟨fault, e, ending⟩
    · obtain ⟨rfl, rfl, rfl⟩ := Acts.of_pure ending
      exact .done time may
    · obtain ⟨rfl, rfl, rfl⟩ := Acts.of_throw ending
      exact .orphaned may fault

/-- An unbind leaves the instances as they are. -/
theorem Unbinding.instances_eq {r : Except BrokerError Unit}
    (h : Unbinding b faults now instanceId bindingId s asked r s') :
    s'.instances = s.instances := by
  cases h <;> rfl

end Unbind

end Broker

end Brokerage
