import Brokerage.Proofs.Broker.Performance
import Brokerage.Proofs.Catalog.Checks

/-! The licences under which an operation calls a provider: what the guards of the operation make
sure of before the provider hears of anything. -/

namespace Brokerage

/-- Parameters that can be read are absent, null or a record. -/
theorem parameters_of_ok {parameters : Option Json} {fields : Fields}
    (h : parameterFields parameters = .ok fields) :
    parameters = none ∨ parameters = some .null ∨ parameters = some (.obj fields) := by
  unfold parameterFields at h
  split at h
  · exact .inl rfl
  · exact .inr (.inl rfl)
  · cases h
    exact .inr (.inr rfl)
  · cases h

namespace Broker

/-- What must be so for an operation to call a provider: it is the operation for that call, the
provider is the one of the service, and what the call needs was there when the operation began. -/
def Licensed (b : Broker) (now : Instant) (op : Operation) (s : Store) (c : Consultation) : Prop :=
  match c.call with
  | .provision id request plan =>
    ∃ asyncAllowed, op = .provision id request asyncAllowed ∧
      b.registry.provider request.serviceId = .ok c.provider ∧
      (∀ row ∈ s.instances, row.id ≠ id) ∧
      (∀ limit, b.instanceLimit = some limit → s.countAllInstances < limit) ∧
      (∃ service ∈ b.registry.catalog.services, service.id = request.serviceId ∧
        plan ∈ service.plans ∧ plan.id = request.planId) ∧
      (request.parameters? = none ∨ request.parameters? = some .null ∨
        ∃ fields, request.parameters? = some (.obj fields)) ∧
      (c.provider.provisionsAsync = true → asyncAllowed = true)
  | .bind row bindingId request =>
    op = .bind row.id bindingId request ∧
      b.registry.provider row.serviceId = .ok c.provider ∧
      s.liveInstance? row.id = some row ∧ row.status = .active ∧
      s.countBindings row.id bindingId = 0 ∧
      (∃ guid, request.appGuid? = some guid ∧ guid ≠ "") ∧
      ∃ claim ∈ c.before.bindings, claim.isOf row.id bindingId = true ∧ claim.live = true ∧
        claim.status = .pending
  | .unbind row binding =>
    ∃ request, op = .unbind row.id binding.bindingId request ∧
      b.registry.provider row.serviceId = .ok c.provider ∧
      s.liveInstance? row.id = some row ∧
      s.liveBinding? row.id binding.bindingId = some binding ∧ binding.status = .active
  | .deprovision row request =>
    ∃ asyncAllowed, op = .deprovision row.id request asyncAllowed ∧
      b.registry.provider row.serviceId = .ok c.provider ∧
      s.liveInstance? row.id = some row ∧ row.status ≠ .deprovisioning ∧
      (row.status = .pending → (b.claimTimeout : Int) ≤ now - row.createdAt) ∧
      (c.provider.deprovisionsAsync = true → asyncAllowed = true)
  | .poll row =>
    op = .lastOperation row.id ∧
      b.registry.provider row.serviceId = .ok c.provider ∧
      s.liveInstance? row.id = some row ∧
      (row.status = .pending → (b.claimTimeout : Int) ≤ now - row.createdAt) ∧
      (c.provider.provisionsAsync = true ∨ c.provider.deprovisionsAsync = true)
  | .wasDelete row =>
    op = .lastOperation row.id ∧
      b.registry.provider row.serviceId = .ok c.provider ∧
      s.liveInstance? row.id = some row ∧ row.status = .active
  | .joinCredentials _ row =>
    ∃ bindingId request, op = .bind row.id bindingId request ∧
      b.registry.provider row.serviceId = .ok c.provider ∧
      s.liveInstance? row.id = some row ∧ row.status = .active

section Licences

variable {b : Broker} {faults : Faults} {now : Instant} {s s' : Store} {asked : List Consultation}
  {id : String} {row : InstanceRow} {provider : Provider}

theorem MayProvision.licence {request : ProvisionRequest} {asyncAllowed : Bool} {plan : Plan}
    {before : Store} {answer : Except ProviderError InstanceMetadata}
    (may : b.MayProvision id request asyncAllowed s plan provider) :
    b.Licensed now (.provision id request asyncAllowed) s
      ⟨before, provider, .provision id request plan, answer⟩ := by
  obtain ⟨cataloged, served⟩ := Registry.of_resolve may.resolved
  obtain ⟨fields, parameters⟩ := may.parameters
  refine ⟨asyncAllowed, rfl, served, Store.row?_eq_none.mp may.fresh, may.room, cataloged, ?_,
    may.async⟩
  exact (parameters_of_ok parameters).imp_right (·.imp_right fun h => ⟨fields, h⟩)

theorem MayBind.licence {bindingId : String} {request : BindRequest}
    {answer : Except ProviderError Fields}
    (may : b.MayBind id bindingId request s row provider) :
    b.Licensed now (.bind id bindingId request) s
      ⟨reserved now id bindingId row s, provider, .bind row bindingId request, answer⟩ := by
  obtain rfl := Store.liveInstance?_id may.live
  refine ⟨rfl, may.served, may.live, may.active, Store.liveBinding?_eq_none.mp may.vacant, ?_,
    _, Store.numbered_mem_withBinding s _, ?_, rfl, rfl⟩
  · cases guid : request.appGuid? with
    | none => exact absurd (by rw [guid]; rfl) may.application
    | some guid' => exact ⟨guid', rfl, by simpa [guid] using may.application⟩
  · simp [Store.numbered, BindingRow.claim, BindingRow.isOf]

theorem MayBind.licence_join {bindingId : String} {request : BindRequest} {credentials : Fields}
    {before : Store} {answer : Except ProviderError Fields}
    (may : b.MayBind id bindingId request s row provider) :
    b.Licensed now (.bind id bindingId request) s
      ⟨before, provider, .joinCredentials credentials row, answer⟩ := by
  obtain rfl := Store.liveInstance?_id may.live
  exact ⟨bindingId, request, rfl, may.served, may.live, may.active⟩

theorem MayUnbind.licence {bindingId : String} {request : UnbindRequest} {binding : BindingRow}
    {before : Store} {answer : Except ProviderError Unit}
    (may : b.MayUnbind id bindingId s row binding provider) :
    b.Licensed now (.unbind id bindingId request) s
      ⟨before, provider, .unbind row binding, answer⟩ := by
  obtain rfl := Store.liveInstance?_id may.live
  obtain ⟨-, rfl⟩ := Store.isOf_iff.mp (Store.liveBinding?_mem may.held).2.1
  exact ⟨request, rfl, may.served, may.live, may.held, may.active⟩

theorem MayDeprovision.licence {request : DeprovisionRequest} {asyncAllowed : Bool}
    {before : Store} {answer : Except ProviderError Unit}
    (may : b.MayDeprovision now id asyncAllowed s row provider) :
    b.Licensed now (.deprovision id request asyncAllowed) s
      ⟨before, provider, .deprovision row request, answer⟩ := by
  obtain rfl := Store.liveInstance?_id may.live
  exact ⟨asyncAllowed, rfl, may.served, may.live, may.idle,
    fun pending => isStale_age (may.abandoned pending), may.async⟩

theorem MayPoll.licence_poll {before : Store} {answer : Except ProviderError Bool}
    (may : b.MayPoll now id s row provider) :
    b.Licensed now (.lastOperation id) s ⟨before, provider, .poll row, answer⟩ := by
  obtain rfl := Store.liveInstance?_id may.live
  exact ⟨rfl, may.served, may.live, fun pending => isStale_age (may.abandoned pending), may.async⟩

theorem MayPoll.licence_wasDelete {before : Store} {answer : Except ProviderError Bool}
    (may : b.MayPoll now id s row provider) (active : row.status = .active) :
    b.Licensed now (.lastOperation id) s ⟨before, provider, .wasDelete row, answer⟩ := by
  obtain rfl := Store.liveInstance?_id may.live
  exact ⟨rfl, may.served, may.live, active⟩

/-- Every call to a provider has its licence. -/
theorem calls_licensed {op : Operation} {r : Except BrokerError Response}
    (h : Acts faults (b.perform now op) s asked r s') : ∀ c ∈ asked, b.Licensed now op s c := by
  intro c hc
  cases Course.of_acts h with
  | provision course =>
    cases course with
    | refused => cases hc
    | failed may | orphaned may | created _ may =>
      obtain rfl := List.mem_singleton.mp hc
      exact may.licence
  | deprovision course =>
    cases course with
    | refused => cases hc
    | failed may | orphaned may | accepted _ may =>
      obtain rfl := List.mem_singleton.mp hc
      exact may.licence
  | bind course =>
    cases course with
    | refused => cases hc
    | failed may | orphaned may =>
      obtain rfl := List.mem_singleton.mp hc
      exact may.licence
    | bound _ may =>
      rcases List.mem_cons.mp hc with rfl | hc
      · exact may.licence
      · obtain rfl := List.mem_singleton.mp hc
        exact may.licence_join
  | unbind course =>
    cases course with
    | refused | withdrawn => cases hc
    | failed may | orphaned may | done _ may =>
      obtain rfl := List.mem_singleton.mp hc
      exact may.licence
  | update => cases hc
  | lastOperation course =>
    cases course with
    | refused | young => cases hc
    | undetermined may active =>
      rcases List.mem_cons.mp hc with rfl | hc
      · exact may.licence_poll
      · obtain rfl := List.mem_singleton.mp hc
        exact may.licence_wasDelete active
    | settled may heard =>
      cases heard with
      | pending | inFlight | failed =>
        obtain rfl := List.mem_singleton.mp hc
        exact may.licence_poll
      | told unknown =>
        rcases List.mem_cons.mp hc with rfl | hc
        · exact may.licence_poll
        · obtain rfl := List.mem_singleton.mp hc
          exact may.licence_wasDelete (active_of_inFlight unknown)

end Licences

/-- A bind that calls its provider twice, both times under a licence. -/
theorem calls_licensed_bind :
    let row := (InstanceRow.claim 0 "i" "bucket" "small").withStatus .active
    let request : BindRequest := { appGuid? := some "app" }
    let s : Store := { instances := [row] }
    let s' := issued 10 "i" "j" row [] 10 s
    let asked : List Consultation :=
      [⟨reserved 10 "i" "j" row s, Sample.provider, .bind row "j" request, .ok []⟩,
        ⟨s', Sample.provider, .joinCredentials [] row, .ok []⟩]
    Acts .none (Sample.broker.perform 10 (.bind "i" "j" request)) s asked (.ok (.bound [])) s' ∧
      ∀ c ∈ asked, Sample.broker.Licensed 10 (.bind "i" "j" request) s c := by
  intro row request s s' asked
  have performed : Acts .none (Sample.broker.perform 10 (.bind "i" "j" request)) s asked
      (.ok (.bound [])) s' := by
    let claimed := reserved 10 "i" "j" row s
    refine ⟨[⟨s, .store (.countBindings "i" "j"), .ok 0⟩, ⟨s, .store (.getInstance "i"), .ok row⟩,
      ⟨s, .store (.createBinding (.claim 10 "i" "j" "bucket")), .ok 1⟩,
      ⟨claimed, .provider Sample.provider (.bind row "j" request), .ok []⟩,
      ⟨claimed, .store (.saveBinding (issuedRow 10 "i" "j" row 1 [])), .ok ()⟩,
      ⟨s', .provider Sample.provider (.joinCredentials [] row), .ok []⟩], ?_, rfl⟩
    refine .ask (World.store 10 rfl) ?_
    refine .ask (World.store 10 rfl) ?_
    refine .ask (World.store 10 rfl) ?_
    refine .ask (World.provider _) ?_
    refine .ask (World.store 10 rfl) ?_
    refine .ask (World.provider _) ?_
    exact .done
  exact ⟨performed, calls_licensed performed⟩

end Broker

end Brokerage
