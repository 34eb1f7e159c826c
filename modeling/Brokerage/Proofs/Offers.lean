import Brokerage.Proofs.Catalog.Checks
import Brokerage.Proofs.LegacyPlans

/-! What is offered and what can be had. An upgrader lists each service with its own plans and,
after them, the legacy plans that can still be met under it. Of these only the former can be
provisioned, by the provider of their service; and what is not listed comes to no provider. -/

namespace Brokerage

/-! ### The listing -/

namespace Upgrader

variable {u : Upgrader} {service : Service} {plan : Plan} {serviceId planId : String}

/-- A service as it is listed: with the legacy plans that lead off it after its own. -/
theorem augment_eq (u : Upgrader) (s : Service) : u.augment s =
    { s with
      planUpdateable := s.planUpdateable || u.paths.any (·.serviceId = s.id)
      plans := s.plans ++ (u.paths.filter (·.serviceId = s.id)).map (·.plan) } := by
  unfold augment
  cases held : u.paths.filter (·.serviceId = s.id) with
  | nil =>
    have none : u.paths.any (·.serviceId = s.id) = false := by
      simpa [List.filter_eq_nil_iff] using held
    simp [none]
  | cons path rest =>
    have known : path ∈ u.paths.filter (·.serviceId = s.id) := held ▸ List.mem_cons_self
    have some : u.paths.any (·.serviceId = s.id) = true :=
      List.any_eq_true.mpr ⟨path, List.mem_filter.mp known⟩
    simp [some]

theorem augment_id (u : Upgrader) (s : Service) : (u.augment s).id = s.id := by
  rw [augment_eq]

theorem services_perm (u : Upgrader) :
    u.services.Perm (u.broker.registry.catalog.services.map u.augment) :=
  u.broker.registry.services_perm.map _

/-- A plan is listed under a service. -/
def Lists (u : Upgrader) (serviceId planId : String) (plan : Plan) : Prop :=
  ∃ service ∈ u.services, service.id = serviceId ∧ plan ∈ service.plans ∧ plan.id = planId

/-- What is listed is a plan of a service of the catalog, or a legacy plan. -/
theorem Lists.own (lists : u.Lists serviceId planId plan) (current : ¬ u.Legacy serviceId planId) :
    ∃ service ∈ u.broker.registry.catalog.services,
      service.id = serviceId ∧ plan ∈ service.plans ∧ plan.id = planId := by
  obtain ⟨listed, known, rfl, offered, rfl⟩ := lists
  obtain ⟨service, held, rfl⟩ := List.mem_map.mp (u.services_perm.mem_iff.mp known)
  rw [augment_id] at current
  simp only [augment_eq, List.mem_append, List.mem_map, List.mem_filter] at offered
  rcases offered with own | ⟨path, ⟨started, under⟩, rfl⟩
  · exact ⟨service, held, (u.augment_id service).symm, own, rfl⟩
  · exact absurd ⟨path, started, of_decide_eq_true under, rfl⟩ current

theorem lists_of_mem (held : service ∈ u.broker.registry.catalog.services)
    (own : plan ∈ service.plans) : u.Lists service.id plan.id plan := by
  refine ⟨u.augment service, u.services_perm.mem_iff.mpr (List.mem_map_of_mem held),
    u.augment_id service, ?_, rfl⟩
  rw [augment_eq]
  exact List.mem_append_left _ own

end Upgrader

/-! ### What can be had -/

namespace Broker

variable {b : Broker} {w : Scene} {now time : Instant} {conduct : Conduct} {id : String}
  {request : ProvisionRequest} {asyncAllowed : Bool} {plan : Plan} {provider : Provider}

theorem play_provision_of_unresolved {cause : CatalogError} (unlimited : b.instanceLimit = none)
    (fresh : w.store.row? id = none)
    (unknown : b.registry.resolve request.serviceId request.planId = .error cause) :
    w.play time conduct (b.provision now id request asyncAllowed) =
      (.error (.catalog cause), w) := by
  have limited : w.play time conduct b.checkInstanceLimit = (.ok (), w) := by
    rw [checkInstanceLimit, unlimited]
    exact Scene.play_of_done rfl w
  have counted : w.play time conduct (StoreCall.countInstances id).value = (.ok 0, w) := by
    rw [Scene.play_storeValue, ← Store.countInstances_of_fresh fresh]
    rfl
  rw [provision, Scene.play_bind_of_ok _ limited, Scene.play_bind_of_ok _ counted]
  refine (Scene.play_bind_of_ok _ (Scene.play_of_done rfl w)).trans ?_
  rw [unknown]
  exact Scene.play_bind_of_error _ (Scene.play_of_done rfl w)

/-- What may be provisioned is handed to its provider, whose answer decides. -/
theorem MayProvision.of_play {r : Except BrokerError Response} {w' : Scene}
    (may : b.MayProvision id request asyncAllowed w.store plan provider)
    (played : w.play time conduct (b.perform now (.provision id request asyncAllowed)) = (r, w')) :
    w'.told = ⟨provider, .provision id request plan⟩ :: w.told ∧
      (r = .ok (.provisioned provider.provisionsAsync) ∨
        ∃ cause, r = .error (.provider cause)) := by
  obtain ⟨asked, acted, told⟩ := Scene.acts_of_play played
  obtain ⟨answer, rfl, provisioned⟩ := Acts.of_map acted
  generalize w'.store = s' at provisioned
  have same : ∀ {plan' provider'}, b.MayProvision id request asyncAllowed w.store plan' provider' →
      plan' = plan ∧ provider' = provider := by
    intro plan' provider' may'
    simpa using may'.resolved.symm.trans may.resolved
  cases Provisioning.of_acts provisioned with
  | refused _ cause =>
    rcases cause with fault | refused
    · exact absurd fault Faults.not_possible_none
    · exact absurd may (refused plan provider)
  | failed may' =>
    obtain ⟨rfl, rfl⟩ := same may'
    exact ⟨told, .inr ⟨_, rfl⟩⟩
  | orphaned _ fault => exact absurd fault Faults.not_possible_none
  | created _ may' =>
    obtain ⟨rfl, rfl⟩ := same may'
    exact ⟨told, .inl rfl⟩

end Broker

namespace Upgrader

variable {u : Upgrader} {entries : List (Service × Provider)} {w w' : Scene} {now time : Instant}
  {conduct : Conduct} {id : String} {request : ProvisionRequest} {plan : Plan}
  {r : Except BrokerError Response}

theorem services_perm_of_built (built : Registry.ofEntries entries = .ok u.broker.registry) :
    u.services.Perm (entries.map fun entry => u.augment entry.1) := by
  obtain ⟨same, -⟩ := Registry.ofEntries_eq_ok_iff.mp built
  have listed := u.services_perm
  rw [same, List.map_map] at listed
  exact listed

theorem services_distinct (built : Registry.ofEntries entries = .ok u.broker.registry) :
    (u.services.map (·.id)).Nodup := by
  obtain ⟨-, -, distinct⟩ := Registry.ofEntries_eq_ok_iff.mp built
  refine (((services_perm_of_built built).map (·.id)).nodup_iff).mpr ?_
  simpa only [List.map_map, Function.comp_def, augment_id] using distinct

/-- A plan that is listed and no legacy plan is had from the provider of its service. -/
theorem provision_of_listed (built : Registry.ofEntries entries = .ok u.broker.registry)
    (unlimited : u.broker.instanceLimit = none) (fresh : w.store.row? id = none) {fields : Fields}
    (described : request.parameters = .ok fields)
    (listed : u.Lists request.serviceId request.planId plan)
    (current : ¬ u.Legacy request.serviceId request.planId)
    (played : w.play time conduct (u.perform now (.provision id request true)) = (r, w')) :
    ∃ entry ∈ entries, entry.1.id = request.serviceId ∧
      w'.told = ⟨entry.2, .provision id request plan⟩ :: w.told ∧
      (r = .ok (.provisioned entry.2.provisionsAsync) ∨ ∃ cause, r = .error (.provider cause)) := by
  obtain ⟨service, held, offers, own, named⟩ := listed.own current
  rw [(Registry.ofEntries_eq_ok_iff.mp built).1] at held
  obtain ⟨entry, registered, rfl⟩ := List.mem_map.mp held
  have may : u.broker.MayProvision id request true w.store plan entry.2 := by
    refine ⟨fun limit limited => ?_, fresh, ?_, fun _ => rfl, fields, described⟩
    · rw [unlimited] at limited
      cases limited
    · rw [← offers, ← named]
      exact Registry.resolve_of_mem built registered own
  have spared : u.Spares w.store (.provision id request true) := current
  rw [transparent spared] at played
  exact ⟨entry, registered, offers, may.of_play played⟩

/-- What is not listed comes to no provider. -/
theorem play_provision_of_unlisted (unlimited : u.broker.instanceLimit = none)
    (fresh : w.store.row? id = none)
    (unlisted : ∀ plan, ¬ u.Lists request.serviceId request.planId plan)
    (current : ¬ u.Legacy request.serviceId request.planId) (asyncAllowed : Bool) :
    ∃ cause, w.play time conduct (u.perform now (.provision id request asyncAllowed)) =
      (.error (.catalog cause), w) := by
  cases found : u.broker.registry.resolve request.serviceId request.planId with
  | ok resolved =>
    obtain ⟨⟨service, held, offers, own, named⟩, -⟩ := Registry.of_resolve found
    exact absurd (offers ▸ named ▸ lists_of_mem held own) (unlisted resolved.1)
  | error cause =>
    have spared : u.Spares w.store (.provision id request asyncAllowed) := current
    rw [transparent spared]
    exact ⟨cause, Scene.play_bind_of_error _
      (Broker.play_provision_of_unresolved unlimited fresh found)⟩

/-- What is advertised and what is provisioned agree. Each registered service is listed once, with
its own plans first and after them a plan for each path off it. A plan that is listed is refused if
it is a legacy plan, and otherwise had from the provider that was registered for its service; and
what is not listed comes to no provider. -/
theorem advertised_plans_provisioned
    (built : Registry.ofEntries entries = .ok u.broker.registry) :
    u.services.Perm (entries.map fun entry => { entry.1 with
      planUpdateable := entry.1.planUpdateable || u.paths.any (·.serviceId = entry.1.id)
      plans := entry.1.plans ++ (u.paths.filter (·.serviceId = entry.1.id)).map (·.plan) }) ∧
    (u.services.map (·.id)).Nodup ∧
    ∀ (w w' : Scene) now time conduct id (request : ProvisionRequest) fields r,
      u.broker.instanceLimit = none → w.store.row? id = none → request.parameters = .ok fields →
      w.play time conduct (u.perform now (.provision id request true)) = (r, w') →
      (u.Legacy request.serviceId request.planId →
        (∃ reason, r = .error (.legacyPlan reason)) ∧ w' = w) ∧
      (¬ u.Legacy request.serviceId request.planId →
        (∀ plan, u.Lists request.serviceId request.planId plan →
          ∃ entry ∈ entries, entry.1.id = request.serviceId ∧
            w'.told = ⟨entry.2, .provision id request plan⟩ :: w.told ∧
            (r = .ok (.provisioned entry.2.provisionsAsync) ∨
              ∃ cause, r = .error (.provider cause))) ∧
        ((∀ plan, ¬ u.Lists request.serviceId request.planId plan) →
          (∃ cause, r = .error (.catalog cause)) ∧ w' = w)) := by
  refine ⟨?_, services_distinct built, ?_⟩
  · simpa only [augment_eq] using services_perm_of_built built
  intro w w' now time conduct id request fields r unlimited fresh described played
  refine ⟨fun legacy => ?_, fun current => ⟨fun plan listed => ?_, fun unlisted => ?_⟩⟩
  · obtain ⟨reason, refused⟩ := play_provision_of_legacy legacy id true
    cases played.symm.trans refused
    exact ⟨⟨reason, rfl⟩, rfl⟩
  · exact provision_of_listed built unlimited fresh described listed current played
  · obtain ⟨cause, refused⟩ := play_provision_of_unlisted unlimited fresh unlisted current true
    cases played.symm.trans refused
    exact ⟨⟨cause, rfl⟩, rfl⟩

end Upgrader

/-- The plan of today is listed and handed to its provider, which happens to be busy. -/
theorem Upgrader.advertised_plans_provisioned_today :
    let u := Sample.upgrader
    let service : Service := { id := "bucket", name := "bucket", plans := [Sample.plan] }
    let entries : List (Service × Provider) := [(service, Sample.promptProvider)]
    let w : Scene := ⟨.empty, []⟩
    let outcome := w.play 0 (fun _ _ _ => .error (.unavailable "busy"))
      (u.perform 0 (.provision "i" Sample.request true))
    Registry.ofEntries entries = .ok u.broker.registry ∧ u.broker.instanceLimit = none ∧
      w.store.row? "i" = none ∧ Sample.request.parameters = .ok [] ∧
      u.Lists "bucket" "small" Sample.plan ∧ ¬ u.Legacy "bucket" "small" ∧
      ∃ entry ∈ entries,
        outcome.2.told = [⟨entry.2, .provision "i" Sample.request Sample.plan⟩] := by
  intro u service entries w outcome
  have formed : service.WellFormed :=
    ⟨by decide, by decide, List.forall_mem_singleton.mpr (by decide), List.pairwise_singleton _ _⟩
  have built : Registry.ofEntries entries = .ok u.broker.registry :=
    Registry.ofEntries_eq_ok_iff.mpr
      ⟨rfl, List.forall_mem_singleton.mpr formed, List.pairwise_singleton _ _⟩
  have current : ¬ u.Legacy "bucket" "small" := by
    simp [Upgrader.Legacy, u, Sample.upgrader]
  have held : service ∈ u.broker.registry.catalog.services := List.mem_singleton_self _
  have own : Sample.plan ∈ service.plans := List.mem_singleton_self _
  have listed : u.Lists "bucket" "small" Sample.plan := Upgrader.lists_of_mem held own
  obtain ⟨-, -, provisioning⟩ := Upgrader.advertised_plans_provisioned built
  obtain ⟨-, offered⟩ :=
    provisioning w outcome.2 0 0 _ "i" Sample.request [] outcome.1 rfl rfl rfl rfl
  obtain ⟨entry, registered, -, told, -⟩ := (offered current).1 Sample.plan listed
  exact ⟨built, rfl, rfl, rfl, listed, current, entry, registered, told⟩

end Brokerage
