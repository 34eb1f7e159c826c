import Brokerage.Proofs.Broker.World
import Brokerage.Proofs.Store.Instances

/-! The courses that creating and deleting an instance may take: refusal before a provider is
called, or one call to it and what the answer and the last write make of it. -/

namespace Brokerage

theorem liveInstance_eq (id : String) : liveInstance id =
    (StoreCall.getInstance id).result >>= fun answer => Fallible.ofExcept (answer.mapError fun e =>
      if e.isNotFound then .instanceDoesNotExist id else .store e) := by
  refine congrArg ((StoreCall.getInstance id).result >>= ·) (funext fun answer => ?_)
  cases answer <;> rfl

namespace Acts

variable {faults : Faults} {α : Type} {s s' : Store} {asked : List Consultation}

/-- What follows the look-up of a live instance gets its row; else there is none, or the look-up
fails. -/
theorem of_liveInstance {id : String} {f : InstanceRow → Action α} {r : Except BrokerError α}
    (h : Acts faults (liveInstance id >>= f) s asked r s') :
    (∃ row, s.liveInstance? id = some row ∧ Acts faults (f row) s asked r s') ∨
      Refused s asked r s' ∧ (faults.Possible ∨ s.liveInstance? id = none) := by
  rcases of_storeExcept (liveInstance_eq id) h with ⟨now, followed⟩ | ⟨e, allowed, followed⟩
  · rw [Store.step_getInstance, Store.getInstance] at followed
    cases found : s.liveInstance? id with
    | some row =>
      rw [found] at followed
      exact .inl ⟨row, rfl, followed⟩
    | none =>
      rw [found] at followed
      exact .inr ⟨.of_throw rfl followed, .inr rfl⟩
  · exact .inr ⟨.of_throw rfl followed, .inl ⟨_, e, allowed⟩⟩

/-- What follows the saving of a live instance finds it saved, or gets a failure without effect. -/
theorem of_saveInstance {row old : InstanceRow} {f : Except StoreError Unit → Action α}
    {r : Except BrokerError α} (live : s.liveInstance? row.id = some old)
    (h : Acts faults ((StoreCall.saveInstance row).result >>= f) s asked r s') :
    (∃ time, Acts faults (f (.ok ()))
        (s.rewriteInstance row.id (Store.overwriteInstance time row)) asked r s') ∨
      faults.Possible ∧ ∃ e, Acts faults (f (.error e)) s asked r s' := by
  rcases of_storeResult h with ⟨time, followed⟩ | ⟨e, allowed, followed⟩
  · rw [Store.step_saveInstance_of_live time live] at followed
    exact .inl ⟨time, followed⟩
  · exact .inr ⟨⟨_, e, allowed⟩, e, followed⟩

theorem of_softDeleteInstance {id : String} {row : InstanceRow}
    {f : Except StoreError Unit → Action α} {r : Except BrokerError α}
    (live : s.liveInstance? id = some row)
    (h : Acts faults ((StoreCall.softDeleteInstance id).result >>= f) s asked r s') :
    (∃ time, Acts faults (f (.ok ())) (s.rewriteInstance id (Store.deleted time)) asked r s') ∨
      faults.Possible ∧ ∃ e, Acts faults (f (.error e)) s asked r s' := by
  rcases of_storeResult h with ⟨time, followed⟩ | ⟨e, allowed, followed⟩
  · rw [Store.step_softDeleteInstance_of_live time live] at followed
    exact .inl ⟨time, followed⟩
  · exact .inr ⟨⟨_, e, allowed⟩, e, followed⟩

end Acts

namespace Broker

theorem isStale_age {b : Broker} {now createdAt : Instant}
    (stale : b.isStale now createdAt = true) :
    (b.claimTimeout : Int) ≤ now - createdAt := by
  simp only [isStale, Bool.and_eq_true, decide_eq_true_eq] at stale
  exact stale.2

theorem isStale_of_young {b : Broker} {now createdAt : Instant}
    (young : now - createdAt < b.claimTimeout) : b.isStale now createdAt = false := by
  have early : ¬ (b.claimTimeout : Int) ≤ now - createdAt := Int.not_le.mpr young
  simp [isStale, early]

/-- There is room for another instance. -/
def HasRoom (b : Broker) (s : Store) : Prop :=
  ∀ limit, b.instanceLimit = some limit → s.countAllInstances < limit

/-- What a provider is told to create, by a request, is new, named in the catalog, and described
well enough; and the caller takes the way in which the provider works. -/
structure MayProvision (b : Broker) (id : String) (request : ProvisionRequest)
    (asyncAllowed : Bool) (s : Store) (plan : Plan) (provider : Provider) : Prop where
  room : b.HasRoom s
  fresh : s.row? id = none
  resolved : b.registry.resolve request.serviceId request.planId = .ok (plan, provider)
  async : provider.provisionsAsync = true → asyncAllowed = true
  parameters : ∃ fields, request.parameters = .ok fields

/-- The row by which an instance is claimed. -/
def claim (now : Instant) (id : String) (request : ProvisionRequest) (plan : Plan) : InstanceRow :=
  { InstanceRow.claim now id request.serviceId plan.id with
    organizationGuid := request.organizationGuid
    spaceGuid := request.spaceGuid }

/-- The store that holds the request for an instance, but not the instance. -/
def requested (now : Instant) (id : String) (request : ProvisionRequest) (s : Store) : Store :=
  s.withRequest (.of now id request.toJson)

/-- The store in which an instance is claimed. -/
def claimed (now : Instant) (id : String) (request : ProvisionRequest) (plan : Plan) (s : Store) :
    Store :=
  (requested now id request s).withInstance (claim now id request plan)

/-- The courses of `provision`: its consultations, its result, and the store that it leaves. -/
inductive Provisioning (b : Broker) (faults : Faults) (now : Instant) (id : String)
    (request : ProvisionRequest) (asyncAllowed : Bool) (s : Store) :
    List Consultation → Except BrokerError Bool → Store → Prop
  | refused {e : BrokerError} (orphans : e.isOrphaning = false)
      (cause : faults.Possible ∨
        ∀ plan provider, ¬ b.MayProvision id request asyncAllowed s plan provider) :
      Provisioning b faults now id request asyncAllowed s [] (.error e) s
  | failed {plan : Plan} {provider : Provider} {e : ProviderError} {s' : Store}
      (may : b.MayProvision id request asyncAllowed s plan provider)
      (released : s' = requested now id request s ∨
        faults.Possible ∧ s' = claimed now id request plan s) :
      Provisioning b faults now id request asyncAllowed s
        [⟨claimed now id request plan s, provider, .provision id request plan, .error e⟩]
        (.error (.provider e)) s'
  | orphaned {plan : Plan} {provider : Provider} {metadata : InstanceMetadata} {e : StoreError}
      (may : b.MayProvision id request asyncAllowed s plan provider) (fault : faults.Possible) :
      Provisioning b faults now id request asyncAllowed s
        [⟨claimed now id request plan s, provider, .provision id request plan, .ok metadata⟩]
        (.error (.orphaned "instance" id "provision" e)) (claimed now id request plan s)
  | created {plan : Plan} {provider : Provider} {metadata : InstanceMetadata} (saved : Instant)
      (may : b.MayProvision id request asyncAllowed s plan provider) :
      Provisioning b faults now id request asyncAllowed s
        [⟨claimed now id request plan s, provider, .provision id request plan, .ok metadata⟩]
        (.ok provider.provisionsAsync)
        ((requested now id request s).withInstance (Store.overwriteInstance saved
          (provisionedRow (claim now id request plan) metadata provider.provisionsAsync)
          (claim now id request plan)))

section Provision

variable {b : Broker} {faults : Faults} {now : Instant} {id : String} {request : ProvisionRequest}
  {asyncAllowed : Bool} {s s' : Store} {asked : List Consultation}

theorem checkInstanceLimit_acts {r : Except BrokerError Unit}
    (h : Acts faults b.checkInstanceLimit s asked r s') :
    asked = [] ∧ s' = s ∧ (r = .ok () ∧ b.HasRoom s ∨
      ∃ e, r = .error e ∧ e.isOrphaning = false ∧ (faults.Possible ∨ ¬ b.HasRoom s)) := by
  unfold checkInstanceLimit at h
  cases limited : b.instanceLimit with
  | none =>
    rw [limited] at h
    obtain ⟨rfl, rfl, rfl⟩ := Acts.of_pure h
    exact ⟨rfl, rfl, .inl ⟨rfl, fun limit h => by simp [limited] at h⟩⟩
  | some limit =>
    rw [limited] at h
    have room_iff : b.HasRoom s ↔ s.countAllInstances < limit := by simp [HasRoom, limited]
    rcases Acts.of_storeValue h with ⟨_, _, ⟨⟩, followed⟩ | ⟨e, rfl, rfl, cause⟩
    · by_cases below : s.countAllInstances < limit
      · rw [decide_eq_true below] at followed
        obtain ⟨rfl, rfl, rfl⟩ := Acts.of_pure followed
        exact ⟨rfl, rfl, .inl ⟨rfl, room_iff.mpr below⟩⟩
      · rw [decide_eq_false below] at followed
        obtain ⟨rfl, rfl, rfl⟩ := Acts.of_throw followed
        exact ⟨rfl, rfl, .inr ⟨_, rfl, rfl, .inr (mt room_iff.mp below)⟩⟩
    · rcases cause with ⟨allowed, rfl⟩ | ⟨_, ⟨⟩⟩
      exact ⟨rfl, rfl, .inr ⟨_, rfl, rfl, .inl ⟨_, e, allowed⟩⟩⟩

/-- What follows the check of the limit finds room; else there is none, or the check fails. -/
theorem of_checkInstanceLimit {α : Type} {f : Unit → Action α} {r : Except BrokerError α}
    (h : Acts faults (b.checkInstanceLimit >>= f) s asked r s') :
    b.HasRoom s ∧ Acts faults (f ()) s asked r s' ∨
      Acts.Refused s asked r s' ∧ (faults.Possible ∨ ¬ b.HasRoom s) := by
  rcases Acts.of_bind h with ⟨e, rfl, limited⟩ | ⟨first, last, _, t, rfl, limited, rest⟩
  · obtain ⟨rfl, rfl, ⟨⟨⟩, -⟩ | ⟨_, ⟨⟩, orphans, cause⟩⟩ := checkInstanceLimit_acts limited
    exact .inr ⟨⟨e, orphans, rfl, rfl, rfl⟩, cause⟩
  · obtain ⟨rfl, rfl, ⟨-, room⟩ | ⟨_, ⟨⟩, -⟩⟩ := checkInstanceLimit_acts limited
    exact .inl ⟨room, rest⟩

theorem claimInstance_eq (row : InstanceRow) (stored : RequestRow) : claimInstance row stored =
    (StoreCall.claimInstance row stored).result >>= fun answer =>
      Fallible.ofExcept ((answer.mapError fun e =>
        if e.isConstraint then .instanceAlreadyExists row.id else .store e).map fun _ => ()) := by
  refine congrArg ((StoreCall.claimInstance row stored).result >>= ·) (funext fun answer => ?_)
  cases answer <;> rfl

/-- What follows a claim finds the instance claimed; else it has a row, or the claim fails. -/
theorem of_claimInstance {α : Type} {row : InstanceRow} {stored : RequestRow} {f : Unit → Action α}
    {r : Except BrokerError α} (live : row.live = true)
    (h : Acts faults (claimInstance row stored >>= f) s asked r s') :
    s.row? row.id = none ∧ Acts faults (f ()) ((s.withRequest stored).withInstance row) asked r s' ∨
      Acts.Refused s asked r s' ∧ (faults.Possible ∨ s.row? row.id ≠ none) := by
  rcases Acts.of_storeExcept (claimInstance_eq row stored) h with
    ⟨time, followed⟩ | ⟨e, allowed, followed⟩
  · by_cases fresh : s.row? row.id = none
    · rw [Store.step_claimInstance_of_fresh time stored fresh live] at followed
      exact .inl ⟨fresh, followed⟩
    · obtain ⟨message, step⟩ := Store.step_claimInstance_of_taken time stored fresh
      rw [step] at followed
      exact .inr ⟨.of_throw rfl followed, .inr fresh⟩
  · exact .inr ⟨.of_throw rfl followed, .inl ⟨_, e, allowed⟩⟩

/-- A provision takes one of its courses. -/
theorem Provisioning.of_acts {r : Except BrokerError Bool}
    (h : Acts faults (b.provision now id request asyncAllowed) s asked r s') :
    Provisioning b faults now id request asyncAllowed s asked r s' := by
  unfold provision at h
  rcases of_checkInstanceLimit h with ⟨room, counting⟩ | ⟨⟨e, orphans, rfl, rfl, rfl⟩, cause⟩
  case inr =>
    exact .refused orphans (cause.imp_right fun full plan provider may => full may.room)
  rcases Acts.of_storeValue counting with ⟨_, _, ⟨⟩, counted⟩ | ⟨e, rfl, rfl, cause⟩
  case inr =>
    rcases cause with ⟨allowed, rfl⟩ | ⟨_, ⟨⟩⟩
    exact .refused rfl (.inl ⟨_, e, allowed⟩)
  rcases Acts.of_require counted with ⟨-, resolving⟩ | ⟨known, rfl, rfl, rfl⟩
  case inr =>
    -- Only live rows are counted, but what has no row at all is not counted either.
    refine .refused rfl (.inr fun plan provider may => ?_)
    simp [Store.countInstances_of_fresh may.fresh] at known
  rcases Acts.of_ofCatalog resolving with
    ⟨⟨plan, provider⟩, resolved, choosing⟩ | ⟨e, unknown, rfl, rfl, rfl⟩
  case inr =>
    refine .refused rfl (.inr fun plan provider may => ?_)
    rw [may.resolved] at unknown
    cases unknown
  rcases Acts.of_require choosing with ⟨async, reading⟩ | ⟨sync, rfl, rfl, rfl⟩
  case inr =>
    refine .refused rfl (.inr fun plan' provider' may => ?_)
    obtain ⟨rfl, rfl⟩ : plan' = plan ∧ provider' = provider := by
      simpa using may.resolved.symm.trans resolved
    have := may.async
    simp_all
  cases parameters : request.parameters with
  | error e =>
    rw [parameters] at reading
    obtain ⟨rfl, rfl, rfl⟩ := Acts.of_throw reading
    refine .refused rfl (.inr fun plan provider may => ?_)
    obtain ⟨fields, h⟩ := may.parameters
    rw [parameters] at h
    cases h
  | ok fields =>
    rw [parameters] at reading
    rcases of_claimInstance rfl reading with
      ⟨fresh, asking⟩ | ⟨⟨e, orphans, rfl, rfl, rfl⟩, cause⟩
    case inr =>
      exact .refused orphans (cause.imp_right fun known plan provider may => known may.fresh)
    have may : b.MayProvision id request asyncAllowed s plan provider :=
      ⟨room, fresh, resolved, by cases h : provider.provisionsAsync <;> simp_all, fields,
        parameters⟩
    have fresh : (requested now id request s).row? (claim now id request plan).id = none := fresh
    obtain ⟨answer, rest, rfl, answered⟩ := Acts.of_providerResult asking
    cases answer with
    | error e =>
      rcases Acts.of_storeResult answered with ⟨time, ending⟩ | ⟨fault, allowed, ending⟩
      · obtain ⟨rfl, rfl, rfl⟩ := Acts.of_throw ending
        exact .failed may (.inl (Store.releaseInstanceClaim_withInstance fresh rfl rfl))
      · obtain ⟨rfl, rfl, rfl⟩ := Acts.of_throw ending
        exact .failed may (.inr ⟨⟨_, fault, allowed⟩, rfl⟩)
    | ok metadata =>
      have live : (claimed now id request plan s).liveInstance?
          (provisionedRow (claim now id request plan) metadata provider.provisionsAsync).id =
            some (claim now id request plan) :=
        Store.liveInstance?_withInstance fresh rfl
      rcases Acts.of_saveInstance live answered with ⟨time, ending⟩ | ⟨fault, e, ending⟩
      · obtain ⟨rfl, rfl, rfl⟩ := Acts.of_pure ending
        exact Store.rewriteInstance_withInstance fresh rfl ▸ .created time may
      · obtain ⟨rfl, rfl, rfl⟩ := Acts.of_throw ending
        exact .orphaned may fault

/-- A provision leaves the bindings as they are. -/
theorem Provisioning.bindings_eq {r : Except BrokerError Bool}
    (h : Provisioning b faults now id request asyncAllowed s asked r s') :
    s'.bindings = s.bindings := by
  cases h with
  | refused | orphaned | created => rfl
  | failed _ released => rcases released with rfl | ⟨-, rfl⟩ <;> rfl

end Provision

/-- What a provider is told to delete is live and not being deleted, nor claimed by another call
that may still be at it; the provider serves it, and the caller takes the way in which it works. -/
structure MayDeprovision (b : Broker) (now : Instant) (id : String) (asyncAllowed : Bool)
    (s : Store) (row : InstanceRow) (provider : Provider) : Prop where
  live : s.liveInstance? id = some row
  idle : row.status ≠ .deprovisioning
  abandoned : row.status = .pending → b.isStale now row.createdAt = true
  served : b.registry.provider row.serviceId = .ok provider
  async : provider.deprovisionsAsync = true → asyncAllowed = true

/-- A row as it is left by a deletion that the provider accepted. -/
def deprovisionedRow (row : InstanceRow) (isAsync : Bool) (saved : Instant) :
    InstanceRow → InstanceRow :=
  if isAsync then Store.overwriteInstance saved (row.withStatus .deprovisioning)
  else Store.deleted saved

/-- The courses of `deprovision`. -/
inductive Deprovisioning (b : Broker) (faults : Faults) (now : Instant) (id : String)
    (request : DeprovisionRequest) (asyncAllowed : Bool) (s : Store) :
    List Consultation → Except BrokerError Bool → Store → Prop
  | refused {e : BrokerError} (orphans : e.isOrphaning = false)
      (cause : faults.Possible ∨
        ∀ row provider, ¬ b.MayDeprovision now id asyncAllowed s row provider) :
      Deprovisioning b faults now id request asyncAllowed s [] (.error e) s
  | failed {row : InstanceRow} {provider : Provider} {e : ProviderError}
      (may : b.MayDeprovision now id asyncAllowed s row provider) :
      Deprovisioning b faults now id request asyncAllowed s
        [⟨s, provider, .deprovision row request, .error e⟩] (.error (.provider e)) s
  | orphaned {row : InstanceRow} {provider : Provider} {e : StoreError}
      (may : b.MayDeprovision now id asyncAllowed s row provider) (fault : faults.Possible) :
      Deprovisioning b faults now id request asyncAllowed s
        [⟨s, provider, .deprovision row request, .ok ()⟩]
        (.error (.orphaned "instance" id "deprovision" e)) s
  | accepted {row : InstanceRow} {provider : Provider} (saved : Instant)
      (may : b.MayDeprovision now id asyncAllowed s row provider) :
      Deprovisioning b faults now id request asyncAllowed s
        [⟨s, provider, .deprovision row request, .ok ()⟩] (.ok provider.deprovisionsAsync)
        (s.rewriteInstance id (deprovisionedRow row provider.deprovisionsAsync saved))

section Deprovision

variable {b : Broker} {faults : Faults} {now : Instant} {id : String} {request : DeprovisionRequest}
  {asyncAllowed : Bool} {s s' : Store} {asked : List Consultation} {row : InstanceRow}

theorem of_checkDeletable {α : Type} {f : Unit → Action α} {r : Except BrokerError α}
    (h : Acts faults (b.checkDeletable now row >>= f) s asked r s') :
    (row.status ≠ .deprovisioning ∧
        (row.status = .pending → b.isStale now row.createdAt = true)) ∧
        Acts faults (f ()) s asked r s' ∨
      Acts.Refused s asked r s' ∧
        (row.status = .deprovisioning ∨
          row.status = .pending ∧ b.isStale now row.createdAt = false) := by
  unfold checkDeletable at h
  cases status : row.status with
  | deprovisioning =>
    rw [status] at h
    have failed : Acts faults (throw (inProgress row) : Action α) s asked r s' := h
    exact .inr ⟨⟨_, rfl, Acts.of_throw failed⟩, .inl rfl⟩
  | pending =>
    rw [status] at h
    rcases Acts.of_require h with ⟨stale, rest⟩ | ⟨fresh, refused⟩
    · exact .inl ⟨⟨nofun, fun _ => stale⟩, rest⟩
    · exact .inr ⟨⟨_, rfl, refused⟩, .inr ⟨rfl, fresh⟩⟩
  | provisioning =>
    rw [status] at h
    exact .inl ⟨⟨nofun, nofun⟩, h⟩
  | active =>
    rw [status] at h
    exact .inl ⟨⟨nofun, nofun⟩, h⟩

/-- A deprovision takes one of its courses. -/
theorem Deprovisioning.of_acts {r : Except BrokerError Bool}
    (h : Acts faults (b.deprovision now id request asyncAllowed) s asked r s') :
    Deprovisioning b faults now id request asyncAllowed s asked r s' := by
  unfold deprovision at h
  rcases Acts.of_liveInstance h with ⟨row, live, checking⟩ | ⟨⟨e, orphans, rfl, rfl, rfl⟩, cause⟩
  case inr =>
    refine .refused orphans (cause.imp_right fun absent row provider may => ?_)
    rw [may.live] at absent
    cases absent
  have same : ∀ row' provider, b.MayDeprovision now id asyncAllowed s row' provider →
      row' = row := fun _ _ may => by simpa [may.live] using live
  rcases of_checkDeletable checking with
    ⟨⟨idle, abandoned⟩, looking⟩ | ⟨⟨e, orphans, rfl, rfl, rfl⟩, busy⟩
  case inr =>
    refine .refused orphans (.inr fun row' provider may => ?_)
    obtain rfl := same row' provider may
    rcases busy with status | ⟨status, fresh⟩
    · exact may.idle status
    · simp [may.abandoned status] at fresh
  rcases Acts.of_ofCatalog looking with ⟨provider, served, choosing⟩ | ⟨e, unknown, rfl, rfl, rfl⟩
  case inr =>
    refine .refused rfl (.inr fun row' provider may => ?_)
    obtain rfl := same row' provider may
    rw [may.served] at unknown
    cases unknown
  rcases Acts.of_require choosing with ⟨async, asking⟩ | ⟨sync, rfl, rfl, rfl⟩
  case inr =>
    refine .refused rfl (.inr fun row' provider' may => ?_)
    obtain rfl := same row' provider' may
    obtain rfl : provider' = provider := by simpa using may.served.symm.trans served
    have := may.async
    simp_all
  have may : b.MayDeprovision now id asyncAllowed s row provider :=
    ⟨live, idle, abandoned, served, by cases h : provider.deprovisionsAsync <;> simp_all⟩
  rcases Acts.of_providerValue asking with ⟨_, rest, rfl, writing⟩ | ⟨e, rfl, rfl, rfl⟩
  case inr => exact .failed may
  obtain rfl := Store.liveInstance?_id live
  have accepted : ∀ time, Deprovisioning b faults now row.id request asyncAllowed s
      [⟨s, provider, .deprovision row request, .ok ()⟩] (.ok provider.deprovisionsAsync)
      (s.rewriteInstance row.id (deprovisionedRow row provider.deprovisionsAsync time)) :=
    fun time => .accepted time may
  cases way : provider.deprovisionsAsync with
  | true =>
    rw [way] at writing accepted
    have live : s.liveInstance? (row.withStatus .deprovisioning).id = some row := live
    rcases Acts.of_saveInstance live writing with ⟨time, ending⟩ | ⟨fault, e, ending⟩
    · obtain ⟨rfl, rfl, rfl⟩ := Acts.of_pure ending
      exact accepted time
    · obtain ⟨rfl, rfl, rfl⟩ := Acts.of_throw ending
      exact .orphaned may fault
  | false =>
    rw [way] at writing accepted
    rcases Acts.of_softDeleteInstance live writing with ⟨time, ending⟩ | ⟨fault, e, ending⟩
    · obtain ⟨rfl, rfl, rfl⟩ := Acts.of_pure ending
      exact accepted time
    · obtain ⟨rfl, rfl, rfl⟩ := Acts.of_throw ending
      exact .orphaned may fault

/-- A deprovision leaves the bindings as they are. -/
theorem Deprovisioning.bindings_eq {r : Except BrokerError Bool}
    (h : Deprovisioning b faults now id request asyncAllowed s asked r s') :
    s'.bindings = s.bindings := by
  cases h <;> rfl

end Deprovision

end Broker

end Brokerage
