import Brokerage.Proofs.Broker.Instance

/-! The courses that a poll may take: what it hears from the provider, and what it makes of that. -/

namespace Brokerage

/-- A row as it is left by an action; a claim that is released leaves none. -/
def RecordAction.row? (time : Instant) (row : InstanceRow) : RecordAction → Option InstanceRow
  | .softDelete => some (Store.deleted time row)
  | .markActive => some (Store.overwriteInstance time (row.withStatus .active) row)
  | .markProvisioning => some (Store.overwriteInstance time (row.withStatus .provisioning) row)
  | .releaseClaim => none

/-- The store once an action on a row has been carried out. -/
def RecordAction.effect (time : Instant) (row : InstanceRow) (s : Store) : RecordAction → Store
  | .softDelete => s.rewriteInstance row.id (Store.deleted time)
  | .markActive => s.rewriteInstance row.id (Store.overwriteInstance time (row.withStatus .active))
  | .markProvisioning =>
    s.rewriteInstance row.id (Store.overwriteInstance time (row.withStatus .provisioning))
  | .releaseClaim => (s.releaseInstanceClaim row.id).2

namespace RecordAction

variable {time : Instant} {row : InstanceRow} {s : Store} {action : RecordAction}

/-- An action changes its own row and no other. -/
theorem row?_effect_ne (keys : s.DistinctInstances) {id : String} (h : id ≠ row.id) :
    (action.effect time row s).row? id = s.row? id := by
  cases action with
  | softDelete => exact Store.row?_rewriteInstance_ne (Store.deleted_id time) h
  | markActive | markProvisioning =>
    exact Store.row?_rewriteInstance_ne (Store.overwriteInstance_id time _) h
  | releaseClaim => exact Store.row?_releaseInstanceClaim_ne keys h

theorem row?_effect (keys : s.DistinctInstances) (live : s.liveInstance? row.id = some row)
    (claimed : action = .releaseClaim → row.status = .pending) :
    (action.effect time row s).row? row.id = action.row? time row := by
  cases action with
  | softDelete => exact Store.row?_rewriteInstance_self keys (Store.deleted_id time) live
  | markActive | markProvisioning =>
    exact Store.row?_rewriteInstance_self keys (Store.overwriteInstance_id time _) live
  | releaseClaim => exact Store.row?_releaseInstanceClaim_self keys live (claimed rfl)

end RecordAction

namespace Broker

/-- What is polled is live, of a service of a provider that works out of band, and not claimed by a
call that may still be at it. -/
structure MayPoll (b : Broker) (now : Instant) (id : String) (s : Store) (row : InstanceRow)
    (provider : Provider) : Prop where
  live : s.liveInstance? id = some row
  served : b.registry.provider row.serviceId = .ok provider
  async : provider.provisionsAsync = true ∨ provider.deprovisionsAsync = true
  abandoned : row.status = .pending → b.isStale now row.createdAt = true

/-- What the answers of a provider come to: its answer to the poll, and to the question which
operation it was where the row does not say. -/
inductive Heard (provider : Provider) (row : InstanceRow) (s : Store) :
    List Consultation → PollOutcome → Prop
  | pending : Heard provider row s [⟨s, provider, .poll row, .ok false⟩] .pending
  | inFlight {kind : WorkKind} (known : WorkKind.inFlight row.status = some kind) :
      Heard provider row s [⟨s, provider, .poll row, .ok true⟩] (.done kind)
  | told {wasDelete : Bool} (unknown : WorkKind.inFlight row.status = none) :
      Heard provider row s
        [⟨s, provider, .poll row, .ok true⟩, ⟨s, provider, .wasDelete row, .ok wasDelete⟩]
        (.done (if wasDelete then .delete else .create))
  | failed {e : ProviderError} :
      Heard provider row s [⟨s, provider, .poll row, .error e⟩]
        (if e.isTransient then .transient e.message else .failed e.message)

theorem active_of_inFlight {status : InstanceStatus} (h : WorkKind.inFlight status = none) :
    status = .active := by
  cases status <;> first | rfl | cases h

/-- What a provider must have answered, and about which row, for an action to be carried out. -/
inductive CalledFor (provider : Provider) (row : InstanceRow) (s : Store) :
    List Consultation → RecordAction → Prop
  | resumed (pending : row.status = .pending) :
      CalledFor provider row s [⟨s, provider, .poll row, .ok false⟩] .markProvisioning
  | finished (creating : row.status = .pending ∨ row.status = .provisioning) :
      CalledFor provider row s [⟨s, provider, .poll row, .ok true⟩] .markActive
  | givenUp {e : ProviderError} (pending : row.status = .pending)
      (lasting : e.isTransient = false) :
      CalledFor provider row s [⟨s, provider, .poll row, .error e⟩] .releaseClaim
  | gone (deleting : row.status = .deprovisioning) :
      CalledFor provider row s [⟨s, provider, .poll row, .ok true⟩] .softDelete
  | wasDelete (active : row.status = .active) :
      CalledFor provider row s
        [⟨s, provider, .poll row, .ok true⟩, ⟨s, provider, .wasDelete row, .ok true⟩] .softDelete

theorem CalledFor.pending_of_release {provider : Provider} {row : InstanceRow} {s : Store}
    {asked : List Consultation} {action : RecordAction}
    (called : CalledFor provider row s asked action) (release : action = .releaseClaim) :
    row.status = .pending := by
  subst release
  cases called with
  | givenUp pending => exact pending

theorem Heard.calledFor {provider : Provider} {row : InstanceRow} {s : Store}
    {asked : List Consultation} {outcome : PollOutcome} {action : RecordAction}
    (heard : Heard provider row s asked outcome)
    (called : (Transition.next row.status outcome).action = some action) :
    CalledFor provider row s asked action := by
  cases heard with
  | pending =>
    cases status : row.status <;> simp [status, Transition.next] at called
    obtain rfl := called
    exact .resumed status
  | inFlight known =>
    cases status : row.status <;> rw [status] at known <;> cases known <;>
      simp [status, Transition.next] at called <;> obtain rfl := called
    · exact .finished (.inl status)
    · exact .finished (.inr status)
    · exact .gone status
  | @told wasDelete unknown =>
    have status := active_of_inFlight unknown
    cases wasDelete <;> simp [status, Transition.next] at called
    obtain rfl := called
    exact .wasDelete status
  | @failed e =>
    cases transient : e.isTransient <;> rw [transient] at called <;>
      cases status : row.status <;> simp [status, Transition.next] at called
    obtain rfl := called
    exact .givenUp status transient

/-- What is made of an outcome: the report, and the store after the action that it calls for. -/
inductive Settled (faults : Faults) (row : InstanceRow) (outcome : PollOutcome) (s : Store) :
    LastOperation → Store → Prop
  | idle (none : (Transition.next row.status outcome).action = none) :
      Settled faults row outcome s
        ⟨(Transition.next row.status outcome).state,
          (Transition.next row.status outcome).description⟩ s
  | written {action : RecordAction} (time : Instant)
      (some : (Transition.next row.status outcome).action = some action) :
      Settled faults row outcome s
        ⟨(Transition.next row.status outcome).state,
          (Transition.next row.status outcome).description⟩ (action.effect time row s)
  | unwritten {action : RecordAction} (e : StoreError) (fault : faults.Possible)
      (some : (Transition.next row.status outcome).action = some action) :
      Settled faults row outcome s
        ⟨(Transition.next row.status outcome).state, .some (actionFailure e action)⟩ s

/-- The courses of `lastOperation`. -/
inductive Polling (b : Broker) (faults : Faults) (now : Instant) (id : String) (s : Store) :
    List Consultation → Except BrokerError LastOperation → Store → Prop
  | refused {e : BrokerError} (orphans : e.isOrphaning = false)
      (cause : faults.Possible ∨ ∀ row provider, s.liveInstance? id = some row →
        b.registry.provider row.serviceId = .ok provider →
        provider.provisionsAsync = false ∧ provider.deprovisionsAsync = false) :
      Polling b faults now id s [] (.error e) s
  | young {row : InstanceRow} (live : s.liveInstance? id = some row)
      (pending : row.status = .pending) (fresh : b.isStale now row.createdAt = false) :
      Polling b faults now id s [] (.ok ⟨.inProgress, none⟩) s
  | undetermined {row : InstanceRow} {provider : Provider} {e : ProviderError}
      (may : b.MayPoll now id s row provider) (active : row.status = .active) :
      Polling b faults now id s
        [⟨s, provider, .poll row, .ok true⟩, ⟨s, provider, .wasDelete row, .error e⟩]
        (.ok ⟨.succeeded, some undeterminedOperation⟩) s
  | settled {row : InstanceRow} {provider : Provider} {asked : List Consultation}
      {outcome : PollOutcome} {report : LastOperation} {s' : Store}
      (may : b.MayPoll now id s row provider) (heard : Heard provider row s asked outcome)
      (settled : Settled faults row outcome s report s') :
      Polling b faults now id s asked (.ok report) s'

section LastOperation

variable {b : Broker} {faults : Faults} {now : Instant} {id : String} {s s' : Store}
  {asked : List Consultation} {row : InstanceRow}

theorem carryOut_releaseClaim (row : InstanceRow) : carryOut row .releaseClaim =
    (StoreCall.releaseInstanceClaim row.id).result >>= fun answer =>
      pure (answer.map fun _ => ()) := by
  refine congrArg ((StoreCall.releaseInstanceClaim row.id).result >>= ·)
    (funext fun answer => ?_)
  cases answer <;> rfl

/-- What follows an action on a live row finds it carried out, or gets a failure without effect. -/
theorem of_carryOut {α : Type} {action : RecordAction} {f : Except StoreError Unit → Action α}
    {r : Except BrokerError α} (live : s.liveInstance? row.id = some row)
    (h : Acts faults (carryOut row action >>= f) s asked r s') :
    (∃ time, Acts faults (f (.ok ())) (action.effect time row s) asked r s') ∨
      faults.Possible ∧ ∃ e, Acts faults (f (.error e)) s asked r s' := by
  cases action with
  | softDelete => exact Acts.of_softDeleteInstance live h
  | markActive =>
    have live : s.liveInstance? (row.withStatus .active).id = some row := live
    exact Acts.of_saveInstance live h
  | markProvisioning =>
    have live : s.liveInstance? (row.withStatus .provisioning).id = some row := live
    exact Acts.of_saveInstance live h
  | releaseClaim =>
    rw [carryOut_releaseClaim] at h
    have sequenced : Acts faults ((StoreCall.releaseInstanceClaim row.id).result >>= fun answer =>
        f (answer.map fun _ => ())) s asked r s' := h
    rcases Acts.of_storeResult sequenced with ⟨time, followed⟩ | ⟨e, allowed, followed⟩
    · exact .inl ⟨time, followed⟩
    · exact .inr ⟨⟨_, e, allowed⟩, e, followed⟩

theorem Settled.of_acts {outcome : PollOutcome} {r : Except BrokerError LastOperation}
    (live : s.liveInstance? row.id = some row)
    (h : Acts faults (settle row outcome) s asked r s') :
    asked = [] ∧ ∃ report, r = .ok report ∧ Settled faults row outcome s report s' := by
  unfold settle at h
  cases called : (Transition.next row.status outcome).action with
  | none =>
    simp only [called] at h
    obtain ⟨rfl, rfl, rfl⟩ := Acts.of_pure h
    exact ⟨rfl, _, rfl, .idle called⟩
  | some action =>
    simp only [called] at h
    rcases of_carryOut live h with ⟨time, ending⟩ | ⟨fault, e, ending⟩
    · obtain ⟨rfl, rfl, rfl⟩ := Acts.of_pure ending
      exact ⟨rfl, _, rfl, .written time called⟩
    · obtain ⟨rfl, rfl, rfl⟩ := Acts.of_pure ending
      exact ⟨rfl, _, rfl, .unwritten e fault called⟩

theorem finishedWork_of_unknown {provider : Provider} (h : WorkKind.inFlight row.status = none) :
    finishedWork provider row = provider.result (.wasDelete row) >>= fun answer =>
      pure (answer.map fun wasDelete => if wasDelete then .delete else .create) := by
  rw [finishedWork, h]
  refine congrArg (provider.result (.wasDelete row) >>= ·) (funext fun answer => ?_)
  cases answer <;> rfl

/-- What follows the question which operation finished gets the answer of the row or, if it has
none, that of the provider. -/
theorem of_finishedWork {α : Type} {provider : Provider}
    {f : Except ProviderError WorkKind → Action α} {r : Except BrokerError α}
    (h : Acts faults (finishedWork provider row >>= f) s asked r s') :
    (∃ kind, WorkKind.inFlight row.status = some kind ∧ Acts faults (f (.ok kind)) s asked r s') ∨
      WorkKind.inFlight row.status = none ∧ ∃ answer rest,
        asked = ⟨s, provider, .wasDelete row, answer⟩ :: rest ∧
          Acts faults (f (answer.map fun wasDelete => if wasDelete then .delete else .create))
            s rest r s' := by
  cases known : WorkKind.inFlight row.status with
  | some kind =>
    rw [finishedWork, known] at h
    exact .inl ⟨kind, rfl, h⟩
  | none =>
    rw [finishedWork_of_unknown known] at h
    have sequenced : Acts faults (provider.result (.wasDelete row) >>= fun answer =>
        f (answer.map fun wasDelete => if wasDelete then .delete else .create)) s asked r s' := h
    obtain ⟨answer, rest, rfl, followed⟩ := Acts.of_providerResult sequenced
    exact .inr ⟨rfl, answer, rest, rfl, followed⟩

/-- A poll takes one of its courses. -/
theorem Polling.of_acts {r : Except BrokerError LastOperation}
    (h : Acts faults (b.lastOperation now id) s asked r s') :
    Polling b faults now id s asked r s' := by
  unfold lastOperation at h
  rcases Acts.of_liveInstance h with ⟨row, live, looking⟩ | ⟨⟨e, orphans, rfl, rfl, rfl⟩, cause⟩
  case inr =>
    refine .refused orphans (cause.imp_right fun absent row provider live => ?_)
    simp [absent] at live
  rcases Acts.of_ofCatalog looking with ⟨provider, served, asking⟩ | ⟨e, unknown, rfl, rfl, rfl⟩
  case inr =>
    refine .refused rfl (.inr fun row' provider live' served => ?_)
    obtain rfl : row' = row := by simpa [live'] using live
    simp [served] at unknown
  rcases Acts.of_require asking with ⟨async, polling⟩ | ⟨sync, rfl, rfl, rfl⟩
  case inr =>
    refine .refused rfl (.inr fun row' provider' live' served' => ?_)
    obtain rfl : row' = row := by simpa [live'] using live
    obtain rfl : provider' = provider := by simpa [served'] using served
    simpa using sync
  split at polling
  · rename_i young
    obtain ⟨rfl, rfl, rfl⟩ := Acts.of_pure polling
    have ⟨pending, fresh⟩ : row.status = .pending ∧ b.isStale now row.createdAt = false := by
      simpa using young
    exact .young live pending fresh
  · rename_i old
    have may : b.MayPoll now id s row provider :=
      ⟨live, served, by simpa using async, fun pending => by simpa [pending] using old⟩
    obtain rfl := Store.liveInstance?_id live
    obtain ⟨answer, rest, rfl, answered⟩ := Acts.of_providerResult polling
    cases answer with
    | error e =>
      obtain ⟨rfl, report, rfl, settled⟩ := Settled.of_acts live answered
      exact .settled may .failed settled
    | ok finished =>
      cases finished with
      | false =>
        obtain ⟨rfl, report, rfl, settled⟩ := Settled.of_acts live answered
        exact .settled may .pending settled
      | true =>
        rcases of_finishedWork answered with
          ⟨kind, known, settling⟩ | ⟨unknown, answer, rest, rfl, told⟩
        · obtain ⟨rfl, report, rfl, settled⟩ := Settled.of_acts live settling
          exact .settled may (.inFlight known) settled
        · cases answer with
          | ok wasDelete =>
            obtain ⟨rfl, report, rfl, settled⟩ := Settled.of_acts live told
            exact .settled may (.told unknown) settled
          | error e =>
            obtain ⟨rfl, rfl, rfl⟩ := Acts.of_pure told
            exact .undetermined may (active_of_inFlight unknown)

/-- A poll leaves the bindings as they are. -/
theorem Polling.bindings_eq {r : Except BrokerError LastOperation}
    (h : Polling b faults now id s asked r s') : s'.bindings = s.bindings := by
  cases h with
  | refused | young | undetermined => rfl
  | settled _ _ settled =>
    cases settled with
    | idle | unwritten => rfl
    | @written action => cases action <;> rfl

end LastOperation

end Broker

end Brokerage
