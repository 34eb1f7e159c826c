import Brokerage.Proofs.Licence
import Brokerage.Proofs.Lifecycle

/-! Getting rid of instances. Every instance that a broker records is of a service that it serves,
and is being deleted only where the provider of that service deletes out of band, so that it can be
polled. So an instance is never stuck: one more operation or two delete it, once its provider and
the store do their part and no claim on it is young. -/

namespace Brokerage

/-- A provider that deletes what it is told to delete, and says of all its work that it has
finished. -/
def Consultation.Obliging : Consultation → Prop
  | ⟨_, _, .deprovision _ _, answer⟩ => answer = .ok ()
  | ⟨_, _, .poll _, answer⟩ => answer = .ok true
  | _ => True

namespace Broker

variable {b : Broker} {faults : Faults} {now : Instant} {s s' : Store} {op : Operation}
  {asked : List Consultation} {id : String} {row : InstanceRow} {provider : Provider}

/-! ### The services of instances -/

/-- The service of an instance has a provider, which deletes out of band if the instance is being
deleted. -/
def Serves (b : Broker) (row : InstanceRow) : Prop :=
  ∃ provider, b.registry.provider row.serviceId = .ok provider ∧
    (row.status = .deprovisioning → provider.deprovisionsAsync = true)

theorem Provisioning.serves {request : ProvisionRequest} {asyncAllowed : Bool}
    {r : Except BrokerError Bool}
    (h : Provisioning b faults now id request asyncAllowed s asked r s')
    (held : ∀ i row, s.row? i = some row → b.Serves row) :
    ∀ i row, s'.row? i = some row → b.Serves row := by
  have inserted : ∀ new : InstanceRow, b.Serves new → ∀ i row,
      ((requested now id request s).withInstance new).row? i = some row → b.Serves row := by
    intro new serves i row found
    rw [Store.row?_withInstance, Option.or_eq_some_iff] at found
    rcases found with found | ⟨-, found⟩
    · exact held i row found
    · split at found
      · cases found
        exact serves
      · cases found
  have claimed : ∀ plan provider, b.MayProvision id request asyncAllowed s plan provider →
      b.Serves (claim now id request plan) := fun plan provider may =>
    ⟨provider, (Registry.of_resolve may.resolved).2, nofun⟩
  cases h with
  | refused => exact held
  | failed may released =>
    rcases released with rfl | ⟨-, rfl⟩
    · exact held
    · exact inserted _ (claimed _ _ may)
  | orphaned may => exact inserted _ (claimed _ _ may)
  | @created _ provider metadata saved may =>
    refine inserted _ ⟨provider, (Registry.of_resolve may.resolved).2, fun deleting => ?_⟩
    cases way : provider.provisionsAsync <;> rw [way] at deleting <;> cases deleting

/-- A change of a row that was there keeps its service, and says that the instance is being deleted
only if its provider does so out of band. -/
theorem RowChange.serves {old new : InstanceRow}
    (h : RowChange b faults now s op asked (some old) (some new)) (held : b.Serves old) :
    b.Serves new := by
  generalize after : some new = new? at h
  cases h with
  | @deleted _ _ _ _ _ provider time may =>
    obtain rfl := Option.some.inj after
    refine ⟨provider, ?_, fun deleting => ?_⟩
    · cases provider.deprovisionsAsync <;> exact may.served
    · cases way : provider.deprovisionsAsync with
      | true => rfl
      | false =>
        rw [way] at deleting
        exact absurd deleting may.idle
  | settled time may called =>
    obtain ⟨provider, served, deletes⟩ := held
    cases called with
    | resumed | finished =>
      cases after
      exact ⟨provider, served, nofun⟩
    | gone | wasDelete =>
      cases after
      exact ⟨provider, served, deletes⟩
    | givenUp => cases after

theorem Course.serves {r : Except BrokerError Response} (h : b.Course faults now s op asked r s')
    (keys : s.DistinctInstances) (held : ∀ i row, s.row? i = some row → b.Serves row) :
    ∀ i row, s'.row? i = some row → b.Serves row := by
  have others : op.kind ≠ .provision → ∀ i row, s'.row? i = some row → b.Serves row := by
    intro kind i row found
    rcases h.row? keys i with kept | ⟨-, change⟩
    · exact held i row (kept ▸ found)
    · rw [found] at change
      cases before : s.row? i with
      | none =>
        rw [before] at change
        cases change with
        | created => exact absurd rfl kind
      | some old =>
        rw [before] at change
        exact change.serves (held i old before)
  cases h with
  | provision h => exact h.serves held
  | deprovision | bind | unbind | update | lastOperation => exact others nofun

/-- Every instance in the records of a broker is of a service that it serves. -/
theorem History.serves {h : List Performance} (run : b.History faults Database.migrated.store h s) :
    s.DistinctInstances ∧ ∀ id row, s.row? id = some row → b.Serves row := by
  refine run.invariant (P := fun _ s => s.DistinctInstances ∧
    ∀ id row, s.row? id = some row → b.Serves row) ?_ ?_
  · rw [Database.migrated_store]
    exact ⟨List.nodup_nil, nofun⟩
  · rintro past p ⟨keys, held⟩ performed
    exact ⟨Performs.distinctInstances performed keys, (Course.of_acts performed).serves keys held⟩

/-! ### Deletions that go through -/

theorem isStale_of_old {createdAt : Instant} (measurable : b.claimTimeout ≤ maxTimeout)
    (old : createdAt + b.claimTimeout ≤ now) : b.isStale now createdAt = true := by
  have age : (b.claimTimeout : Int) ≤ now - createdAt := Int.le_sub_left_of_add_le old
  simp [isStale, measurable, age]

theorem MayDeprovision.unique {asyncAllowed : Bool} {found : InstanceRow} {other : Provider}
    (may : b.MayDeprovision now id asyncAllowed s row provider)
    (also : b.MayDeprovision now id asyncAllowed s found other) :
    found = row ∧ other = provider := by
  obtain rfl := Option.some.inj (also.live.symm.trans may.live)
  exact ⟨rfl, Except.ok.inj (also.served.symm.trans may.served)⟩

/-- What a provider may be told to delete is deleted, or is being deleted, if the provider does as
it is told. -/
theorem Deprovisioning.of_obliging {request : DeprovisionRequest} {asyncAllowed : Bool}
    {r : Except BrokerError Bool}
    (h : Deprovisioning b .none now id request asyncAllowed s asked r s')
    (may : b.MayDeprovision now id asyncAllowed s row provider)
    (obliging : ∀ c ∈ asked, c.Obliging) :
    r = .ok provider.deprovisionsAsync ∧
      ∃ time, s' = s.rewriteInstance id (deprovisionedRow row provider.deprovisionsAsync time) := by
  cases h with
  | refused _ cause =>
    have unable := cause.resolve_left Faults.not_possible_none
    exact absurd may (unable row provider)
  | failed => cases obliging _ List.mem_cons_self
  | orphaned _ fault => exact absurd fault Faults.not_possible_none
  | accepted time also =>
    obtain ⟨rfl, rfl⟩ := may.unique also
    exact ⟨rfl, time, rfl⟩

/-- An instance that is being deleted is deleted by a poll that finds the work finished. -/
theorem Polling.of_obliging {r : Except BrokerError LastOperation}
    (h : Polling b .none now id s asked r s') (may : b.MayPoll now id s row provider)
    (deleting : row.status = .deprovisioning) (obliging : ∀ c ∈ asked, c.Obliging) :
    r = .ok ⟨.succeeded, none⟩ ∧ ∃ time, s' = s.rewriteInstance id (Store.deleted time) := by
  have same : ∀ found, s.liveInstance? id = some found → found = row := fun found live =>
    Option.some.inj (live.symm.trans may.live)
  cases h with
  | refused _ cause =>
    have sync := cause.resolve_left Faults.not_possible_none row provider may.live may.served
    rcases may.async with async | async <;> simp [sync] at async
  | young live pending =>
    obtain rfl := same _ live
    cases pending.symm.trans deleting
  | undetermined also active =>
    obtain rfl := same _ also.live
    cases active.symm.trans deleting
  | settled also heard settled =>
    obtain rfl := same _ also.live
    obtain rfl := Store.liveInstance?_id also.live
    cases heard with
    | pending => cases obliging _ List.mem_cons_self
    | failed => cases obliging _ List.mem_cons_self
    | told unknown =>
      rw [deleting] at unknown
      cases unknown
    | inFlight known =>
      rw [deleting] at known
      cases known
      cases settled with
      | idle none =>
        rw [deleting] at none
        cases none
      | unwritten _ fault => exact absurd fault Faults.not_possible_none
      | written time some =>
        rw [deleting] at some ⊢
        cases some
        exact ⟨rfl, time, rfl⟩

theorem phase_deleted {time : Instant} (keys : s.DistinctInstances)
    (live : s.liveInstance? id = some row) :
    (s.rewriteInstance id (Store.deleted time)).phase id = .deleted := by
  rw [Store.phase, Store.row?_rewriteInstance_self keys (Store.deleted_id time) live,
    Phase.ofRow?_deleted]

section Obliged

variable {r : Except BrokerError Response} (keys : s.DistinctInstances)
  (live : s.liveInstance? id = some row) (served : b.registry.provider row.serviceId = .ok provider)
  (obliging : ∀ c ∈ asked, c.Obliging)
include keys live served obliging

/-- A poll of an instance that is being deleted. -/
theorem polled_away (deleting : row.status = .deprovisioning)
    (async : provider.deprovisionsAsync = true)
    (h : Acts .none (b.perform now (.lastOperation id)) s asked r s') :
    (∃ response, r = .ok response) ∧ s'.phase id = .deleted := by
  have may : b.MayPoll now id s row provider :=
    ⟨live, served, .inr async, fun pending => nomatch pending.symm.trans deleting⟩
  obtain ⟨report, rfl, acted⟩ := Acts.of_map h
  obtain ⟨rfl, time, rfl⟩ := (Polling.of_acts acted).of_obliging may deleting obliging
  exact ⟨⟨_, rfl⟩, phase_deleted keys live⟩

/-- The deletion of an instance on which no claim is young. Where the provider deletes out of band,
the instance is then being deleted. -/
theorem deprovisioned (idle : row.status ≠ .deprovisioning)
    (abandoned : b.isStale now row.createdAt = true) {request : DeprovisionRequest}
    (h : Acts .none (b.perform now (.deprovision id request true)) s asked r s') :
    (∃ response, r = .ok response) ∧
      (provider.deprovisionsAsync = false → s'.phase id = .deleted) ∧
      (provider.deprovisionsAsync = true → ∃ left, s'.liveInstance? id = some left ∧
        left.serviceId = row.serviceId ∧ left.status = .deprovisioning) := by
  have may : b.MayDeprovision now id true s row provider :=
    ⟨live, idle, fun _ => abandoned, served, fun _ => rfl⟩
  obtain ⟨isAsync, rfl, acted⟩ := Acts.of_map h
  obtain ⟨rfl, time, rfl⟩ := (Deprovisioning.of_acts acted).of_obliging may obliging
  refine ⟨⟨_, rfl⟩, fun sync => ?_, fun async => ?_⟩
  · rw [sync]
    exact phase_deleted keys live
  · rw [async, deprovisionedRow, if_pos rfl]
    have left := Store.row?_rewriteInstance_self keys
      (Store.overwriteInstance_id time (row.withStatus .deprovisioning)) live
    have alive : row.live = true := Store.liveInstance?_live live
    exact ⟨_, Store.liveInstance?_of_row? left alive, rfl, rfl⟩

end Obliged

/-- The answers of an obliging provider. -/
def obligingAnswer : (call : ProviderCall) → Except ProviderError call.Value
  | .deprovision _ _ => .ok ()
  | .poll _ => .ok true
  | .provision _ _ _ | .bind _ _ _ | .unbind _ _ | .joinCredentials _ _ | .wasDelete _ =>
    .error (.unavailable "not asked for")

theorem obliging_of_answer {c : Consultation} (h : c.answer = obligingAnswer c.call) :
    c.Obliging := by
  obtain ⟨before, provider, call, answer⟩ := c
  cases call with
  | deprovision | poll => exact h
  | provision | bind | unbind | joinCredentials | wasDelete => exact trivial

/-- Any operations can be performed at any times with obliging providers. -/
theorem History.exists_obliging (ops : List Operation) (times : List Instant)
    (same : times.length = ops.length) (s : Store) :
    ∃ k s', b.History faults s k s' ∧ k.map (·.op) = ops ∧ k.map (·.now) = times ∧
      ∀ p ∈ k, ∀ c ∈ p.asked, c.Obliging := by
  obtain ⟨k, s', run, named, told⟩ := History.exists_answered obligingAnswer (times.zip ops) s
  refine ⟨k, s', run, ?_, ?_, fun p hp c hc => obliging_of_answer (told p hp c hc)⟩
  · have := congrArg (List.map Prod.snd) named
    rwa [List.map_map, List.map_snd_zip (Nat.le_of_eq same.symm)] at this
  · have := congrArg (List.map Prod.fst) named
    rwa [List.map_map, List.map_fst_zip (Nat.le_of_eq same)] at this

/-- Performed one after another on a store, operations delete an instance and succeed, if the store
does its part, the providers are obliging and it is not too early. -/
def Disposes (b : Broker) (id : String) (since : Instant) (s : Store) (ops : List Operation) :
    Prop :=
  ∀ k s', b.History .none s k s' → k.map (·.op) = ops → (∀ p ∈ k, since ≤ p.now) →
    (∀ p ∈ k, ∀ c ∈ p.asked, c.Obliging) →
    (∀ p ∈ k, ∃ response, p.result = .ok response) ∧ s'.phase id = .deleted

namespace Disposes

variable {since : Instant} {ops : List Operation}

theorem nil (gone : s.phase id = .deleted) : b.Disposes id since s [] := by
  intro k s' run named _ _
  obtain rfl := List.map_eq_nil_iff.mp named
  cases run
  exact ⟨List.forall_mem_nil _, gone⟩

theorem cons (first : ∀ now asked r t, since ≤ now → (∀ c ∈ asked, c.Obliging) →
    Acts .none (b.perform now op) s asked r t →
    (∃ response, r = .ok response) ∧ b.Disposes id since t ops) :
    b.Disposes id since s (op :: ops) := by
  intro k s' run named late obliging
  obtain ⟨now, asked, r, t, rest, rfl, acted, run, named⟩ := run.of_map_cons named
  rw [List.forall_mem_cons] at late obliging
  obtain ⟨succeeded, disposes⟩ := first now asked r t late.1 obliging.1 acted
  obtain ⟨others, gone⟩ := disposes rest s' run named late.2 obliging.2
  exact ⟨List.forall_mem_cons.mpr ⟨succeeded, others⟩, gone⟩

end Disposes

/-- A live instance is deleted by two operations at most, each a deletion of it or a poll: whenever
they are performed no earlier than a claim on the instance counts as abandoned, and the store and
the provider do their part. And they can be performed at any times. -/
theorem instance_disposable {h : List Performance}
    (run : b.History faults Database.migrated.store h s) (live : s.liveInstance? id = some row)
    (measurable : b.claimTimeout ≤ maxTimeout) (request : DeprovisionRequest) :
    ∃ ops : List Operation, ops.length ≤ 2 ∧
      (∀ op ∈ ops, op = .deprovision id request true ∨ op = .lastOperation id) ∧
      b.Disposes id (row.createdAt + b.claimTimeout) s ops ∧
      ∀ times : List Instant, times.length = ops.length →
        ∃ k s', b.History .none s k s' ∧ k.map (·.op) = ops ∧ k.map (·.now) = times ∧
          ∀ p ∈ k, ∀ c ∈ p.asked, c.Obliging := by
  obtain ⟨keys, held⟩ := run.serves
  obtain ⟨provider, served, deletes⟩ := held id row (Store.row?_of_liveInstance? keys live)
  suffices ∃ ops : List Operation, ops.length ≤ 2 ∧
      (∀ op ∈ ops, op = .deprovision id request true ∨ op = .lastOperation id) ∧
      b.Disposes id (row.createdAt + b.claimTimeout) s ops by
    obtain ⟨ops, few, which, disposes⟩ := this
    exact ⟨ops, few, which, disposes, fun times same => History.exists_obliging ops times same s⟩
  by_cases deleting : row.status = .deprovisioning
  · refine ⟨[.lastOperation id], Nat.le_succ 1, by simp, .cons ?_⟩
    intro now asked r t _ obliging polled
    obtain ⟨succeeded, gone⟩ :=
      polled_away keys live served obliging deleting (deletes deleting) polled
    exact ⟨succeeded, .nil gone⟩
  · have first := fun now asked r t (late : row.createdAt + b.claimTimeout ≤ now) obliging
        (deleted : Acts .none (b.perform now (.deprovision id request true)) s asked r t) =>
      deprovisioned keys live served obliging deleting (isStale_of_old measurable late) deleted
    cases way : provider.deprovisionsAsync with
    | false =>
      refine ⟨[.deprovision id request true], Nat.le_succ 1, by simp, .cons ?_⟩
      intro now asked r t late obliging deleted
      obtain ⟨succeeded, gone, -⟩ := first now asked r t late obliging deleted
      exact ⟨succeeded, .nil (gone way)⟩
    | true =>
      refine ⟨[.deprovision id request true, .lastOperation id], Nat.le_refl 2, by simp, .cons ?_⟩
      intro now asked r t late obliging deleted
      have keys := Performs.distinctInstances (p := ⟨now, _, s, asked, r, t⟩) deleted keys
      obtain ⟨succeeded, -, left⟩ := first now asked r t late obliging deleted
      obtain ⟨left, live, service, deleting⟩ := left way
      rw [← service] at served
      refine ⟨succeeded, .cons ?_⟩
      intro later asked r t _ obliging polled
      obtain ⟨succeeded, gone⟩ := polled_away keys live served obliging deleting way polled
      exact ⟨succeeded, .nil gone⟩

/-- A claim whose instance was made, but could not be recorded, is deleted in the end. -/
theorem instance_disposable_orphaned :
    let request : ProvisionRequest := { serviceId := "bucket", planId := "small" }
    let claimed := claimed 0 "i" request Sample.plan .empty
    let row := claim 0 "i" request Sample.plan
    let provision : Performance := ⟨0, .provision "i" request true, .empty,
      [⟨claimed, Sample.provider, .provision "i" request Sample.plan, .ok {}⟩],
      .error (.orphaned "instance" "i" "provision" (.database .poolTimedOut)), claimed⟩
    Sample.broker.History .any Database.migrated.store [provision] claimed ∧
      claimed.liveInstance? "i" = some row ∧
      ∃ (ops : List Operation) (k : List Performance) (s : Store), ops.length ≤ 2 ∧
        Sample.broker.Disposes "i" 600 claimed ops ∧ Sample.broker.History .none claimed k s ∧
          k.map (·.op) = ops ∧ s.phase "i" = .deleted := by
  intro request claimed row provision
  have run : Sample.broker.History .any Database.migrated.store [provision] claimed := by
    rw [Database.migrated_store]
    refine .perform (p := provision) ?_ .start
    refine ⟨[⟨.empty, .store (.countInstances "i"), .ok 0⟩,
      ⟨.empty, .store (.claimInstance row (.of 0 "i" request.toJson)), .ok 1⟩,
      ⟨claimed, .provider Sample.provider (.provision "i" request Sample.plan), .ok {}⟩,
      ⟨claimed, .store (.saveInstance (provisionedRow row {} true)),
        .error (.database .poolTimedOut)⟩], ?_, rfl⟩
    refine .ask (World.store 0 rfl) ?_
    refine .ask (World.store 0 rfl) ?_
    refine .ask (World.provider _) ?_
    refine .ask (World.fault trivial) ?_
    exact .done
  have live : claimed.liveInstance? "i" = some row := rfl
  obtain ⟨ops, few, -, disposes, performable⟩ := instance_disposable run live (by decide) {}
  obtain ⟨k, s, again, named, times, obliging⟩ :=
    performable (List.replicate ops.length 600) (List.length_replicate)
  have late : ∀ p ∈ k, (600 : Instant) ≤ p.now := by
    intro p hp
    have now : p.now ∈ List.replicate ops.length (600 : Instant) :=
      times ▸ List.mem_map_of_mem hp
    exact Int.le_of_eq (List.eq_of_mem_replicate now).symm
  exact ⟨run, live, ops, k, s, few, disposes, again, named,
    (disposes k s again named late obliging).2⟩

end Broker

end Brokerage
