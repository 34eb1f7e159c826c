import Brokerage.Proofs.Broker.Performance
import Brokerage.Proofs.Broker.Shared

/-! Deleted rows are history. Whatever calls are made to a store, a row that is soft-deleted stays in
its table as it is, and nobody gets its identifier again: the store refuses to create or claim it, so
that a provision of it comes to no provider. -/

namespace Brokerage

namespace Store

variable {s t : Store} {id : String}

/-! ### Deleted rows -/

theorem stable_deletedInstance {row : InstanceRow} (gone : row.live = false) :
    Stable (row ∈ ·.instances) := by
  intro s now call value s' held effect
  have untouched : ∀ i f, row ∈ (s.rewriteInstance i f).instances := by
    intro i f
    exact List.mem_map.mpr ⟨row, held, by simp [gone]⟩
  cases effect with
  | createInstance | claimInstance => exact List.mem_append_left _ held
  | saveInstance | softDeleteInstance => exact untouched _ _
  | releaseInstanceClaim => exact List.mem_filter.mpr ⟨held, by simp [releasableInstance, gone]⟩
  | query | createBinding | saveBinding | releaseBindingClaim | softDeleteBinding | createRequest
  | createPlan => exact held

theorem stable_deletedBinding {row : BindingRow} (gone : row.live = false) :
    Stable (row ∈ ·.bindings) := by
  intro s now call value s' held effect
  have untouched : ∀ p f, row ∈ (s.rewriteBindings p f).bindings := by
    intro p f
    exact List.mem_map.mpr ⟨row, held, by simp [gone]⟩
  cases effect with
  | createBinding => exact List.mem_append_left _ held
  | saveBinding | softDeleteBinding => exact untouched _ _
  | releaseBindingClaim => exact List.mem_filter.mpr ⟨held, by simp [releasableBinding, gone]⟩
  | query | createInstance | claimInstance | saveInstance | softDeleteInstance
  | releaseInstanceClaim | createRequest | createPlan => exact held

/-! ### Their identifiers -/

/-- The instance has a row that is soft-deleted. -/
def Retired (s : Store) (id : String) : Prop :=
  ∃ row ∈ s.instances, row.id = id ∧ row.live = false

/-- The store counts an instance as gone for good, and refuses every write of it. -/
structure Closed (s : Store) (id : String) : Prop where
  uncounted : s.countInstances id = 0
  deleted : s.isInstanceSoftDeleted id = true
  create : ∀ now row, row.id = id →
    ∃ message, s.step now (.createInstance row) = (.error (.constraint message), s)
  claim : ∀ now row request, row.id = id →
    ∃ message, s.step now (.claimInstance row request) = (.error (.constraint message), s)
  save : ∀ now row, row.id = id →
    s.step now (.saveInstance row) = (.error (.notFound "instance" id), s)
  delete : ∀ now, s.step now (.softDeleteInstance id) = (.error (.notFound "instance" id), s)
  release : ∀ now, s.step now (.releaseInstanceClaim id) = (.ok false, s)

theorem row?_ne_none {row : InstanceRow} (held : row ∈ s.instances) : s.row? row.id ≠ none :=
  fun absent => row?_eq_none.mp absent row held rfl

theorem Retired.closed (keys : s.DistinctInstances) (retired : s.Retired id) : s.Closed id := by
  obtain ⟨row, held, rfl, gone⟩ := retired
  have found : s.row? row.id = some row := (row?_eq_some_iff keys).mpr ⟨held, rfl⟩
  have unlive : s.liveInstance? row.id = none := liveInstance?_eq_none_of_deleted keys found gone
  have taken : s.row? row.id ≠ none := row?_ne_none held
  constructor
  · exact countInstances_eq_zero_iff.mpr unlive
  · rw [row?] at found
    simp [isInstanceSoftDeleted, found, gone]
  · intro now new same
    exact step_createInstance_of_taken now (by rw [same]; exact taken)
  · intro now new request same
    exact step_claimInstance_of_taken now request (by rw [same]; exact taken)
  · intro now new same
    rw [← same] at unlive ⊢
    exact step_saveInstance_of_absent now unlive
  · exact fun now => step_softDeleteInstance_of_absent now unlive
  · exact fun now => step_releaseInstanceClaim_of_absent now unlive

end Store

/-! ### Provisions of a retired identifier -/

namespace Broker

variable {b : Broker} {faults : Faults} {now : Instant} {id : String} {row : InstanceRow}
  {P : Store → Prop}

theorem checkInstanceLimit_quiet (stable : Store.Stable P) :
    Quiet faults P b.checkInstanceLimit fun _ => True := by
  unfold checkInstanceLimit
  split
  · exact (Quiet.ofExcept (.ok ())).weaken fun _ _ => trivial
  · exact (Quiet.value stable _).bind (fun _ _ => trivial) fun _ _ => .require _ _

theorem claimInstance_quiet (gone : row.live = false) {new : InstanceRow} (same : new.id = row.id)
    (stored : RequestRow) :
    Quiet faults (row ∈ ·.instances) (claimInstance new stored) fun r => ∃ e, r = .error e := by
  rw [claimInstance_eq]
  refine (Quiet.result (Store.stable_deletedInstance gone) _).bind (fun e _ => ⟨e, rfl⟩) ?_
  rintro answer ⟨_, ⟨⟩, ⟨t, time, held, rfl⟩ | ⟨e, rfl⟩⟩
  · have taken : t.row? new.id ≠ none := by
      rw [same]
      exact Store.row?_ne_none held
    obtain ⟨message, refused⟩ := Store.step_claimInstance_of_taken time stored taken
    rw [refused]
    exact (Quiet.ofExcept _).weaken fun r same => ⟨_, same⟩
  · exact (Quiet.ofExcept _).weaken fun r same => ⟨_, same⟩

/-- A provision of an instance that has a deleted row comes to no provider, whoever else calls the
store meanwhile. -/
theorem provision_quiet (gone : row.live = false) (request : ProvisionRequest)
    (asyncAllowed : Bool) :
    Quiet faults (row ∈ ·.instances) (b.provision now row.id request asyncAllowed)
      fun _ => True := by
  have stable := Store.stable_deletedInstance gone
  unfold provision
  refine (checkInstanceLimit_quiet stable).bind (fun _ _ => trivial) fun _ _ => ?_
  refine (Quiet.value stable _).bind (fun _ _ => trivial) fun _ _ => ?_
  refine (Quiet.require _ _).bind (fun _ _ => trivial) fun _ _ => ?_
  refine (Quiet.ofExcept _).bind (fun _ _ => trivial) fun found _ => ?_
  refine (Quiet.require _ _).bind (fun _ _ => trivial) fun _ _ => ?_
  cases request.parameters with
  | error e => exact (Quiet.ofExcept (.error _)).weaken fun _ _ => trivial
  | ok fields =>
    -- Whatever the checks found, the row is there still and the claim is refused.
    refine (claimInstance_quiet gone ?_ _).bind (fun _ _ => trivial) ?_
    · rfl
    · rintro _ ⟨_, ⟨⟩⟩

end Broker

/-! ### Histories -/

namespace Store

/-- However a store is called, a row that is soft-deleted stays as it is, and its instance stays
closed: counted as deleted, refused to whoever writes it, and not provisioned by any provider. -/
theorem deleted_rows_permanent {h : List Transaction} (run : History s h t)
    (keys : s.DistinctInstances) :
    (∀ row ∈ s.instances, row.live = false → row ∈ t.instances) ∧
    (∀ row ∈ s.bindings, row.live = false → row ∈ t.bindings) ∧
    ∀ id, s.Retired id → t.Closed id ∧
      ∀ (b : Broker) faults now request asyncAllowed trace r u,
        Fallible.Runs (Shared faults) (b.provision now id request asyncAllowed) t trace r u →
          Consultation.ofTrace trace = [] := by
  refine ⟨fun row held gone => ?_, fun row held gone => ?_, ?_⟩
  · exact run.keeps (stable_deletedInstance gone) held
  · exact run.keeps (stable_deletedBinding gone) held
  · rintro _ ⟨row, held, rfl, gone⟩
    have still : row ∈ t.instances := run.keeps (stable_deletedInstance gone) held
    have keys' : t.DistinctInstances := run.keeps DistinctInstances.stable keys
    have retired : t.Retired row.id := ⟨row, still, rfl, gone⟩
    refine ⟨retired.closed keys', fun b faults now request asyncAllowed trace r u runs => ?_⟩
    exact (Broker.provision_quiet gone request asyncAllowed t trace r u still runs).1

/-- An instance and its binding that are deleted, before the one is claimed, saved and released, and
the other is made anew. -/
theorem deleted_rows_permanent_again :
    let s := Sample.bound.after
      [(20, .softDeleteBinding "i" "j"), (20, .softDeleteInstance "i")]
    let calls : List (Instant × StoreCall) :=
      [(30, .claimInstance Sample.madeRow (.of 30 "i" Sample.request.toJson)),
        (30, .saveInstance Sample.madeRow), (30, .releaseInstanceClaim "i"),
        (30, .createBinding Sample.issuedBinding)]
    deleted 20 Sample.madeRow ∈ (s.after calls).instances ∧
      withdrawn 20 Sample.issuedBinding ∈ (s.after calls).bindings ∧
      (s.after calls).bindings.length = 2 ∧ (s.after calls).Closed "i" := by
  intro s calls
  have keys : s.DistinctInstances := by decide
  have gone : deleted 20 Sample.madeRow ∈ s.instances := by decide
  have ended : withdrawn 20 Sample.issuedBinding ∈ s.bindings := by decide
  obtain ⟨rows, bindings, closed⟩ := deleted_rows_permanent (s.history_after calls) keys
  exact ⟨rows _ gone rfl, bindings _ ended rfl, by decide, (closed "i" ⟨_, gone, rfl, rfl⟩).1⟩

end Store

end Brokerage
