import Brokerage.Proofs.Lifecycle

/-! How often an instance is created. A creation needs that the instance has no row and leaves one
behind, and a row goes only where a poll gives a claim up. -/

namespace Brokerage

/-- A provider created an instance. -/
def Consultation.creates (id : String) : Consultation → Bool
  | ⟨_, _, .provision i _ _, .ok _⟩ => i = id
  | _ => false

/-- How often providers created an instance. -/
def Consultation.creations (id : String) (asked : List Consultation) : Nat :=
  asked.countP (·.creates id)

namespace Broker

open Consultation (creations)

/-- A poll found a claim on an instance that was at least as old as the claim timeout, and the
provider failed it for good. -/
def GivesUp (b : Broker) (id : String) (p : Performance) : Prop :=
  p.op = .lastOperation id ∧ ∃ (row : InstanceRow) (provider : Provider) (e : ProviderError),
    p.before.liveInstance? id = some row ∧ row.status = .pending ∧
      (b.claimTimeout : Int) ≤ p.now - row.createdAt ∧ e.isTransient = false ∧
        ⟨p.before, provider, .poll row, .error e⟩ ∈ p.asked

variable {b : Broker} {faults : Faults} {now : Instant} {s s' : Store} {op : Operation}
  {asked : List Consultation} {id : String}

/-! ### One operation -/

/-- A provision creates its instance where that has no row, and leaves a row. -/
theorem Provisioning.creations {request : ProvisionRequest} {asyncAllowed : Bool}
    {r : Except BrokerError Bool}
    (h : Provisioning b faults now id request asyncAllowed s asked r s') (i : String) :
    creations i asked = 0 ∨
      creations i asked = 1 ∧ s.row? i = none ∧ s'.row? i ≠ none := by
  have inserted : ∀ row : InstanceRow, row.id = id → s.row? id = none → i = id →
      s.row? i = none ∧ ((requested now id request s).withInstance row).row? i ≠ none := by
    rintro row rfl fresh rfl
    refine ⟨fresh, ?_⟩
    simp [Store.row?_withInstance]
  by_cases same : i = id
  · cases h with
    | refused => exact .inl rfl
    | failed => exact .inl rfl
    | orphaned may =>
      exact .inr ⟨by simp [creations, Consultation.creates, same], inserted _ rfl may.fresh same⟩
    | created saved may =>
      exact .inr ⟨by simp [creations, Consultation.creates, same], inserted _ rfl may.fresh same⟩
  · refine .inl ?_
    cases h <;> simp [creations, Consultation.creates, Ne.symm same]

theorem Course.creations {r : Except BrokerError Response} (h : b.Course faults now s op asked r s')
    (i : String) :
    creations i asked = 0 ∨
      creations i asked = 1 ∧ s.row? i = none ∧ s'.row? i ≠ none := by
  cases h with
  | provision h => exact h.creations i
  | deprovision h => cases h <;> exact .inl rfl
  | bind h => cases h <;> exact .inl rfl
  | unbind h => cases h <;> exact .inl rfl
  | update => exact .inl rfl
  | lastOperation h =>
    cases h with
    | refused | young | undetermined => exact .inl rfl
    | settled _ heard => cases heard <;> exact .inl rfl

/-- A row that goes is a claim that a poll gives up. -/
theorem RowChange.givesUp {old : InstanceRow}
    (h : RowChange b faults now s op asked (some old) none) (r : Except BrokerError Response) :
    b.GivesUp op.instanceId ⟨now, op, s, asked, r, s'⟩ := by
  generalize gone : (none : Option InstanceRow) = new at h
  cases h with
  | deleted => cases gone
  | @settled _ _ _ provider _ _ may called =>
    cases called with
    | resumed | finished | gone | wasDelete => cases gone
    | givenUp pending lasting =>
      exact ⟨rfl, old, provider, _, may.live, pending, isStale_age (may.abandoned pending), lasting,
        List.mem_singleton_self _⟩

theorem Performs.row_kept {p : Performance} (performed : b.Performs faults p)
    (keys : p.before.DistinctInstances) (held : p.before.row? id ≠ none) :
    p.after.row? id ≠ none ∨ b.GivesUp id p := by
  rcases (Course.of_acts performed).row? keys id with kept | ⟨rfl, change⟩
  · exact .inl (by rw [kept]; exact held)
  · obtain ⟨old, before⟩ := Option.ne_none_iff_exists'.mp held
    cases after : p.after.row? p.op.instanceId with
    | some row => exact .inl (Option.some_ne_none row)
    | none =>
      rw [before, after] at change
      exact .inr (change.givesUp p.result)

/-- Without failures of the store a change leaves no claim. -/
theorem RowChange.phase_ne_pending {old new : Option InstanceRow}
    (h : RowChange b faults now s op asked old new) (reliable : ¬ faults.Possible) :
    Phase.ofRow? new ≠ .pending := by
  cases h with
  | created live status =>
    rw [Phase.ofRow?_live live]
    rcases status with ⟨-, fault⟩ | status | status
    · exact absurd fault reliable
    · rw [status]
      decide
    · rw [status]
      decide
  | @deleted _ _ _ _ row provider time may =>
    cases way : provider.deprovisionsAsync with
    | true =>
      rw [deprovisionedRow, if_pos rfl,
        Phase.ofRow?_overwriteInstance (Store.liveInstance?_live may.live),
        InstanceRow.withStatus_status]
      decide
    | false =>
      rw [deprovisionedRow, if_neg (by simp), Phase.ofRow?_deleted]
      decide
  | settled time may called =>
    cases called with
    | resumed | finished =>
      rw [RecordAction.row?, Phase.ofRow?_overwriteInstance (Store.liveInstance?_live may.live),
        InstanceRow.withStatus_status]
      decide
    | gone | wasDelete =>
      rw [RecordAction.row?, Phase.ofRow?_deleted]
      decide
    | givenUp =>
      intro pending
      cases pending

/-- Without failures of the store no claim outlives the operation that made it. -/
theorem Performs.phase_ne_pending {p : Performance} (performed : b.Performs faults p)
    (reliable : ¬ faults.Possible) (keys : p.before.DistinctInstances)
    (unclaimed : p.before.phase id ≠ .pending) : p.after.phase id ≠ .pending := by
  rcases (Course.of_acts performed).row? keys id with kept | ⟨-, change⟩
  · rw [Store.phase, kept]
    exact unclaimed
  · exact change.phase_ne_pending reliable

theorem not_givesUp {p : Performance} (keys : p.before.DistinctInstances)
    (unclaimed : p.before.phase id ≠ .pending) : ¬ b.GivesUp id p := by
  rintro ⟨-, row, provider, e, live, pending, -⟩
  refine unclaimed ?_
  rw [Store.phase, Store.row?_of_liveInstance? keys live,
    Phase.ofRow?_live (Store.liveInstance?_live live), pending]
  rfl

/-! ### Histories -/

variable {h : List Performance}

/-- An instance that has a row keeps one until it is given up. -/
theorem History.row_kept (run : b.History faults s h s') (keys : s.DistinctInstances)
    (held : s.row? id ≠ none) : s'.row? id ≠ none ∨ ∃ p ∈ h, b.GivesUp id p := by
  induction run with
  | start => exact .inl held
  | perform performed rest ih =>
    rcases Performs.row_kept performed keys held with held | givenUp
    · rcases ih (Performs.distinctInstances performed keys) held with
        held | ⟨p, hp, givenUp⟩
      · exact .inl held
      · exact .inr ⟨p, List.mem_cons_of_mem _ hp, givenUp⟩
    · exact .inr ⟨_, List.mem_cons_self, givenUp⟩

/-- Without failures of the store an instance is created at most once, and not at all if it has a
row to begin with. -/
theorem History.creations_le (run : b.History faults s h s') (reliable : ¬ faults.Possible)
    (keys : s.DistinctInstances) (unclaimed : s.phase id ≠ .pending) :
    creations id (h.flatMap (·.asked)) ≤ 1 ∧
      (s.row? id ≠ none → creations id (h.flatMap (·.asked)) = 0) := by
  induction run with
  | start => exact ⟨Nat.zero_le 1, fun _ => rfl⟩
  | @perform p rest t performed _ ih =>
    obtain ⟨once, never⟩ := ih (Performs.distinctInstances performed keys)
      (Performs.phase_ne_pending performed reliable keys unclaimed)
    have split : creations id ((p :: rest).flatMap (·.asked)) =
        creations id p.asked + creations id (rest.flatMap (·.asked)) := by
      rw [List.flatMap_cons, creations, List.countP_append, creations, creations]
    rw [split]
    rcases (Course.of_acts performed).creations id with none | ⟨one, fresh, held⟩
    · refine ⟨by omega, fun held => ?_⟩
      have := never ((Performs.row_kept performed keys held).resolve_right
        (not_givesUp keys unclaimed))
      omega
    · have := never held
      exact ⟨by omega, fun held => absurd fresh held⟩

/-- Between two creations of an instance its claim was given up; and where the store does not fail,
an instance is created at most once, for good. -/
theorem created_once (run : b.History faults Database.migrated.store h s) (id : String) :
    (∀ p ∈ h, creations id p.asked ≤ 1) ∧
    (∀ past p between q rest, h = past ++ p :: (between ++ q :: rest) →
      creations id p.asked ≠ 0 → creations id q.asked ≠ 0 → ∃ r ∈ between, b.GivesUp id r) ∧
    (¬ faults.Possible → creations id (h.flatMap (·.asked)) ≤ 1) := by
  have keys : Database.migrated.store.DistinctInstances := by
    rw [Database.migrated_store]
    decide
  have unclaimed : Database.migrated.store.phase id ≠ .pending := by
    rw [Database.migrated_store]
    nofun
  refine ⟨fun p hp => ?_, ?_, fun reliable => (run.creations_le reliable keys unclaimed).1⟩
  · rcases (Course.of_acts (run.performs hp)).creations id with none | ⟨one, -⟩
    · rw [none]
      exact Nat.zero_le 1
    · exact Nat.le_of_eq one
  · rintro past p between q rest rfl created again
    obtain ⟨t, before, run⟩ := run.of_append
    have keys := before.distinctInstances keys
    cases run with
    | perform creating run =>
      obtain ⟨u, middle, run⟩ := run.of_append
      have keys := Performs.distinctInstances creating keys
      obtain ⟨-, -, held⟩ := ((Course.of_acts creating).creations id).resolve_left created
      refine (middle.row_kept keys held).resolve_left fun held => ?_
      cases run with
      | perform recreating _ =>
        exact held (((Course.of_acts recreating).creations id).resolve_left again).2.1

/-- An instance whose record was not written, given up by a poll and created again. -/
theorem created_once_again :
    let request : ProvisionRequest := { serviceId := "bucket", planId := "small" }
    let claimed := claimed 0 "i" request Sample.plan .empty
    let row := claim 0 "i" request Sample.plan
    let missing : ProviderError := .backend 404 "no such bucket"
    let emptied := requested 0 "i" request .empty
    let reclaimed := Broker.claimed 800 "i" request Sample.plan emptied
    let first : Performance := ⟨0, .provision "i" request true, .empty,
      [⟨claimed, Sample.provider, .provision "i" request Sample.plan, .ok {}⟩],
      .error (.orphaned "instance" "i" "provision" (.database .poolTimedOut)), claimed⟩
    let poll : Performance := ⟨700, .lastOperation "i", claimed,
      [⟨claimed, Sample.provider, .poll row, .error missing⟩],
      .ok (.reported ⟨.failed, some missing.message⟩), emptied⟩
    let second : Performance := ⟨800, .provision "i" request true, emptied,
      [⟨reclaimed, Sample.provider, .provision "i" request Sample.plan, .ok {}⟩],
      .error (.orphaned "instance" "i" "provision" (.database .poolTimedOut)), reclaimed⟩
    Sample.broker.History .any Database.migrated.store [first, poll, second] reclaimed ∧
      creations "i" first.asked = 1 ∧ creations "i" second.asked = 1 ∧
        Sample.broker.GivesUp "i" poll := by
  intro request claimed row missing emptied reclaimed first poll second
  have run :
      Sample.broker.History .any Database.migrated.store [first, poll, second] reclaimed := by
    rw [Database.migrated_store]
    refine .perform (p := first) ?_ (.perform (p := poll) ?_ (.perform (p := second) ?_ .start))
    · refine ⟨[⟨.empty, .store (.countInstances "i"), .ok 0⟩,
        ⟨.empty, .store (.claimInstance row (.of 0 "i" request.toJson)), .ok 1⟩,
        ⟨claimed, .provider Sample.provider (.provision "i" request Sample.plan), .ok {}⟩,
        ⟨claimed, .store (.saveInstance (provisionedRow row {} true)),
          .error (.database .poolTimedOut)⟩], ?_, rfl⟩
      refine .ask (World.store 0 rfl) ?_
      refine .ask (World.store 0 rfl) ?_
      refine .ask (World.provider _) ?_
      refine .ask (World.fault trivial) ?_
      exact .done
    · refine ⟨[⟨claimed, .store (.getInstance "i"), .ok row⟩,
        ⟨claimed, .provider Sample.provider (.poll row), .error missing⟩,
        ⟨claimed, .store (.releaseInstanceClaim "i"), .ok true⟩], ?_, rfl⟩
      refine .ask (World.store 700 rfl) ?_
      refine .ask (World.provider _) ?_
      refine .ask (World.store 700 rfl) ?_
      exact .done
    · let again := claim 800 "i" request Sample.plan
      refine ⟨[⟨emptied, .store (.countInstances "i"), .ok 0⟩,
        ⟨emptied, .store (.claimInstance again (.of 800 "i" request.toJson)), .ok 2⟩,
        ⟨reclaimed, .provider Sample.provider (.provision "i" request Sample.plan), .ok {}⟩,
        ⟨reclaimed, .store (.saveInstance (provisionedRow again {} true)),
          .error (.database .poolTimedOut)⟩], ?_, rfl⟩
      refine .ask (World.store 800 rfl) ?_
      refine .ask (World.store 800 rfl) ?_
      refine .ask (World.provider _) ?_
      refine .ask (World.fault trivial) ?_
      exact .done
  obtain ⟨-, between, -⟩ := created_once run "i"
  obtain ⟨r, hr, givenUp⟩ := between [] first [poll] second [] rfl (by decide) (by decide)
  rw [List.mem_singleton] at hr
  exact ⟨run, by decide, by decide, hr ▸ givenUp⟩

end Broker

end Brokerage
