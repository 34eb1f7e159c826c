import Brokerage.Proofs.Broker.Performance

/-! The lifecycle of an instance: the phases that its row goes through, and the edges between them
along which one operation may take it. -/

namespace Brokerage

@[simp] theorem InstanceRow.withStatus_status (row : InstanceRow) (status : InstanceStatus) :
    (row.withStatus status).status = status :=
  InstanceStatus.ofText_text status

/-- Where an instance stands. -/
inductive Phase where
  | absent
  | pending
  | provisioning
  | active
  | deprovisioning
  | deleted
  deriving DecidableEq, Repr

namespace Phase

def ofStatus : InstanceStatus → Phase
  | .pending => pending
  | .provisioning => provisioning
  | .active => active
  | .deprovisioning => deprovisioning

def ofRow? : Option InstanceRow → Phase
  | none => absent
  | some row => if row.live then ofStatus row.status else deleted

/-- The phases that may follow a phase. -/
def next : Phase → List Phase
  | absent => [absent, pending, provisioning, active]
  | pending => [pending, provisioning, active, deprovisioning, deleted, absent]
  | provisioning => [provisioning, active, deprovisioning, deleted]
  | active => [active, deprovisioning, deleted]
  | deprovisioning => [deprovisioning, deleted]
  | deleted => [deleted]

theorem mem_next_self (p : Phase) : p ∈ p.next := by
  cases p <;> decide

theorem mem_next_pending (p : Phase) : p ∈ next pending := by
  cases p <;> decide

theorem ofRow?_live {row : InstanceRow} (live : row.live = true) :
    ofRow? (some row) = ofStatus row.status := by
  simp [ofRow?, live]

theorem ofRow?_deleted (time : Instant) (row : InstanceRow) :
    ofRow? (some (Store.deleted time row)) = deleted := rfl

theorem ofRow?_overwriteInstance {row : InstanceRow} (live : row.live = true) (time : Instant)
    (new : InstanceRow) :
    ofRow? (some (Store.overwriteInstance time new row)) = ofStatus new.status :=
  ofRow?_live live

end Phase

/-- The phase of an instance. -/
def Store.phase (s : Store) (id : String) : Phase := .ofRow? (s.row? id)

namespace Broker

/-- What an operation can do to the row of the instance that it names. -/
inductive RowChange (b : Broker) (faults : Faults) (now : Instant) (s : Store) :
    Operation → List Consultation → Option InstanceRow → Option InstanceRow → Prop
  | created {id : String} {request : ProvisionRequest} {asyncAllowed : Bool}
      {asked : List Consultation} {row : InstanceRow} (live : row.live = true)
      (status : row.status = .pending ∧ faults.Possible ∨
        row.status = .provisioning ∨ row.status = .active) :
      RowChange b faults now s (.provision id request asyncAllowed) asked none (some row)
  | deleted {id : String} {request : DeprovisionRequest} {asyncAllowed : Bool}
      {asked : List Consultation} {row : InstanceRow} {provider : Provider} (time : Instant)
      (may : b.MayDeprovision now id asyncAllowed s row provider) :
      RowChange b faults now s (.deprovision id request asyncAllowed) asked (some row)
        (some (deprovisionedRow row provider.deprovisionsAsync time row))
  | settled {id : String} {asked : List Consultation} {row : InstanceRow} {provider : Provider}
      {action : RecordAction} (time : Instant) (may : b.MayPoll now id s row provider)
      (called : CalledFor provider row s asked action) :
      RowChange b faults now s (.lastOperation id) asked (some row) (action.row? time row)

section RowChange

variable {b : Broker} {faults : Faults} {now : Instant} {s s' : Store} {op : Operation}
  {asked : List Consultation} {id i : String}

theorem Provisioning.row? {request : ProvisionRequest} {asyncAllowed : Bool}
    {r : Except BrokerError Bool}
    (h : Provisioning b faults now id request asyncAllowed s asked r s') (i : String) :
    s'.row? i = s.row? i ∨ i = id ∧ RowChange b faults now s
      (.provision id request asyncAllowed) asked (s.row? i) (s'.row? i) := by
  have inserted : ∀ row : InstanceRow, row.id = id → row.live = true → s.row? id = none →
      (row.status = .pending ∧ faults.Possible ∨
        row.status = .provisioning ∨ row.status = .active) →
      ((requested now id request s).withInstance row).row? i = s.row? i ∨ i = id ∧
        RowChange b faults now s (.provision id request asyncAllowed) asked (s.row? i)
          (((requested now id request s).withInstance row).row? i) := by
    intro row named live fresh status
    rw [Store.row?_withInstance, requested, Store.row?_withRequest]
    by_cases same : i = id
    · subst same
      rw [fresh, named, if_pos rfl]
      exact .inr ⟨rfl, .created live status⟩
    · rw [named, if_neg (Ne.symm same), Option.or_none]
      exact .inl rfl
  cases h with
  | refused => exact .inl rfl
  | failed may released =>
    rcases released with rfl | ⟨fault, rfl⟩
    · exact .inl rfl
    · exact inserted _ rfl rfl may.fresh (.inl ⟨rfl, fault⟩)
  | orphaned may fault => exact inserted _ rfl rfl may.fresh (.inl ⟨rfl, fault⟩)
  | @created _ provider metadata saved may =>
    refine inserted _ rfl rfl may.fresh (.inr ?_)
    cases way : provider.provisionsAsync with
    | true => exact .inl rfl
    | false => exact .inr rfl

theorem Deprovisioning.row? {request : DeprovisionRequest} {asyncAllowed : Bool}
    {r : Except BrokerError Bool} (keys : s.DistinctInstances)
    (h : Deprovisioning b faults now id request asyncAllowed s asked r s') (i : String) :
    s'.row? i = s.row? i ∨ i = id ∧ RowChange b faults now s
      (.deprovision id request asyncAllowed) asked (s.row? i) (s'.row? i) := by
  cases h with
  | refused | failed | orphaned => exact .inl rfl
  | @accepted row provider time may =>
    have keeps : ∀ r, (deprovisionedRow row provider.deprovisionsAsync time r).id = r.id := by
      intro r
      cases provider.deprovisionsAsync <;> rfl
    by_cases same : i = id
    · subst same
      rw [Store.row?_rewriteInstance_self keys keeps may.live,
        Store.row?_of_liveInstance? keys may.live]
      exact .inr ⟨rfl, .deleted time may⟩
    · exact .inl (Store.row?_rewriteInstance_ne keeps same)

theorem Polling.row? {r : Except BrokerError LastOperation} (keys : s.DistinctInstances)
    (h : Polling b faults now id s asked r s') (i : String) :
    s'.row? i = s.row? i ∨ i = id ∧
      RowChange b faults now s (.lastOperation id) asked (s.row? i) (s'.row? i) := by
  cases h with
  | refused | young | undetermined => exact .inl rfl
  | @settled row _ _ _ _ _ may heard settled =>
    cases settled with
    | idle | unwritten => exact .inl rfl
    | @written action time some =>
      have called := heard.calledFor some
      obtain rfl := Store.liveInstance?_id may.live
      by_cases same : i = row.id
      · subst same
        rw [RecordAction.row?_effect keys may.live called.pending_of_release,
          Store.row?_of_liveInstance? keys may.live]
        exact .inr ⟨rfl, .settled time may called⟩
      · exact .inl (RecordAction.row?_effect_ne keys same)

/-- An operation changes the row of no instance but the one that it names. -/
theorem Course.row? {r : Except BrokerError Response} (keys : s.DistinctInstances)
    (h : b.Course faults now s op asked r s') (i : String) :
    s'.row? i = s.row? i ∨ i = op.instanceId ∧
      RowChange b faults now s op asked (s.row? i) (s'.row? i) := by
  cases h with
  | provision h => exact h.row? i
  | deprovision h => exact h.row? keys i
  | bind h => exact .inl (Store.row?_congr h.instances_eq)
  | unbind h => exact .inl (Store.row?_congr h.instances_eq)
  | update => exact .inl rfl
  | lastOperation h => exact h.row? keys i

/-- A change of a row follows an edge. -/
theorem RowChange.next {old new : Option InstanceRow}
    (h : RowChange b faults now s op asked old new) :
    Phase.ofRow? new ∈ (Phase.ofRow? old).next := by
  cases h with
  | created live status =>
    rw [Phase.ofRow?_live live]
    rcases status with ⟨status, -⟩ | status | status <;> rw [status] <;> decide
  | @deleted _ _ _ _ row provider time may =>
    have live := Store.liveInstance?_live may.live
    rw [Phase.ofRow?_live live]
    cases way : provider.deprovisionsAsync with
    | true =>
      rw [deprovisionedRow, if_pos rfl, Phase.ofRow?_overwriteInstance live,
        InstanceRow.withStatus_status]
      cases row.status <;> decide
    | false =>
      rw [deprovisionedRow, if_neg (by simp), Phase.ofRow?_deleted]
      cases row.status <;> decide
  | @settled _ _ row _ _ time may called =>
    have live := Store.liveInstance?_live may.live
    rw [Phase.ofRow?_live live]
    cases called with
    | resumed pending | givenUp pending =>
      rw [pending]
      exact Phase.mem_next_pending _
    | finished creating =>
      rw [RecordAction.row?, Phase.ofRow?_overwriteInstance live, InstanceRow.withStatus_status]
      rcases creating with status | status <;> rw [status] <;> decide
    | gone status | wasDelete status =>
      rw [status, RecordAction.row?, Phase.ofRow?_deleted]
      decide

/-- A claim is left alone for as long as it is young. -/
theorem RowChange.not_young {row : InstanceRow} {new : Option InstanceRow}
    (h : RowChange b faults now s op asked (some row) new) (pending : row.status = .pending) :
    b.isStale now row.createdAt = true := by
  cases h with
  | deleted _ may => exact may.abandoned pending
  | settled _ may => exact may.abandoned pending

/-- What a poll that deletes a row must have been told. -/
theorem RowChange.of_deleted {old new : Option InstanceRow}
    (h : RowChange b faults now s (.lastOperation id) asked old new)
    (deleted : Phase.ofRow? new = .deleted) :
    ∃ row provider, old = some row ∧ ⟨s, provider, .poll row, .ok true⟩ ∈ asked ∧
      (row.status = .deprovisioning ∨
        row.status = .active ∧ ⟨s, provider, .wasDelete row, .ok true⟩ ∈ asked) := by
  cases h with
  | @settled _ _ row provider _ time may called =>
    have live := Store.liveInstance?_live may.live
    refine ⟨row, provider, rfl, ?_⟩
    cases called with
    | gone status => exact ⟨by simp, .inl status⟩
    | wasDelete status => exact ⟨by simp, .inr ⟨status, by simp⟩⟩
    | resumed | finished =>
      rw [RecordAction.row?, Phase.ofRow?_overwriteInstance live,
        InstanceRow.withStatus_status] at deleted
      cases deleted
    | givenUp => cases deleted

end RowChange

/-- One operation takes instances along edges of the lifecycle, in a store that keeps their
identifiers distinct, as their table does. It leaves alone every instance but the one that it names,
and that one too while a claim of it is young; and a poll deletes an instance only if its provider
says that it is gone. -/
theorem follows_lifecycle {b : Broker} {faults : Faults} {now : Instant} {op : Operation}
    {s s' : Store} {asked : List Consultation} {r : Except BrokerError Response}
    (keys : s.DistinctInstances) (h : Acts faults (b.perform now op) s asked r s') :
    (∀ id, s'.phase id ∈ (s.phase id).next) ∧
    (∀ id, id ≠ op.instanceId → s'.row? id = s.row? id) ∧
    (∀ id row, s.row? id = some row → row.live = true → row.status = .pending →
      now - row.createdAt < b.claimTimeout → s'.row? id = some row) ∧
    (∀ id i, op = .lastOperation i → s.phase id ≠ .deleted → s'.phase id = .deleted →
      ∃ row provider, s.row? id = some row ∧ ⟨s, provider, .poll row, .ok true⟩ ∈ asked ∧
        (row.status = .deprovisioning ∨
          row.status = .active ∧ ⟨s, provider, .wasDelete row, .ok true⟩ ∈ asked)) := by
  have rows := (Course.of_acts h).row? keys
  refine ⟨fun id => ?_, fun id other => ?_, fun id row held live pending young => ?_,
    fun id i poll standing deleted => ?_⟩
  · rcases rows id with kept | ⟨-, change⟩
    · rw [Store.phase, Store.phase, kept]
      exact Phase.mem_next_self _
    · exact change.next
  · exact (rows id).resolve_right fun change => other change.1
  · rcases rows id with kept | ⟨-, change⟩
    · rw [kept, held]
    · rw [held] at change
      have stale := change.not_young pending
      simp [isStale_of_young young] at stale
  · subst poll
    rcases rows id with kept | ⟨-, change⟩
    · rw [Store.phase, kept] at deleted
      exact absurd deleted standing
    · exact change.of_deleted deleted

/-- A poll by which an active instance turns out to be deleted, beside a young claim. -/
theorem follows_lifecycle_deletion :
    let row := (InstanceRow.claim 0 "i" "bucket" "small").withStatus .active
    let claim := InstanceRow.claim 900 "j" "bucket" "small"
    let s : Store := { instances := [row, claim] }
    let s' : Store := { instances := [Store.deleted 1000 row, claim] }
    let asked : List Consultation :=
      [⟨s, Sample.provider, .poll row, .ok true⟩, ⟨s, Sample.provider, .wasDelete row, .ok true⟩]
    Acts .none (Sample.broker.perform 1000 (.lastOperation "i")) s asked
        (.ok (.reported ⟨.succeeded, none⟩)) s' ∧
      s'.phase "i" ∈ (s.phase "i").next ∧ s'.row? "j" = some claim ∧
      ∃ (row : InstanceRow) (provider : Provider), s.row? "i" = some row ∧
        ⟨s, provider, .poll row, .ok true⟩ ∈ asked ∧ (row.status = .deprovisioning ∨
          row.status = .active ∧ ⟨s, provider, .wasDelete row, .ok true⟩ ∈ asked) := by
  intro row claim s s' asked
  have performed : Acts .none (Sample.broker.perform 1000 (.lastOperation "i")) s asked
      (.ok (.reported ⟨.succeeded, none⟩)) s' := by
    refine ⟨[⟨s, .store (.getInstance "i"), .ok row⟩,
      ⟨s, .provider Sample.provider (.poll row), .ok true⟩,
      ⟨s, .provider Sample.provider (.wasDelete row), .ok true⟩,
      ⟨s, .store (.softDeleteInstance "i"), .ok ()⟩], ?_, rfl⟩
    refine .ask (World.store 1000 rfl) ?_
    refine .ask (World.provider _) ?_
    refine .ask (World.provider _) ?_
    refine .ask (World.store 1000 rfl) ?_
    exact .done
  have keys : s.DistinctInstances := by decide
  obtain ⟨edges, others, young, deletions⟩ := follows_lifecycle keys performed
  have deleted := deletions "i" "i" rfl (by decide) (by decide)
  exact ⟨performed, edges "i", young "j" claim rfl rfl rfl (by decide), deleted⟩

end Broker

end Brokerage
