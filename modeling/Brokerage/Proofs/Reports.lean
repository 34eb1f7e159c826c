import Brokerage.Proofs.Broker.Conditions
import Brokerage.Proofs.Broker.Performance

/-! What a poll reports, and what it does to the row, where something fails on the way: the
provider for the time being, or the store. -/

namespace Brokerage

variable {b : Broker} {faults : Faults} {now : Instant} {s s' : Store}
  {asked : List Consultation} {id : String} {row : InstanceRow} {provider : Provider}

namespace Broker

/-! ### Failures of a provider that pass -/

theorem next_transient (status : InstanceStatus) (reason : String) :
    Transition.next status (.transient reason) = ⟨.inProgress, none, some reason⟩ := by
  cases status <;> rfl

/-- A failure that passes settles nothing. -/
theorem Settled.of_transient {reason : String} {report : LastOperation}
    (h : Settled faults row (.transient reason) s report s') :
    report = ⟨.inProgress, some reason⟩ ∧ s' = s := by
  cases h with
  | idle =>
    rw [next_transient]
    exact ⟨rfl, rfl⟩
  | written _ action | unwritten _ _ action =>
    rw [next_transient] at action
    cases action

/-- What a provider is heard to fail with is its answer to the poll. -/
theorem Heard.of_failed {outcome : PollOutcome} {c : Consultation} {e : ProviderError}
    (h : Heard provider row s asked outcome) (hc : c ∈ asked) (failed : c.answer = .error e) :
    c.call = .poll row ∧
      outcome = if e.isTransient then .transient e.message else .failed e.message := by
  cases h with
  | pending | inFlight =>
    obtain rfl := List.mem_singleton.mp hc
    cases failed
  | told =>
    rcases List.mem_cons.mp hc with rfl | hc
    · cases failed
    · obtain rfl := List.mem_singleton.mp hc
      cases failed
  | failed =>
    obtain rfl := List.mem_singleton.mp hc
    cases failed
    exact ⟨rfl, rfl⟩

/-- A provider that fails for the time being leaves the row as it is. If it was polled, the
operation is reported to be under way, with the failure for a description. If it was asked which
operation it was that finished, an operation is reported to have succeeded that nobody can name. -/
theorem transient_under_way_or_undetermined {r : Except BrokerError Response} {c : Consultation}
    {e : ProviderError} (h : Acts faults (b.perform now (.lastOperation id)) s asked r s')
    (hc : c ∈ asked) (failed : c.answer = .error e) (transient : e.isTransient = true) :
    s' = s ∧ ∃ row, s.liveInstance? id = some row ∧
      (c.call = .poll row ∧ r = .ok (.reported ⟨.inProgress, some e.message⟩) ∨
        c.call = .wasDelete row ∧ row.status = .active ∧
          r = .ok (.reported ⟨.succeeded, some undeterminedOperation⟩)) := by
  obtain ⟨report, rfl, acted⟩ := Acts.of_map h
  cases Polling.of_acts acted with
  | refused | young => cases hc
  | undetermined may active =>
    rcases List.mem_cons.mp hc with rfl | hc
    · cases failed
    · obtain rfl := List.mem_singleton.mp hc
      exact ⟨rfl, _, may.live, .inr ⟨rfl, active, rfl⟩⟩
  | settled may heard settled =>
    obtain ⟨polled, heard⟩ := heard.of_failed hc failed
    rw [heard, if_pos transient] at settled
    obtain ⟨rfl, rfl⟩ := settled.of_transient
    exact ⟨rfl, _, may.live, .inl ⟨polled, rfl⟩⟩

/-- A backend that is too busy to be polled is to be polled again. -/
theorem transient_under_way_or_undetermined_busy :
    let row := (InstanceRow.claim 0 "i" "bucket" "small").withStatus .provisioning
    let s : Store := { instances := [row] }
    let busy : ProviderError := .backend 503 "busy"
    Acts .none (Sample.broker.perform 20 (.lastOperation "i")) s
        [⟨s, Sample.provider, .poll row, .error busy⟩]
        (.ok (.reported ⟨.inProgress, some busy.message⟩)) s ∧
      busy.isTransient = true ∧ s.liveInstance? "i" = some row := by
  intro row s busy
  have acted : Acts .none (Sample.broker.perform 20 (.lastOperation "i")) s
      [⟨s, Sample.provider, .poll row, .error busy⟩]
      (.ok (.reported ⟨.inProgress, some busy.message⟩)) s := by
    refine ⟨[⟨s, .store (.getInstance "i"), .ok row⟩,
      ⟨s, .provider Sample.provider (.poll row), .error busy⟩], ?_, rfl⟩
    refine .ask (World.store 20 rfl) ?_
    refine .ask (World.provider _) ?_
    exact .done
  obtain ⟨-, found, live, ⟨polled, -⟩ | ⟨unpolled, -⟩⟩ :=
    transient_under_way_or_undetermined acted List.mem_cons_self rfl rfl
  · obtain rfl := ProviderCall.poll.inj polled
    exact ⟨acted, rfl, live⟩
  · cases unpolled

/-- A provider that has finished, and is asked in vain which operation that was, because it is too
busy to say, leaves the operation with the report that it succeeded. -/
theorem succeeded_although_transient :
    let row := (InstanceRow.claim 0 "i" "bucket" "small").withStatus .active
    let s : Store := { instances := [row] }
    let busy : ProviderError := .unavailable "busy"
    let asked : List Consultation := [⟨s, Sample.provider, .poll row, .ok true⟩,
      ⟨s, Sample.provider, .wasDelete row, .error busy⟩]
    ∃ report, Acts .none (Sample.broker.perform 20 (.lastOperation "i")) s asked
        (.ok (.reported report)) s ∧
      busy.isTransient = true ∧ report.state ≠ .inProgress := by
  intro row s busy asked
  refine ⟨⟨.succeeded, some undeterminedOperation⟩, ?_, rfl, nofun⟩
  refine ⟨[⟨s, .store (.getInstance "i"), .ok row⟩,
    ⟨s, .provider Sample.provider (.poll row), .ok true⟩,
    ⟨s, .provider Sample.provider (.wasDelete row), .error busy⟩], ?_, rfl⟩
  refine .ask (World.store 20 rfl) ?_
  refine .ask (World.provider _) ?_
  refine .ask (World.provider _) ?_
  exact .done

/-! ### Failures of the store -/

/-- The operation that finished: by the row or, if that does not say, by the provider. -/
def finished (answers : Answers) (provider : Provider) (row : InstanceRow) :
    Except ProviderError WorkKind :=
  match WorkKind.inFlight row.status with
  | some kind => .ok kind
  | none => (answers provider (.wasDelete row)).map fun wasDelete =>
    if wasDelete then .delete else .create

/-- What the answers of a provider to a poll come to; nothing where it fails to say which operation
it was that finished. -/
def heard? (answers : Answers) (provider : Provider) (row : InstanceRow) : Option PollOutcome :=
  match answers provider (.poll row) with
  | .ok false => some .pending
  | .ok true => (finished answers provider row).toOption.map .done
  | .error e => some (if e.isTransient then .transient e.message else .failed e.message)

/-- The transition that a poll makes out: none that changes the row if the claim on it is young, or
if the provider fails to say which operation it was. -/
def due (b : Broker) (now : Instant) (answers : Answers) (provider : Provider) (row : InstanceRow) :
    Transition :=
  if row.status = .pending && !b.isStale now row.createdAt then ⟨.inProgress, none, none⟩
  else
    match heard? answers provider row with
    | some outcome => .next row.status outcome
    | none => ⟨.succeeded, none, some undeterminedOperation⟩

end Broker

/-- The call that carries out an action on a row. -/
def RecordAction.call (row : InstanceRow) : RecordAction → StoreCall
  | .softDelete => .softDeleteInstance row.id
  | .markActive => .saveInstance (row.withStatus .active)
  | .markProvisioning => .saveInstance (row.withStatus .provisioning)
  | .releaseClaim => .releaseInstanceClaim row.id

theorem Broker.carryOut_eq (row : InstanceRow) (action : RecordAction) : carryOut row action =
    (action.call row).result >>= fun answer => pure (answer.map fun _ => ()) := by
  cases action with
  | softDelete =>
    refine congrArg ((StoreCall.softDeleteInstance row.id).result >>= ·) (funext fun answer => ?_)
    cases answer <;> rfl
  | markActive | markProvisioning =>
    refine congrArg ((StoreCall.saveInstance _).result >>= ·) (funext fun answer => ?_)
    cases answer <;> rfl
  | releaseClaim => exact carryOut_releaseClaim row

/-- The store carries out an action on a live row. -/
theorem RecordAction.step_call (action : RecordAction) (time : Instant) {row : InstanceRow}
    {s : Store} (live : s.liveInstance? row.id = some row) :
    ∃ value, s.step time (action.call row) = (.ok value, action.effect time row s) := by
  cases action with
  | softDelete => exact ⟨(), Store.step_softDeleteInstance_of_live time live⟩
  | markActive | markProvisioning => exact ⟨(), Store.step_saveInstance_of_live time live⟩
  | releaseClaim => exact ⟨_, rfl⟩

namespace Transition

/-- A row as a transition leaves it. -/
def row? (time : Instant) (row : InstanceRow) (t : Transition) : Option InstanceRow :=
  match t.action with
  | none => some row
  | some action => action.row? time row

/-- The store once the action of a transition, if it has one, has been carried out. -/
def effect (time : Instant) (row : InstanceRow) (s : Store) (t : Transition) : Store :=
  match t.action with
  | none => s
  | some action => action.effect time row s

variable {time : Instant} {t : Transition}

theorem row?_effect_ne (keys : s.DistinctInstances) (other : id ≠ row.id) :
    (t.effect time row s).row? id = s.row? id := by
  rw [effect]
  cases t.action with
  | none => rfl
  | some action => exact RecordAction.row?_effect_ne keys other

theorem row?_effect (keys : s.DistinctInstances) (live : s.liveInstance? row.id = some row)
    (claimed : t.action = some .releaseClaim → row.status = .pending) :
    (t.effect time row s).row? row.id = t.row? time row := by
  rw [effect, row?]
  cases called : t.action with
  | none => exact Store.row?_of_liveInstance? keys live
  | some action =>
    exact RecordAction.row?_effect keys live fun release => claimed (by rw [called, release])

end Transition

/-- A row with its changes undated: whether it was deleted can be seen, but not when. -/
def InstanceRow.undated (row : InstanceRow) : InstanceRow :=
  { row with updatedAt := 0, deletedAt? := row.deletedAt?.map fun _ => 0 }

/-- When a transition is carried out can be seen only by the dates. -/
theorem Transition.undated_row? (time later : Instant) (row : InstanceRow) (t : Transition) :
    (t.row? later row).map (·.undated) = (t.row? time row).map (·.undated) := by
  rw [row?, row?]
  cases t.action with
  | none => rfl
  | some action => cases action <;> rfl

namespace Conditions

variable {c : Conditions} {action : RecordAction}

theorem run_carryOut (works : c.fault? (action.call row) = none)
    (live : s.liveInstance? row.id = some row) :
    c.run (Broker.carryOut row action) s = (.ok (.ok ()), action.effect c.time row s) := by
  obtain ⟨value, done⟩ := action.step_call c.time live
  have called := run_storeResult (s := s) works
  rw [done] at called
  rw [Broker.carryOut_eq, run_bind_of_ok _ called]
  rfl

theorem run_carryOut_of_fault {e : StoreError} (fault : c.fault? (action.call row) = some e) :
    c.run (Broker.carryOut row action) s = (.ok (.error e), s) := by
  rw [Broker.carryOut_eq, run_bind_of_ok _ (run_storeResult_of_fault fault)]
  rfl

/-- The report of a transition, and the store with its action carried out if it can be. -/
def reported (c : Conditions) (t : Transition) (row : InstanceRow) (s : Store) :
    Except BrokerError LastOperation × Store :=
  match t.action with
  | none => (.ok ⟨t.state, t.description⟩, s)
  | some action =>
    match c.fault? (action.call row) with
    | none => (.ok ⟨t.state, t.description⟩, action.effect c.time row s)
    | some e => (.ok ⟨t.state, some (Broker.actionFailure e action)⟩, s)

theorem reported_sound (time : Instant) (answers : Answers) (t : Transition) :
    (sound time answers).reported t row s =
      (.ok ⟨t.state, t.description⟩, t.effect time row s) := by
  rw [reported, Transition.effect]
  cases t.action <;> rfl

/-- Where nothing can be written, a transition is reported with the same state. -/
theorem reported_unwritable (time : Instant) (answers : Answers) (cause : StoreCall → StoreError)
    (t : Transition) : ∃ description,
      (unwritable time answers cause).reported t row s = (.ok ⟨t.state, description⟩, s) := by
  rw [reported]
  cases t.action with
  | none => exact ⟨_, rfl⟩
  | some action => cases action <;> exact ⟨_, rfl⟩

theorem run_settle (live : s.liveInstance? row.id = some row) (outcome : PollOutcome) :
    c.run (Broker.settle row outcome) s = c.reported (.next row.status outcome) row s := by
  unfold Broker.settle reported
  cases called : (Transition.next row.status outcome).action with
  | none =>
    simp only [called]
    rfl
  | some action =>
    simp only [called]
    cases fault : c.fault? (action.call row) with
    | none =>
      rw [run_bind_of_ok _ (run_carryOut fault live)]
      rfl
    | some e =>
      rw [run_bind_of_ok _ (run_carryOut_of_fault fault)]
      rfl

theorem run_finishedWork (provider : Provider) :
    c.run (Broker.finishedWork provider row) s =
      (.ok (Broker.finished c.answers provider row), s) := by
  cases known : WorkKind.inFlight row.status with
  | some kind =>
    rw [Broker.finishedWork, Broker.finished, known]
    rfl
  | none =>
    rw [Broker.finishedWork_of_unknown known, run_providerResult, Broker.finished, known]
    rfl

/-- A poll reports the transition that is due, and carries its action out if the store lets it. -/
theorem run_lastOperation (readable : c.fault? (.getInstance id) = none)
    (live : s.liveInstance? id = some row)
    (served : b.registry.provider row.serviceId = .ok provider)
    (async : provider.provisionsAsync = true ∨ provider.deprovisionsAsync = true) :
    c.run (b.lastOperation now id) s = c.reported (b.due now c.answers provider row) row s := by
  have polls : (provider.provisionsAsync || provider.deprovisionsAsync) = true := by
    simpa using async
  unfold Broker.lastOperation Broker.due
  rw [run_bind_of_ok _ (run_liveInstance readable live), served]
  rw [run_bind_of_ok (p := ofCatalog (.ok provider)) _ rfl, polls]
  rw [run_bind_of_ok (p := Fallible.require true _) _ rfl]
  split
  · rfl
  · obtain rfl := Store.liveInstance?_id live
    rw [run_providerResult, Broker.heard?]
    cases c.answers provider (.poll row) with
    | error e => exact run_settle live _
    | ok finished =>
      cases finished with
      | false => exact run_settle live _
      | true =>
        simp only [run_bind_of_ok _ (run_finishedWork provider)]
        cases Broker.finished c.answers provider row with
        | ok kind => exact run_settle live _
        | error e => rfl

end Conditions

namespace Broker

/-- A claim that counts as abandoned does so ever after. -/
theorem isStale_mono {later createdAt : Instant} (order : now ≤ later)
    (stale : b.isStale now createdAt = true) : b.isStale later createdAt = true := by
  have aged : now - createdAt ≤ later - createdAt := Int.sub_le_sub_right order createdAt
  simp only [isStale, Bool.and_eq_true, decide_eq_true_eq] at stale ⊢
  exact ⟨stale.1, Int.le_trans stale.2 aged⟩

/-- What is due for a row that is no young claim is due at any later time. -/
theorem due_eq_of_le {later : Instant} {answers : Answers} (order : now ≤ later)
    (old : row.status = .pending → b.isStale now row.createdAt = true) :
    b.due later answers provider row = b.due now answers provider row := by
  by_cases pending : row.status = .pending
  · simp [due, old pending, isStale_mono order (old pending)]
  · simp [due, pending]

theorem pending_of_next_release {status : InstanceStatus} {outcome : PollOutcome}
    (release : (Transition.next status outcome).action = some .releaseClaim) :
    status = .pending := by
  cases status with
  | pending => rfl
  | provisioning | active | deprovisioning =>
    cases outcome with
    | done kind => cases kind <;> cases release
    | pending | transient | failed => cases release

/-- Only a claim is ever due to be released. -/
theorem pending_of_due_release {answers : Answers}
    (release : (b.due now answers provider row).action = some .releaseClaim) :
    row.status = .pending := by
  unfold due at release
  split at release
  · cases release
  · split at release
    · exact pending_of_next_release release
    · cases release

/-- A poll of an instance whose provider works out of band reports the same state whether or not
the store can be written. If it can, the row is left as the transition that is due has it, and no
other row is changed; if it cannot, nothing is. A later poll that gets the same answers then makes
up for what could not be written, save for the dates. Only the poll of a young claim, which would
have written nothing, may find more later. -/
theorem poll_write_recoverable (answers : Answers) (cause : StoreCall → StoreError)
    (time time' time'' : Instant) {later : Instant} (keys : s.DistinctInstances)
    (live : s.liveInstance? id = some row)
    (served : b.registry.provider row.serviceId = .ok provider)
    (async : provider.provisionsAsync = true ∨ provider.deprovisionsAsync = true)
    (order : now ≤ later) :
    let due := b.due now answers provider row
    ∃ report after,
      (Conditions.sound time answers).run (b.lastOperation now id) s =
        (.ok ⟨due.state, due.description⟩, after) ∧
      (Conditions.unwritable time' answers cause).run (b.lastOperation now id) s =
        (.ok report, s) ∧
      report.state = due.state ∧
      after.row? id = due.row? time row ∧ (∀ other ≠ id, after.row? other = s.row? other) ∧
      ((row.status = .pending → b.isStale now row.createdAt = true) → ∃ after',
        (Conditions.sound time'' answers).run (b.lastOperation later id) s =
          (.ok ⟨due.state, due.description⟩, after') ∧
        (after'.row? id).map (·.undated) = (after.row? id).map (·.undated)) := by
  intro due
  obtain rfl := Store.liveInstance?_id live
  have left : ∀ t, (due.effect t row s).row? row.id = due.row? t row := fun t =>
    Transition.row?_effect keys live pending_of_due_release
  obtain ⟨description, unwritten⟩ := Conditions.reported_unwritable time' answers cause due
  refine ⟨⟨due.state, description⟩, due.effect time row s, ?_, ?_, rfl, left time,
    fun other ne => Transition.row?_effect_ne keys ne,
    fun old => ⟨due.effect time'' row s, ?_, ?_⟩⟩
  · rw [Conditions.run_lastOperation rfl live served async]
    exact Conditions.reported_sound time answers due
  · rw [Conditions.run_lastOperation rfl live served async]
    exact unwritten
  · rw [Conditions.run_lastOperation rfl live served async]
    refine Eq.trans ?_ (Conditions.reported_sound time'' answers due)
    exact congrArg (Conditions.reported _ · row s) (due_eq_of_le order old)
  · rw [left, left]
    exact Transition.undated_row? time time'' row due

/-- An instance whose deletion could not be recorded is recorded as deleted by the next poll. -/
theorem poll_write_recoverable_deletion :
    let row := (InstanceRow.claim 0 "i" "bucket" "small").withStatus .deprovisioning
    let s : Store := { instances := [row] }
    let answers : Answers
      | _, .poll _ => .ok true
      | _, _ => .error (.unavailable "busy")
    let cause : StoreCall → StoreError := fun _ => .database .poolTimedOut
    ∃ report after,
      (Conditions.unwritable 20 answers cause).run (Sample.broker.lastOperation 20 "i") s =
        (.ok report, s) ∧
      report.state = .succeeded ∧
      (Conditions.sound 30 answers).run (Sample.broker.lastOperation 30 "i") s =
        (.ok ⟨.succeeded, none⟩, after) ∧
      (after.row? "i").map (·.undated) = some (Store.deleted 0 row).undated := by
  intro row s answers cause
  have keys : s.DistinctInstances := List.pairwise_singleton _ _
  have live : s.liveInstance? "i" = some row := rfl
  have served : Sample.broker.registry.provider row.serviceId = .ok Sample.provider := rfl
  have order : (20 : Instant) ≤ 30 := by decide
  have due : Sample.broker.due 20 answers Sample.provider row =
    ⟨.succeeded, some .softDelete, none⟩ := rfl
  obtain ⟨report, after, -, unwritten, state, left, -, again⟩ :=
    poll_write_recoverable answers cause 20 20 30 keys live served (.inl rfl) order
  obtain ⟨after', repeated, same⟩ := again nofun
  rw [due] at state left repeated
  exact ⟨report, after', unwritten, state, repeated, by rw [same, left]; rfl⟩

end Broker

end Brokerage
