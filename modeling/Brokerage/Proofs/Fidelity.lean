import Brokerage.Proofs.Broker.Upgrade
import Brokerage.Proofs.Creation
import Brokerage.Proofs.Integrity
import Brokerage.Proofs.Licence

/-! What is on record about an instance. Its row says what the request and the provider said when it
was created, once and for all; of its plan it says the one that was asked for, until an update moves
the instance off it. -/

namespace Brokerage

/-- What a row says about its instance, the plan and the state of it left aside. -/
structure Particulars where
  serviceId : String
  organizationGuid : String
  spaceGuid : String
  name : String
  location : String
  url : String
  otherDetails : String
  createdAt : Instant
  deriving DecidableEq, Repr

def InstanceRow.particulars (row : InstanceRow) : Particulars :=
  ⟨row.serviceId, row.organizationGuid, row.spaceGuid, row.name, row.location, row.url,
    row.otherDetails, row.createdAt⟩

/-- What a request, the provider that met it, and the clock say about an instance. -/
def ProvisionRequest.particulars (request : ProvisionRequest) (metadata : InstanceMetadata)
    (now : Instant) : Particulars :=
  ⟨request.serviceId, request.organizationGuid, request.spaceGuid, metadata.name,
    metadata.location, metadata.url, metadata.details.text, now⟩

/-- Only a provision gives a row to an instance that has none. -/
theorem Broker.RowChange.provision_of_none {b : Broker} {faults : Faults} {now : Instant}
    {s : Store} {op : Operation} {asked : List Consultation} {new : Option InstanceRow}
    (h : RowChange b faults now s op asked none new) :
    ∃ i request asyncAllowed, op = .provision i request asyncAllowed := by
  cases h
  exact ⟨_, _, _, rfl⟩

namespace Upgrader

open Consultation (creations)

/-- The plan of an instance after an operation: an update of it that succeeds replaces its plan. -/
def planAfter (id serviceId planId : String) : Upgrader × Performance → String
  | (u, p) =>
    match p.op, p.result with
    | .update i _ _, .ok _ =>
      if i = id then ((u.path? serviceId planId).map (·.newPlanId)).getD planId else planId
    | _, _ => planId

/-- A row says what was said when its instance was created, but for the plan, which is what the
updates since then have made of the one that was asked for. -/
def Recorded (steps : List (Upgrader × Performance)) (row : InstanceRow) : Prop :=
  ∃ past u p later request asyncAllowed plan metadata before provider,
    steps = past ++ (u, p) :: later ∧ p.op = .provision row.id request asyncAllowed ∧
      ⟨before, provider, .provision row.id request plan, .ok metadata⟩ ∈ p.asked ∧
      row.particulars = request.particulars metadata p.now ∧
      row.planId = later.foldl (planAfter row.id row.serviceId) request.planId

/-- What an operation makes of the row of an instance. -/
inductive Outcome (u : Upgrader) (p : Performance) (id : String) :
    Option InstanceRow → Option InstanceRow → Prop
  | absent (uncreated : creations id p.asked = 0) : Outcome u p id none none
  | created {request : ProvisionRequest} {asyncAllowed : Bool} {plan : Plan}
      {metadata : InstanceMetadata} {before : Store} {provider : Provider} {row : InstanceRow}
      (op : p.op = .provision id request asyncAllowed)
      (asked : p.asked = [⟨before, provider, .provision id request plan, .ok metadata⟩])
      (named : row.id = id) (content : row.particulars = request.particulars metadata p.now)
      (planned : row.planId = request.planId) (settled : row.status ≠ .pending) :
      Outcome u p id none (some row)
  | kept {old new : InstanceRow} (uncreated : creations id p.asked = 0)
      (content : new.particulars = old.particulars)
      (planned : new.planId = planAfter id old.serviceId old.planId (u, p))
      (settled : new.status ≠ .pending) : Outcome u p id (some old) (some new)

section Outcome

variable {u : Upgrader} {faults : Faults} {now : Instant} {s s' : Store} {op : Operation}
  {asked : List Consultation} {r : Except BrokerError Response} {id : String}

/-- A broker by itself moves no instance to another plan. -/
theorem planAfter_served {b : Broker} (h : b.Course faults now s op asked r s')
    (serviceId planId : String) :
    planAfter id serviceId planId (u, ⟨now, op, s, asked, r, s'⟩) = planId := by
  cases h <;> rfl

theorem planAfter_ne {i serviceId planId : String} {request : UpdateRequest} {asyncAllowed : Bool}
    (other : i ≠ id) :
    planAfter id serviceId planId
      (u, ⟨now, .update i request asyncAllowed, s, asked, r, s'⟩) = planId := by
  cases r with
  | error e => rfl
  | ok response => simp [planAfter, other]

/-- An instance that has no row gets one by being created only, if the store does not fail. -/
theorem Outcome.of_provisioning {b : Broker} {i : String} {request : ProvisionRequest}
    {asyncAllowed : Bool} {created : Except BrokerError Bool} (reliable : ¬ faults.Possible)
    (h : Broker.Provisioning b faults now i request asyncAllowed s asked created s')
    (fresh : s.row? id = none) :
    Outcome u ⟨now, .provision i request asyncAllowed, s, asked, created.map .provisioned, s'⟩ id
      none (s'.row? id) := by
  cases h with
  | refused =>
    rw [fresh]
    exact .absent rfl
  | failed may released =>
    obtain rfl := released.resolve_right fun fault => reliable fault.1
    rw [Broker.requested, Store.row?_withRequest, fresh]
    exact .absent rfl
  | orphaned _ fault => exact absurd fault reliable
  | @created plan provider metadata saved may =>
    have inserted : ∀ row : InstanceRow, row.id = i →
        ((Broker.requested now i request s).withInstance row).row? id =
          if i = id then some row else none := by
      rintro row rfl
      rw [Store.row?_withInstance, Broker.requested, Store.row?_withRequest, fresh, Option.none_or]
    rw [inserted _ rfl]
    by_cases same : i = id
    · subst same
      obtain ⟨⟨_, -, -, -, planned⟩, -⟩ := Registry.of_resolve may.resolved
      rw [if_pos rfl]
      refine .created rfl rfl rfl rfl planned ?_
      show (Broker.provisionedRow (Broker.claim now i request plan) metadata
        provider.provisionsAsync).status ≠ .pending
      rw [Broker.provisionedRow, InstanceRow.withStatus_status]
      cases provider.provisionsAsync <;> decide
    · rw [if_neg same]
      exact .absent (by simp [creations, Consultation.creates, same])

theorem Outcome.of_fresh (reliable : ¬ faults.Possible) (keys : s.DistinctInstances)
    (h : u.broker.Course faults now s op asked r s') (fresh : s.row? id = none) :
    Outcome u ⟨now, op, s, asked, r, s'⟩ id none (s'.row? id) := by
  have kept : (∀ i request asyncAllowed, op ≠ .provision i request asyncAllowed) →
      Outcome u ⟨now, op, s, asked, r, s'⟩ id none (s'.row? id) := by
    intro other
    have gone : s'.row? id = none := by
      rcases h.row? keys id with same | ⟨-, change⟩
      · rw [same, fresh]
      · rw [fresh] at change
        obtain ⟨i, request, asyncAllowed, same⟩ := change.provision_of_none
        exact absurd same (other i request asyncAllowed)
    rw [gone]
    exact .absent ((h.creations id).resolve_right fun created => created.2.2 gone)
  cases h with
  | provision h => exact .of_provisioning reliable h fresh
  | deprovision | bind | unbind | update | lastOperation => exact kept nofun

/-- What a row that is no claim says, a broker by itself leaves as it is. -/
theorem Outcome.of_held (keys : s.DistinctInstances)
    (h : u.broker.Course faults now s op asked r s') {old : InstanceRow}
    (held : s.row? id = some old) (settled : old.status ≠ .pending) :
    Outcome u ⟨now, op, s, asked, r, s'⟩ id (some old) (s'.row? id) := by
  have uncreated : creations id asked = 0 :=
    (h.creations id).resolve_right fun created => by simp [held] at created
  rcases h.row? keys id with same | ⟨-, change⟩
  · rw [same, held]
    exact .kept uncreated rfl (planAfter_served h _ _).symm settled
  · rw [held] at change
    obtain ⟨row, new, settled, same⟩ := change.of_settled settled
    rw [new]
    refine .kept uncreated ?_ ?_ settled
    · rw [same]
      rfl
    · rw [planAfter_served h, same]

/-- An operation has an outcome for every instance, if the store does not fail and has no claims. -/
theorem Course.outcome (reliable : ¬ faults.Possible) (keys : s.DistinctInstances)
    (settled : ∀ row, s.row? id = some row → row.status ≠ .pending)
    (h : u.Course faults now s op asked r s') :
    Outcome u ⟨now, op, s, asked, r, s'⟩ id (s.row? id) (s'.row? id) := by
  cases h with
  | declined =>
    cases held : s.row? id with
    | none => exact .absent rfl
    | some row => exact .kept rfl rfl (by cases op <;> rfl) (settled row held)
  | served h =>
    cases held : s.row? id with
    | none => exact .of_fresh reliable keys h held
    | some row => exact .of_held keys h held (settled row held)
  | @moved i request asyncAllowed row path saved live legacy =>
    have keeps : ∀ old, (Store.overwriteInstance saved
        { row with planId := path.newPlanId } old).id = old.id := fun _ => rfl
    by_cases same : i = id
    · subst same
      have held := Store.row?_of_liveInstance? keys live
      rw [Store.row?_rewriteInstance_self keys keeps live, held]
      refine .kept rfl rfl ?_ (settled row held)
      simp [planAfter, legacy, Store.overwriteInstance]
    · rw [Store.row?_rewriteInstance_ne keeps (Ne.symm same)]
      cases held : s.row? id with
      | none => exact .absent rfl
      | some row => exact .kept rfl rfl (planAfter_ne same).symm (settled row held)

end Outcome

/-! ### Histories -/

/-- What is on record after operations: an instance without a row was never created, and one that has
a row was created once, of which the row tells. -/
structure Faithful (steps : List (Upgrader × Performance)) (s : Store) : Prop where
  absent : ∀ id, s.row? id = none → creations id (steps.flatMap (·.2.asked)) = 0
  present : ∀ id row, s.row? id = some row → row.status ≠ .pending ∧
    creations id (steps.flatMap (·.2.asked)) = 1 ∧ Recorded steps row

variable {faults : Faults} {s s' : Store} {steps past : List (Upgrader × Performance)}

theorem creations_concat (id : String) (step : Upgrader × Performance) :
    creations id ((steps ++ [step]).flatMap (·.2.asked)) =
      creations id (steps.flatMap (·.2.asked)) + creations id step.2.asked := by
  simp [creations, List.flatMap_append]

theorem Recorded.created {u : Upgrader} {p : Performance} {row : InstanceRow}
    {request : ProvisionRequest} {asyncAllowed : Bool} {plan : Plan} {metadata : InstanceMetadata}
    {before : Store} {provider : Provider} (op : p.op = .provision row.id request asyncAllowed)
    (asked : p.asked = [⟨before, provider, .provision row.id request plan, .ok metadata⟩])
    (content : row.particulars = request.particulars metadata p.now)
    (planned : row.planId = request.planId) : Recorded (steps ++ [(u, p)]) row :=
  ⟨steps, u, p, [], request, asyncAllowed, plan, metadata, before, provider, rfl, op,
    by rw [asked]; exact List.mem_singleton_self _, content, planned⟩

/-- A row that keeps what it says, but for a plan that was replaced, is on record still. -/
theorem Recorded.kept {step : Upgrader × Performance} {old new : InstanceRow}
    (recorded : Recorded steps old) (named : new.id = old.id)
    (content : new.particulars = old.particulars)
    (planned : new.planId = planAfter old.id old.serviceId old.planId step) :
    Recorded (steps ++ [step]) new := by
  obtain ⟨past, u, p, later, request, asyncAllowed, plan, metadata, before, provider, rfl, op,
    asked, content', planned'⟩ := recorded
  have sameService : new.serviceId = old.serviceId := congrArg Particulars.serviceId content
  refine ⟨past, u, p, later ++ [step], request, asyncAllowed, plan, metadata, before, provider,
    ?_, ?_, ?_, content.trans content', ?_⟩
  · rw [List.append_assoc, List.cons_append]
  · rw [named, op]
  · rw [named]
    exact asked
  · rw [named, sameService, planned, planned', List.foldl_append]
    rfl

theorem Faithful.settled (faithful : Faithful steps s) {id : String} {row : InstanceRow}
    (held : s.row? id = some row) : row.status ≠ .pending :=
  (faithful.present id row held).1

theorem Performs.outcome {u : Upgrader} {p : Performance} (performed : u.Performs faults p)
    (reliable : ¬ faults.Possible) (keys : p.before.DistinctInstances)
    (faithful : Faithful steps p.before) (id : String) :
    Outcome u p id (p.before.row? id) (p.after.row? id) :=
  (Course.of_acts performed).outcome reliable keys fun _ held => faithful.settled held

theorem Faithful.perform {u : Upgrader} {p : Performance} (faithful : Faithful steps p.before)
    (reliable : ¬ faults.Possible) (keys : p.before.DistinctInstances)
    (performed : u.Performs faults p) : Faithful (steps ++ [(u, p)]) p.after := by
  constructor
  · intro id gone
    have outcome := performed.outcome reliable keys faithful id
    rw [gone] at outcome
    cases held : p.before.row? id with
    | none =>
      rw [held] at outcome
      cases outcome with
      | absent uncreated => rw [creations_concat, faithful.absent id held, uncreated]
    | some old =>
      rw [held] at outcome
      cases outcome
  · intro id row new
    have outcome := performed.outcome reliable keys faithful id
    rw [new] at outcome
    cases held : p.before.row? id with
    | none =>
      rw [held] at outcome
      cases outcome with
      | created op asked named content planned settled =>
        subst named
        refine ⟨settled, ?_, .created op asked content planned⟩
        rw [creations_concat, faithful.absent row.id held, asked]
        simp [creations, Consultation.creates]
    | some old =>
      rw [held] at outcome
      obtain ⟨-, once, recorded⟩ := faithful.present id old held
      cases outcome with
      | kept uncreated content planned settled =>
        have named : old.id = id := Store.row?_id held
        refine ⟨settled, ?_, recorded.kept ?_ content ?_⟩
        · rw [creations_concat, once, uncreated]
        · rw [named, Store.row?_id new]
        · rw [named]
          exact planned

theorem History.faithful (run : History faults s steps s') (reliable : ¬ faults.Possible)
    (keys : s.DistinctInstances) (start : Faithful past s) : Faithful (past ++ steps) s' := by
  -- Operations come off the front, so what came before them is carried along.
  induction run generalizing past with
  | start => simpa using start
  | perform performed _ ih =>
    simpa using ih (performed.distinctInstances keys) (start.perform reliable keys performed)

theorem History.particulars (run : History faults s steps s') (reliable : ¬ faults.Possible)
    (keys : s.DistinctInstances) (start : Faithful past s) {id : String} {row : InstanceRow}
    (held : s.row? id = some row) :
    ∃ row', s'.row? id = some row' ∧ row'.particulars = row.particulars := by
  induction run generalizing past row with
  | start => exact ⟨row, held, rfl⟩
  | @perform u p rest t performed _ ih =>
    have outcome := performed.outcome reliable keys start id
    rw [held] at outcome
    cases after : p.after.row? id with
    | none =>
      rw [after] at outcome
      cases outcome
    | some new =>
      rw [after] at outcome
      cases outcome with
      | kept _ content =>
        obtain ⟨row', last, same⟩ := ih (performed.distinctInstances keys)
          (start.perform reliable keys performed) after
        exact ⟨row', last, same.trans content⟩

theorem History.particulars_after (run : History faults s steps s') (reliable : ¬ faults.Possible)
    (keys : s.DistinctInstances) (start : Faithful past s) :
    ∀ step ∈ steps, ∀ row ∈ step.2.after.instances,
      ∃ row' ∈ s'.instances, row'.id = row.id ∧ row'.particulars = row.particulars := by
  induction run generalizing past with
  | start => exact List.forall_mem_nil _
  | perform performed later ih =>
    have keys' := performed.distinctInstances keys
    have next := start.perform reliable keys performed
    refine List.forall_mem_cons.mpr ⟨fun row held => ?_, ih keys' next⟩
    have held := (Store.row?_eq_some_iff keys').mpr ⟨held, rfl⟩
    obtain ⟨row', last, same⟩ := later.particulars reliable keys' next held
    exact ⟨row', Store.row?_mem last, Store.row?_id last, same⟩

/-- From a store without instances, and if the store does not fail: each row, live or deleted, is that
of an instance that was created once, and it says what the request for it and the metadata of its
provider said then, and when that was; its plan is the one that was asked for, or what updates have
replaced it by. Whatever a row says of the rest after an operation, it says for good. -/
theorem records_faithful (reliable : ¬ faults.Possible) (vacant : s.instances = [])
    (run : History faults s steps s') :
    (∀ row ∈ s'.instances,
      creations row.id (steps.flatMap (·.2.asked)) = 1 ∧ Recorded steps row) ∧
    (∀ step ∈ steps, ∀ row ∈ step.2.after.instances,
      ∃ row' ∈ s'.instances, row'.id = row.id ∧ row'.particulars = row.particulars) := by
  have keys : s.DistinctInstances := by
    rw [Store.DistinctInstances, vacant]
    exact List.nodup_nil
  have start : Faithful [] s := by
    constructor
    · exact fun id _ => rfl
    · intro id row held
      rw [Store.row?, vacant] at held
      cases held
  refine ⟨fun row held => ?_, run.particulars_after reliable keys start⟩
  have faithful : Faithful steps s' := run.faithful reliable keys start
  have keys' : s'.DistinctInstances := run.distinctInstances keys
  exact (faithful.present row.id row ((Store.row?_eq_some_iff keys').mpr ⟨held, rfl⟩)).2

/-- An instance that was made on a plan which later counts as a legacy plan, and moved off it. -/
theorem records_faithful_moved :
    let small : Upgrader := ⟨Sample.promptBroker, []⟩
    let large : Upgrader := ⟨Sample.promptBroker, [⟨"bucket", "small", "small", "large", "large"⟩]⟩
    let movedRow : InstanceRow := { Sample.madeRow with planId := "large", updatedAt := 30 }
    let moving : Performance := ⟨30, .update "i" { planId? := some "large" } false, Sample.made, [],
      .ok (.updated false), { Sample.made with instances := [movedRow] }⟩
    let steps := [(small, Sample.making), (large, moving)]
    History .none .empty steps moving.after ∧
      Consultation.creations "i" (steps.flatMap (·.2.asked)) = 1 ∧ Recorded steps movedRow ∧
      ∃ row' ∈ moving.after.instances, row'.id = "i" ∧
        row'.particulars = Sample.madeRow.particulars := by
  intro small large movedRow moving steps
  have moved : large.Performs .none moving := by
    refine ⟨[⟨Sample.made, .store (.getInstance "i"), .ok Sample.madeRow⟩,
      ⟨Sample.made, .store (.saveInstance { Sample.madeRow with planId := "large" }), .ok ()⟩],
      ?_, rfl⟩
    refine .ask (World.store 30 rfl) ?_
    refine .ask (World.store 30 rfl) ?_
    exact .done
  have run : History .none .empty steps moving.after :=
    .perform (u := small) (p := Sample.making) Sample.making_performed
      (.perform (u := large) (p := moving) moved .start)
  obtain ⟨rows, kept⟩ := records_faithful Faults.not_possible_none rfl run
  obtain ⟨once, recorded⟩ := rows movedRow (List.mem_singleton_self _)
  exact ⟨run, once, recorded, kept (small, Sample.making) List.mem_cons_self Sample.madeRow
    (List.mem_singleton_self _)⟩

end Upgrader

end Brokerage
