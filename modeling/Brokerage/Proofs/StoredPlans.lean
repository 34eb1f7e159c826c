import Brokerage.Proofs.LegacyPlans
import Brokerage.Proofs.Store.History

/-! Which stored plans are recognised as legacy plans. A candidate is looked up by service and name,
and the look-up finds the row that was stored first; instances on that plan are held up. A row that
was stored later under the same service and name has an identifier of its own, but no path starts
there. -/

namespace Brokerage

/-- The plan is live, and is known by a service and a name. -/
def PlanRow.KnownAs (serviceId name : String) (row : PlanRow) : Prop :=
  row.serviceId = serviceId ∧ row.name = name ∧ row.deletedAt? = none

namespace Store

variable {s s' : Store} {serviceId name : String} {row other : PlanRow}

/-! ### Looking plans up -/

/-- The plan that a look-up finds. -/
def plan? (s : Store) (serviceId name : String) : Option PlanRow :=
  s.plans.find? fun p => p.serviceId = serviceId && p.name = name && p.deletedAt?.isNone

/-- The row is live, and the first that is known by its service and its name. -/
def Leads (s : Store) (row : PlanRow) : Prop :=
  row.deletedAt? = none ∧ ∃ before after, s.plans = before ++ row :: after ∧
    ∀ r ∈ before, ¬ r.KnownAs row.serviceId row.name

theorem plan?_eq_some_iff :
    s.plan? serviceId name = some row ↔ s.Leads row ∧ row.KnownAs serviceId name := by
  have test : ∀ r : PlanRow, (r.serviceId = serviceId && r.name = name && r.deletedAt?.isNone) =
      true ↔ r.KnownAs serviceId name := by
    simp [PlanRow.KnownAs, and_assoc]
  simp only [plan?, List.find?_eq_some_iff_append, Bool.not_eq_true', ← Bool.not_eq_true, test]
  constructor
  · rintro ⟨⟨rfl, rfl, live⟩, split⟩
    exact ⟨⟨live, split⟩, rfl, rfl, live⟩
  · rintro ⟨⟨-, split⟩, rfl, rfl, live⟩
    exact ⟨⟨rfl, rfl, live⟩, split⟩

theorem Leads.mem (leads : s.Leads row) : row ∈ s.plans := by
  obtain ⟨-, before, after, split, -⟩ := leads
  rw [split]
  exact List.mem_append_right _ List.mem_cons_self

theorem step_getPlan (now : Instant) : s.step now (.getPlan serviceId name) =
    ((s.getPlan serviceId name), s) := by
  rw [step, answer, reading]
  cases s.getPlan serviceId name <;> rfl

theorem step_createPlan (now : Instant) (row : PlanRow) : s.step now (.createPlan row) =
    if s.plans.any (·.id = row.id) then
      (.error (.constraint "UNIQUE constraint failed: plan_details.id"), s)
    else (.ok (), { s with plans := s.plans ++ [{ row with deletedAt? := none }] }) := by
  by_cases taken : s.plans.any (·.id = row.id)
  · rw [step, answer, createPlan, if_pos taken, if_pos taken]
    rfl
  · rw [step, answer, createPlan, if_neg taken, if_neg taken]
    rfl

/-! ### Identifiers of plans -/

/-- No two plans share an identifier. -/
def DistinctPlans (s : Store) : Prop := (s.plans.map (·.id)).Nodup

namespace DistinctPlans

theorem eq_of_id (keys : s.DistinctPlans) (stored : row ∈ s.plans) (stored' : other ∈ s.plans)
    (same : row.id = other.id) : row = other := by
  have found := find?_key_of_mem keys stored
  rw [same, find?_key_of_mem keys stored'] at found
  exact (Option.some.inj found).symm

/-- A plan that is stored has an identifier of its own. -/
theorem createPlan (keys : s.DistinctPlans) (now : Instant) (row : PlanRow) :
    (s.step now (.createPlan row)).2.DistinctPlans := by
  rw [step_createPlan]
  split
  · exact keys
  · rename_i untaken
    have apart : row.id ∉ s.plans.map (·.id) := by
      simpa using untaken
    simp only [DistinctPlans, List.map_append, List.map_cons, List.map_nil]
    refine List.nodup_append.mpr ⟨keys, List.pairwise_singleton _ _, fun id hid new hnew => ?_⟩
    rw [List.mem_singleton.mp hnew]
    exact fun same => apart (same ▸ hid)

/-- No call makes two plans share an identifier. -/
theorem step (keys : s.DistinctPlans) (now : Instant) (call : StoreCall) :
    (s.step now call).2.DistinctPlans := by
  rcases s.step_cases now call with ⟨e, failed⟩ | ⟨value, s', answered, effect⟩
  · rw [failed]
    exact keys
  · cases effect with
    | createPlan => exact keys.createPlan now _
    | query | createInstance | claimInstance | saveInstance | softDeleteInstance
    | releaseInstanceClaim | createBinding | saveBinding | releaseBindingClaim | softDeleteBinding
    | createRequest =>
      rw [answered]
      exact keys

end DistinctPlans

theorem History.distinctPlans {h : List Transaction} (run : History s h s')
    (keys : s.DistinctPlans) : s'.DistinctPlans := by
  induction run with
  | start => exact keys
  | @call t later s' made rest ih =>
    refine ih ?_
    cases made with
    | @answered _ _ call _ now step =>
      have kept := keys.step now call
      rwa [step] at kept
    | failed => exact keys

end Store

namespace Upgrader

variable {u : Upgrader} {serviceId planId : String}

/-! ### Plans that are held up -/

/-- An operation uses an instance in a way that a legacy plan rules out. -/
def Uses (id : String) : Operation → Prop
  | .deprovision i _ _ | .bind i _ _ | .unbind i _ _ => i = id
  | .provision _ _ _ | .update _ _ _ | .lastOperation _ => False

/-- Whatever the circumstances, no instance is created on a plan, and none that is on it can be
used. -/
def HoldsUp (u : Upgrader) (serviceId planId : String) : Prop :=
  ∀ (v : Scene) (now time : Instant) (conduct : Conduct),
    (∀ id request asyncAllowed, request.serviceId = serviceId → request.planId = planId →
      ∃ reason, v.play time conduct (u.perform now (.provision id request asyncAllowed)) =
        (.error (.legacyPlan reason), v)) ∧
    ∀ id row, v.store.liveInstance? id = some row → row.serviceId = serviceId →
      row.planId = planId → ∀ op, Uses id op →
        ∃ reason, v.play time conduct (u.perform now op) = (.error (.legacyPlan reason), v)

theorem Uses.hindered {id : String} {op : Operation} (uses : Uses id op) (path : UpgradePath) :
    Hindered id path op := by
  cases op with
  | deprovision => cases uses; exact .deprovision
  | bind => cases uses; exact .bind
  | unbind => cases uses; exact .unbind
  | provision | update | lastOperation => cases uses

/-- A plan is held up if a path starts at it, and only then. -/
theorem holdsUp_iff_legacy : u.HoldsUp serviceId planId ↔ u.Legacy serviceId planId := by
  constructor
  · intro holds
    refine Classical.byContradiction fun current => ?_
    -- With no path to refuse it, the request goes to the broker, which knows of no legacy plans.
    let request : ProvisionRequest := { serviceId := serviceId, planId := planId }
    let conduct : Conduct := fun _ _ _ => .error (.unavailable "")
    obtain ⟨reason, refused⟩ := (holds ⟨.empty, []⟩ 0 0 conduct).1 "" request false rfl rfl
    obtain ⟨asked, acted, -⟩ := Scene.acts_of_play refused
    have acted := Acts.of_map_error acted
    rw [provision, path?_eq_none_iff.mpr current] at acted
    cases acted.plain (u.broker.provision_plain 0 "" request false)
  · intro legacy v now time conduct
    refine ⟨fun id request asyncAllowed service plan => ?_,
      fun id row live service plan op uses => ?_⟩
    · subst service plan
      exact play_provision_of_legacy legacy id asyncAllowed
    · subst service plan
      obtain ⟨path, found⟩ := exists_path? legacy
      exact play_hindered live found (uses.hindered path)

end Upgrader

namespace UpgradeCandidate

variable {w : Scene} {time : Instant} {conduct : Conduct} {candidates : List UpgradeCandidate}

/-! ### Resolving candidates -/

/-- The paths of the candidates whose plans a store has. -/
def pathsIn (s : Store) (candidates : List UpgradeCandidate) : List UpgradePath :=
  candidates.filterMap fun c => (s.plan? c.serviceId c.legacyPlanName).map c.path

theorem play_resolve (c : UpgradeCandidate) : w.play time conduct c.resolve =
    (.ok ((w.store.plan? c.serviceId c.legacyPlanName).map c.path), w) := by
  rw [resolve, Scene.play_bind_of_ok _ (Scene.play_storeResult _), Store.step_getPlan,
    Store.getPlan, Store.plan?]
  cases w.store.plans.find? _ <;> exact Scene.play_of_done rfl w

theorem pathsIn_cons (s : Store) (c : UpgradeCandidate) (rest : List UpgradeCandidate) :
    pathsIn s (c :: rest) =
      ((s.plan? c.serviceId c.legacyPlanName).map c.path).toList ++ pathsIn s rest := by
  rw [pathsIn, List.filterMap_cons]
  cases s.plan? c.serviceId c.legacyPlanName <;> rfl

theorem play_resolveAll (candidates : List UpgradeCandidate) :
    w.play time conduct (resolveAll candidates) = (.ok (pathsIn w.store candidates), w) := by
  induction candidates with
  | nil => exact Scene.play_of_done rfl w
  | cons c rest ih =>
    rw [resolveAll, Scene.play_bind_of_ok _ (play_resolve c), Scene.play_bind_of_ok _ ih,
      pathsIn_cons]
    exact Scene.play_of_done rfl w

theorem mem_pathsIn {s : Store} {p : UpgradePath} : p ∈ pathsIn s candidates ↔
    ∃ c ∈ candidates, ∃ row, (s.Leads row ∧ row.KnownAs c.serviceId c.legacyPlanName) ∧
      c.path row = p := by
  simp only [pathsIn, List.mem_filterMap, Option.map_eq_some_iff, Store.plan?_eq_some_iff]

/-! ### What is recognised -/

/-- A path starts at a stored plan that a candidate names if and only if the plan is the first of its
service and name. -/
theorem legacy_iff_leads {b : Broker} {s : Store} {row : PlanRow} {c : UpgradeCandidate}
    (keys : s.DistinctPlans) (stored : row ∈ s.plans) (named : c ∈ candidates)
    (known : row.KnownAs c.serviceId c.legacyPlanName) :
    Upgrader.Legacy ⟨b, pathsIn s candidates⟩ row.serviceId row.id ↔ s.Leads row := by
  constructor
  · rintro ⟨_, path, service, id⟩
    obtain ⟨c', -, first, ⟨leads, -⟩, rfl⟩ := mem_pathsIn.mp path
    obtain rfl : first = row := keys.eq_of_id leads.mem stored id
    exact leads
  · intro leads
    exact ⟨c.path row, mem_pathsIn.mpr ⟨c, named, row, ⟨leads, known⟩, rfl⟩, known.1.symm, rfl⟩

/-- Every path comes from a stored plan and a candidate that names it. A stored plan that some
candidate names is recognised, so that nothing can be created on it and no instance on it be used, if
no other was stored before it under its service and name; else it is not. -/
theorem first_plans_recognised (w : Scene) (time : Instant) (conduct : Conduct)
    {h : List Transaction} (run : Store.History .empty h w.store)
    (candidates : List UpgradeCandidate) :
    ∃ paths, w.play time conduct (resolveAll candidates) = (.ok paths, w) ∧
      (∀ path ∈ paths, ∃ c ∈ candidates, ∃ row ∈ w.store.plans,
        row.KnownAs c.serviceId c.legacyPlanName ∧ path = c.path row) ∧
      ∀ c ∈ candidates, ∀ row ∈ w.store.plans, row.KnownAs c.serviceId c.legacyPlanName →
        ((∃ path ∈ paths, path.serviceId = row.serviceId ∧ path.legacyPlanId = row.id) ↔
          w.store.Leads row) ∧
        ∀ b, Upgrader.HoldsUp ⟨b, paths⟩ row.serviceId row.id ↔ w.store.Leads row := by
  have keys : w.store.DistinctPlans := run.distinctPlans .nil
  refine ⟨_, play_resolveAll candidates, fun path found => ?_, fun c named row stored known => ?_⟩
  · obtain ⟨c, named, row, ⟨leads, known⟩, rfl⟩ := mem_pathsIn.mp found
    exact ⟨c, named, row, leads.mem, known, rfl⟩
  · have recognised (b : Broker) :
        Upgrader.Legacy ⟨b, pathsIn w.store candidates⟩ row.serviceId row.id ↔ w.store.Leads row :=
      legacy_iff_leads keys stored named known
    exact ⟨recognised Sample.promptBroker,
      fun b => Upgrader.holdsUp_iff_legacy.trans (recognised b)⟩

end UpgradeCandidate

namespace Sample

/-- Plans of one name, which are told apart by their identifiers. -/
def standardPlan (id : String) : PlanRow := .of 0 id "bucket" "standard" ""

def standardCandidate : UpgradeCandidate := ⟨"bucket", "standard", "small", "small"⟩

/-- Two plans were stored under one name, and an instance is on the second. -/
def repeated : Store := Store.empty.after
  [(0, .createPlan (standardPlan "old-1")), (0, .createPlan (standardPlan "old-2")),
    (0, .createInstance { madeRow with planId := "old-2" })]

theorem standardPlan_known (id : String) :
    (standardPlan id).KnownAs standardCandidate.serviceId standardCandidate.legacyPlanName :=
  ⟨rfl, rfl, rfl⟩

end Sample

/-- Of two plans of one name the first is held up. -/
theorem UpgradeCandidate.first_plans_recognised_repeated :
    let s := Sample.repeated
    let conduct : Conduct := fun _ _ _ => .error (.unavailable "busy")
    ∃ h paths, Store.History .empty h s ∧
      Scene.play ⟨s, []⟩ 0 conduct (resolveAll [Sample.standardCandidate]) = (.ok paths, ⟨s, []⟩) ∧
      s.Leads (Sample.standardPlan "old-1") ∧ ¬ s.Leads (Sample.standardPlan "old-2") ∧
      ∀ b, Upgrader.HoldsUp ⟨b, paths⟩ "bucket" "old-1" ∧
        ¬ Upgrader.HoldsUp ⟨b, paths⟩ "bucket" "old-2" := by
  intro s conduct
  have run := Store.history_after .empty
    [(0, .createPlan (Sample.standardPlan "old-1")), (0, .createPlan (Sample.standardPlan "old-2")),
      (0, .createInstance { Sample.madeRow with planId := "old-2" })]
  have first : s.Leads (Sample.standardPlan "old-1") :=
    ⟨rfl, [], [Sample.standardPlan "old-2"], rfl, List.forall_mem_nil _⟩
  have second : ¬ s.Leads (Sample.standardPlan "old-2") := by
    intro leads
    have found := Store.plan?_eq_some_iff.mpr ⟨leads, Sample.standardPlan_known "old-2"⟩
    exact absurd found (by decide)
  obtain ⟨paths, resolved, -, recognised⟩ :=
    UpgradeCandidate.first_plans_recognised ⟨s, []⟩ 0 conduct run [Sample.standardCandidate]
  have holds := fun id stored => (recognised _ List.mem_cons_self (Sample.standardPlan id) stored
    (Sample.standardPlan_known id)).2
  refine ⟨_, paths, run, resolved, first, second, fun b => ⟨?_, ?_⟩⟩
  · exact (holds "old-1" (by decide) b).mpr first
  · exact fun held => second ((holds "old-2" (by decide) b).mp held)

/-- No path starts at the second plan of a name, and an instance that is on it is deleted as if it
were on a plan of today. -/
theorem UpgradeCandidate.second_plan_unrecognised :
    let s := Sample.repeated
    let c := Sample.standardCandidate
    let row := Sample.standardPlan "old-2"
    let conduct : Conduct := fun _ _ call =>
      match call with
      | .deprovision _ _ => .ok ()
      | _ => .error (.unavailable "busy")
    ∃ h paths, Store.History .empty h s ∧
      Scene.play ⟨s, []⟩ 0 conduct (resolveAll [c]) = (.ok paths, ⟨s, []⟩) ∧
      row ∈ s.plans ∧ row.KnownAs c.serviceId c.legacyPlanName ∧
      (¬ ∃ path ∈ paths, path.serviceId = row.serviceId ∧ path.legacyPlanId = row.id) ∧
      ∃ instanceRow w, s.liveInstance? "i" = some instanceRow ∧
        instanceRow.serviceId = row.serviceId ∧ instanceRow.planId = row.id ∧
        Scene.play ⟨s, []⟩ 10 conduct (Upgrader.perform ⟨Sample.promptBroker, paths⟩ 10
          (.deprovision "i" {} false)) = (.ok (.deprovisioned false), w) ∧
        w.store.liveInstance? "i" = none := by
  intro s c row conduct
  refine ⟨_, _, Store.history_after .empty _, play_resolveAll [c], by decide, ⟨rfl, rfl, rfl⟩,
    by decide, _, _, rfl, rfl, rfl, rfl, rfl⟩

end Brokerage
