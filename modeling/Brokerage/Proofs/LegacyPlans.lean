import Brokerage.Proofs.Broker.Failures
import Brokerage.Proofs.Broker.Upgrade
import Brokerage.Proofs.Licence
import Brokerage.Proofs.Lifecycle
import Brokerage.Proofs.Transparency

/-! Instances on legacy plans. Nothing can be done with one but to move it, and nothing but that
gives a row another plan. Where no path leads to the start of a path, an instance that was moved is
never held up again. -/

namespace Brokerage

namespace Store

variable {s : Store} {id : String} {row : InstanceRow} {f g : InstanceRow → InstanceRow}

/-- The only row that is rewritten under an identifier is the live one. -/
theorem rewriteInstance_congr (keys : s.DistinctInstances) (live : s.liveInstance? id = some row)
    (same : f row = g row) : s.rewriteInstance id f = s.rewriteInstance id g := by
  have rows : s.instances.map (fun r => if r.id = id && r.live then f r else r) =
      s.instances.map fun r => if r.id = id && r.live then g r else r := by
    refine List.map_congr_left fun r hr => ?_
    by_cases named : r.id = id
    · have found : s.row? id = some r := (row?_eq_some_iff keys).mpr ⟨hr, named⟩
      obtain rfl := Option.some.inj (found.symm.trans (row?_of_liveInstance? keys live))
      rw [same]
    · simp [named]
  rw [rewriteInstance, rewriteInstance, rows]

theorem step_savePlan (now : Instant) (keys : s.DistinctInstances)
    (live : s.liveInstance? id = some row) (planId : String) :
    s.step now (.saveInstance { row with planId := planId }) =
      (.ok (), s.rewriteInstance id fun r => { r with planId := planId, updatedAt := now }) := by
  obtain rfl := liveInstance?_id live
  have found : s.liveInstance? ({ row with planId := planId } : InstanceRow).id = some row := live
  rw [step_saveInstance_of_live now found,
    rewriteInstance_congr (g := fun r => { r with planId := planId, updatedAt := now }) keys live]
  rfl

end Store

namespace Broker

variable {b : Broker} {faults : Faults} {now : Instant} {s s' : Store} {op : Operation}
  {asked : List Consultation} {i id : String} {old new : InstanceRow}

/-! ### Plans of rows -/

theorem RowChange.samePlan (h : RowChange b faults now s op asked (some old) (some new)) :
    new.serviceId = old.serviceId ∧ new.planId = old.planId := by
  generalize left : some new = new? at h
  cases h with
  | @deleted _ _ _ _ _ provider =>
    cases left
    cases provider.deprovisionsAsync <;> exact ⟨rfl, rfl⟩
  | @settled _ _ _ _ action =>
    cases action <;> cases left <;> exact ⟨rfl, rfl⟩

theorem MayProvision.plan_id {request : ProvisionRequest} {asyncAllowed : Bool} {plan : Plan}
    {provider : Provider} (may : b.MayProvision id request asyncAllowed s plan provider) :
    plan.id = request.planId := by
  obtain ⟨⟨_, _, _, _, same⟩, -⟩ := Registry.of_resolve may.resolved
  exact same

theorem Provisioning.plan_of_added {request : ProvisionRequest} {asyncAllowed : Bool}
    {r : Except BrokerError Bool}
    (h : Provisioning b faults now id request asyncAllowed s asked r s') (fresh : s.row? i = none)
    (added : s'.row? i = some new) :
    i = id ∧ new.serviceId = request.serviceId ∧ new.planId = request.planId := by
  have inserted : ∀ {row plan provider}, b.MayProvision id request asyncAllowed s plan provider →
      row.id = id → row.serviceId = request.serviceId → row.planId = plan.id →
      ((requested now id request s).withInstance row).row? i = some new →
      i = id ∧ new.serviceId = request.serviceId ∧ new.planId = request.planId := by
    intro row plan provider may named service planned held
    rw [Store.row?_withInstance, requested, Store.row?_withRequest, fresh, Option.none_or] at held
    split at held <;> cases held
    next same => exact ⟨same ▸ named, service, planned.trans may.plan_id⟩
  cases h with
  | refused => cases fresh.symm.trans added
  | failed may released =>
    rcases released with rfl | ⟨-, rfl⟩
    · cases fresh.symm.trans added
    · exact inserted may rfl rfl rfl added
  | orphaned may => exact inserted may rfl rfl rfl added
  | created saved may => exact inserted may rfl rfl rfl added

/-- A row is added by a provision only, and is of the plan that was asked for. -/
theorem Course.plan_of_added {r : Except BrokerError Response} (keys : s.DistinctInstances)
    (h : b.Course faults now s op asked r s') (fresh : s.row? i = none)
    (added : s'.row? i = some new) :
    ∃ request asyncAllowed, op = .provision i request asyncAllowed ∧
      new.serviceId = request.serviceId ∧ new.planId = request.planId := by
  rcases h.row? keys i with kept | ⟨-, change⟩
  · rw [kept, fresh] at added
    cases added
  · rw [fresh, added] at change
    cases change
    cases h with
    | provision made =>
      obtain ⟨rfl, plan⟩ := made.plan_of_added fresh added
      exact ⟨_, _, rfl, plan⟩

end Broker

namespace Upgrader

variable {u : Upgrader} {faults : Faults} {now time : Instant} {conduct : Conduct} {w : Scene}
  {s s' : Store} {op : Operation} {asked : List Consultation} {id : String}
  {row old new : InstanceRow} {path : UpgradePath} {p : Performance}

/-! ### What is refused, and what moves -/

/-- An operation would use an instance that it does not move along a path. -/
inductive Hindered (id : String) (path : UpgradePath) : Operation → Prop
  | deprovision {request : DeprovisionRequest} {asyncAllowed : Bool} :
      Hindered id path (.deprovision id request asyncAllowed)
  | bind {bindingId : String} {request : BindRequest} :
      Hindered id path (.bind id bindingId request)
  | unbind {bindingId : String} {request : UnbindRequest} :
      Hindered id path (.unbind id bindingId request)
  | update {request : UpdateRequest} {asyncAllowed : Bool}
      (other : request.planId? ≠ some path.newPlanId) :
      Hindered id path (.update id request asyncAllowed)

/-- An update moves an instance off a legacy plan, to where the first path from there leads. -/
inductive Moves (u : Upgrader) : Operation → InstanceRow → InstanceRow → Prop
  | update {row : InstanceRow} {request : UpdateRequest} {asyncAllowed : Bool} {path : UpgradePath}
      (time : Instant) (live : row.live = true)
      (legacy : u.path? row.serviceId row.planId = some path)
      (target : request.planId? = some path.newPlanId) :
      Moves u (.update row.id request asyncAllowed) row
        { row with planId := path.newPlanId, updatedAt := time }

theorem Moves.legacy (moves : u.Moves op old new) : u.Legacy old.serviceId old.planId := by
  cases moves with
  | update _ _ legacy => exact legacy_of_path? legacy

theorem play_hindered (live : w.store.liveInstance? id = some row)
    (legacy : u.path? row.serviceId row.planId = some path) (hindered : Hindered id path op) :
    ∃ reason, w.play time conduct (u.perform now op) = (.error (.legacyPlan reason), w) := by
  cases hindered with
  | deprovision | bind | unbind =>
    exact ⟨_, Scene.play_bind_of_error _ (play_checked_of_legacy live legacy _)⟩
  | @update request _ other =>
    have refused : w.play time conduct (u.update id request) =
        (.error (targetRefusal path), w) := by
      rw [update, Scene.play_bind_of_ok _ (Scene.play_liveInstance_of_live live), legacy]
      simp only [other, decide_false]
      exact Scene.play_bind_of_error _ (Scene.play_of_done rfl w)
    exact ⟨_, Scene.play_bind_of_error _ refused⟩

theorem play_move (keys : w.store.DistinctInstances) (live : w.store.liveInstance? id = some row)
    (legacy : u.path? row.serviceId row.planId = some path) {request : UpdateRequest}
    (target : request.planId? = some path.newPlanId) (asyncAllowed : Bool) :
    w.play time conduct (u.perform now (.update id request asyncAllowed)) =
      (.ok (.updated false), { w with store := w.store.rewriteInstance id fun r =>
        { r with planId := path.newPlanId, updatedAt := time } }) := by
  have saved := Store.step_savePlan time keys live path.newPlanId
  generalize w.store.rewriteInstance id (fun r =>
    { r with planId := path.newPlanId, updatedAt := time }) = s' at saved ⊢
  have written : w.play time conduct
      (StoreCall.saveInstance { row with planId := path.newPlanId }).value =
        (.ok (), { w with store := s' }) := by
    rw [Scene.play_storeValue, saved]
    rfl
  have moved : w.play time conduct (u.update id request) = (.ok false, { w with store := s' }) := by
    rw [update, Scene.play_bind_of_ok _ (Scene.play_liveInstance_of_live live), legacy]
    simp only [target, decide_true]
    exact Scene.play_bind_of_ok _ written
  exact Scene.play_bind_of_ok _ moved

theorem play_provision_of_legacy {request : ProvisionRequest}
    (legacy : u.Legacy request.serviceId request.planId) (id : String) (asyncAllowed : Bool) :
    ∃ reason, w.play time conduct (u.perform now (.provision id request asyncAllowed)) =
      (.error (.legacyPlan reason), w) := by
  obtain ⟨path, found⟩ := exists_path? legacy
  have refused : w.play time conduct (u.provision now id request asyncAllowed) =
      (.error (provisionRefusal path), w) := by
    rw [provision, found]
    exact Scene.play_of_done rfl w
  exact ⟨_, Scene.play_bind_of_error _ refused⟩

/-! ### What an operation makes of the plan of a row -/

/-- A row keeps its service, and its plan too unless the operation moves it. -/
theorem Course.plan_of_kept {r : Except BrokerError Response} (keys : s.DistinctInstances)
    (h : u.Course faults now s op asked r s') (held : s.row? id = some old)
    (left : s'.row? id = some new) :
    new.serviceId = old.serviceId ∧ (new.planId = old.planId ∨ u.Moves op old new) := by
  cases h with
  | declined =>
    cases held.symm.trans left
    exact ⟨rfl, .inl rfl⟩
  | served h =>
    rcases h.row? keys id with kept | ⟨-, change⟩
    · cases (kept.trans held).symm.trans left
      exact ⟨rfl, .inl rfl⟩
    · rw [held, left] at change
      exact ⟨change.samePlan.1, .inl change.samePlan.2⟩
  | @moved i request asyncAllowed row path saved live legacy target =>
    have keeps := Store.overwriteInstance_id saved { row with planId := path.newPlanId }
    obtain rfl := Store.liveInstance?_id live
    by_cases same : id = row.id
    · subst same
      cases (Store.row?_of_liveInstance? keys live).symm.trans held
      rw [Store.row?_rewriteInstance_self keys keeps live] at left
      cases left
      exact ⟨rfl, .inr (.update saved (Store.liveInstance?_live live) legacy target)⟩
    · rw [Store.row?_rewriteInstance_ne keeps same] at left
      cases held.symm.trans left
      exact ⟨rfl, .inl rfl⟩

/-- The instance has no row that is on a legacy plan. -/
def Current (u : Upgrader) (s : Store) (id : String) : Prop :=
  ∀ row, s.row? id = some row → ¬ u.Legacy row.serviceId row.planId

theorem Current.of_live (current : u.Current s id) (keys : s.DistinctInstances)
    (live : s.liveInstance? id = some row) : u.path? row.serviceId row.planId = none :=
  path?_eq_none_iff.mpr (current row (Store.row?_of_liveInstance? keys live))

/-- A row that is added is on no legacy plan, as a provision for one is refused. -/
theorem current_of_added (keys : p.before.DistinctInstances) (performed : u.Performs faults p)
    (fresh : p.before.row? id = none) (added : p.after.row? id = some new) :
    ¬ u.Legacy new.serviceId new.planId := by
  obtain ⟨now, op, s, asked, r, s'⟩ := p
  intro legacy
  have acted : Acts faults (u.perform now op) s asked r s' := performed
  cases Course.of_acts acted with
  | declined => cases fresh.symm.trans added
  | served h =>
    obtain ⟨request, asyncAllowed, rfl, service, plan⟩ := h.plan_of_added keys fresh added
    obtain ⟨path, found⟩ := exists_path? (service ▸ plan ▸ legacy)
    obtain ⟨_, -, refused⟩ := Acts.of_map acted
    rw [provision, found] at refused
    obtain ⟨-, -, rfl⟩ := Acts.of_throw refused
    cases fresh.symm.trans added
  | moved saved =>
    have fresh : s.row? id = none := fresh
    simp only [Store.row?_rewriteInstance (Store.overwriteInstance_id saved _), fresh] at added
    cases added

theorem Performs.current (performed : u.Performs faults p) (keys : p.before.DistinctInstances)
    (current : u.Current p.before id) : u.Current p.after id := by
  intro new left
  cases held : p.before.row? id with
  | none => exact current_of_added keys performed held left
  | some old =>
    have unmoved := current old held
    obtain ⟨service, plan | moved⟩ := (Course.of_acts performed).plan_of_kept keys held left
    · rw [service, plan]
      exact unmoved
    · exact absurd moved.legacy unmoved

/-! ### Where no path leads to the start of another -/

/-- No path leads to a legacy plan. -/
def Final (u : Upgrader) : Prop := ∀ path ∈ u.paths, ¬ u.Legacy path.serviceId path.newPlanId

/-- After an update that succeeds the instance is on no legacy plan. -/
theorem Course.current_of_updated {request : UpdateRequest} {asyncAllowed : Bool}
    {response : Response} (final : u.Final) (keys : s.DistinctInstances)
    (h : u.Course faults now s (.update id request asyncAllowed) asked (.ok response) s') :
    u.Current s' id := by
  cases h with
  | served h => cases h
  | @moved _ _ _ row path saved live legacy =>
    intro new left
    have keeps := Store.overwriteInstance_id saved { row with planId := path.newPlanId }
    rw [Store.row?_rewriteInstance_self keys keeps live] at left
    cases left
    obtain ⟨known, service, -⟩ := of_path? legacy
    have away := final path known
    rw [service] at away
    exact away

/-- The look for a legacy plan finds none where there is none. -/
theorem plain_of_checked {α : Type} {verb : String} {p : Action α} {e : BrokerError}
    (current : u.Current s id) (keys : s.DistinctInstances) (plain : Action.Plain p)
    (h : Acts faults (u.checkUpgraded verb id >>= fun _ => p) s asked (.error e) s') :
    e.isLegacyPlan = false := by
  rcases Acts.of_bind h with ⟨_, ⟨⟩, failed⟩ | ⟨_, _, _, _, -, -, acted⟩
  · rcases Acts.of_liveInstance_error failed with ⟨row, live, looking⟩ | plain
    · rw [current.of_live keys live] at looking
      obtain ⟨-, ⟨⟩, -⟩ := Acts.of_pure looking
    · exact plain
  · exact acted.plain plain

/-- An instance that is on no legacy plan is held up by none. -/
theorem plain_of_current {e : BrokerError} (current : u.Current s op.instanceId)
    (keys : s.DistinctInstances) (used : op.kind ≠ .provision)
    (h : Acts faults (u.perform now op) s asked (.error e) s') : e.isLegacyPlan = false := by
  cases op with
  | provision => exact absurd rfl used
  | deprovision id request asyncAllowed =>
    exact plain_of_checked current keys (u.broker.deprovision_plain now id request asyncAllowed)
      (Acts.of_map_error h)
  | bind id bindingId request =>
    exact plain_of_checked current keys (u.broker.bind_plain now id bindingId request)
      (Acts.of_map_error h)
  | unbind id bindingId request =>
    exact plain_of_checked current keys (u.broker.unbind_plain now id bindingId)
      (Acts.of_map_error h)
  | update id request asyncAllowed =>
    rcases Acts.of_liveInstance_error (Acts.of_map_error h) with ⟨row, live, looking⟩ | plain
    · rw [current.of_live keys live] at looking
      have failed : Acts faults (throw .planChangeNotSupported : Action Bool) s asked
        (.error e) s' := looking
      obtain ⟨-, ⟨⟩, -⟩ := Acts.of_throw failed
      rfl
    · exact plain
  | lastOperation id => exact h.plain (u.broker.perform_plain now (.lastOperation id))

/-- Once an instance is on no legacy plan it is held up by none, whatever comes. -/
theorem History.plain_of_current {steps : List (Upgrader × Performance)}
    (run : History faults s steps s') (keys : s.DistinctInstances)
    (same : ∀ x ∈ steps, x.1 = u) (current : u.Current s id) :
    ∀ x ∈ steps, x.2.op.instanceId = id → x.2.op.kind ≠ .provision →
      ∀ e, x.2.result = .error e → e.isLegacyPlan = false := by
  induction run with
  | start => exact List.forall_mem_nil _
  | @perform v p rest t performed _ ih =>
    obtain ⟨rfl, others⟩ := List.forall_mem_cons.mp same
    refine List.forall_mem_cons.mpr ⟨fun named used e failed => ?_, ?_⟩
    · have acted : Acts faults (v.perform p.now p.op) p.before p.asked (.error e) p.after :=
        failed ▸ performed
      exact Upgrader.plain_of_current (named ▸ current) keys used acted
    · exact ih (performed.distinctInstances keys) others (performed.current keys current)

/-- In each step of a history a row keeps its service, and its plan too unless the step moves it. -/
theorem History.plan_of_kept {steps : List (Upgrader × Performance)}
    (run : History faults s steps s') (keys : s.DistinctInstances) :
    ∀ x ∈ steps, ∀ id old new, x.2.before.row? id = some old → x.2.after.row? id = some new →
      new.serviceId = old.serviceId ∧ (new.planId = old.planId ∨ x.1.Moves x.2.op old new) := by
  induction run with
  | start => exact List.forall_mem_nil _
  | perform performed _ ih =>
    refine List.forall_mem_cons.mpr ⟨fun id old new held left => ?_, ?_⟩
    · exact (Course.of_acts performed).plan_of_kept keys held left
    · exact ih (performed.distinctInstances keys)

theorem History.of_append {h k : List (Upgrader × Performance)}
    (run : History faults s (h ++ k) s') :
    ∃ t, History faults s h t ∧ History faults t k s' := by
  induction h generalizing s with
  | nil => exact ⟨s, .start, run⟩
  | cons x rest ih =>
    cases run with
    | perform performed run =>
      obtain ⟨t, first, last⟩ := ih run
      exact ⟨t, .perform performed first, last⟩

/-- An instance on a legacy plan is of no use until it is moved to where the first path from there
leads, which changes its plan and nothing else, and nothing is created on a legacy plan. Whatever
operations are performed, rows keep their service, and their plan too but for such moves; and where
no path leads to a legacy plan, an instance that was moved once is not held up any more. -/
theorem blocked_until_moved (u : Upgrader) (faults : Faults) (w : Scene)
    (keys : w.store.DistinctInstances) :
    (∀ id row path, w.store.liveInstance? id = some row →
      u.path? row.serviceId row.planId = some path → ∀ now time conduct,
        (∀ op, Hindered id path op → ∃ reason,
          w.play time conduct (u.perform now op) = (.error (.legacyPlan reason), w)) ∧
        ∀ request asyncAllowed, request.planId? = some path.newPlanId →
          w.play time conduct (u.perform now (.update id request asyncAllowed)) =
            (.ok (.updated false), { w with store := w.store.rewriteInstance id fun r =>
              { r with planId := path.newPlanId, updatedAt := time } })) ∧
    (∀ id request asyncAllowed, u.Legacy request.serviceId request.planId →
      ∀ now time conduct, ∃ reason,
        w.play time conduct (u.perform now (.provision id request asyncAllowed)) =
          (.error (.legacyPlan reason), w)) ∧
    ∀ steps s', History faults w.store steps s' → (∀ x ∈ steps, x.1 = u) →
      (∀ x ∈ steps, ∀ id old new, x.2.before.row? id = some old → x.2.after.row? id = some new →
        new.serviceId = old.serviceId ∧ (new.planId = old.planId ∨ u.Moves x.2.op old new)) ∧
      (u.Final → ∀ earlier p later, steps = earlier ++ (u, p) :: later →
        ∀ id request asyncAllowed response, p.op = .update id request asyncAllowed →
          p.result = .ok response → ∀ x ∈ later, x.2.op.instanceId = id →
            x.2.op.kind ≠ .provision → ∀ reason, x.2.result ≠ .error (.legacyPlan reason)) := by
  refine ⟨?_, ?_, fun steps s' run same => ⟨?_, ?_⟩⟩
  · intro id row path live legacy now time conduct
    exact ⟨fun op hindered => play_hindered live legacy hindered,
      fun request asyncAllowed target => play_move keys live legacy target asyncAllowed⟩
  · intro id request asyncAllowed legacy now time conduct
    exact play_provision_of_legacy legacy id asyncAllowed
  · intro x hx id old new held left
    obtain ⟨service, plan⟩ := run.plan_of_kept keys x hx id old new held left
    exact ⟨service, same x hx ▸ plan⟩
  · rintro final earlier p later rfl id request asyncAllowed response update worked x hx named used
    obtain ⟨t, first, last⟩ := run.of_append
    have keys := first.distinctInstances keys
    cases last with
    | perform performed rest =>
      have acted : Acts faults (u.perform p.now (.update id request asyncAllowed)) p.before p.asked
          (.ok response) p.after := update ▸ worked ▸ performed
      have current := (Course.of_acts acted).current_of_updated final keys
      have others := fun x hx => same x (List.mem_append_right _ (List.mem_cons_of_mem _ hx))
      intro reason blocked
      cases rest.plain_of_current (performed.distinctInstances keys) others current x hx named used
        _ blocked

end Upgrader

namespace Sample

/-- An instance on a plan that has been replaced. -/
def legacyRow : InstanceRow := { madeRow with planId := "old" }

def legacyMade : Store := { made with instances := [legacyRow] }

/-- The same instance once it was moved. -/
def movedRow : InstanceRow := { legacyRow with planId := "small", updatedAt := 30 }

def moved : Store := { made with instances := [movedRow] }

/-- The instance is moved. -/
def moving : Performance :=
  ⟨30, .update "i" { planId? := some "small" } false, legacyMade, [], .ok (.updated false), moved⟩

/-- Credentials that it does not have are withdrawn. -/
def withdrawing : Performance :=
  ⟨40, .unbind "i" "j" {}, moved, [], .error (.bindingDoesNotExist "i" "j"), moved⟩

theorem moving_performed : upgrader.Performs .none moving := by
  refine ⟨[⟨legacyMade, .store (.getInstance "i"), .ok legacyRow⟩,
    ⟨legacyMade, .store (.saveInstance { legacyRow with planId := "small" }), .ok ()⟩], ?_, rfl⟩
  refine .ask (World.store 30 rfl) ?_
  refine .ask (World.store 30 rfl) ?_
  exact .done

theorem withdrawing_performed : upgrader.Performs .none withdrawing := by
  refine ⟨[⟨moved, .store (.getInstance "i"), .ok movedRow⟩,
    ⟨moved, .store (.getInstance "i"), .ok movedRow⟩,
    ⟨moved, .store (.getBinding "i" "j"), .error (.notFound "binding" "i/j")⟩], ?_, rfl⟩
  refine .ask (World.store 40 rfl) ?_
  refine .ask (World.store 40 rfl) ?_
  refine .ask (World.store 40 rfl) ?_
  exact .done

end Sample

/-- An instance to which nothing can be bound is moved, and then answers for itself. -/
theorem Upgrader.blocked_until_moved_once :
    let u := Sample.upgrader
    let w : Scene := ⟨Sample.legacyMade, []⟩
    let path : UpgradePath := ⟨"bucket", "old", "standard", "small", "small"⟩
    let conduct : Conduct := fun _ _ _ => .error (.unavailable "busy")
    w.store.DistinctInstances ∧ w.store.liveInstance? "i" = some Sample.legacyRow ∧
      u.path? Sample.legacyRow.serviceId Sample.legacyRow.planId = some path ∧
      (∃ reason, w.play 30 conduct (u.perform 30 (.bind "i" "j" {})) =
        (.error (.legacyPlan reason), w)) ∧
      Upgrader.History .none w.store [(u, Sample.moving), (u, Sample.withdrawing)] Sample.moved ∧
      u.Final ∧ u.Moves Sample.moving.op Sample.legacyRow Sample.movedRow ∧
      ∀ reason, Sample.withdrawing.result ≠ .error (.legacyPlan reason) := by
  intro u w path conduct
  have keys : w.store.DistinctInstances := by decide
  have run : Upgrader.History .none w.store [(u, Sample.moving), (u, Sample.withdrawing)]
      Sample.moved :=
    .perform Sample.moving_performed (.perform Sample.withdrawing_performed .start)
  have same : ∀ x ∈ [(u, Sample.moving), (u, Sample.withdrawing)], x.1 = u := by
    simp
  have final : u.Final := by
    simp [Upgrader.Final, Upgrader.Legacy, u, Sample.upgrader]
  obtain ⟨standing, -, running⟩ := Upgrader.blocked_until_moved u .none w keys
  obtain ⟨hindered, -⟩ := standing "i" Sample.legacyRow path rfl rfl 30 30 conduct
  obtain ⟨plans, unblocked⟩ := running _ _ run same
  obtain ⟨-, kept | moves⟩ :=
    plans _ List.mem_cons_self "i" Sample.legacyRow Sample.movedRow rfl rfl
  · exact absurd kept (by decide)
  · exact ⟨keys, rfl, rfl, hindered _ .bind, run, final, moves,
      unblocked final [] _ _ rfl "i" _ _ _ rfl rfl _ (List.mem_singleton_self _) rfl (by decide)⟩

end Brokerage
