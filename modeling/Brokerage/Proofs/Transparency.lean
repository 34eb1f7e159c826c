import Brokerage.Proofs.Broker.Play

/-! Where no legacy plan is involved an upgrader is transparent. It looks at the instance and then
leaves the operation to the broker behind it, so that callers, providers and the store cannot tell
the two apart. -/

namespace Brokerage

namespace Upgrader

/-- Some path starts at a plan. -/
def Legacy (u : Upgrader) (serviceId planId : String) : Prop :=
  ∃ path ∈ u.paths, path.serviceId = serviceId ∧ path.legacyPlanId = planId

variable {u : Upgrader} {w : Scene} {now time : Instant} {conduct : Conduct}
  {verb id serviceId planId : String} {row : InstanceRow} {path : UpgradePath}

/-! ### Legacy plans -/

theorem path?_eq_none_iff : u.path? serviceId planId = none ↔ ¬ u.Legacy serviceId planId := by
  simp [path?, Legacy, UpgradePath.startsAt]

theorem exists_path? (legacy : u.Legacy serviceId planId) :
    ∃ path, u.path? serviceId planId = some path :=
  Option.ne_none_iff_exists'.mp fun absent => path?_eq_none_iff.mp absent legacy

/-- A path that is found is one of the paths, and starts at the plan. -/
theorem of_path? (found : u.path? serviceId planId = some path) :
    path ∈ u.paths ∧ path.serviceId = serviceId ∧ path.legacyPlanId = planId := by
  refine ⟨List.mem_of_find?_eq_some found, ?_⟩
  simpa [UpgradePath.startsAt] using List.find?_some found

theorem legacy_of_path? (found : u.path? serviceId planId = some path) :
    u.Legacy serviceId planId :=
  ⟨path, of_path? found⟩

/-! ### The look for a legacy plan -/

theorem play_checked_of_current {α : Type} (live : w.store.liveInstance? id = some row)
    (current : ¬ u.Legacy row.serviceId row.planId) (p : Action α) :
    w.play time conduct (u.checkUpgraded verb id >>= fun _ => p) = w.play time conduct p := by
  have checked : w.play time conduct (u.checkUpgraded verb id) = (.ok (), w) := by
    rw [checkUpgraded, Scene.play_bind_of_ok _ (Scene.play_liveInstance_of_live live),
      path?_eq_none_iff.mpr current]
    exact Scene.play_of_done rfl w
  rw [Scene.play_bind_of_ok _ checked]

theorem play_checked_of_legacy {α : Type} (live : w.store.liveInstance? id = some row)
    (legacy : u.path? row.serviceId row.planId = some path) (p : Action α) :
    w.play time conduct (u.checkUpgraded verb id >>= fun _ => p) =
      (.error (useRefusal verb path), w) := by
  have checked : w.play time conduct (u.checkUpgraded verb id) =
      (.error (useRefusal verb path), w) := by
    rw [checkUpgraded, Scene.play_bind_of_ok _ (Scene.play_liveInstance_of_live live), legacy]
    exact Scene.play_of_done rfl w
  rw [Scene.play_bind_of_error _ checked]

theorem play_update_of_current (live : w.store.liveInstance? id = some row)
    (current : ¬ u.Legacy row.serviceId row.planId) (request : UpdateRequest) :
    w.play time conduct (u.update id request) = w.play time conduct Broker.update := by
  rw [update, Scene.play_bind_of_ok _ (Scene.play_liveInstance_of_live live),
    path?_eq_none_iff.mpr current]

/-! ### Operations that involve no legacy plan -/

/-- An operation involves no legacy plan: what it would create is on none, or the instance that it
names is live and on none. A poll never does. -/
def Spares (u : Upgrader) (s : Store) : Operation → Prop
  | .lastOperation _ => True
  | .provision _ request _ => ¬ u.Legacy request.serviceId request.planId
  | .deprovision id _ _ | .bind id _ _ | .unbind id _ _ | .update id _ _ =>
    ∃ row, s.liveInstance? id = some row ∧ ¬ u.Legacy row.serviceId row.planId

/-- An operation that involves no legacy plan has the same result with an upgrader as with the
broker behind it, providers are told the same, and the store is left the same. -/
theorem transparent {op : Operation} (spared : u.Spares w.store op) :
    w.play time conduct (u.perform now op) = w.play time conduct (u.broker.perform now op) := by
  cases op with
  | lastOperation id => rfl
  | provision id request asyncAllowed =>
    refine Scene.play_bind_congr _ ?_
    rw [provision, path?_eq_none_iff.mpr spared]
  | deprovision id request asyncAllowed =>
    obtain ⟨row, live, current⟩ := spared
    exact Scene.play_bind_congr _ (play_checked_of_current live current _)
  | bind id bindingId request =>
    obtain ⟨row, live, current⟩ := spared
    exact Scene.play_bind_congr _ (play_checked_of_current live current _)
  | unbind id bindingId request =>
    obtain ⟨row, live, current⟩ := spared
    exact Scene.play_bind_congr _ (play_checked_of_current live current _)
  | update id request asyncAllowed =>
    obtain ⟨row, live, current⟩ := spared
    exact Scene.play_bind_congr _ (play_update_of_current live current request)

end Upgrader

namespace Sample

/-- A broker of one plan, which has replaced another. -/
def upgrader : Upgrader := ⟨promptBroker, [⟨"bucket", "old", "standard", "small", "small"⟩]⟩

end Sample

/-- An instance that is on the plan of today is deleted as it would be without an upgrader. -/
theorem Upgrader.transparent_deletion :
    let conduct : Conduct := fun _ _ _ => .error (.unavailable "busy")
    let op : Operation := .deprovision "i" {} false
    Sample.upgrader.Spares Sample.made op ∧
      Scene.play ⟨Sample.made, []⟩ 20 conduct (Sample.upgrader.perform 20 op) =
        Scene.play ⟨Sample.made, []⟩ 20 conduct (Sample.promptBroker.perform 20 op) := by
  intro conduct op
  have current : ¬ Sample.upgrader.Legacy "bucket" "small" := by
    simp [Upgrader.Legacy, Sample.upgrader]
  have spared : Sample.upgrader.Spares Sample.made op := ⟨Sample.madeRow, rfl, current⟩
  exact ⟨spared, Upgrader.transparent (w := ⟨Sample.made, []⟩) spared⟩

end Brokerage
