import Brokerage.Proofs.Broker.Performance

/-! Operations of an upgrader. Each is declined, or it is served by the broker behind the upgrader, or
it moves an instance off a legacy plan. The legacy plans are read from the store when a broker is put
together, so that in a history each operation has an upgrader of its own. -/

namespace Brokerage.Upgrader

/-- The courses of operations of an upgrader. -/
inductive Course (u : Upgrader) (faults : Faults) (now : Instant) (s : Store) :
    Operation → List Consultation → Except BrokerError Response → Store → Prop
  | declined {op : Operation} {e : BrokerError} (orphans : e.isOrphaning = false) :
      Course u faults now s op [] (.error e) s
  | served {op : Operation} {asked : List Consultation} {r : Except BrokerError Response}
      {s' : Store} :
      u.broker.Course faults now s op asked r s' → Course u faults now s op asked r s'
  | moved {id : String} {request : UpdateRequest} {asyncAllowed : Bool} {row : InstanceRow}
      {path : UpgradePath} (saved : Instant) (live : s.liveInstance? id = some row)
      (legacy : u.path? row.serviceId row.planId = some path)
      (target : request.planId? = some path.newPlanId) :
      Course u faults now s (.update id request asyncAllowed) [] (.ok (.updated false))
        (s.rewriteInstance id (Store.overwriteInstance saved { row with planId := path.newPlanId }))

section Course

variable {u : Upgrader} {faults : Faults} {now : Instant} {s s' : Store}
  {asked : List Consultation} {id : String}

theorem checkUpgraded_acts {verb : String} {r : Except BrokerError Unit}
    (h : Acts faults (u.checkUpgraded verb id) s asked r s') :
    r = .ok () ∧ asked = [] ∧ s' = s ∨ Acts.Refused s asked r s' := by
  rcases Acts.of_liveInstance h with ⟨row, -, looking⟩ | ⟨refused, -⟩
  case inr => exact .inr refused
  cases legacy : u.path? row.serviceId row.planId with
  | none =>
    rw [legacy] at looking
    obtain ⟨rfl, rfl, rfl⟩ := Acts.of_pure looking
    exact .inl ⟨rfl, rfl, rfl⟩
  | some path =>
    rw [legacy] at looking
    obtain ⟨rfl, rfl, rfl⟩ := Acts.of_throw looking
    exact .inr ⟨_, rfl, rfl, rfl, rfl⟩

/-- What follows the look for a legacy plan finds none; else there is one, or the look fails. -/
theorem of_checkUpgraded {α : Type} {verb : String} {f : Unit → Action α}
    {r : Except BrokerError α} (h : Acts faults (u.checkUpgraded verb id >>= f) s asked r s') :
    Acts faults (f ()) s asked r s' ∨ Acts.Refused s asked r s' := by
  rcases Acts.of_bind h with ⟨e, rfl, checked⟩ | ⟨first, last, _, t, rfl, checked, rest⟩
  · obtain ⟨⟨⟩, -⟩ | ⟨_, orphans, rfl, ⟨⟩, rfl⟩ := checkUpgraded_acts checked
    exact .inr ⟨e, orphans, rfl, rfl, rfl⟩
  · obtain ⟨-, rfl, rfl⟩ | ⟨_, -, -, ⟨⟩, -⟩ := checkUpgraded_acts checked
    exact .inl rest

theorem Course.of_update {request : UpdateRequest} {asyncAllowed : Bool}
    {r : Except BrokerError Bool} (h : Acts faults (u.update id request) s asked r s') :
    u.Course faults now s (.update id request asyncAllowed) asked (r.map .updated) s' := by
  unfold update at h
  rcases Acts.of_liveInstance h with ⟨row, live, looking⟩ | ⟨⟨e, orphans, rfl, rfl, rfl⟩, -⟩
  case inr => exact .declined orphans
  cases legacy : u.path? row.serviceId row.planId with
  | none =>
    rw [legacy] at looking
    obtain ⟨rfl, rfl, rfl⟩ := Acts.of_throw looking
    exact .served .update
  | some path =>
    rw [legacy] at looking
    rcases Acts.of_require looking with ⟨target, saving⟩ | ⟨-, rfl, rfl, rfl⟩
    case inr => exact .declined rfl
    obtain rfl := Store.liveInstance?_id live
    have step : ∀ time, s.step time (.saveInstance { row with planId := path.newPlanId }) =
        (.ok (), s.rewriteInstance row.id
          (Store.overwriteInstance time { row with planId := path.newPlanId })) :=
      fun time => Store.step_saveInstance_of_live time live
    rcases Acts.of_storeValue saving with ⟨time, _, _, ending⟩ | ⟨e, rfl, rfl, cause⟩
    · rw [step time] at ending
      obtain ⟨rfl, rfl, rfl⟩ := Acts.of_pure ending
      exact .moved time live legacy (of_decide_eq_true target)
    · rcases cause with ⟨-, rfl⟩ | ⟨time, failed⟩
      · exact .declined rfl
      · rw [step time] at failed
        cases failed

/-- An operation takes one of its courses. -/
theorem Course.of_acts {r : Except BrokerError Response} :
    {op : Operation} → Acts faults (u.perform now op) s asked r s' →
      u.Course faults now s op asked r s'
  | .provision id request asyncAllowed, h => by
    obtain ⟨r, rfl, acted⟩ := Acts.of_map h
    unfold provision at acted
    split at acted
    · obtain ⟨rfl, rfl, rfl⟩ := Acts.of_throw acted
      exact .declined rfl
    · exact .served (.provision (.of_acts acted))
  | .deprovision .., h => by
    obtain ⟨r, rfl, acted⟩ := Acts.of_map h
    rcases of_checkUpgraded acted with acted | ⟨e, orphans, rfl, rfl, rfl⟩
    · exact .served (.deprovision (.of_acts acted))
    · exact .declined orphans
  | .bind .., h => by
    obtain ⟨r, rfl, acted⟩ := Acts.of_map h
    rcases of_checkUpgraded acted with acted | ⟨e, orphans, rfl, rfl, rfl⟩
    · exact .served (.bind (.of_acts acted))
    · exact .declined orphans
  | .unbind .., h => by
    obtain ⟨r, rfl, acted⟩ := Acts.of_map h
    rcases of_checkUpgraded acted with acted | ⟨e, orphans, rfl, rfl, rfl⟩
    · exact .served (.unbind (.of_acts acted))
    · exact .declined orphans
  | .update .., h => by
    obtain ⟨r, rfl, acted⟩ := Acts.of_map h
    exact .of_update acted
  | .lastOperation _, h => .served (.of_acts h)

end Course

/-- An upgrader performs an operation so, if the failures of its store are among `faults`. -/
def Performs (u : Upgrader) (faults : Faults) (p : Performance) : Prop :=
  Acts faults (u.perform p.now p.op) p.before p.asked p.result p.after

/-- Operations performed one after another, each by the upgrader of its time. -/
inductive History (faults : Faults) : Store → List (Upgrader × Performance) → Store → Prop
  | start {s : Store} : History faults s [] s
  | perform {u : Upgrader} {p : Performance} {rest : List (Upgrader × Performance)} {s : Store} :
      u.Performs faults p → History faults p.after rest s →
      History faults p.before ((u, p) :: rest) s

theorem Performs.distinctInstances {u : Upgrader} {faults : Faults} {p : Performance}
    (performed : u.Performs faults p) (keys : p.before.DistinctInstances) :
    p.after.DistinctInstances :=
  performed.keeps (fun _ now call keys => keys.step now call) keys

theorem History.distinctInstances {faults : Faults} {s s' : Store}
    {steps : List (Upgrader × Performance)} (run : History faults s steps s')
    (keys : s.DistinctInstances) : s'.DistinctInstances := by
  induction run with
  | start => exact keys
  | perform performed _ ih => exact ih (performed.distinctInstances keys)

end Brokerage.Upgrader
