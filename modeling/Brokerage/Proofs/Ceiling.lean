import Brokerage.Proofs.Broker.Performance

/-! The limit on instances. An operation adds a live row only where there is room for it, so that no
history goes beyond the limit or, where more instances than that were live at first, beyond their
number; and where there is no room a provision counts the instances and does nothing else. -/

namespace Brokerage

namespace Store

variable {s : Store} {row : InstanceRow} {f : InstanceRow → InstanceRow}

/-- A rewriting that revives nothing adds no live instance. -/
theorem countAllInstances_rewriteInstance_le (lives : ∀ r, (f r).live = true → r.live = true)
    (id : String) : (s.rewriteInstance id f).countAllInstances ≤ s.countAllInstances := by
  simp only [countAllInstances, rewriteInstance, List.countP_map]
  refine List.countP_mono_left fun r _ live => ?_
  simp only [Function.comp] at live
  split at live
  · exact lives r live
  · exact live

theorem countAllInstances_releaseInstanceClaim_le (id : String) :
    (s.releaseInstanceClaim id).2.countAllInstances ≤ s.countAllInstances :=
  List.filter_sublist.countP_le

theorem countAllInstances_withInstance (live : row.live = true) :
    (s.withInstance row).countAllInstances = s.countAllInstances + 1 := by
  simp [countAllInstances, withInstance, live]

end Store

namespace Broker

variable {b : Broker} {faults : Faults} {now : Instant} {s s' : Store} {asked : List Consultation}
  {id : String}

/-! ### One operation -/

/-- A provision adds one live instance, and only where there is room for it. -/
theorem Provisioning.countAllInstances {request : ProvisionRequest} {asyncAllowed : Bool}
    {r : Except BrokerError Bool}
    (h : Provisioning b faults now id request asyncAllowed s asked r s') :
    s'.countAllInstances ≤ s.countAllInstances ∨
      b.HasRoom s ∧ s'.countAllInstances = s.countAllInstances + 1 := by
  have added : ∀ row : InstanceRow, row.live = true →
      ((requested now id request s).withInstance row).countAllInstances =
        s.countAllInstances + 1 := by
    intro row live
    rw [Store.countAllInstances_withInstance live]
    rfl
  cases h with
  | refused => exact .inl (Nat.le_refl _)
  | failed may released =>
    rcases released with rfl | ⟨-, rfl⟩
    · exact .inl (Nat.le_refl _)
    · exact .inr ⟨may.room, added _ rfl⟩
  | orphaned may => exact .inr ⟨may.room, added _ rfl⟩
  | created saved may => exact .inr ⟨may.room, added _ rfl⟩

theorem Deprovisioning.countAllInstances_le {request : DeprovisionRequest} {asyncAllowed : Bool}
    {r : Except BrokerError Bool}
    (h : Deprovisioning b faults now id request asyncAllowed s asked r s') :
    s'.countAllInstances ≤ s.countAllInstances := by
  cases h with
  | refused | failed | orphaned => exact Nat.le_refl _
  | @accepted row provider saved may =>
    refine Store.countAllInstances_rewriteInstance_le (fun r live => ?_) id
    cases way : provider.deprovisionsAsync with
    | true =>
      rw [way, deprovisionedRow, if_pos rfl, Store.live_overwriteInstance] at live
      exact live
    | false =>
      rw [way, deprovisionedRow, if_neg (by simp), Store.live_deleted] at live
      cases live

theorem Polling.countAllInstances_le {r : Except BrokerError LastOperation}
    (h : Polling b faults now id s asked r s') : s'.countAllInstances ≤ s.countAllInstances := by
  cases h with
  | refused | young | undetermined => exact Nat.le_refl _
  | @settled row _ _ _ _ _ may heard settled =>
    cases settled with
    | idle | unwritten => exact Nat.le_refl _
    | @written action time =>
      cases action with
      | softDelete =>
        refine Store.countAllInstances_rewriteInstance_le (fun r live => ?_) row.id
        rw [Store.live_deleted] at live
        cases live
      | markActive | markProvisioning =>
        refine Store.countAllInstances_rewriteInstance_le (fun r live => ?_) row.id
        rw [Store.live_overwriteInstance] at live
        exact live
      | releaseClaim => exact Store.countAllInstances_releaseInstanceClaim_le row.id

/-- An operation adds one live instance at most, and only where there is room for it. -/
theorem Course.countAllInstances {op : Operation} {r : Except BrokerError Response}
    (h : b.Course faults now s op asked r s') :
    s'.countAllInstances ≤ s.countAllInstances ∨
      b.HasRoom s ∧ s'.countAllInstances = s.countAllInstances + 1 := by
  have same : s'.instances = s.instances → s'.countAllInstances ≤ s.countAllInstances := by
    intro rows
    rw [Store.countAllInstances, rows]
    exact Nat.le_refl _
  cases h with
  | provision h => exact h.countAllInstances
  | deprovision h => exact .inl h.countAllInstances_le
  | bind h => exact .inl (same h.instances_eq)
  | unbind h => exact .inl (same h.instances_eq)
  | update => exact .inl (Nat.le_refl _)
  | lastOperation h => exact .inl h.countAllInstances_le

/-- What the limit does not exceed, and the instances at first do not, they never do. -/
theorem History.countAllInstances_le {h : List Performance} {limit bound : Nat}
    (run : b.History faults s h s') (limited : b.instanceLimit = some limit)
    (within : limit ≤ bound) (start : s.countAllInstances ≤ bound) :
    ∀ p ∈ h, p.after.countAllInstances ≤ bound := by
  induction run with
  | start => exact List.forall_mem_nil _
  | @perform p rest t performed _ ih =>
    have here : p.after.countAllInstances ≤ bound := by
      rcases (Course.of_acts performed).countAllInstances with fewer | ⟨room, more⟩
      · omega
      · have below := room limit limited
        omega
    exact List.forall_mem_cons.mpr ⟨here, ih here⟩

/-! ### No room -/

/-- All that is done where there is no room: the instances are counted. -/
inductive TurnedAway (faults : Faults) (limit : Nat) (s : Store) {α : Type} :
    List (Exchange brokerInterface Store) → Except BrokerError α → Store → Prop
  | full : TurnedAway faults limit s
      [⟨s, .store .countAllInstances, .ok s.countAllInstances⟩]
      (.error (.instanceLimitExceeded limit)) s
  | uncounted {e : StoreError} (fault : faults .countAllInstances e) :
      TurnedAway faults limit s [⟨s, .store .countAllInstances, .error e⟩] (.error (.store e)) s

section Full

variable {limit : Nat} {trace : List (Exchange brokerInterface Store)}
  (limited : b.instanceLimit = some limit) (full : limit ≤ s.countAllInstances)
include limited full

theorem checkInstanceLimit_runs_iff {r : Except BrokerError Unit} :
    Fallible.Runs (World faults) b.checkInstanceLimit s trace r s' ↔
      TurnedAway faults limit s trace r s' := by
  have turned : (Fallible.require (decide (s.countAllInstances < limit))
      (.instanceLimitExceeded limit) : Action Unit) = throw (.instanceLimitExceeded limit) := by
    rw [decide_eq_false (Nat.not_lt.mpr full)]
    rfl
  unfold checkInstanceLimit
  rw [limited]
  constructor
  · intro h
    cases h with
    | ask answered rest =>
      cases answered with
      | store time step =>
        cases step
        have counted : Fallible.Runs (World faults) (Fallible.require
            (decide (s.countAllInstances < limit)) (.instanceLimitExceeded limit) : Action Unit)
            s _ r s' := rest
        rw [turned] at counted
        obtain ⟨rfl, rfl, rfl⟩ := Fallible.runs_throw counted
        exact .full
      | fault allowed =>
        cases rest
        exact .uncounted allowed
  · intro h
    cases h with
    | full =>
      have counted : Fallible.Runs (World faults) (Fallible.require
          (decide (s.countAllInstances < limit)) (.instanceLimitExceeded limit) : Action Unit)
          s [] (.error (.instanceLimitExceeded limit)) s := by
        rw [turned]
        exact .done
      exact .ask (World.store 0 rfl) counted
    | uncounted fault => exact .ask (World.fault fault) .done

end Full

/-- What follows on what was turned away is not done either. -/
theorem bind_turnedAway_iff {limit : Nat} {α β : Type} {p : Action α} {f : α → Action β}
    (only : ∀ trace r s', Fallible.Runs (World faults) p s trace r s' ↔
      TurnedAway faults limit s trace r s')
    (trace : List (Exchange brokerInterface Store)) (r : Except BrokerError β) (s' : Store) :
    Fallible.Runs (World faults) (p >>= f) s trace r s' ↔ TurnedAway faults limit s trace r s' := by
  constructor
  · intro h
    rcases Fallible.runs_bind h with ⟨e, rfl, failed⟩ | ⟨_, _, _, _, _, passed, _⟩
    · cases (only _ _ _).mp failed with
      | full => exact .full
      | uncounted fault => exact .uncounted fault
    · cases (only _ _ _).mp passed
  · intro h
    cases h with
    | full => exact Fallible.runs_bind_of_error ((only _ _ _).mpr .full)
    | uncounted fault => exact Fallible.runs_bind_of_error ((only _ _ _).mpr (.uncounted fault))

/-- No history has more live instances than the limit or, where more were live at first, than those.
Where there is no room a provision counts the instances and calls nobody else, whatever it asks for:
it leaves the store as it is, and says that the limit has been reached unless the counting fails. -/
theorem instances_within_limit {limit : Nat} {h : List Performance}
    (limited : b.instanceLimit = some limit) (run : b.History faults s h s') :
    (∀ p ∈ h, p.after.countAllInstances ≤ max limit s.countAllInstances) ∧
    ∀ (t : Store) (now : Instant) (id : String) (request : ProvisionRequest) (asyncAllowed : Bool),
      limit ≤ t.countAllInstances → ∀ trace r t',
        Fallible.Runs (World faults) (b.perform now (.provision id request asyncAllowed))
          t trace r t' ↔ TurnedAway faults limit t trace r t' := by
  constructor
  · exact run.countAllInstances_le limited (Nat.le_max_left _ _) (Nat.le_max_right _ _)
  · intro t now id request asyncAllowed full
    -- The limit is checked first, and the response is made of what follows the check.
    refine bind_turnedAway_iff (bind_turnedAway_iff fun trace r t' => ?_)
    exact checkInstanceLimit_runs_iff limited full

/-- Where one instance may be live, another is refused, whatever its service. -/
theorem instances_within_limit_one :
    let b : Broker := { Sample.promptBroker with instanceLimit := some 1 }
    let request : ProvisionRequest := { serviceId := "queue", planId := "large" }
    let second : Performance := ⟨20, .provision "k" request true, Sample.made, [],
      .error (.instanceLimitExceeded 1), Sample.made⟩
    b.History .none .empty [Sample.making, second] Sample.made ∧
      Sample.made.countAllInstances ≤ max 1 Store.empty.countAllInstances ∧
      TurnedAway (α := Response) .none 1 Sample.made
        [⟨Sample.made, .store .countAllInstances, .ok 1⟩] (.error (.instanceLimitExceeded 1))
        Sample.made := by
  intro b request second
  have made : b.Performs .none Sample.making := by
    refine ⟨[⟨.empty, .store .countAllInstances, .ok 0⟩,
      ⟨.empty, .store (.countInstances "i"), .ok 0⟩,
      ⟨.empty, .store (.claimInstance (claim 0 "i" Sample.request Sample.plan)
        (.of 0 "i" Sample.request.toJson)), .ok 1⟩,
      ⟨claimed 0 "i" Sample.request Sample.plan .empty, .provider Sample.promptProvider
        (.provision "i" Sample.request Sample.plan), .ok {}⟩,
      ⟨claimed 0 "i" Sample.request Sample.plan .empty, .store (.saveInstance
        (provisionedRow (claim 0 "i" Sample.request Sample.plan) {} false)), .ok ()⟩], ?_, rfl⟩
    refine .ask (World.store 0 rfl) ?_
    refine .ask (World.store 0 rfl) ?_
    refine .ask (World.store 0 rfl) ?_
    refine .ask (World.provider _) ?_
    refine .ask (World.store 0 rfl) ?_
    exact .done
  have counted : Fallible.Runs (World .none) (b.perform 20 (.provision "k" request true))
      Sample.made [⟨Sample.made, .store .countAllInstances, .ok 1⟩]
      (.error (.instanceLimitExceeded 1)) Sample.made :=
    .ask (World.store 20 rfl) .done
  have run : b.History .none .empty [Sample.making, second] Sample.made :=
    .perform (p := Sample.making) made (.perform (p := second) ⟨_, counted, rfl⟩ .start)
  have limited : b.instanceLimit = some 1 := rfl
  obtain ⟨within, turnedAway⟩ := instances_within_limit limited run
  exact ⟨run, within Sample.making List.mem_cons_self,
    (turnedAway Sample.made 20 "k" request true (by decide) _ _ _).mp counted⟩

end Broker

end Brokerage
