import Brokerage.Proofs.Subject
import Brokerage.Proofs.Lifecycle

/-! Claims while they are young. A call that claimed an instance or a binding and is slow to come
back finds its row as it left it: until the claim timeout has passed, other operations on the same
subject come to nothing, and operations on another subject do not touch it. -/

namespace Brokerage

theorem Operation.instanceId_of_pair? {op : Operation} {i j : String}
    (h : op.pair? = some (i, j)) : op.instanceId = i := by
  cases op with
  | bind | unbind =>
    cases h
    rfl
  | provision | deprovision | update | lastOperation => cases h

namespace Broker

variable {b : Broker} {faults : Faults} {now : Instant} {s s' : Store} {op : Operation}
  {asked : List Consultation} {i j : String}

/-! ### One operation -/

/-- An instance is claimed by a call that may still be at it. -/
structure Creating (b : Broker) (now : Instant) (id : String) (s : Store) (row : InstanceRow) :
    Prop where
  live : s.liveInstance? id = some row
  pending : row.status = .pending
  young : b.isStale now row.createdAt = false

/-- A binding is claimed by a call that may still be at it. -/
structure Issuing (b : Broker) (now : Instant) (instanceId bindingId : String) (s : Store)
    (row : BindingRow) : Prop where
  held : s.liveBinding? instanceId bindingId = some row
  pending : row.status = .pending
  young : b.isStale now row.createdAt = false

section Creating

variable {row found : InstanceRow} {provider : Provider}

theorem MayProvision.not_creating {request : ProvisionRequest} {asyncAllowed : Bool} {plan : Plan}
    (may : b.MayProvision i request asyncAllowed s plan provider) : ¬ b.Creating now i s row := by
  intro creating
  have absent := Store.liveInstance?_eq_none_of_row? may.fresh
  cases absent.symm.trans creating.live

theorem MayDeprovision.not_creating {asyncAllowed : Bool}
    (may : b.MayDeprovision now i asyncAllowed s found provider) : ¬ b.Creating now i s row := by
  intro creating
  obtain rfl : found = row := Option.some.inj (may.live.symm.trans creating.live)
  cases (may.abandoned creating.pending).symm.trans creating.young

theorem MayPoll.not_creating (may : b.MayPoll now i s found provider) :
    ¬ b.Creating now i s row := by
  intro creating
  obtain rfl : found = row := Option.some.inj (may.live.symm.trans creating.live)
  cases (may.abandoned creating.pending).symm.trans creating.young

theorem MayBind.not_creating {request : BindRequest}
    (may : b.MayBind i j request s found provider) : ¬ b.Creating now i s row := by
  intro creating
  obtain rfl : found = row := Option.some.inj (may.live.symm.trans creating.live)
  cases may.active.symm.trans creating.pending

/-- An operation on an instance that is being created, and has no bindings, comes to nothing. -/
theorem Course.of_creating {r : Except BrokerError Response}
    (h : b.Course faults now s op asked r s') (creating : b.Creating now op.instanceId s row)
    (unbound : ∀ j, s.liveBinding? op.instanceId j = none) : asked = [] ∧ s' = s := by
  cases h with
  | provision h =>
    cases h with
    | refused => exact ⟨rfl, rfl⟩
    | failed may | orphaned may | created _ may => exact absurd creating may.not_creating
  | deprovision h =>
    cases h with
    | refused => exact ⟨rfl, rfl⟩
    | failed may | orphaned may | accepted _ may => exact absurd creating may.not_creating
  | bind h =>
    cases h with
    | refused => exact ⟨rfl, rfl⟩
    | failed may | orphaned may | bound _ may => exact absurd creating may.not_creating
  | unbind h =>
    cases h with
    | refused => exact ⟨rfl, rfl⟩
    | withdrawn _ may => cases (unbound _).symm.trans may.held
    | failed may | orphaned may | done _ may => cases (unbound _).symm.trans may.held
  | update => exact ⟨rfl, rfl⟩
  | lastOperation h =>
    cases h with
    | refused | young => exact ⟨rfl, rfl⟩
    | undetermined may | settled may => exact absurd creating may.not_creating

/-- An operation leaves an instance that is being created, and has no bindings, as it is, and calls
no provider about it. -/
theorem Performs.creating {p : Performance} (performed : b.Performs faults p)
    (keys : p.before.DistinctInstances) (numbers : p.before.NumberedBindings)
    (creating : b.Creating p.now i p.before row)
    (unbound : ∀ j, p.before.liveBinding? i j = none) :
    (p.after.liveInstance? i = some row ∧ ∀ j, p.after.liveBinding? i j = none) ∧
      ∀ c ∈ p.asked, c.call.instanceId ≠ i := by
  have course := Course.of_acts performed
  -- An operation on the instance itself is refused; any other does not reach its row.
  by_cases same : p.op.instanceId = i
  · subst same
    obtain ⟨none, unchanged⟩ := course.of_creating creating unbound
    rw [none, unchanged]
    exact ⟨⟨creating.live, unbound⟩, List.forall_mem_nil _⟩
  · refine ⟨⟨?_, fun j => ?_⟩, fun c hc about => ?_⟩
    · have kept := (course.row? keys i).resolve_right fun change => same change.1.symm
      refine Store.liveInstance?_of_row? ?_ (Store.liveInstance?_live creating.live)
      rw [kept, Store.row?_of_liveInstance? keys creating.live]
    · have kept := course.liveBindings_ne numbers fun pair : p.op.pair? = some (i, j) =>
        same (Operation.instanceId_of_pair? pair)
      rw [Store.liveBinding?_eq_head?, kept, ← Store.liveBinding?_eq_head?]
      exact unbound j
    · exact same ((course.about hc).1.symm.trans about)

end Creating

section Issuing

variable {row found : BindingRow} {provider : Provider}

theorem MayBind.not_issuing {request : BindRequest} {owner : InstanceRow}
    (may : b.MayBind i j request s owner provider) : ¬ b.Issuing now i j s row := by
  intro issuing
  cases may.vacant.symm.trans issuing.held

theorem MayWithdraw.not_issuing {owner : InstanceRow}
    (may : b.MayWithdraw now i j s owner found) : ¬ b.Issuing now i j s row := by
  intro issuing
  obtain rfl : found = row := Option.some.inj (may.held.symm.trans issuing.held)
  cases may.abandoned.symm.trans issuing.young

theorem MayUnbind.not_issuing {owner : InstanceRow}
    (may : b.MayUnbind i j s owner found provider) : ¬ b.Issuing now i j s row := by
  intro issuing
  obtain rfl : found = row := Option.some.inj (may.held.symm.trans issuing.held)
  cases may.active.symm.trans issuing.pending

/-- An operation on a binding that is being issued comes to nothing. -/
theorem Course.of_issuing {r : Except BrokerError Response}
    (h : b.Course faults now s op asked r s') (pair : op.pair? = some (i, j))
    (issuing : b.Issuing now i j s row) : asked = [] ∧ s' = s := by
  cases h with
  | provision | deprovision | update | lastOperation => cases pair
  | bind h =>
    cases pair
    cases h with
    | refused => exact ⟨rfl, rfl⟩
    | failed may | orphaned may | bound _ may => exact absurd issuing may.not_issuing
  | unbind h =>
    cases pair
    cases h with
    | refused => exact ⟨rfl, rfl⟩
    | withdrawn _ may => exact absurd issuing may.not_issuing
    | failed may | orphaned may | done _ may => exact absurd issuing may.not_issuing

/-- An operation leaves a binding that is being issued as it is, and has no provider issue or
withdraw credentials for it. -/
theorem Performs.issuing {p : Performance} (performed : b.Performs faults p)
    (numbers : p.before.NumberedBindings) (issuing : b.Issuing p.now i j p.before row) :
    p.after.liveBinding? i j = some row ∧ ∀ c ∈ p.asked, c.call.pair? ≠ some (i, j) := by
  have course := Course.of_acts performed
  by_cases same : p.op.pair? = some (i, j)
  · obtain ⟨none, unchanged⟩ := course.of_issuing same issuing
    rw [none, unchanged]
    exact ⟨issuing.held, List.forall_mem_nil _⟩
  · refine ⟨?_, fun c hc about => ?_⟩
    · rw [Store.liveBinding?_eq_head?, course.liveBindings_ne numbers same,
        ← Store.liveBinding?_eq_head?]
      exact issuing.held
    · rcases (course.about hc).2 with none | own
      · cases none.symm.trans about
      · exact same (own.symm.trans about)

end Issuing

/-! ### Histories -/

section Histories

variable {h : List Performance}

theorem isStale_before {now createdAt : Instant} (early : now < createdAt + b.claimTimeout) :
    b.isStale now createdAt = false :=
  isStale_of_young (Int.sub_left_lt_of_lt_add early)

/-- What each operation of a history keeps, and shows of the calls that it makes, the history keeps
and shows. -/
theorem History.along {P : Store → Prop} {Q : Consultation → Prop} (run : b.History faults s h s')
    (start : P s) (step : ∀ p ∈ h, b.Performs faults p → P p.before →
      P p.after ∧ ∀ c ∈ p.asked, Q c) :
    P s' ∧ ∀ p ∈ h, ∀ c ∈ p.asked, Q c := by
  induction run with
  | start => exact ⟨start, List.forall_mem_nil _⟩
  | perform performed _ ih =>
    obtain ⟨kept, shown⟩ := step _ List.mem_cons_self performed start
    obtain ⟨last, later⟩ := ih kept fun q hq => step q (List.mem_cons_of_mem _ hq)
    exact ⟨last, List.forall_mem_cons.mpr ⟨shown, later⟩⟩

/-- An instance that is being created still is after any history that ends in time. -/
theorem History.creating {row : InstanceRow} (run : b.History faults s h s')
    (keys : s.DistinctInstances) (numbers : s.NumberedBindings)
    (live : s.liveInstance? i = some row) (pending : row.status = .pending)
    (unbound : ∀ j, s.liveBinding? i j = none)
    (early : ∀ p ∈ h, p.now < row.createdAt + b.claimTimeout) :
    s'.liveInstance? i = some row ∧ ∀ p ∈ h, ∀ c ∈ p.asked, c.call.instanceId ≠ i := by
  have kept := run.along (P := fun s => (s.DistinctInstances ∧ s.NumberedBindings) ∧
      s.liveInstance? i = some row ∧ ∀ j, s.liveBinding? i j = none)
    (Q := fun c => c.call.instanceId ≠ i) ⟨⟨keys, numbers⟩, live, unbound⟩ ?_
  · exact ⟨kept.1.2.1, kept.2⟩
  · rintro p hp performed ⟨⟨keys, numbers⟩, live, unbound⟩
    have young := isStale_before (early p hp)
    obtain ⟨claimed, uncalled⟩ :=
      Performs.creating performed keys numbers ⟨live, pending, young⟩ unbound
    have keys := Performs.distinctInstances performed keys
    have numbers := Performs.numberedBindings performed numbers
    exact ⟨⟨⟨keys, numbers⟩, claimed⟩, uncalled⟩

/-- A binding that is being issued still is after any history that ends in time. -/
theorem History.issuing {row : BindingRow} (run : b.History faults s h s')
    (numbers : s.NumberedBindings) (held : s.liveBinding? i j = some row)
    (pending : row.status = .pending) (early : ∀ p ∈ h, p.now < row.createdAt + b.claimTimeout) :
    s'.liveBinding? i j = some row ∧ ∀ p ∈ h, ∀ c ∈ p.asked, c.call.pair? ≠ some (i, j) := by
  have kept := run.along (P := fun s => s.NumberedBindings ∧ s.liveBinding? i j = some row)
    (Q := fun c => c.call.pair? ≠ some (i, j)) ⟨numbers, held⟩ ?_
  · exact ⟨kept.1.2, kept.2⟩
  · rintro p hp performed ⟨numbers, held⟩
    have young := isStale_before (early p hp)
    obtain ⟨claimed, unissued⟩ := Performs.issuing performed numbers ⟨held, pending, young⟩
    exact ⟨⟨Performs.numberedBindings performed numbers, claimed⟩, unissued⟩

/-- The call that claimed an instance still finds its row to save. -/
theorem saves_instance {row new : InstanceRow} (keys : s.DistinctInstances)
    (live : s.liveInstance? i = some row) (named : new.id = i) (time : Instant) :
    ∃ t, s.step time (.saveInstance new) = (.ok (), t) ∧
      t.row? i = some (Store.overwriteInstance time new row) := by
  subst named
  exact ⟨_, Store.step_saveInstance_of_live time live,
    Store.row?_rewriteInstance_self keys (Store.overwriteInstance_id time new) live⟩

/-- The call that claimed a binding still finds its row to save. -/
theorem saves_binding {row new : BindingRow} (held : s.liveBinding? i j = some row)
    (numbered : new.id = row.id) (time : Instant) :
    ∃ t, s.step time (.saveBinding new) = (.ok (), t) ∧
      t.liveBinding? i j = some (Store.overwriteBinding time new row) := by
  obtain ⟨hrow, -, live⟩ := Store.liveBinding?_mem held
  refine ⟨_, Store.step_saveBinding_of_live time hrow numbered.symm live, ?_⟩
  rw [Store.liveBinding?_eq_head?] at held ⊢
  rw [Store.liveBindings_rewriteBindings (f := Store.overwriteBinding time new) (fun _ => rfl)
    (fun _ => rfl), List.head?_map, held]
  simp [numbered, live]

/-- Until the claim timeout has passed since an instance was claimed, whatever operations are
performed leave its row as it is and call no provider about it, so that the call that claimed it
still saves it. And the same for the claim of a binding. -/
theorem young_claims_untouched (run : b.History faults s h s') (keys : s.DistinctInstances)
    (numbers : s.NumberedBindings) :
    (∀ id row, s.liveInstance? id = some row → row.status = .pending →
      (∀ j, s.liveBinding? id j = none) → (∀ p ∈ h, p.now < row.createdAt + b.claimTimeout) →
      s'.liveInstance? id = some row ∧ (∀ p ∈ h, ∀ c ∈ p.asked, c.call.instanceId ≠ id) ∧
        ∀ time new, new.id = id → ∃ t, s'.step time (.saveInstance new) = (.ok (), t) ∧
          t.row? id = some (Store.overwriteInstance time new row)) ∧
    (∀ i j row, s.liveBinding? i j = some row → row.status = .pending →
      (∀ p ∈ h, p.now < row.createdAt + b.claimTimeout) →
      s'.liveBinding? i j = some row ∧
        (∀ p ∈ h, ∀ c ∈ p.asked, c.call.pair? ≠ some (i, j)) ∧
        ∀ time new, new.id = row.id → ∃ t, s'.step time (.saveBinding new) = (.ok (), t) ∧
          t.liveBinding? i j = some (Store.overwriteBinding time new row)) := by
  constructor
  · intro id row live pending unbound early
    obtain ⟨kept, uncalled⟩ := run.creating keys numbers live pending unbound early
    exact ⟨kept, uncalled, fun time new named =>
      saves_instance (run.distinctInstances keys) kept named time⟩
  · intro i j row held pending early
    obtain ⟨kept, uncalled⟩ := run.issuing numbers held pending early
    exact ⟨kept, uncalled, fun time new numbered => saves_binding kept numbered time⟩

end Histories

/-- A claimed instance and a claimed binding, beside each other while operations on both are refused
and the instance that the binding is for goes. -/
theorem young_claims_untouched_beside :
    let claim := InstanceRow.claim 0 "i" "bucket" "small"
    let owner := (InstanceRow.claim 0 "k" "bucket" "small").withStatus .active
    let reservation : BindingRow := { BindingRow.claim 0 "k" "j" "bucket" with id := 1 }
    let s : Store := { instances := [claim, owner], bindings := [reservation], lastBindingId := 1 }
    let s' := s.rewriteInstance "k" (deprovisionedRow owner true 500)
    let again : Performance := ⟨100, .deprovision "i" {} true, s, [], .error (inProgress claim), s⟩
    let poll : Performance :=
      ⟨200, .lastOperation "i", s, [], .ok (.reported ⟨.inProgress, none⟩), s⟩
    let bind : Performance := ⟨300, .bind "k" "j" { appGuid? := some "app" }, s, [],
      .error (.bindingAlreadyExists "k" "j"), s⟩
    let unbind : Performance :=
      ⟨400, .unbind "k" "j" {}, s, [], .error (.bindingInProgress "k" "j"), s⟩
    let deprovision : Performance := ⟨500, .deprovision "k" {} true, s,
      [⟨s, Sample.provider, .deprovision owner {}, .ok ()⟩], .ok (.deprovisioned true), s'⟩
    let h := [again, poll, bind, unbind, deprovision]
    Sample.broker.History .none s h s' ∧
      (s'.liveInstance? "i" = some claim ∧
        ∃ t, s'.step 599 (.saveInstance (claim.withStatus .active)) = (.ok (), t)) ∧
      (s'.liveBinding? "k" "j" = some reservation ∧
        ∃ t, s'.step 599 (.saveBinding (reservation.withStatus .active)) = (.ok (), t)) ∧
      ∀ p ∈ h, ∀ c ∈ p.asked, c.call.instanceId ≠ "i" ∧ c.call.pair? ≠ some ("k", "j") := by
  intro claim owner reservation s s' again poll bind unbind deprovision h
  have run : Sample.broker.History .none s h s' := by
    refine .perform (p := again) ?_ (.perform (p := poll) ?_ (.perform (p := bind) ?_
      (.perform (p := unbind) ?_ (.perform (p := deprovision) ?_ .start))))
    · refine ⟨[⟨s, .store (.getInstance "i"), .ok claim⟩], ?_, rfl⟩
      exact .ask (World.store 100 rfl) .done
    · refine ⟨[⟨s, .store (.getInstance "i"), .ok claim⟩], ?_, rfl⟩
      exact .ask (World.store 200 rfl) .done
    · refine ⟨[⟨s, .store (.countBindings "k" "j"), .ok 1⟩], ?_, rfl⟩
      exact .ask (World.store 300 rfl) .done
    · refine ⟨[⟨s, .store (.getInstance "k"), .ok owner⟩,
        ⟨s, .store (.getBinding "k" "j"), .ok reservation⟩], ?_, rfl⟩
      refine .ask (World.store 400 rfl) ?_
      exact .ask (World.store 400 rfl) .done
    · refine ⟨[⟨s, .store (.getInstance "k"), .ok owner⟩,
        ⟨s, .provider Sample.provider (.deprovision owner {}), .ok ()⟩,
        ⟨s, .store (.saveInstance (owner.withStatus .deprovisioning)), .ok ()⟩], ?_, rfl⟩
      refine .ask (World.store 500 rfl) ?_
      refine .ask (World.provider _) ?_
      refine .ask (World.store 500 rfl) ?_
      exact .done
  have numbers : s.NumberedBindings := by
    intro row hrow
    obtain rfl := List.mem_singleton.mp hrow
    exact Int.le_refl 1
  have early : ∀ p ∈ h, p.now < 0 + (600 : Int) := by decide
  obtain ⟨instances, bindings⟩ := young_claims_untouched run (by decide) numbers
  obtain ⟨kept, uncalled, saves⟩ := instances "i" claim rfl rfl (fun _ => rfl) early
  obtain ⟨held, unissued, writes⟩ := bindings "k" "j" reservation rfl rfl early
  refine ⟨run, ⟨kept, ?_⟩, ⟨held, ?_⟩, fun p hp c hc => ⟨uncalled p hp c hc, unissued p hp c hc⟩⟩
  · obtain ⟨t, saved, -⟩ := saves 599 (claim.withStatus .active) rfl
    exact ⟨t, saved⟩
  · obtain ⟨t, written, -⟩ := writes 599 (reservation.withStatus .active) rfl
    exact ⟨t, written⟩

end Broker

end Brokerage
