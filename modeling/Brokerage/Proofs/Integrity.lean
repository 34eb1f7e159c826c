import Brokerage.Proofs.Lifecycle

/-! What bindings refer to. A binding names an instance and the service of that instance. Credentials
are issued for active instances only, and an instance that has ever been more than a claim keeps its
row, so that every binding, deleted or not, names one that has a row. -/

namespace Brokerage

namespace Store

/-- An instance has a row, live or deleted, that is of the service and no claim. -/
def Established (s : Store) (id serviceId : String) : Prop :=
  ∃ row, s.row? id = some row ∧ row.serviceId = serviceId ∧ row.status ≠ .pending

/-- Every binding, live or deleted, has a property of the instance and the service that it names. -/
def EveryBinding (s : Store) (P : String → String → Prop) : Prop :=
  ∀ binding ∈ s.bindings, P binding.instanceId binding.serviceId

/-- Every binding names an instance that is established with the service that it names. -/
def Grounded (s : Store) : Prop := s.EveryBinding s.Established

variable {s t : Store} {id serviceId : String} {P : String → String → Prop}

theorem Established.withInstance (known : s.Established id serviceId) (row : InstanceRow) :
    (s.withInstance row).Established id serviceId := by
  obtain ⟨old, held, ofService, settled⟩ := known
  refine ⟨old, ?_, ofService, settled⟩
  rw [row?_withInstance, held, Option.some_or]

/-- A release leaves what is more than a claim. -/
theorem Established.row?_releaseInstanceClaim (known : s.Established id serviceId) (i : String) :
    (s.releaseInstanceClaim i).2.row? id = s.row? id := by
  obtain ⟨row, held, -, settled⟩ := known
  obtain ⟨named, before, after, rows, others⟩ := List.find?_eq_some_iff_append.mp held
  have kept : releasableInstance i row = false := by
    have text : row.statusText ≠ InstanceStatus.pending.text :=
      mt InstanceStatus.ofText_eq_pending_iff.mpr settled
    simp [releasableInstance, text]
  rw [held]
  simp only [row?, releaseInstanceClaim, List.find?_filter]
  refine List.find?_eq_some_iff_append.mpr
    ⟨by simpa [kept] using named, before, after, rows, fun r hr => ?_⟩
  have other := others r hr
  simp_all

theorem EveryBinding.mono {Q : String → String → Prop} (every : s.EveryBinding P)
    (weaker : ∀ id serviceId, P id serviceId → Q id serviceId) : s.EveryBinding Q :=
  fun binding held => weaker _ _ (every binding held)

theorem EveryBinding.of_bindings_eq (every : s.EveryBinding P) (same : t.bindings = s.bindings) :
    t.EveryBinding P := by
  rw [EveryBinding, same]
  exact every

theorem EveryBinding.withBinding (every : s.EveryBinding P) {row : BindingRow}
    (new : P row.instanceId row.serviceId) : (s.withBinding row).EveryBinding P := by
  intro binding held
  have held : binding ∈ s.bindings ++ [s.numbered row] := held
  rcases List.mem_append.mp held with held | added
  · exact every binding held
  · rw [List.mem_singleton.mp added]
    exact new

theorem EveryBinding.rewriteBindings (every : s.EveryBinding P) {p : BindingRow → Bool}
    {f : BindingRow → BindingRow}
    (keeps : ∀ r, (f r).instanceId = r.instanceId ∧ (f r).serviceId = r.serviceId) :
    (s.rewriteBindings p f).EveryBinding P := by
  intro binding held
  obtain ⟨old, before, rfl⟩ := List.mem_map.mp held
  split
  · rw [(keeps old).1, (keeps old).2]
    exact every old before
  · exact every old before

theorem EveryBinding.releaseBindingClaim (every : s.EveryBinding P) (id : Int) :
    (s.releaseBindingClaim id).2.EveryBinding P :=
  fun binding held => every binding (List.mem_filter.mp held).1

end Store

namespace Broker

variable {b : Broker} {faults : Faults} {now : Instant} {s s' : Store} {op : Operation}
  {asked : List Consultation} {id bindingId serviceId : String}

/-! ### What is established stays so -/

/-- A change of a row that is no claim leaves one that is none either, and differs in its status and
its times at most. -/
theorem RowChange.of_settled {old : InstanceRow} {new : Option InstanceRow}
    (h : RowChange b faults now s op asked (some old) new) (settled : old.status ≠ .pending) :
    ∃ row, new = some row ∧ row.status ≠ .pending ∧ row = { old with
      statusText := row.statusText, updatedAt := row.updatedAt, deletedAt? := row.deletedAt? } := by
  cases h with
  | @deleted _ _ _ _ _ provider time may =>
    cases way : provider.deprovisionsAsync with
    | true => exact ⟨_, rfl, by simp [deprovisionedRow, Store.overwriteInstance, InstanceRow.status,
        InstanceRow.withStatus], rfl⟩
    | false => exact ⟨_, rfl, settled, rfl⟩
  | settled time may called =>
    cases called with
    | resumed pending | givenUp pending => exact absurd pending settled
    | finished => exact ⟨_, rfl, by simp [Store.overwriteInstance, InstanceRow.status,
        InstanceRow.withStatus], rfl⟩
    | gone | wasDelete => exact ⟨_, rfl, settled, rfl⟩

theorem Course.established {r : Except BrokerError Response} (keys : s.DistinctInstances)
    (h : b.Course faults now s op asked r s') (known : s.Established id serviceId) :
    s'.Established id serviceId := by
  obtain ⟨old, held, ofService, settled⟩ := known
  rcases h.row? keys id with kept | ⟨-, change⟩
  · exact ⟨old, by rw [kept, held], ofService, settled⟩
  · rw [held] at change
    obtain ⟨row, new, settled, same⟩ := change.of_settled settled
    exact ⟨row, new, by rw [same]; exact ofService, settled⟩

theorem History.established {h : List Performance} (run : b.History faults s h s')
    (keys : s.DistinctInstances) (known : s.Established id serviceId) :
    s'.Established id serviceId := by
  induction run with
  | start => exact known
  | perform performed _ ih =>
    exact ih (Performs.distinctInstances performed keys)
      ((Course.of_acts performed).established keys known)

/-! ### Bindings -/

/-- Credentials are issued for what is established with the service that they are issued for. -/
theorem MayBind.established {request : BindRequest} {row : InstanceRow} {provider : Provider}
    (keys : s.DistinctInstances) (may : b.MayBind id bindingId request s row provider) :
    s.Established id row.serviceId :=
  ⟨row, Store.row?_of_liveInstance? keys may.live, rfl, by rw [may.active]; decide⟩

/-- A bind leaves bindings grounded, and they are so whenever it asks a provider. -/
theorem Binding.grounded {request : BindRequest} {r : Except BrokerError Fields}
    (h : Binding b faults now id bindingId request s asked r s') (keys : s.DistinctInstances)
    (grounded : s.Grounded) : (∀ c ∈ asked, c.before.Grounded) ∧ s'.Grounded := by
  have claimed : ∀ row provider, b.MayBind id bindingId request s row provider →
      (reserved now id bindingId row s).Grounded := by
    intro row provider may
    have every : (reserved now id bindingId row s).EveryBinding s.Established :=
      Store.EveryBinding.withBinding grounded (may.established keys)
    exact every
  cases h with
  | refused => exact ⟨List.forall_mem_nil _, grounded⟩
  | failed may released =>
    refine ⟨List.forall_mem_singleton.mpr (claimed _ _ may), ?_⟩
    rcases released with rfl | ⟨-, rfl⟩
    · exact (claimed _ _ may).releaseBindingClaim _
    · exact claimed _ _ may
  | orphaned may => exact ⟨List.forall_mem_singleton.mpr (claimed _ _ may), claimed _ _ may⟩
  | @bound row provider credentials saved may =>
    have written : (issued now id bindingId row credentials saved s).Grounded := by
      refine Store.EveryBinding.rewriteBindings (claimed row provider may) ?_
      exact fun r => ⟨rfl, rfl⟩
    refine ⟨?_, written⟩
    exact List.forall_mem_cons.mpr
      ⟨claimed row provider may, List.forall_mem_singleton.mpr written⟩

theorem Unbinding.grounded {r : Except BrokerError Unit}
    (h : Unbinding b faults now id bindingId s asked r s') (grounded : s.Grounded) :
    (∀ c ∈ asked, c.before.Grounded) ∧ s'.Grounded := by
  have written : ∀ saved, (unbound id bindingId saved s).Grounded := by
    intro saved
    refine Store.EveryBinding.rewriteBindings grounded ?_
    exact fun r => ⟨rfl, rfl⟩
  cases h with
  | refused => exact ⟨List.forall_mem_nil _, grounded⟩
  | withdrawn saved => exact ⟨List.forall_mem_nil _, written saved⟩
  | failed | orphaned => exact ⟨List.forall_mem_singleton.mpr grounded, grounded⟩
  | done saved => exact ⟨List.forall_mem_singleton.mpr grounded, written saved⟩

/-- A provision leaves the bindings as they are, and its claim lies beside all rows that there are. -/
theorem Provisioning.grounded_before {request : ProvisionRequest} {asyncAllowed : Bool}
    {r : Except BrokerError Bool}
    (h : Provisioning b faults now id request asyncAllowed s asked r s') (grounded : s.Grounded) :
    ∀ c ∈ asked, c.before.Grounded := by
  have claimed : ∀ plan, (claimed now id request plan s).Grounded := by
    intro plan
    have every : (Broker.claimed now id request plan s).EveryBinding s.Established :=
      Store.EveryBinding.of_bindings_eq grounded rfl
    refine every.mono fun i service known => ?_
    have known : (requested now id request s).Established i service := known
    exact known.withInstance _
  cases h with
  | refused => exact List.forall_mem_nil _
  | failed | orphaned | created => exact List.forall_mem_singleton.mpr (claimed _)

theorem Deprovisioning.before_eq {request : DeprovisionRequest} {asyncAllowed : Bool}
    {r : Except BrokerError Bool}
    (h : Deprovisioning b faults now id request asyncAllowed s asked r s') :
    ∀ c ∈ asked, c.before = s := by
  cases h with
  | refused => exact List.forall_mem_nil _
  | failed | orphaned | accepted => exact List.forall_mem_singleton.mpr rfl

theorem Polling.before_eq {r : Except BrokerError LastOperation}
    (h : Polling b faults now id s asked r s') : ∀ c ∈ asked, c.before = s := by
  cases h with
  | refused | young => exact List.forall_mem_nil _
  | undetermined => simp
  | settled _ heard => cases heard <;> simp

/-- An operation leaves bindings grounded, and they are so whenever it asks a provider. -/
theorem Course.grounded {r : Except BrokerError Response} (keys : s.DistinctInstances)
    (h : b.Course faults now s op asked r s') (grounded : s.Grounded) :
    (∀ c ∈ asked, c.before.Grounded) ∧ s'.Grounded := by
  have kept : s'.bindings = s.bindings → s'.Grounded := by
    intro same
    exact (grounded.of_bindings_eq same).mono fun i service known => h.established keys known
  cases h with
  | provision h => exact ⟨h.grounded_before grounded, kept h.bindings_eq⟩
  | deprovision h => exact ⟨fun c hc => by rw [h.before_eq c hc]; exact grounded, kept h.bindings_eq⟩
  | bind h => exact h.grounded keys grounded
  | unbind h => exact h.grounded grounded
  | update => exact ⟨List.forall_mem_nil _, grounded⟩
  | lastOperation h =>
    exact ⟨fun c hc => by rw [h.before_eq c hc]; exact grounded, kept h.bindings_eq⟩

/-! ### Histories -/

theorem History.grounded {h : List Performance} (run : b.History faults s h s')
    (keys : s.DistinctInstances) (grounded : s.Grounded) :
    s'.Grounded ∧ ∀ p ∈ h, (p.before.Grounded ∧ ∀ c ∈ p.asked, c.before.Grounded) ∧
      ∀ binding ∈ p.before.bindings, s'.Established binding.instanceId binding.serviceId := by
  induction run with
  | start => exact ⟨grounded, List.forall_mem_nil _⟩
  | @perform p rest t performed later ih =>
    have course := Course.of_acts performed
    obtain ⟨asking, after⟩ := course.grounded keys grounded
    obtain ⟨last, others⟩ := ih (Performs.distinctInstances performed keys) after
    refine ⟨last, List.forall_mem_cons.mpr ⟨⟨⟨grounded, asking⟩, fun binding held => ?_⟩, others⟩⟩
    have run : b.History faults p.before (p :: rest) t := .perform performed later
    exact run.established keys (grounded binding held)

/-- Wherever operations lead from a fresh database, each binding, live or deleted, names an instance
that has a row, live or deleted, which is of the same service and no claim. That is so too whenever a
provider is asked, and whichever claim is released then, it is not that of an instance with a
binding. An instance that had a binding once has its row for good. -/
theorem bindings_grounded {h : List Performance}
    (run : b.History faults Database.migrated.store h s) :
    (∀ binding ∈ s.bindings, ∃ row, s.row? binding.instanceId = some row ∧
      row.serviceId = binding.serviceId ∧ row.status ≠ .pending) ∧
    (∀ p ∈ h, ∀ t, t = p.before ∨ (∃ c ∈ p.asked, t = c.before) → t.Grounded ∧
      ∀ id, ∀ binding ∈ t.bindings,
        (t.releaseInstanceClaim id).2.row? binding.instanceId = t.row? binding.instanceId) ∧
    (∀ p ∈ h, ∀ binding ∈ p.before.bindings, ∃ row, s.row? binding.instanceId = some row ∧
      row.serviceId = binding.serviceId ∧ row.status ≠ .pending) := by
  have keys : Database.migrated.store.DistinctInstances := by
    rw [Database.migrated_store]
    decide
  have empty : Database.migrated.store.Grounded := by
    rw [Database.migrated_store]
    exact List.forall_mem_nil _
  obtain ⟨last, along⟩ := run.grounded keys empty
  refine ⟨last, fun p hp t reached => ?_, fun p hp => (along p hp).2⟩
  have grounded : t.Grounded := by
    rcases reached with rfl | ⟨c, hc, rfl⟩
    · exact (along p hp).1.1
    · exact (along p hp).1.2 c hc
  exact ⟨grounded, fun id binding held => (grounded binding held).row?_releaseInstanceClaim id⟩

/-- An instance with a binding that is deleted, after which its row and that of the binding stay. -/
theorem bindings_grounded_deleted :
    let deleting : Performance :=
      ⟨20, .deprovision "i" { serviceId := "bucket", planId := "small" } false, Sample.bound,
        [⟨Sample.bound, Sample.promptProvider,
          .deprovision Sample.madeRow { serviceId := "bucket", planId := "small" }, .ok ()⟩],
        .ok (.deprovisioned false), Sample.bound.rewriteInstance "i" (Store.deleted 20)⟩
    let h := [Sample.making, Sample.issuing, deleting]
    Sample.promptBroker.History .none Database.migrated.store h deleting.after ∧
      Sample.issuedBinding ∈ deleting.after.bindings ∧
      (∃ row, deleting.after.row? "i" = some row ∧ row.serviceId = "bucket" ∧
        row.status ≠ .pending) ∧
      (Sample.bound.releaseInstanceClaim "i").2.row? "i" = some Sample.madeRow := by
  intro deleting h
  have deleted : Sample.promptBroker.Performs .none deleting := by
    refine ⟨[⟨Sample.bound, .store (.getInstance "i"), .ok Sample.madeRow⟩,
      ⟨Sample.bound, .provider Sample.promptProvider
        (.deprovision Sample.madeRow { serviceId := "bucket", planId := "small" }), .ok ()⟩,
      ⟨Sample.bound, .store (.softDeleteInstance "i"), .ok ()⟩], ?_, rfl⟩
    refine .ask (World.store 20 rfl) ?_
    refine .ask (World.provider _) ?_
    refine .ask (World.store 20 rfl) ?_
    exact .done
  have run : Sample.promptBroker.History .none Database.migrated.store h deleting.after := by
    rw [Database.migrated_store]
    exact .perform (p := Sample.making) Sample.making_performed
      (.perform (p := Sample.issuing) Sample.issuing_performed
        (.perform (p := deleting) deleted .start))
  have held : Sample.issuedBinding ∈ deleting.after.bindings := by decide
  obtain ⟨last, along, -⟩ := bindings_grounded run
  obtain ⟨-, released⟩ := along deleting (by simp [h]) deleting.before (.inl rfl)
  exact ⟨run, held, last _ held, released "i" Sample.issuedBinding (by decide)⟩

end Broker

end Brokerage
