import Brokerage.Proofs.Disposal
import Brokerage.Proofs.Rollback

/-! Getting rid of bindings. As long as its instance is live, a live binding can be withdrawn: it is
the one that its pair has, and the service of its instance has a provider. Once the instance is
deleted it is out of reach, and nothing keeps an instance with bindings from being deleted. -/

namespace Brokerage

namespace Broker

variable {b : Broker} {faults : Faults} {now : Instant} {s s' : Store}
  {asked : List Consultation} {id bindingId : String} {row : InstanceRow} {binding : BindingRow}
  {provider : Provider}

/-! ### Bindings of live instances -/

theorem withdrawn_mem_unbound {time : Instant} (held : binding ∈ s.liveBindings id bindingId) :
    Store.withdrawn time binding ∈ (unbound id bindingId time s).bindings := by
  obtain ⟨hb, ofPair, live⟩ := Store.mem_liveBindings.mp held
  exact List.mem_map.mpr ⟨binding, hb, if_pos (by simp [ofPair, live])⟩

theorem liveBinding?_unbound (time : Instant) :
    (unbound id bindingId time s).liveBinding? id bindingId = none := by
  rw [Store.liveBinding?_eq_head?, unbound, Store.liveBindings_withdrawn_self]
  rfl

/-- What may be withdrawn is withdrawn if the provider does as it is told. It is told so unless the
binding is a claim that nobody is at any more. -/
theorem Unbinding.of_obliging {r : Except BrokerError Unit}
    (h : Unbinding b .none now id bindingId s asked r s') (live : s.liveInstance? id = some row)
    (served : b.registry.provider row.serviceId = .ok provider)
    (held : s.liveBinding? id bindingId = some binding)
    (late : binding.status = .pending → b.isStale now binding.createdAt = true)
    (obliging : ∀ c ∈ asked, ∃ value, c.answer = .ok value) :
    r = .ok () ∧ (∃ time, s' = unbound id bindingId time s) ∧
      (binding.status = .active → asked = [⟨s, provider, .unbind row binding, .ok ()⟩]) := by
  cases h with
  | refused _ cause =>
    obtain ⟨unclaimed, unused⟩ := cause.resolve_left Faults.not_possible_none
    cases status : binding.status with
    | pending => exact absurd ⟨live, held, status, late status⟩ (unclaimed row binding)
    | active => exact absurd ⟨live, held, status, served⟩ (unused row binding provider)
  | withdrawn time may =>
    obtain rfl := Option.some.inj (may.held.symm.trans held)
    exact ⟨rfl, ⟨time, rfl⟩, fun active => nomatch active.symm.trans may.pending⟩
  | failed =>
    obtain ⟨_, ⟨⟩⟩ := obliging _ List.mem_cons_self
  | orphaned _ fault => exact absurd fault Faults.not_possible_none
  | done time may =>
    obtain rfl := Option.some.inj (may.held.symm.trans held)
    obtain rfl := Option.some.inj (may.live.symm.trans live)
    obtain rfl := Except.ok.inj (may.served.symm.trans served)
    exact ⟨rfl, ⟨time, rfl⟩, fun _ => rfl⟩

/-- A binding was withdrawn: its row is deleted, and the provider of its instance withdrew the
credentials that it holds. A claim holds none. -/
structure Revoked (b : Broker) (id bindingId : String) (row : InstanceRow) (binding : BindingRow)
    (s : Store) (asked : List Consultation) (r : Except BrokerError Response) (s' : Store) :
    Prop where
  result : r = .ok .unbound
  deleted : ∃ time, Store.withdrawn time binding ∈ s'.bindings
  vacant : s'.liveBinding? id bindingId = none
  told : binding.status = .active → ∃ provider, b.registry.provider row.serviceId = .ok provider ∧
    asked = [⟨s, provider, .unbind row binding, .ok ()⟩]

theorem unbind_revokes {request : UnbindRequest} {r : Except BrokerError Response}
    (single : s.SingleBindings) (live : s.liveInstance? id = some row)
    (served : b.registry.provider row.serviceId = .ok provider)
    (held : binding ∈ s.liveBindings id bindingId)
    (late : binding.status = .pending → b.isStale now binding.createdAt = true)
    (h : Acts .none (b.perform now (.unbind id bindingId request)) s asked r s')
    (obliging : ∀ c ∈ asked, ∃ value, c.answer = .ok value) :
    b.Revoked id bindingId row binding s asked r s' := by
  obtain ⟨answer, rfl, acted⟩ := Acts.of_map h
  obtain ⟨rfl, ⟨time, rfl⟩, told⟩ :=
    (Unbinding.of_acts acted).of_obliging live served (single.liveBinding? held) late obliging
  exact ⟨rfl, ⟨time, withdrawn_mem_unbound held⟩, liveBinding?_unbound time,
    fun active => ⟨provider, served, told active⟩⟩

/-- A live binding of a live instance can be withdrawn, whatever came before: an unbind does so once
the provider and the store do their part and, if the binding is a claim, it is not too early. -/
theorem binding_revocable {h : List Performance}
    (run : b.History faults Database.migrated.store h s)
    (held : binding ∈ s.liveBindings id bindingId) (live : s.liveInstance? id = some row)
    (late : binding.status = .pending → b.isStale now binding.createdAt = true)
    (request : UnbindRequest) :
    Succeeds (b.perform now (.unbind id bindingId request)) s ∧
    ∀ asked r s', Acts .none (b.perform now (.unbind id bindingId request)) s asked r s' →
      (∀ c ∈ asked, ∃ value, c.answer = .ok value) →
      b.Revoked id bindingId row binding s asked r s' := by
  obtain ⟨keys, serves⟩ := run.serves
  obtain ⟨provider, served, -⟩ := serves id row (Store.row?_of_liveInstance? keys live)
  have single : s.SingleBindings := by
    refine run.singleBindings ?_
    rw [Database.migrated_store]
    exact fun _ _ => Nat.zero_le 1
  refine ⟨.of_always fun acted obliging => ⟨.unbound, ?_⟩, fun asked r s' acted obliging => ?_⟩
  · exact (unbind_revokes single live served held late acted obliging).result
  · exact unbind_revokes single live served held late acted obliging

/-- Credentials that were issued are withdrawn on request. -/
theorem binding_revocable_issued :
    let op : Operation := .unbind "i" "j" {}
    let asked : List Consultation := [⟨Sample.bound, Sample.promptProvider,
      .unbind Sample.madeRow Sample.issuedBinding, .ok ()⟩]
    let left := unbound "i" "j" 20 Sample.bound
    Sample.promptBroker.History .none Database.migrated.store [Sample.making, Sample.issuing]
        Sample.bound ∧
      Sample.issuedBinding ∈ Sample.bound.liveBindings "i" "j" ∧
      Sample.bound.liveInstance? "i" = some Sample.madeRow ∧
      Sample.issuedBinding.status ≠ .pending ∧
      Succeeds (Sample.promptBroker.perform 20 op) Sample.bound ∧
      Acts .none (Sample.promptBroker.perform 20 op) Sample.bound asked (.ok .unbound) left ∧
      Sample.promptBroker.Revoked "i" "j" Sample.madeRow Sample.issuedBinding Sample.bound asked
        (.ok .unbound) left := by
  intro op asked left
  have run : Sample.promptBroker.History .none Database.migrated.store
      [Sample.making, Sample.issuing] Sample.bound := by
    rw [Database.migrated_store]
    exact .perform Sample.making_performed (.perform Sample.issuing_performed .start)
  have held : Sample.issuedBinding ∈ Sample.bound.liveBindings "i" "j" := List.mem_singleton_self _
  have active : Sample.issuedBinding.status ≠ .pending := nofun
  have acted : Acts .none (Sample.promptBroker.perform 20 op) Sample.bound asked (.ok .unbound)
      left := by
    refine ⟨[⟨Sample.bound, .store (.getInstance "i"), .ok Sample.madeRow⟩,
      ⟨Sample.bound, .store (.getBinding "i" "j"), .ok Sample.issuedBinding⟩,
      ⟨Sample.bound, .provider Sample.promptProvider (.unbind Sample.madeRow Sample.issuedBinding),
        .ok ()⟩,
      ⟨Sample.bound, .store (.softDeleteBinding "i" "j"), .ok ()⟩], ?_, rfl⟩
    refine .ask (World.store 20 rfl) ?_
    refine .ask (World.store 20 rfl) ?_
    refine .ask (World.provider _) ?_
    refine .ask (World.store 20 rfl) ?_
    exact .done
  have obliging : ∀ c ∈ asked, ∃ value, c.answer = .ok value :=
    List.forall_mem_singleton.mpr ⟨(), rfl⟩
  obtain ⟨succeeds, revoked⟩ :=
    binding_revocable run held rfl (fun pending => absurd pending active) {}
  exact ⟨run, held, rfl, active, succeeds, acted, revoked _ _ _ acted obliging⟩

/-! ### Bindings of deleted instances -/

/-- Nothing is unbound from an instance that is not live, whatever bindings it has. -/
theorem unbind_of_absent {request : UnbindRequest} {r : Except BrokerError Response}
    (absent : s.liveInstance? id = none)
    (h : Acts .none (b.perform now (.unbind id bindingId request)) s asked r s') :
    r = .error (.instanceDoesNotExist id) ∧ asked = [] ∧ s' = s := by
  obtain ⟨answer, rfl, acted⟩ := Acts.of_map h
  unfold unbind at acted
  rcases Acts.of_storeExcept (liveInstance_eq id) acted with ⟨time, failed⟩ | ⟨e, ⟨⟩, -⟩
  rw [Store.step_getInstance, Store.getInstance, absent] at failed
  obtain ⟨rfl, rfl, rfl⟩ := Acts.of_throw (α := Unit) failed
  exact ⟨rfl, rfl, rfl⟩

/-- A binding may outlive its instance: an instance that has a binding can be deleted, and no unbind
gets to the provider after that. -/
theorem binding_stranded :
    let gone := Sample.bound.rewriteInstance "i" (Store.deleted 20)
    let deletion : Performance := ⟨20, .deprovision "i" {} false, Sample.bound,
      [⟨Sample.bound, Sample.promptProvider, .deprovision Sample.madeRow {}, .ok ()⟩],
      .ok (.deprovisioned false), gone⟩
    Sample.promptBroker.History .none Database.migrated.store
        [Sample.making, Sample.issuing, deletion] gone ∧
      ∃ binding ∈ gone.liveBindings "i" "j", binding.status = .active ∧
        ∀ now request asked r s',
          Acts .none (Sample.promptBroker.perform now (.unbind "i" "j" request)) gone asked r s' →
          r = .error (.instanceDoesNotExist "i") ∧ asked = [] ∧
            binding ∈ s'.liveBindings "i" "j" := by
  intro gone deletion
  have deleted : Sample.promptBroker.Performs .none deletion := by
    refine ⟨[⟨Sample.bound, .store (.getInstance "i"), .ok Sample.madeRow⟩,
      ⟨Sample.bound, .provider Sample.promptProvider (.deprovision Sample.madeRow {}), .ok ()⟩,
      ⟨Sample.bound, .store (.softDeleteInstance "i"), .ok ()⟩], ?_, rfl⟩
    refine .ask (World.store 20 rfl) ?_
    refine .ask (World.provider _) ?_
    refine .ask (World.store 20 rfl) ?_
    exact .done
  refine ⟨?_, Sample.issuedBinding, List.mem_singleton_self _, rfl, ?_⟩
  · rw [Database.migrated_store]
    exact .perform Sample.making_performed
      (.perform Sample.issuing_performed (.perform deleted .start))
  · intro now request asked r s' performed
    obtain ⟨refused, unasked, rfl⟩ := unbind_of_absent rfl performed
    exact ⟨refused, unasked, List.mem_singleton_self _⟩

end Broker

end Brokerage
