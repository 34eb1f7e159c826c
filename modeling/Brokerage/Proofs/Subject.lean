import Brokerage.Proofs.Broker.Performance

/-! What operations are about, and what the calls to providers that they make are about: an
instance, and where credentials are concerned a pair. An operation calls providers about nothing but
its own subject. -/

namespace Brokerage

/-- The instance that a call is about. -/
def ProviderCall.instanceId : ProviderCall → String
  | provision id _ _ => id
  | deprovision row _ | bind row _ _ | unbind row _ | joinCredentials _ row | poll row
  | wasDelete row => row.id

/-- The pair for which a call issues or withdraws credentials. -/
def ProviderCall.pair? : ProviderCall → Option (String × String)
  | bind row bindingId _ => some (row.id, bindingId)
  | unbind row binding => some (row.id, binding.bindingId)
  | provision _ _ _ | deprovision _ _ | joinCredentials _ _ | poll _ | wasDelete _ => none

/-- The kind of operation whose work a call has the provider do. -/
def ProviderCall.work? : ProviderCall → Option OperationKind
  | provision _ _ _ => some .provision
  | deprovision _ _ => some .deprovision
  | bind _ _ _ => some .bind
  | unbind _ _ => some .unbind
  | joinCredentials _ _ | poll _ | wasDelete _ => none

/-- The pair that an operation is about. -/
def Operation.pair? : Operation → Option (String × String)
  | bind id bindingId _ | unbind id bindingId _ => some (id, bindingId)
  | provision _ _ _ | deprovision _ _ _ | update _ _ _ | lastOperation _ => none

namespace Broker

variable {b : Broker} {faults : Faults} {now : Instant} {s s' : Store} {asked : List Consultation}
  {id bindingId : String} {c : Consultation}

theorem Provisioning.about {request : ProvisionRequest} {asyncAllowed : Bool}
    {r : Except BrokerError Bool}
    (h : Provisioning b faults now id request asyncAllowed s asked r s') (hc : c ∈ asked) :
    c.call.instanceId = id ∧ c.call.pair? = none := by
  cases h with
  | refused => cases hc
  | failed | orphaned | created =>
    obtain rfl := List.mem_singleton.mp hc
    exact ⟨rfl, rfl⟩

theorem Deprovisioning.about {request : DeprovisionRequest} {asyncAllowed : Bool}
    {r : Except BrokerError Bool}
    (h : Deprovisioning b faults now id request asyncAllowed s asked r s') (hc : c ∈ asked) :
    c.call.instanceId = id ∧ c.call.pair? = none := by
  cases h with
  | refused => cases hc
  | failed may | orphaned may | accepted _ may =>
    obtain rfl := List.mem_singleton.mp hc
    exact ⟨Store.liveInstance?_id may.live, rfl⟩

theorem Polling.about {r : Except BrokerError LastOperation}
    (h : Polling b faults now id s asked r s') (hc : c ∈ asked) :
    c.call.instanceId = id ∧ c.call.pair? = none := by
  cases h with
  | refused | young => cases hc
  | undetermined may =>
    obtain rfl := Store.liveInstance?_id may.live
    rcases List.mem_cons.mp hc with rfl | hc
    · exact ⟨rfl, rfl⟩
    · obtain rfl := List.mem_singleton.mp hc
      exact ⟨rfl, rfl⟩
  | settled may heard =>
    obtain rfl := Store.liveInstance?_id may.live
    cases heard with
    | pending | inFlight | failed =>
      obtain rfl := List.mem_singleton.mp hc
      exact ⟨rfl, rfl⟩
    | told =>
      rcases List.mem_cons.mp hc with rfl | hc
      · exact ⟨rfl, rfl⟩
      · obtain rfl := List.mem_singleton.mp hc
        exact ⟨rfl, rfl⟩

theorem Binding.about {request : BindRequest} {r : Except BrokerError Fields}
    (h : Binding b faults now id bindingId request s asked r s') (hc : c ∈ asked) :
    c.call.instanceId = id ∧ (c.call.pair? = none ∨ c.call.pair? = some (id, bindingId)) := by
  cases h with
  | refused => cases hc
  | failed may | orphaned may =>
    obtain rfl := Store.liveInstance?_id may.live
    obtain rfl := List.mem_singleton.mp hc
    exact ⟨rfl, .inr rfl⟩
  | bound _ may =>
    obtain rfl := Store.liveInstance?_id may.live
    rcases List.mem_cons.mp hc with rfl | hc
    · exact ⟨rfl, .inr rfl⟩
    · obtain rfl := List.mem_singleton.mp hc
      exact ⟨rfl, .inl rfl⟩

theorem Unbinding.about {r : Except BrokerError Unit}
    (h : Unbinding b faults now id bindingId s asked r s') (hc : c ∈ asked) :
    c.call.instanceId = id ∧ (c.call.pair? = none ∨ c.call.pair? = some (id, bindingId)) := by
  cases h with
  | refused | withdrawn => cases hc
  | failed may | orphaned may | done _ may =>
    obtain rfl := Store.liveInstance?_id may.live
    obtain ⟨-, rfl⟩ := Store.isOf_iff.mp (Store.liveBinding?_mem may.held).2.1
    obtain rfl := List.mem_singleton.mp hc
    exact ⟨rfl, .inr rfl⟩

/-- An operation calls providers about its own instance, and issues or withdraws credentials for its
own pair. -/
theorem Course.about {op : Operation} {r : Except BrokerError Response}
    (h : b.Course faults now s op asked r s') (hc : c ∈ asked) :
    c.call.instanceId = op.instanceId ∧ (c.call.pair? = none ∨ c.call.pair? = op.pair?) := by
  cases h with
  | provision h => exact ⟨(h.about hc).1, .inl (h.about hc).2⟩
  | deprovision h => exact ⟨(h.about hc).1, .inl (h.about hc).2⟩
  | bind h => exact h.about hc
  | unbind h => exact h.about hc
  | update => cases hc
  | lastOperation h => exact ⟨(h.about hc).1, .inl (h.about hc).2⟩

/-- A bind leaves the live bindings of every other pair as they are. -/
theorem Binding.liveBindings_ne {request : BindRequest} {r : Except BrokerError Fields}
    {i j : String} (h : Binding b faults now id bindingId request s asked r s')
    (numbers : s.NumberedBindings) (other : ¬ (id = i ∧ bindingId = j)) :
    s'.liveBindings i j = s.liveBindings i j := by
  have appended : ∀ {t : Store} {row : BindingRow}, t.bindings = s.bindings ++ [row] →
      row.instanceId = id → row.bindingId = bindingId →
      t.liveBindings i j = s.liveBindings i j := by
    rintro t row table rfl rfl
    rw [Store.liveBindings_concat table, if_neg, List.append_nil]
    rw [Bool.and_eq_true, Store.isOf_iff]
    exact fun h => other h.1
  cases h with
  | refused => rfl
  | failed _ released =>
    rcases released with rfl | ⟨-, rfl⟩
    · rw [reserved, Store.releaseBindingClaim_withBinding numbers rfl]
      rfl
    · exact appended rfl rfl rfl
  | orphaned => exact appended rfl rfl rfl
  | bound =>
    rw [issued, reserved, Store.rewriteBindings_withBinding numbers]
    exact appended rfl rfl rfl

/-- An unbind leaves the live bindings of every other pair as they are. -/
theorem Unbinding.liveBindings_ne {r : Except BrokerError Unit} {i j : String}
    (h : Unbinding b faults now id bindingId s asked r s')
    (other : ¬ (id = i ∧ bindingId = j)) : s'.liveBindings i j = s.liveBindings i j := by
  have apart : ¬ (i = id ∧ j = bindingId) := fun h => other ⟨h.1.symm, h.2.symm⟩
  cases h with
  | refused | failed | orphaned => rfl
  | withdrawn saved | done saved => exact Store.liveBindings_withdrawn_ne saved apart

/-- An operation leaves the live bindings of every other pair as they are. -/
theorem Course.liveBindings_ne {op : Operation} {r : Except BrokerError Response} {i j : String}
    (h : b.Course faults now s op asked r s') (numbers : s.NumberedBindings)
    (other : op.pair? ≠ some (i, j)) : s'.liveBindings i j = s.liveBindings i j := by
  cases h with
  | provision h => exact Store.liveBindings_congr h.bindings_eq
  | deprovision h => exact Store.liveBindings_congr h.bindings_eq
  | bind h => exact h.liveBindings_ne numbers fun ⟨hi, hj⟩ => other (by rw [← hi, ← hj]; rfl)
  | unbind h => exact h.liveBindings_ne fun ⟨hi, hj⟩ => other (by rw [← hi, ← hj]; rfl)
  | update => rfl
  | lastOperation h => exact Store.liveBindings_congr h.bindings_eq

end Broker

end Brokerage
