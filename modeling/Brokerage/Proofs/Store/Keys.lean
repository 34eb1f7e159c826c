import Brokerage.Proofs.Store.Effects

/-! What every call to a store keeps, whether it fails or not: the identifiers of instances stay
apart, the numbers of bindings ascend and stay behind the last one given, and no pair has two live
bindings. These are the keys of the tables. -/

namespace Brokerage.Store

variable {s s' : Store} {row : InstanceRow} {f : InstanceRow → InstanceRow}

/-! ### Identifiers of instances -/

namespace DistinctInstances

theorem withInstance (keys : s.DistinctInstances) (fresh : s.row? row.id = none) :
    (s.withInstance row).DistinctInstances := by
  have apart : row.id ∉ s.instances.map (·.id) := by
    simpa using row?_eq_none.mp fresh
  simp only [DistinctInstances, Store.withInstance, List.map_append, List.map_cons, List.map_nil]
  refine List.nodup_append.mpr ⟨keys, List.pairwise_singleton _ _, fun id hid new hnew => ?_⟩
  rw [List.mem_singleton.mp hnew]
  exact fun same => apart (same ▸ hid)

theorem rewriteInstance (keys : s.DistinctInstances) (keeps : ∀ r, (f r).id = r.id) (i : String) :
    (s.rewriteInstance i f).DistinctInstances := by
  have ids : (s.rewriteInstance i f).instances.map (·.id) = s.instances.map (·.id) := by
    rw [Store.rewriteInstance, List.map_map]
    exact List.map_congr_left fun r _ => rewrite_keeps keeps _ r
  rw [DistinctInstances, ids]
  exact keys

theorem stable : Stable DistinctInstances := by
  intro s now call value s' keys effect
  cases effect with
  | createInstance fresh | claimInstance fresh => exact keys.withInstance fresh
  | @saveInstance row => exact keys.rewriteInstance (overwriteInstance_id now row) row.id
  | @softDeleteInstance id => exact keys.rewriteInstance (deleted_id now) id
  | releaseInstanceClaim => exact keys.releaseInstanceClaim _
  | query | createBinding | saveBinding | releaseBindingClaim | softDeleteBinding | createRequest
  | createPlan => exact keys

/-- No call makes two instances share an identifier. -/
theorem step (keys : s.DistinctInstances) (now : Instant) (call : StoreCall) :
    (s.step now call).2.DistinctInstances :=
  stable.step keys now call

end DistinctInstances

/-! ### Numbers of bindings -/

namespace NumberedBindings

theorem withBinding (numbers : s.NumberedBindings) (row : BindingRow) :
    (s.withBinding row).NumberedBindings := by
  intro r hr
  simp only [Store.withBinding, insertBinding, List.mem_append, List.mem_singleton] at hr ⊢
  rcases hr with hr | rfl
  · have := numbers r hr
    omega
  · exact Int.le_refl _

theorem rewriteBindings {g : BindingRow → BindingRow} (numbers : s.NumberedBindings)
    (keeps : ∀ r, (g r).id = r.id) (p : BindingRow → Bool) :
    (s.rewriteBindings p g).NumberedBindings := by
  intro r hr
  obtain ⟨old, held, rfl⟩ := List.mem_map.mp hr
  rw [rewrite_keeps keeps]
  exact numbers old held

theorem stable : Stable NumberedBindings := by
  intro s now call value s' numbers effect
  cases effect with
  | createBinding => exact numbers.withBinding _
  | @saveBinding row => exact numbers.rewriteBindings (overwriteBinding_id now row) _
  | softDeleteBinding => exact numbers.rewriteBindings (withdrawn_id now) _
  | releaseBindingClaim => exact fun r hr => numbers r (List.mem_filter.mp hr).1
  | query | createInstance | claimInstance | saveInstance | softDeleteInstance
  | releaseInstanceClaim | createRequest | createPlan => exact numbers

/-- No call lets the numbers of bindings run ahead of the last one given. -/
theorem step (numbers : s.NumberedBindings) (now : Instant) (call : StoreCall) :
    (s.step now call).2.NumberedBindings :=
  stable.step numbers now call

end NumberedBindings

/-! ### Live bindings of a pair -/

/-- A pair has one live binding at most. -/
def SingleBindings (s : Store) : Prop :=
  ∀ instanceId bindingId, (s.liveBindings instanceId bindingId).length ≤ 1

namespace SingleBindings

variable {instanceId bindingId : String}

theorem rest_eq_nil (single : s.SingleBindings) {binding : BindingRow} {rest : List BindingRow}
    (rows : s.liveBindings instanceId bindingId = binding :: rest) : rest = [] := by
  have only := single instanceId bindingId
  rw [rows, List.length_cons] at only
  exact List.eq_nil_of_length_eq_zero (Nat.le_zero.mp (Nat.le_of_succ_le_succ only))

/-- A live binding is the one that its pair has. -/
theorem liveBinding? (single : s.SingleBindings) {binding : BindingRow}
    (held : binding ∈ s.liveBindings instanceId bindingId) :
    s.liveBinding? instanceId bindingId = some binding := by
  rw [liveBinding?_eq_head?]
  cases rows : s.liveBindings instanceId bindingId with
  | nil => simp [rows] at held
  | cons first rest =>
    rw [rows, single.rest_eq_nil rows] at held
    rw [List.mem_singleton.mp held]
    rfl

theorem withBinding (single : s.SingleBindings) {row : BindingRow}
    (free : s.liveBindings row.instanceId row.bindingId = []) :
    (s.withBinding row).SingleBindings := by
  intro i j
  have added : (s.withBinding row).bindings = s.bindings ++ [s.numbered row] := rfl
  rw [liveBindings_concat added]
  cases ofPair : (s.numbered row).isOf i j with
  | false => simpa using single i j
  | true =>
    obtain ⟨rfl, rfl⟩ := isOf_iff.mp ofPair
    have free : s.liveBindings (s.numbered row).instanceId (s.numbered row).bindingId = [] := free
    rw [free]
    split
    · exact Nat.le_refl 1
    · exact Nat.zero_le 1

theorem rewriteBindings (single : s.SingleBindings) {g : BindingRow → BindingRow}
    (same : ∀ r i j, (g r).isOf i j = r.isOf i j) (lives : ∀ r, (g r).live = r.live)
    (p : BindingRow → Bool) : (s.rewriteBindings p g).SingleBindings := by
  intro i j
  rw [liveBindings_rewriteBindings (same · i j) lives, List.length_map]
  exact single i j

theorem withdraw (single : s.SingleBindings) (now : Instant) :
    (s.rewriteBindings (·.isOf instanceId bindingId) (withdrawn now)).SingleBindings := by
  intro i j
  by_cases self : i = instanceId ∧ j = bindingId
  · obtain ⟨rfl, rfl⟩ := self
    rw [liveBindings_withdrawn_self]
    exact Nat.zero_le 1
  · rw [liveBindings_withdrawn_ne now self]
    exact single i j

theorem releaseBindingClaim (single : s.SingleBindings) (id : Int) :
    (s.releaseBindingClaim id).2.SingleBindings := fun i j =>
  Nat.le_trans (List.filter_sublist.filter _).length_le (single i j)

theorem stable : Stable SingleBindings := by
  intro s now call value s' single effect
  cases effect with
  | createBinding free => exact single.withBinding free
  | @saveBinding row =>
    exact single.rewriteBindings (isOf_overwriteBinding now row) (live_overwriteBinding now row) _
  | softDeleteBinding => exact single.withdraw now
  | releaseBindingClaim => exact single.releaseBindingClaim _
  | query | createInstance | claimInstance | saveInstance | softDeleteInstance
  | releaseInstanceClaim | createRequest | createPlan => exact single

/-- No call gives a pair a second live binding. -/
theorem step (single : s.SingleBindings) (now : Instant) (call : StoreCall) :
    (s.step now call).2.SingleBindings :=
  stable.step single now call

end SingleBindings

/-! ### The order of bindings -/

/-- Bindings stand in the order of their numbers. -/
def AscendingBindings (s : Store) : Prop := (s.bindings.map (·.id)).Pairwise (· < ·)

namespace AscendingBindings

theorem withBinding (ascending : s.AscendingBindings) (numbers : s.NumberedBindings)
    (row : BindingRow) : (s.withBinding row).AscendingBindings := by
  simp only [AscendingBindings, Store.withBinding, insertBinding, List.map_append, List.map_cons,
    List.map_nil]
  refine List.pairwise_append.mpr ⟨ascending, List.pairwise_singleton _ _, fun n hn m hm => ?_⟩
  obtain ⟨r, hr, rfl⟩ := List.mem_map.mp hn
  have given := numbers r hr
  rw [List.mem_singleton.mp hm]
  omega

theorem rewriteBindings {g : BindingRow → BindingRow} (ascending : s.AscendingBindings)
    (keeps : ∀ r, (g r).id = r.id) (p : BindingRow → Bool) :
    (s.rewriteBindings p g).AscendingBindings := by
  have ids : (s.rewriteBindings p g).bindings.map (·.id) = s.bindings.map (·.id) := by
    rw [Store.rewriteBindings, List.map_map]
    exact List.map_congr_left fun r _ => rewrite_keeps keeps _ r
  rw [AscendingBindings, ids]
  exact ascending

theorem effect {now : Instant} {call : StoreCall} {value : call.Value}
    (ascending : s.AscendingBindings) (numbers : s.NumberedBindings)
    (h : s.Effect now call value s') : s'.AscendingBindings := by
  cases h with
  | createBinding => exact ascending.withBinding numbers _
  | @saveBinding row => exact ascending.rewriteBindings (overwriteBinding_id now row) _
  | softDeleteBinding => exact ascending.rewriteBindings (withdrawn_id now) _
  | releaseBindingClaim => exact List.Pairwise.sublist (List.filter_sublist.map _) ascending
  | query | createInstance | claimInstance | saveInstance | softDeleteInstance
  | releaseInstanceClaim | createRequest | createPlan => exact ascending

/-- A number tells bindings apart. -/
theorem eq_of_id {r r' : BindingRow} (ascending : s.AscendingBindings) (hr : r ∈ s.bindings)
    (hr' : r' ∈ s.bindings) (same : r.id = r'.id) : r = r' := by
  obtain ⟨i, hi, rfl⟩ := List.getElem_of_mem hr
  obtain ⟨j, hj, rfl⟩ := List.getElem_of_mem hr'
  have below := List.pairwise_iff_getElem.mp (List.pairwise_map.mp ascending)
  rcases Nat.lt_trichotomy i j with before | rfl | after
  · have := below i j hi hj before
    omega
  · rfl
  · have := below j i hj hi after
    omega

end AscendingBindings

/-! ### All keys -/

/-- The keys of the tables hold. -/
structure Keyed (s : Store) : Prop where
  instances : s.DistinctInstances
  numbers : s.NumberedBindings
  ascending : s.AscendingBindings
  single : s.SingleBindings

theorem Keyed.empty : Store.empty.Keyed where
  instances := List.nodup_nil
  numbers := List.forall_mem_nil _
  ascending := List.Pairwise.nil
  single _ _ := Nat.zero_le 1

theorem Keyed.stable : Stable Keyed := fun _ _ _ _ _ keyed effect =>
  { instances := DistinctInstances.stable _ _ _ _ _ keyed.instances effect
    numbers := NumberedBindings.stable _ _ _ _ _ keyed.numbers effect
    ascending := keyed.ascending.effect keyed.numbers effect
    single := SingleBindings.stable _ _ _ _ _ keyed.single effect }

end Brokerage.Store
