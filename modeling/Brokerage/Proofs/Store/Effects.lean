import Brokerage.Proofs.Store.Bindings

/-! The effects of calls. A call that succeeds asks only, or it does to the store one of a few
things: it adds a row, rewrites the live rows of a key, or removes a claim. What calls keep is
proved by these effects. -/

namespace Brokerage

/-- The call writes nothing. -/
def StoreCall.isQuery : StoreCall → Bool
  | createInstance _ | claimInstance _ _ | saveInstance _ | softDeleteInstance _
  | releaseInstanceClaim _ | createBinding _ | saveBinding _ | releaseBindingClaim _
  | softDeleteBinding _ _ | createRequest _ | createPlan _ => false
  | countInstances _ | countAllInstances | getInstance _ | getInstanceIncludingDeleted _
  | isInstanceSoftDeleted _ | countBindings _ _ | getBinding _ _ | getBindingIncludingDeleted _ _
  | isBindingSoftDeleted _ _ | listRequests _ | getPlan _ _ | healthCheck => true

namespace Store

/-- What a call that succeeds at the time `now` yields, and the store that it leaves. -/
inductive Effect (s : Store) (now : Instant) : (call : StoreCall) → call.Value → Store → Prop
  | query {call : StoreCall} {value : call.Value} (asks : call.isQuery = true) :
      Effect s now call value s
  | createInstance {row : InstanceRow} (fresh : s.row? row.id = none) :
      Effect s now (.createInstance row) () (s.withInstance { row with deletedAt? := none })
  | claimInstance {row : InstanceRow} {request : RequestRow} (fresh : s.row? row.id = none) :
      Effect s now (.claimInstance row request) (s.lastRequestId + 1)
        ((s.withInstance { row with deletedAt? := none }).withRequest request)
  | saveInstance {row old : InstanceRow} (live : s.liveInstance? row.id = some old) :
      Effect s now (.saveInstance row) () (s.rewriteInstance row.id (overwriteInstance now row))
  | softDeleteInstance {id : String} {old : InstanceRow} (live : s.liveInstance? id = some old) :
      Effect s now (.softDeleteInstance id) () (s.rewriteInstance id (deleted now))
  | releaseInstanceClaim {id : String} :
      Effect s now (.releaseInstanceClaim id) (s.instances.any (releasableInstance id))
        (s.releaseInstanceClaim id).2
  | createBinding {row : BindingRow}
      (free : s.liveBindings row.instanceId row.bindingId = []) :
      Effect s now (.createBinding row) (s.lastBindingId + 1) (s.withBinding row)
  | saveBinding {row old : BindingRow} (held : old ∈ s.bindings) (same : old.id = row.id)
      (live : old.live = true) :
      Effect s now (.saveBinding row) ()
        (s.rewriteBindings (·.id = row.id) (overwriteBinding now row))
  | releaseBindingClaim {id : Int} :
      Effect s now (.releaseBindingClaim id) (s.bindings.any (releasableBinding id))
        (s.releaseBindingClaim id).2
  | softDeleteBinding {instanceId bindingId : String} {old : BindingRow}
      (held : old ∈ s.liveBindings instanceId bindingId) :
      Effect s now (.softDeleteBinding instanceId bindingId) ()
        (s.rewriteBindings (·.isOf instanceId bindingId) (withdrawn now))
  | createRequest {row : RequestRow} :
      Effect s now (.createRequest row) (s.lastRequestId + 1) (s.withRequest row)
  | createPlan {row : PlanRow} :
      Effect s now (.createPlan row) ()
        { s with plans := s.plans ++ [{ row with deletedAt? := none }] }

variable {s s' : Store} {now : Instant} {row : InstanceRow} {f : InstanceRow → InstanceRow}

/-! ### Answers of calls that succeed -/

theorem of_writing {result : Except StoreError Store} {value : Unit}
    (h : writing result = .ok (value, s')) : result = .ok s' := by
  cases result with
  | error e => cases h
  | ok s'' => cases h; rfl

theorem of_reading {α : Type} {answer : Except StoreError α} {value : α}
    (h : s.reading answer = .ok (value, s')) : s' = s := by
  cases answer with
  | error e => cases h
  | ok a => cases h; rfl

theorem of_createInstance (h : s.createInstance row = .ok s') :
    s.row? row.id = none ∧ s' = s.withInstance { row with deletedAt? := none } := by
  unfold createInstance at h
  split at h
  · cases h
  · rename_i untaken
    cases h
    exact ⟨row?_eq_none.mpr (by simpa using untaken), rfl⟩

theorem of_updateInstance {id : String} (h : s.updateInstance id f = .ok s') :
    (∃ old, s.liveInstance? id = some old) ∧ s' = s.rewriteInstance id f := by
  unfold updateInstance at h
  split at h
  · rename_i known
    cases h
    exact ⟨Option.isSome_iff_exists.mp (List.find?_isSome.mpr (List.any_eq_true.mp known)), rfl⟩
  · cases h

theorem of_createBinding {row : BindingRow} {value : Int}
    (h : s.createBinding row = .ok (value, s')) :
    s.liveBindings row.instanceId row.bindingId = [] ∧ value = s.lastBindingId + 1 ∧
      s' = s.withBinding row := by
  unfold createBinding at h
  split at h
  · cases h
  · rename_i free
    cases h
    exact ⟨List.filter_eq_nil_iff.mpr (by simpa using free), rfl, rfl⟩

theorem of_updateBindings {p : BindingRow → Bool} {e : StoreError} {g : BindingRow → BindingRow}
    (h : s.updateBindings p e g = .ok s') :
    (∃ old ∈ s.bindings, p old = true ∧ old.live = true) ∧ s' = s.rewriteBindings p g := by
  unfold updateBindings at h
  split at h
  · rename_i known
    cases h
    exact ⟨by simpa using known, rfl⟩
  · cases h

theorem Effect.of_answer : {call : StoreCall} → {value : call.Value} →
    s.answer now call = .ok (value, s') → s.Effect now call value s'
  | .createInstance row, _, h => by
    obtain ⟨fresh, rfl⟩ := of_createInstance (of_writing h)
    exact .createInstance fresh
  | .claimInstance row request, _, h => by
    cases created : s.createInstance row with
    | error e =>
      rw [answer, Store.claimInstance, created] at h
      cases h
    | ok t =>
      rw [answer, Store.claimInstance, created] at h
      cases h
      obtain ⟨fresh, rfl⟩ := of_createInstance created
      exact .claimInstance fresh
  | .saveInstance row, _, h => by
    obtain ⟨⟨old, live⟩, rfl⟩ := of_updateInstance (of_writing h)
    exact .saveInstance live
  | .softDeleteInstance id, _, h => by
    obtain ⟨⟨old, live⟩, rfl⟩ := of_updateInstance (of_writing h)
    exact .softDeleteInstance live
  | .createBinding row, _, h => by
    obtain ⟨free, rfl, rfl⟩ := of_createBinding h
    exact .createBinding free
  | .saveBinding row, _, h => by
    obtain ⟨⟨old, held, same, live⟩, rfl⟩ := of_updateBindings (of_writing h)
    exact .saveBinding held (of_decide_eq_true same) live
  | .softDeleteBinding i b, _, h => by
    obtain ⟨⟨old, held, ofPair, live⟩, rfl⟩ := of_updateBindings (of_writing h)
    exact .softDeleteBinding (mem_liveBindings.mpr ⟨held, ofPair, live⟩)
  | .createPlan plan, _, h => by
    have created := of_writing h
    unfold Store.createPlan at created
    split at created <;> cases created
    exact .createPlan
  | .releaseInstanceClaim id, _, h => by cases h; exact .releaseInstanceClaim
  | .releaseBindingClaim id, _, h => by cases h; exact .releaseBindingClaim
  | .createRequest row, _, h => by cases h; exact .createRequest
  | .getInstance _, _, h | .getInstanceIncludingDeleted _, _, h | .getBinding _ _, _, h
  | .getBindingIncludingDeleted _ _, _, h | .getPlan _ _, _, h => by
    rw [of_reading h]
    exact .query rfl
  | .countInstances _, _, h | .countAllInstances, _, h | .isInstanceSoftDeleted _, _, h
  | .countBindings _ _, _, h | .isBindingSoftDeleted _ _, _, h | .listRequests _, _, h
  | .healthCheck, _, h => by cases h; exact .query rfl

/-- A call either fails and changes nothing, or has its effect. -/
theorem step_cases (s : Store) (now : Instant) (call : StoreCall) :
    (∃ e, s.step now call = (.error e, s)) ∨
      ∃ value s', s.step now call = (.ok value, s') ∧ s.Effect now call value s' := by
  unfold step
  split
  · rename_i value s' answered
    exact .inr ⟨value, s', rfl, .of_answer answered⟩
  · exact .inl ⟨_, rfl⟩

/-- What the effects of calls keep. -/
def Stable (P : Store → Prop) : Prop :=
  ∀ s now call value s', P s → Effect s now call value s' → P s'

/-- What the effects of calls keep, calls keep. -/
theorem Stable.step {P : Store → Prop} (stable : Stable P) (holds : P s) (now : Instant)
    (call : StoreCall) : P (s.step now call).2 := by
  rcases step_cases s now call with ⟨e, failed⟩ | ⟨value, s', answered, effect⟩
  · rw [failed]
    exact holds
  · rw [answered]
    exact stable _ _ _ _ _ holds effect

end Store

end Brokerage
