import Brokerage.Proofs.Store.History

/-! Where instances and pairs stand. What a store holds of them follows from their turns: the calls by
which they were taken, released and deleted, as those calls were answered. -/

namespace Brokerage

/-- What may happen to an instance. -/
inductive InstanceTurn where
  | taken
  | released
  | deleted
  deriving DecidableEq, Repr

/-- What may happen to a binding. It is taken under the number that the store gave it, and released
by that number. -/
inductive BindingTurn where
  | taken (row : BindingRow) (number : Int)
  | released (number : Int)
  | deleted (instanceId bindingId : String)
  deriving DecidableEq, Repr

namespace Transaction

/-- What happened to which instance, by the answer to the call. -/
def instanceTurn? : Transaction → Option (String × InstanceTurn)
  | ⟨.createInstance row, _, .ok _, _⟩ => some (row.id, .taken)
  | ⟨.claimInstance row _, _, .ok _, _⟩ => some (row.id, .taken)
  | ⟨.releaseInstanceClaim id, _, .ok true, _⟩ => some (id, .released)
  | ⟨.softDeleteInstance id, _, .ok _, _⟩ => some (id, .deleted)
  | _ => none

/-- What happened to which binding, by the answer to the call. -/
def bindingTurn? : Transaction → Option BindingTurn
  | ⟨.createBinding row, _, .ok number, _⟩ => some (.taken row number)
  | ⟨.releaseBindingClaim number, _, .ok true, _⟩ => some (.released number)
  | ⟨.softDeleteBinding instanceId bindingId, _, .ok _, _⟩ => some (.deleted instanceId bindingId)
  | _ => none

theorem instanceTurn?_of_error {s s' : Store} {call : StoreCall} {e : StoreError} :
    instanceTurn? ⟨call, s, .error e, s'⟩ = none := by
  cases call <;> rfl

theorem bindingTurn?_of_error {s s' : Store} {call : StoreCall} {e : StoreError} :
    bindingTurn? ⟨call, s, .error e, s'⟩ = none := by
  cases call <;> rfl

theorem instanceTurn?_of_query {s s' : Store} {call : StoreCall} {value : call.Value}
    (asks : call.isQuery = true) : instanceTurn? ⟨call, s, .ok value, s'⟩ = none := by
  cases call <;> first | rfl | cases asks

theorem bindingTurn?_of_query {s s' : Store} {call : StoreCall} {value : call.Value}
    (asks : call.isQuery = true) : bindingTurn? ⟨call, s, .ok value, s'⟩ = none := by
  cases call <;> first | rfl | cases asks

theorem instanceTurn?_release {s s' : Store} {id : String} {claim : Bool} :
    instanceTurn? ⟨.releaseInstanceClaim id, s, .ok claim, s'⟩ =
      if claim then some (id, .released) else none := by
  cases claim <;> rfl

theorem bindingTurn?_release {s s' : Store} {number : Int} {claim : Bool} :
    bindingTurn? ⟨.releaseBindingClaim number, s, .ok claim, s'⟩ =
      if claim then some (.released number) else none := by
  cases claim <;> rfl

end Transaction

/-! ### Standing -/

/-- The situations of an instance, and those of a pair. -/
inductive Standing where
  /-- Never taken, or released since. -/
  | absent
  | live
  | deleted
  deriving DecidableEq, Repr

namespace Standing

def ofRow? : Option InstanceRow → Standing
  | none => absent
  | some row => if row.live then live else deleted

/-- Where an instance stands after a turn, its own or that of another. -/
def turn (id : String) (standing : Standing) : String × InstanceTurn → Standing
  | (i, t) =>
    if i = id then
      match t with
      | .taken => live
      | .released => absent
      | .deleted => deleted
    else standing

end Standing

/-- What a pair has: the number of its live binding, and whether an earlier one was deleted. -/
structure Tenure where
  held? : Option Int := none
  ended : Bool := false
  deriving DecidableEq, Repr

namespace Tenure

def standing (t : Tenure) : Standing :=
  if t.held?.isSome then .live else if t.ended then .deleted else .absent

/-- What a pair has after a turn, its own or that of another. -/
def turn (instanceId bindingId : String) (t : Tenure) : BindingTurn → Tenure
  | .taken row number => if row.isOf instanceId bindingId then { t with held? := some number } else t
  | .released number => if t.held? = some number then { t with held? := none } else t
  | .deleted i b => if i = instanceId ∧ b = bindingId then ⟨none, true⟩ else t

end Tenure

namespace Store

/-- Where an instance stands in a store. -/
def standing (s : Store) (id : String) : Standing := .ofRow? (s.row? id)

/-- What a pair has in a store. -/
def tenure (s : Store) (instanceId bindingId : String) : Tenure where
  held? := (s.liveBinding? instanceId bindingId).map (·.id)
  ended := s.bindings.any fun r => r.isOf instanceId bindingId && !r.live

variable {s s' : Store} {now : Instant} {call : StoreCall} {value : call.Value}
  {id instanceId bindingId : String}

/-! ### Turns of instances -/

theorem releasableInstance_id {row : InstanceRow} (h : releasableInstance id row = true) :
    row.id = id := by
  simp only [releasableInstance, Bool.and_eq_true, decide_eq_true_eq] at h
  exact h.1.1

theorem standing_withInstance {row : InstanceRow} (fresh : s.row? row.id = none) (id : String) :
    (s.withInstance { row with deletedAt? := none }).standing id =
      if row.id = id then .live else s.standing id := by
  rw [standing, row?_withInstance]
  split
  · rename_i same
    rw [← same, fresh]
    rfl
  · rw [Option.or_none, standing]

theorem standing_rewriteInstance {f : InstanceRow → InstanceRow} (keeps : ∀ r, (f r).id = r.id)
    (lives : ∀ r, (f r).live = r.live) (i id : String) :
    (s.rewriteInstance i f).standing id = s.standing id := by
  rw [standing, row?_rewriteInstance keeps, standing]
  cases s.row? id with
  | none => rfl
  | some row =>
    simp only [Option.map_some, Standing.ofRow?]
    split
    · rw [lives]
    · rfl

theorem standing_deleted (keys : s.DistinctInstances) {i : String} {old : InstanceRow}
    (live : s.liveInstance? i = some old) (now : Instant) (id : String) :
    (s.rewriteInstance i (deleted now)).standing id = if i = id then .deleted else s.standing id := by
  split
  · rename_i same
    rw [← same, standing, row?_rewriteInstance_self keys (deleted_id now) live]
    rfl
  · rename_i other
    rw [standing, row?_rewriteInstance_ne (deleted_id now) (Ne.symm other), standing]

/-- A release takes a claim away if there is one. -/
theorem standing_releaseInstanceClaim (keys : s.DistinctInstances) (i id : String) :
    (s.releaseInstanceClaim i).2.standing id =
      if (s.instances.any (releasableInstance i)) = true ∧ i = id then .absent
      else s.standing id := by
  rw [standing, row?_releaseInstanceClaim keys, standing]
  split
  · rename_i released
    obtain ⟨claim, rfl⟩ := released
    obtain ⟨row, held, releasable⟩ := List.any_eq_true.mp claim
    rw [(row?_eq_some_iff keys).mpr ⟨held, releasableInstance_id releasable⟩]
    simp [Option.filter, releasable, Standing.ofRow?]
  · rename_i kept
    cases found : s.row? id with
    | none => rfl
    | some row =>
      have unreleased : releasableInstance i row = false := by
        refine Bool.eq_false_iff.mpr fun releasable => kept ⟨?_, ?_⟩
        · exact List.any_eq_true.mpr ⟨row, row?_mem found, releasable⟩
        · rw [← releasableInstance_id releasable, row?_id found]
      simp [Option.filter, unreleased]

/-- After a call that succeeds, an instance stands where the turn that it tells of has put it. -/
theorem Effect.standing (effect : s.Effect now call value s') (keys : s.DistinctInstances)
    (id : String) :
    s'.standing id = (Transaction.instanceTurn? ⟨call, s, .ok value, s'⟩).elim (s.standing id)
      ((s.standing id).turn id) := by
  cases effect with
  | query asks =>
    rw [Transaction.instanceTurn?_of_query asks]
    rfl
  | createInstance fresh | claimInstance fresh => exact standing_withInstance fresh id
  | @saveInstance row =>
    exact standing_rewriteInstance (overwriteInstance_id now row) (live_overwriteInstance now row)
      row.id id
  | softDeleteInstance live => exact standing_deleted keys live now id
  | @releaseInstanceClaim i =>
    rw [standing_releaseInstanceClaim keys, Transaction.instanceTurn?_release]
    cases s.instances.any (releasableInstance i) with
    | true => simp [Standing.turn]
    | false => simp
  | createBinding | saveBinding | releaseBindingClaim | softDeleteBinding | createRequest
  | createPlan => rfl

/-! ### Turns of bindings -/

theorem releasableBinding_id {number : Int} {row : BindingRow}
    (h : releasableBinding number row = true) : row.id = number := by
  simp only [releasableBinding, Bool.and_eq_true, decide_eq_true_eq] at h
  exact h.1.1

theorem tenure_withBinding {row : BindingRow}
    (free : s.liveBindings row.instanceId row.bindingId = []) (i b : String) :
    (s.withBinding row).tenure i b =
      if row.isOf i b then { s.tenure i b with held? := some (s.lastBindingId + 1) }
      else s.tenure i b := by
  have added : (s.withBinding row).bindings = s.bindings ++ [s.numbered row] := rfl
  have ended : (s.withBinding row).bindings.any (fun r => r.isOf i b && !r.live) =
      s.bindings.any fun r => r.isOf i b && !r.live := by
    rw [added, List.any_append]
    simp [numbered, BindingRow.live]
  have same : (s.numbered row).isOf i b = row.isOf i b := rfl
  rw [tenure, ended, liveBinding?_eq_head?, liveBindings_concat added, same]
  cases ofPair : row.isOf i b with
  | true =>
    obtain ⟨rfl, rfl⟩ := isOf_iff.mp ofPair
    rw [free]
    rfl
  | false =>
    rw [Bool.false_and, if_neg Bool.false_ne_true, List.append_nil, ← liveBinding?_eq_head?]
    rfl

theorem tenure_overwriteBinding (now : Instant) (row : BindingRow) (p : BindingRow → Bool)
    (i b : String) :
    (s.rewriteBindings p (overwriteBinding now row)).tenure i b = s.tenure i b := by
  have live := liveBindings_rewriteBindings (s := s) (p := p)
    (isOf_overwriteBinding now row · i b) (live_overwriteBinding now row)
  have number : (BindingRow.id ∘ fun r => if p r && r.live then overwriteBinding now row r else r) =
      BindingRow.id :=
    funext fun r => rewrite_keeps (g := BindingRow.id) (overwriteBinding_id now row) _ r
  have ended : ((fun r : BindingRow => r.isOf i b && !r.live) ∘
      fun r => if p r && r.live then overwriteBinding now row r else r) =
      fun r => r.isOf i b && !r.live :=
    funext fun r => rewrite_keeps (f := overwriteBinding now row)
      (g := fun r => r.isOf i b && !r.live) (fun _ => rfl) _ r
  rw [tenure, liveBinding?_eq_head?, live, List.head?_map, Option.map_map, number,
    ← liveBinding?_eq_head?, rewriteBindings, List.any_map, ended, tenure]

theorem tenure_withdrawn {old : BindingRow} (held : old ∈ s.liveBindings instanceId bindingId)
    (now : Instant) (i b : String) :
    (s.rewriteBindings (·.isOf instanceId bindingId) (withdrawn now)).tenure i b =
      if instanceId = i ∧ bindingId = b then ⟨none, true⟩ else s.tenure i b := by
  obtain ⟨stored, ofPair, live⟩ := mem_liveBindings.mp held
  rw [tenure, liveBinding?_eq_head?]
  split
  · rename_i self
    obtain ⟨rfl, rfl⟩ := self
    have ended : (s.rewriteBindings (·.isOf instanceId bindingId) (withdrawn now)).bindings.any
        (fun r => r.isOf instanceId bindingId && !r.live) = true := by
      refine List.any_eq_true.mpr ⟨withdrawn now old, List.mem_map.mpr ⟨old, stored, ?_⟩, ?_⟩
      · simp [ofPair, live]
      · rw [isOf_withdrawn, ofPair, live_withdrawn]
        rfl
    rw [liveBindings_withdrawn_self, ended]
    rfl
  · rename_i other
    have apart : ¬(i = instanceId ∧ b = bindingId) := fun same => other ⟨same.1.symm, same.2.symm⟩
    have ended : ∀ r : BindingRow,
        ((fun r => r.isOf i b && !r.live) ∘ fun r =>
          if r.isOf instanceId bindingId && r.live then withdrawn now r else r) r =
        (r.isOf i b && !r.live) := by
      intro r
      simp only [Function.comp]
      split
      · rename_i ofOther
        have foreign : r.isOf i b = false := by
          refine Bool.eq_false_iff.mpr fun ofSelf => other ?_
          obtain ⟨rfl, rfl⟩ := isOf_iff.mp ofSelf
          exact (isOf_iff.mp (Bool.and_eq_true _ _ ▸ ofOther).1).imp Eq.symm Eq.symm
        rw [isOf_withdrawn, foreign, Bool.false_and, Bool.false_and]
      · rfl
    rw [liveBindings_withdrawn_ne now apart, ← liveBinding?_eq_head?, rewriteBindings, List.any_map,
      funext ended, tenure]

/-- A release takes the claim of its number away if there is one. -/
theorem tenure_releaseBindingClaim (keyed : s.Keyed) (number : Int) (i b : String) :
    (s.releaseBindingClaim number).2.tenure i b =
      if s.bindings.any (releasableBinding number) = true ∧ (s.tenure i b).held? = some number
      then { s.tenure i b with held? := none } else s.tenure i b := by
  have ended : (s.releaseBindingClaim number).2.bindings.any (fun r => r.isOf i b && !r.live) =
      s.bindings.any fun r => r.isOf i b && !r.live := by
    rw [Store.releaseBindingClaim, List.any_filter]
    congr 1
    funext r
    cases live : r.live <;> simp [releasableBinding, live]
  have live : (s.releaseBindingClaim number).2.liveBindings i b =
      (s.liveBindings i b).filter fun r => !releasableBinding number r := by
    simp only [liveBindings, Store.releaseBindingClaim, List.filter_filter, Bool.and_comm]
  rw [tenure, ended, liveBinding?_eq_head?, live, tenure, liveBinding?_eq_head?]
  cases rows : s.liveBindings i b with
  | nil => simp
  | cons row rest =>
    have held : row ∈ s.bindings := (mem_liveBindings.mp (rows ▸ List.mem_cons_self)).1
    obtain rfl := keyed.single.rest_eq_nil rows
    cases releasable : releasableBinding number row with
    | true =>
      have claim : s.bindings.any (releasableBinding number) = true :=
        List.any_eq_true.mpr ⟨row, held, releasable⟩
      simp [releasable, claim, releasableBinding_id releasable]
    | false =>
      -- What is released is a row of that number, and this one is not releasable.
      rw [if_neg]
      · simp [releasable]
      · rintro ⟨claim, same⟩
        obtain ⟨other, hother, released⟩ := List.any_eq_true.mp claim
        have same : other.id = row.id :=
          (releasableBinding_id released).trans (Option.some.inj same).symm
        rw [keyed.ascending.eq_of_id hother held same, releasable] at released
        cases released

/-- After a call that succeeds, a pair has what the turn that it tells of has made of it. -/
theorem Effect.tenure (effect : s.Effect now call value s') (keyed : s.Keyed) (i b : String) :
    s'.tenure i b = (Transaction.bindingTurn? ⟨call, s, .ok value, s'⟩).elim (s.tenure i b)
      ((s.tenure i b).turn i b) := by
  cases effect with
  | query asks =>
    rw [Transaction.bindingTurn?_of_query asks]
    rfl
  | createBinding free => exact tenure_withBinding free i b
  | @saveBinding row => exact tenure_overwriteBinding now row _ i b
  | softDeleteBinding held => exact tenure_withdrawn held now i b
  | @releaseBindingClaim number =>
    rw [tenure_releaseBindingClaim keyed, Transaction.bindingTurn?_release]
    cases s.bindings.any (releasableBinding number) with
    | true => simp [Tenure.turn]
    | false => simp
  | createInstance | claimInstance | saveInstance | softDeleteInstance | releaseInstanceClaim
  | createRequest | createPlan => rfl

end Store

namespace Transaction

variable {t : Transaction}

theorem Made.standing (made : t.Made) (keys : t.before.DistinctInstances) (id : String) :
    t.after.standing id =
      t.instanceTurn?.elim (t.before.standing id) ((t.before.standing id).turn id) := by
  induction made using Made.effects with
  | failed =>
    rw [instanceTurn?_of_error]
    rfl
  | succeeded made effect => exact effect.standing keys id

theorem Made.tenure (made : t.Made) (keyed : t.before.Keyed) (i b : String) :
    t.after.tenure i b =
      t.bindingTurn?.elim (t.before.tenure i b) ((t.before.tenure i b).turn i b) := by
  induction made using Made.effects with
  | failed =>
    rw [bindingTurn?_of_error]
    rfl
  | succeeded made effect => exact effect.tenure keyed i b

end Transaction

/-! ### Histories -/

namespace Store.History

variable {s s' : Store} {h : List Transaction}

theorem standing (run : History s h s') (keys : s.DistinctInstances) (id : String) :
    s'.standing id =
      (h.filterMap Transaction.instanceTurn?).foldl (Standing.turn id) (s.standing id) := by
  induction run with
  | start => rfl
  | call made _ ih =>
    rw [ih (made.keeps DistinctInstances.stable keys), made.standing keys, List.filterMap_cons]
    cases Transaction.instanceTurn? _ <;> rfl

theorem tenure (run : History s h s') (keyed : s.Keyed) (i b : String) :
    s'.tenure i b =
      (h.filterMap Transaction.bindingTurn?).foldl (Tenure.turn i b) (s.tenure i b) := by
  induction run with
  | start => rfl
  | call made _ ih =>
    rw [ih (made.keeps Keyed.stable keyed), made.tenure keyed, List.filterMap_cons]
    cases Transaction.bindingTurn? _ <;> rfl

end Store.History

end Brokerage
