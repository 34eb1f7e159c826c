import Brokerage.Proofs.Broker.Performance
import Brokerage.Proofs.Store.Turns

/-! Claims exclude each other. Whoever takes an instance, or a pair, finds it free, and it stays taken
until it is released or deleted. Bindings are taken under numbers that ascend for ever, so that a
number that was given once belongs to one row and to no other. -/

namespace Brokerage

namespace Transaction

variable {t : Transaction} {id : String} {row : BindingRow} {number : Int}

/-! ### What is taken was free -/

theorem Made.of_instanceTaken (made : t.Made) (taken : t.instanceTurn? = some (id, .taken)) :
    t.before.standing id = .absent := by
  induction made using Made.effects with
  | failed => cases instanceTurn?_of_error.symm.trans taken
  | succeeded made effect =>
    cases effect with
    | createInstance fresh | claimInstance fresh =>
      cases taken
      rw [Store.standing, fresh]
      rfl
    | query asks => cases (instanceTurn?_of_query asks).symm.trans taken
    | releaseInstanceClaim =>
      rw [instanceTurn?_release] at taken
      split at taken <;> cases taken
    | _ => cases taken

/-- A binding that is taken is the live one of its pair from then on, which had none before, and its
number is the next one. -/
theorem Made.of_bindingTaken (made : t.Made) (taken : t.bindingTurn? = some (.taken row number)) :
    t.before.liveBindings row.instanceId row.bindingId = [] ∧
      number = t.before.lastBindingId + 1 ∧ t.after = t.before.withBinding row := by
  induction made using Made.effects with
  | failed => cases bindingTurn?_of_error.symm.trans taken
  | succeeded made effect =>
    cases effect with
    | createBinding free =>
      cases taken
      exact ⟨free, rfl, rfl⟩
    | query asks => cases (bindingTurn?_of_query asks).symm.trans taken
    | releaseBindingClaim =>
      rw [bindingTurn?_release] at taken
      split at taken <;> cases taken
    | _ => cases taken

theorem Made.held?_of_bindingTaken (made : t.Made)
    (taken : t.bindingTurn? = some (.taken row number)) :
    (t.before.tenure row.instanceId row.bindingId).held? = none := by
  rw [Store.tenure, Store.liveBinding?_eq_head?, (made.of_bindingTaken taken).1]
  rfl

theorem Made.held?_after_bindingTaken (made : t.Made) (keyed : t.before.Keyed)
    (taken : t.bindingTurn? = some (.taken row number)) :
    (t.after.tenure row.instanceId row.bindingId).held? = some number := by
  have ofPair : row.isOf row.instanceId row.bindingId = true := Store.isOf_iff.mpr ⟨rfl, rfl⟩
  rw [made.tenure keyed, taken, Option.elim, Tenure.turn, if_pos ofPair]

/-! ### What is taken stays taken -/

/-- An instance that is there is there until it is released. -/
theorem Made.standing_ne_absent (made : t.Made) (keys : t.before.DistinctInstances)
    (there : t.before.standing id ≠ .absent) (unreleased : t.instanceTurn? ≠ some (id, .released)) :
    t.after.standing id ≠ .absent := by
  rw [made.standing keys]
  cases turned : t.instanceTurn? with
  | none => exact there
  | some turn =>
    obtain ⟨i, turn⟩ := turn
    simp only [Option.elim, Standing.turn]
    split
    · rename_i same
      cases turn with
      | taken | deleted => rintro ⟨⟩
      | released => exact absurd (by rw [turned, same]) unreleased
    · exact there

/-- A pair keeps its live binding until that is deleted, or released by its number. -/
theorem Made.tenure_held {instanceId bindingId : String} (made : t.Made) (keyed : t.before.Keyed)
    (held : (t.before.tenure instanceId bindingId).held? = some number)
    (undeleted : t.bindingTurn? ≠ some (.deleted instanceId bindingId))
    (unreleased : t.bindingTurn? ≠ some (.released number)) :
    (t.after.tenure instanceId bindingId).held? = some number := by
  rw [made.tenure keyed]
  cases turned : t.bindingTurn? with
  | none => exact held
  | some turn =>
    cases turn with
    | taken row next =>
      simp only [Option.elim, Tenure.turn]
      split
      · rename_i ofPair
        obtain ⟨rfl, rfl⟩ := Store.isOf_iff.mp ofPair
        cases (made.held?_of_bindingTaken turned).symm.trans held
      · exact held
    | released other =>
      simp only [Option.elim, Tenure.turn]
      split
      · rename_i same
        cases held.symm.trans same
        exact absurd turned unreleased
      · exact held
    | deleted i b =>
      simp only [Option.elim, Tenure.turn]
      split
      · rename_i same
        obtain ⟨rfl, rfl⟩ := same
        exact absurd turned undeleted
      · exact held

/-! ### Numbers -/

/-- The number under which the call took a binding. -/
def number? (t : Transaction) : Option Int :=
  t.bindingTurn?.bind fun
    | .taken _ number => some number
    | _ => none

theorem Made.lastBindingId_eq (made : t.Made) :
    t.after.lastBindingId = t.number?.getD t.before.lastBindingId ∧
      ∀ number, t.number? = some number → t.before.lastBindingId < number := by
  induction made using Made.effects with
  | failed =>
    rw [number?, bindingTurn?_of_error]
    exact ⟨rfl, nofun⟩
  | succeeded made effect =>
    cases effect with
    | createBinding =>
      refine ⟨rfl, fun number given => ?_⟩
      cases given
      exact Int.lt_succ _
    | query asks =>
      rw [number?, bindingTurn?_of_query asks]
      exact ⟨rfl, nofun⟩
    | releaseBindingClaim =>
      rw [number?, bindingTurn?_release]
      split <;> exact ⟨rfl, nofun⟩
    | _ => exact ⟨rfl, nofun⟩

end Transaction

/-! ### Handles -/

/-- The number by which the call writes a binding. -/
def StoreCall.handle? : StoreCall → Option Int
  | saveBinding row => some row.id
  | releaseBindingClaim number => some number
  | _ => none

/-- The binding was made from the row; what is saved later may differ. -/
structure BindingRow.MadeFrom (r row : BindingRow) : Prop where
  instanceId : r.instanceId = row.instanceId
  bindingId : r.bindingId = row.bindingId
  serviceId : r.serviceId = row.serviceId
  createdAt : r.createdAt = row.createdAt

/-- A number that was given to a row, and will be given to no other. -/
structure Store.Given (row : BindingRow) (number : Int) (s : Store) : Prop where
  past : number ≤ s.lastBindingId
  made : ∀ r ∈ s.bindings, r.id = number → r.MadeFrom row

namespace Store.Given

variable {s : Store} {row : BindingRow} {number : Int}

theorem rewriteBindings {f : BindingRow → BindingRow} (given : s.Given row number)
    (keeps : ∀ r, (f r).id = r.id) (same : ∀ r : BindingRow, r.MadeFrom row → (f r).MadeFrom row)
    (p : BindingRow → Bool) : (s.rewriteBindings p f).Given row number where
  past := given.past
  made r hr named := by
    obtain ⟨old, held, rfl⟩ := List.mem_map.mp hr
    by_cases picked : (p old && old.live) = true
    · rw [if_pos picked] at named ⊢
      exact same old (given.made old held (keeps old ▸ named))
    · rw [if_neg picked] at named ⊢
      exact given.made old held named

theorem stable : Stable (Given row number) := by
  intro s now call value s' given effect
  cases effect with
  | @createBinding new =>
    refine ⟨Int.le_trans given.past (Int.le_of_lt (Int.lt_succ _)), fun r hr named => ?_⟩
    have held : r ∈ s.bindings ++ [s.numbered new] := hr
    rcases List.mem_append.mp held with held | added
    · exact given.made r held named
    · rw [List.mem_singleton.mp added] at named
      have past := given.past
      rw [← named] at past
      exact absurd past (Int.not_le.mpr (Int.lt_succ _))
  | @saveBinding new =>
    exact given.rewriteBindings (overwriteBinding_id now new) (fun r h => ⟨h.1, h.2, h.3, h.4⟩) _
  | softDeleteBinding =>
    exact given.rewriteBindings (withdrawn_id now) (fun r h => ⟨h.1, h.2, h.3, h.4⟩) _
  | releaseBindingClaim => exact ⟨given.past, fun r hr => given.made r (List.mem_filter.mp hr).1⟩
  | query | createInstance | claimInstance | saveInstance | softDeleteInstance
  | releaseInstanceClaim | createRequest | createPlan => exact ⟨given.past, given.made⟩

theorem withBinding (numbers : s.NumberedBindings) (row : BindingRow) :
    (s.withBinding row).Given row (s.lastBindingId + 1) where
  past := Int.le_refl _
  made r hr named := by
    have held : r ∈ s.bindings ++ [s.numbered row] := hr
    rcases List.mem_append.mp held with held | added
    · exact absurd named (id_ne_next numbers held)
    · rw [List.mem_singleton.mp added]
      exact ⟨rfl, rfl, rfl, rfl⟩

end Store.Given

/-- What is done to a binding by its number is not done to others. -/
theorem Store.filter_rewriteBindings_ne (s : Store) {f : BindingRow → BindingRow}
    (keeps : ∀ r, (f r).id = r.id) (number : Int) :
    (s.rewriteBindings (·.id = number) f).bindings.filter (·.id ≠ number) =
      s.bindings.filter (·.id ≠ number) := by
  rw [rewriteBindings, List.filter_map]
  have ids : s.bindings.filter ((fun r => decide (r.id ≠ number)) ∘
      fun r => if decide (r.id = number) && r.live then f r else r) =
      s.bindings.filter (·.id ≠ number) := by
    refine List.filter_congr fun r _ => ?_
    exact rewrite_keeps (g := fun r : BindingRow => decide (r.id ≠ number))
      (fun r => by rw [keeps]) _ r
  rw [ids]
  refine (List.map_congr_left fun r hr => ?_).trans (List.map_id _)
  simp [of_decide_eq_true (List.mem_filter.mp hr).2]

/-- The call changed nothing but the one row that was made from `row` under a number. -/
structure Transaction.Confined (row : BindingRow) (number : Int) (t : Transaction) : Prop where
  rest : t.after = { t.before with bindings := t.after.bindings }
  others : t.after.bindings.filter (·.id ≠ number) = t.before.bindings.filter (·.id ≠ number)
  apart : (t.before.bindings.map (·.id)).Nodup
  made : ∀ r ∈ t.before.bindings, r.id = number → r.MadeFrom row

/-- A call by a number that was given to a row is confined to that row. -/
theorem Transaction.Made.confined {t : Transaction} {row : BindingRow} {number : Int} (made : t.Made)
    (keyed : t.before.Keyed) (given : t.before.Given row number)
    (handle : t.call.handle? = some number) : t.Confined row number := by
  have apart : (t.before.bindings.map (·.id)).Nodup := keyed.ascending.imp Int.ne_of_lt
  induction made using Made.effects with
  | failed => exact ⟨rfl, rfl, apart, given.made⟩
  | @succeeded s now _ _ _ made effect =>
    cases effect with
    | query => exact ⟨rfl, rfl, apart, given.made⟩
    | @saveBinding new =>
      cases handle
      have others := s.filter_rewriteBindings_ne (Store.overwriteBinding_id now new) new.id
      exact ⟨rfl, others, apart, given.made⟩
    | releaseBindingClaim =>
      cases handle
      refine ⟨rfl, ?_, apart, given.made⟩
      -- Only a row of that number can have been taken out.
      simp only [Store.releaseBindingClaim, List.filter_filter]
      refine List.filter_congr fun r _ => ?_
      by_cases named : r.id = number
      · simp [named]
      · simp [named, Store.releasableBinding]
    | _ => cases handle

/-! ### Histories -/

namespace Store.History

variable {s s' : Store} {h : List Transaction} {id : String} {number : Int}

theorem standing_ne_absent (run : History s h s') (keys : s.DistinctInstances)
    (there : s.standing id ≠ .absent)
    (unreleased : ∀ r ∈ h, r.instanceTurn? ≠ some (id, .released)) : s'.standing id ≠ .absent := by
  induction run with
  | start => exact there
  | call made _ ih =>
    obtain ⟨first, others⟩ := List.forall_mem_cons.mp unreleased
    exact ih (made.keeps DistinctInstances.stable keys)
      (made.standing_ne_absent keys there first) others

theorem tenure_held {instanceId bindingId : String} (run : History s h s') (keyed : s.Keyed)
    (held : (s.tenure instanceId bindingId).held? = some number)
    (kept : ∀ r ∈ h, r.bindingTurn? ≠ some (.deleted instanceId bindingId) ∧
      r.bindingTurn? ≠ some (.released number)) :
    (s'.tenure instanceId bindingId).held? = some number := by
  induction run with
  | start => exact held
  | call made _ ih =>
    obtain ⟨⟨undeleted, unreleased⟩, others⟩ := List.forall_mem_cons.mp kept
    exact ih (made.keeps Keyed.stable keyed)
      (made.tenure_held keyed held undeleted unreleased) others

theorem numbers_ascend (run : History s h s') :
    (∀ number ∈ h.filterMap Transaction.number?, s.lastBindingId < number) ∧
      (h.filterMap Transaction.number?).Pairwise (· < ·) := by
  induction run with
  | start => exact ⟨List.forall_mem_nil _, .nil⟩
  | @call t later _ made _ ih =>
    obtain ⟨last, ahead⟩ := made.lastBindingId_eq
    obtain ⟨above, ascend⟩ := ih
    rw [last] at above
    rw [List.filterMap_cons]
    cases given : t.number? with
    | none =>
      rw [given] at above
      exact ⟨above, ascend⟩
    | some number =>
      rw [given] at above
      have next := ahead number given
      refine ⟨List.forall_mem_cons.mpr ⟨next, fun n hn => ?_⟩, .cons above ascend⟩
      exact Int.lt_trans next (above n hn)

end Store.History

/-- Claims exclude each other, however many callers there are and however their calls follow on one
another. An instance is taken again only after a release of it, and a pair only after its deletion or
a release by the number under which it was taken. Numbers ascend, and what is done by a number that
was given once is done to no row but the one that was made under it. -/
theorem Store.claims_exclude {s t : Store} {h : List Transaction} (run : History s h t)
    (keyed : s.Keyed) :
    (∀ c between d, c :: (between ++ [d]) <:+: h →
      (∀ id, c.instanceTurn? = some (id, .taken) → d.instanceTurn? = some (id, .taken) →
        ∃ r ∈ between, r.instanceTurn? = some (id, .released)) ∧
      (∀ row row' m n, c.bindingTurn? = some (.taken row m) →
        d.bindingTurn? = some (.taken row' n) →
        row'.isOf row.instanceId row.bindingId = true →
        ∃ r ∈ between, r.bindingTurn? = some (.deleted row.instanceId row.bindingId) ∨
          r.bindingTurn? = some (.released m)) ∧
      ∀ row number, c.bindingTurn? = some (.taken row number) →
        d.call.handle? = some number → d.Confined row number) ∧
    (h.filterMap Transaction.number?).Pairwise (· < ·) := by
  refine ⟨fun c between d among => ?_, run.numbers_ascend.2⟩
  obtain ⟨made, made', middle, past, first⟩ := run.of_infix among
  have before : c.before.Keyed := first.keyed keyed
  have after : c.after.Keyed := made.keeps Keyed.stable before
  refine ⟨fun id taken again => ?_, fun row row' m n taken again same => ?_,
    fun row number taken handle => ?_⟩
  · -- Without a release the instance is still there when it is taken again.
    refine Classical.byContradiction fun unreleased => ?_
    simp only [not_exists, not_and] at unreleased
    have there : c.after.standing id ≠ .absent := by
      rw [made.standing before.instances, taken, Option.elim, Standing.turn, if_pos rfl]
      rintro ⟨⟩
    exact middle.standing_ne_absent after.instances there unreleased (made'.of_instanceTaken again)
  · -- Likewise the binding is still the live one of its pair.
    obtain ⟨hi, hb⟩ := isOf_iff.mp same
    refine Classical.byContradiction fun kept => ?_
    simp only [not_exists, not_and, not_or] at kept
    have held := middle.tenure_held after (made.held?_after_bindingTaken before taken) kept
    have free := made'.held?_of_bindingTaken again
    rw [hi, hb] at free
    cases held.symm.trans free
  · obtain ⟨-, rfl, stored⟩ := made.of_bindingTaken taken
    have given : c.after.Given row (c.before.lastBindingId + 1) := by
      rw [stored]
      exact Given.withBinding before.numbers row
    exact made'.confined (middle.keyed after) (middle.keeps Given.stable given) handle

/-- An instance and a binding that are claimed, released and claimed again, before the first claimant
saves the binding under the number that it got. -/
theorem Store.claims_exclude_released :
    let row : InstanceRow := .claim 0 "i" "bucket" "small"
    let binding : BindingRow := .claim 0 "i" "j" "bucket"
    let request : RequestRow := .of 0 "i" Sample.request.toJson
    let calls : List (Instant × StoreCall) :=
      [(0, .claimInstance row request), (1, .releaseInstanceClaim "i"),
        (2, .claimInstance row request), (3, .createBinding binding), (4, .releaseBindingClaim 1),
        (5, .createBinding binding), (6, .saveBinding { binding with id := 1 })]
    ∃ c r d c' r' d' w, Store.empty.transactions calls = [c, r, d, c', r', d', w] ∧
      (c.instanceTurn? = some ("i", .taken) ∧ d.instanceTurn? = some ("i", .taken) ∧
        ∃ q ∈ [r], q.instanceTurn? = some ("i", .released)) ∧
      (c'.bindingTurn? = some (.taken binding 1) ∧ d'.bindingTurn? = some (.taken binding 2) ∧
        ∃ q ∈ [r'], q.bindingTurn? = some (.deleted "i" "j") ∨
          q.bindingTurn? = some (.released 1)) ∧
      w.Confined binding 1 ∧ w.before.bindings.length = 1 := by
  intro row binding request calls
  obtain ⟨exclude, -⟩ := claims_exclude (Store.empty.history_after calls) Keyed.empty
  refine ⟨_, _, _, _, _, _, _, rfl, ⟨rfl, rfl, ?_⟩, ⟨rfl, rfl, ?_⟩, ?_, rfl⟩
  · exact (exclude _ [_] _ ⟨[], [_, _, _, _], rfl⟩).1 "i" rfl rfl
  · exact (exclude _ [_] _ ⟨[_, _, _], [_], rfl⟩).2.1 binding binding 1 2 rfl rfl (by decide)
  · exact (exclude _ [_, _] _ ⟨[_, _, _], [], rfl⟩).2.2 binding 1 rfl rfl

end Brokerage
