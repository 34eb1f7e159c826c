import Brokerage.Proofs.Keyed
import Brokerage.Store.Call

/-! The table of instances, read through the row that it has under an identifier. Each write is a
new row at the end, a function applied to the live row of an instance, or the removal of a claim,
and changes what is found under one identifier only. -/

namespace Brokerage.Store

/-- The row of an instance, deleted or not. -/
def row? (s : Store) (id : String) : Option InstanceRow := s.instances.find? (·.id = id)

/-- The store with a further instance. -/
def withInstance (s : Store) (row : InstanceRow) : Store :=
  { s with instances := s.instances ++ [row] }

/-- The store with `f` applied to the live row of an instance. -/
def rewriteInstance (s : Store) (id : String) (f : InstanceRow → InstanceRow) : Store :=
  { s with instances := s.instances.map fun r => if r.id = id && r.live then f r else r }

/-- The store with a further request. -/
def withRequest (s : Store) (request : RequestRow) : Store := (s.createRequest request).2

/-- A row as it is left by its deletion. -/
def deleted (now : Instant) (row : InstanceRow) : InstanceRow :=
  { row with deletedAt? := some now, updatedAt := now }

@[simp] theorem deleted_id (now : Instant) (row : InstanceRow) : (deleted now row).id = row.id :=
  rfl

@[simp] theorem overwriteInstance_id (now : Instant) (new old : InstanceRow) :
    (overwriteInstance now new old).id = old.id :=
  rfl

theorem live_deleted (now : Instant) (row : InstanceRow) : (deleted now row).live = false := rfl

theorem live_overwriteInstance (now : Instant) (new old : InstanceRow) :
    (overwriteInstance now new old).live = old.live :=
  rfl

/-- No two instances share an identifier. -/
def DistinctInstances (s : Store) : Prop := (s.instances.map (·.id)).Nodup

instance (s : Store) : Decidable s.DistinctInstances :=
  inferInstanceAs (Decidable (s.instances.map (·.id)).Nodup)

variable {s : Store} {id : String} {row : InstanceRow} {f : InstanceRow → InstanceRow}

/-- What `g` sees of rows, and what `f` keeps, is kept where `f` rewrites some of the rows. -/
theorem rewrite_keeps {ρ β : Type} {f : ρ → ρ} {g : ρ → β} (keeps : ∀ r, g (f r) = g r)
    (picked : Bool) (r : ρ) : g (if picked then f r else r) = g r := by
  split
  · exact keeps r
  · rfl

/-! ### Rows by their identifier -/

theorem row?_congr {t : Store} (h : t.instances = s.instances) : t.row? id = s.row? id := by
  rw [row?, h, row?]

theorem row?_id (h : s.row? id = some row) : row.id = id := by
  simpa using List.find?_some h

theorem row?_mem (h : s.row? id = some row) : row ∈ s.instances := List.mem_of_find?_eq_some h

theorem row?_eq_none : s.row? id = none ↔ ∀ row ∈ s.instances, row.id ≠ id := by
  simp [row?]

theorem row?_eq_some_iff (keys : s.DistinctInstances) :
    s.row? id = some row ↔ row ∈ s.instances ∧ row.id = id := by
  constructor
  · intro h
    exact ⟨row?_mem h, row?_id h⟩
  · rintro ⟨hrow, rfl⟩
    exact find?_key_of_mem keys hrow

theorem liveInstance?_id (h : s.liveInstance? id = some row) : row.id = id := by
  have := List.find?_some h
  simp only [Bool.and_eq_true, decide_eq_true_eq] at this
  exact this.1

theorem liveInstance?_live (h : s.liveInstance? id = some row) : row.live = true := by
  have := List.find?_some h
  simp only [Bool.and_eq_true] at this
  exact this.2

theorem liveInstance?_mem (h : s.liveInstance? id = some row) : row ∈ s.instances :=
  List.mem_of_find?_eq_some h

/-- The live row of an instance is its row. -/
theorem row?_of_liveInstance? (keys : s.DistinctInstances) (h : s.liveInstance? id = some row) :
    s.row? id = some row :=
  (row?_eq_some_iff keys).mpr ⟨liveInstance?_mem h, liveInstance?_id h⟩

/-- The row of an instance is its live row if it is live at all. -/
theorem liveInstance?_of_row? (h : s.row? id = some row) (live : row.live = true) :
    s.liveInstance? id = some row := by
  obtain ⟨named, before, after, rows, others⟩ := List.find?_eq_some_iff_append.mp h
  refine List.find?_eq_some_iff_append.mpr
    ⟨by rw [named, live]; rfl, before, after, rows, fun r hr => ?_⟩
  rw [Bool.not_and, others r hr, Bool.true_or]

theorem liveInstance?_eq_none_of_row? (h : s.row? id = none) : s.liveInstance? id = none := by
  refine List.find?_eq_none.mpr fun row hrow => ?_
  simp [row?_eq_none.mp h row hrow]

theorem countInstances_eq_zero_iff : s.countInstances id = 0 ↔ s.liveInstance? id = none := by
  rw [countInstances, liveInstance?, List.countP_eq_zero, List.find?_eq_none]

/-- An instance without a row is not counted. -/
theorem countInstances_of_fresh (h : s.row? id = none) : s.countInstances id = 0 :=
  countInstances_eq_zero_iff.mpr (liveInstance?_eq_none_of_row? h)

theorem liveInstance?_eq_none_of_deleted (keys : s.DistinctInstances) (h : s.row? id = some row)
    (gone : row.live = false) : s.liveInstance? id = none := by
  refine Option.eq_none_iff_forall_ne_some.mpr fun other found => ?_
  obtain rfl : row = other := Option.some.inj (h.symm.trans (row?_of_liveInstance? keys found))
  cases gone.symm.trans (liveInstance?_live found)

/-! ### What the writes do to them -/

theorem row?_withRequest (request : RequestRow) : (s.withRequest request).row? id = s.row? id := rfl

theorem row?_withInstance :
    (s.withInstance row).row? id = (s.row? id).or (if row.id = id then some row else none) := by
  rw [row?, withInstance, List.find?_append]
  by_cases h : row.id = id <;> simp [h, row?]

theorem row?_rewriteInstance (keeps : ∀ r, (f r).id = r.id) (i : String) :
    (s.rewriteInstance i f).row? id =
      (s.row? id).map fun r => if r.id = i && r.live then f r else r := by
  have ids : ((fun r : InstanceRow => decide (r.id = id)) ∘
      fun r => if r.id = i && r.live then f r else r) = fun r => decide (r.id = id) :=
    funext fun r => rewrite_keeps (g := fun r : InstanceRow => decide (r.id = id))
      (fun r => by rw [keeps]) _ r
  rw [row?, rewriteInstance, List.find?_map, ids, row?]

theorem row?_rewriteInstance_ne (keeps : ∀ r, (f r).id = r.id) {i : String} (h : id ≠ i) :
    (s.rewriteInstance i f).row? id = s.row? id := by
  rw [row?_rewriteInstance keeps]
  cases found : s.row? id with
  | none => rfl
  | some row => simp [row?_id found, h]

/-- The live row of an instance after `f` has been applied to it. -/
theorem row?_rewriteInstance_self (keys : s.DistinctInstances) (keeps : ∀ r, (f r).id = r.id)
    (h : s.liveInstance? id = some row) : (s.rewriteInstance id f).row? id = some (f row) := by
  rw [row?_rewriteInstance keeps, row?_of_liveInstance? keys h]
  simp [liveInstance?_id h, liveInstance?_live h]

/-- The live row of an instance stays the live one where `f` keeps it so. -/
theorem liveInstance?_rewriteInstance_self (keeps : ∀ r, (f r).id = r.id)
    (lives : ∀ r, (f r).live = r.live) (h : s.liveInstance? id = some row) :
    (s.rewriteInstance id f).liveInstance? id = some (f row) := by
  have same : ((fun r : InstanceRow => decide (r.id = id) && r.live) ∘
      fun r => if r.id = id && r.live then f r else r) = fun r => decide (r.id = id) && r.live :=
    funext fun r => rewrite_keeps (g := fun r : InstanceRow => decide (r.id = id) && r.live)
      (fun r => by rw [keeps, lives]) _ r
  have found : s.instances.find? (fun r => decide (r.id = id) && r.live) = some row := h
  rw [liveInstance?, rewriteInstance, List.find?_map, same, found, Option.map_some,
    liveInstance?_id h, liveInstance?_live h]
  simp

theorem DistinctInstances.releaseInstanceClaim (keys : s.DistinctInstances) (i : String) :
    (s.releaseInstanceClaim i).2.DistinctInstances :=
  List.Nodup.sublist (List.filter_sublist.map _) keys

/-- A claim that is released is not found any more, and nothing else changes. -/
theorem row?_releaseInstanceClaim (keys : s.DistinctInstances) (i : String) :
    (s.releaseInstanceClaim i).2.row? id =
      (s.row? id).filter fun r => !releasableInstance i r := by
  ext row
  rw [row?_eq_some_iff (keys.releaseInstanceClaim i), Option.filter_eq_some_iff,
    row?_eq_some_iff keys]
  simp only [Store.releaseInstanceClaim, List.mem_filter]
  exact and_right_comm

theorem row?_releaseInstanceClaim_ne (keys : s.DistinctInstances) {i : String} (h : id ≠ i) :
    (s.releaseInstanceClaim i).2.row? id = s.row? id := by
  rw [row?_releaseInstanceClaim keys]
  cases found : s.row? id with
  | none => rfl
  | some row => simp [Option.filter, releasableInstance, row?_id found, h]

theorem row?_releaseInstanceClaim_self (keys : s.DistinctInstances)
    (h : s.liveInstance? id = some row) (pending : row.status = .pending) :
    (s.releaseInstanceClaim id).2.row? id = none := by
  have text : row.statusText = InstanceStatus.pending.text :=
    InstanceStatus.ofText_eq_pending_iff.mp pending
  rw [row?_releaseInstanceClaim keys, row?_of_liveInstance? keys h]
  simp [Option.filter, releasableInstance, liveInstance?_id h, liveInstance?_live h, text]

/-! ### The writes on a row that was just inserted -/

section Inserted

variable (fresh : s.row? row.id = none) (live : row.live = true)
include fresh live

theorem liveInstance?_withInstance : (s.withInstance row).liveInstance? row.id = some row := by
  have none := liveInstance?_eq_none_of_row? fresh
  rw [liveInstance?] at none ⊢
  simp [withInstance, none, live]

theorem rewriteInstance_withInstance :
    (s.withInstance row).rewriteInstance row.id f = s.withInstance (f row) := by
  have others : s.instances.map (fun r => if r.id = row.id && r.live then f r else r) =
      s.instances := by
    refine (List.map_congr_left fun r hr => ?_).trans (List.map_id s.instances)
    simp [row?_eq_none.mp fresh r hr]
  simp only [rewriteInstance, withInstance, List.map_append, others]
  simp [live]

theorem releaseInstanceClaim_withInstance (pending : row.statusText = InstanceStatus.pending.text) :
    ((s.withInstance row).releaseInstanceClaim row.id).2 = s := by
  have others : s.instances.filter (fun r => !releasableInstance row.id r) = s.instances := by
    refine List.filter_eq_self.mpr fun r hr => ?_
    simp [releasableInstance, row?_eq_none.mp fresh r hr]
  have self : releasableInstance row.id row = true := by simp [releasableInstance, live, pending]
  simp [releaseInstanceClaim, withInstance, others, self]

end Inserted

/-! ### Calls -/

theorem step_getInstance (now : Instant) (id : String) :
    s.step now (.getInstance id) = (s.getInstance id, s) := by
  simp only [step, answer, reading]
  cases s.getInstance id <;> rfl

theorem step_claimInstance_of_fresh (now : Instant) (request : RequestRow)
    (fresh : s.row? row.id = none) (live : row.live = true) :
    s.step now (.claimInstance row request) =
      (.ok (s.lastRequestId + 1), (s.withRequest request).withInstance row) := by
  have untaken : s.instances.any (·.id = row.id) = false := by
    simpa using row?_eq_none.mp fresh
  have undeleted : { row with deletedAt? := none } = row := by
    simp only [InstanceRow.live, Option.isNone_iff_eq_none] at live
    rw [← live]
  simp [step, answer, Store.claimInstance, createInstance, untaken, undeleted, Except.map,
    createRequest, withRequest, withInstance]

theorem step_claimInstance_of_taken (now : Instant) (request : RequestRow)
    (taken : s.row? row.id ≠ none) :
    ∃ message, s.step now (.claimInstance row request) = (.error (.constraint message), s) := by
  have known : s.instances.any (·.id = row.id) = true := by
    rw [ne_eq, row?_eq_none] at taken
    simpa using taken
  exact ⟨_, by simp [step, answer, Store.claimInstance, createInstance, known, Except.map]; rfl⟩

theorem step_createInstance_of_taken (now : Instant) (taken : s.row? row.id ≠ none) :
    ∃ message, s.step now (.createInstance row) = (.error (.constraint message), s) := by
  have known : s.instances.any (·.id = row.id) = true := by
    rw [ne_eq, row?_eq_none] at taken
    simpa using taken
  exact ⟨_, by simp [step, answer, createInstance, known, writing, Except.map]; rfl⟩

theorem updateInstance_of_absent (h : s.liveInstance? id = none) :
    s.updateInstance id f = .error (instanceNotFound id) := by
  have unknown : s.instances.any (fun r => r.id = id && r.live) = false := by
    simpa [liveInstance?] using h
  rw [updateInstance, unknown]
  rfl

theorem step_saveInstance_of_absent (now : Instant) (h : s.liveInstance? row.id = none) :
    s.step now (.saveInstance row) = (.error (instanceNotFound row.id), s) := by
  simp only [step, answer, saveInstance, updateInstance_of_absent h, writing]
  rfl

theorem step_softDeleteInstance_of_absent (now : Instant) (h : s.liveInstance? id = none) :
    s.step now (.softDeleteInstance id) = (.error (instanceNotFound id), s) := by
  simp only [step, answer, softDeleteInstance, updateInstance_of_absent h, writing]
  rfl

theorem step_releaseInstanceClaim_of_absent (now : Instant) (h : s.liveInstance? id = none) :
    s.step now (.releaseInstanceClaim id) = (.ok false, s) := by
  have others : ∀ r ∈ s.instances, releasableInstance id r = false := by
    intro r hr
    have dead := List.find?_eq_none.mp h r hr
    cases same : decide (r.id = id) <;> simp_all [releasableInstance]
  have unreleased : s.instances.any (releasableInstance id) = false :=
    List.any_eq_false.mpr fun r hr => by simp [others r hr]
  have kept : s.instances.filter (fun r => !releasableInstance id r) = s.instances :=
    List.filter_eq_self.mpr fun r hr => by simp [others r hr]
  simp [step, answer, releaseInstanceClaim, unreleased, kept]

theorem updateInstance_of_live (h : s.liveInstance? id = some row) :
    s.updateInstance id f = .ok (s.rewriteInstance id f) := by
  have known : s.instances.any (fun r => r.id = id && r.live) = true :=
    List.any_eq_true.mpr ⟨row, liveInstance?_mem h, by
      simp [liveInstance?_id h, liveInstance?_live h]⟩
  rw [updateInstance, known]
  rfl

theorem step_saveInstance_of_live (now : Instant) {old : InstanceRow}
    (h : s.liveInstance? row.id = some old) :
    s.step now (.saveInstance row) =
      (.ok (), s.rewriteInstance row.id (overwriteInstance now row)) := by
  simp only [step, answer, saveInstance, updateInstance_of_live h, writing]
  rfl

theorem step_softDeleteInstance_of_live (now : Instant) (h : s.liveInstance? id = some row) :
    s.step now (.softDeleteInstance id) = (.ok (), s.rewriteInstance id (deleted now)) := by
  simp only [step, answer, softDeleteInstance, updateInstance_of_live h, writing]
  rfl

end Brokerage.Store
