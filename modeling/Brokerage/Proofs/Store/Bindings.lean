import Brokerage.Proofs.Store.Instances

/-! The table of bindings, read through the live rows that it has for a pair. Rows are claimed under
numbers that no earlier row has, so that what is done by number is done to one row. -/

namespace Brokerage.Store

/-- The store with a further binding, under the next number. -/
def withBinding (s : Store) (row : BindingRow) : Store := (s.insertBinding row).2

/-- A row as it is stored under the next number. -/
def numbered (s : Store) (row : BindingRow) : BindingRow :=
  { row with id := s.lastBindingId + 1, deletedAt? := none }

/-- The store with `f` applied to the live bindings that `p` picks. -/
def rewriteBindings (s : Store) (p : BindingRow → Bool) (f : BindingRow → BindingRow) : Store :=
  { s with bindings := s.bindings.map fun r => if p r && r.live then f r else r }

/-- A binding with the credentials and the status of another row. -/
def overwriteBinding (now : Instant) (new old : BindingRow) : BindingRow :=
  { old with otherDetails := new.otherDetails, statusText := new.statusText, updatedAt := now }

/-- A binding as it is left by its deletion. -/
def withdrawn (now : Instant) (row : BindingRow) : BindingRow :=
  { row with deletedAt? := some now, updatedAt := now }

@[simp] theorem overwriteBinding_id (now : Instant) (new old : BindingRow) :
    (overwriteBinding now new old).id = old.id :=
  rfl

theorem live_overwriteBinding (now : Instant) (new old : BindingRow) :
    (overwriteBinding now new old).live = old.live :=
  rfl

theorem isOf_overwriteBinding (now : Instant) (new old : BindingRow) (instanceId bindingId : String) :
    (overwriteBinding now new old).isOf instanceId bindingId = old.isOf instanceId bindingId :=
  rfl

@[simp] theorem withdrawn_id (now : Instant) (row : BindingRow) : (withdrawn now row).id = row.id :=
  rfl

/-- The live rows of a pair. -/
def liveBindings (s : Store) (instanceId bindingId : String) : List BindingRow :=
  s.bindings.filter fun r => r.isOf instanceId bindingId && r.live

/-- No binding has a number that is still to be given. -/
def NumberedBindings (s : Store) : Prop := ∀ row ∈ s.bindings, row.id ≤ s.lastBindingId

variable {s : Store} {row : BindingRow} {p : BindingRow → Bool} {f : BindingRow → BindingRow}
  {instanceId bindingId : String}

/-! ### Rows by their pair -/

theorem countBindings_eq_length :
    s.countBindings instanceId bindingId = (s.liveBindings instanceId bindingId).length :=
  List.countP_eq_length_filter

theorem liveBinding?_eq_head? :
    s.liveBinding? instanceId bindingId = (s.liveBindings instanceId bindingId).head? := by
  simp [liveBinding?, liveBindings, List.head?_filter]

theorem mem_liveBindings :
    row ∈ s.liveBindings instanceId bindingId ↔
      row ∈ s.bindings ∧ row.isOf instanceId bindingId = true ∧ row.live = true := by
  simp [liveBindings]

theorem liveBinding?_mem (h : s.liveBinding? instanceId bindingId = some row) :
    row ∈ s.bindings ∧ row.isOf instanceId bindingId = true ∧ row.live = true := by
  rw [liveBinding?_eq_head?] at h
  exact mem_liveBindings.mp (List.mem_of_head? h)

theorem liveBinding?_eq_none :
    s.liveBinding? instanceId bindingId = none ↔ s.countBindings instanceId bindingId = 0 := by
  rw [liveBinding?_eq_head?, countBindings_eq_length, List.head?_eq_none_iff,
    List.length_eq_zero_iff]

theorem isOf_iff : row.isOf instanceId bindingId = true ↔
    row.instanceId = instanceId ∧ row.bindingId = bindingId := by
  simp [BindingRow.isOf]

/-! ### The writes on a row that was just inserted -/

theorem numbered_mem_withBinding (s : Store) (row : BindingRow) :
    s.numbered row ∈ (s.withBinding row).bindings := by
  simp [withBinding, insertBinding, numbered]

section Inserted

variable (numbers : s.NumberedBindings)
include numbers

/-- No row but the one just inserted has its number. -/
theorem id_ne_next {r : BindingRow} (h : r ∈ s.bindings) : r.id ≠ s.lastBindingId + 1 := by
  have := numbers r h
  omega

theorem rewriteBindings_withBinding :
    (s.withBinding row).rewriteBindings (·.id = s.lastBindingId + 1) f =
      { s with
        bindings := s.bindings ++ [f (s.numbered row)]
        lastBindingId := s.lastBindingId + 1 } := by
  have others : s.bindings.map (fun r =>
      if decide (r.id = s.lastBindingId + 1) && r.live then f r else r) = s.bindings := by
    refine (List.map_congr_left fun r hr => ?_).trans (List.map_id s.bindings)
    simp [id_ne_next numbers hr]
  simp only [rewriteBindings, withBinding, insertBinding, List.map_append, others]
  simp [numbered, BindingRow.live]

theorem releaseBindingClaim_withBinding
    (pending : row.statusText = BindingStatus.pending.text) :
    ((s.withBinding row).releaseBindingClaim (s.lastBindingId + 1)).2 =
      { s with lastBindingId := s.lastBindingId + 1 } := by
  have others : s.bindings.filter (fun r => !releasableBinding (s.lastBindingId + 1) r) =
      s.bindings := by
    refine List.filter_eq_self.mpr fun r hr => ?_
    simp [releasableBinding, id_ne_next numbers hr]
  have self : releasableBinding (s.lastBindingId + 1) (s.numbered row) = true := by
    simp [releasableBinding, numbered, pending, BindingRow.live]
  rw [numbered] at self
  simp [releaseBindingClaim, withBinding, insertBinding, others, self]

end Inserted

/-! ### The live rows of a pair after a write -/

theorem liveBindings_congr {t : Store} (h : t.bindings = s.bindings) :
    t.liveBindings instanceId bindingId = s.liveBindings instanceId bindingId := by
  rw [liveBindings, h, liveBindings]

theorem liveBindings_concat {t : Store} (h : t.bindings = s.bindings ++ [row]) :
    t.liveBindings instanceId bindingId = s.liveBindings instanceId bindingId ++
      if row.isOf instanceId bindingId && row.live then [row] else [] := by
  rw [liveBindings, h, List.filter_append, liveBindings, List.filter_cons, List.filter_nil]

/-- A rewriting that leaves pairs and deletions alone rewrites the live rows of a pair. -/
theorem liveBindings_rewriteBindings
    (same : ∀ r, (f r).isOf instanceId bindingId = r.isOf instanceId bindingId)
    (lives : ∀ r, (f r).live = r.live) :
    (s.rewriteBindings p f).liveBindings instanceId bindingId =
      (s.liveBindings instanceId bindingId).map fun r => if p r && r.live then f r else r := by
  rw [liveBindings, rewriteBindings, List.filter_map, liveBindings]
  refine congrArg (List.map _) (List.filter_congr fun r _ => ?_)
  exact rewrite_keeps (g := fun r : BindingRow => r.isOf instanceId bindingId && r.live)
    (fun r => by rw [same, lives]) _ r

/-- The binding that a pair is read as stays so where `f` rewrites it. -/
theorem liveBinding?_rewriteBindings_self
    (same : ∀ r, (f r).isOf instanceId bindingId = r.isOf instanceId bindingId)
    (lives : ∀ r, (f r).live = r.live) (h : s.liveBinding? instanceId bindingId = some row)
    (picked : p row = true) :
    (s.rewriteBindings p f).liveBinding? instanceId bindingId = some (f row) := by
  have live : row.live = true := (liveBinding?_mem h).2.2
  rw [liveBinding?_eq_head?] at h ⊢
  rw [liveBindings_rewriteBindings same lives, List.head?_map, h, Option.map_some, picked, live]
  rfl

/-- A binding for a pair without a live one is what the pair is read as. -/
theorem liveBinding?_withBinding (free : s.liveBinding? row.instanceId row.bindingId = none) :
    (s.withBinding row).liveBinding? row.instanceId row.bindingId = some (s.numbered row) := by
  rw [liveBinding?_eq_head?, List.head?_eq_none_iff] at free
  have added : (s.withBinding row).bindings = s.bindings ++ [s.numbered row] := rfl
  have ofPair : (s.numbered row).isOf row.instanceId row.bindingId = true :=
    isOf_iff.mpr ⟨rfl, rfl⟩
  rw [liveBinding?_eq_head?, liveBindings_concat added, free, ofPair]
  rfl

theorem live_withdrawn (now : Instant) (row : BindingRow) : (withdrawn now row).live = false := rfl

theorem isOf_withdrawn (now : Instant) (row : BindingRow) :
    (withdrawn now row).isOf instanceId bindingId = row.isOf instanceId bindingId :=
  rfl

/-- A pair that is withdrawn has no live row left. -/
theorem liveBindings_withdrawn_self (now : Instant) :
    (s.rewriteBindings (·.isOf instanceId bindingId) (withdrawn now)).liveBindings
      instanceId bindingId = [] := by
  refine List.filter_eq_nil_iff.mpr fun r hr => ?_
  obtain ⟨old, -, rfl⟩ := List.mem_map.mp hr
  split
  · simp [live_withdrawn]
  · assumption

/-- What is done to the rows of a pair is not done to those of another. -/
theorem liveBindings_withdrawn_ne {i b : String} (now : Instant)
    (other : ¬ (instanceId = i ∧ bindingId = b)) :
    (s.rewriteBindings (·.isOf i b) (withdrawn now)).liveBindings instanceId bindingId =
      s.liveBindings instanceId bindingId := by
  have apart : ∀ r : BindingRow, r.isOf instanceId bindingId = true → r.isOf i b = false := by
    intro r ofPair
    refine Bool.eq_false_iff.mpr fun ofOther => other ?_
    obtain ⟨rfl, rfl⟩ := isOf_iff.mp ofPair
    exact isOf_iff.mp ofOther
  rw [liveBindings, liveBindings, rewriteBindings, List.filter_map]
  have picked : s.bindings.filter ((fun r => r.isOf instanceId bindingId && r.live) ∘
      fun r => if r.isOf i b && r.live then withdrawn now r else r) =
      s.bindings.filter fun r => r.isOf instanceId bindingId && r.live := by
    refine List.filter_congr fun r _ => ?_
    simp only [Function.comp]
    split
    · rename_i ofOther
      cases ofPair : r.isOf instanceId bindingId with
      | true => simp [apart r ofPair] at ofOther
      | false => rw [isOf_withdrawn, ofPair, Bool.false_and, Bool.false_and]
    · rfl
  rw [picked]
  refine (List.map_congr_left fun r hr => ?_).trans (List.map_id _)
  rw [apart r (mem_liveBindings.mp hr).2.1]
  rfl

/-! ### Calls -/

theorem step_countBindings (now : Instant) (instanceId bindingId : String) :
    s.step now (.countBindings instanceId bindingId) =
      (.ok (s.countBindings instanceId bindingId), s) := rfl

theorem step_getBinding (now : Instant) (instanceId bindingId : String) :
    s.step now (.getBinding instanceId bindingId) = (s.getBinding instanceId bindingId, s) := by
  simp only [step, answer, reading]
  cases s.getBinding instanceId bindingId <;> rfl

theorem step_createBinding_of_free (now : Instant)
    (free : s.liveBinding? row.instanceId row.bindingId = none) :
    s.step now (.createBinding row) = (.ok (s.lastBindingId + 1), s.withBinding row) := by
  have untaken :
      s.bindings.any (fun r => r.isOf row.instanceId row.bindingId && r.live) = false := by
    simpa [liveBinding?] using free
  simp only [step, answer, createBinding, untaken]
  rfl

theorem step_createBinding_of_taken (now : Instant)
    (taken : s.liveBinding? row.instanceId row.bindingId ≠ none) :
    s.step now (.createBinding row) = (.error bindingTaken, s) := by
  have known : s.bindings.any (fun r => r.isOf row.instanceId row.bindingId && r.live) = true := by
    simpa [liveBinding?, Classical.not_forall] using taken
  simp only [step, answer, createBinding, known]
  rfl

theorem updateBindings_of_live {e : StoreError} {r : BindingRow} (h : r ∈ s.bindings)
    (picked : p r = true) (live : r.live = true) :
    s.updateBindings p e f = .ok (s.rewriteBindings p f) := by
  have known : s.bindings.any (fun r => p r && r.live) = true :=
    List.any_eq_true.mpr ⟨r, h, by simp [picked, live]⟩
  rw [updateBindings, known]
  rfl

theorem step_saveBinding_of_live (now : Instant) {old : BindingRow} (h : old ∈ s.bindings)
    (same : old.id = row.id) (live : old.live = true) :
    s.step now (.saveBinding row) =
      (.ok (), s.rewriteBindings (·.id = row.id) (overwriteBinding now row)) := by
  have saved : s.saveBinding now row =
      .ok (s.rewriteBindings (·.id = row.id) (overwriteBinding now row)) :=
    updateBindings_of_live h (by simpa using same) live
  simp only [step, answer, saved, writing]
  rfl

theorem step_softDeleteBinding_of_live (now : Instant)
    (h : s.liveBinding? instanceId bindingId = some row) :
    s.step now (.softDeleteBinding instanceId bindingId) =
      (.ok (), s.rewriteBindings (·.isOf instanceId bindingId) (withdrawn now)) := by
  obtain ⟨hrow, ofPair, live⟩ := liveBinding?_mem h
  have saved : s.softDeleteBinding now instanceId bindingId =
      .ok (s.rewriteBindings (·.isOf instanceId bindingId) (withdrawn now)) :=
    updateBindings_of_live hrow ofPair live
  simp only [step, answer, saved, writing]
  rfl

end Brokerage.Store
