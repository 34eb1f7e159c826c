import Brokerage.Json.Basic
import Brokerage.Proofs.Keyed

/-! Records that are built from pairs. Each name is there once, with the value that it was given last,
and pairs whose names ascend are the record that is built from them. -/

namespace Brokerage.Fields

variable {key k : String} {value : Json} {fields : Fields}

theorem get?_cons {v : Json} {rest : Fields} :
    get? key ((k, v) :: rest) = if key = k then some v else get? key rest := by
  rw [get?, List.lookup_cons]
  by_cases same : key = k
  · rw [if_pos same, beq_iff_eq.mpr same]
  · rw [if_neg same, beq_eq_false_iff_ne.mpr same, get?]

theorem get?_insert (key : String) (value : Json) (fields : Fields) (k : String) :
    get? k (insert key value fields) = if k = key then some value else get? k fields := by
  induction fields with
  | nil => rw [insert, get?_cons]
  | cons p rest ih =>
    obtain ⟨name, v⟩ := p
    rw [insert]
    split
    · rw [get?_cons]
    · split
      · rename_i same
        rw [get?_cons, get?_cons, ← same]
        split <;> rfl
      · rename_i other
        rw [get?_cons, ih, get?_cons]
        split
        · rename_i found
          rw [if_neg fun same => other (same.symm.trans found)]
        · rfl

/-- Of a record that is overridden, the last override of a name stands. -/
theorem get?_merge (base overrides : Fields) (k : String) :
    get? k (merge base overrides) = (overrides.reverse.lookup k).or (get? k base) := by
  induction overrides generalizing base with
  | nil => rfl
  | cons p rest ih =>
    obtain ⟨name, v⟩ := p
    have step : merge base ((name, v) :: rest) = merge (insert name v base) rest := rfl
    have last : get? k (insert name v base) = (get? k [(name, v)]).or (get? k base) := by
      rw [get?_insert, get?_cons]
      split <;> rfl
    rw [step, ih, last, List.reverse_cons, List.lookup_append, Option.or_assoc, get?]

theorem get?_ofList (pairs : List (String × Json)) (k : String) :
    get? k (ofList pairs) = pairs.reverse.lookup k := by
  rw [ofList, get?_merge]
  exact Option.or_none

theorem mem_insert {p : String × Json} (h : p ∈ insert key value fields) :
    p = (key, value) ∨ p ∈ fields := by
  induction fields with
  | nil => exact .inl (List.mem_singleton.mp h)
  | cons q rest ih =>
    obtain ⟨name, v⟩ := q
    rw [insert] at h
    split at h
    · exact List.mem_cons.mp h
    · split at h
      · exact (List.mem_cons.mp h).imp_right (List.mem_cons_of_mem _)
      · rcases List.mem_cons.mp h with rfl | h
        · exact .inr List.mem_cons_self
        · exact (ih h).imp_right (List.mem_cons_of_mem _)

theorem mem_merge {base overrides : Fields} {p : String × Json} (h : p ∈ merge base overrides) :
    p ∈ base ∨ p ∈ overrides := by
  induction overrides generalizing base with
  | nil => exact .inl h
  | cons q rest ih =>
    have h : p ∈ merge (insert q.1 q.2 base) rest := h
    rcases ih h with h | h
    · rcases mem_insert h with rfl | h
      · exact .inr List.mem_cons_self
      · exact .inl h
    · exact .inr (List.mem_cons_of_mem _ h)

theorem mem_of_mem_ofList {pairs : List (String × Json)} {p : String × Json}
    (h : p ∈ ofList pairs) : p ∈ pairs :=
  (mem_merge h).resolve_left List.not_mem_nil

theorem insert_of_forall_lt (below : ∀ p ∈ fields, p.1 < key) :
    insert key value fields = fields ++ [(key, value)] := by
  induction fields with
  | nil => rfl
  | cons q rest ih =>
    obtain ⟨first, others⟩ := List.forall_mem_cons.mp below
    rw [insert, if_neg (String.lt_asymm first), if_neg, ih others, List.cons_append]
    rintro rfl
    exact String.lt_irrefl _ first

theorem merge_of_sorted (base : Fields) {overrides : Fields}
    (sorted : Sorted (base ++ overrides)) : merge base overrides = base ++ overrides := by
  induction overrides generalizing base with
  | nil => exact (List.append_nil base).symm
  | cons p rest ih =>
    have below : ∀ q ∈ base, q.1 < p.1 := fun q hq =>
      (List.pairwise_append.mp sorted).2.2 q hq p List.mem_cons_self
    have step : merge base (p :: rest) = merge (insert p.1 p.2 base) rest := rfl
    rw [step, insert_of_forall_lt below, ih]
    · rw [List.append_assoc, List.singleton_append]
    · rw [List.append_assoc, List.singleton_append]
      exact sorted

theorem Sorted.insert (sorted : Sorted fields) (key : String) (value : Json) :
    Sorted (fields.insert key value) := by
  induction fields with
  | nil => exact List.pairwise_singleton _ _
  | cons q rest ih =>
    obtain ⟨name, v⟩ := q
    obtain ⟨first, others⟩ := List.pairwise_cons.mp sorted
    rw [Fields.insert]
    split
    · rename_i below
      refine List.pairwise_cons.mpr ⟨fun p hp => ?_, sorted⟩
      rcases List.mem_cons.mp hp with rfl | hp
      · exact below
      · exact String.lt_trans below (first p hp)
    · split
      · rename_i same
        exact List.pairwise_cons.mpr ⟨fun p hp => same ▸ first p hp, others⟩
      · rename_i notBelow other
        refine List.pairwise_cons.mpr ⟨fun p hp => ?_, ih others⟩
        rcases mem_insert hp with rfl | hp
        · exact Std.lt_of_le_of_ne (String.not_lt.mp notBelow) (Ne.symm other)
        · exact first p hp

theorem Sorted.merge {base : Fields} (sorted : Sorted base) (overrides : Fields) :
    Sorted (base.merge overrides) := by
  induction overrides generalizing base with
  | nil => exact sorted
  | cons p rest ih => exact ih (sorted.insert p.1 p.2)

theorem sorted_ofList (pairs : List (String × Json)) : Sorted (ofList pairs) :=
  Sorted.merge List.Pairwise.nil pairs

/-- Where each name is there once, it does not matter from which end it is looked for. -/
theorem lookup_reverse {pairs : List (String × Json)} (once : pairs.Pairwise fun p q => p.1 ≠ q.1)
    (k : String) : pairs.reverse.lookup k = pairs.lookup k := by
  induction pairs with
  | nil => rfl
  | cons p rest ih =>
    obtain ⟨name, v⟩ := p
    obtain ⟨new, others⟩ := List.pairwise_cons.mp once
    rw [List.reverse_cons, List.lookup_append, ih others]
    by_cases same : k = name
    · have missing : rest.lookup k = none :=
        List.lookup_eq_none_iff.mpr fun q hq => bne_iff_ne.mpr (same ▸ new q hq)
      rw [missing, Option.none_or, List.lookup_cons, List.lookup_cons, beq_iff_eq.mpr same]
    · rw [List.lookup_cons, List.lookup_cons, beq_eq_false_iff_ne.mpr same, List.lookup_nil,
        Option.or_none]

theorem get?_of_mem (once : fields.Pairwise fun p q => p.1 ≠ q.1) (h : (key, value) ∈ fields) :
    get? key fields = some value := by
  rw [get?, ← lookup_reverse once]
  exact lookup_reverse_of_mem (List.pairwise_map.mpr once) h

theorem mem_of_get? (found : get? key fields = some value) : (key, value) ∈ fields := by
  obtain ⟨before, after, rfl, -⟩ := List.lookup_eq_some_iff.mp found
  exact List.mem_append_right _ List.mem_cons_self

/-- The union of two records has the names of both, and the value of the overriding one first. -/
theorem get?_merge_of_sorted (base : Fields) {overrides : Fields} (sorted : Sorted overrides)
    (k : String) : get? k (base.merge overrides) = (get? k overrides).or (get? k base) := by
  have once : overrides.Pairwise fun p q => p.1 ≠ q.1 := sorted.imp String.ne_of_lt
  rw [get?_merge, lookup_reverse once]
  rfl

theorem ofList_of_sorted (sorted : Sorted fields) : ofList fields = fields :=
  merge_of_sorted [] sorted

end Brokerage.Fields
