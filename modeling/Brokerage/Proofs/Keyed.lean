/-! Lists whose elements have keys of their own. What is looked up by its key is found, wherever it
stands. -/

namespace Brokerage

universe u

variable {α : Type u} {β κ : Type} [DecidableEq κ]

/-- Where keys are distinct, an element is the first with its own. -/
theorem find?_key_of_mem {key : α → κ} {l : List α} {a : α} (keys : (l.map key).Nodup)
    (h : a ∈ l) : l.find? (fun b => decide (key b = key a)) = some a := by
  obtain ⟨before, after, rfl⟩ := List.append_of_mem h
  rw [List.map_append, List.map_cons, List.nodup_append] at keys
  obtain ⟨-, -, apart⟩ := keys
  refine List.find?_eq_some_iff_append.mpr ⟨by simp, before, after, rfl, fun b hb => ?_⟩
  simpa using apart (key b) (List.mem_map_of_mem hb) (key a) List.mem_cons_self

theorem find?_key_eq_some_iff {key : α → κ} {l : List α} {k : κ} {a : α}
    (keys : (l.map key).Nodup) :
    l.find? (fun b => decide (key b = k)) = some a ↔ a ∈ l ∧ key a = k := by
  constructor
  · intro found
    exact ⟨List.mem_of_find?_eq_some found, by simpa using List.find?_some found⟩
  · rintro ⟨h, rfl⟩
    exact find?_key_of_mem keys h

/-- Where keys are distinct, what is found does not depend on the order. -/
theorem find?_key_of_perm {key : α → κ} {l l' : List α} (keys : (l.map key).Nodup)
    (order : l.Perm l') (k : κ) :
    l.find? (fun b => decide (key b = k)) = l'.find? (fun b => decide (key b = k)) := by
  have keys' : (l'.map key).Nodup := (order.map key).nodup_iff.mp keys
  ext a
  rw [find?_key_eq_some_iff keys, find?_key_eq_some_iff keys', order.mem_iff]

/-- Where keys are distinct, the pair that was put last is found wherever it stands. -/
theorem lookup_reverse_of_mem {l : List (κ × β)} {k : κ} {b : β} (keys : (l.map (·.1)).Nodup)
    (h : (k, b) ∈ l) : l.reverse.lookup k = some b := by
  obtain ⟨before, after, rfl⟩ := List.append_of_mem h
  rw [List.map_append, List.map_cons, List.nodup_append, List.nodup_cons] at keys
  obtain ⟨-, ⟨apart, -⟩, -⟩ := keys
  refine List.lookup_eq_some_iff.mpr ⟨after.reverse, before.reverse, by simp, fun pair hpair => ?_⟩
  have other : pair.1 ∈ after.map (·.1) := List.mem_map_of_mem (List.mem_reverse.mp hpair)
  have ne : k ≠ pair.1 := fun same => apart (same ▸ other)
  simpa using ne

end Brokerage
