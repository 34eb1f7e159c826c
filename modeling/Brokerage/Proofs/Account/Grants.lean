import Brokerage.Account.Policy

/-! What a policy grants: which members have which roles. Merging leaves that as it is, and bindings
that grant the same are merged to the same list, however they are split, ordered and repeated. -/

namespace Brokerage.RoleBinding

/-! ### Ascending texts -/

section Ascending

variable {s t : String} {texts others : List String}

theorem mem_insertText : t ∈ insertText s texts ↔ t = s ∨ t ∈ texts := by
  induction texts with
  | nil => rw [insertText, List.mem_singleton, or_iff_left List.not_mem_nil]
  | cons u rest ih =>
    rw [insertText]
    split
    · rw [List.mem_cons]
    · split
      · rename_i same
        rw [same, List.mem_cons, ← or_assoc, or_self]
      · rw [List.mem_cons, ih, List.mem_cons, or_left_comm]

theorem pairwise_insertText (s : String) (sorted : texts.Pairwise (· < ·)) :
    (insertText s texts).Pairwise (· < ·) := by
  induction texts with
  | nil => exact List.pairwise_singleton _ s
  | cons u rest ih =>
    obtain ⟨above, rest_sorted⟩ := List.pairwise_cons.mp sorted
    rw [insertText]
    split
    · rename_i below
      refine List.pairwise_cons.mpr ⟨?_, sorted⟩
      exact List.forall_mem_cons.mpr ⟨below, fun t ht => String.lt_trans below (above t ht)⟩
    · rename_i notBelow
      split
      · exact sorted
      · rename_i other
        have later : u < s := by
          refine Decidable.by_contra fun notAbove => other ?_
          exact String.le_antisymm (String.not_lt.mp notAbove) (String.not_lt.mp notBelow)
        refine List.pairwise_cons.mpr ⟨fun t ht => ?_, ih rest_sorted⟩
        rcases mem_insertText.mp ht with rfl | ht
        · exact later
        · exact above t ht

theorem foldl_insertText (sorted : others.Pairwise (· < ·)) :
    (texts.foldl (fun sorted s => insertText s sorted) others).Pairwise (· < ·) ∧
      ∀ t, t ∈ texts.foldl (fun sorted s => insertText s sorted) others ↔
        t ∈ texts ∨ t ∈ others := by
  induction texts generalizing others with
  | nil => exact ⟨sorted, fun t => (or_iff_right List.not_mem_nil).symm⟩
  | cons s rest ih =>
    obtain ⟨ascends, members⟩ := ih (pairwise_insertText s sorted)
    refine ⟨ascends, fun t => (members t).trans ?_⟩
    rw [mem_insertText, List.mem_cons, or_left_comm, or_assoc]

theorem pairwise_ascending (texts : List String) : (ascending texts).Pairwise (· < ·) :=
  (foldl_insertText .nil).1

theorem mem_ascending : t ∈ ascending texts ↔ t ∈ texts :=
  ((foldl_insertText .nil).2 t).trans (or_iff_left List.not_mem_nil)

theorem eq_of_ascending (sorted : texts.Pairwise (· < ·)) (sorted' : others.Pairwise (· < ·))
    (same : ∀ t, t ∈ texts ↔ t ∈ others) : texts = others := by
  have perm : texts.Perm others := (List.perm_ext_iff_of_nodup (sorted.imp String.ne_of_lt)
    (sorted'.imp String.ne_of_lt)).mpr same
  have strict : ∀ a b : String, a ∈ texts → b ∈ others → a < b → b < a → a = b :=
    fun _ _ _ _ below above => absurd above (String.lt_asymm below)
  exact perm.eq_of_pairwise strict sorted sorted'

end Ascending

/-! ### Grants -/

/-- Some binding gives the role to the member. -/
def Grants (bindings : List RoleBinding) (role member : String) : Prop :=
  ∃ b ∈ bindings, b.role = role ∧ member ∈ b.members

variable {bindings bindings' : List RoleBinding} {role member r m : String}

theorem mem_membersOf : member ∈ membersOf bindings role ↔ Grants bindings role member := by
  simp only [membersOf, mem_ascending, List.mem_flatMap, List.mem_filter, decide_eq_true_eq,
    and_assoc, Grants]

/-- The roles that somebody has, in ascending order. -/
def heldRoles (bindings : List RoleBinding) : List String :=
  (ascending (bindings.map (·.role))).filter fun role => !(membersOf bindings role).isEmpty

theorem mem_heldRoles : role ∈ heldRoles bindings ↔ ∃ member, Grants bindings role member := by
  simp only [heldRoles, List.mem_filter, mem_ascending, List.mem_map, Bool.not_eq_true',
    List.isEmpty_eq_false_iff_exists_mem, mem_membersOf]
  refine ⟨And.right, fun held => ⟨?_, held⟩⟩
  obtain ⟨member, b, given, named, -⟩ := held
  exact ⟨b, given, named⟩

theorem merge_eq (bindings : List RoleBinding) :
    merge bindings = (heldRoles bindings).map fun role => ⟨role, membersOf bindings role⟩ := by
  rw [merge, List.filter_map]
  rfl

/-- Merging changes nothing about who has which role. -/
theorem grants_merge : Grants (merge bindings) role member ↔ Grants bindings role member := by
  rw [merge_eq]
  constructor
  · rintro ⟨b, merged, rfl, has⟩
    obtain ⟨r, -, rfl⟩ := List.mem_map.mp merged
    exact mem_membersOf.mp has
  · intro granted
    refine ⟨_, List.mem_map.mpr ⟨role, mem_heldRoles.mpr ⟨member, granted⟩, rfl⟩, rfl, ?_⟩
    exact mem_membersOf.mpr granted

/-- Bindings that grant the same are merged to the same. -/
theorem merge_congr (same : ∀ role member, Grants bindings role member ↔
    Grants bindings' role member) : merge bindings = merge bindings' := by
  -- The roles and the members of each are ascending, and so are determined by what is granted.
  have members : membersOf bindings = membersOf bindings' := by
    funext role
    refine eq_of_ascending (pairwise_ascending _) (pairwise_ascending _) fun member => ?_
    rw [mem_membersOf, same, mem_membersOf]
  have roles : heldRoles bindings = heldRoles bindings' := by
    refine eq_of_ascending ((pairwise_ascending _).filter _) ((pairwise_ascending _).filter _) ?_
    intro role
    simp only [mem_heldRoles, same]
  rw [merge_eq, merge_eq, members, roles]

theorem grants_append_singleton :
    Grants (bindings ++ [⟨role, [member]⟩]) r m ↔
      Grants bindings r m ∨ r = role ∧ m = member := by
  simp only [Grants, List.mem_append, List.mem_singleton, or_and_right, exists_or, exists_eq_left,
    @eq_comm _ role r]

theorem grants_removeMember :
    Grants (removeMember member bindings) r m ↔ Grants bindings r m ∧ m ≠ member := by
  constructor
  · rintro ⟨_, edited, named, has⟩
    obtain ⟨b, given, rfl⟩ := List.mem_map.mp edited
    obtain ⟨has, other⟩ := List.mem_filter.mp has
    exact ⟨⟨b, given, named, has⟩, bne_iff_ne.mp other⟩
  · rintro ⟨⟨b, given, named, has⟩, other⟩
    refine ⟨_, List.mem_map.mpr ⟨b, given, rfl⟩, named, ?_⟩
    exact List.mem_filter.mpr ⟨has, bne_iff_ne.mpr other⟩

end Brokerage.RoleBinding
