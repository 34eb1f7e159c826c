import Brokerage.Proofs.Account.Grants
import Mathlib.Data.List.Nodup
import Mathlib.Data.Set.Basic

/-! Merged bindings as a canonical form. Bindings stand for a set of pairs, of a role and a member
who has it. Of all the lists that stand for one set a single one has ascending roles, each with
ascending members and at least one of them, and that is what merging makes of the others. -/

namespace Brokerage.RoleBinding

/-- The pairs of a role and a member to whom some binding gives it. -/
def pairs (bindings : List RoleBinding) : Set (String × String) := {p | Grants bindings p.1 p.2}

/-- Every role stands once, in ascending order, with its members in ascending order; none is without
members. -/
structure Canonical (bindings : List RoleBinding) : Prop where
  roles : bindings.Pairwise fun b c => b.role < c.role
  members : ∀ b ∈ bindings, b.members.Pairwise (· < ·)
  held : ∀ b ∈ bindings, b.members ≠ []

variable {x y : List RoleBinding} {b c : RoleBinding}

/-! ### Pairs -/

theorem pairs_eq_iff :
    pairs x = pairs y ↔ ∀ role member, Grants x role member ↔ Grants y role member :=
  Set.ext_iff.trans Prod.forall

theorem pairs_merge (x : List RoleBinding) : pairs (merge x) = pairs x :=
  pairs_eq_iff.mpr fun _ _ => grants_merge

theorem pairs_append (x y : List RoleBinding) : pairs (x ++ y) = pairs x ∪ pairs y := by
  ext p
  simp only [pairs, Grants, Set.mem_ofPred_eq, Set.mem_union, List.mem_append, or_and_right,
    exists_or]

theorem pairs_removeMember (member : String) (x : List RoleBinding) :
    pairs (removeMember member x) = {p ∈ pairs x | p.2 ≠ member} := by
  ext p
  exact grants_removeMember

theorem pairs_subset
    (kept : ∀ b ∈ x, ∃ c ∈ y, c.role = b.role ∧ ∀ member ∈ b.members, member ∈ c.members) :
    pairs x ⊆ pairs y := by
  rintro p ⟨b, given, named, has⟩
  obtain ⟨c, given', same, members⟩ := kept b given
  exact ⟨c, given', same.trans named, members _ has⟩

/-- Neither the order of bindings nor the order of members makes a difference to the pairs. -/
theorem pairs_of_reordered {z : List RoleBinding} {f : RoleBinding → RoleBinding}
    (order : x.Perm z) (orders : ∀ b, (f b).role = b.role ∧ (f b).members.Perm b.members) :
    pairs (z.map f) = pairs x := by
  refine Set.Subset.antisymm (pairs_subset fun c left => ?_) (pairs_subset fun b given => ?_)
  · obtain ⟨b, given, rfl⟩ := List.mem_map.mp left
    obtain ⟨role, members⟩ := orders b
    exact ⟨b, order.mem_iff.mpr given, role.symm, fun _ has => members.mem_iff.mp has⟩
  · obtain ⟨role, members⟩ := orders b
    exact ⟨f b, List.mem_map_of_mem (order.mem_iff.mp given), role,
      fun _ has => members.mem_iff.mpr has⟩

/-! ### The canonical form -/

theorem canonical_merge (x : List RoleBinding) : Canonical (merge x) := by
  rw [merge_eq]
  refine ⟨?_, fun b merged => ?_, fun b merged => ?_⟩
  · rw [List.pairwise_map]
    exact (pairwise_ascending _).filter _
  · obtain ⟨role, -, rfl⟩ := List.mem_map.mp merged
    exact pairwise_ascending _
  · obtain ⟨role, held, rfl⟩ := List.mem_map.mp merged
    obtain ⟨member, granted⟩ := mem_heldRoles.mp held
    exact List.ne_nil_of_mem (mem_membersOf.mpr granted)

namespace Canonical

theorem eq_of_role (canonical : Canonical x) (hb : b ∈ x) (hc : c ∈ x)
    (same : b.role = c.role) : b = c := by
  have distinct : (x.map (·.role)).Nodup :=
    List.pairwise_map.mpr (canonical.roles.imp String.ne_of_lt)
  exact List.inj_on_of_nodup_map distinct hb hc same

theorem heldRoles_eq (canonical : Canonical x) : heldRoles x = x.map (·.role) := by
  refine eq_of_ascending ((pairwise_ascending _).filter _)
    (List.pairwise_map.mpr canonical.roles) ?_
  intro role
  rw [mem_heldRoles, List.mem_map]
  constructor
  · rintro ⟨member, b, given, named, -⟩
    exact ⟨b, given, named⟩
  · rintro ⟨b, given, named⟩
    obtain ⟨member, has⟩ := List.exists_mem_of_ne_nil _ (canonical.held b given)
    exact ⟨member, b, given, named, has⟩

theorem membersOf_eq (canonical : Canonical x) (given : b ∈ x) :
    membersOf x b.role = b.members := by
  refine eq_of_ascending (pairwise_ascending _) (canonical.members b given) fun member => ?_
  rw [mem_membersOf]
  constructor
  · rintro ⟨c, given', named, has⟩
    rwa [canonical.eq_of_role given' given named] at has
  · intro has
    exact ⟨b, given, rfl, has⟩

/-- Merging leaves a canonical list as it is. -/
theorem merge_eq (canonical : Canonical x) : merge x = x :=
  calc merge x
      = (x.map (·.role)).map fun role => ⟨role, membersOf x role⟩ := by
        rw [RoleBinding.merge_eq, canonical.heldRoles_eq]
    _ = x.map fun b => ⟨b.role, membersOf x b.role⟩ := List.map_map
    _ = x.map id := List.map_congr_left fun b given => by rw [canonical.membersOf_eq given]; rfl
    _ = x := List.map_id x

end Canonical

theorem merge_eq_merge_iff : merge x = merge y ↔ pairs x = pairs y := by
  constructor
  · intro same
    rw [← pairs_merge x, same, pairs_merge]
  · intro same
    exact merge_congr (pairs_eq_iff.mp same)

/-- Merging finds the one canonical list with the pairs that it is given: it is determined by them,
and taking a member out before or after makes no difference. -/
theorem merge_canonical (x y : List RoleBinding) (member : String) :
    pairs (merge x) = pairs x ∧ Canonical (merge x) ∧
    (Canonical y → pairs y = pairs x → y = merge x) ∧
    (merge x = merge y ↔ pairs x = pairs y) ∧
    merge (merge x) = merge x ∧
    merge (x ++ y) = merge (merge x ++ y) ∧
    (∀ z f, x.Perm z → (∀ b, (f b).role = b.role ∧ (f b).members.Perm b.members) →
      merge (z.map f) = merge x) ∧
    pairs (removeMember member x) = {p ∈ pairs x | p.2 ≠ member} ∧
    merge (removeMember member x) = merge (removeMember member (merge x)) := by
  refine ⟨pairs_merge x, canonical_merge x, fun canonical same => ?_, merge_eq_merge_iff,
    (canonical_merge x).merge_eq, merge_eq_merge_iff.mpr ?_, fun z f order orders => ?_,
    pairs_removeMember member x, merge_eq_merge_iff.mpr ?_⟩
  · rw [← merge_eq_merge_iff.mpr same, canonical.merge_eq]
  · rw [pairs_append, pairs_append, pairs_merge]
  · exact merge_eq_merge_iff.mpr (pairs_of_reordered order orders)
  · rw [pairs_removeMember, pairs_removeMember, pairs_merge]

/-- A role that stands twice, with a member who stands twice, and a role for nobody: the canonical
list has one entry, however the bindings and their members are ordered. -/
theorem merge_canonical_reordered :
    let x : List RoleBinding := [⟨"editor", ["n", "m"]⟩, ⟨"viewer", []⟩, ⟨"editor", ["m"]⟩]
    let y : List RoleBinding := [⟨"editor", ["m", "n"]⟩]
    let turned (b : RoleBinding) : RoleBinding := { b with members := b.members.reverse }
    Canonical y ∧ pairs y = pairs x ∧ y = merge x ∧ x.Perm x.reverse ∧
      (∀ b, (turned b).role = b.role ∧ (turned b).members.Perm b.members) ∧
      merge (x.reverse.map turned) = y := by
  intro x y turned
  have canonical : Canonical y := ⟨by decide, by decide, by decide⟩
  have same : pairs y = pairs x := merge_eq_merge_iff.mp (by decide)
  have order : x.Perm x.reverse := x.reverse_perm.symm
  have orders : ∀ b, (turned b).role = b.role ∧ (turned b).members.Perm b.members :=
    fun b => ⟨rfl, b.members.reverse_perm⟩
  obtain ⟨-, -, unique, -, -, -, reordered, -, -⟩ := merge_canonical x y "m"
  have found : y = merge x := unique canonical same
  refine ⟨canonical, same, found, order, orders, ?_⟩
  rw [found]
  exact reordered _ _ order orders

end Brokerage.RoleBinding
