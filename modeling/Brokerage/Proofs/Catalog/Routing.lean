import Brokerage.Proofs.Catalog.Checks
import Mathlib.Data.List.Nodup

/-! Where requests are routed to. A registry that could be built answers every look-up out of the
one entry with the identifier that is asked for, so that it routes alike in whichever order its
entries were registered; and it lists its services by name. -/

namespace Brokerage

/-! ### Listing by name -/

namespace Catalog

variable {c c' : Catalog} {serviceId planId : String}

theorem byName_perm (c : Catalog) : c.byName.Perm c.services := List.mergeSort_perm _ _

theorem not_decide_lt_iff {s t : String} : (!decide (t < s)) = true ↔ s ≤ t := by
  rw [Bool.not_eq_true', decide_eq_false_iff_not, String.not_lt]

theorem byName_ascending (c : Catalog) : c.byName.Pairwise fun a b => a.name ≤ b.name := by
  have sorted : c.byName.Pairwise fun a b => !decide (b.name < a.name) := by
    refine List.pairwise_mergeSort (fun a b c le le' => ?_) (fun a b => ?_) c.services
    · exact not_decide_lt_iff.mpr
        (String.le_trans (not_decide_lt_iff.mp le) (not_decide_lt_iff.mp le'))
    · rw [Bool.or_eq_true, not_decide_lt_iff, not_decide_lt_iff]
      exact String.le_total a.name b.name
  exact sorted.imp not_decide_lt_iff.mp

/-- Where names are distinct, the order of registration does not show. -/
theorem byName_of_perm (order : c.services.Perm c'.services)
    (distinct : (c.services.map (·.name)).Nodup) : c.byName = c'.byName := by
  have same : c.byName.Perm c'.byName :=
    (c.byName_perm.trans order).trans c'.byName_perm.symm
  refine List.Perm.eq_of_pairwise (fun a b listed listed' le ge => ?_) c.byName_ascending
    c'.byName_ascending same
  have known : a ∈ c.services := c.byName_perm.mem_iff.mp listed
  have known' : b ∈ c.services := c.byName_perm.mem_iff.mp (same.mem_iff.mpr listed')
  exact List.inj_on_of_nodup_map distinct known known' (String.le_antisymm le ge)

theorem plan_congr (same : c.service serviceId = c'.service serviceId) :
    c.plan serviceId planId = c'.plan serviceId planId := by
  rw [plan, plan, same]

end Catalog

/-! ### Look-ups -/

namespace Registry

variable {π : Type} {entries entries' : List (Service × π)} {r r' : Registry π}
  {entry : Service × π} {serviceId planId : String}

/-- The entry of a service. -/
def entryOf (entries : List (Service × π)) (serviceId : String) : Option (Service × π) :=
  entries.find? (·.1.id = serviceId)

section Built

variable (built : ofEntries entries = .ok r)
include built

theorem entryOf_eq_some_iff :
    entryOf entries serviceId = some entry ↔ entry ∈ entries ∧ entry.1.id = serviceId :=
  find?_key_eq_some_iff (ofEntries_eq_ok_iff.mp built).2.2

theorem service_eq (serviceId : String) : r.catalog.service serviceId =
    (entryOf entries serviceId).elim (.error (.serviceNotFound serviceId)) (.ok ·.1) := by
  obtain ⟨rfl, -, -⟩ := ofEntries_eq_ok_iff.mp built
  have found : (entries.map (·.1)).find? (·.id = serviceId) =
      (entryOf entries serviceId).map (·.1) := List.find?_map ..
  simp only [Catalog.service, found]
  cases entryOf entries serviceId <;> rfl

theorem provider_eq (serviceId : String) : r.provider serviceId =
    (entryOf entries serviceId).elim (.error (.serviceNotFound serviceId)) (.ok ·.2) := by
  cases found : entryOf entries serviceId with
  | some entry =>
    obtain ⟨registered, rfl⟩ := (entryOf_eq_some_iff built).mp found
    exact provider_of_mem built registered
  | none =>
    have absent := List.find?_eq_none.mp found
    have none : r.providers.lookup serviceId = none := by
      rw [(ofEntries_eq_ok_iff.mp built).1]
      refine List.lookup_eq_none_iff.mpr fun pair listed => ?_
      obtain ⟨entry, registered, rfl⟩ := List.mem_map.mp (List.mem_reverse.mp listed)
      have other : entry.1.id ≠ serviceId := by simpa using absent entry registered
      simpa using other.symm
    rw [provider, none]
    rfl

/-- A request is resolved out of the one entry that it names. -/
theorem resolve_eq_ok_iff {plan : Plan} {provider : π} :
    r.resolve serviceId planId = .ok (plan, provider) ↔ ∃ entry ∈ entries,
      entry.1.id = serviceId ∧ plan ∈ entry.1.plans ∧ plan.id = planId ∧ entry.2 = provider := by
  constructor
  · intro found
    obtain ⟨⟨s, held, named, offered, planned⟩, served⟩ := of_resolve found
    rw [(ofEntries_eq_ok_iff.mp built).1] at held
    obtain ⟨entry, registered, rfl⟩ := List.mem_map.mp held
    rw [← named, provider_of_mem built registered] at served
    exact ⟨entry, registered, named, offered, planned, Except.ok.inj served⟩
  · rintro ⟨entry, registered, rfl, offered, rfl, rfl⟩
    exact resolve_of_mem built registered offered

theorem provider_eq_ok_iff {provider : π} : r.provider serviceId = .ok provider ↔
    ∃ entry ∈ entries, entry.1.id = serviceId ∧ entry.2 = provider := by
  rw [provider_eq built]
  constructor
  · intro found
    cases known : entryOf entries serviceId with
    | none =>
      rw [known] at found
      cases found
    | some entry =>
      rw [known] at found
      obtain ⟨registered, named⟩ := (entryOf_eq_some_iff built).mp known
      exact ⟨entry, registered, named, Except.ok.inj found⟩
  · rintro ⟨entry, registered, named, rfl⟩
    rw [(entryOf_eq_some_iff built).mpr ⟨registered, named⟩]
    rfl

theorem exists_provider {plan : Plan} (found : r.catalog.plan serviceId planId = .ok plan) :
    ∃ provider, r.resolve serviceId planId = .ok (plan, provider) := by
  obtain ⟨s, held, named, offered, planned⟩ := Catalog.of_plan found
  rw [(ofEntries_eq_ok_iff.mp built).1] at held
  obtain ⟨entry, registered, rfl⟩ := List.mem_map.mp held
  exact ⟨entry.2, (resolve_eq_ok_iff built).mpr
    ⟨entry, registered, named, offered, planned, rfl⟩⟩

theorem services_eq : r.catalog.services = entries.map (·.1) := by
  rw [(ofEntries_eq_ok_iff.mp built).1]

theorem services_nodup : r.catalog.services.Nodup := by
  have distinct : ((entries.map (·.1)).map (·.id)).Nodup := by
    rw [List.map_map]
    exact (ofEntries_eq_ok_iff.mp built).2.2
  rw [services_eq built]
  exact distinct.of_map

end Built

/-- What may be listed of a registry. A catalog is held in no order that is known, so that services
that share a name may be listed either way. -/
def Lists (r : Registry π) (list : List Service) : Prop :=
  ∃ held : Catalog, held.services.Perm r.catalog.services ∧ held.byName = list

theorem lists_services (r : Registry π) : r.Lists r.services := ⟨r.catalog, .refl _, rfl⟩

theorem Lists.perm {list : List Service} (listed : r.Lists list) :
    list.Perm r.catalog.services := by
  obtain ⟨held, order, rfl⟩ := listed
  exact held.byName_perm.trans order

theorem Lists.ascending {list : List Service} (listed : r.Lists list) :
    list.Pairwise fun a b => a.name ≤ b.name := by
  obtain ⟨held, -, rfl⟩ := listed
  exact held.byName_ascending

/-- What is had of a registry is what its entries say. -/
structure Routes (entries : List (Service × π)) (r : Registry π) : Prop where
  resolve : ∀ serviceId planId plan provider, r.resolve serviceId planId = .ok (plan, provider) ↔
    ∃ entry ∈ entries, entry.1.id = serviceId ∧ plan ∈ entry.1.plans ∧ plan.id = planId ∧
      entry.2 = provider
  provider : ∀ serviceId provider, r.provider serviceId = .ok provider ↔
    ∃ entry ∈ entries, entry.1.id = serviceId ∧ entry.2 = provider
  /-- A plan that is found has a provider. -/
  served : ∀ serviceId planId plan, r.catalog.plan serviceId planId = .ok plan →
    ∃ provider, r.resolve serviceId planId = .ok (plan, provider)
  listing : r.Lists r.services
  listed : ∀ list, r.Lists list → list.Perm (entries.map (·.1))
  once : ∀ list, r.Lists list → list.Nodup
  ascending : ∀ list, r.Lists list → list.Pairwise fun a b => a.name ≤ b.name

/-- Registries of which the same is had. -/
structure Alike (r r' : Registry π) : Prop where
  service : ∀ serviceId, r.catalog.service serviceId = r'.catalog.service serviceId
  plan : ∀ serviceId planId, r.catalog.plan serviceId planId = r'.catalog.plan serviceId planId
  provider : ∀ serviceId, r.provider serviceId = r'.provider serviceId
  resolve : ∀ serviceId planId, r.resolve serviceId planId = r'.resolve serviceId planId

theorem routes_of_built (built : ofEntries entries = .ok r) : Routes entries r where
  resolve _ _ _ _ := resolve_eq_ok_iff built
  provider _ _ := provider_eq_ok_iff built
  served _ _ _ := exists_provider built
  listing := r.lists_services
  listed _ listed := services_eq built ▸ listed.perm
  once _ listed := listed.perm.nodup_iff.mpr (services_nodup built)
  ascending _ listed := listed.ascending

theorem exists_of_perm (built : ofEntries entries = .ok r) (order : entries.Perm entries') :
    ∃ r', ofEntries entries' = .ok r' := by
  obtain ⟨-, formed, distinct⟩ := ofEntries_eq_ok_iff.mp built
  exact ⟨_, ofEntries_eq_ok_iff.mpr ⟨rfl, fun entry registered =>
    formed entry (order.mem_iff.mpr registered), (order.map _).nodup_iff.mp distinct⟩⟩

theorem alike_of_perm (built : ofEntries entries = .ok r) (built' : ofEntries entries' = .ok r')
    (order : entries.Perm entries') : Alike r r' := by
  have same (serviceId : String) : entryOf entries serviceId = entryOf entries' serviceId :=
    find?_key_of_perm (ofEntries_eq_ok_iff.mp built).2.2 order serviceId
  have service (serviceId : String) :
      r.catalog.service serviceId = r'.catalog.service serviceId := by
    rw [service_eq built, service_eq built', same]
  have provider (serviceId : String) : r.provider serviceId = r'.provider serviceId := by
    rw [provider_eq built, provider_eq built', same]
  have plan (serviceId planId : String) :
      r.catalog.plan serviceId planId = r'.catalog.plan serviceId planId :=
    Catalog.plan_congr (service serviceId)
  refine ⟨service, plan, provider, fun serviceId planId => ?_⟩
  rw [resolve, resolve, plan, provider]

theorem listed_of_perm {list list' : List Service} (built : ofEntries entries = .ok r)
    (built' : ofEntries entries' = .ok r') (order : entries.Perm entries')
    (names : (entries.map (·.1.name)).Nodup) (listed : r.Lists list) (listed' : r'.Lists list') :
    list = list' := by
  obtain ⟨held, order₁, rfl⟩ := listed
  obtain ⟨held', order₂, rfl⟩ := listed'
  have same : r.catalog.services.Perm r'.catalog.services := by
    rw [services_eq built, services_eq built']
    exact order.map _
  refine Catalog.byName_of_perm ((order₁.trans same).trans order₂.symm) ?_
  rw [(order₁.map _).nodup_iff, services_eq built, List.map_map]
  exact names

/-- Routing is exact, and the order in which the entries were registered shows at most in the order
of services that share a name. -/
theorem routes_exactly (built : ofEntries entries = .ok r) :
    Routes entries r ∧ ∀ entries', entries.Perm entries' →
      ∃ r', ofEntries entries' = .ok r' ∧ Alike r r' ∧
        ((entries.map (·.1.name)).Nodup → ∀ list list', r.Lists list → r'.Lists list' →
          list = list') := by
  refine ⟨routes_of_built built, fun entries' order => ?_⟩
  obtain ⟨r', built'⟩ := exists_of_perm built order
  exact ⟨r', built', alike_of_perm built built' order, fun names _ _ =>
    listed_of_perm built built' order names⟩

/-- Two services with plans of one identifier, in either order. -/
theorem routes_exactly_reversed :
    let small : Plan := { id := "small", name := "standard" }
    let free : Plan := { id := "small", name := "free" }
    let storage : Service := { id := "s", name := "storage", plans := [small] }
    let queue : Service := { id := "q", name := "queue", plans := [free] }
    let entries : List (Service × Bool) := [(storage, false), (queue, true)]
    ∃ r r', ofEntries entries = .ok r ∧ entries.Perm entries.reverse ∧
      ofEntries entries.reverse = .ok r' ∧
      r.resolve "s" "small" = .ok (small, false) ∧ r'.resolve "s" "small" = .ok (small, false) ∧
      r'.resolve "q" "small" = .ok (free, true) ∧ r.services = r'.services := by
  intro small free storage queue entries
  have formed : storage.WellFormed :=
    ⟨by decide, by decide, List.forall_mem_singleton.mpr (by decide), List.pairwise_singleton _ _⟩
  have formed' : queue.WellFormed :=
    ⟨by decide, by decide, List.forall_mem_singleton.mpr (by decide), List.pairwise_singleton _ _⟩
  have allFormed : ∀ entry ∈ entries, entry.1.WellFormed :=
    List.forall_mem_cons.mpr ⟨formed, List.forall_mem_singleton.mpr formed'⟩
  have built := ofEntries_eq_ok_iff.mpr ⟨rfl, allFormed, by decide⟩
  have order : entries.Perm entries.reverse := entries.reverse_perm.symm
  obtain ⟨routes, reordered⟩ := routes_exactly built
  obtain ⟨r', built', alike, same⟩ := reordered _ order
  have resolved := (routes.resolve "s" "small" small false).mpr
    ⟨(storage, false), List.mem_cons_self, rfl, List.mem_cons_self, rfl, rfl⟩
  have resolved' := (routes.resolve "q" "small" free true).mpr
    ⟨(queue, true), List.mem_cons_of_mem _ List.mem_cons_self, rfl, List.mem_cons_self, rfl, rfl⟩
  exact ⟨_, r', built, order, built', resolved, (alike.resolve "s" "small").symm.trans resolved,
    (alike.resolve "q" "small").symm.trans resolved',
    same (by decide) _ _ routes.listing r'.lists_services⟩

end Registry

end Brokerage
