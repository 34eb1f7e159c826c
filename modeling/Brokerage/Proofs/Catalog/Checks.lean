import Brokerage.Catalog.Registry
import Brokerage.Proofs.Keyed

/-! What a catalog is once it has passed its checks: every service and every plan has an identifier
and a name, and no two of them share one. Look-ups by identifier then find exactly what was
registered. -/

namespace Brokerage

open Text (isBlank)

/-! ### Definitions -/

namespace Service

variable {s : Service}

/-- A definition that a catalog may hold. -/
structure WellFormed (s : Service) : Prop where
  id : isBlank s.id = false
  name : isBlank s.name = false
  plans : ∀ p ∈ s.plans, isBlank p.id = false ∧ isBlank p.name = false
  distinct : (s.plans.map (·.id)).Nodup

theorem checkPlans_eq_ok_iff {seen : List String} {plans : List Plan} :
    s.checkPlans seen plans = .ok () ↔
      (∀ p ∈ plans, isBlank p.id = false ∧ isBlank p.name = false) ∧
        (plans.map (·.id)).Nodup ∧ ∀ p ∈ plans, p.id ∉ seen := by
  induction plans generalizing seen with
  | nil => simp [checkPlans]
  | cons p rest ih =>
    by_cases blankId : isBlank p.id = true
    · simp [checkPlans, blankId]
    by_cases blankName : isBlank p.name = true
    · simp [checkPlans, blankId, blankName]
    by_cases known : p.id ∈ seen
    · simp [checkPlans, blankId, blankName, known]
    · have passed : s.checkPlans seen (p :: rest) = s.checkPlans (p.id :: seen) rest := by
        simp [checkPlans, blankId, blankName, known]
      rw [passed, ih]
      grind

theorem check_eq_ok_iff : s.check = .ok () ↔ s.WellFormed := by
  constructor
  · intro passed
    unfold check at passed
    split at passed
    · cases passed
    split at passed
    · cases passed
    · obtain ⟨plans, distinct, -⟩ := checkPlans_eq_ok_iff.mp passed
      exact ⟨by simp_all, by simp_all, plans, distinct⟩
  · rintro ⟨id, name, plans, distinct⟩
    simp only [check, id, name, Bool.false_eq_true, if_false]
    exact checkPlans_eq_ok_iff.mpr ⟨plans, distinct, fun _ _ => List.not_mem_nil⟩

end Service

/-! ### Catalogs -/

namespace Catalog

theorem extend_eq_ok_iff {known services all : List Service} :
    extend known services = .ok all ↔ all = known ++ services ∧
      (∀ s ∈ services, s.WellFormed) ∧ (services.map (·.id)).Nodup ∧
        ∀ s ∈ services, ∀ k ∈ known, k.id ≠ s.id := by
  induction services generalizing known with
  | nil => simp [extend, eq_comm]
  | cons s rest ih =>
    by_cases passes : s.WellFormed
    · have checked := Service.check_eq_ok_iff.mpr passes
      by_cases taken : known.any (·.id = s.id) = true
      · have failed : extend known (s :: rest) = .error (.duplicateService s.id) := by
          simp [extend, checked, taken]
        rw [failed]
        grind
      · have passed : extend known (s :: rest) = extend (known ++ [s]) rest := by
          simp [extend, checked, taken]
        rw [passed, ih]
        grind
    · cases checked : s.check with
      | ok => exact absurd (Service.check_eq_ok_iff.mp checked) passes
      | error e => simp [extend, checked, passes]

theorem ofServices_eq_ok_iff {services : List Service} {c : Catalog} :
    ofServices services = .ok c ↔
      c = ⟨services⟩ ∧ (∀ s ∈ services, s.WellFormed) ∧ (services.map (·.id)).Nodup := by
  obtain ⟨all⟩ := c
  have extended : ofServices services = .ok ⟨all⟩ ↔ extend [] services = .ok all := by
    cases h : extend [] services <;> simp [ofServices, h, Except.map]
  rw [extended, extend_eq_ok_iff]
  simp

theorem of_plan {catalog : Catalog} {serviceId planId : String} {plan : Plan}
    (h : catalog.plan serviceId planId = .ok plan) :
    ∃ service ∈ catalog.services, service.id = serviceId ∧ plan ∈ service.plans ∧
      plan.id = planId := by
  unfold Catalog.plan Catalog.service at h
  cases found : catalog.services.find? (·.id = serviceId) with
  | none =>
    rw [found] at h
    cases h
  | some service =>
    simp only [found] at h
    cases planned : service.plan? planId with
    | none =>
      rw [planned] at h
      cases h
    | some plan' =>
      rw [planned] at h
      cases h
      exact ⟨service, List.mem_of_find?_eq_some found, by simpa using List.find?_some found,
        List.mem_of_find?_eq_some planned, by simpa using List.find?_some planned⟩

end Catalog

/-! ### Registries -/

namespace Registry

variable {π : Type} {entries : List (Service × π)} {r : Registry π} {entry : Service × π}
  {plan : Plan}

/-- A request that is resolved names a service of the catalog, a plan of it, and its provider. -/
theorem of_resolve {registry : Registry π} {serviceId planId : String} {plan : Plan} {provider : π}
    (h : registry.resolve serviceId planId = .ok (plan, provider)) :
    (∃ service ∈ registry.catalog.services, service.id = serviceId ∧
        plan ∈ service.plans ∧ plan.id = planId) ∧
      registry.provider serviceId = .ok provider := by
  unfold resolve at h
  cases planned : registry.catalog.plan serviceId planId with
  | error e =>
    rw [planned] at h
    cases h
  | ok plan' =>
    rw [planned] at h
    cases served : registry.provider serviceId with
    | error e =>
      rw [served] at h
      cases h
    | ok provider' =>
      rw [served] at h
      cases h
      exact ⟨Catalog.of_plan planned, rfl⟩

theorem services_perm (r : Registry π) : r.services.Perm r.catalog.services :=
  List.mergeSort_perm _ _

theorem ofEntries_eq_map (entries : List (Service × π)) :
    ofEntries entries = (Catalog.ofServices (entries.map (·.1))).map fun catalog =>
      ⟨catalog, (entries.map fun (s, p) => (s.id, p)).reverse⟩ := by
  unfold ofEntries
  cases Catalog.ofServices (entries.map (·.1)) <;> rfl

theorem ofEntries_eq_ok_iff : ofEntries entries = .ok r ↔
    r = ⟨⟨entries.map (·.1)⟩, (entries.map fun (s, p) => (s.id, p)).reverse⟩ ∧
      (∀ entry ∈ entries, entry.1.WellFormed) ∧ (entries.map (·.1.id)).Nodup := by
  have catalog : ofEntries entries = .ok r ↔ ∃ c, Catalog.ofServices (entries.map (·.1)) = .ok c ∧
      r = ⟨c, (entries.map fun (s, p) => (s.id, p)).reverse⟩ := by
    rw [ofEntries_eq_map]
    cases Catalog.ofServices (entries.map (·.1)) <;> simp [Except.map, eq_comm]
  rw [catalog]
  simp only [Catalog.ofServices_eq_ok_iff, List.forall_mem_map, List.map_map]
  constructor
  · rintro ⟨_, ⟨rfl, formed, distinct⟩, rfl⟩
    exact ⟨rfl, formed, distinct⟩
  · rintro ⟨rfl, formed, distinct⟩
    exact ⟨_, ⟨rfl, formed, distinct⟩, rfl⟩

section Built

variable (built : ofEntries entries = .ok r)
include built

theorem provider_of_mem (registered : entry ∈ entries) : r.provider entry.1.id = .ok entry.2 := by
  obtain ⟨rfl, -, distinct⟩ := ofEntries_eq_ok_iff.mp built
  have keys : ((entries.map fun (s, p) => (s.id, p)).map (·.1)).Nodup := by
    rw [List.map_map]
    exact distinct
  have known : (entry.1.id, entry.2) ∈ entries.map fun (s, p) => (s.id, p) :=
    List.mem_map.mpr ⟨entry, registered, rfl⟩
  simp only [provider, lookup_reverse_of_mem keys known]

/-- A plan of a registered service is found, with the provider of the service. -/
theorem resolve_of_mem (registered : entry ∈ entries) (listed : plan ∈ entry.1.plans) :
    r.resolve entry.1.id plan.id = .ok (plan, entry.2) := by
  have served := provider_of_mem built registered
  obtain ⟨rfl, formed, distinct⟩ := ofEntries_eq_ok_iff.mp built
  have keys : ((entries.map (·.1)).map (·.id)).Nodup := by
    rw [List.map_map]
    exact distinct
  have service : (entries.map (·.1)).find? (·.id = entry.1.id) = some entry.1 :=
    find?_key_of_mem keys (List.mem_map_of_mem registered)
  have planned : entry.1.plan? plan.id = some plan :=
    find?_key_of_mem (formed entry registered).distinct listed
  simp only [resolve, Catalog.plan, Catalog.service, service, planned, served]
  rfl

end Built

end Registry

end Brokerage
