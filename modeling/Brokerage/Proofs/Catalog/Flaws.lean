import Brokerage.Proofs.Catalog.Checks

/-! What is wrong with a list of definitions, and where. Flaws are ordered by their places: services
come in the order of the list, and in each of them its identifier, its name, its plans, and last
whether its identifier was there before. A list without flaws makes a catalog, and of any other the
flaw with the first place is reported. -/

namespace Brokerage

open Text (isBlank isBlankChar quoted)

/-- A text with a character that is no blank. -/
def Text.Visible (text : String) : Prop := ∃ c ∈ text.toList, isBlankChar c = false

open Text (Visible)

theorem Text.not_visible_iff {text : String} : ¬ Visible text ↔ isBlank text = true := by
  rw [isBlank, List.all_eq_true]
  simp [Visible]

theorem Text.visible_iff {text : String} : Visible text ↔ isBlank text = false := by
  rw [← Bool.not_eq_true, ← not_visible_iff, Classical.not_not]

/-! ### Places -/

/-- A row of numbers that leads to a part of a list of definitions. -/
abbrev Place := List Nat

namespace Place

/-- Of two places, the one with the smaller number where they first differ comes before the other,
and so does one that leads to the other. -/
def NoLater : Place → Place → Prop
  | [], _ => True
  | _ :: _, [] => False
  | a :: p, b :: q => a < b ∨ a = b ∧ NoLater p q

variable {a b : Nat} {p q : Place}

@[simp] theorem noLater_nil : NoLater [] q := trivial

@[simp] theorem noLater_cons_iff : NoLater (a :: p) (b :: q) ↔ a < b ∨ a = b ∧ NoLater p q := .rfl

@[simp high] theorem noLater_single_iff : NoLater [a] (b :: q) ↔ a ≤ b := by
  rw [noLater_cons_iff, and_iff_left noLater_nil, Nat.le_iff_lt_or_eq]

theorem noLater_self (p : Place) : NoLater p p := by
  induction p with
  | nil => exact noLater_nil
  | cons a p ih => exact .inr ⟨rfl, ih⟩

theorem noLater_antisymm (h : NoLater p q) (h' : NoLater q p) : p = q := by
  induction p generalizing q with
  | nil =>
    cases q with
    | nil => rfl
    | cons b q => exact h'.elim
  | cons a p ih =>
    cases q with
    | nil => exact h.elim
    | cons b q =>
      rcases h with less | ⟨rfl, h⟩ <;> rcases h' with less' | ⟨same, h'⟩
      · omega
      · omega
      · omega
      · rw [ih h h']

end Place

open Place (NoLater)

/-- Flaws at their places, each with the error that reports it. -/
abbrev Flaws := Place → CatalogError → Prop

namespace Flaws

variable {α : Type} {flaws : Flaws} {e e' : CatalogError}

def NoneBefore (flaws : Flaws) (limit : Place) : Prop :=
  ∀ place e, flaws place e → NoLater limit place

/-- `e` reports the flaw with the first place. -/
def First (flaws : Flaws) (e : CatalogError) : Prop :=
  ∃ place, flaws place e ∧ flaws.NoneBefore place

/-- The result of a check that goes through the flaws in order, as far as `limit`. -/
def FoundUpTo (flaws : Flaws) (limit : Place) : Except CatalogError α → Prop
  | .ok _ => flaws.NoneBefore limit
  | .error e => flaws.First e

/-- Where every place has one error, there is one first error. -/
theorem First.unique (h : flaws.First e) (h' : flaws.First e')
    (single : ∀ place e e', flaws place e → flaws place e' → e = e') : e = e' := by
  obtain ⟨place, flaw, none⟩ := h
  obtain ⟨place', flaw', none'⟩ := h'
  have same : place = place' := Place.noLater_antisymm (none place' e' flaw') (none' place e flaw)
  exact single place e e' flaw (same ▸ flaw')

end Flaws

open Flaws (FoundUpTo)

/-! ### Services -/

/-- A flaw of `s` after the services `earlier`: in its identifier, in its name, in the identifier or
the name of a plan or in its repeating an identifier, or last in repeating one itself. -/
inductive Service.Flaw (earlier : List Service) (s : Service) : Flaws
  | id (hidden : ¬ Visible s.id) :
      Flaw earlier s [0] (.missingField "service id" ("service " ++ quoted s.name))
  | name (hidden : ¬ Visible s.name) :
      Flaw earlier s [1] (.missingField "service name" ("service " ++ s.id))
  | planId {j : Nat} {p : Plan} (listed : s.plans[j]? = some p) (hidden : ¬ Visible p.id) :
      Flaw earlier s [2, j, 0]
        (.missingField "plan id" ("plan " ++ quoted p.name ++ " of service " ++ s.id))
  | planName {j : Nat} {p : Plan} (listed : s.plans[j]? = some p) (hidden : ¬ Visible p.name) :
      Flaw earlier s [2, j, 1]
        (.missingField "plan name" ("plan " ++ p.id ++ " of service " ++ s.id))
  | planRepeated {j : Nat} {p : Plan} (listed : s.plans[j]? = some p)
      (repeated : ∃ q ∈ s.plans.take j, q.id = p.id) :
      Flaw earlier s [2, j, 2] (.duplicatePlan s.id p.id)
  | repeated (repeated : ∃ other ∈ earlier, other.id = s.id) :
      Flaw earlier s [3] (.duplicateService s.id)

namespace Service

variable {earlier : List Service} {s : Service} {p : Plan} {place : Place} {e e' : CatalogError}
  {j n : Nat}

namespace Flaw

theorem unique (flaw : s.Flaw earlier place e) (flaw' : s.Flaw earlier place e') : e = e' := by
  cases flaw with
  | id | name | repeated =>
    cases flaw'
    rfl
  | planId listed | planName listed | planRepeated listed =>
    cases flaw' with
    | _ listed' =>
      cases listed.symm.trans listed'
      rfl

theorem place_cases (flaw : s.Flaw earlier place e) :
    place = [0] ∨ place = [1] ∨ (∃ j n, j < s.plans.length ∧ place = [2, j, n]) ∨ place = [3] := by
  cases flaw with
  | id => simp
  | name => simp
  | repeated => simp
  | planId listed | planName listed | planRepeated listed =>
    simp [(List.getElem?_eq_some_iff.mp listed).1]

/-- Where a flaw can be that is in no plan before the one at `j`. -/
theorem late_cases (flaw : s.Flaw earlier place e) (late : NoLater [2, j] place) :
    (∃ k n, j ≤ k ∧ k < s.plans.length ∧ place = [2, k, n]) ∨ place = [3] := by
  rcases flaw.place_cases with rfl | rfl | ⟨k, n, listed, rfl⟩ | rfl
  · simp at late
  · simp at late
  · exact .inl ⟨k, n, by simpa using late, listed, rfl⟩
  · exact .inr rfl

theorem of_id (flaw : s.Flaw earlier [0] e) : ¬ Visible s.id := by
  cases flaw
  assumption

theorem of_name (flaw : s.Flaw earlier [1] e) : ¬ Visible s.name := by
  cases flaw
  assumption

theorem of_repeated (flaw : s.Flaw earlier [3] e) : ∃ other ∈ earlier, other.id = s.id := by
  cases flaw
  assumption

/-- The flaws of the plan at `j`. -/
theorem of_plan (listed : s.plans[j]? = some p) (flaw : s.Flaw earlier [2, j, n] e) :
    (n = 0 ∧ ¬ Visible p.id) ∨ (n = 1 ∧ ¬ Visible p.name) ∨
      n = 2 ∧ ∃ q ∈ s.plans.take j, q.id = p.id := by
  cases flaw with
  | planId listed' hidden =>
    cases listed.symm.trans listed'
    exact .inl ⟨rfl, hidden⟩
  | planName listed' hidden =>
    cases listed.symm.trans listed'
    exact .inr (.inl ⟨rfl, hidden⟩)
  | planRepeated listed' repeated =>
    cases listed.symm.trans listed'
    exact .inr (.inr ⟨rfl, repeated⟩)

end Flaw

/-- Past the plans before it, a plan in which the first `n` things are right. -/
theorem noneBefore_plan (listed : s.plans[j]? = some p)
    (clear : (s.Flaw earlier).NoneBefore [2, j]) (id : 0 < n → Visible p.id)
    (name : 1 < n → Visible p.name) (few : n ≤ 2) : (s.Flaw earlier).NoneBefore [2, j, n] := by
  intro place e flaw
  rcases flaw.late_cases (clear place e flaw) with ⟨k, m, far, -, rfl⟩ | rfl
  · rcases Nat.lt_or_eq_of_le far with after | rfl
    · simp [after]
    · have late : n ≤ m := by
        rcases flaw.of_plan listed with ⟨rfl, hidden⟩ | ⟨rfl, hidden⟩ | ⟨rfl, -⟩
        · exact Nat.not_lt.mp fun later => hidden (id later)
        · exact Nat.not_lt.mp fun later => hidden (name later)
        · exact few
      simpa using late
  · simp

/-- Past the plans before it, a plan in which all is right. -/
theorem noneBefore_next (listed : s.plans[j]? = some p)
    (clear : (s.Flaw earlier).NoneBefore [2, j]) (id : Visible p.id) (name : Visible p.name)
    (fresh : ¬ ∃ q ∈ s.plans.take j, q.id = p.id) : (s.Flaw earlier).NoneBefore [2, j + 1] := by
  intro place e flaw
  rcases flaw.late_cases (clear place e flaw) with ⟨k, m, far, -, rfl⟩ | rfl
  · rcases Nat.lt_or_eq_of_le far with after | rfl
    · exact Place.noLater_cons_iff.mpr (.inr ⟨rfl, Place.noLater_single_iff.mpr after⟩)
    · rcases flaw.of_plan listed with ⟨-, hidden⟩ | ⟨-, hidden⟩ | ⟨-, repeated⟩
      · exact absurd id hidden
      · exact absurd name hidden
      · exact absurd repeated fresh
  · simp

/-- The plans are gone through one after another; none before them has a flaw. -/
theorem checkPlans_finds {before plans : List Plan} {seen : List String}
    (whole : s.plans = before ++ plans) (known : ∀ id, id ∈ seen ↔ ∃ q ∈ before, q.id = id)
    (clear : (s.Flaw earlier).NoneBefore [2, before.length]) :
    FoundUpTo (s.Flaw earlier) [3] (s.checkPlans seen plans) := by
  induction plans generalizing before seen with
  | nil =>
    intro place e flaw
    rcases flaw.late_cases (clear place e flaw) with ⟨k, m, far, listed, rfl⟩ | rfl
    · rw [whole, List.append_nil] at listed
      exact absurd listed (Nat.not_lt.mpr far)
    · exact Place.noLater_self _
  | cons p rest ih =>
    have listed : s.plans[before.length]? = some p := by simp [whole]
    have taken : s.plans.take before.length = before := by simp [whole]
    rw [checkPlans]
    by_cases hidden : isBlank p.id = true
    · rw [if_pos hidden]
      exact ⟨_, .planId listed (Text.not_visible_iff.mpr hidden), noneBefore_plan listed clear
        (absurd · (Nat.lt_irrefl 0)) (absurd · (Nat.not_lt_zero 1)) (Nat.zero_le 2)⟩
    have id : Visible p.id := Text.visible_iff.mpr (Bool.eq_false_iff.mpr hidden)
    rw [if_neg hidden]
    by_cases hidden' : isBlank p.name = true
    · rw [if_pos hidden']
      exact ⟨_, .planName listed (Text.not_visible_iff.mpr hidden'), noneBefore_plan listed clear
        (fun _ => id) (absurd · (Nat.lt_irrefl 1)) (Nat.le_succ 1)⟩
    have name : Visible p.name := Text.visible_iff.mpr (Bool.eq_false_iff.mpr hidden')
    rw [if_neg hidden']
    -- The identifiers that were seen are those of the plans that `s` has before this one.
    have seen_iff : p.id ∈ seen ↔ ∃ q ∈ s.plans.take before.length, q.id = p.id := by
      rw [taken]
      exact known p.id
    by_cases repeated : p.id ∈ seen
    · rw [if_pos repeated]
      exact ⟨_, .planRepeated listed (seen_iff.mp repeated), noneBefore_plan listed clear
        (fun _ => id) (fun _ => name) (Nat.le_refl 2)⟩
    rw [if_neg repeated]
    have past : (s.Flaw earlier).NoneBefore [2, before.length + 1] :=
      noneBefore_next listed clear id name fun again => repeated (seen_iff.mpr again)
    have next : s.plans = (before ++ [p]) ++ rest := by simp [whole]
    refine ih next (fun id => ?_) (by simpa using past)
    simp [known, or_comm, eq_comm]

/-- A definition by itself is checked for all flaws but a repeated identifier. -/
theorem check_finds (earlier : List Service) (s : Service) :
    FoundUpTo (s.Flaw earlier) [3] s.check := by
  rw [check]
  by_cases id : isBlank s.id = true
  · rw [if_pos id]
    refine ⟨_, .id (Text.not_visible_iff.mpr id), fun place e flaw => ?_⟩
    rcases flaw.place_cases with rfl | rfl | ⟨j, n, -, rfl⟩ | rfl <;> simp
  rw [if_neg id]
  by_cases name : isBlank s.name = true
  · rw [if_pos name]
    refine ⟨_, .name (Text.not_visible_iff.mpr name), fun place e flaw => ?_⟩
    rcases flaw.place_cases with rfl | rfl | ⟨j, n, -, rfl⟩ | rfl
    · exact absurd (Text.not_visible_iff.mp flaw.of_id) id
    all_goals simp
  rw [if_neg name]
  have whole : s.plans = [] ++ s.plans := rfl
  refine checkPlans_finds whole (by simp) fun place e flaw => ?_
  rcases flaw.place_cases with rfl | rfl | ⟨j, n, -, rfl⟩ | rfl
  · exact absurd (Text.not_visible_iff.mp flaw.of_id) id
  · exact absurd (Text.not_visible_iff.mp flaw.of_name) name
  · simp
  · simp

/-- A definition that passes its check has no flaw but a repeated identifier. -/
theorem flawless (passed : (s.Flaw earlier).NoneBefore [3])
    (fresh : ¬ ∃ other ∈ earlier, other.id = s.id) : ¬ s.Flaw earlier place e := by
  intro flaw
  have late := passed place e flaw
  rcases flaw.place_cases with rfl | rfl | ⟨j, n, -, rfl⟩ | rfl
  · simp at late
  · simp at late
  · simp at late
  · exact fresh flaw.of_repeated

end Service

/-! ### Catalogs -/

namespace Catalog

variable {services : List Service} {place : Place} {e e' : CatalogError}

/-- A flaw of a list of definitions: one of a definition after those before it. -/
inductive Flaw (services : List Service) : Flaws
  | within {i : Nat} {s : Service} {place : Place} {e : CatalogError}
      (listed : services[i]? = some s) (flaw : s.Flaw (services.take i) place e) :
      Flaw services (i :: place) e

theorem Flaw.unique (flaw : Flaw services place e) (flaw' : Flaw services place e') : e = e' := by
  cases flaw with
  | within listed flaw =>
    cases flaw' with
    | within listed' flaw' =>
      cases listed.symm.trans listed'
      exact flaw.unique flaw'

section

variable {known rest : List Service} {s : Service} (whole : services = known ++ s :: rest)
include whole

/-- A flaw that is in no definition before `s` is one of `s`, or of a later one. -/
theorem Flaw.late_cases (flaw : Flaw services place e) (late : NoLater [known.length] place) :
    (∃ inner, s.Flaw known inner e ∧ place = known.length :: inner) ∨
      ∃ i inner, known.length < i ∧ place = i :: inner := by
  cases flaw with
  | @within i _ inner _ listed flaw =>
    rcases Nat.eq_or_lt_of_le (Place.noLater_single_iff.mp late) with rfl | after
    · have own : services[known.length]? = some s := by simp [whole]
      cases own.symm.trans listed
      have taken : services.take known.length = known := by simp [whole]
      rw [taken] at flaw
      exact .inl ⟨inner, flaw, rfl⟩
    · exact .inr ⟨i, inner, after, rfl⟩

theorem Flaw.of_within {inner : Place} (flaw : s.Flaw known inner e) :
    Flaw services (known.length :: inner) e := by
  have taken : services.take known.length = known := by simp [whole]
  exact .within (s := s) (by simp [whole]) (taken.symm ▸ flaw)

/-- Past the definitions before it, a definition without flaws up to some place in it. -/
theorem noneBefore_within {limit : Place} (clear : (Flaw services).NoneBefore [known.length])
    (own : (s.Flaw known).NoneBefore limit) :
    (Flaw services).NoneBefore (known.length :: limit) := by
  intro place e flaw
  rcases flaw.late_cases whole (clear place e flaw) with ⟨inner, its, rfl⟩ | ⟨i, inner, after, rfl⟩
  · exact .inr ⟨rfl, own inner e its⟩
  · exact .inl after

/-- Past the definitions before it, a definition without flaws. -/
theorem noneBefore_next (clear : (Flaw services).NoneBefore [known.length])
    (own : ∀ inner e, ¬ s.Flaw known inner e) :
    (Flaw services).NoneBefore [known.length + 1] := by
  intro place e flaw
  rcases flaw.late_cases whole (clear place e flaw) with ⟨inner, its, rfl⟩ | ⟨i, inner, after, rfl⟩
  · exact absurd its (own inner e)
  · exact Place.noLater_single_iff.mpr after

end

/-- The definitions are gone through one after another; none before them has a flaw. -/
theorem extend_finds {known rest : List Service} (whole : services = known ++ rest)
    (clear : (Flaw services).NoneBefore [known.length]) :
    FoundUpTo (Flaw services) [services.length] (extend known rest) := by
  induction rest generalizing known with
  | nil =>
    rw [List.append_nil] at whole
    subst whole
    exact clear
  | cons s rest ih =>
    have found := Service.check_finds known s
    rw [extend]
    cases checked : s.check with
    | error e =>
      rw [checked] at found
      obtain ⟨inner, flaw, none⟩ := found
      exact ⟨_, .of_within whole flaw, noneBefore_within whole clear none⟩
    | ok =>
      rw [checked] at found
      by_cases repeated : known.any (·.id = s.id) = true
      · rw [if_pos repeated]
        have again : ∃ other ∈ known, other.id = s.id := by simpa using repeated
        exact ⟨_, .of_within whole (.repeated again), noneBefore_within whole clear found⟩
      rw [if_neg repeated]
      have fresh : ¬ ∃ other ∈ known, other.id = s.id := by simpa using repeated
      have past : (Flaw services).NoneBefore [known.length + 1] :=
        noneBefore_next whole clear fun inner e => Service.flawless found fresh
      have next : services = (known ++ [s]) ++ rest := by simp [whole]
      exact ih next (by simpa using past)

theorem ofServices_finds (services : List Service) :
    FoundUpTo (Flaw services) [services.length] (ofServices services) := by
  have found : FoundUpTo (Flaw services) [services.length] (extend [] services) := by
    refine extend_finds rfl fun place e flaw => ?_
    cases flaw with
    | @within i => cases i <;> simp
  unfold ofServices
  cases extended : extend [] services with
  | ok => rwa [extended] at found
  | error e => rwa [extended] at found

/-- What a list of definitions must be like. -/
structure Sound (services : List Service) : Prop where
  ids : ∀ s ∈ services, Visible s.id
  names : ∀ s ∈ services, Visible s.name
  planIds : ∀ s ∈ services, ∀ p ∈ s.plans, Visible p.id
  planNames : ∀ s ∈ services, ∀ p ∈ s.plans, Visible p.name
  distinctPlans : ∀ s ∈ services, (s.plans.map (·.id)).Nodup
  distinct : (services.map (·.id)).Nodup

theorem sound_iff : Sound services ↔
    (∀ s ∈ services, s.WellFormed) ∧ (services.map (·.id)).Nodup := by
  constructor
  · intro sound
    exact ⟨fun s listed => ⟨Text.visible_iff.mp (sound.ids s listed),
      Text.visible_iff.mp (sound.names s listed),
      fun p offered => ⟨Text.visible_iff.mp (sound.planIds s listed p offered),
        Text.visible_iff.mp (sound.planNames s listed p offered)⟩,
      sound.distinctPlans s listed⟩, sound.distinct⟩
  · rintro ⟨formed, distinct⟩
    exact ⟨fun s listed => Text.visible_iff.mpr (formed s listed).id,
      fun s listed => Text.visible_iff.mpr (formed s listed).name,
      fun s listed p offered => Text.visible_iff.mpr ((formed s listed).plans p offered).1,
      fun s listed p offered => Text.visible_iff.mpr ((formed s listed).plans p offered).2,
      fun s listed => (formed s listed).distinct, distinct⟩

/-- A result that is had of sound definitions, and is otherwise the error of their first flaw. -/
structure Judges {α : Type} (services : List Service) (result : Except CatalogError α) : Prop where
  accepted : (∃ a, result = .ok a) ↔ Sound services
  reported : ∀ e, result = .error e ↔ (Flaw services).First e

theorem judges_ofServices (services : List Service) : Judges services (ofServices services) := by
  refine ⟨?_, fun e => ?_⟩
  · simp only [ofServices_eq_ok_iff, exists_eq_left, sound_iff]
  have found := ofServices_finds services
  cases made : ofServices services with
  | error e' =>
    rw [made] at found
    constructor
    · rintro ⟨⟩
      exact found
    · intro first
      rw [Flaws.First.unique found first fun _ _ _ => Flaw.unique]
  | ok c =>
    rw [made] at found
    refine iff_of_false nofun ?_
    rintro ⟨_, ⟨listed, flaw⟩, -⟩
    have late := found _ e ⟨listed, flaw⟩
    have soon := (List.getElem?_eq_some_iff.mp listed).1
    exact absurd soon (Nat.not_lt.mpr (Place.noLater_single_iff.mp late))

theorem Judges.map {α β : Type} {result : Except CatalogError α} (judged : Judges services result)
    (f : α → β) : Judges services (result.map f) := by
  refine ⟨?_, fun e => ?_⟩
  · rw [← judged.accepted]
    cases result <;> simp [Except.map]
  · rw [← judged.reported]
    cases result <;> simp [Except.map]

/-- A catalog is made of sound definitions and of no others, and so is a registry, whichever
providers serve them; otherwise the flaw that is reported is the one with the first place. -/
theorem first_flaw_reported {π : Type} (services : List Service) (entries : List (Service × π)) :
    Judges services (ofServices services) ∧
      Judges (entries.map (·.1)) (Registry.ofEntries entries) := by
  refine ⟨judges_ofServices services, ?_⟩
  rw [Registry.ofEntries_eq_map]
  exact (judges_ofServices _).map _

/-- Of two plans that repeat an identifier, in a service that does too, the plan is reported. -/
example : ofServices [{ id := "a", name := "x" }, { id := "a", name := "y", plans :=
      [{ id := "p", name := "m" }, { id := "p", name := "n" }] }] =
    .error (.duplicatePlan "a" "p") := rfl

end Catalog

end Brokerage
