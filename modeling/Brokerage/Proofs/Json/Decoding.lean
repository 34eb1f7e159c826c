import Brokerage.Json.Decoding
import Brokerage.Proofs.Json.Records
import Brokerage.Request.Codec

/-! Decoding. A reader says what a value has to be for a result. Fields that all pass the checks of
their slots make a record, and each field is taken from the pair that names it last. -/

namespace Brokerage

/-- A value, where null counts as none. -/
def Json.present? : Option Json → Option Json
  | some .null => none
  | v? => v?

namespace Reader

variable {α : Type} {name : String} {fields : Fields} {slots : List Slot}

theorem ok_bind {ε β : Type} (a : α) (f : α → Except ε β) : (Except.ok a >>= f) = f a := rfl

theorem bind_eq_ok_iff {ε β : Type} {x : Except ε α} {f : α → Except ε β} {b : β} :
    (x >>= f) = .ok b ↔ ∃ a, x = .ok a ∧ f a = .ok b := by
  constructor
  · intro h
    cases x with
    | error e => cases h
    | ok a => exact ⟨a, rfl, h⟩
  · rintro ⟨a, rfl, h⟩
    exact h

theorem map_eq_ok_iff {ε β : Type} {x : Except ε α} {f : α → β} {b : β} :
    x.map f = .ok b ↔ ∃ a, x = .ok a ∧ f a = b := by
  constructor
  · intro h
    cases x with
    | error e => cases h
    | ok a => exact ⟨a, rfl, Except.ok.inj h⟩
  · rintro ⟨a, rfl, rfl⟩
    rfl

/-- Fields pass if each passes the check of the slot that is found for it. -/
theorem checkFields_eq_ok_iff : checkFields slots fields = .ok () ↔
    ∀ p ∈ fields, ∀ s, slots.find? (·.name = p.1) = some s → s.check p.2 = .ok () := by
  induction fields with
  | nil => exact ⟨fun _ => List.forall_mem_nil _, fun _ => rfl⟩
  | cons p rest ih =>
    obtain ⟨k, v⟩ := p
    rw [checkFields, List.forM, bind_eq_ok_iff, List.forall_mem_cons, ← ih]
    cases found : slots.find? (·.name = k) with
    | none =>
      simp only [found]
      constructor
      · rintro ⟨_, -, rest⟩
        exact ⟨fun _ given => absurd given (Option.some_ne_none _).symm, rest⟩
      · rintro ⟨-, rest⟩
        exact ⟨(), trivial, rest⟩
    | some s =>
      simp only [found]
      constructor
      · rintro ⟨⟨⟩, passed, rest⟩
        exact ⟨fun _ given => Option.some.inj given ▸ passed, rest⟩
      · rintro ⟨passed, rest⟩
        exact ⟨(), passed s rfl, rest⟩

theorem checkFields_ok
    (checked : ∀ p ∈ fields, ∀ s ∈ slots, s.name = p.1 → s.check p.2 = .ok ()) :
    checkFields slots fields = .ok () :=
  checkFields_eq_ok_iff.mpr fun p hp s found =>
    checked p hp s (List.mem_of_find?_eq_some found) (by simpa using List.find?_some found)

/-- A record that is built from pairs which all pass the checks of their slots. -/
theorem record_ofList {pairs : List (String × Json)}
    (checked : ∀ p ∈ pairs, ∀ s ∈ slots, s.name = p.1 → s.check p.2 = .ok ()) :
    record name slots (.obj (Fields.ofList pairs)) = .ok (Fields.ofList pairs) := by
  rw [record, checkFields_ok fun p hp => checked p (Fields.mem_of_mem_ofList hp)]
  rfl

theorem required_ofList {pairs : List (String × Json)} {value : Reader α} {v : Json}
    (last : pairs.reverse.lookup name = some v) :
    required name value (Fields.ofList pairs) = value v := by
  rw [required, Fields.get?_ofList, last]

theorem withDefault_of_given {pairs : List (String × Json)} {value : Reader α} {default : α}
    {v : Json} (last : pairs.reverse.lookup name = some v) :
    withDefault name value default (Fields.ofList pairs) = value v := by
  rw [withDefault, Fields.get?_ofList, last]

theorem withDefault_of_missing {pairs : List (String × Json)} {value : Reader α} {default : α}
    (missing : pairs.reverse.lookup name = none) :
    withDefault name value default (Fields.ofList pairs) = .ok default := by
  rw [withDefault, Fields.get?_ofList, missing]

theorem optional_any (v : Json) : optional any v = .ok (Json.present? (some v)) := by
  cases v <;> rfl

/-! ### What is read -/

variable {v : Json}

theorem text_eq_ok_iff {s : String} : text v = .ok s ↔ v = .str s := by
  cases v <;> simp [text]

theorem boolean_eq_ok_iff {b : Bool} : boolean v = .ok b ↔ v = .bool b := by
  cases v <;> simp [boolean]

/-- All items are read, each as its own result. -/
theorem mapM_eq_ok_iff {γ : Type} {item : γ → Except DecodeError α} {items : List γ}
    {results : List α} : items.mapM item = .ok results ↔ items.map item = results.map .ok := by
  induction items generalizing results with
  | nil => cases results <;> simp [pure, Except.pure]
  | cons v items ih =>
    rw [List.mapM_cons, bind_eq_ok_iff]
    constructor
    · rintro ⟨b, first, rest⟩
      obtain ⟨bs, others, same⟩ := bind_eq_ok_iff.mp rest
      cases same
      rw [List.map_cons, List.map_cons, first, ih.mp others]
    · intro same
      obtain _ | ⟨b, bs⟩ := results
      · cases same
      · obtain ⟨first, others⟩ := List.cons.inj same
        exact ⟨b, first, bind_eq_ok_iff.mpr ⟨bs, ih.mpr others, rfl⟩⟩

/-- What reads every item that another reader reads, reads the same list. -/
theorem map_eq_ok_of_imp {γ : Type} {item other : γ → Except DecodeError α} {items : List γ}
    {results : List α} (imp : ∀ v b, item v = .ok b → other v = .ok b)
    (read : items.map item = results.map .ok) : items.map other = results.map .ok := by
  refine (List.map_congr_left fun v hv => ?_).trans read
  have there : item v ∈ results.map .ok := read ▸ List.mem_map_of_mem hv
  obtain ⟨b, -, same⟩ := List.mem_map.mp there
  rw [← same, imp v b same.symm]

theorem list_eq_ok_iff {item : Reader α} {results : List α} : list item v = .ok results ↔
    ∃ items, v = .arr items ∧ items.map item = results.map .ok := by
  cases v with
  | arr items => simp [list, mapM_eq_ok_iff]
  | null | bool | num | str | obj => simp [list]

theorem map_text_eq_ok_iff {texts : List (String × String)} : map text v = .ok texts ↔
    v = .obj (texts.map fun p => (p.1, .str p.2)) := by
  have one : ∀ (k : String) (w : Json) (p : String × String),
      (text w).map (k, ·) = .ok p ↔ (k, w) = (p.1, .str p.2) := by
    intro k w p
    rw [map_eq_ok_iff]
    constructor
    · rintro ⟨s, read, rfl⟩
      rw [text_eq_ok_iff.mp read]
    · rintro ⟨⟩
      exact ⟨p.2, rfl, rfl⟩
  cases v with
  | obj fields =>
    rw [map, mapM_eq_ok_iff, Json.obj.injEq]
    induction fields generalizing texts with
    | nil => cases texts <;> simp
    | cons p fields ih =>
      cases texts with
      | nil => simp
      | cons q texts => simp only [List.map_cons, List.cons.injEq, one, ih]
  | null | bool | num | str | arr => simp [map]

end Reader

namespace ProvisionRequest

open Reader

/-- The fields with which a request is written. -/
def fields (r : ProvisionRequest) : List (String × Json) :=
  [("service_id", .str r.serviceId), ("plan_id", .str r.planId),
    ("organization_guid", .str r.organizationGuid), ("space_guid", .str r.spaceGuid)] ++
    optionalField "parameters" r.parameters?

theorem toJson_eq (r : ProvisionRequest) : r.toJson = .obj r.fields := rfl

/-- A field with which a request is written is a text, or its parameters. -/
theorem text_or_parameters (r : ProvisionRequest) : ∀ p ∈ r.fields,
    (p.1 = "parameters" ∧ r.parameters? = some p.2) ∨ ∃ s, p.2 = .str s := by
  refine List.forall_mem_append.mpr ⟨?_, ?_⟩
  · simp
  · cases given : r.parameters? <;> simp [optionalField]

theorem checked_fields (r : ProvisionRequest) :
    ∀ p ∈ r.fields, ∀ s ∈ slots, s.name = p.1 → s.check p.2 = .ok () := by
  intro p hp s hs named
  simp only [slots, List.mem_cons, List.not_mem_nil, or_false] at hs
  rcases hs with rfl | rfl | rfl | rfl | rfl
  case inr.inr.inr.inr =>
    simp only [slot, optional_any]
    rfl
  all_goals
    rcases r.text_or_parameters p hp with ⟨parameters, -⟩ | ⟨s, isText⟩
    · exact absurd (named.trans parameters) (by decide)
    · rw [isText]
      rfl

/-- The fields of a request are decoded to the request, whose parameters are absent if they are
null. -/
theorem ofJson_fields (r : ProvisionRequest) : ofJson (.obj (Fields.ofList r.fields)) =
    .ok { r with parameters? := Json.present? r.parameters? } := by
  have checked := r.checked_fields
  -- The names are fixed, so that the pair which gives a field is found by evaluation.
  obtain ⟨serviceId, planId, organization, space, parameters?⟩ := r
  cases parameters? with
  | none =>
    rw [ofJson, record_ofList checked, ok_bind, required_ofList rfl, text, ok_bind,
      required_ofList rfl, text, ok_bind, withDefault_of_given rfl, text, ok_bind,
      withDefault_of_given rfl, text, ok_bind, withDefault_of_missing rfl]
    rfl
  | some v =>
    rw [ofJson, record_ofList checked, ok_bind, required_ofList rfl, text, ok_bind,
      required_ofList rfl, text, ok_bind, withDefault_of_given rfl, text, ok_bind,
      withDefault_of_given rfl, text, ok_bind, withDefault_of_given rfl, optional_any]
    rfl

end ProvisionRequest

end Brokerage
