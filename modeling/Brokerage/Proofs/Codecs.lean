import Brokerage.Catalog.Codec
import Brokerage.Proofs.Json.Layouts

/-! Requests, plans and services stay the same when they are written and read again, whatever they were
first read from: a record or a list, with names that nothing knows, nulls and absent fields. Parameters
are a record if a record was given, empty if nothing was, and refused else. -/

namespace Brokerage

open Reader

variable {α β : Type}

/-! ### Kinds of fields -/

namespace Column

variable (name : String)

def text (default? : Option String) (get : α → String) : Column α :=
  ⟨name, Reader.text, default?, get, fun s => some (.str s), id⟩

def flag (get : α → Bool) : Column α :=
  ⟨name, boolean, some false, get, fun b => some (.bool b), id⟩

def optionalText (get : α → Option String) : Column α :=
  ⟨name, optional Reader.text, some none, get, Option.map .str, id⟩

/-- A field with any value but null. -/
def free (get : α → Option Json) : Column α := ⟨name, optional any, some none, get, id, id⟩

def settings (get : α → List (String × String)) : Column α :=
  ⟨name, map Reader.text, some [], get,
    fun texts => some (.obj (texts.map fun p => (p.1, .str p.2))), id⟩

def list (item : Reader β) (write : β → Json) (known : Json → Json) (get : α → List β) : Column α :=
  ⟨name, Reader.list item, some [], get, fun items => some (.arr (items.map write)),
    fun
    | .arr items => .arr (items.map known)
    | v => v⟩

variable {name} {least : Nat}

/-- A field that is written as it was read is kept. -/
theorem sound_of_exact {c : Column α} (all : c.known = id)
    (exact : ∀ {v b}, c.reader v = .ok b →
      c.write b = some v ∨ c.write b = none ∧ c.default? = some b)
    (missing : ∀ {depth b}, c.default? = some b → c.Keeps (depth + least) b) : c.Sound least where
  given plain read := by
    rcases exact read with written | ⟨unwritten, default⟩
    · exact .of_plain written plain read
    · exact .of_unwritten unwritten default
  missing := missing
  passes {v b} := by rw [all, id]

theorem sound_text (default? : Option String) (get : α → String) :
    (text name default? get).Sound least :=
  sound_of_exact rfl (fun read => .inl (congrArg some (text_eq_ok_iff.mp read).symm))
    fun {_ b} _ => .of_plain rfl (.str b) rfl

theorem sound_flag (get : α → Bool) : (flag name get).Sound least :=
  sound_of_exact rfl (fun read => .inl (congrArg some (boolean_eq_ok_iff.mp read).symm))
    fun {_ b} _ => .of_plain rfl (.bool b) rfl

theorem sound_optionalText (get : α → Option String) : (optionalText name get).Sound least := by
  refine sound_of_exact rfl (fun {v b} read => ?_) fun {_ b} default => ?_
  · cases v with
    | null =>
      cases read
      exact .inr ⟨rfl, rfl⟩
    | str s =>
      cases read
      exact .inl rfl
    | bool | num | arr | obj => cases read
  · cases default
    exact .of_unwritten rfl rfl

theorem sound_free (get : α → Option Json) : (free name get).Sound least := by
  refine sound_of_exact rfl (fun {v b} read => ?_) fun {_ b} default => ?_
  · cases v with
    | null =>
      cases read
      exact .inr ⟨rfl, rfl⟩
    | bool | num | str | arr | obj =>
      cases read
      exact .inl rfl
  · cases default
    exact .of_unwritten rfl rfl

theorem sound_settings (get : α → List (String × String)) :
    (settings name get).Sound (least + 1) := by
  refine sound_of_exact rfl (fun read => .inl (congrArg some (map_text_eq_ok_iff.mp read).symm))
    fun {_ b} default => ?_
  cases default
  exact .of_plain rfl (.obj .nil (List.forall_mem_nil _)) rfl

/-- A list is kept if its items are. -/
theorem sound_list {item : Reader β} {write : β → Json} {known : Json → Json}
    (kept : ∀ {depth v b}, v.Plain (depth + least) → item v = .ok b →
      (write b).Spellable (depth + least) ∧ ReadsBack item (write b) b)
    (passes : ∀ {v b}, item (known v) = .ok b ↔ item v = .ok b) (get : α → List β) :
    (list name item write known get).Sound (least + 1) where
  given := by
    intro depth v (results : List β) plain read
    obtain ⟨items, rfl, each⟩ := list_eq_ok_iff.mp read
    have written : ∀ b ∈ results,
        (write b).Spellable (depth + least) ∧ ReadsBack item (write b) b := by
      intro b hb
      have there : .ok b ∈ items.map item := each ▸ List.mem_map_of_mem hb
      obtain ⟨w, hw, read⟩ := List.mem_map.mp there
      cases plain with
      | arr plain => exact kept (plain w hw) read
    refine ⟨.arr (List.forall_mem_map.mpr fun b hb => (written b hb).1), ?_, ?_⟩
    · refine list_eq_ok_iff.mpr ⟨_, rfl, ?_⟩
      rw [List.map_map]
      exact List.map_congr_left fun b hb => (written b hb).2.1
    · refine list_eq_ok_iff.mpr ⟨_, Json.ordered_arr _, ?_⟩
      rw [List.map_map, List.map_map]
      exact List.map_congr_left fun b hb => (written b hb).2.2
  missing := by
    rintro depth results ⟨⟩
    exact .of_plain rfl (.arr (List.forall_mem_nil _)) rfl
  passes := by
    rintro v (results : List β)
    cases v with
    | null | bool | num | str | obj => rfl
    | arr items =>
      refine mapM_eq_ok_iff.trans (.trans ?_ mapM_eq_ok_iff.symm)
      rw [List.map_map]
      exact ⟨map_eq_ok_of_imp fun _ _ => passes.mp, map_eq_ok_of_imp fun _ _ => passes.mpr⟩

end Column

/-! ### Layouts -/

namespace ProvisionRequest

def layout : Layout ProvisionRequest where
  name := "ProvisionDetails"
  columns := [.text "service_id" none (·.serviceId), .text "plan_id" none (·.planId),
    .text "organization_guid" (some "") (·.organizationGuid),
    .text "space_guid" (some "") (·.spaceGuid), .free "parameters" (·.parameters?)]
  distinct := by decide

theorem described : layout.Describes ofJson toJson where
  decodes := by
    intro v r
    simp only [ofJson, bind_eq_ok_iff, layout, List.forall_mem_cons]
    refine exists_congr fun fields => and_congr_right fun _ => ⟨?_, ?_⟩
    · rintro ⟨_, service, _, plan, _, organization, _, space, _, parameters, ⟨⟩⟩
      exact ⟨service, plan, organization, space, parameters, List.forall_mem_nil _⟩
    · rintro ⟨service, plan, organization, space, parameters, -⟩
      exact ⟨_, service, _, plan, _, organization, _, space, _, parameters, rfl⟩
  encodes r := by
    obtain ⟨_, _, _, _, _ | _⟩ := r <;> rfl

theorem sound_columns : ∀ c ∈ layout.columns, c.Sound 0 := by
  simp [layout, Column.sound_text, Column.sound_free]

end ProvisionRequest

namespace DeprovisionRequest

def layout : Layout DeprovisionRequest where
  name := "DeprovisionDetails"
  columns := [.text "service_id" none (·.serviceId), .text "plan_id" none (·.planId)]
  distinct := by decide

theorem described : layout.Describes ofJson toJson where
  decodes := by
    intro v r
    simp only [ofJson, bind_eq_ok_iff, layout, List.forall_mem_cons]
    refine exists_congr fun fields => and_congr_right fun _ => ⟨?_, ?_⟩
    · rintro ⟨_, service, _, plan, ⟨⟩⟩
      exact ⟨service, plan, List.forall_mem_nil _⟩
    · rintro ⟨service, plan, -⟩
      exact ⟨_, service, _, plan, rfl⟩
  encodes _ := rfl

theorem sound_columns : ∀ c ∈ layout.columns, c.Sound 0 := by
  simp [layout, Column.sound_text]

end DeprovisionRequest

namespace BindRequest

def layout : Layout BindRequest where
  name := "BindDetails"
  columns := [.text "service_id" none (·.serviceId), .text "plan_id" none (·.planId),
    .optionalText "app_guid" (·.appGuid?), .free "parameters" (·.parameters?)]
  distinct := by decide

theorem described : layout.Describes ofJson toJson where
  decodes := by
    intro v r
    simp only [ofJson, bind_eq_ok_iff, layout, List.forall_mem_cons]
    refine exists_congr fun fields => and_congr_right fun _ => ⟨?_, ?_⟩
    · rintro ⟨_, service, _, plan, _, app, _, parameters, ⟨⟩⟩
      exact ⟨service, plan, app, parameters, List.forall_mem_nil _⟩
    · rintro ⟨service, plan, app, parameters, -⟩
      exact ⟨_, service, _, plan, _, app, _, parameters, rfl⟩
  encodes r := by
    obtain ⟨_, _, _ | _, _ | _⟩ := r <;> rfl

theorem sound_columns : ∀ c ∈ layout.columns, c.Sound 0 := by
  simp [layout, Column.sound_text, Column.sound_optionalText, Column.sound_free]

end BindRequest

namespace UnbindRequest

def layout : Layout UnbindRequest where
  name := "UnbindDetails"
  columns := [.text "service_id" none (·.serviceId), .text "plan_id" none (·.planId)]
  distinct := by decide

theorem described : layout.Describes ofJson toJson where
  decodes := by
    intro v r
    simp only [ofJson, bind_eq_ok_iff, layout, List.forall_mem_cons]
    refine exists_congr fun fields => and_congr_right fun _ => ⟨?_, ?_⟩
    · rintro ⟨_, service, _, plan, ⟨⟩⟩
      exact ⟨service, plan, List.forall_mem_nil _⟩
    · rintro ⟨service, plan, -⟩
      exact ⟨_, service, _, plan, rfl⟩
  encodes _ := rfl

theorem sound_columns : ∀ c ∈ layout.columns, c.Sound 0 := by
  simp [layout, Column.sound_text]

end UnbindRequest

namespace UpdateRequest

def layout : Layout UpdateRequest where
  name := "UpdateDetails"
  columns := [.text "service_id" none (·.serviceId), .optionalText "plan_id" (·.planId?),
    .free "parameters" (·.parameters?), .optionalText "previous_plan_id" (·.previousPlanId?)]
  distinct := by decide

theorem described : layout.Describes ofJson toJson where
  decodes := by
    intro v r
    simp only [ofJson, bind_eq_ok_iff, layout, List.forall_mem_cons]
    refine exists_congr fun fields => and_congr_right fun _ => ⟨?_, ?_⟩
    · rintro ⟨_, service, _, plan, _, parameters, _, previous, ⟨⟩⟩
      exact ⟨service, plan, parameters, previous, List.forall_mem_nil _⟩
    · rintro ⟨service, plan, parameters, previous, -⟩
      exact ⟨_, service, _, plan, _, parameters, _, previous, rfl⟩
  encodes r := by
    obtain ⟨_, _ | _, _ | _, _ | _⟩ := r <;> rfl

theorem sound_columns : ∀ c ∈ layout.columns, c.Sound 0 := by
  simp [layout, Column.sound_text, Column.sound_optionalText, Column.sound_free]

end UpdateRequest

namespace Plan

def layout : Layout Plan where
  name := "ServicePlan"
  columns := [.text "id" (some "") (·.id), .text "name" (some "") (·.name),
    .text "description" (some "") (·.description), .flag "free" (·.free),
    .settings "service_properties" (·.properties)]
  distinct := by decide

theorem described : layout.Describes ofJson toJson where
  decodes := by
    intro v p
    simp only [ofJson, bind_eq_ok_iff, layout, List.forall_mem_cons]
    refine exists_congr fun fields => and_congr_right fun _ => ⟨?_, ?_⟩
    · rintro ⟨_, id, _, name, _, description, _, free, _, properties, ⟨⟩⟩
      exact ⟨id, name, description, free, properties, List.forall_mem_nil _⟩
    · rintro ⟨id, name, description, free, properties, -⟩
      exact ⟨_, id, _, name, _, description, _, free, _, properties, rfl⟩
  encodes _ := rfl

theorem sound_columns : ∀ c ∈ layout.columns, c.Sound 1 := by
  simp [layout, Column.sound_text, Column.sound_flag, Column.sound_settings]

end Plan

namespace Service

def layout : Layout Service where
  name := "ServiceDefinition"
  columns := [.text "id" (some "") (·.id), .text "name" (some "") (·.name),
    .text "description" (some "") (·.description), .flag "bindable" (·.bindable),
    .flag "plan_updateable" (·.planUpdateable), .list "tags" text .str (fun v => v) (·.tags),
    .list "plans" Plan.ofJson Plan.toJson Plan.layout.known (·.plans)]
  distinct := by decide

theorem described : layout.Describes ofJson toJson where
  decodes := by
    intro v s
    simp only [ofJson, bind_eq_ok_iff, layout, List.forall_mem_cons]
    refine exists_congr fun fields => and_congr_right fun _ => ⟨?_, ?_⟩
    · rintro ⟨_, id, _, name, _, description, _, bindable, _, updateable, _, tags, _, plans, ⟨⟩⟩
      exact ⟨id, name, description, bindable, updateable, tags, plans, List.forall_mem_nil _⟩
    · rintro ⟨id, name, description, bindable, updateable, tags, plans, -⟩
      exact ⟨_, id, _, name, _, description, _, bindable, _, updateable, _, tags, _, plans, rfl⟩
  encodes _ := rfl

theorem sound_columns : ∀ c ∈ layout.columns, c.Sound 3 := by
  have tag : ∀ {depth v s}, v.Plain (depth + 2) → text v = .ok s →
      (Json.str s).Spellable (depth + 2) ∧ ReadsBack text (.str s) s :=
    fun {_ _ s} _ _ => ⟨.str s, rfl, rfl⟩
  have plan : ∀ {depth v p}, v.Plain (depth + 2) → Plan.ofJson v = .ok p →
      p.toJson.Spellable (depth + 2) ∧ ReadsBack Plan.ofJson p.toJson p :=
    fun plain read => Plan.described.again Plan.sound_columns plain read
  have known : ∀ {v p}, Plan.ofJson (Plan.layout.known v) = .ok p ↔ Plan.ofJson v = .ok p :=
    Plan.described.decode_known_iff Plan.sound_columns
  simp [layout, Column.sound_text, Column.sound_flag, Column.sound_list tag Iff.rfl,
    Column.sound_list plan known]

end Service

/-! ### Parameters -/

/-- How parameters are taken: nothing and null are empty, a record is taken as it is, and all else
is refused. -/
structure TakenAs (given : Option Json) (taken : Except ParameterError Fields) : Prop where
  empty_iff : taken = .ok [] ↔ given = none ∨ given = some .null ∨ given = some (.obj [])
  same : ∀ fields, given = some (.obj fields) → taken = .ok fields
  refused : ∀ w, given = some w → w ≠ .null → (∀ fields, w ≠ .obj fields) → taken = .error ⟨w⟩

theorem takenAs_present (given : Option Json) :
    TakenAs given (parameterFields (Json.present? given)) := by
  cases given with
  | none => exact ⟨by simp [parameterFields, Json.present?], nofun, nofun⟩
  | some v =>
    cases v with
    | null =>
      refine ⟨by simp [parameterFields, Json.present?], nofun, ?_⟩
      rintro w ⟨⟩ absent
      exact absurd rfl absent
    | obj fields =>
      refine ⟨by simp [parameterFields, Json.present?], ?_, ?_⟩
      · rintro fields ⟨⟩
        rfl
      · rintro w ⟨⟩ - other
        exact absurd rfl (other fields)
    | bool | num | str | arr =>
      refine ⟨by simp [parameterFields, Json.present?], nofun, ?_⟩
      rintro w ⟨⟩ - -
      rfl

/-- A free field is decoded to what is given for it, with null as nothing. -/
theorem Layout.Describes.free_eq {l : Layout α} {decode : Reader α} {encode : α → Json}
    (described : l.Describes decode encode) {name : String} {get : α → Option Json}
    (h : .free name get ∈ l.columns) {v : Json} {d : α} (decoded : decode v = .ok d) :
    get d = Json.present? ((l.fields v).get? name) := by
  obtain ⟨fields, laid, reads⟩ := described.decodes.mp decoded
  obtain ⟨rfl, -, -⟩ := Layout.record_eq_ok_iff.mp laid
  obtain ⟨w, given, read⟩ | ⟨missing, default⟩ := Column.read_eq_ok_iff.mp (reads _ h)
  · have given : (l.fields v).get? name = some w := given
    rw [given]
    exact Except.ok.inj (read.symm.trans (optional_any w))
  · have missing : (l.fields v).get? name = none := missing
    rw [missing]
    exact (Option.some.inj default).symm

/-! ### Reading again -/

/-- A record of the layout is decoded from `v` if it is what the fields of `v` are read as, and only
then. It is encoded so that it is decoded again: from the fields in the order in which they are
written, from the same value with its names in order, and from its text, if `v` is nested no deeper
than a text may be. What `v` has beside its known part does not matter. -/
structure Recodes (l : Layout α) (decode : Reader α) (encode : α → Json) (depth : Nat) (v : Json) :
    Prop where
  reads : ∀ d, decode v = .ok d ↔
    l.Fits v ∧ ∀ c ∈ l.columns, c.read (l.fields v) = .ok (c.get d)
  again : ∀ d, decode v = .ok d → decode (encode d) = .ok d ∧ decode (encode d).ordered = .ok d
  text : depth ≤ Json.maxDepth → ∀ d, decode v = .ok d →
    ∃ w, Json.read? (encode d).text = some w ∧ decode w = .ok d
  known : ∀ d, decode (l.known v) = .ok d ↔ decode v = .ok d

theorem Layout.Describes.recodes_of_plain {l : Layout α} {decode : Reader α} {encode : α → Json}
    {least : Nat} (described : l.Describes decode encode) (sound : ∀ c ∈ l.columns, c.Sound least)
    (shallow : least < Json.maxDepth) {depth : Nat} {v : Json} (plain : v.Plain depth) :
    Recodes l decode encode depth v where
  reads _ := described.decode_eq_ok_iff plain
  again d decoded := by
    have deeper : v.Plain (depth + least + 1) := plain.mono (by omega)
    exact (described.again sound deeper decoded).2
  text := by
    intro within d decoded
    obtain ⟨room, deepest⟩ := Nat.exists_eq_add_of_lt shallow
    rw [Nat.add_comm least] at deepest
    obtain ⟨spellable, -, read⟩ := described.again sound (deepest ▸ plain.mono within) decoded
    exact ⟨_, (deepest ▸ spellable : (encode d).Spellable Json.maxDepth).read?_text, read⟩
  known _ := described.decode_known_iff sound

/-- Whatever 64 bits and texts can hold: a request, a plan or a service that is decoded from it is
decoded again from what it is encoded to, and is the same without the names that nothing knows. Its
parameters are the record under their name, or at their place in a list. -/
theorem Json.Plain.recodes {depth : Nat} {v : Json} (plain : v.Plain depth) :
    Recodes ProvisionRequest.layout ProvisionRequest.ofJson ProvisionRequest.toJson depth v ∧
    Recodes BindRequest.layout BindRequest.ofJson BindRequest.toJson depth v ∧
    Recodes DeprovisionRequest.layout DeprovisionRequest.ofJson DeprovisionRequest.toJson depth v ∧
    Recodes UnbindRequest.layout UnbindRequest.ofJson UnbindRequest.toJson depth v ∧
    Recodes UpdateRequest.layout UpdateRequest.ofJson UpdateRequest.toJson depth v ∧
    Recodes Plan.layout Plan.ofJson Plan.toJson depth v ∧
    Recodes Service.layout Service.ofJson Service.toJson depth v ∧
    (∀ r, ProvisionRequest.ofJson v = .ok r →
      TakenAs ((ProvisionRequest.layout.fields v).get? "parameters") r.parameters) ∧
    ∀ r, BindRequest.ofJson v = .ok r →
      TakenAs ((BindRequest.layout.fields v).get? "parameters") r.parameters := by
  refine ⟨ProvisionRequest.described.recodes_of_plain ProvisionRequest.sound_columns ?_ plain,
    BindRequest.described.recodes_of_plain BindRequest.sound_columns ?_ plain,
    DeprovisionRequest.described.recodes_of_plain DeprovisionRequest.sound_columns ?_ plain,
    UnbindRequest.described.recodes_of_plain UnbindRequest.sound_columns ?_ plain,
    UpdateRequest.described.recodes_of_plain UpdateRequest.sound_columns ?_ plain,
    Plan.described.recodes_of_plain Plan.sound_columns ?_ plain,
    Service.described.recodes_of_plain Service.sound_columns ?_ plain, ?_, ?_⟩
  iterate 7 decide
  · intro r decoded
    have field : .free "parameters" (·.parameters?) ∈ ProvisionRequest.layout.columns := by
      simp [ProvisionRequest.layout]
    rw [ProvisionRequest.parameters, ProvisionRequest.described.free_eq field decoded]
    exact takenAs_present _
  · intro r decoded
    have field : .free "parameters" (·.parameters?) ∈ BindRequest.layout.columns := by
      simp [BindRequest.layout]
    rw [BindRequest.parameters, BindRequest.described.free_eq field decoded]
    exact takenAs_present _

namespace Sample

def size : Fields := [("size", .ofNat 3)]

def sized : BindRequest := ⟨"s", "p", none, some (.obj size)⟩

/-- A request with a field that is null. -/
def given : Json :=
  .obj [("app_guid", .null), ("parameters", .obj size), ("plan_id", .str "p"),
    ("service_id", .str "s")]

/-- The request with a field that nothing knows. -/
def extended : Json :=
  .obj [("app_guid", .null), ("extra", .arr []), ("parameters", .obj size), ("plan_id", .str "p"),
    ("service_id", .str "s")]

theorem plain_extended : extended.Plain 2 := by
  have three : (Json.ofNat 3).Plain 0 := .whole (by decide) (by decide)
  have parameters : (Json.obj size).Plain 1 :=
    .obj (List.pairwise_singleton _ _) (List.forall_mem_singleton.mpr three)
  refine .obj (by unfold Fields.Sorted; decide) ?_
  simp only [List.forall_mem_cons]
  exact ⟨.null, .arr (List.forall_mem_nil _), parameters, .str _, .str _, List.forall_mem_nil _⟩

end Sample

/-- A request is the same without the field that nothing knows, and when it is read again. -/
theorem Json.Plain.recodes_extended :
    Sample.extended.Plain 2 ∧ BindRequest.ofJson Sample.extended = .ok Sample.sized ∧
      BindRequest.layout.known Sample.extended = Sample.given ∧
      BindRequest.ofJson Sample.given = .ok Sample.sized ∧
      BindRequest.ofJson Sample.sized.toJson = .ok Sample.sized ∧
      (∃ w, Json.read? Sample.sized.toJson.text = some w ∧
        BindRequest.ofJson w = .ok Sample.sized) ∧
      Sample.sized.parameters = .ok Sample.size := by
  obtain ⟨-, recodes, -, -, -, -, -, -, taken⟩ := Sample.plain_extended.recodes
  have decoded : BindRequest.ofJson Sample.extended = .ok Sample.sized := rfl
  have reduced : BindRequest.layout.known Sample.extended = Sample.given := rfl
  exact ⟨Sample.plain_extended, decoded, reduced, reduced ▸ (recodes.known _).mpr decoded,
    (recodes.again _ decoded).1, recodes.text (by decide) _ decoded,
    (taken _ decoded).same _ rfl⟩

end Brokerage
