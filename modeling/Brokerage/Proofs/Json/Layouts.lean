import Brokerage.Proofs.Json.Decoding
import Brokerage.Proofs.Json.RoundTrip
import Brokerage.Proofs.Keyed

/-! Typed records that are described field by field. A described record is read again from what is
written for it if each of its fields is, and what a value has beside the described fields does not
matter. -/

namespace Brokerage

open Reader

variable {α β : Type}

/-- A field of an `α`: how it is read and how it is written. -/
structure Column (α : Type) where
  {β : Type}
  name : String
  reader : Reader β
  /-- What stands for the field if it is left out; without it, the field has to be there. -/
  default? : Option β
  get : α → β
  /-- What is written for the field, unless it is left out. -/
  write : β → Option Json
  /-- The part of a value that is looked at. -/
  known : Json → Json

/-- The fields of an `α`, in the order of its declaration. -/
structure Layout (α : Type) where
  name : String
  columns : List (Column α)
  distinct : (columns.map (·.name)).Nodup

/-! ### Fields -/

/-- What was written is read as `a`, also if the names in it are put in order. -/
def Reader.ReadsBack (reader : Reader β) (w : Json) (a : β) : Prop :=
  reader w = .ok a ∧ reader w.ordered = .ok a

namespace Column

def slot (c : Column α) : Slot := ⟨c.name, fun v => (c.reader v).map fun _ => (), c.default?.isNone⟩

/-- The field, taken from a record. -/
def read (c : Column α) (fields : Fields) : Except DecodeError c.β :=
  match fields.get? c.name with
  | some v => c.reader v
  | none =>
    match c.default? with
    | some default => .ok default
    | none => .error (.missing c.name)

/-- What is written for `b` is read as `b`, and so is a field that is left out for `b`. -/
def Keeps (c : Column α) (depth : Nat) (b : c.β) : Prop :=
  match c.write b with
  | some w => w.Spellable depth ∧ ReadsBack c.reader w b
  | none => c.default? = some b

/-- All that can be read of the field, in a value of any depth, is kept, and it is read from the
known part of a value. What is written may be nested `least` deep even if what was read is not. -/
structure Sound (c : Column α) (least : Nat) : Prop where
  given : ∀ {depth : Nat} {v : Json} {b : c.β}, v.Plain (depth + least) → c.reader v = .ok b →
    c.Keeps (depth + least) b
  missing : ∀ {depth : Nat} {b : c.β}, c.default? = some b → c.Keeps (depth + least) b
  passes : ∀ {v : Json} {b : c.β}, c.reader (c.known v) = .ok b ↔ c.reader v = .ok b

variable {c : Column α} {depth : Nat} {fields : Fields} {v w : Json} {b : c.β}

theorem check_eq_ok_iff : c.slot.check v = .ok () ↔ ∃ b, c.reader v = .ok b := by
  simp [slot, map_eq_ok_iff]

theorem read_eq_ok_iff : c.read fields = .ok b ↔
    (∃ v, fields.get? c.name = some v ∧ c.reader v = .ok b) ∨
      fields.get? c.name = none ∧ c.default? = some b := by
  rw [read]
  cases fields.get? c.name with
  | some v => simp
  | none => cases c.default? <;> simp

/-- A field is kept if what is written for it is in order and is read as it. -/
theorem Keeps.of_plain (written : c.write b = some w) (plain : w.Plain depth)
    (read : c.reader w = .ok b) : c.Keeps depth b := by
  rw [Keeps, written]
  exact ⟨plain.spellable, read, by rw [plain.ordered_eq, read]⟩

theorem Keeps.of_unwritten (unwritten : c.write b = none) (default : c.default? = some b) :
    c.Keeps depth b := by
  rw [Keeps, unwritten]
  exact default

/-- What is kept is read from a record that has what was written for it, and only that. -/
theorem Keeps.read_eq_ok (keeps : c.Keeps depth b) {f : Json → Json}
    (each : ∀ {w : Json}, ReadsBack c.reader w b → c.reader (f w) = .ok b)
    (held : fields.get? c.name = (c.write b).map f) : c.read fields = .ok b := by
  rw [read_eq_ok_iff, held]
  rw [Keeps] at keeps
  cases written : c.write b with
  | none =>
    rw [written] at keeps
    exact .inr ⟨rfl, keeps⟩
  | some w =>
    rw [written] at keeps
    exact .inl ⟨_, rfl, each keeps.2⟩

end Column

namespace Layout

variable {l : Layout α} {c : Column α} {f : Column α → Option Json} {least : Nat}

def slots (l : Layout α) : List Slot := l.columns.map Column.slot

/-- The record whose fields are given by `f`, without those for which there is nothing. -/
def pairs (l : Layout α) (f : Column α → Option Json) : Fields :=
  l.columns.filterMap fun c => (f c).map (c.name, ·)

/-- The fields that a value gives: those of a record, or the items of a list in the order of the
declaration. -/
def fields (l : Layout α) : Json → Fields
  | .obj fields => fields
  | .arr items => named l.slots items
  | _ => []

/-- The described fields, each reduced to the part that is looked at. -/
def knownFields (l : Layout α) (fields : Fields) : Fields :=
  fields.filterMap fun p => (l.columns.find? (·.name = p.1)).map fun c => (p.1, c.known p.2)

/-- Items for fields, each reduced to the part that is looked at. -/
def knownItems : List (Column α) → List Json → List Json
  | c :: columns, v :: items => c.known v :: knownItems columns items
  | _, items => items

/-- The value without what its reader passes over: the names that are not described, in the value
itself and inside of it. -/
def known (l : Layout α) : Json → Json
  | .obj fields => .obj (l.knownFields fields)
  | .arr items => .arr (knownItems l.columns items)
  | v => v

/-! ### Columns by name -/

theorem find?_name (h : c ∈ l.columns) : l.columns.find? (·.name = c.name) = some c :=
  find?_key_of_mem l.distinct h

theorem mem_of_find? {k : String} (found : l.columns.find? (·.name = k) = some c) :
    c ∈ l.columns ∧ c.name = k :=
  ⟨List.mem_of_find?_eq_some found, by simpa using List.find?_some found⟩

theorem find?_slot (k : String) : l.slots.find? (·.name = k) =
    (l.columns.find? (·.name = k)).map Column.slot :=
  List.find?_map

theorem mem_pairs {p : String × Json} (h : p ∈ l.pairs f) :
    ∃ c ∈ l.columns, f c = some p.2 ∧ c.name = p.1 := by
  obtain ⟨c, hc, hp⟩ := List.mem_filterMap.mp h
  obtain ⟨w, written, rfl⟩ := Option.map_eq_some_iff.mp hp
  exact ⟨c, hc, written, rfl⟩

/-- Each name is there once. -/
theorem pairwise_pairs : (l.pairs f).Pairwise fun p q => p.1 ≠ q.1 := by
  refine List.Pairwise.filterMap _ ?_ (List.pairwise_map.mp l.distinct)
  intro c c' apart p hp q hq
  obtain ⟨w, -, rfl⟩ := Option.map_eq_some_iff.mp hp
  obtain ⟨w', -, rfl⟩ := Option.map_eq_some_iff.mp hq
  exact apart

theorem get?_pairs (h : c ∈ l.columns) : (l.pairs f).get? c.name = f c := by
  cases written : f c with
  | some w =>
    have there : (c.name, w) ∈ l.pairs f :=
      List.mem_filterMap.mpr ⟨c, h, by rw [written]; rfl⟩
    exact Fields.get?_of_mem pairwise_pairs there
  | none =>
    -- What stands under the name comes from a field of that name, and there is no other.
    refine List.lookup_eq_none_iff.mpr fun p hp => bne_iff_ne.mpr fun named => ?_
    obtain ⟨c', hc', written', same⟩ := mem_pairs hp
    have same : some c' = some c := by rw [← find?_name hc', ← find?_name h, named, same]
    cases written.symm.trans (Option.some.inj same ▸ written')

/-! ### Records -/

/-- The value is a record, or a list with items for it. -/
def Fits (l : Layout α) : Json → Prop
  | .obj _ => True
  | .arr items => checkLength l.name l.slots items.length = .ok ()
  | _ => False

theorem record_eq_ok_iff {v : Json} {fields : Fields} : record l.name l.slots v = .ok fields ↔
    fields = l.fields v ∧ l.Fits v ∧ checkFields l.slots fields = .ok () := by
  cases v with
  | obj given =>
    rw [record, map_eq_ok_iff]
    constructor
    · rintro ⟨⟨⟩, passed, rfl⟩
      exact ⟨rfl, trivial, passed⟩
    · rintro ⟨rfl, -, passed⟩
      exact ⟨(), passed, rfl⟩
  | arr items =>
    rw [record, bind_eq_ok_iff]
    constructor
    · rintro ⟨⟨⟩, passed, rest⟩
      obtain ⟨⟨⟩, fits, same⟩ := bind_eq_ok_iff.mp rest
      cases same
      exact ⟨rfl, fits, passed⟩
    · rintro ⟨rfl, fits, passed⟩
      exact ⟨(), passed, bind_eq_ok_iff.mpr ⟨(), fits, rfl⟩⟩
  | null | bool | num | str =>
    constructor
    · intro laid
      cases laid
    · rintro ⟨-, unfit, -⟩
      exact unfit.elim

theorem checkFields_eq_ok_iff {fields : Fields} : checkFields l.slots fields = .ok () ↔
    ∀ p ∈ fields, ∀ c, l.columns.find? (·.name = p.1) = some c → ∃ b, c.reader p.2 = .ok b := by
  rw [Reader.checkFields_eq_ok_iff]
  refine forall₂_congr fun p hp => ?_
  rw [find?_slot]
  cases l.columns.find? (·.name = p.1) with
  | none => simp
  | some c => simp [← Column.check_eq_ok_iff]

/-- Fields of distinct names pass if all that are described can be read. -/
theorem checkFields_of_reads {fields : Fields} (once : fields.Pairwise fun p q => p.1 ≠ q.1)
    (reads : ∀ c ∈ l.columns, ∃ b, c.read fields = .ok b) :
    checkFields l.slots fields = .ok () := by
  refine checkFields_eq_ok_iff.mpr fun p hp c found => ?_
  obtain ⟨hc, named⟩ := mem_of_find? found
  have given : fields.get? c.name = some p.2 := named ▸ Fields.get?_of_mem once hp
  obtain ⟨b, read⟩ := reads c hc
  obtain ⟨w, same, read⟩ | ⟨missing, -⟩ := Column.read_eq_ok_iff.mp read
  · cases given.symm.trans same
    exact ⟨_, read⟩
  · cases given.symm.trans missing

theorem pairwise_zip {names : List String} (distinct : names.Nodup) (items : List Json) :
    (names.zip items).Pairwise fun p q => p.1 ≠ q.1 := by
  induction names generalizing items with
  | nil => exact .nil
  | cons k names ih =>
    obtain ⟨new, others⟩ := List.nodup_cons.mp distinct
    cases items with
    | nil => exact .nil
    | cons v items =>
      refine .cons (fun p hp (same : k = p.1) => new ?_) (ih others items)
      exact same ▸ (List.of_mem_zip hp).1

/-- A plain value gives each field once. -/
theorem pairwise_fields {v : Json} {depth : Nat} (plain : v.Plain depth) :
    (l.fields v).Pairwise fun p q => p.1 ≠ q.1 := by
  cases plain with
  | obj sorted _ => exact sorted.imp String.ne_of_lt
  | @arr _ items _ =>
    have names : l.slots.map (·.name) = l.columns.map (·.name) := List.map_map
    rw [fields, named, names]
    exact pairwise_zip l.distinct items
  | null | bool | whole | str => exact .nil

/-- The fields that a plain value gives are plain. -/
theorem plain_of_get? {v w : Json} {k : String} {depth : Nat} (plain : v.Plain (depth + 1))
    (given : (l.fields v).get? k = some w) : w.Plain depth := by
  have held : (k, w) ∈ l.fields v := Fields.mem_of_get? given
  cases plain with
  | obj _ each => exact each _ held
  | arr each => exact each _ (List.of_mem_zip held).2
  | null | bool | whole | str => cases held

/-! ### What is passed over -/

theorem knownFields_cons_of_known {k : String} (found : l.columns.find? (·.name = k) = some c)
    (v : Json) (rest : Fields) :
    l.knownFields ((k, v) :: rest) = (k, c.known v) :: l.knownFields rest :=
  List.filterMap_cons_some (congrArg (Option.map _) found)

theorem knownFields_cons_of_unknown {k : String} (missing : l.columns.find? (·.name = k) = none)
    (v : Json) (rest : Fields) : l.knownFields ((k, v) :: rest) = l.knownFields rest :=
  List.filterMap_cons_none (congrArg (Option.map _) missing)

theorem get?_knownFields (h : c ∈ l.columns) (fields : Fields) :
    (l.knownFields fields).get? c.name = (fields.get? c.name).map c.known := by
  induction fields with
  | nil => rfl
  | cons p rest ih =>
    obtain ⟨k, v⟩ := p
    rw [Fields.get?_cons]
    by_cases same : c.name = k
    · rw [knownFields_cons_of_known (same ▸ find?_name h), Fields.get?_cons, if_pos same,
        if_pos same, Option.map_some]
    · rw [if_neg same, ← ih]
      cases found : l.columns.find? (·.name = k) with
      | none => rw [knownFields_cons_of_unknown found]
      | some c' => rw [knownFields_cons_of_known found, Fields.get?_cons, if_neg same]

theorem checkFields_knownFields (sound : ∀ c ∈ l.columns, c.Sound least) (fields : Fields) :
    checkFields l.slots (l.knownFields fields) = .ok () ↔ checkFields l.slots fields = .ok () := by
  rw [checkFields_eq_ok_iff, checkFields_eq_ok_iff]
  constructor
  · intro checked p hp c found
    have kept : (p.1, c.known p.2) ∈ l.knownFields fields :=
      List.mem_filterMap.mpr ⟨p, hp, by rw [found]; rfl⟩
    obtain ⟨b, read⟩ := checked _ kept c found
    exact ⟨b, (sound c (mem_of_find? found).1).passes.mp read⟩
  · intro checked q hq c found
    obtain ⟨p, hp, kept⟩ := List.mem_filterMap.mp hq
    obtain ⟨c', found', rfl⟩ := Option.map_eq_some_iff.mp kept
    cases found.symm.trans found'
    obtain ⟨b, read⟩ := checked p hp c found
    exact ⟨b, (sound c (mem_of_find? found).1).passes.mpr read⟩

theorem length_knownItems (columns : List (Column α)) (items : List Json) :
    (knownItems columns items).length = items.length := by
  induction columns generalizing items with
  | nil => rfl
  | cons c columns ih =>
    cases items with
    | nil => rfl
    | cons v items => rw [knownItems, List.length_cons, ih, List.length_cons]

theorem fits_known {v : Json} : l.Fits (l.known v) ↔ l.Fits v := by
  cases v with
  | arr items => rw [known, Fits, length_knownItems, Fits]
  | obj | null | bool | num | str => rfl

/-- Items that are reduced to the part that is looked at give the fields reduced to it. -/
theorem named_knownItems (items : List Json) :
    named l.slots (knownItems l.columns items) = l.knownFields (named l.slots items) := by
  suffices ∀ columns, (∀ c ∈ columns, c ∈ l.columns) → ∀ items,
      named (columns.map Column.slot) (knownItems columns items) =
        l.knownFields (named (columns.map Column.slot) items) from
    this l.columns (fun _ h => h) items
  intro columns known
  induction columns with
  | nil => exact fun _ => rfl
  | cons c columns ih =>
    obtain ⟨first, others⟩ := List.forall_mem_cons.mp known
    rintro (_ | ⟨v, items⟩)
    · rfl
    · have next : ∀ v items, named ((c :: columns).map Column.slot) (v :: items) =
          (c.name, v) :: named (columns.map Column.slot) items := fun _ _ => rfl
      rw [next, knownItems, next, knownFields_cons_of_known (find?_name first), ih others]

theorem fields_known (v : Json) : l.fields (l.known v) = l.knownFields (l.fields v) := by
  cases v with
  | obj => rfl
  | arr items => exact named_knownItems items
  | null | bool | num | str => rfl

theorem read_knownFields (h : c ∈ l.columns) (sound : c.Sound least) {fields : Fields} {b : c.β} :
    c.read (l.knownFields fields) = .ok b ↔ c.read fields = .ok b := by
  rw [Column.read_eq_ok_iff, Column.read_eq_ok_iff, get?_knownFields h]
  cases fields.get? c.name with
  | none => simp
  | some v => simp [sound.passes]

/-! ### Described records -/

/-- The layout says how a record is read and written. -/
structure Describes (l : Layout α) (decode : Reader α) (encode : α → Json) : Prop where
  decodes : ∀ {v d}, decode v = .ok d ↔ ∃ fields, record l.name l.slots v = .ok fields ∧
    ∀ c ∈ l.columns, c.read fields = .ok (c.get d)
  encodes : ∀ d, encode d = .obj (l.pairs fun c => c.write (c.get d))

namespace Describes

variable {decode : Reader α} {encode : α → Json} (described : l.Describes decode encode)
  {depth : Nat} {v : Json} {d : α}
include described

/-- A record is decoded from fields that are read and are held as they were written. -/
theorem decode_of_held {fields : Fields} (once : fields.Pairwise fun p q => p.1 ≠ q.1)
    {f : Json → Json} (keeps : ∀ c ∈ l.columns, c.Keeps depth (c.get d))
    (each : ∀ (c : Column α) {w : Json} {b : c.β}, ReadsBack c.reader w b → c.reader (f w) = .ok b)
    (held : ∀ c ∈ l.columns, fields.get? c.name = (c.write (c.get d)).map f) :
    decode (.obj fields) = .ok d := by
  have reads : ∀ c ∈ l.columns, c.read fields = .ok (c.get d) := fun c hc =>
    (keeps c hc).read_eq_ok (each c) (held c hc)
  refine described.decodes.mpr ⟨fields, record_eq_ok_iff.mpr ⟨rfl, trivial, ?_⟩, reads⟩
  exact checkFields_of_reads once fun c hc => ⟨_, reads c hc⟩

/-- A plain value is decoded if it has the form of a record and each of its fields can be read. -/
theorem decode_eq_ok_iff (plain : v.Plain depth) : decode v = .ok d ↔
    l.Fits v ∧ ∀ c ∈ l.columns, c.read (l.fields v) = .ok (c.get d) := by
  simp only [described.decodes, record_eq_ok_iff]
  constructor
  · rintro ⟨_, ⟨rfl, fits, -⟩, reads⟩
    exact ⟨fits, reads⟩
  · rintro ⟨fits, reads⟩
    have checked := checkFields_of_reads (pairwise_fields plain) fun c hc => ⟨_, reads c hc⟩
    exact ⟨_, ⟨rfl, fits, checked⟩, reads⟩

/-- What is decoded from a plain value is decoded again from what is written for it. -/
theorem again (sound : ∀ c ∈ l.columns, c.Sound least) (plain : v.Plain (depth + least + 1))
    (decoded : decode v = .ok d) :
    (encode d).Spellable (depth + least + 1) ∧ ReadsBack decode (encode d) d := by
  obtain ⟨-, reads⟩ := (described.decode_eq_ok_iff plain).mp decoded
  have keeps : ∀ c ∈ l.columns, c.Keeps (depth + least) (c.get d) := by
    intro c hc
    obtain ⟨w, given, read⟩ | ⟨-, default⟩ := Column.read_eq_ok_iff.mp (reads c hc)
    · exact (sound c hc).given (plain_of_get? plain given) read
    · exact (sound c hc).missing default
  rw [described.encodes]
  -- As it is written and with its names in order, the record has the same under each name.
  refine ⟨.obj fun p hp => ?_, ?_, ?_⟩
  · obtain ⟨c, hc, written, -⟩ := mem_pairs hp
    have kept := keeps c hc
    rw [Column.Keeps, written] at kept
    exact kept.1
  · refine described.decode_of_held pairwise_pairs keeps (f := id) (fun _ => And.left) ?_
    intro c hc
    rw [get?_pairs hc, Option.map_id_fun, id]
  · have mapped : (l.pairs fun c => c.write (c.get d)).map (fun p => (p.1, p.2.ordered)) =
        l.pairs fun c => (c.write (c.get d)).map Json.ordered := by
      simp only [pairs, List.map_filterMap, Option.map_map]
      rfl
    rw [Json.ordered_obj, mapped]
    refine described.decode_of_held ((Fields.sorted_ofList _).imp String.ne_of_lt) keeps
      (fun _ => And.right) ?_
    intro c hc
    rw [Fields.get?_ofList, Fields.lookup_reverse pairwise_pairs]
    exact get?_pairs hc

/-- What is passed over does not matter. -/
theorem decode_known_iff (sound : ∀ c ∈ l.columns, c.Sound least) :
    decode (l.known v) = .ok d ↔ decode v = .ok d := by
  simp only [described.decodes, record_eq_ok_iff, fields_known, fits_known]
  constructor
  · rintro ⟨_, ⟨rfl, fits, checked⟩, reads⟩
    exact ⟨_, ⟨rfl, fits, (checkFields_knownFields sound _).mp checked⟩,
      fun c hc => (read_knownFields hc (sound c hc)).mp (reads c hc)⟩
  · rintro ⟨_, ⟨rfl, fits, checked⟩, reads⟩
    exact ⟨_, ⟨rfl, fits, (checkFields_knownFields sound _).mpr checked⟩,
      fun c hc => (read_knownFields hc (sound c hc)).mpr (reads c hc)⟩

end Describes

end Layout

end Brokerage
