import Brokerage.Proofs.Json.RoundTrip
import Brokerage.Proofs.Store.Bindings
import Brokerage.Proofs.Text.Numeral

/-! Free-form records in the rows of a store. What is written into a row as text is read from it as
the same record, after a save, a creation or an update of the row alike. The text of a record is never
blank and never that of another record, and what is blank is no JSON. -/

namespace Brokerage

open Text (isBlank isBlankChar)

/-! ### Blank texts -/

namespace Json

theorem scanNumber_of_blank {cs : List Char} (blank : ∀ c ∈ cs, isBlankChar c = true) :
    Spelling.scanNumber cs = none := by
  cases cs with
  | nil => rfl
  | cons c rest =>
    have first := blank c List.mem_cons_self
    have unsigned : Spelling.scanNumber (c :: rest) = Spelling.scanUnsigned false (c :: rest) := by
      rw [Spelling.scanNumber]
      rintro _ opened
      cases opened
      cases first
    have digits : Spelling.scanDigits (c :: rest) = none := by
      rw [Spelling.scanDigits, List.takeWhile_cons, Text.isDigit_of_isBlankChar first]
      rfl
    rw [unsigned, Spelling.scanUnsigned, Spelling.scanWhole, digits]

/-- Nothing is scanned from blank characters, whether they are gaps or not. -/
theorem scanValue_of_blank {cs : List Char} (blank : ∀ c ∈ cs, isBlankChar c = true) (fuel : Nat) :
    Spelling.scanValue fuel cs = none := by
  obtain _ | fuel := fuel
  · rfl
  have left : ∀ c ∈ Spelling.skipGap cs, isBlankChar c = true := fun c hc =>
    blank c (List.dropWhile_subset _ hc)
  rw [Spelling.scanValue]
  split
  case h_7 => exact scanNumber_of_blank left
  -- A value that is no number begins with a character that is not blank.
  all_goals
    rename_i opened
    rw [opened] at left
    cases left _ List.mem_cons_self

theorem read?_of_isBlank {text : String} (blank : isBlank text = true) : read? text = none := by
  rw [read?, Spelling.ofChars?, scanValue_of_blank (List.all_eq_true.mp blank)]
  rfl

end Json

/-! ### Texts of records -/

/-- What a column reads as: blank, an empty record, and else the record that its text is. -/
theorem readColumn_eq_ok_iff {field text : String} {fields : Fields} :
    readColumn field text = .ok fields ↔
      if isBlank text then fields = [] else Fields.read? text = some fields := by
  rw [readColumn]
  split
  · exact ⟨fun read => (Except.ok.inj read).symm, fun empty => by rw [empty]⟩
  · cases Fields.read? text with
    | none => exact ⟨nofun, nofun⟩
    | some found => exact ⟨fun read => congrArg some (Except.ok.inj read),
        fun found => congrArg Except.ok (Option.some.inj found)⟩

namespace Fields

variable {fields : Fields}

/-- A record that is read has ascending names, in whatever order they are spelled. -/
theorem sorted_of_value? {depth : Nat} {spelling : Json.Spelling}
    (means : spelling.value? depth = some (.obj fields)) : fields.Sorted := by
  cases spelling with
  | object members =>
    cases depth with
    | zero => cases means
    | succ depth =>
      rw [Json.Spelling.value?, Option.map_eq_some_iff] at means
      obtain ⟨pairs, -, ⟨⟩⟩ := means
      exact sorted_ofList pairs
  | null | bool => cases means
  | number | text =>
    rw [Json.Spelling.value?, Option.map_eq_some_iff] at means
    obtain ⟨_, -, ⟨⟩⟩ := means
  | array =>
    cases depth with
    | zero => cases means
    | succ depth =>
      rw [Json.Spelling.value?, Option.map_eq_some_iff] at means
      obtain ⟨_, -, ⟨⟩⟩ := means

theorem sorted_of_read? {text : String} (found : read? text = some fields) : fields.Sorted := by
  rw [read?] at found
  split at found <;> cases found
  rename_i whole
  obtain ⟨spelling, -, means⟩ := Option.bind_eq_some_iff.mp whole
  exact sorted_of_value? means

theorem sorted_of_readColumn {field text : String} (read : readColumn field text = .ok fields) :
    fields.Sorted := by
  rw [readColumn_eq_ok_iff] at read
  split at read
  · rw [read]
    exact List.Pairwise.nil
  · exact sorted_of_read? read

theorem isBlank_text (fields : Fields) : isBlank fields.text = false := by
  have opened : ∃ rest, fields.text.toList = '\x7b' :: rest := by
    rw [text, Json.text, String.toList_ofList]
    rcases fields with _ | ⟨⟨name, value⟩, rest⟩ <;> exact ⟨_, by rw [Json.print]⟩
  obtain ⟨rest, chars⟩ := opened
  rw [isBlank, chars]
  rfl

theorem sorted_of_plain {depth : Nat} (plain : (Json.obj fields).Plain depth) : fields.Sorted := by
  cases plain
  assumption

variable (plain : (Json.obj fields).Plain Json.maxDepth)
include plain

theorem read?_text : read? fields.text = some fields := by
  have whole : Json.read? fields.text = some (.obj fields) := Json.read?_text plain
  rw [read?, whole]

/-- A column holds the record whose text was written into it. -/
theorem readColumn_text (field : String) : readColumn field fields.text = .ok fields := by
  rw [readColumn_eq_ok_iff, isBlank_text]
  exact read?_text plain

end Fields

/-! ### Rows -/

namespace Store

/-- The call succeeds, and the store after it is as `holds` says. -/
def Leaves (s : Store) (now : Instant) (call : StoreCall) (holds : Store → Prop) : Prop :=
  ∃ value s', s.step now call = (.ok value, s') ∧ holds s'

/-- The call succeeds at any time and changes nothing, and what it yields is as `holds` says. -/
def Yields (s : Store) (call : StoreCall) (holds : call.Value → Prop) : Prop :=
  ∀ now, ∃ value, s.step now call = (.ok value, s) ∧ holds value

variable {s : Store} {instanceId bindingId : String}

theorem yields_getInstance {id : String} {row : InstanceRow} {holds : InstanceRow → Prop}
    (found : s.liveInstance? id = some row) (held : holds row) :
    s.Yields (.getInstance id) holds := by
  intro now
  have read : s.getInstance id = .ok row := by rw [getInstance, found]
  exact ⟨row, by rw [step_getInstance, read], held⟩

theorem yields_getBinding {row : BindingRow} {holds : BindingRow → Prop}
    (found : s.liveBinding? instanceId bindingId = some row) (held : holds row) :
    s.Yields (.getBinding instanceId bindingId) holds := by
  intro now
  have read : s.getBinding instanceId bindingId = .ok row := by rw [getBinding, found]
  exact ⟨row, by rw [step_getBinding, read], held⟩

section Written

variable {fields : Fields} (plain : (Json.obj fields).Plain Json.maxDepth) (now : Instant)
include plain

/-- Details that are saved for a live instance are read from it. -/
theorem saveInstance_details {row old : InstanceRow} (found : s.liveInstance? row.id = some old) :
    s.Leaves now (.saveInstance (row.withDetails fields)) fun s' =>
      s'.Yields (.getInstance row.id) fun read => read.details = .ok fields := by
  refine ⟨(), _, step_saveInstance_of_live now found, ?_⟩
  exact yields_getInstance
    (liveInstance?_rewriteInstance_self (overwriteInstance_id now _)
      (live_overwriteInstance now _) found)
    (Fields.readColumn_text plain "other_details")

/-- Credentials with which a binding is created are read from it. -/
theorem createBinding_credentials {row : BindingRow}
    (free : s.liveBinding? row.instanceId row.bindingId = none) :
    s.Leaves now (.createBinding (row.withCredentials fields)) fun s' =>
      s'.Yields (.getBinding row.instanceId row.bindingId) fun read =>
        read.credentials = .ok fields := by
  let created := row.withCredentials fields
  have unclaimed : s.liveBinding? created.instanceId created.bindingId = none := free
  refine ⟨s.lastBindingId + 1, _, step_createBinding_of_free now unclaimed, ?_⟩
  exact yields_getBinding (liveBinding?_withBinding unclaimed)
    (Fields.readColumn_text plain "other_details")

/-- Credentials that are saved under the number of a live binding are read from its pair. -/
theorem saveBinding_credentials {row old : BindingRow}
    (found : s.liveBinding? instanceId bindingId = some old) (same : old.id = row.id) :
    s.Leaves now (.saveBinding (row.withCredentials fields)) fun s' =>
      s'.Yields (.getBinding instanceId bindingId) fun read => read.credentials = .ok fields := by
  obtain ⟨held, -, live⟩ := liveBinding?_mem found
  have numbered : old.id = (row.withCredentials fields).id := same
  refine ⟨(), _, step_saveBinding_of_live now held numbered live, ?_⟩
  exact yields_getBinding
    (liveBinding?_rewriteBindings_self (isOf_overwriteBinding now _ · instanceId bindingId)
      (live_overwriteBinding now _) found (decide_eq_true same))
    (Fields.readColumn_text plain "other_details")

end Written

end Store

/-! ### What is kept -/

/-- Whatever 64 bits and texts can hold, and nested as deeply as is read, a record is read from the
row that it was written into: the details of an instance after a save, the credentials of a binding
after its creation and after a save. Two records have two texts, and a text reads as empty without
being JSON if all its characters are blank, and only then. -/
theorem Fields.read_where_written {fields : Fields} (plain : (Json.obj fields).Plain Json.maxDepth) :
    (∀ (s : Store) (now : Instant) (row old : InstanceRow), s.liveInstance? row.id = some old →
      s.Leaves now (.saveInstance (row.withDetails fields)) fun s' =>
        s'.Yields (.getInstance row.id) fun read => read.details = .ok fields) ∧
    (∀ (s : Store) (now : Instant) (row : BindingRow),
      s.liveBinding? row.instanceId row.bindingId = none →
      s.Leaves now (.createBinding (row.withCredentials fields)) fun s' =>
        s'.Yields (.getBinding row.instanceId row.bindingId) fun read =>
          read.credentials = .ok fields) ∧
    (∀ (s : Store) (now : Instant) (instanceId bindingId : String) (row old : BindingRow),
      s.liveBinding? instanceId bindingId = some old → old.id = row.id →
      s.Leaves now (.saveBinding (row.withCredentials fields)) fun s' =>
        s'.Yields (.getBinding instanceId bindingId) fun read => read.credentials = .ok fields) ∧
    (∀ other : Fields, (Json.obj other).Plain Json.maxDepth → other.text = fields.text →
      other = fields) ∧
    ∀ field text, (readColumn field text = .ok [] ∧ Fields.read? text = none ↔
        ∀ c ∈ text.toList, isBlankChar c = true) ∧
      (isBlank text = false → ∀ read, readColumn field text = .ok read ↔
        Fields.read? text = some read) := by
  refine ⟨fun s now row old found => Store.saveInstance_details plain now found,
    fun s now row free => Store.createBinding_credentials plain now free,
    fun s now i b row old found same => Store.saveBinding_credentials plain now found same,
    fun other plain' same => ?_, fun field text => ⟨?_, fun solid read => ?_⟩⟩
  · have read : Fields.read? fields.text = some other := same ▸ Fields.read?_text plain'
    exact Option.some_inj.mp (read.symm.trans (Fields.read?_text plain))
  · rw [readColumn_eq_ok_iff, ← List.all_eq_true, ← isBlank]
    split
    case isTrue blank =>
      rw [Fields.read?, Json.read?_of_isBlank blank]
      exact ⟨fun _ => blank, fun _ => ⟨rfl, rfl⟩⟩
    case isFalse solid =>
      refine ⟨fun ⟨found, missing⟩ => ?_, fun blank => absurd blank solid⟩
      cases found.symm.trans missing
  · rw [readColumn_eq_ok_iff, solid]
    rfl

/-- A record with names and texts that need escapes, the least and the greatest whole number, and
lists and records in it. -/
def Sample.mixed : Fields :=
  [("", .arr [.null, .bool true, .num (.whole (-9223372036854775808)), .arr []]),
    ("\"\\\n", .obj [("\x00", .str "\t/é😀\x1f"), ("b", .obj [])]),
    ("é", .num (.whole 18446744073709551615))]

/-- The record is kept by an instance and by a binding, and is none that reads as blank. -/
theorem Fields.read_where_written_mixed :
    (Json.obj Sample.mixed).Plain Json.maxDepth ∧
    ({ instances := [.claim 1 "i" "s" "p"] } : Store).Leaves 2
      (.saveInstance ((InstanceRow.claim 1 "i" "s" "p").withDetails Sample.mixed)) (fun s' =>
        s'.Yields (.getInstance "i") fun read => read.details = .ok Sample.mixed) ∧
    Store.empty.Leaves 2
      (.createBinding ((BindingRow.claim 1 "i" "j" "s").withCredentials Sample.mixed)) (fun s' =>
        s'.Yields (.getBinding "i" "j") fun read => read.credentials = .ok Sample.mixed) ∧
    ({ bindings := [.claim 1 "i" "j" "s"] } : Store).Leaves 2
      (.saveBinding ((BindingRow.claim 1 "i" "j" "s").withCredentials Sample.mixed)) (fun s' =>
        s'.Yields (.getBinding "i" "j") fun read => read.credentials = .ok Sample.mixed) ∧
    readColumn "other_details" " \u3000" = .ok [] := by
  have plain : (Json.obj Sample.mixed).Plain Json.maxDepth := by
    refine .obj (by unfold Fields.Sorted; decide) (List.forall_mem_cons.mpr ⟨?_,
      List.forall_mem_cons.mpr ⟨?_, List.forall_mem_singleton.mpr ?_⟩⟩)
    · refine .arr (List.forall_mem_cons.mpr ⟨.null, List.forall_mem_cons.mpr ⟨.bool true,
        List.forall_mem_cons.mpr ⟨.whole (by decide) (by decide), List.forall_mem_singleton.mpr ?_⟩⟩⟩)
      exact .arr (List.forall_mem_nil _)
    · refine .obj (by unfold Fields.Sorted; decide) (List.forall_mem_cons.mpr ⟨.str _,
        List.forall_mem_singleton.mpr ?_⟩)
      exact .obj List.Pairwise.nil (List.forall_mem_nil _)
    · exact .whole (by decide) (by decide)
  obtain ⟨saved, created, updated, -, blank⟩ := Fields.read_where_written plain
  refine ⟨plain, saved _ _ _ _ rfl, created _ _ _ rfl, updated _ _ _ _ _ _ rfl rfl, ?_⟩
  have blanks : ∀ c ∈ " \u3000".toList, isBlankChar c = true := List.all_eq_true.mp rfl
  exact ((blank _ _).1.mpr blanks).1

end Brokerage
