import Brokerage.Proofs.Json.Numerals
import Brokerage.Proofs.Json.Records

/-! Values are read back as they are printed, except that the fields of each record are put in order.
This holds of what 64 bits and texts can hold, nested as deeply as is read; where all names ascend, the
value itself is read back. Texts of numbers that need not be whole are not dealt with. -/

namespace Brokerage.Json

open Text.Numeral (isDigit)

/-! ### Texts -/

/-- The glyph is read as the character. -/
def Glyph.Means (g : Glyph) (c : Char) : Prop :=
  ∀ rest, Glyph.read? (g :: rest) = (Glyph.read? rest).map (c :: ·)

theorem Glyph.char_means (c : Char) : (Glyph.char c).Means c := fun _ => rfl

/-- A code below those of the surrogates is the character with that code. -/
theorem Glyph.code_means {c : Char} (low : c.toNat < 0xd800) : (Glyph.code c.toNat).Means c := by
  intro rest
  have lead : ¬ 0xd800 ≤ c.toNat := Nat.not_le.mpr low
  have trail : ¬ 0xdc00 ≤ c.toNat := by omega
  rw [Glyph.read?.eq_def]
  simp only [lead, trail, decide_false, Bool.false_and, Char.ofNat_toNat]
  rfl

theorem hexCode?_hexDigit : ∀ n < 32,
    Spelling.hexCode? '0' '0' (hexDigit (n / 16)) (hexDigit (n % 16)) = some n := by
  decide

theorem scanText_escape {e c : Char} (h : Spelling.escaped? e = some c) (cs : List Char) :
    Spelling.scanText ('\\' :: e :: cs) =
      (Spelling.scanText cs).map fun (glyphs, rest) => (.char c :: glyphs, rest) := by
  rw [Spelling.scanText, h]
  · cases Spelling.scanText cs <;> rfl
  -- An escaped `u` begins a code, and stands for no character by itself.
  · intro _ _ _ _ _ code
    rw [code] at h
    cases h

theorem scanText_code {n : Nat} (control : n < 32) (cs : List Char) :
    Spelling.scanText ('\\' :: 'u' :: '0' :: '0' :: hexDigit (n / 16) :: hexDigit (n % 16) :: cs) =
      (Spelling.scanText cs).map fun (glyphs, rest) => (.code n :: glyphs, rest) := by
  rw [Spelling.scanText, hexCode?_hexDigit n control]
  cases Spelling.scanText cs <;> rfl

theorem scanText_plain {c : Char} (quote : c ≠ '"') (backslash : c ≠ '\\') (printed : 32 ≤ c.toNat)
    (cs : List Char) : Spelling.scanText (c :: cs) =
      (Spelling.scanText cs).map fun (glyphs, rest) => (.char c :: glyphs, rest) := by
  rw [Spelling.scanText, decide_eq_false backslash, decide_eq_false (Nat.not_lt.mpr printed)]
  · rfl
  · exact quote
  · exact fun _ _ _ _ _ same => absurd same backslash
  · exact fun _ _ same => absurd same backslash

/-- A printed character is scanned as one glyph, which means it. -/
theorem scanText_escapeChar (c : Char) :
    ∃ g : Glyph, g.Means c ∧ ∀ cs, Spelling.scanText (escapeChar c ++ cs) =
      (Spelling.scanText cs).map fun (glyphs, rest) => (g :: glyphs, rest) := by
  have named : ∀ {e : Char}, Spelling.escaped? e = some c →
      ∃ g : Glyph, g.Means c ∧ ∀ cs, Spelling.scanText (['\\', e] ++ cs) =
        (Spelling.scanText cs).map fun (glyphs, rest) => (g :: glyphs, rest) :=
    fun h => ⟨_, Glyph.char_means c, scanText_escape h⟩
  have numbered : ∀ {n : Nat}, c.toNat = n → c = Char.ofNat n := fun h => by
    rw [← h, Char.ofNat_toNat]
  unfold escapeChar
  split
  case isTrue same => exact named (by rw [same]; rfl)
  case isFalse quote =>
    split
    case isTrue same => exact named (by rw [same]; rfl)
    case isFalse backslash =>
      split
      case isTrue same => exact named (by rw [same]; rfl)
      split
      case isTrue same => exact named (by rw [same]; rfl)
      split
      case isTrue same => exact named (by rw [same]; rfl)
      split
      case isTrue code => exact named (by rw [numbered code]; rfl)
      split
      case isTrue code => exact named (by rw [numbered code]; rfl)
      split
      case isTrue control => exact ⟨_, Glyph.code_means (by omega), scanText_code control⟩
      case isFalse printed =>
        exact ⟨_, Glyph.char_means c, scanText_plain quote backslash (Nat.not_lt.mp printed)⟩

/-- A printed text is scanned up to its closing quote, and means the text. -/
theorem scanText_printed (s : String) (rest : List Char) :
    ∃ glyphs, Spelling.scanText (s.toList.flatMap escapeChar ++ '"' :: rest) = some (glyphs, rest) ∧
      Glyph.text? glyphs = some s := by
  have chars : ∀ cs : List Char, ∃ glyphs,
      Spelling.scanText (cs.flatMap escapeChar ++ '"' :: rest) = some (glyphs, rest) ∧
        Glyph.read? glyphs = some cs := by
    intro cs
    induction cs with
    | nil => exact ⟨[], by rw [List.flatMap_nil, List.nil_append, Spelling.scanText], rfl⟩
    | cons c cs ih =>
      obtain ⟨glyphs, scanned, read⟩ := ih
      obtain ⟨g, means, scans⟩ := scanText_escapeChar c
      refine ⟨g :: glyphs, ?_, ?_⟩
      · rw [List.flatMap_cons, List.append_assoc, scans, scanned]
        rfl
      · rw [means, read]
        rfl
  obtain ⟨glyphs, scanned, read⟩ := chars s.toList
  exact ⟨glyphs, scanned, by rw [Glyph.text?, read, Option.map_some, String.ofList_toList]⟩

/-! ### Values -/

mutual

/-- The value with the names of each record in ascending order; of a repeated name the last value
stands. -/
def ordered : Json → Json
  | .null => .null
  | .bool b => .bool b
  | .num n => .num n
  | .str s => .str s
  | .arr items => .arr (orderedItems items)
  | .obj fields => .obj (Fields.ofList (orderedFields fields))

def orderedItems : List Json → List Json
  | [] => []
  | v :: vs => v.ordered :: orderedItems vs

def orderedFields : List (String × Json) → List (String × Json)
  | [] => []
  | (k, v) :: rest => (k, v.ordered) :: orderedFields rest

end

theorem ordered_arr (items : List Json) : (arr items).ordered = .arr (items.map ordered) := by
  have each : orderedItems items = items.map ordered := by
    induction items with
    | nil => rfl
    | cons v vs ih => rw [orderedItems, ih, List.map_cons]
  rw [ordered, each]

theorem ordered_obj (fields : List (String × Json)) : (obj fields).ordered =
    .obj (Fields.ofList (fields.map fun p => (p.1, p.2.ordered))) := by
  have each : orderedFields fields = fields.map fun p => (p.1, p.2.ordered) := by
    induction fields with
    | nil => rfl
    | cons p rest ih => rw [orderedFields, ih, List.map_cons]
  rw [ordered, each]

/-- A value whose text can be read, nested at most so deep: whole numbers fit in 64 bits. -/
inductive Spellable : Nat → Json → Prop
  | null {depth : Nat} : Spellable depth .null
  | bool {depth : Nat} (b : Bool) : Spellable depth (.bool b)
  | whole {depth : Nat} {n : Int} (low : -(Nat.pow 2 63 : Int) ≤ n) (high : n < Nat.pow 2 64) :
      Spellable depth (.num (.whole n))
  | str {depth : Nat} (s : String) : Spellable depth (.str s)
  | arr {depth : Nat} {items : List Json} (each : ∀ v ∈ items, Spellable depth v) :
      Spellable (depth + 1) (.arr items)
  | obj {depth : Nat} {fields : Fields} (each : ∀ p ∈ fields, Spellable depth p.2) :
      Spellable (depth + 1) (.obj fields)

/-- A value that a text can give back, nested at most so deep: whole numbers fit in 64 bits, and the
names in a record ascend. -/
inductive Plain : Nat → Json → Prop
  | null {depth : Nat} : Plain depth .null
  | bool {depth : Nat} (b : Bool) : Plain depth (.bool b)
  | whole {depth : Nat} {n : Int} (low : -(Nat.pow 2 63 : Int) ≤ n) (high : n < Nat.pow 2 64) :
      Plain depth (.num (.whole n))
  | str {depth : Nat} (s : String) : Plain depth (.str s)
  | arr {depth : Nat} {items : List Json} (plain : ∀ v ∈ items, Plain depth v) :
      Plain (depth + 1) (.arr items)
  | obj {depth : Nat} {fields : Fields} (sorted : fields.Sorted)
      (plain : ∀ p ∈ fields, Plain depth p.2) : Plain (depth + 1) (.obj fields)

theorem Plain.spellable {depth : Nat} {v : Json} (plain : v.Plain depth) : v.Spellable depth := by
  induction plain with
  | null => exact .null
  | bool b => exact .bool b
  | whole low high => exact .whole low high
  | str s => exact .str s
  | arr _ each => exact .arr each
  | obj _ _ each => exact .obj each

/-- Fields whose values are in order are not changed by putting their values in order. -/
theorem map_ordered_eq {fields : List (String × Json)} (each : ∀ p ∈ fields, p.2.ordered = p.2) :
    (fields.map fun p => (p.1, p.2.ordered)) = fields :=
  (List.map_congr_left fun p hp => congrArg (p.1, ·) (each p hp)).trans (List.map_id fields)

theorem Plain.ordered_eq {depth : Nat} {v : Json} (plain : v.Plain depth) : v.ordered = v := by
  induction plain with
  | null | bool | whole | str => rfl
  | @arr _ items _ each =>
    have same : items.map ordered = items := (List.map_congr_left each).trans (List.map_id items)
    rw [ordered_arr, same]
  | obj sorted _ each => rw [ordered_obj, map_ordered_eq each, Fields.ofList_of_sorted sorted]

/-- What is plain is also plain where values may be nested deeper. -/
theorem Plain.mono {depth limit : Nat} {v : Json} (plain : v.Plain depth) (within : depth ≤ limit) :
    v.Plain limit := by
  induction plain generalizing limit with
  | null => exact .null
  | bool b => exact .bool b
  | whole low high => exact .whole low high
  | str s => exact .str s
  | arr _ each =>
    obtain ⟨limit, rfl⟩ := Nat.exists_eq_add_of_lt (Nat.lt_of_succ_le within)
    exact .arr fun v hv => each v hv (by omega)
  | obj sorted _ each =>
    obtain ⟨limit, rfl⟩ := Nat.exists_eq_add_of_lt (Nat.lt_of_succ_le within)
    exact .obj sorted fun p hp => each p hp (by omega)

/-- The text of `v`, before what cannot go on a value, is read as `w`. -/
def ReadsAs (depth : Nat) (v w : Json) : Prop :=
  ∀ fuel rest, v.print.length ≤ fuel → Delimited rest →
    ∃ spelling, Spelling.scanValue fuel (v.print ++ rest) = some (spelling, rest) ∧
      spelling.value? depth = some w

theorem isGap_of_isDigit {c : Char} (digit : isDigit c = true) : Spelling.isGap c = false := by
  simp only [Spelling.isGap, Bool.or_eq_false_iff, beq_eq_false_iff_ne]
  refine ⟨⟨⟨?_, ?_⟩, ?_⟩, ?_⟩ <;> rintro rfl <;> cases digit

theorem skipGap_cons {c : Char} (solid : Spelling.isGap c = false) (cs : List Char) :
    Spelling.skipGap (c :: cs) = c :: cs := by
  rw [Spelling.skipGap, List.dropWhile_cons, if_neg (Bool.eq_false_iff.mp solid)]

/-- No text of a value begins with a blank or with the end of a list. -/
theorem Spellable.print_cons {depth : Nat} {v : Json} (spellable : v.Spellable depth) :
    ∃ c cs, v.print = c :: cs ∧ Spelling.isGap c = false ∧ c ≠ ']' := by
  cases spellable with
  | null => exact ⟨_, _, by rw [print], rfl, by decide⟩
  | bool b => cases b <;> exact ⟨_, _, by rw [print], rfl, by decide⟩
  | @whole _ n =>
    rw [print, printNumber, printWhole]
    split
    · exact ⟨_, _, rfl, rfl, by decide⟩
    · obtain ⟨c, cs, digits, digit⟩ := toDigits_cons n.natAbs
      refine ⟨c, cs, digits, isGap_of_isDigit digit, ?_⟩
      rintro rfl
      cases digit
  | str s => exact ⟨_, _, by rw [print, printText], rfl, by decide⟩
  | @arr _ items => cases items <;> exact ⟨_, _, by rw [print], rfl, by decide⟩
  | @obj _ fields =>
    cases fields with
    | nil => exact ⟨_, _, by rw [print], rfl, by decide⟩
    | cons p rest => exact ⟨_, _, by rw [print], rfl, by decide⟩

/-! The value at which each form of text is scanned. -/

theorem readsAs_null {depth : Nat} : ReadsAs depth .null .null := by
  rintro (_ | fuel) rest enough ends
  · cases enough
  · exact ⟨.null, rfl, rfl⟩

theorem readsAs_bool {depth : Nat} (b : Bool) : ReadsAs depth (.bool b) (.bool b) := by
  rintro (_ | fuel) rest enough ends
  · cases b <;> cases enough
  · cases b with
    | true => exact ⟨.bool true, rfl, rfl⟩
    | false => exact ⟨.bool false, rfl, rfl⟩

theorem scanValue_digit {c : Char} (digit : isDigit c = true) (fuel : Nat) (cs : List Char) :
    Spelling.scanValue (fuel + 1) (c :: cs) = Spelling.scanNumber (c :: cs) := by
  rw [Spelling.scanValue, skipGap_cons (isGap_of_isDigit digit)]
  split
  case h_7 => rfl
  all_goals
    rename_i same
    rw [(List.cons.inj same).1] at digit
    cases digit

theorem readsAs_whole {depth : Nat} {n : Int} (low : -(Nat.pow 2 63 : Int) ≤ n)
    (high : n < Nat.pow 2 64) : ReadsAs depth (.num (.whole n)) (.num (.whole n)) := by
  intro fuel rest enough ends
  rw [print, printNumber] at enough ⊢
  refine ⟨.number (wholeLiteral n), ?_, ?_⟩
  · rw [← scanNumber_printWhole n ends]
    obtain ⟨c, cs, digits, digit⟩ := toDigits_cons n.natAbs
    obtain _ | fuel := fuel
    · rw [printWhole] at enough
      split at enough
      · cases enough
      · rw [digits] at enough
        cases enough
    · rw [printWhole]
      split
      · rfl
      · rw [digits]
        exact scanValue_digit digit fuel _
  · rw [Spelling.value?, number?_wholeLiteral low high]
    rfl

theorem readsAs_str {depth : Nat} (s : String) : ReadsAs depth (.str s) (.str s) := by
  rintro (_ | fuel) rest enough ends
  · rw [print, printText] at enough
    cases enough
  · obtain ⟨glyphs, scanned, read⟩ := scanText_printed s rest
    refine ⟨.text glyphs, ?_, ?_⟩
    · rw [print, printText, List.cons_append, List.append_assoc, List.singleton_append]
      change (Spelling.scanText (s.toList.flatMap escapeChar ++ '"' :: rest)).map _ = _
      rw [scanned]
      rfl
    · rw [Spelling.value?, read]
      rfl

/-! ### Lists -/

theorem scanValue_list {c : Char} (solid : Spelling.isGap c = false) (opens : c ≠ ']') (fuel : Nat)
    (cs : List Char) : Spelling.scanValue (fuel + 1) ('[' :: c :: cs) =
      (Spelling.scanItems fuel (c :: cs)).map fun (items, rest) => (.array items, rest) := by
  rw [Spelling.scanValue, skipGap_cons rfl]
  simp only [skipGap_cons solid]
  split
  · rename_i same
    exact absurd (List.cons.inj same).1 opens
  · rfl

/-- The items of a list are scanned up to its end. -/
theorem scanItems_printed {depth : Nat} {v : Json} {vs : List Json}
    (reads : ∀ x ∈ v :: vs, ReadsAs depth x x.ordered) {fuel : Nat} (rest : List Char)
    (enough : v.print.length + (printItems vs).length ≤ fuel) :
    ∃ items, Spelling.scanItems fuel (v.print ++ (printItems vs ++ rest)) = some (items, rest) ∧
      Spelling.values? depth items = some ((v :: vs).map ordered) := by
  induction vs generalizing v fuel with
  | nil =>
    rw [printItems] at enough ⊢
    obtain _ | fuel := fuel
    · cases enough
    · obtain ⟨item, scanned, read⟩ := reads v List.mem_cons_self fuel (']' :: rest)
        (Nat.le_of_succ_le_succ enough) (.inr (.inl rfl))
      refine ⟨[item], ?_, ?_⟩
      · rw [Spelling.scanItems, List.singleton_append, scanned]
        rfl
      · rw [Spelling.values?, read]
        rfl
  | cons w ws ih =>
    obtain ⟨first, others⟩ := List.forall_mem_cons.mp reads
    rw [printItems] at enough ⊢
    obtain _ | fuel := fuel
    · cases enough
    · rw [List.length_cons, List.length_append] at enough
      obtain ⟨item, scanned, read⟩ := first fuel (',' :: (w.print ++ (printItems ws ++ rest)))
        (by omega) (.inl rfl)
      -- The comma makes up for the step that the first item takes.
      have room : w.print.length + (printItems ws).length ≤ fuel := by omega
      obtain ⟨items, later, values⟩ := ih others room
      refine ⟨item :: items, ?_, ?_⟩
      · rw [Spelling.scanItems, List.cons_append, List.append_assoc, scanned]
        change (Spelling.scanItems fuel (w.print ++ (printItems ws ++ rest))).map _ = _
        rw [later]
        rfl
      · rw [Spelling.values?, read, values]
        rfl

theorem readsAs_arr {depth : Nat} {items : List Json}
    (reads : ∀ v ∈ items, v.Spellable depth ∧ ReadsAs depth v v.ordered) :
    ReadsAs (depth + 1) (.arr items) (arr items).ordered := by
  rw [ordered_arr]
  rintro (_ | fuel) rest enough ends
  · cases items <;> rw [print] at enough <;> cases enough
  cases items with
  | nil =>
    rw [print]
    exact ⟨.array [], rfl, rfl⟩
  | cons v vs =>
    rw [print, List.length_cons, List.length_append] at enough
    have room : v.print.length + (printItems vs).length ≤ fuel := by omega
    obtain ⟨items, scanned, values⟩ := scanItems_printed (fun x hx => (reads x hx).2) rest room
    obtain ⟨c, cs, first, solid, opens⟩ := (reads v List.mem_cons_self).1.print_cons
    refine ⟨.array items, ?_, ?_⟩
    · rw [print, List.cons_append, List.append_assoc]
      rw [first, List.cons_append] at scanned ⊢
      rw [scanValue_list solid opens, scanned]
      rfl
    · rw [Spelling.value?, values]
      rfl

/-! ### Records -/

section Member

variable {fuel : Nat} {cs after rest : List Char} {name : List Glyph} {value : Spelling}
  (named : Spelling.scanText cs = some (name, ':' :: after))
include named

theorem scanMembers_last (scanned : Spelling.scanValue fuel after = some (value, '\x7d' :: rest)) :
    Spelling.scanMembers (fuel + 1) ('"' :: cs) = some ([(name, value)], rest) := by
  simp only [Spelling.scanMembers, skipGap_cons (c := '"') rfl, named, skipGap_cons (c := ':') rfl,
    scanned, skipGap_cons (c := '\x7d') rfl]

theorem scanMembers_next (scanned : Spelling.scanValue fuel after = some (value, ',' :: rest)) :
    Spelling.scanMembers (fuel + 1) ('"' :: cs) = (Spelling.scanMembers fuel rest).map
      fun (members, rest) => ((name, value) :: members, rest) := by
  simp only [Spelling.scanMembers, skipGap_cons (c := '"') rfl, named, skipGap_cons (c := ':') rfl,
    scanned, skipGap_cons (c := ',') rfl]

end Member

/-- The members of a record are scanned up to its end. -/
theorem scanMembers_printed {depth : Nat} {k : String} {v : Json} {fields : List (String × Json)}
    (reads : ∀ p ∈ (k, v) :: fields, ReadsAs depth p.2 p.2.ordered) {fuel : Nat} (rest : List Char)
    (enough : v.print.length + (printFields fields).length ≤ fuel) :
    ∃ members, Spelling.scanMembers fuel
        (printText k ++ ':' :: (v.print ++ (printFields fields ++ rest))) = some (members, rest) ∧
      Spelling.pairs? depth members =
        some (((k, v) :: fields).map fun p => (p.1, p.2.ordered)) := by
  have opened : ∀ (k : String) cs, printText k ++ cs =
      '"' :: (k.toList.flatMap escapeChar ++ '"' :: cs) := by
    intro k cs
    rw [printText, List.cons_append, List.append_assoc, List.singleton_append]
  induction fields generalizing k v fuel with
  | nil =>
    rw [printFields] at enough ⊢
    obtain _ | fuel := fuel
    · cases enough
    · obtain ⟨name, named, spelled⟩ := scanText_printed k (':' :: (v.print ++ '\x7d' :: rest))
      obtain ⟨value, scanned, read⟩ := reads (k, v) List.mem_cons_self fuel ('\x7d' :: rest)
        (Nat.le_of_succ_le_succ enough) (.inr (.inr rfl))
      refine ⟨[(name, value)], ?_, ?_⟩
      · rw [opened, List.singleton_append]
        exact scanMembers_last named scanned
      · rw [Spelling.pairs?, spelled, read]
        rfl
  | cons p fields ih =>
    obtain ⟨k', v'⟩ := p
    obtain ⟨first, others⟩ := List.forall_mem_cons.mp reads
    have first : ReadsAs depth v v.ordered := first
    rw [printFields] at enough ⊢
    obtain _ | fuel := fuel
    · cases enough
    · simp only [List.length_cons, List.length_append] at enough
      have room : v'.print.length + (printFields fields).length ≤ fuel := by omega
      obtain ⟨members, later, pairs⟩ := ih others room
      obtain ⟨name, named, spelled⟩ := scanText_printed k (':' :: (v.print ++
        ',' :: (printText k' ++ ':' :: (v'.print ++ (printFields fields ++ rest)))))
      obtain ⟨value, scanned, read⟩ := first fuel
        (',' :: (printText k' ++ ':' :: (v'.print ++ (printFields fields ++ rest))))
        (by omega) (.inl rfl)
      refine ⟨(name, value) :: members, ?_, ?_⟩
      · simp only [List.cons_append, List.append_assoc]
        rw [opened, scanMembers_next named scanned, later]
        rfl
      · rw [Spelling.pairs?, spelled, read, pairs]
        rfl

/-- The text of a record is scanned as its members. -/
theorem scanValue_obj {depth : Nat} {fields : List (String × Json)}
    (reads : ∀ p ∈ fields, ReadsAs depth p.2 p.2.ordered) {fuel : Nat} (rest : List Char)
    (enough : (Json.obj fields).print.length ≤ fuel) :
    ∃ members, Spelling.scanValue fuel ((Json.obj fields).print ++ rest) =
        some (.object members, rest) ∧
      Spelling.pairs? depth members = some (fields.map fun p => (p.1, p.2.ordered)) := by
  obtain _ | fuel := fuel
  · rcases fields with _ | ⟨⟨k, v⟩, fields⟩ <;> rw [print] at enough <;> cases enough
  cases fields with
  | nil =>
    rw [print]
    exact ⟨[], rfl, rfl⟩
  | cons p fields =>
    obtain ⟨k, v⟩ := p
    rw [print, List.length_cons, List.length_append, List.length_cons, List.length_append] at enough
    have room : v.print.length + (printFields fields).length ≤ fuel := by omega
    obtain ⟨members, scanned, pairs⟩ := scanMembers_printed reads rest room
    refine ⟨members, ?_, pairs⟩
    rw [print, List.cons_append, List.append_assoc, List.cons_append, List.append_assoc]
    change (Spelling.scanMembers fuel
      (printText k ++ ':' :: (v.print ++ (printFields fields ++ rest)))).map _ = _
    rw [scanned]
    rfl

/-- The fields of a record are read in the order of their names, of each name the last one. -/
theorem readsAs_obj {depth : Nat} {fields : List (String × Json)}
    (reads : ∀ p ∈ fields, ReadsAs depth p.2 p.2.ordered) :
    ReadsAs (depth + 1) (.obj fields) (obj fields).ordered := by
  rw [ordered_obj]
  intro fuel rest enough ends
  obtain ⟨members, scanned, pairs⟩ := scanValue_obj reads rest enough
  refine ⟨.object members, scanned, ?_⟩
  rw [Spelling.value?, pairs]
  rfl

theorem Spellable.readsAs {depth : Nat} {v : Json} (spellable : v.Spellable depth) :
    ReadsAs depth v v.ordered := by
  induction spellable with
  | null => exact readsAs_null
  | bool b => exact readsAs_bool b
  | whole low high => exact readsAs_whole low high
  | str s => exact readsAs_str s
  | arr each reads => exact readsAs_arr fun v hv => ⟨each v hv, reads v hv⟩
  | obj _ reads => exact readsAs_obj reads

/-! ### Texts of values -/

theorem ReadsAs.read? {v w : Json} (reads : ReadsAs maxDepth v w) : Json.read? v.text = some w := by
  obtain ⟨spelling, scanned, read⟩ := reads (v.print.length + 1) [] (Nat.le_succ _) trivial
  rw [List.append_nil] at scanned
  have spelled : Spelling.ofChars? v.text.toList = some spelling := by
    rw [text, String.toList_ofList, Spelling.ofChars?, scanned]
    rfl
  rw [Json.read?, spelled]
  exact read

/-- The text of a value is read as that value, its records in order. -/
theorem Spellable.read?_text {v : Json} (spellable : v.Spellable maxDepth) :
    Json.read? v.text = some v.ordered :=
  spellable.readsAs.read?

/-- The text of a value whose records are in order is read as that value. -/
theorem read?_text {v : Json} (plain : v.Plain maxDepth) : read? v.text = some v := by
  rw [plain.spellable.read?_text, plain.ordered_eq]

/-- The text of a record whose names do not ascend is read as the record in their order. -/
theorem read?_text_obj {fields : List (String × Json)} (plain : ∀ p ∈ fields, p.2.Plain 126) :
    read? (Json.obj fields).text = some (.obj (Fields.ofList fields)) := by
  have spellable : (Json.obj fields).Spellable maxDepth := .obj fun p hp => (plain p hp).spellable
  rw [spellable.read?_text, ordered_obj, map_ordered_eq fun p hp => (plain p hp).ordered_eq]

end Brokerage.Json
