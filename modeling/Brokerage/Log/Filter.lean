import Brokerage.Log.Event
import Brokerage.Log.Pattern.Basic

/-!
Filters of a log. A filter is a list of directives, the most specific first. The first one that is
about an event decides whether it is logged. Directives are written with a comma between two; one
that cannot be read is left out, with a notice.
-/

namespace Brokerage.Log

/-- Up to which level is logged; nothing is if there is none. -/
abbrev Threshold := Option Level

def Threshold.admits (t : Threshold) (level : Level) : Bool :=
  match t with
  | some most => level.rank ≤ most.rank
  | none => false

/-- A threshold by its name in letters of either case, or by its number. -/
def Threshold.read? (s : String) : Option Threshold :=
  match Text.Numeral.read? (Nat.pow 2 64) s, s.toLower with
  | some 0, _ | none, "off" => some none
  | some 1, _ | none, "error" | none, "" => some (some .error)
  | some 2, _ | none, "warn" => some (some .warn)
  | some 3, _ | none, "info" => some (some .info)
  | some 4, _ | none, "debug" => some (some .debug)
  | some 5, _ | none, "trace" => some (some .trace)
  | _, _ => none

/-- What is logged up to which level. -/
structure Directive where
  /-- What the target of an event starts with. -/
  target? : Option String := none
  /-- The activity in which the event happens. -/
  activity? : Option String := none
  /-- Names of values that the event has, and whether certain values are asked for. -/
  fields : List (String × Bool) := []
  threshold : Threshold := some .trace
  deriving DecidableEq, Repr

namespace Directive

/-- Why a directive cannot be read. -/
inductive Fault where
  | malformed
  | noLevel
  /-- The pattern of a value cannot be used. -/
  | pattern (fault : Pattern.Fault)
  deriving DecidableEq, Repr

def Fault.message : Fault → String
  | malformed => "invalid filter directive"
  | pattern fault => "invalid field filter: " ++ fault.message
  | noLevel =>
    "error parsing level filter: expected one of \"off\", \"error\", \"warn\", \"info\", " ++
      "\"debug\", \"trace\", or a number 0-5"

/-- The part of a directive that a character stands in, and where that part begins. -/
inductive Part where
  | start
  | targetOrLevel (first : Nat)
  | activity (first : Nat)
  | field (first : Nat)
  | afterFields
  | afterBracket
  | level (first : Nat)

/-- The characters of `whole` from the position `first` up to `last`. -/
def slice (whole : List Char) (first last : Nat) : List Char :=
  (whole.drop first).take (last - first)

/-- What is wrong with the value that is asked for: it is a number or a pattern. Of the numbers only
those with a plus sign are no patterns. -/
def valueFault? : List Char → Option Pattern.Fault
  | '+' :: rest =>
    if Text.Numeral.isUnsignedDecimal rest then none else Pattern.fault? ('+' :: rest)
  | value => Pattern.fault? value

/-- A name, with an equals sign behind it if a value is asked for. The value ends before another
equals sign. -/
def readField (written : List Char) : Except Fault (String × Bool) :=
  match Text.pieces '=' written with
  | [[]] => .error .malformed
  | name :: value :: _ =>
    match valueFault? value with
    | some fault => .error (.pattern fault)
    | none => .ok (String.ofList name, true)
  | _ => .ok (String.ofList written, false)

/-- A threshold after an equals sign; everything is logged if none is written. -/
def readLevel (written : List Char) : Except Fault Threshold :=
  if written = [] then .ok (some .trace)
  else
    match Threshold.read? (String.ofList written) with
    | some threshold => .ok threshold
    | none => .error .noLevel

/-- A directive that is only a threshold or only a target. -/
def ofWord (written : List Char) : Directive :=
  let word := String.ofList written
  match Threshold.read? word with
  | some threshold => { threshold := threshold }
  | none => { target? := some word }

/-- Reads on at the position `i`. What is found between two marks is cut from `whole`. -/
def readFrom (whole : List Char) (d : Directive) :
    Part → Nat → List Char → Except Fault Directive
  | .start, _, [] | .activity _, _, [] | .field _, _, [] | .afterFields, _, [] => .error .malformed
  | .targetOrLevel first, _, [] => .ok (ofWord (whole.drop first))
  | .afterBracket, _, [] => .ok d
  | .level first, _, [] =>
    (readLevel (whole.drop first)).map fun threshold => { d with threshold := threshold }
  | .start, i, c :: rest =>
    if c = '[' then readFrom whole d (.activity (i + 1)) (i + 1) rest
    else if Text.isAlphanumeric c || c = '-' || c = ':' || c = '_' then
      readFrom whole d (.targetOrLevel i) (i + 1) rest
    else .error .malformed
  | .targetOrLevel first, i, c :: rest =>
    let named : Directive := { d with target? := some (String.ofList (slice whole first i)) }
    if c = '=' then readFrom whole named (.level (i + 1)) (i + 1) rest
    else if c = '[' then readFrom whole named (.activity (i + 1)) (i + 1) rest
    else readFrom whole d (.targetOrLevel first) (i + 1) rest
  | .activity first, i, c :: rest =>
    let name := slice whole first i
    if c = ']' then
      readFrom whole { d with activity? := some (String.ofList name) } .afterBracket (i + 1) rest
    else if c = '{' then
      let activity? := if name = [] then none else some (String.ofList name)
      readFrom whole { d with activity? := activity? } (.field (i + 1)) (i + 1) rest
    else readFrom whole d (.activity first) (i + 1) rest
  | .field first, i, c :: rest =>
    if c = '}' then
      match readField (slice whole first i) with
      | .ok field =>
        readFrom whole { d with fields := d.fields ++ [field] } .afterFields (i + 1) rest
      | .error fault => .error fault
    else readFrom whole d (.field first) (i + 1) rest
  | .afterFields, i, c :: rest =>
    if c = ']' then readFrom whole d .afterBracket (i + 1) rest else .error .malformed
  | .afterBracket, i, c :: rest =>
    if c = '=' then readFrom whole d (.level (i + 1)) (i + 1) rest else .error .malformed
  | .level first, i, _ :: rest => readFrom whole d (.level first) (i + 1) rest

/-- Reads a directive. Blanks around it are no part of it for the positions of its marks, but they
are for what is cut out between the marks. -/
def read (written : String) : Except Fault Directive :=
  readFrom written.toList {} .start 0 (Text.trimChars written.toList)

/-- Events are judged by themselves: neither by the activity that they happen in, nor by their
values. -/
def isAboutEvents (d : Directive) : Bool := d.activity?.isNone && d.fields.all (!·.2)

def concerns (d : Directive) (e : Event) : Bool :=
  (d.target?.map fun t => e.target.startsWith t).getD true &&
    d.fields.all (e.fieldNames.contains ·.1)

/-- The texts that make a directive different from others of its specificity. -/
def texts (d : Directive) : List String := d.target?.getD "" :: d.fields.map (·.1)

/-- How specific a directive is: by the length of its target, then by the number of its fields. -/
def specificity (d : Directive) : Nat × Nat :=
  ((d.target?.map (·.utf8ByteSize + 1)).getD 0, d.fields.length)

/-- The one stands before the other in a filter. -/
def precedes (d d' : Directive) : Bool :=
  let (target, fields) := d.specificity
  let (target', fields') := d'.specificity
  target' < target || (target' = target && (fields' < fields ||
    (fields' = fields && d'.texts < d.texts)))

/-- Both are about the same events. -/
def coincides (d d' : Directive) : Bool := d.target? = d'.target? && d.texts = d'.texts

end Directive

abbrev Filter := List Directive

namespace Filter

/-- A filter with one more directive, which takes the place of one about the same events. -/
def insert (d : Directive) : Filter → Filter
  | [] => [d]
  | d' :: rest =>
    if d.coincides d' then d :: rest
    else if d.precedes d' then d :: d' :: rest
    else d' :: insert d rest

def admits (filter : Filter) (e : Event) : Bool :=
  match filter.find? (·.concerns e) with
  | some d => d.threshold.admits e.level
  | none => false

/-- The directives that are written, each with what is wrong with it. -/
def written (setting : String) : List (String × Except Directive.Fault Directive) :=
  let parts := (Text.pieces ',' setting.toList).filter (· ≠ [])
  parts.map fun part => (String.ofList part, Directive.read (String.ofList part))

/-- What is said of the directives that cannot be read. -/
def notices (setting : String) : List String :=
  (written setting).filterMap fun (part, result) =>
    match result with
    | .ok _ => none
    | .error fault => some ("ignoring \x60" ++ part ++ "\x60: " ++ fault.message)

/-- The filter that is written. Where nothing is written, errors are logged. -/
def ofSetting (setting : String) : Filter :=
  let directives := (written setting).filterMap (·.2.toOption)
  if directives.isEmpty then [{ threshold := some .error }]
  else (directives.filter (·.isAboutEvents)).foldl (fun filter d => insert d filter) []

end Filter

end Brokerage.Log
