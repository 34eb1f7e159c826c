import Brokerage.Proofs.Schema.Levels
import Brokerage.Startup

/-! Databases that are closed and opened again. What is done with a database in a file is the same
whether it is done at one opening or at several. -/

namespace Brokerage

namespace Disk

open Address (Filename)

variable {d d' : Disk} {path p : String} {db : Database} {name : Filename}

/-! ### Files -/

theorem isFile_write (d : Disk) (path : String) (db : Database) (p : String) :
    (d.write path db).isFile p = (p == path || d.isFile p) := by
  have elsewhere {α : Type} {files : List (String × α)} (ne : p ≠ path) :
      (files.filter (·.1 != path)).lookup p = files.lookup p := by
    induction files with
    | nil => rfl
    | cons file files ih =>
      obtain ⟨q, value⟩ := file
      by_cases there : q = path
      · simp [there, ih, List.lookup_cons, beq_false_of_ne ne]
      · simp [there, ih, List.lookup_cons]
  by_cases same : p = path
  · simp [isFile, write, erase, same]
  · simp [isFile, write, erase, elsewhere same, List.lookup_cons, beq_false_of_ne same]

theorem isFile_write_of_ne (d : Disk) (db : Database) (ne : p ≠ path) :
    (d.write path db).isFile p = d.isFile p := by
  simp [isFile_write, ne]

theorem holds_write_of_ne (d : Disk) (db : Database) (ne : p ≠ path) :
    (d.write path db).holds p = d.holds p := by
  rw [holds, isFile_write_of_ne d db ne]
  rfl

theorem isFile_eq_false_iff :
    d.isFile p = false ↔ d.databases.lookup p = none ∧ d.otherFiles.lookup p = none := by
  simp [isFile]

theorem erase_of_absent (absent : d.isFile p = false) : d.erase p = d := by
  have kept {α : Type} {files : List (String × α)} (unnamed : files.lookup p = none) :
      files.filter (·.1 != p) = files := by
    rw [List.filter_eq_self]
    intro file hfile
    have ne := List.lookup_eq_none_iff.mp unnamed file hfile
    rwa [bne_comm]
  obtain ⟨noDatabase, noOther⟩ := isFile_eq_false_iff.mp absent
  simp [erase, kept noDatabase, kept noOther]

theorem write_write (d : Disk) (path : String) (db db' : Database) :
    (d.write path db).write path db' = d.write path db' := by
  simp [write, erase, List.filter_filter]

theorem isWritten_of_absent (absent : d.isFile p = false) : d.isWritten p = false := by
  simp [isWritten, isFile_eq_false_iff.mp absent]

theorem append_ne (path : String) {suffix : String} (some : 0 < suffix.length) :
    path ++ suffix ≠ path := by
  intro same
  have := congrArg String.length same
  rw [String.length_append] at this
  omega

/-! ### Paths -/

theorem step?_mono (fewer : ∀ p, d'.isFile p → d.isFile p) {names next : List (List Char)}
    {step : List Char} (goes : d.step? names step = some next) :
    d'.step? names step = some next := by
  have free : ∀ p, d.isFile p = false → d'.isFile p = false := fun p absent =>
    Bool.eq_false_iff.mpr fun there => by simp [fewer p there] at absent
  simp only [step?] at goes ⊢
  split at goes
  · rwa [if_pos ‹_›]
  · rw [if_neg ‹_›]
    split at goes
    · rename_i passes
      simp only [Bool.and_eq_true, Bool.not_eq_true'] at passes
      simpa [passes, free _ passes.1.2] using goes
    · cases goes

theorem steps_mono (fewer : ∀ p, d'.isFile p → d.isFile p) {steps : List (List Char)}
    {names last : List (List Char)} (goes : steps.foldlM d.step? names = some last) :
    steps.foldlM d'.step? names = some last := by
  induction steps generalizing names with
  | nil => exact goes
  | cons step steps ih =>
    rw [List.foldlM_cons, Option.bind_eq_bind, Option.bind_eq_some_iff] at goes ⊢
    obtain ⟨next, first, rest⟩ := goes
    exact ⟨next, step?_mono fewer first, ih rest⟩

/-- A path leads where it led when there were more files in its way. -/
theorem fullPath?_mono (fewer : ∀ p, d'.isFile p → d.isFile p)
    (start : d'.workingDirectory = d.workingDirectory) (leads : d.fullPath? p = some path) :
    d'.fullPath? p = some path := by
  have split : d'.steps p = d.steps p := by
    simp only [steps, start]
  rw [fullPath?, split]
  rw [fullPath?] at leads
  cases goes : (d.steps p).foldlM d.step? [] with
  | none => simp [goes] at leads
  | some names =>
    rw [goes] at leads
    rw [steps_mono fewer goes]
    exact leads

theorem finds_write (db : Database) (found : d.finds p) : (d.write path db).finds p := by
  have more : ∀ end? : Option (List (List Char)),
      (end?.map fun names => d.holds (pathOf names)).getD false →
        (end?.map fun names => (d.write path db).holds (pathOf names)).getD false := by
    rintro (_ | names) there
    · cases there
    · simp only [Option.map_some, Option.getD_some, holds, isFile_write, Bool.or_eq_true] at there ⊢
      exact there.imp_left .inr
  -- The way there is through directories only, which are the same.
  obtain ⟨named, found⟩ := Bool.and_eq_true_iff.mp found
  exact Bool.and_eq_true_iff.mpr ⟨named, more _ found⟩

/-! ### Actions -/

@[simp] theorem bind_run {α β : Type} (x : Action α) (f : α → Action β) (d : Disk) :
    (x >>= f) d = match x d with
      | (.ok a, d') => f a d'
      | (.error e, d') => (.error e, d') := by
  show (ExceptT.bind x f) d = _
  simp only [ExceptT.bind, ExceptT.mk, bind, StateT.bind]
  rcases x d with ⟨_ | _, _⟩ <;> rfl

@[simp] theorem pure_run {α : Type} (a : α) (d : Disk) : (pure a : Action α) d = (.ok a, d) := rfl

@[simp] theorem get_run (d : Disk) : (get : Action Disk) d = (.ok d, d) := rfl

@[simp] theorem set_run (d d' : Disk) : (set d' : Action Unit) d = (.ok (), d') := rfl

@[simp] theorem throw_run {α : Type} (fault : Fault) (d : Disk) :
    (throw fault : Action α) d = (.error fault, d) := rfl

@[simp] theorem ite_run {α : Type} (c : Prop) [Decidable c] (x y : Action α) (d : Disk) :
    (if c then x else y) d = if c then x d else y d := by
  split <;> rfl

theorem of_findOrCreate (absent : d.isFile path = false)
    (created : findOrCreate path name d = (.ok (), d')) :
    (∀ model, name.modelPath? = some model → d.finds model) ∧ d.isDirectory path = false ∧
      d' = d.write path .empty := by
  simp only [findOrCreate, bind_run, get_run, ite_run, throw_run, set_run, absent,
    Bool.not_false, if_true] at created
  split at created
  · cases created
  · rename_i model
    split at created
    · cases created
    · rename_i noDirectory
      split at created
      · cases created
        refine ⟨fun m given => ?_, Bool.eq_false_iff.mpr noDirectory, rfl⟩
        simpa [given] using model
      · cases created

theorem findOrCreate_of_file (there : d.isFile path)
    (model : ∀ model, name.modelPath? = some model → d.finds model)
    (noDirectory : d.isDirectory path = false) :
    findOrCreate path name d = (.ok (), d) := by
  have found : (name.modelPath?.map fun model => !d.finds model).getD false = false := by
    cases given : name.modelPath? with
    | none => rfl
    | some m => simp [model m given]
  simp [findOrCreate, found, noDirectory, there]

theorem lock_write (d : Disk) (path : String) (name : Filename) (db : Database) :
    lock path name (d.write path db) = ((lock path name d).1, d.write path db) := by
  have ne : path ++ lockSuffix ≠ path := append_ne path (by decide)
  have same := holds_write_of_ne d db ne
  simp only [lock, bind_run, get_run, ite_run, throw_run, pure_run, same]
  repeat' split
  all_goals rfl

theorem settleJournal_of_absent (name : Filename)
    (absent : d.isFile (path ++ journalSuffix) = false) :
    settleJournal path name d = (.ok (), d) := by
  simp [settleJournal, isWritten_of_absent absent]

theorem settleLog_of_absent (name : Filename) (absent : d.isFile (path ++ logSuffix) = false) :
    settleLog path name d = (.ok (), d) := by
  simp [settleLog, isWritten_of_absent absent]

/-- A database as it is found in the file at a path. -/
def foundAt (path : String) (name : Filename) (db : Database) : Found :=
  ⟨db, some path, (barrier? path name).map fun fault => (0, fault)⟩

theorem read_write (d : Disk) (path : String) (name : Filename) (db : Database) :
    read path name (d.write path db) = (.ok (foundAt path name db), d.write path db) := by
  simp [read, lookup_write, foundAt]

/-! ### Places for a database -/

/-- There is no file at a path, and none that tells of transactions of a database there. -/
structure Vacant (d : Disk) (path : String) : Prop where
  absent : d.isFile path = false
  unjournaled : d.isFile (path ++ journalSuffix) = false
  unlogged : d.isFile (path ++ logSuffix) = false

theorem Vacant.neighbours_write (vacant : d.Vacant path) (db : Database) :
    (d.write path db).isFile (path ++ journalSuffix) = false ∧
      (d.write path db).isFile (path ++ logSuffix) = false := by
  rw [isFile_write_of_ne d db (append_ne path (by decide)),
    isFile_write_of_ne d db (append_ne path (by decide))]
  exact ⟨vacant.unjournaled, vacant.unlogged⟩

/-- Whether others let a database be opened. -/
def admission (d : Disk) (path : String) (name : Filename) : Except Fault Unit :=
  if name.frozen then .ok () else (lock path name d).1

theorem Vacant.openFile_of_created (vacant : d.Vacant path)
    (leads : d'.fullPath? name.path = some path)
    (created : findOrCreate path name d' = (.ok (), d.write path db)) :
    openFile name d' =
      ((d.admission path name).map fun _ => foundAt path name db, d.write path db) := by
  obtain ⟨unjournaled, unlogged⟩ := vacant.neighbours_write db
  simp only [openFile, bind_run, get_run, leads, created, ite_run, lock_write, admission]
  cases name.frozen with
  | true => simp [read_write, Except.map]
  | false =>
    have settled := settleJournal_of_absent name unjournaled
    have taken := settleLog_of_absent name unlogged
    cases (lock path name d).1 <;> simp [settled, taken, read_write, Except.map]

/-- A database that is opened at a vacant place is made there, and would be found if it had been
there. -/
theorem Vacant.openFile (vacant : d.Vacant path) {found : Found}
    (leads : (d.write path .empty).fullPath? name.path = some path)
    (opened : openFile name d = (.ok found, d')) :
    d' = d.write path .empty ∧ found = foundAt path name .empty ∧
      ∀ db, Disk.openFile name (d.write path db) =
        (.ok (foundAt path name db), d.write path db) := by
  have leads_vacant : d.fullPath? name.path = some path := by
    refine fullPath?_mono (d := d.write path .empty) (fun p there => ?_) rfl leads
    simp [isFile_write, there]
  have leads_written : ∀ db, (d.write path db).fullPath? name.path = some path := by
    intro db
    refine fullPath?_mono (d := d.write path .empty) (fun p there => ?_) rfl leads
    rwa [isFile_write] at there ⊢
  cases created : findOrCreate path name d with
  | mk result d₁ =>
    cases result with
    | error fault =>
      simp only [Disk.openFile, bind_run, get_run, leads_vacant, created] at opened
      cases opened
    | ok _ =>
      obtain ⟨model, noDirectory, rfl⟩ := of_findOrCreate vacant.absent created
      have created' : ∀ db, findOrCreate path name (d.write path db) =
          (.ok (), d.write path db) := by
        intro db
        refine findOrCreate_of_file (by simp [isFile_write]) (fun m given => ?_) noDirectory
        exact finds_write db (model m given)
      rw [vacant.openFile_of_created leads_vacant created] at opened
      cases admitted : d.admission path name with
      | error fault =>
        rw [admitted] at opened
        cases opened
      | ok _ =>
        rw [admitted] at opened
        cases opened
        refine ⟨rfl, rfl, fun db => ?_⟩
        rw [vacant.openFile_of_created (leads_written db) (created' db), admitted]
        rfl

end Disk

/-! ### Openings -/

variable {d d' : Disk} {path : String} {db after : Database} {k : Nat}

open Disk

theorem bringUp_eq {applied : Nat} (level : db.Level k) (bound : k ≤ 4)
    (migrated : db.migrate = (.ok applied, after)) (path? : Option String) :
    bringUp d ⟨db, path?, none⟩ =
      ⟨Migrator.broker.migrations.drop k,
        .ok ⟨after, path?, Migrator.broker.migrations.drop k⟩, d.keep path? db after⟩ := by
  have run : Migrator.broker.run (Found.target ⟨db, path?, none⟩) db = (.ok applied, after) :=
    migrated
  simp only [bringUp, level.pending bound, run]

/-- Where nothing can be written, the first migration fails. -/
theorem bringUp_barred (d : Disk) (path? : Option String) (fault : Fault) :
    (bringUp d ⟨.empty, path?, some (0, fault)⟩).outcome = .error (.failed 0 fault.refusal) := by
  unfold bringUp
  rw [Migrator.broker_eq]
  rfl

namespace Disk

/-- An address leads to a path, whether there is a file or not, and opens a database there. -/
structure Opens (d : Disk) (path url : String) : Prop where
  -- A path that leads through the file to be made would lead nowhere once it is there.
  leads : ∃ name, Address.parse url = .ok (.file name) ∧
    (d.write path .empty).fullPath? name.path = some path
  opened : ∃ opened, (openUrl d url).outcome = .ok opened

variable {url : String}

theorem opens_of (name : Address.Filename)
    (parsed : (Address.parse url).toOption = some (.file name))
    (leads : (d.write path .empty).fullPath? name.path = some path)
    (opened : (openUrl d url).outcome.isOk = true) : d.Opens path url := by
  constructor
  · cases read : Address.parse url with
    | error e => simp [read, Except.toOption] at parsed
    | ok address =>
      simp only [read, Except.toOption, Option.some.injEq] at parsed
      exact ⟨name, by rw [parsed], leads⟩
  · cases outcome : (openUrl d url).outcome with
    | error e => simp [outcome, Except.isOk, Except.toBool] at opened
    | ok opened => exact ⟨opened, rfl⟩

theorem Vacant.keep_eq (vacant : d.Vacant path) (before after : Database) :
    (d.write path before).keep (some path) before after = d.write path after := by
  have unjournaled := (vacant.neighbours_write before).1
  unfold keep
  by_cases same : before = after
  · simp [same]
  · simp [same, erase_of_absent unjournaled, write_write]

/-- What is found at a vacant place, and later at that place, by an address that opens it. -/
theorem Opens.openFile_eq (vacant : d.Vacant path) (opens : d.Opens path url) :
    ∃ name, Address.parse url = .ok (.file name) ∧
      openFile name d = (.ok ⟨.empty, some path, none⟩, d.write path .empty) ∧
      ∀ db, openFile name (d.write path db) = (.ok ⟨db, some path, none⟩, d.write path db) := by
  obtain ⟨name, parsed, leads⟩ := opens.leads
  obtain ⟨opened, outcome⟩ := opens.opened
  simp only [openUrl, parsed] at outcome
  cases first : openFile name d with
  | mk result d₁ =>
    rw [first] at outcome
    cases result with
    | error fault => cases outcome
    | ok found =>
      obtain ⟨rfl, rfl, again⟩ := vacant.openFile leads first
      have writable : barrier? path name = none := by
        cases barred : barrier? path name with
        | none => rfl
        | some fault =>
          simp only [foundAt, barred, Option.map_some, bringUp_barred] at outcome
          cases outcome
      rw [foundAt, writable] at first
      simp only [foundAt, writable] at again
      exact ⟨name, parsed, first, again⟩

/-- At a vacant place a database is made at the current schema, used and kept. -/
theorem Opens.useDatabase_vacant {α : Type} (opens : d.Opens path url) (vacant : d.Vacant path)
    (work : Database → α × Database) :
    useDatabase d url work =
      (.ok (work .migrated).1, d.write path (work .migrated).2) := by
  obtain ⟨name, parsed, first, -⟩ := opens.openFile_eq vacant
  have opening : openUrl d url =
      ⟨Migrator.broker.migrations.drop 0, .ok ⟨.migrated, some path,
        Migrator.broker.migrations.drop 0⟩, d.write path .migrated⟩ := by
    simp only [openUrl, parsed, first]
    rw [bringUp_eq Database.empty_level (by decide) Database.migrate_empty, vacant.keep_eq]
  simp only [useDatabase, opening, vacant.keep_eq]

/-- A database at the current schema is used as it is, and kept. -/
theorem Opens.useDatabase_current {α : Type} (opens : d.Opens path url) (vacant : d.Vacant path)
    (current : db.Level 4) (work : Database → α × Database) :
    useDatabase (d.write path db) url work = (.ok (work db).1, d.write path (work db).2) := by
  obtain ⟨name, parsed, -, again⟩ := opens.openFile_eq vacant
  have opening : openUrl (d.write path db) url =
      ⟨Migrator.broker.migrations.drop 4, .ok ⟨db, some path, Migrator.broker.migrations.drop 4⟩,
        d.write path db⟩ := by
    simp only [openUrl, parsed, again]
    rw [bringUp_eq current (by decide) current.migrate_current, vacant.keep_eq]
  simp only [useDatabase, opening, vacant.keep_eq]

end Disk

/-! ### Calls -/

/-- A call to a database, and the answer. -/
abbrev Reply : Type := (call : StoreCall) × Except StoreError call.Value

namespace Database

/-- The replies to calls, each made at a time, and the database after them. -/
def replies (db : Database) : List (Instant × StoreCall) → List Reply × Database
  | [] => ([], db)
  | (now, call) :: later =>
    let (answer, db) := db.step now call
    let (rest, db) := db.replies later
    (⟨call, answer⟩ :: rest, db)

theorem replies_append (db : Database) (calls later : List (Instant × StoreCall)) :
    db.replies (calls ++ later) =
      ((db.replies calls).1 ++ ((db.replies calls).2.replies later).1,
        ((db.replies calls).2.replies later).2) := by
  induction calls generalizing db with
  | nil => rfl
  | cons c calls ih => simp [replies, ih]

/-- No call touches the schema or the ledger. -/
theorem Level.step (level : db.Level k) (now : Instant) (call : StoreCall) :
    (db.step now call).2.Level k := by
  unfold Database.step
  split
  · exact ⟨level.schema, level.ledger⟩
  · exact level

theorem Level.replies (level : db.Level k) (calls : List (Instant × StoreCall)) :
    (db.replies calls).2.Level k := by
  induction calls generalizing db with
  | nil => exact level
  | cons c calls ih => exact ih (level.step c.1 c.2)

end Database

namespace Disk

/-- An opening of a database at an address, and the calls that are made to it until it is closed. -/
structure Visit where
  url : String
  calls : List (Instant × StoreCall)

/-- Visits one after another: what each one comes to, and the disk after them. -/
def visits (d : Disk) : List Visit → List (Except MigrationError (List Reply)) × Disk
  | [] => ([], d)
  | v :: later =>
    let (result, d) := useDatabase d v.url (·.replies v.calls)
    let (rest, d) := d.visits later
    (result :: rest, d)

theorem visits_current {vs : List Visit} (vacant : d.Vacant path)
    (opens : ∀ v ∈ vs, d.Opens path v.url) (current : db.Level 4) :
    ∃ parts : List (List Reply), parts.flatten = (db.replies (vs.flatMap (·.calls))).1 ∧
      (d.write path db).visits vs =
        (parts.map .ok, d.write path (db.replies (vs.flatMap (·.calls))).2) := by
  induction vs generalizing db with
  | nil => exact ⟨[], rfl, rfl⟩
  | cons v vs ih =>
    obtain ⟨here, later⟩ := List.forall_mem_cons.mp opens
    obtain ⟨parts, whole, rest⟩ := ih later (current.replies v.calls)
    refine ⟨(db.replies v.calls).1 :: parts, ?_, ?_⟩
    · simp [Database.replies_append, whole]
    · simp [visits, here.useDatabase_current vacant current, rest, Database.replies_append]

theorem visits_vacant {vs : List Visit} (vacant : d.Vacant path)
    (opens : ∀ v ∈ vs, d.Opens path v.url) (some : vs ≠ []) :
    ∃ parts : List (List Reply),
      parts.flatten = (Database.migrated.replies (vs.flatMap (·.calls))).1 ∧
      d.visits vs =
        (parts.map .ok, d.write path (Database.migrated.replies (vs.flatMap (·.calls))).2) := by
  cases vs with
  | nil => exact absurd rfl some
  | cons v vs =>
    obtain ⟨here, later⟩ := List.forall_mem_cons.mp opens
    have current := Database.migrated_level.replies v.calls
    obtain ⟨parts, whole, rest⟩ := visits_current vacant later current
    refine ⟨(Database.migrated.replies v.calls).1 :: parts, ?_, ?_⟩
    · simp [Database.replies_append, whole]
    · simp [visits, here.useDatabase_vacant vacant, rest, Database.replies_append]

/-- Visits to a database that is first made at a vacant place. However the calls are divided between
visits, each is answered as in a single visit with all of them, and the disk is left the same, with
all tables, counters and the ledger. -/
theorem reopening_unobservable {vs : List Visit} (vacant : d.Vacant path)
    (opens : ∀ v ∈ vs, d.Opens path v.url) (some : vs ≠ []) :
    ∃ (parts : List (List Reply)) (db : Database),
      (parts.flatten, db) = Database.migrated.replies (vs.flatMap (·.calls)) ∧
      db.ledger = [0, 1, 2, 3] ∧
      d.visits vs = (parts.map .ok, d.write path db) ∧
      ∀ v ∈ vs, d.visits [⟨v.url, vs.flatMap (·.calls)⟩] =
        ([.ok parts.flatten], d.write path db) := by
  obtain ⟨parts, whole, divided⟩ := visits_vacant vacant opens some
  have level := Database.migrated_level.replies (vs.flatMap (·.calls))
  refine ⟨parts, _, by rw [whole], ?_, divided, fun v among => ?_⟩
  · rw [level.eq (by decide)]
    rfl
  · simp [visits, (opens v among).useDatabase_vacant vacant, whole]

/-- Three visits at two spellings of one address. The second binding gets the next number, although
the database was opened twice since the first. -/
theorem reopening_unobservable_thrice :
    let binding (id : String) : StoreCall := .createBinding (.claim 0 "i" id "bucket")
    let request : StoreCall := .createRequest (.of 0 "i" (.obj []))
    ∃ (parts : List (List Reply)) (db : Database),
      Disk.visits {} [⟨"sqlite:/store.db", [(0, binding "j"), (0, request)]⟩,
          ⟨"sqlite://store.db?mode=rwc", []⟩, ⟨"sqlite:/store.db", [(9, binding "k")]⟩] =
        (parts.map .ok, Disk.write {} "/store.db" db) ∧
      Disk.visits {} [⟨"sqlite:/store.db", [(0, binding "j"), (0, request), (9, binding "k")]⟩] =
        ([.ok parts.flatten], Disk.write {} "/store.db" db) ∧
      parts.flatten = [⟨binding "j", .ok 1⟩, ⟨request, .ok 1⟩, ⟨binding "k", .ok 2⟩] ∧
      db.ledger = [0, 1, 2, 3] := by
  intro binding request
  have vacant : Disk.Vacant {} "/store.db" :=
    ⟨by decide +kernel, by decide +kernel, by decide +kernel⟩
  have whole : Disk.Opens {} "/store.db" "sqlite:/store.db" := by
    refine opens_of { path := "/store.db", access := {} } (by decide +kernel) (by decide +kernel) ?_
    unfold openUrl bringUp
    rw [Migrator.broker_eq]
    decide +kernel
  have relative : Disk.Opens {} "/store.db" "sqlite://store.db?mode=rwc" := by
    refine opens_of { path := "store.db", access := {} } (by decide +kernel) (by decide +kernel) ?_
    unfold openUrl bringUp
    rw [Migrator.broker_eq]
    decide +kernel
  have numbered : (Database.migrated.replies [(0, binding "j"), (0, request), (9, binding "k")]).1 =
      [⟨binding "j", .ok 1⟩, ⟨request, .ok 1⟩, ⟨binding "k", .ok 2⟩] := by
    rw [Database.migrated_eq]
    rfl
  have opens : ∀ v ∈ [(⟨"sqlite:/store.db", [(0, binding "j"), (0, request)]⟩ : Visit),
      ⟨"sqlite://store.db?mode=rwc", []⟩, ⟨"sqlite:/store.db", [(9, binding "k")]⟩],
      Disk.Opens {} "/store.db" v.url := by
    simp [whole, relative]
  obtain ⟨parts, db, answers, ledger, divided, single⟩ :=
    reopening_unobservable vacant opens (List.cons_ne_nil _ _)
  have replied := congrArg Prod.fst answers
  have single := single _ List.mem_cons_self
  simp only [List.flatMap_cons, List.flatMap_nil, List.cons_append, List.nil_append]
    at replied single
  refine ⟨parts, db, divided, ?_, ?_, ledger⟩
  · exact single
  · exact replied.trans numbered

end Disk

end Brokerage
