import Brokerage.Proofs.Schema.Runs
import Brokerage.Proofs.Store.Keys
import Brokerage.Schema.Database

/-! Levels of databases. A database to which the first of the broker's migrations were applied is
brought to the current schema with all its rows; only rows that the index of live pairs cannot hold
stop that, and then the database stays at the level below the index. -/

namespace Brokerage

/-- Some pair has several live bindings. -/
def Store.SharesPair (s : Store) : Prop :=
  ∃ instanceId bindingId, 1 < s.countBindings instanceId bindingId

namespace Database

variable {db db' db'' : Database} {k : Nat} {m : Migration}

/-! ### Shared pairs -/

theorem sharesLivePair_iff {rows : List BindingRow} : sharesLivePair rows = true ↔
    ∃ i j, 1 < rows.countP fun r => r.isOf i j && r.live := by
  induction rows with
  | nil => simp [sharesLivePair]
  | cons r rest ih =>
    rw [sharesLivePair, Bool.or_eq_true, Bool.and_eq_true, List.any_eq_true, ih]
    constructor
    · rintro (⟨live, other, among, shared⟩ | ⟨i, j, several⟩)
      · have another : 0 < rest.countP fun x => x.isOf r.instanceId r.bindingId && x.live :=
          List.countP_pos_iff.mpr ⟨other, among, by rwa [Bool.and_comm]⟩
        have itself : (r.isOf r.instanceId r.bindingId && r.live) = true := by
          simp [BindingRow.isOf, live]
        refine ⟨r.instanceId, r.bindingId, ?_⟩
        rw [List.countP_cons, if_pos itself]
        omega
      · refine ⟨i, j, ?_⟩
        rw [List.countP_cons]
        omega
    · rintro ⟨i, j, several⟩
      by_cases counted : (r.isOf i j && r.live) = true
      · rw [List.countP_cons, if_pos counted] at several
        have another : 0 < rest.countP fun x => x.isOf i j && x.live := by omega
        obtain ⟨other, among, shared⟩ := List.countP_pos_iff.mp another
        obtain ⟨same, live⟩ := Bool.and_eq_true_iff.mp counted
        obtain ⟨rfl, rfl⟩ := Store.isOf_iff.mp same
        exact .inl ⟨live, other, among, by rwa [Bool.and_comm]⟩
      · rw [List.countP_cons, if_neg counted] at several
        exact .inr ⟨i, j, several⟩

theorem sharesLivePair_withStatus (rows : List BindingRow) (status : BindingStatus) :
    sharesLivePair (rows.map (·.withStatus status)) = sharesLivePair rows := by
  have unread : ∀ r : BindingRow, ∀ i j,
      ((r.withStatus status).isOf i j && (r.withStatus status).live) = (r.isOf i j && r.live) :=
    fun _ _ _ => rfl
  rw [Bool.eq_iff_iff, sharesLivePair_iff, sharesLivePair_iff]
  simp only [List.countP_map, Function.comp_def, unread]

theorem sharesPair_iff {s : Store} : s.SharesPair ↔ sharesLivePair s.bindings = true :=
  sharesLivePair_iff.symm

instance (s : Store) : Decidable s.SharesPair := decidable_of_iff' _ sharesPair_iff

/-! ### Rows -/

/-- The instances as they read. Before there is a column for them, all statuses are active. -/
def instanceRows (db : Database) : List InstanceRow :=
  if db.schema.instanceStatus then db.store.instances
  else db.store.instances.map (·.withStatus .active)

/-- The bindings as they read. -/
def bindingRows (db : Database) : List BindingRow :=
  if db.schema.bindingStatus then db.store.bindings
  else db.store.bindings.map (·.withStatus .active)

/-- `db'` has all rows of `db`, column by column, under the same counters, and what its ledger has
more stands at the end. -/
structure Keeps (db db' : Database) : Prop where
  instances : db'.instanceRows = db.instanceRows
  bindings : db'.bindingRows = db.bindingRows
  requests : db'.store.requests = db.store.requests
  plans : db'.store.plans = db.store.plans
  lastBindingId : db'.store.lastBindingId = db.store.lastBindingId
  lastRequestId : db'.store.lastRequestId = db.store.lastRequestId
  ledger : db.ledger <+: db'.ledger

theorem Keeps.refl (db : Database) : db.Keeps db :=
  ⟨rfl, rfl, rfl, rfl, rfl, rfl, List.prefix_refl _⟩

theorem Keeps.trans (h : db.Keeps db') (h' : db'.Keeps db'') : db.Keeps db'' :=
  ⟨h'.instances.trans h.instances, h'.bindings.trans h.bindings, h'.requests.trans h.requests,
    h'.plans.trans h.plans, h'.lastBindingId.trans h.lastBindingId,
    h'.lastRequestId.trans h.lastRequestId, h.ledger.trans h'.ledger⟩

/-- No script loses anything. -/
theorem Keeps.of_runScript {script : SchemaScript} (ran : db.runScript script = .ok db') :
    db.Keeps db' := by
  have prefixed := List.prefix_refl db.ledger
  cases script with
  | baseline =>
    cases ran
    exact ⟨rfl, rfl, rfl, rfl, rfl, rfl, prefixed⟩
  | instanceStatus =>
    simp only [runScript] at ran
    split at ran
    · cases ran
    · rename_i missing
      cases ran
      refine ⟨?_, rfl, rfl, rfl, rfl, rfl, prefixed⟩
      simp [instanceRows, missing]
  | liveBindingIndex =>
    simp only [runScript] at ran
    split at ran
    · cases ran
      exact .refl db
    · split at ran
      · cases ran
      · cases ran
        exact ⟨rfl, rfl, rfl, rfl, rfl, rfl, prefixed⟩
  | bindingStatus =>
    simp only [runScript] at ran
    split at ran
    · cases ran
    · rename_i missing
      cases ran
      refine ⟨rfl, ?_, rfl, rfl, rfl, rfl, prefixed⟩
      simp [bindingRows, missing]

theorem Keeps.of_apply (applied : target.apply m db = .ok db') : db.Keeps db' := by
  cases ran : db.runScript m.script with
  | error e =>
    simp only [target, applyMigration, ran] at applied
    cases applied
  | ok grown =>
    simp only [target, applyMigration, ran] at applied
    cases applied
    have kept := Keeps.of_runScript ran
    exact { kept with ledger := kept.ledger.trans (List.prefix_append _ _) }

/-- Whatever migrations are applied, nothing is lost. -/
theorem Keeps.of_applies {ms : List Migration} (applies : target.Applies ms db db') :
    db.Keeps db' := by
  induction applies with
  | done => exact .refl _
  | next applied _ ih => exact (Keeps.of_apply applied).trans ih

theorem sharesLivePair_bindingRows (db : Database) :
    sharesLivePair db.bindingRows = sharesLivePair db.store.bindings := by
  unfold bindingRows
  split
  · rfl
  · exact sharesLivePair_withStatus _ _

theorem Keeps.sharesPair_iff (h : db.Keeps db') :
    db'.store.SharesPair ↔ db.store.SharesPair := by
  rw [Database.sharesPair_iff, Database.sharesPair_iff, ← sharesLivePair_bindingRows, h.bindings,
    sharesLivePair_bindingRows]

/-! ### Levels -/

/-- An empty database to which the first `k` of the broker's migrations were applied. -/
def made (k : Nat) : Database :=
  (Migrator.applyAll target (Migrator.broker.migrations.take k) empty).2

/-- The first `k` of the broker's migrations were applied to a database, and no others. Its rows may
be any. -/
structure Level (k : Nat) (db : Database) : Prop where
  schema : db.schema = (made k).schema
  ledger : db.ledger = (made k).ledger

theorem made_eq (bound : k ≤ 4) : made k =
    { schema := ⟨0 < k, 1 < k, 2 < k, 3 < k⟩, ledger := (List.range k).map Int.ofNat } := by
  rw [made, Migrator.broker_eq]
  match k, bound with
  | 0, _ | 1, _ | 2, _ | 3, _ | 4, _ => rfl

theorem Level.eq (level : db.Level k) (bound : k ≤ 4) : db =
    { schema := ⟨0 < k, 1 < k, 2 < k, 3 < k⟩
      store := db.store
      ledger := (List.range k).map Int.ofNat } := by
  obtain ⟨schema, store, ledger⟩ := db
  obtain ⟨rfl, rfl⟩ := level
  simp [made_eq bound]

theorem level_of_eq (bound : k ≤ 4) (schema : db.schema = ⟨0 < k, 1 < k, 2 < k, 3 < k⟩)
    (ledger : db.ledger = (List.range k).map Int.ofNat) : db.Level k :=
  ⟨by rw [schema, made_eq bound], by rw [ledger, made_eq bound]⟩

theorem Level.pending (level : db.Level k) (bound : k ≤ 4) :
    Migrator.broker.pending db.lastApplied = .ok (Migrator.broker.migrations.drop k) := by
  rw [level.eq bound, Migrator.broker_eq]
  match k, bound with
  | 0, _ | 1, _ | 2, _ | 3, _ | 4, _ => rfl

/-- The next migration takes a database up a level, but for the index of live pairs when a pair has
several live bindings. -/
theorem Level.apply_next (level : db.Level k) (next : Migrator.broker.migrations[k]? = some m)
    (single : k = 2 → ¬ db.store.SharesPair) :
    ∃ db', target.apply m db = .ok db' ∧ db'.Level (k + 1) := by
  rw [Migrator.broker_eq] at next
  match k with
  | 0 | 1 | 3 =>
    cases next
    rw [level.eq (by decide)]
    exact ⟨_, rfl, level_of_eq (by decide) rfl rfl⟩
  | 2 =>
    cases next
    have unshared : sharesLivePair db.store.bindings = false :=
      Bool.eq_false_iff.mpr fun shared => single rfl (sharesPair_iff.mpr shared)
    rw [level.eq (by decide)]
    refine ⟨⟨⟨true, true, true, false⟩, db.store, [0, 1, 2]⟩, ?_, level_of_eq (by decide) rfl rfl⟩
    simp only [target, applyMigration, runScript, unshared]
    rfl
  | k + 4 => cases next

theorem Level.apply_index (level : db.Level 2) (next : Migrator.broker.migrations[2]? = some m)
    (shared : db.store.SharesPair) : target.apply m db = .error Store.bindingTaken := by
  rw [Migrator.broker_eq] at next
  cases next
  have found := sharesPair_iff.mp shared
  rw [level.eq (by decide)]
  simp only [target, applyMigration, runScript, found]
  rfl

/-- Migrations take a database from level to level, past the index only if no pair has several live
bindings. -/
theorem Level.applies (level : db.Level k) {j : Nat} (order : k ≤ j) (bound : j ≤ 4)
    (single : k ≤ 2 → 2 < j → ¬ db.store.SharesPair) :
    ∃ db', target.Applies ((Migrator.broker.migrations.take j).drop k) db db' ∧ db'.Level j := by
  induction order with
  | refl =>
    have taken := List.length_take_le k Migrator.broker.migrations
    refine ⟨db, ?_, level⟩
    rw [List.drop_of_length_le taken]
    exact .done
  | @step j order ih =>
    have below : k ≤ j := order
    obtain ⟨db', applies, level'⟩ := ih (by omega) fun before past => single before (by omega)
    have inside : j < Migrator.broker.migrations.length := by
      rw [Migrator.broker_eq]
      exact bound
    have next := List.getElem?_eq_getElem inside
    have unshared : j = 2 → ¬ db'.store.SharesPair := by
      intro atIndex
      rw [(Keeps.of_applies applies).sharesPair_iff]
      exact single (by omega) (by omega)
    obtain ⟨db'', applied, level''⟩ := level'.apply_next next unshared
    refine ⟨db'', ?_, level''⟩
    have reached : k ≤ (Migrator.broker.migrations.take j).length := by
      rw [List.length_take]
      omega
    rw [List.take_add_one, next, List.drop_append_of_le_length reached]
    exact applies.append (.next applied .done)

theorem Level.migrate_eq (level : db.Level k) (bound : k ≤ 4)
    (applies : target.Applies (Migrator.broker.migrations.drop k) db db') :
    db.migrate = (.ok (4 - k), db') := by
  have run := Migrator.run_of_applies rfl (level.pending bound) applies
  have left : (Migrator.broker.migrations.drop k).length = 4 - k := by
    rw [Migrator.broker_eq]
    simp
  rw [migrate, run, left]

/-- A database at a level is brought to the current schema with all its rows, unless the index is
still to come and some pair has several live bindings. -/
theorem Level.migrate_ok (level : db.Level k) (bound : k ≤ 4)
    (single : k ≤ 2 → ¬ db.store.SharesPair) :
    ∃ db', db.migrate = (.ok (4 - k), db') ∧ db.Keeps db' ∧ db'.Level 4 := by
  obtain ⟨db', applies, level'⟩ := level.applies bound (Nat.le_refl 4) fun before _ => single before
  rw [List.take_of_length_le (by simp [Migrator.broker_eq])] at applies
  exact ⟨db', level.migrate_eq bound applies, .of_applies applies, level'⟩

theorem Level.migrate_current (level : db.Level 4) : db.migrate = (.ok 0, db) := by
  refine level.migrate_eq (Nat.le_refl 4) ?_
  rw [Migrator.broker_eq]
  exact .done

/-- If the index of live pairs is still to come and some pair has several live bindings, the run
ends below the index, with all rows. -/
theorem Level.migrate_fails (level : db.Level k) (before : k ≤ 2) (shared : db.store.SharesPair) :
    ∃ db', db.migrate = (.error (.failed 2 Store.bindingTaken), db') ∧ db.Keeps db' ∧
      db'.Level 2 := by
  obtain ⟨db', applies, level'⟩ := level.applies before (by decide) (by omega)
  have kept := Keeps.of_applies applies
  obtain ⟨later, order⟩ : ∃ later, Migrator.broker.migrations.drop k =
      (Migrator.broker.migrations.take 2).drop k ++
        ⟨2, "unique live binding per instance, request lookup index", .liveBindingIndex⟩ ::
          later := by
    rw [Migrator.broker_eq]
    match k, before with
    | 0, _ | 1, _ | 2, _ => exact ⟨_, rfl⟩
  have pending := level.pending (by omega)
  rw [order] at pending
  have refused : target.apply
      ⟨2, "unique live binding per instance, request lookup index", .liveBindingIndex⟩ db' =
        .error Store.bindingTaken := by
    refine level'.apply_index ?_ (kept.sharesPair_iff.mpr shared)
    rw [Migrator.broker_eq]
    rfl
  exact ⟨db', Migrator.run_of_fails rfl pending applies refused, kept, level'⟩

theorem Level.lastApplied_eq (level : db.Level 2) : db.lastApplied = some 1 := by
  rw [level.eq (by decide)]
  rfl

/-! ### Fresh databases -/

theorem empty_level : empty.Level 0 := level_of_eq (by decide) rfl rfl

theorem migrate_empty : empty.migrate = (.ok 4, migrated) := by
  obtain ⟨db, run, -, -⟩ := empty_level.migrate_ok (by decide) fun _ => by decide
  rw [migrated, run]

theorem migrated_eq : migrated = { schema := .current, ledger := [0, 1, 2, 3] } := by
  rw [migrated, migrate, Migrator.broker_eq]
  rfl

theorem migrated_level : migrated.Level 4 := by
  rw [migrated_eq]
  exact level_of_eq (by decide) rfl rfl

/-! ### Migrations at any level -/

/-- Migrating a database to which the first of the broker's migrations were applied, whatever rows
it has. All rows are kept, and those without a status read as active. The run ends at the current
schema, where a further run finds nothing to do; but if the index of live pairs is to come and some
pair has several live bindings, it fails at the index and leaves the database at the level below. -/
theorem migrate_keeps (db : Database) {k : Nat} (bound : k ≤ 4) (level : db.Level k) :
    (¬ (k ≤ 2 ∧ db.store.SharesPair) → ∃ db', db.migrate = (.ok (4 - k), db') ∧
      db.Keeps db' ∧ db'.Level 4 ∧ db'.migrate = (.ok 0, db')) ∧
    (k ≤ 2 ∧ db.store.SharesPair → ∃ db',
      db.migrate = (.error (.failed 2 Store.bindingTaken), db') ∧
      db.Keeps db' ∧ db'.Level 2 ∧ db'.lastApplied = some 1) := by
  constructor
  · intro unshared
    obtain ⟨db', migrated, kept, level'⟩ :=
      level.migrate_ok bound fun before shared => unshared ⟨before, shared⟩
    exact ⟨db', migrated, kept, level', level'.migrate_current⟩
  · rintro ⟨before, shared⟩
    obtain ⟨db', failed, kept, level'⟩ := level.migrate_fails before shared
    exact ⟨db', failed, kept, level', level'.lastApplied_eq⟩

/-- A database at the first level with an instance and a binding, which was made again after it had
been deleted: both bindings are kept. Had the first not been deleted, the index would be refused. -/
theorem migrate_keeps_first :
    let row : InstanceRow := .claim 0 "i" "bucket" "small"
    let binding : BindingRow := .claim 0 "i" "j" "bucket"
    let deleted : BindingRow := { binding with deletedAt? := some 10 }
    let db (rows : List BindingRow) : Database :=
      ⟨⟨true, false, false, false⟩, { instances := [row], bindings := rows }, [0]⟩
    (∃ db', (db [deleted, binding]).migrate = (.ok 3, db') ∧
      db'.instanceRows = [row.withStatus .active] ∧
      db'.bindingRows = [deleted.withStatus .active, binding.withStatus .active] ∧
      db'.migrate = (.ok 0, db')) ∧
    ∃ db', (db [binding, binding]).migrate = (.error (.failed 2 Store.bindingTaken), db') ∧
      db'.instanceRows = [row.withStatus .active] ∧
      db'.bindingRows = [binding.withStatus .active, binding.withStatus .active] ∧
      db'.lastApplied = some 1 := by
  intro row binding deleted db
  have level : ∀ rows, (db rows).Level 1 := fun rows => level_of_eq (by decide) rfl rfl
  obtain ⟨migrated, -⟩ := migrate_keeps (db [deleted, binding]) (by decide) (level _)
  obtain ⟨-, failed⟩ := migrate_keeps (db [binding, binding]) (by decide) (level _)
  obtain ⟨db', run, kept, -, again⟩ := migrated (by decide)
  obtain ⟨db'', run', kept', -, last⟩ := failed (by decide)
  exact ⟨⟨db', run, kept.instances, kept.bindings, again⟩,
    db'', run', kept'.instances, kept'.bindings, last⟩

end Database

end Brokerage
