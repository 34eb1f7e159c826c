import Brokerage.Schema.Migration

/-! Runs of migrations. A run applies what a ledger lacks, in ascending order, up to the first
migration that fails; a ledger that is too new or too old is refused as it is. -/

namespace Brokerage

namespace MigrationTarget

variable {σ : Type} {target : MigrationTarget σ} {ledger : σ → List Int} {ms : List Migration}
  {s t u : σ}

/-- A target records what is applied to it in `ledger`: it reports the highest number there, and a
migration that it applies adds its own number at the end. -/
structure Records (target : MigrationTarget σ) (ledger : σ → List Int) : Prop where
  last : ∀ s, target.lastApplied s = .ok (ledger s).max?
  append : ∀ {m s t}, target.apply m s = .ok t → ledger t = ledger s ++ [m.sequence]

/-- Migrations that are applied one after another. -/
inductive Applies (target : MigrationTarget σ) : List Migration → σ → σ → Prop
  | done {s : σ} : Applies target [] s s
  | next {m : Migration} {later : List Migration} {s t u : σ} (applied : target.apply m s = .ok t)
      (rest : Applies target later t u) : Applies target (m :: later) s u

theorem Applies.ledger_eq (applies : target.Applies ms s t) (records : target.Records ledger) :
    ledger t = ledger s ++ ms.map (·.sequence) := by
  induction applies with
  | done => simp
  | next applied _ ih => simp [ih, records.append applied]

theorem Applies.append {later : List Migration} (first : target.Applies ms s t)
    (rest : target.Applies later t u) : target.Applies (ms ++ later) s u := by
  induction first with
  | done => exact rest
  | next applied _ ih => exact .next applied (ih rest)

theorem Applies.applyAll_eq (applies : target.Applies ms s t) :
    Migrator.applyAll target ms s = (.ok (), t) := by
  induction applies with
  | done => rfl
  | next applied _ ih => simp [Migrator.applyAll, applied, ih]

theorem Applies.applyAll_append (applies : target.Applies ms s t) (later : List Migration) :
    Migrator.applyAll target (ms ++ later) s = Migrator.applyAll target later t := by
  induction applies with
  | done => rfl
  | next applied _ ih => simp [Migrator.applyAll, applied, ih]

/-- Either all migrations of a list are applied, or one fails after those before it. -/
theorem applies_or_fails (target : MigrationTarget σ) (ms : List Migration) (s : σ) :
    (∃ t, target.Applies ms s t) ∨ ∃ done m later e t, ms = done ++ m :: later ∧
      target.Applies done s t ∧ target.apply m t = .error e := by
  induction ms generalizing s with
  | nil => exact .inl ⟨s, .done⟩
  | cons m ms ih =>
    cases applied : target.apply m s with
    | error e => exact .inr ⟨[], m, ms, e, s, rfl, .done, applied⟩
    | ok t =>
      rcases ih t with ⟨u, rest⟩ | ⟨done, x, later, e, u, rfl, rest, fails⟩
      · exact .inl ⟨u, .next applied rest⟩
      · exact .inr ⟨m :: done, x, later, e, u, rfl, .next applied rest, fails⟩

end MigrationTarget

namespace Migrator

open MigrationTarget (Records Applies applies_or_fails)

variable {σ : Type} {target : MigrationTarget σ} {ledger : σ → List Int} {s t : σ}
  {migrator : Migrator} {given due : List Migration} {numbers : List Int} {oldest last : Int}

/-! ### Migrations in order -/

/-- Migrations ascend if none has a lower number than one before it. -/
def Ascending (ms : List Migration) : Prop := ms.Pairwise (·.sequence ≤ ·.sequence)

instance (ms : List Migration) : Decidable (Ascending ms) :=
  inferInstanceAs (Decidable (ms.Pairwise (·.sequence ≤ ·.sequence)))

theorem ofList_of_ascending (ascending : Ascending given) :
    ofList given oldest = ⟨given, oldest⟩ := by
  rw [ofList, List.mergeSort_of_pairwise]
  exact List.Pairwise.imp (fun le => decide_eq_true le) ascending

theorem broker_eq : broker =
    ⟨[⟨0, "create instance, binding, request, plan and ledger tables", .baseline⟩,
      ⟨1, "add explicit instance status", .instanceStatus⟩,
      ⟨2, "unique live binding per instance, request lookup index", .liveBindingIndex⟩,
      ⟨3, "add binding status for claimed binds", .bindingStatus⟩], 0⟩ :=
  ofList_of_ascending (by decide)

theorem sequence_trans (a b c : Migration) (ab : decide (a.sequence ≤ b.sequence) = true)
    (bc : decide (b.sequence ≤ c.sequence) = true) : decide (a.sequence ≤ c.sequence) = true := by
  simp only [decide_eq_true_eq] at ab bc ⊢
  omega

theorem sequence_total (a b : Migration) :
    (decide (a.sequence ≤ b.sequence) || decide (b.sequence ≤ a.sequence)) = true := by
  simp only [Bool.or_eq_true, decide_eq_true_eq]
  omega

theorem ofList_perm (given : List Migration) (oldest : Int) :
    (ofList given oldest).migrations.Perm given :=
  List.mergeSort_perm _ _

theorem ofList_ascending (given : List Migration) (oldest : Int) :
    Ascending (ofList given oldest).migrations := by
  have sorted := List.pairwise_mergeSort sequence_trans sequence_total given
  exact sorted.imp of_decide_eq_true

/-- Migrations of one number stand as they were given. -/
theorem ofList_stable (given : List Migration) (oldest n : Int) :
    (ofList given oldest).migrations.filter (·.sequence = n) = given.filter (·.sequence = n) := by
  have alike : (given.filter (·.sequence = n)).Pairwise
      fun a b => decide (a.sequence ≤ b.sequence) = true := by
    refine List.pairwise_of_forall_mem_list fun a ha b hb => ?_
    simp only [List.mem_filter, decide_eq_true_eq] at ha hb ⊢
    omega
  have kept := List.sublist_mergeSort sequence_trans sequence_total alike List.filter_sublist
  have again := kept.filter (·.sequence = n)
  simp only [List.filter_filter, Bool.and_self] at again
  exact (again.eq_of_length ((ofList_perm given oldest).filter _).length_eq.symm).symm

theorem mem_ofList (oldest : Int) {x : Migration} :
    x ∈ (ofList given oldest).migrations ↔ x ∈ given :=
  (ofList_perm given oldest).mem_iff

theorem dropWhile_eq_filter {ms : List Migration} (ascending : Ascending ms) (last : Int) :
    ms.dropWhile (·.sequence ≤ last) = ms.filter (last < ·.sequence) := by
  induction ms with
  | nil => rfl
  | cons m ms ih =>
    obtain ⟨least, ascending⟩ := List.pairwise_cons.mp ascending
    by_cases early : m.sequence ≤ last
    · simp [early, ih ascending, Int.not_lt.mpr early]
    · -- The rest has numbers at least as high, so nothing of it is dropped.
      have late : ∀ x ∈ m :: ms, decide (last < x.sequence) = true := by
        intro x hx
        rcases List.mem_cons.mp hx with rfl | hx
        · exact decide_eq_true (Int.not_le.mp early)
        · have := least x hx
          exact decide_eq_true (by omega)
      rw [List.filter_eq_self.mpr late, List.dropWhile_cons_of_neg (by simpa using early)]

theorem latest_eq (given : List Migration) (oldest : Int) :
    given = [] ∧ (ofList given oldest).latest = -1 ∨
      ∃ x ∈ given, x.sequence = (ofList given oldest).latest := by
  rw [latest]
  cases found : (ofList given oldest).migrations.getLast? with
  | none =>
    have perm := ofList_perm given oldest
    rw [List.getLast?_eq_none_iff.mp found] at perm
    exact .inl ⟨perm.nil_eq.symm, rfl⟩
  | some x => exact .inr ⟨x, (mem_ofList _).mp (List.mem_of_getLast? found), rfl⟩

theorem le_latest (oldest : Int) {x : Migration} (hx : x ∈ given) :
    x.sequence ≤ (ofList given oldest).latest := by
  rw [latest]
  cases found : (ofList given oldest).migrations.getLast? with
  | none =>
    rw [List.getLast?_eq_none_iff] at found
    have := (mem_ofList oldest).mpr hx
    simp [found] at this
  | some last =>
    obtain ⟨before, split⟩ := List.getLast?_eq_some_iff.mp found
    have ascending := ofList_ascending given oldest
    have held := (mem_ofList oldest).mpr hx
    rw [split] at held
    rw [Ascending, split, List.pairwise_append] at ascending
    rcases List.mem_append.mp held with held | held
    · exact ascending.2.2 x held last (List.mem_singleton_self _)
    · simp [List.mem_singleton.mp held]

theorem latest_of_highest {x : Migration} (hx : x ∈ given)
    (highest : ∀ y ∈ given, y.sequence ≤ x.sequence) :
    (ofList given oldest).latest = x.sequence := by
  have above := le_latest oldest hx
  rcases latest_eq given oldest with ⟨rfl, -⟩ | ⟨y, hy, is_latest⟩
  · cases hx
  · have := highest y hy
    omega

/-! ### What is left to do -/

/-- The migrations that a ledger lacks: those given with numbers above all that it holds, in
ascending order and, at one number, as they were given. -/
structure Due (given : List Migration) (numbers : List Int) (due : List Migration) : Prop where
  all : due.Perm (given.filter fun m => numbers.all (· < m.sequence))
  ascending : Ascending due
  stable : ∀ n, due.filter (·.sequence = n) =
    (given.filter fun m => numbers.all (· < m.sequence)).filter (·.sequence = n)

theorem Due.mem_iff {x : Migration} (h : Due given numbers due) :
    x ∈ due ↔ x ∈ given ∧ ∀ n ∈ numbers, n < x.sequence := by
  simp [h.all.mem_iff]

/-- The highest number of a ledger, if it holds any, is one that a migrator can start from. -/
def Supported (migrator : Migrator) (numbers : List Int) : Prop :=
  ∀ last, numbers.max? = some last → migrator.oldestSupported ≤ last ∧ last ≤ migrator.latest

theorem pending_of_ahead (found : numbers.max? = some last) (ahead : migrator.latest < last) :
    migrator.pending numbers.max? = .error (.schemaAhead last migrator.latest) := by
  simp [pending, found, ahead]

theorem pending_of_outdated (found : numbers.max? = some last) (known : last ≤ migrator.latest)
    (numbered : 0 ≤ last) (outdated : last < migrator.oldestSupported) :
    migrator.pending numbers.max? =
      .error (.unsupportedBaseline last migrator.oldestSupported) := by
  simp [pending, found, Int.not_lt.mpr known, numbered, outdated]

/-- The highest number of a ledger, or `-1`, is what all its numbers are compared with. -/
theorem all_lt_iff {n : Int} (natural : 0 ≤ n) :
    numbers.all (· < n) = decide (numbers.max?.getD (-1) < n) := by
  rw [Bool.eq_iff_iff, List.all_eq_true, decide_eq_true_eq]
  cases found : numbers.max? with
  | none =>
    rw [List.max?_eq_none_iff.mp found]
    simp
    omega
  | some last =>
    obtain ⟨held, highest⟩ := List.max?_eq_some_iff.mp found
    simp only [decide_eq_true_eq, Option.getD_some]
    constructor
    · exact fun below => below last held
    · intro below k hk
      have := highest k hk
      omega

theorem latest_ge (natural : ∀ m ∈ given, 0 ≤ m.sequence) :
    -1 ≤ (ofList given oldest).latest := by
  rcases latest_eq given oldest with ⟨-, none_given⟩ | ⟨x, hx, highest⟩
  · omega
  · have := natural x hx
    omega

theorem pending_of_supported (natural : ∀ m ∈ given, 0 ≤ m.sequence)
    (supported : (ofList given oldest).Supported numbers) :
    ∃ due, Due given numbers due ∧ (ofList given oldest).pending numbers.max? = .ok due := by
  have known : numbers.max?.getD (-1) ≤ (ofList given oldest).latest := by
    cases found : numbers.max? with
    | none => exact latest_ge natural
    | some last => exact (supported last found).2
  have recent : ¬ (0 ≤ numbers.max?.getD (-1) ∧ numbers.max?.getD (-1) < oldest) := by
    cases found : numbers.max? with
    | none => simp
    | some last =>
      have : oldest ≤ last := (supported last found).1
      simp only [Option.getD_some]
      omega
  have missing : ∀ ms : List Migration, (∀ m ∈ ms, m ∈ given) →
      ms.filter (numbers.max?.getD (-1) < ·.sequence) =
        ms.filter fun m => numbers.all (· < m.sequence) :=
    fun ms among => List.filter_congr fun m hm => (all_lt_iff (natural m (among m hm))).symm
  refine ⟨(ofList given oldest).migrations.filter fun m => numbers.all (· < m.sequence),
    ⟨?_, ?_, fun n => ?_⟩, ?_⟩
  · exact (ofList_perm given oldest).filter _
  · exact (ofList_ascending given oldest).filter _
  · have alike := congrArg (List.filter fun m => numbers.all (· < m.sequence))
      (ofList_stable given oldest n)
    simpa only [List.filter_filter, Bool.and_comm] using alike
  · have refused : (decide (0 ≤ numbers.max?.getD (-1)) &&
        decide (numbers.max?.getD (-1) < (ofList given oldest).oldestSupported)) = false := by
      rw [← Bool.not_eq_true, Bool.and_eq_true, decide_eq_true_eq, decide_eq_true_eq]
      exact recent
    rw [← missing _ fun m hm => (mem_ofList _).mp hm,
      ← dropWhile_eq_filter (ofList_ascending given oldest), pending]
    simp [Int.not_lt.mpr known, refused]

/-! ### Runs -/

theorem run_of_refused {found : Option Int} {e : MigrationError}
    (read : target.lastApplied s = .ok found) (refused : migrator.pending found = .error e) :
    migrator.run target s = (.error e, s) := by
  simp [run, read, refused]

theorem run_of_applies {found : Option Int} (read : target.lastApplied s = .ok found)
    (pending : migrator.pending found = .ok due) (applies : target.Applies due s t) :
    migrator.run target s = (.ok due.length, t) := by
  simp [run, read, pending, applies.applyAll_eq]

theorem run_of_fails {found : Option Int} {done later : List Migration} {x : Migration}
    {e : StoreError} (read : target.lastApplied s = .ok found)
    (pending : migrator.pending found = .ok (done ++ x :: later))
    (applies : target.Applies done s t) (fails : target.apply x t = .error e) :
    migrator.run target s = (.error (.failed x.sequence e), t) := by
  simp [run, read, pending, applies.applyAll_append, applyAll, fails]

/-- Every number given is reached by a ledger once what was due has been applied. -/
theorem Due.reached {x : Migration} (isDue : Due given numbers due) (hx : x ∈ given) :
    ∃ n ∈ numbers ++ due.map (·.sequence), x.sequence ≤ n := by
  by_cases lacks : x ∈ due
  · exact ⟨x.sequence, List.mem_append_right _ (List.mem_map_of_mem lacks), Int.le_refl _⟩
  · simp only [isDue.mem_iff, hx, true_and, Classical.not_forall] at lacks
    obtain ⟨n, hn, le⟩ := lacks
    exact ⟨n, List.mem_append_left _ hn, Int.not_lt.mp le⟩

theorem Due.supported (isDue : Due given numbers due) (natural : ∀ m ∈ given, 0 ≤ m.sequence)
    (recorded : ∀ n ∈ numbers, 0 ≤ n) (known : (ofList given oldest).Supported numbers)
    (supported : oldest ≤ (ofList given oldest).latest) :
    (ofList given oldest).Supported (numbers ++ due.map (·.sequence)) := by
  intro last found
  obtain ⟨held, highest⟩ := List.max?_eq_some_iff.mp found
  have bounds : 0 ≤ last ∧ last ≤ (ofList given oldest).latest := by
    rcases List.mem_append.mp held with held | held
    · obtain ⟨top, found_top⟩ := Option.isSome_iff_exists.mp (List.isSome_max?_of_mem held)
      have below := (List.max?_eq_some_iff.mp found_top).2 last held
      exact ⟨recorded last held, Int.le_trans below (known top found_top).2⟩
    · obtain ⟨x, hx, rfl⟩ := List.mem_map.mp held
      have hx := (isDue.mem_iff.mp hx).1
      exact ⟨natural x hx, le_latest _ hx⟩
  refine ⟨?_, bounds.2⟩
  show oldest ≤ last
  rcases latest_eq given oldest with ⟨-, none_given⟩ | ⟨x, hx, is_latest⟩
  · omega
  · obtain ⟨n, hn, le⟩ := isDue.reached hx
    have := highest n hn
    omega

/-- Once what was due has been applied, nothing is due. -/
theorem Due.pending_nil (isDue : Due given numbers due) (natural : ∀ m ∈ given, 0 ≤ m.sequence)
    (supported : (ofList given oldest).Supported (numbers ++ due.map (·.sequence))) :
    (ofList given oldest).pending (numbers ++ due.map (·.sequence)).max? = .ok [] := by
  obtain ⟨rest, isDue', pending⟩ := pending_of_supported natural supported
  have empty : rest = [] := by
    refine List.eq_nil_iff_forall_not_mem.mpr fun x hx => ?_
    obtain ⟨hx, above⟩ := isDue'.mem_iff.mp hx
    obtain ⟨n, hn, le⟩ := isDue.reached hx
    have := above n hn
    omega
  rw [pending, empty]

/-- A run refuses a ledger whose highest number is above all that are given or below the oldest
supported, and leaves it. Otherwise it applies what is due, in order: all of it, after which nothing
is left to do, or what comes before the first migration that fails. -/
theorem run_applies_due (records : target.Records ledger) (natural : ∀ m ∈ given, 0 ≤ m.sequence)
    (supported : oldest ≤ (ofList given oldest).latest) (recorded : ∀ n ∈ ledger s, 0 ≤ n) :
    (∀ last, (ledger s).max? = some last → (ofList given oldest).latest < last →
      (ofList given oldest).run target s =
        (.error (.schemaAhead last (ofList given oldest).latest), s)) ∧
    (∀ last, (ledger s).max? = some last → last < oldest →
      (ofList given oldest).run target s = (.error (.unsupportedBaseline last oldest), s)) ∧
    ((∀ last, (ledger s).max? = some last →
        oldest ≤ last ∧ last ≤ (ofList given oldest).latest) →
      ∃ due, Due given (ledger s) due ∧
        ((∃ t, target.Applies due s t ∧
            (ofList given oldest).run target s = (.ok due.length, t) ∧
            ledger t = ledger s ++ due.map (·.sequence) ∧
            (ofList given oldest).run target t = (.ok 0, t)) ∨
          ∃ done x later e t, due = done ++ x :: later ∧ target.Applies done s t ∧
            target.apply x t = .error e ∧
            (ofList given oldest).run target s = (.error (.failed x.sequence e), t) ∧
            ledger t = ledger s ++ done.map (·.sequence))) := by
  refine ⟨fun last found ahead => ?_, fun last found outdated => ?_, fun known => ?_⟩
  · exact run_of_refused (records.last s) (pending_of_ahead found ahead)
  · have natural_last := recorded last (List.max?_mem found)
    exact run_of_refused (records.last s)
      (pending_of_outdated found (by omega) natural_last outdated)
  · obtain ⟨due, isDue, pending⟩ := pending_of_supported natural known
    refine ⟨due, isDue, ?_⟩
    rcases applies_or_fails target due s with ⟨t, applies⟩ |
      ⟨done, x, later, e, t, rfl, applies, fails⟩
    · have grown := applies.ledger_eq records
      have nothing := isDue.pending_nil natural (isDue.supported natural recorded known supported)
      rw [← grown] at nothing
      exact .inl ⟨t, applies, run_of_applies (records.last s) pending applies, grown,
        run_of_applies (records.last t) nothing .done⟩
    · exact .inr ⟨done, x, later, e, t, rfl, applies, fails,
        run_of_fails (records.last s) pending applies fails, applies.ledger_eq records⟩

end Migrator

/-! ### A target that is its ledger -/

namespace Sample

/-- Migrations with the given numbers. -/
def migrations (numbers : List Int) : List Migration := numbers.map fun n => ⟨n, "", .baseline⟩

/-- A target that keeps nothing but its ledger, and fails at some numbers. -/
def ledgerTarget (bad : List Int) : MigrationTarget (List Int) where
  lastApplied numbers := .ok numbers.max?
  apply m numbers :=
    if bad.contains m.sequence then .error (.constraint "boom") else .ok (numbers ++ [m.sequence])

theorem ledgerTarget_records (bad : List Int) : (ledgerTarget bad).Records id := by
  refine ⟨fun _ => rfl, fun {m s t} applied => ?_⟩
  simp only [ledgerTarget] at applied
  split at applied
  · cases applied
  · cases applied
    rfl

theorem ledgerTarget_sound (m : Migration) (numbers : List Int) :
    (ledgerTarget []).apply m numbers = .ok (numbers ++ [m.sequence]) := by
  simp [ledgerTarget]

end Sample

/-- Five migrations, two of one number, on ledgers that are too new, too old, and neither. -/
theorem Migrator.run_applies_due_unsorted :
    let given := Sample.migrations [3, 1, 0, 1, 2]
    let m := ofList given 1
    let target := Sample.ledgerTarget []
    m.run target [5] = (.error (.schemaAhead 5 3), [5]) ∧
    m.run target [0] = (.error (.unsupportedBaseline 0 1), [0]) ∧
    ∃ due t, Due given [1] due ∧ m.run target [1] = (.ok due.length, t) ∧
      t = [1] ++ due.map (·.sequence) ∧ m.run target t = (.ok 0, t) := by
  intro given m target
  have records := Sample.ledgerTarget_records []
  have natural : ∀ m ∈ given, 0 ≤ m.sequence := by decide
  have latest : (ofList given 1).latest = 3 :=
    latest_of_highest (x := ⟨3, "", .baseline⟩) (by decide) (by decide)
  have supported : 1 ≤ (ofList given 1).latest := by omega
  have known : ∀ last, some (1 : Int) = some last → 1 ≤ last ∧ last ≤ (ofList given 1).latest := by
    rintro last ⟨⟩
    omega
  have runs := fun s recorded => run_applies_due (s := s) records natural supported recorded
  obtain ⟨ahead, -, -⟩ := runs [5] (by decide)
  obtain ⟨-, outdated, -⟩ := runs [0] (by decide)
  obtain ⟨-, -, accepted⟩ := runs [1] (by decide)
  refine ⟨?_, outdated 0 rfl (by decide), ?_⟩
  · rw [← latest]
    exact ahead 5 rfl (by omega)
  · obtain ⟨due, isDue, h⟩ := accepted known
    rcases h with ⟨t, -, run, grown, again⟩ | ⟨-, x, -, e, t, -, -, fails, -⟩
    · exact ⟨due, t, isDue, run, grown, again⟩
    · rw [Sample.ledgerTarget_sound] at fails
      cases fails

end Brokerage
