import Brokerage.Proofs.Schema.Runs

/-! Resumed runs. A run that failed on an empty ledger can be taken up where it stopped, unless all
that it applied is older than the oldest supported: then the next run takes the database for one
that is too old. -/

namespace Brokerage

open MigrationTarget (applies_or_fails)

namespace Migrator

variable {σ : Type} {target target' : MigrationTarget σ} {ledger : σ → List Int} {s t : σ}
  {given due done later : List Migration} {oldest number : Int} {m x : Migration} {e : StoreError}

/-- The numbers of migrations ascend, and none comes twice. -/
theorem Ascending.strict (ascending : Ascending due) (distinct : (due.map (·.sequence)).Nodup) :
    (due.map (·.sequence)).Pairwise (· < ·) := by
  refine ((List.pairwise_map.mpr ascending).and distinct).imp fun {a b} h => ?_
  obtain ⟨le, ne⟩ := h
  omega

theorem Due.distinct (isDue : Due given numbers due) (distinct : (given.map (·.sequence)).Nodup) :
    (due.map (·.sequence)).Nodup := by
  rw [(isDue.all.map _).nodup_iff]
  exact distinct.sublist (List.filter_sublist.map _)

/-- A run on an empty ledger that fails has applied what comes before the migration that failed. -/
theorem of_failed_fresh (records : target.Records ledger)
    (natural : ∀ m ∈ given, 0 ≤ m.sequence) (fresh : ledger s = [])
    (failed : (ofList given oldest).run target s = (.error (.failed number e), t)) :
    ∃ done m later, Due given [] (done ++ m :: later) ∧ m.sequence = number ∧
      ledger t = done.map (·.sequence) := by
  have supported : (ofList given oldest).Supported (ledger s) := by
    rw [fresh]
    rintro last ⟨⟩
  obtain ⟨due, isDue, pending⟩ := pending_of_supported natural supported
  rw [fresh] at isDue
  rcases applies_or_fails target due s with ⟨u, applies⟩ |
    ⟨done, m, later, e', u, rfl, applies, fails⟩
  · rw [run_of_applies (records.last s) pending applies] at failed
    cases failed
  · rw [run_of_fails (records.last s) pending applies fails] at failed
    cases failed
    have grown := applies.ledger_eq records
    rw [fresh, List.nil_append] at grown
    exact ⟨done, m, later, isDue, rfl, grown⟩

/-- What was applied before a migration is what has lower numbers. -/
theorem Due.mem_done_iff (isDue : Due given [] (done ++ m :: later))
    (distinct : (given.map (·.sequence)).Nodup) :
    x ∈ done ↔ x ∈ given ∧ x.sequence < m.sequence := by
  have strict := isDue.ascending.strict (isDue.distinct distinct)
  simp only [List.map_append, List.map_cons, List.pairwise_append, List.pairwise_cons,
    List.mem_map] at strict
  have among : x ∈ done ++ m :: later ↔ x ∈ given := by simp [isDue.mem_iff]
  rw [← among, List.mem_append, List.mem_cons]
  constructor
  · intro hx
    exact ⟨.inl hx, strict.2.2 _ ⟨x, hx, rfl⟩ _ (List.mem_cons_self)⟩
  · rintro ⟨hx | rfl | hx, lower⟩
    · exact hx
    · omega
    · have := strict.2.1.1 _ ⟨x, hx, rfl⟩
      omega

/-- The numbers that are recorded in the end are all that were given, once each and in ascending
order. -/
structure Completed (given : List Migration) (numbers : List Int) : Prop where
  ascending : numbers.Pairwise (· < ·)
  all : ∀ n, n ∈ numbers ↔ n ∈ given.map (·.sequence)

theorem Due.completed (isDue : Due given [] (done ++ m :: later))
    (isRest : Due given (done.map (·.sequence)) due) (distinct : (given.map (·.sequence)).Nodup) :
    Completed given (done.map (·.sequence) ++ due.map (·.sequence)) := by
  have strict := isDue.ascending.strict (isDue.distinct distinct)
  rw [List.map_append, List.pairwise_append] at strict
  constructor
  · refine List.pairwise_append.mpr ⟨strict.1, ?_, fun n hn k hk => ?_⟩
    · exact isRest.ascending.strict (isRest.distinct distinct)
    · obtain ⟨x, hx, rfl⟩ := List.mem_map.mp hk
      exact (isRest.mem_iff.mp hx).2 n hn
  · intro n
    rw [List.mem_append]
    constructor
    · rintro (hn | hn)
      · obtain ⟨x, hx, rfl⟩ := List.mem_map.mp hn
        exact List.mem_map_of_mem (isDue.mem_iff.mp (List.mem_append_left _ hx)).1
      · obtain ⟨x, hx, rfl⟩ := List.mem_map.mp hn
        exact List.mem_map_of_mem (isRest.mem_iff.mp hx).1
    · intro hn
      obtain ⟨x, hx, rfl⟩ := List.mem_map.mp hn
      by_cases lower : x.sequence < m.sequence
      · exact .inl (List.mem_map_of_mem ((isDue.mem_done_iff distinct).mpr ⟨hx, lower⟩))
      · -- All that was applied is below `m`, so what is not below it is still due.
        refine .inr (List.mem_map_of_mem (isRest.mem_iff.mpr ⟨hx, fun k hk => ?_⟩))
        obtain ⟨y, hy, rfl⟩ := List.mem_map.mp hk
        have := ((isDue.mem_done_iff distinct).mp hy).2
        omega

/-- A run that failed at a number leaves something to start from: no migration has a lower number,
or one of those with lower numbers is new enough to be supported. -/
def Resumable (given : List Migration) (oldest number : Int) : Prop :=
  (∀ x ∈ given, number ≤ x.sequence) ∨ ∃ x ∈ given, oldest ≤ x.sequence ∧ x.sequence < number

instance (given : List Migration) (oldest number : Int) :
    Decidable (Resumable given oldest number) :=
  inferInstanceAs (Decidable (_ ∨ _))

theorem Resumable.supported (resumable : Resumable given oldest m.sequence)
    (isDue : Due given [] (done ++ m :: later)) (distinct : (given.map (·.sequence)).Nodup) :
    (ofList given oldest).Supported (done.map (·.sequence)) := by
  intro last found
  obtain ⟨held, highest⟩ := List.max?_eq_some_iff.mp found
  obtain ⟨x, hx, rfl⟩ := List.mem_map.mp held
  obtain ⟨among, lower⟩ := (isDue.mem_done_iff distinct).mp hx
  refine ⟨?_, le_latest _ among⟩
  show oldest ≤ x.sequence
  rcases resumable with first | ⟨y, hy, recent, below⟩
  · have := first x among
    omega
  · have applied := (isDue.mem_done_iff distinct).mpr ⟨hy, below⟩
    have := highest _ (List.mem_map_of_mem applied)
    omega

/-- After a run on an empty ledger has failed, the next run, if nothing fails this time, applies the
rest, so that the ledger holds every number once, in ascending order. But if the first run applied
something, and nothing that is new enough to be supported, the next run refuses the ledger and
leaves it. -/
theorem resumed_or_outdated (records : target.Records ledger) (records' : target'.Records ledger)
    (natural : ∀ m ∈ given, 0 ≤ m.sequence) (distinct : (given.map (·.sequence)).Nodup)
    (fresh : ledger s = [])
    (failed : (ofList given oldest).run target s = (.error (.failed number e), t))
    (unfailing : ∀ n e, ((ofList given oldest).run target' t).1 ≠ .error (.failed n e)) :
    (Resumable given oldest number → ∃ rest u, Due given (ledger t) rest ∧
      (ofList given oldest).run target' t = (.ok rest.length, u) ∧ Completed given (ledger u)) ∧
    (¬ Resumable given oldest number → ∃ last, (ledger t).max? = some last ∧ last < oldest ∧
      (ofList given oldest).run target' t = (.error (.unsupportedBaseline last oldest), t)) := by
  obtain ⟨done, m, later, isDue, rfl, recorded⟩ :=
    of_failed_fresh records natural fresh failed
  constructor
  · intro resumable
    have supported := resumable.supported isDue distinct
    rw [← recorded] at supported
    obtain ⟨rest, isRest, pending⟩ := pending_of_supported natural supported
    rcases applies_or_fails target' rest t with ⟨u, applies⟩ |
      ⟨done', x, later', e', u, rfl, applies, fails⟩
    · refine ⟨rest, u, isRest, run_of_applies (records'.last t) pending applies, ?_⟩
      rw [recorded] at isRest
      rw [applies.ledger_eq records', recorded]
      exact isDue.completed isRest distinct
    · have failed' := run_of_fails (records'.last t) pending applies fails
      exact absurd (congrArg Prod.fst failed') (unfailing x.sequence e')
  · intro stuck
    simp only [Resumable, not_or, Classical.not_forall, not_exists, not_and] at stuck
    obtain ⟨⟨x, hx, lower⟩, outdated⟩ := stuck
    have applied := (isDue.mem_done_iff distinct).mpr ⟨hx, Int.not_le.mp lower⟩
    have nonempty : x.sequence ∈ ledger t := by
      rw [recorded]
      exact List.mem_map_of_mem applied
    obtain ⟨last, found⟩ := Option.isSome_iff_exists.mp (List.isSome_max?_of_mem nonempty)
    have held := List.max?_mem found
    rw [recorded] at held
    obtain ⟨y, hy, rfl⟩ := List.mem_map.mp held
    obtain ⟨among, below⟩ := (isDue.mem_done_iff distinct).mp hy
    have old : y.sequence < oldest := by
      have := outdated y among
      omega
    exact ⟨y.sequence, found, old, run_of_refused (records'.last t)
      (pending_of_outdated found (le_latest _ among) (natural y among) old)⟩

/-- A run that fails above the oldest supported is resumed, and one that fails below it is not. -/
theorem resumed_or_outdated_above :
    let given := Sample.migrations [0, 1, 2, 3]
    let failing := Sample.ledgerTarget [2]
    let sound := Sample.ledgerTarget []
    ((ofList given 1).run failing [] = (.error (.failed 2 (.constraint "boom")), [0, 1]) ∧
      ∃ rest u, Due given [0, 1] rest ∧
        (ofList given 1).run sound [0, 1] = (.ok rest.length, u) ∧ Completed given u) ∧
    (ofList given 3).run failing [] = (.error (.failed 2 (.constraint "boom")), [0, 1]) ∧
      ∃ last, (ofList given 3).run sound [0, 1] =
        (.error (.unsupportedBaseline last 3), [0, 1]) := by
  intro given failing sound
  have ascending : Ascending given := by decide
  have failed : ∀ oldest, (ofList given oldest).run failing [] =
      (.error (.failed 2 (.constraint "boom")), [0, 1]) := by
    intro oldest
    rw [ofList_of_ascending ascending]
    rfl
  have unfailing : ∀ oldest ∈ [(1 : Int), 3], ∀ n e,
      ((ofList given oldest).run sound [0, 1]).1 ≠ .error (.failed n e) := by
    simp only [ofList_of_ascending ascending, List.mem_cons, List.not_mem_nil, or_false]
    rintro oldest (rfl | rfl) n e ⟨⟩
  have next := fun oldest among => resumed_or_outdated (Sample.ledgerTarget_records [2])
    (Sample.ledgerTarget_records []) (by decide) (by decide) rfl (failed oldest)
    (unfailing oldest among)
  refine ⟨⟨failed 1, (next 1 (by decide)).1 (by decide)⟩, failed 3, ?_⟩
  obtain ⟨last, -, -, refused⟩ := (next 3 (by decide)).2 (by decide)
  exact ⟨last, refused⟩

/-- A run on an empty ledger can make the ledger one that is too old: it applies the first of three
migrations, the last of which is the oldest supported, and fails at the second. The next run is
refused though nothing would fail. -/
theorem outdated_by_failure :
    let given := Sample.migrations [0, 1, 2]
    ((given.map (·.sequence)).Nodup ∧ (∀ x ∈ given, 0 ≤ x.sequence) ∧
      2 ≤ (ofList given 2).latest) ∧
    ((Sample.ledgerTarget [1]).Records id ∧ (Sample.ledgerTarget []).Records id ∧
      ∀ m numbers, (Sample.ledgerTarget []).apply m numbers = .ok (numbers ++ [m.sequence])) ∧
    (ofList given 2).run (Sample.ledgerTarget [1]) [] =
      (.error (.failed 1 (.constraint "boom")), [0]) ∧
    (ofList given 2).run (Sample.ledgerTarget []) [0] =
      (.error (.unsupportedBaseline 0 2), [0]) := by
  intro given
  have ordered : ofList given 2 = ⟨given, 2⟩ := ofList_of_ascending (by decide)
  refine ⟨⟨by decide, by decide, ?_⟩, ⟨?_, ?_, Sample.ledgerTarget_sound⟩, ?_, ?_⟩
  · rw [ordered]
    decide
  · exact Sample.ledgerTarget_records [1]
  · exact Sample.ledgerTarget_records []
  · rw [ordered]
    rfl
  · rw [ordered]
    rfl

end Migrator

end Brokerage
