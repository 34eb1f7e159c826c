import Brokerage.Proofs.Broker.Performance
import Brokerage.Proofs.Store.Turns

/-! The views of a store. An instance is absent, live or deleted, and so is a pair; the queries about
it all report which. A store that was fresh once has the rows that its history tells of, so that the
queries also say what has happened. -/

namespace Brokerage

/-- The answers to the queries about one instance, or about one pair. -/
structure View (ρ : Type) where
  count : Nat
  live : Except StoreError ρ
  includingDeleted : Except StoreError ρ
  softDeleted : Bool

/-- All answers report where the subject of the queries stands. Rows of it are `own`, and what it does
not have is `missing`. -/
inductive View.Shows {ρ : Type} (own live : ρ → Bool) (missing : StoreError) :
    View ρ → Standing → Prop
  | absent : Shows own live missing ⟨0, .error missing, .error missing, false⟩ .absent
  | live {row : ρ} (ofSubject : own row = true) (lives : live row = true) :
      Shows own live missing ⟨1, .ok row, .ok row, false⟩ .live
  | deleted {row : ρ} (ofSubject : own row = true) (gone : live row = false) :
      Shows own live missing ⟨0, .error missing, .ok row, true⟩ .deleted

/-- No answers report two things. -/
theorem View.Shows.unique {ρ : Type} {own live : ρ → Bool} {missing : StoreError} {v : View ρ}
    {a b : Standing} (ha : v.Shows own live missing a) (hb : v.Shows own live missing b) :
    a = b := by
  cases ha <;> cases hb <;> rfl

namespace Store

variable {s s' : Store} {id instanceId bindingId : String}

/-- The queries about an instance report that it stands so. -/
def ShowsInstance (s : Store) (id : String) : Standing → Prop :=
  View.Shows (·.id = id) InstanceRow.live (instanceNotFound id)
    ⟨s.countInstances id, s.getInstance id, s.getInstanceIncludingDeleted id,
      s.isInstanceSoftDeleted id⟩

/-- The queries about a pair report that it stands so. -/
def ShowsBinding (s : Store) (instanceId bindingId : String) : Standing → Prop :=
  View.Shows (·.isOf instanceId bindingId) BindingRow.live (bindingNotFound instanceId bindingId)
    ⟨s.countBindings instanceId bindingId, s.getBinding instanceId bindingId,
      s.getBindingIncludingDeleted instanceId bindingId,
      s.isBindingSoftDeleted instanceId bindingId⟩

/-! ### Instances -/

theorem countInstances_of_live {row : InstanceRow} (keys : s.DistinctInstances)
    (h : s.liveInstance? id = some row) : s.countInstances id = 1 := by
  obtain ⟨picked, before, after, rows, others⟩ := List.find?_eq_some_iff_append.mp h
  have named : row.id = id := liveInstance?_id h
  have distinct : row.id ∉ after.map (·.id) := by
    rw [DistinctInstances, rows, List.map_append, List.map_cons] at keys
    exact (List.nodup_cons.mp (List.nodup_append.mp keys).2.1).1
  have none_before : before.countP (fun r => r.id = id && r.live) = 0 :=
    List.countP_eq_zero.mpr fun r hr => Bool.eq_false_iff.mp ((Bool.not_eq_true' _).mp (others r hr))
  have none_after : after.countP (fun r => r.id = id && r.live) = 0 := by
    refine List.countP_eq_zero.mpr fun r hr => ?_
    have apart : r.id ≠ id := fun same => distinct (named ▸ same ▸ List.mem_map_of_mem hr)
    simp [apart]
  have itself : (row :: after).countP (fun r => r.id = id && r.live) = 1 := by
    rw [List.countP_cons, none_after, if_pos picked]
  rw [countInstances, rows, List.countP_append, none_before, itself]

theorem showsInstance (keys : s.DistinctInstances) (id : String) :
    s.ShowsInstance id (s.standing id) := by
  rw [ShowsInstance, standing, getInstance, getInstanceIncludingDeleted, isInstanceSoftDeleted,
    ← row?]
  cases found : s.row? id with
  | none =>
    rw [countInstances_of_fresh found, liveInstance?_eq_none_of_row? found]
    exact .absent
  | some row =>
    have own : decide (row.id = id) = true := decide_eq_true (row?_id found)
    rw [Standing.ofRow?]
    cases live : row.live with
    | true =>
      have held := liveInstance?_of_row? found live
      rw [countInstances_of_live keys held, held]
      simp only [live]
      exact .live own live
    | false =>
      have unlive := liveInstance?_eq_none_of_deleted keys found live
      rw [countInstances_eq_zero_iff.mpr unlive, unlive]
      simp only [live]
      exact .deleted own live

/-- The identifiers of the live instances. -/
def liveIds (s : Store) : List String := (s.instances.filter (·.live)).map (·.id)

theorem mem_liveIds (keys : s.DistinctInstances) : id ∈ s.liveIds ↔ s.countInstances id = 1 := by
  constructor
  · intro h
    obtain ⟨row, hrow, rfl⟩ := List.mem_map.mp h
    obtain ⟨held, live⟩ := List.mem_filter.mp hrow
    have found : s.row? row.id = some row := (row?_eq_some_iff keys).mpr ⟨held, rfl⟩
    exact countInstances_of_live keys (liveInstance?_of_row? found live)
  · intro one
    cases found : s.liveInstance? id with
    | none => cases (countInstances_eq_zero_iff.mpr found).symm.trans one
    | some row =>
      refine List.mem_map.mpr ⟨row, List.mem_filter.mpr ⟨liveInstance?_mem found, ?_⟩, ?_⟩
      · exact liveInstance?_live found
      · exact liveInstance?_id found

theorem nodup_liveIds (keys : s.DistinctInstances) : s.liveIds.Nodup :=
  List.Nodup.sublist (List.filter_sublist.map _) keys

theorem countAllInstances_eq_length : s.countAllInstances = s.liveIds.length := by
  rw [countAllInstances, List.countP_eq_length_filter, liveIds, List.length_map]

/-! ### Pairs -/

/-- Rows that are followed by a row of their pair are deleted. -/
def Superseded (s : Store) : Prop :=
  s.bindings.Pairwise fun r r' => r'.isOf r.instanceId r.bindingId = true → r.live = false

namespace Superseded

theorem rewriteBindings {f : BindingRow → BindingRow} (superseded : s.Superseded)
    (same : ∀ r, (f r).instanceId = r.instanceId ∧ (f r).bindingId = r.bindingId)
    (p : BindingRow → Bool) : (s.rewriteBindings p f).Superseded := by
  have pair : ∀ r : BindingRow,
      (if p r && r.live then f r else r).instanceId = r.instanceId ∧
        (if p r && r.live then f r else r).bindingId = r.bindingId := by
    intro r
    exact ⟨rewrite_keeps (fun r => (same r).1) _ r, rewrite_keeps (fun r => (same r).2) _ r⟩
  refine List.pairwise_map.mpr (List.Pairwise.imp ?_ superseded)
  intro r r' earlier ofPair
  rw [BindingRow.isOf, (pair r').1, (pair r').2, (pair r).1, (pair r).2] at ofPair
  have gone := earlier ofPair
  simp [gone]

theorem withBinding {row : BindingRow} (superseded : s.Superseded)
    (free : s.liveBindings row.instanceId row.bindingId = []) : (s.withBinding row).Superseded := by
  refine List.pairwise_append.mpr ⟨superseded, List.pairwise_singleton _ _, fun r hr new hnew => ?_⟩
  rw [List.mem_singleton.mp hnew]
  intro ofPair
  obtain ⟨hi, hb⟩ := isOf_iff.mp ofPair
  have known : r.isOf row.instanceId row.bindingId = true := isOf_iff.mpr ⟨hi.symm, hb.symm⟩
  have unlive := List.filter_eq_nil_iff.mp free r hr
  simpa [known] using unlive

theorem stable : Stable Superseded := by
  intro s now call value s' superseded effect
  cases effect with
  | createBinding free => exact superseded.withBinding free
  | @saveBinding row =>
    exact superseded.rewriteBindings (f := overwriteBinding now row) (fun r => ⟨rfl, rfl⟩) _
  | softDeleteBinding =>
    exact superseded.rewriteBindings (f := withdrawn now) (fun r => ⟨rfl, rfl⟩) _
  | releaseBindingClaim => exact List.Pairwise.sublist List.filter_sublist superseded
  | query | createInstance | claimInstance | saveInstance | softDeleteInstance
  | releaseInstanceClaim | createRequest | createPlan => exact superseded

end Superseded

/-- The newest row of a pair is its live one if it has that. -/
theorem newest_of_live {row : BindingRow} (superseded : s.Superseded)
    (held : row ∈ s.liveBindings instanceId bindingId) :
    s.bindings.reverse.find? (·.isOf instanceId bindingId) = some row := by
  obtain ⟨stored, ofPair, live⟩ := mem_liveBindings.mp held
  obtain ⟨before, after, rows⟩ := List.append_of_mem stored
  refine List.find?_eq_some_iff_append.mpr ⟨ofPair, after.reverse, before.reverse, ?_, ?_⟩
  · rw [rows]
    simp
  · intro r hr
    -- Were a later row of the same pair, this one would be deleted.
    rw [Superseded, rows] at superseded
    have later := (List.pairwise_append.mp superseded).2.1
    have gone := (List.pairwise_cons.mp later).1 r (List.mem_reverse.mp hr)
    obtain ⟨hi, hb⟩ := isOf_iff.mp ofPair
    rw [hi, hb, live] at gone
    simpa using gone

theorem showsBinding (single : s.SingleBindings) (superseded : s.Superseded) (i b : String) :
    s.ShowsBinding i b (s.tenure i b).standing := by
  rw [ShowsBinding, tenure, getBinding, getBindingIncludingDeleted, isBindingSoftDeleted,
    liveBinding?_eq_head?, countBindings_eq_length]
  cases rows : s.liveBindings i b with
  | cons row rest =>
    have held : row ∈ s.liveBindings i b := rows ▸ List.mem_cons_self
    obtain ⟨stored, ofPair, live⟩ := mem_liveBindings.mp held
    -- The live row is the only one, and the newest whatever was deleted before it.
    obtain rfl := single.rest_eq_nil rows
    have some_live : (s.bindings.filter (·.isOf i b)).all (!·.live) = false := by
      refine List.all_eq_false.mpr ⟨row, List.mem_filter.mpr ⟨stored, ofPair⟩, ?_⟩
      simp [live]
    rw [newest_of_live superseded held]
    simp only [some_live, Bool.and_false]
    exact .live ofPair live
  | nil =>
    have all_dead : ∀ r ∈ s.bindings, r.isOf i b = true → r.live = false := by
      intro r hr ofPair
      have unlive := List.filter_eq_nil_iff.mp rows r hr
      simpa [ofPair] using unlive
    cases newest : s.bindings.reverse.find? (·.isOf i b) with
    | none =>
      have foreign : ∀ r ∈ s.bindings, r.isOf i b = false := by
        intro r hr
        simpa using List.find?_eq_none.mp newest r (List.mem_reverse.mpr hr)
      have no_rows : s.bindings.filter (·.isOf i b) = [] :=
        List.filter_eq_nil_iff.mpr fun r hr => Bool.eq_false_iff.mp (foreign r hr)
      have unended : (s.bindings.any fun r => r.isOf i b && !r.live) = false :=
        List.any_eq_false.mpr fun r hr => by simp [foreign r hr]
      rw [no_rows, unended]
      exact .absent
    | some row =>
      have ofPair : row.isOf i b = true := by simpa using List.find?_some newest
      have stored : row ∈ s.bindings := List.mem_reverse.mp (List.mem_of_find?_eq_some newest)
      have gone := all_dead row stored ofPair
      have picked : row ∈ s.bindings.filter (·.isOf i b) := List.mem_filter.mpr ⟨stored, ofPair⟩
      have some_rows : (s.bindings.filter (·.isOf i b)).isEmpty = false :=
        List.isEmpty_eq_false_iff.mpr (List.ne_nil_of_mem picked)
      have only_dead : (s.bindings.filter (·.isOf i b)).all (!·.live) = true := by
        refine List.all_eq_true.mpr fun r hr => ?_
        obtain ⟨hr, ofPair⟩ := List.mem_filter.mp hr
        rw [all_dead r hr ofPair]
        rfl
      have ended : (s.bindings.any fun r => r.isOf i b && !r.live) = true :=
        List.any_eq_true.mpr ⟨row, stored, by rw [ofPair, gone]; rfl⟩
      simp only [some_rows, only_dead, ended]
      exact .deleted ofPair gone

/-! ### Histories -/

theorem standing_empty (id : String) : Store.empty.standing id = .absent := rfl

theorem tenure_empty (i b : String) : Store.empty.tenure i b = {} := rfl

/-- Wherever calls lead from a fresh database, an instance stands where the last of them that took,
released or deleted it has put it, and a pair likewise; all queries report just that. The number of
live instances is that of the identifiers which the store counts. -/
theorem views_agree {h : List Transaction} (run : History Database.migrated.store h s) :
    (∀ id standing, s.ShowsInstance id standing ↔
      standing = (h.filterMap Transaction.instanceTurn?).foldl (Standing.turn id) .absent) ∧
    (∀ i b standing, s.ShowsBinding i b standing ↔
      standing = ((h.filterMap Transaction.bindingTurn?).foldl (Tenure.turn i b) {}).standing) ∧
    ∃ ids : List String, ids.Nodup ∧ (∀ id, id ∈ ids ↔ s.countInstances id = 1) ∧
      s.countAllInstances = ids.length := by
  rw [Database.migrated_store] at run
  have keyed := run.keyed Keyed.empty
  have superseded := run.keeps Superseded.stable .nil
  refine ⟨fun id standing => ?_, fun i b standing => ?_,
    s.liveIds, nodup_liveIds keyed.instances, fun _ => mem_liveIds keyed.instances,
    countAllInstances_eq_length⟩
  · have shown := showsInstance keyed.instances id
    rw [run.standing Keyed.empty.instances, standing_empty] at shown
    exact ⟨fun other => other.unique shown, fun same => same ▸ shown⟩
  · have shown := showsBinding keyed.single superseded i b
    rw [run.tenure Keyed.empty, tenure_empty] at shown
    exact ⟨fun other => other.unique shown, fun same => same ▸ shown⟩

/-- An instance that was deleted, while its binding, once deleted, was made again, and another that
was claimed and released. -/
theorem views_agree_again :
    let binding : BindingRow := .claim 0 "i" "j" "bucket"
    let calls : List (Instant × StoreCall) :=
      [(0, .createInstance Sample.madeRow), (1, .createBinding binding),
        (2, .softDeleteBinding "i" "j"), (3, .createBinding binding), (4, .softDeleteInstance "i"),
        (5, .claimInstance (.claim 5 "k" "bucket" "small") (.of 5 "k" Sample.request.toJson)),
        (6, .releaseInstanceClaim "k")]
    let h := Store.empty.transactions calls
    let s := Store.empty.after calls
    History Database.migrated.store h s ∧ s.ShowsInstance "i" .deleted ∧
      s.ShowsInstance "k" .absent ∧ s.ShowsBinding "i" "j" .live ∧ s.bindings.length = 2 ∧
      ∃ ids : List String, ids.Nodup ∧ s.countAllInstances = ids.length := by
  intro binding calls h s
  have run : History Database.migrated.store h s := by
    rw [Database.migrated_store]
    exact Store.empty.history_after calls
  obtain ⟨instances, pairs, ids, apart, -, total⟩ := views_agree run
  refine ⟨run, (instances "i" _).mpr ?_, (instances "k" _).mpr ?_, (pairs "i" "j" _).mpr ?_, ?_,
    ids, apart, total⟩
  · decide
  · decide
  · decide
  · decide

end Store

end Brokerage
