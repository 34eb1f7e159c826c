import Brokerage.Proofs.Broker.Performance

/-! The ledger of credentials. As long as the store does not fail, what a provider issued for a pair
and did not withdraw is what the live row of the pair holds. -/

namespace Brokerage

namespace Consultation

/-- The credentials that a provider issued for a pair. -/
def granted? (instanceId bindingId : String) : Consultation → Option Fields
  | ⟨_, _, .bind row b _, .ok credentials⟩ =>
    if row.id = instanceId ∧ b = bindingId then some credentials else none
  | _ => none

/-- A provider withdrew the credentials of a pair. -/
def withdraws (instanceId bindingId : String) : Consultation → Bool
  | ⟨_, _, .unbind row binding, .ok _⟩ => row.id = instanceId && binding.bindingId = bindingId
  | _ => false

/-- All credentials that were issued for a pair, the latest last. -/
def grants (instanceId bindingId : String) (asked : List Consultation) : List Fields :=
  asked.filterMap (·.granted? instanceId bindingId)

/-- How often the credentials of a pair were withdrawn. -/
def withdrawals (instanceId bindingId : String) (asked : List Consultation) : Nat :=
  asked.countP (·.withdraws instanceId bindingId)

variable {instanceId bindingId : String}

theorem grants_append (past asked : List Consultation) :
    grants instanceId bindingId (past ++ asked) =
      grants instanceId bindingId past ++ grants instanceId bindingId asked :=
  List.filterMap_append

theorem withdrawals_append (past asked : List Consultation) :
    withdrawals instanceId bindingId (past ++ asked) =
      withdrawals instanceId bindingId past + withdrawals instanceId bindingId asked :=
  List.countP_append

end Consultation

/-- No binding is only claimed. -/
def Store.SettledBindings (s : Store) : Prop := ∀ row ∈ s.bindings, row.status ≠ .pending

/-- What becomes of the live rows of a pair, by what its provider did for the pair. -/
inductive Entry (instanceId bindingId : String) (asked : List Consultation) :
    List BindingRow → List BindingRow → Prop
  | kept {rows : List BindingRow}
      (grants : Consultation.grants instanceId bindingId asked = [])
      (withdrawals : Consultation.withdrawals instanceId bindingId asked = 0) :
      Entry instanceId bindingId asked rows rows
  | granted {row : BindingRow} {credentials : Fields}
      (grants : Consultation.grants instanceId bindingId asked = [credentials])
      (withdrawals : Consultation.withdrawals instanceId bindingId asked = 0)
      (active : row.status = .active) (holds : row.otherDetails = credentials.text) :
      Entry instanceId bindingId asked [] [row]
  | withdrawn {rows : List BindingRow} (held : rows ≠ [])
      (grants : Consultation.grants instanceId bindingId asked = [])
      (withdrawals : Consultation.withdrawals instanceId bindingId asked = 1) :
      Entry instanceId bindingId asked rows []

namespace Broker

open Consultation (grants withdrawals)

variable {b : Broker} {now : Instant} {s s' : Store} {op : Operation} {asked : List Consultation}
  {id bindingId : String}

/-! ### One operation -/

/-- The row of a binding that was issued. -/
def granted (now : Instant) (row : InstanceRow) (bindingId : String) (credentials : Fields)
    (saved : Instant) (s : Store) : BindingRow :=
  Store.overwriteBinding saved
    (issuedRow now row.id bindingId row (s.lastBindingId + 1) credentials)
    (s.numbered (.claim now row.id bindingId row.serviceId))

theorem granted_isOf {row : InstanceRow} {credentials : Fields} {saved : Instant} {i j : String} :
    (granted now row bindingId credentials saved s).isOf i j = true ↔ row.id = i ∧ bindingId = j :=
  Store.isOf_iff

theorem granted_live {row : InstanceRow} {credentials : Fields} {saved : Instant} :
    (granted now row bindingId credentials saved s).live = true :=
  rfl

theorem Binding.entry {request : BindRequest} {r : Except BrokerError Fields}
    (h : Binding b .none now id bindingId request s asked r s') (numbers : s.NumberedBindings)
    (settled : s.SettledBindings) (i j : String) :
    Entry i j asked (s.liveBindings i j) (s'.liveBindings i j) ∧ s'.SettledBindings := by
  cases h with
  | refused => exact ⟨.kept rfl rfl, settled⟩
  | failed may released =>
    obtain rfl := released.resolve_right fun h => Faults.not_possible_none h.1
    rw [reserved, Store.releaseBindingClaim_withBinding numbers rfl]
    exact ⟨.kept rfl rfl, settled⟩
  | orphaned may fault => exact absurd fault Faults.not_possible_none
  | @bound row provider credentials saved may answer =>
    obtain rfl := Store.liveInstance?_id may.live
    have table : (Broker.issued now row.id bindingId row credentials saved s).bindings =
        s.bindings ++ [granted now row bindingId credentials saved s] := by
      rw [issued, reserved, Store.rewriteBindings_withBinding numbers]
      rfl
    refine ⟨?_, fun r hr => ?_⟩
    · rw [Store.liveBindings_concat table]
      by_cases pair : row.id = i ∧ bindingId = j
      · obtain ⟨rfl, rfl⟩ := pair
        have vacant : s.liveBindings row.id bindingId = [] := by
          rw [← List.head?_eq_none_iff, ← Store.liveBinding?_eq_head?]
          exact may.vacant
        rw [vacant, if_pos (by simp [granted_isOf, granted_live])]
        have one : grants row.id bindingId
            [⟨reserved now row.id bindingId row s, provider, .bind row bindingId request,
                .ok credentials⟩,
              ⟨Broker.issued now row.id bindingId row credentials saved s, provider,
                .joinCredentials credentials row, answer⟩] = [credentials] := by
          simp [grants, Consultation.granted?]
        exact .granted one rfl rfl rfl
      · rw [if_neg ?_, List.append_nil]
        · refine .kept ?_ rfl
          simp [grants, Consultation.granted?, pair]
        · rw [Bool.and_eq_true, granted_isOf]
          exact fun h => pair h.1
    · rw [table, List.mem_append, List.mem_singleton] at hr
      rcases hr with hr | rfl
      · exact settled r hr
      · nofun

theorem Unbinding.entry {r : Except BrokerError Unit}
    (h : Unbinding b .none now id bindingId s asked r s') (settled : s.SettledBindings)
    (i j : String) :
    Entry i j asked (s.liveBindings i j) (s'.liveBindings i j) ∧ s'.SettledBindings := by
  cases h with
  | refused => exact ⟨.kept rfl rfl, settled⟩
  | withdrawn saved may =>
    exact absurd may.pending (settled _ (Store.liveBinding?_mem may.held).1)
  | failed may => exact ⟨.kept rfl rfl, settled⟩
  | orphaned may fault => exact absurd fault Faults.not_possible_none
  | @done row binding provider saved may =>
    obtain rfl := Store.liveInstance?_id may.live
    obtain ⟨-, ofPair, -⟩ := Store.liveBinding?_mem may.held
    obtain ⟨-, rfl⟩ := Store.isOf_iff.mp ofPair
    refine ⟨?_, fun r hr => ?_⟩
    · by_cases pair : row.id = i ∧ binding.bindingId = j
      · obtain ⟨rfl, rfl⟩ := pair
        rw [unbound, Store.liveBindings_withdrawn_self]
        refine .withdrawn (fun vacant => ?_) rfl ?_
        · have held := may.held
          rw [Store.liveBinding?_eq_head?, vacant] at held
          cases held
        · simp [withdrawals, Consultation.withdraws]
      · rw [unbound, Store.liveBindings_withdrawn_ne _ fun h => pair ⟨h.1.symm, h.2.symm⟩]
        refine .kept rfl ?_
        simpa [withdrawals, Consultation.withdraws] using pair
    · obtain ⟨old, hold, rfl⟩ := List.mem_map.mp hr
      split
      · exact settled old hold
      · exact settled old hold

theorem Polling.entry {r : Except BrokerError LastOperation}
    (h : Polling b .none now id s asked r s') (i j : String) :
    grants i j asked = [] ∧ withdrawals i j asked = 0 := by
  cases h with
  | refused | young | undetermined => exact ⟨rfl, rfl⟩
  | settled _ heard => cases heard <;> exact ⟨rfl, rfl⟩

/-- What an operation does to the live rows of a pair. -/
theorem Course.entry {r : Except BrokerError Response} (h : b.Course .none now s op asked r s')
    (numbers : s.NumberedBindings) (settled : s.SettledBindings) (i j : String) :
    Entry i j asked (s.liveBindings i j) (s'.liveBindings i j) ∧ s'.SettledBindings := by
  have untouched : s'.bindings = s.bindings → grants i j asked = [] → withdrawals i j asked = 0 →
      Entry i j asked (s.liveBindings i j) (s'.liveBindings i j) ∧ s'.SettledBindings := by
    intro table none zero
    refine ⟨?_, by rw [Store.SettledBindings, table]; exact settled⟩
    rw [Store.liveBindings_congr table]
    exact .kept none zero
  cases h with
  | provision h => exact untouched h.bindings_eq (by cases h <;> rfl) (by cases h <;> rfl)
  | deprovision h => exact untouched h.bindings_eq (by cases h <;> rfl) (by cases h <;> rfl)
  | bind h => exact h.entry numbers settled i j
  | unbind h => exact h.entry settled i j
  | update => exact untouched rfl rfl rfl
  | lastOperation h => exact untouched h.bindings_eq (h.entry i j).1 (h.entry i j).2

/-! ### Histories -/

/-- The ledger of a pair and its live rows: what was granted and not withdrawn is live, at most
once, and holds what was granted last. -/
structure Ledger (i j : String) (asked : List Consultation) (rows : List BindingRow) : Prop where
  balance : (grants i j asked).length = withdrawals i j asked + rows.length
  single : rows.length ≤ 1
  current : ∀ row ∈ rows, row.status = .active ∧ ∃ credentials,
    (grants i j asked).getLast? = some credentials ∧ row.otherDetails = credentials.text

theorem Ledger.enter {i j : String} {past : List Consultation} {before after : List BindingRow}
    (ledger : Ledger i j past before) (entry : Entry i j asked before after) :
    Ledger i j (past ++ asked) after := by
  obtain ⟨balance, single, current⟩ := ledger
  cases entry with
  | kept none zero =>
    refine ⟨?_, single, ?_⟩
    · rw [Consultation.grants_append, Consultation.withdrawals_append, none, zero, List.append_nil]
      exact balance
    · rw [Consultation.grants_append, none, List.append_nil]
      exact current
  | @granted row credentials one zero active holds =>
    refine ⟨?_, Nat.le_refl 1, fun r hr => ?_⟩
    · rw [Consultation.grants_append, Consultation.withdrawals_append, one, zero,
        List.length_append, balance]
      rfl
    · obtain rfl := List.mem_singleton.mp hr
      refine ⟨active, credentials, ?_, holds⟩
      rw [Consultation.grants_append, one, List.getLast?_concat]
  | withdrawn held none one =>
    have := List.length_pos_iff.mpr held
    refine ⟨?_, Nat.zero_le 1, nofun⟩
    rw [Consultation.grants_append, Consultation.withdrawals_append, none, one, List.append_nil,
      List.length_nil]
    omega

end Broker

end Brokerage
