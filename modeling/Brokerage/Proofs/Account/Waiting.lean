import Brokerage.Account.DatabaseUser
import Brokerage.Proofs.Run

/-! How long an operation is waited for. It is polled until the first answer other than that it is
still running, and not once more; where no such answer comes in time, it is polled as often as is
allowed. -/

namespace Brokerage.DatabaseManager

/-- A backend that answers the polls of operations with `answers`, one after another, and all other
calls with `others`. It notes the calls that it gets. -/
def replaying (answers : Nat → Except CredentialError Bool)
    (others : (call : DatabaseCall) → Except CredentialError call.Value) :
    (call : DatabaseCall) → List DatabaseCall →
      Except CredentialError call.Value × List DatabaseCall
  | .operationDone operation, calls => (answers calls.length, calls ++ [.operationDone operation])
  | call, calls => (others call, calls ++ [call])

variable {answers : Nat → Except CredentialError Bool}
  {others : (call : DatabaseCall) → Except CredentialError call.Value} {operation : String}
  {calls : List DatabaseCall} {i n limit : Nat}

/-! ### One poll after another -/

/-- A poll ends the waiting or leaves it to the polls after it. -/
theorem run_poll_succ :
    Program.run (replaying answers others) (poll limit operation (n + 1)).run calls =
      match answers calls.length with
      | .ok false => Program.run (replaying answers others) (poll limit operation n).run
          (calls ++ [.operationDone operation])
      | answer => (answer.map fun _ => (), calls ++ [.operationDone operation]) := by
  have asked : Program.run (replaying answers others)
      (DatabaseCall.operationDone operation).ask.run calls =
        (answers calls.length, calls ++ [.operationDone operation]) := rfl
  rw [poll]
  cases answered : answers calls.length with
  | error e =>
    rw [answered] at asked
    exact Fallible.run_bind_of_error _ asked
  | ok done =>
    rw [answered] at asked
    rw [Fallible.run_bind_of_ok _ asked]
    cases done <;> rfl

theorem length_append_poll (calls : List DatabaseCall) (call : DatabaseCall) (j : Nat) :
    (calls ++ [call]).length + j = calls.length + (j + 1) := by
  rw [List.length_append, List.length_singleton, Nat.add_assoc, Nat.add_comm 1]

/-- An operation that is still running at every poll is given up. -/
theorem run_poll_of_running (running : ∀ j < n, answers (calls.length + j) = .ok false) :
    Program.run (replaying answers others) (poll limit operation n).run calls =
      (.error (.timedOut operation limit),
        calls ++ List.replicate n (.operationDone operation)) := by
  induction n generalizing calls with
  | zero =>
    rw [List.replicate_zero, List.append_nil]
    rfl
  | succ n ih =>
    have first : answers calls.length = .ok false := running 0 n.succ_pos
    rw [run_poll_succ, first]
    refine (ih fun j less => ?_).trans ?_
    · rw [length_append_poll]
      exact running (j + 1) (Nat.succ_lt_succ less)
    · rw [List.append_assoc]
      rfl

/-- The first other answer is the outcome, if the polls suffice. -/
theorem run_poll_of_final (running : ∀ j < i, answers (calls.length + j) = .ok false)
    (final : answers (calls.length + i) ≠ .ok false) (inTime : i < n) :
    Program.run (replaying answers others) (poll limit operation n).run calls =
      ((answers (calls.length + i)).map fun _ => (),
        calls ++ List.replicate (i + 1) (.operationDone operation)) := by
  induction i generalizing calls n with
  | zero =>
    obtain _ | n := n
    · cases inTime
    rw [run_poll_succ]
    split
    · rename_i first
      exact absurd first final
    · rfl
  | succ i ih =>
    obtain _ | n := n
    · cases inTime
    have first : answers calls.length = .ok false := running 0 i.succ_pos
    rw [← length_append_poll calls (.operationDone operation)] at final ⊢
    rw [run_poll_succ, first]
    refine (ih (fun j less => ?_) final (Nat.lt_of_succ_lt_succ inTime)).trans ?_
    · rw [length_append_poll]
      exact running (j + 1) (Nat.succ_lt_succ less)
    · rw [List.append_assoc]
      rfl

/-! ### The whole wait -/

/-- The answer at `i`, counted from zero, is the first that does not say that the operation is still
running. -/
def FirstFinal (answers : Nat → Except CredentialError Bool) (i : Nat) : Prop :=
  answers i ≠ .ok false ∧ ∀ j < i, answers j = .ok false

/-- Where no such answer comes in time, the operation is still running at every poll. -/
theorem running_of_late (late : ∀ i, FirstFinal answers i → limit ≤ i) :
    ∀ j < limit, answers j = .ok false := by
  intro j
  induction j using Nat.strongRecOn with
  | ind j ih =>
    intro less
    refine Classical.byContradiction fun final => ?_
    have reached := late j ⟨final, fun k before => ih k before (Nat.lt_trans before less)⟩
    exact absurd less (Nat.not_lt.mpr reached)

/-- An operation is polled up to the first answer that is no longer that it is still running, or to
the last poll that is allowed, of which there is one at least; that answer decides if it came. -/
theorem waits_exactly (m : DatabaseManager) (n : Nat) (operation : String)
    (answers : Nat → Except CredentialError Bool)
    (others : (call : DatabaseCall) → Except CredentialError call.Value) :
    let limit := max n 1
    let ran := Program.run (replaying answers others) ((m.withMaxPolls n).waitFor operation).run []
    (∀ i, FirstFinal answers i →
      ran.2 = List.replicate (min (i + 1) limit) (.operationDone operation)) ∧
    ((∀ i, ¬ FirstFinal answers i) → ran.2 = List.replicate limit (.operationDone operation)) ∧
    (∀ i < limit, FirstFinal answers i → answers i = .ok true → ran.1 = .ok ()) ∧
    (∀ i < limit, ∀ e, FirstFinal answers i → answers i = .error e → ran.1 = .error e) ∧
    ((∀ i, FirstFinal answers i → limit ≤ i) → ran.1 = .error (.timedOut operation limit)) := by
  intro limit ran
  have gaveUp (running : ∀ j < limit, answers j = .ok false) :
      ran = (.error (.timedOut operation limit),
        List.replicate limit (.operationDone operation)) :=
    run_poll_of_running fun j less => by
      rw [List.length_nil, Nat.zero_add]
      exact running j less
  have decided {i : Nat} (first : FirstFinal answers i) (inTime : i < limit) :
      ran = ((answers i).map fun _ => (), List.replicate (i + 1) (.operationDone operation)) := by
    refine (run_poll_of_final (i := i) (fun j before => ?_) ?_ inTime).trans ?_ <;>
      rw [List.length_nil, Nat.zero_add]
    · exact first.2 j before
    · exact first.1
    · rfl
  refine ⟨fun i first => ?_, fun never => ?_, fun i inTime first done => ?_,
    fun i inTime e first failed => ?_, fun late => ?_⟩
  · obtain inTime | late := Nat.lt_or_ge i limit
    · rw [decided first inTime, Nat.min_eq_left inTime]
    · rw [gaveUp fun j less => first.2 j (Nat.lt_of_lt_of_le less late),
        Nat.min_eq_right (Nat.le_succ_of_le late)]
  · rw [gaveUp (running_of_late fun i first => absurd first (never i))]
  · rw [decided first inTime, done]
    rfl
  · rw [decided first inTime, failed]
    rfl
  · rw [gaveUp (running_of_late late)]

/-- An operation that is done at the third poll is waited for by three polls; two are too few. -/
theorem waits_exactly_third_poll :
    let answers : Nat → Except CredentialError Bool := fun i => .ok (i == 2)
    let ran (n : Nat) := Program.run (replaying answers fun _ => .error .missingRole)
      ((DatabaseManager.withMaxPolls ⟨.mySql, 300⟩ n).waitFor "op").run []
    (ran 3).1 = .ok () ∧ (ran 3).2 = List.replicate 3 (.operationDone "op") ∧
      (ran 2).1 = .error (.timedOut "op" 2) := by
  intro answers ran
  have done : FirstFinal answers 2 := by
    refine ⟨nofun, fun j before => ?_⟩
    obtain rfl | rfl : j = 0 ∨ j = 1 := by omega
    · rfl
    · rfl
  have third := waits_exactly ⟨.mySql, 300⟩ 3 "op" answers fun _ => .error .missingRole
  have second := waits_exactly ⟨.mySql, 300⟩ 2 "op" answers fun _ => .error .missingRole
  refine ⟨third.2.2.1 2 (by decide) done rfl, third.1 2 done, second.2.2.2.2 fun i first => ?_⟩
  refine Nat.le_of_not_lt fun before => ?_
  exact absurd (done.2 i before) first.1

end Brokerage.DatabaseManager
