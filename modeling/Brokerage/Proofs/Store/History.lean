import Brokerage.Proofs.Store.Keys

/-! Histories of a store: calls made to it one after another, by whomever. Each is answered by the
store at some reading of the clock, or fails without effect. Whatever callers there are and however
their calls interleave, what the store goes through is a history. -/

namespace Brokerage

/-- A call to a store as it was made: the store that it found, the answer, and the store after it. -/
structure Transaction where
  call : StoreCall
  before : Store
  answer : Except StoreError call.Value
  after : Store

namespace Transaction

/-- The ways in which a call may be made. -/
inductive Made : Transaction → Prop
  | answered {s s' : Store} {call : StoreCall} {answer : Except StoreError call.Value}
      (now : Instant) (step : s.step now call = (answer, s')) : Made ⟨call, s, answer, s'⟩
  | failed {s : Store} {call : StoreCall} (e : StoreError) : Made ⟨call, s, .error e, s⟩

/-- A call that the store answers at the time `now`. -/
def ofStep (s : Store) (now : Instant) (call : StoreCall) : Transaction :=
  ⟨call, s, (s.step now call).1, (s.step now call).2⟩

/-- A call fails and changes nothing, or has its effect. -/
@[elab_as_elim]
theorem Made.effects {motive : (t : Transaction) → t.Made → Prop}
    (failed : ∀ {s call e} (made : Made ⟨call, s, .error e, s⟩), motive _ made)
    (succeeded : ∀ {s now call value s'} (made : Made ⟨call, s, .ok value, s'⟩),
      s.Effect now call value s' → motive _ made)
    {t : Transaction} (made : t.Made) : motive t made := by
  cases made with
  | @answered s s' call answer now step =>
    rcases s.step_cases now call with ⟨e, refused⟩ | ⟨value, s'', answered, effect⟩
    · cases step.symm.trans refused
      exact failed _
    · cases step.symm.trans answered
      exact succeeded _ effect
  | failed e => exact failed _

/-- What the effects of calls keep, a call keeps. -/
theorem Made.keeps {t : Transaction} {P : Store → Prop} (made : t.Made) (stable : Store.Stable P)
    (holds : P t.before) : P t.after := by
  induction made using Made.effects with
  | failed => exact holds
  | succeeded made effect => exact stable _ _ _ _ _ holds effect

end Transaction

namespace Store

/-- Calls made one after another, from a store to a store. -/
inductive History : Store → List Transaction → Store → Prop
  | start {s : Store} : History s [] s
  | call {t : Transaction} {later : List Transaction} {s : Store} (made : t.Made)
      (rest : History t.after later s) : History t.before (t :: later) s

namespace History

variable {s s' : Store} {h k : List Transaction}

theorem of_append (run : History s (h ++ k) s') : ∃ t, History s h t ∧ History t k s' := by
  induction h generalizing s with
  | nil => exact ⟨s, .start, run⟩
  | cons t later ih =>
    cases run with
    | call made rest =>
      obtain ⟨u, first, last⟩ := ih rest
      exact ⟨u, .call made first, last⟩

/-- Two calls of a history, with those between them. -/
theorem of_infix {c d : Transaction} {between : List Transaction} (run : History s h s')
    (among : c :: (between ++ [d]) <:+: h) :
    c.Made ∧ d.Made ∧ History c.after between d.before ∧ ∃ past, History s past c.before := by
  obtain ⟨past, later, rfl⟩ := among
  obtain ⟨u, run, -⟩ := run.of_append
  obtain ⟨v, first, run⟩ := run.of_append
  cases run with
  | call made rest =>
    obtain ⟨w, middle, last⟩ := rest.of_append
    cases last with
    | call made' => exact ⟨made, made', middle, past, first⟩

/-- What the effects of calls keep, a history keeps. -/
theorem keeps {P : Store → Prop} (run : History s h s') (stable : Stable P) (holds : P s) :
    P s' := by
  induction run with
  | start => exact holds
  | call made _ ih => exact ih (made.keeps stable holds)

theorem keyed (run : History s h s') (keyed : s.Keyed) : s'.Keyed := run.keeps Keyed.stable keyed

end History

/-! ### Calls that are all answered -/

/-- The store after calls, each with the time at which it is answered. -/
def after (s : Store) : List (Instant × StoreCall) → Store
  | [] => s
  | (now, call) :: later => (s.step now call).2.after later

/-- The history that those calls are. -/
def transactions (s : Store) : List (Instant × StoreCall) → List Transaction
  | [] => []
  | (now, call) :: later => .ofStep s now call :: (s.step now call).2.transactions later

theorem history_after (s : Store) (calls : List (Instant × StoreCall)) :
    History s (s.transactions calls) (s.after calls) := by
  induction calls generalizing s with
  | nil => exact .start
  | cons c later ih => exact .call (t := .ofStep s c.1 c.2) (.answered c.1 rfl) (ih _)

end Store

end Brokerage
