import Brokerage.Proofs.Run

/-! Runs one of whose calls fails. A backend answers as it always does, except that one call, after
a number of others, is answered with an error and does not reach it. -/

namespace Brokerage

/-- The replies of a function that answers calls. -/
abbrev Replies.of {I : Interface} {σ : Type} (answer : (c : I.Call) → σ → I.Answer c × σ) :
    Replies I σ := fun c s a s' => answer c s = (a, s')

/-- A run against a function that answers calls is a run against its replies. -/
theorem Program.Runs.of_answer {I : Interface} {σ α : Type}
    {answer : (c : I.Call) → σ → I.Answer c × σ} {p : Program I α} {s s' : σ} {a : α}
    (ran : p.run answer s = (a, s')) : ∃ trace, Runs (.of answer) p s trace a s' := by
  have h : ∃ trace, Runs (.of answer) p s trace (p.run answer s).1 (p.run answer s).2 :=
    Runs.of_run id (P := fun _ => True) (fun _ _ _ => ⟨rfl, trivial⟩) p s trivial
  rwa [ran] at h

/-- When a call is going to fail: how many others come before it, and with which error. -/
abbrev Failure (ε : Type) := Option (Nat × ε)

/-- The answers of a backend while a failure may be due. -/
def interrupted {ι ε σ : Type} {Value : ι → Type}
    (answer : (call : ι) → σ → Except ε (Value call) × σ) :
    (call : ι) → σ × Failure ε → Except ε (Value call) × σ × Failure ε
  | call, (s, none) => ((answer call s).1, (answer call s).2, none)
  | _, (s, some (0, e)) => (.error e, s, none)
  | call, (s, some (n + 1, e)) => ((answer call s).1, (answer call s).2, some (n, e))

section Interrupted

variable {ι ε σ : Type} {Value : ι → Type} {answer : (call : ι) → σ → Except ε (Value call) × σ}
  {call : ι} {w w' : σ × Failure ε}

/-- A call is answered as always, or it fails without effect. -/
theorem interrupted_cases {r : Except ε (Value call)} (h : interrupted answer call w = (r, w')) :
    answer call w.1 = (r, w'.1) ∨ (∃ e, r = .error e) ∧ w'.1 = w.1 := by
  rcases w with ⟨s, _ | ⟨_ | n, e⟩⟩
  · cases h
    exact .inl rfl
  · cases h
    exact .inr ⟨⟨e, rfl⟩, rfl⟩
  · cases h
    exact .inl rfl

theorem interrupted_ok {v : Value call} (h : interrupted answer call w = (.ok v, w')) :
    answer call w.1 = (.ok v, w'.1) := by
  rcases interrupted_cases h with answered | ⟨⟨e, ⟨⟩⟩, -⟩
  exact answered

end Interrupted

end Brokerage
