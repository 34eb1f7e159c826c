import Brokerage.Program

/-! Runs of programs. Replies say which answers a call may get in a state and what state each of
them leaves. A run of a program against them has a trace, the calls with their answers in the order
in which they were made; running one program after another appends their traces. -/

namespace Brokerage

/-- A call with the state that it found and the answer that it got. -/
structure Exchange (I : Interface) (σ : Type) where
  before : σ
  call : I.Call
  answer : I.Answer call

/-- The answers that a call may get in a state, each with the state after it. -/
abbrev Replies (I : Interface) (σ : Type) : Type :=
  (call : I.Call) → σ → I.Answer call → σ → Prop

namespace Program

variable {I : Interface} {σ α β : Type} {replies : Replies I σ}

/-- A run of a program from a state: its trace, its result and the state after it. -/
inductive Runs (replies : Replies I σ) :
    Program I α → σ → List (Exchange I σ) → α → σ → Prop
  | done {a : α} {s : σ} : Runs replies (done a) s [] a s
  | ask {call : I.Call} {next : I.Answer call → Program I α} {s s' s'' : σ}
      {answer : I.Answer call} {trace : List (Exchange I σ)} {a : α} :
      replies call s answer s' → Runs replies (next answer) s' trace a s'' →
      Runs replies (ask call next) s (⟨s, call, answer⟩ :: trace) a s''

namespace Runs

/-- A program that is followed by another runs as one after the other. -/
theorem andThen {p : Program I α} {f : α → Program I β} {s s' s'' : σ}
    {first last : List (Exchange I σ)} {a : α} {b : β} (hp : Runs replies p s first a s')
    (hf : Runs replies (f a) s' last b s'') :
    Runs replies (p.andThen f) s (first ++ last) b s'' := by
  induction hp with
  | done => exact hf
  | ask h _ ih => exact .ask h (ih hf)

theorem of_andThen {p : Program I α} {f : α → Program I β} {s s'' : σ}
    {trace : List (Exchange I σ)} {b : β} (h : Runs replies (p.andThen f) s trace b s'') :
    ∃ first last a s', trace = first ++ last ∧ Runs replies p s first a s' ∧
      Runs replies (f a) s' last b s'' := by
  induction p generalizing s trace with
  | done a => exact ⟨[], trace, a, s, rfl, .done, h⟩
  | ask call next ih =>
    cases h with
    | ask answered rest =>
      obtain ⟨first, last, a, s', rfl, hp, hf⟩ := ih _ rest
      exact ⟨_ :: first, last, a, s', rfl, .ask answered hp, hf⟩

/-- A program that makes one call gets an answer that is allowed. -/
theorem of_call {c : I.Call} {s s' : σ} {trace : List (Exchange I σ)} {answer : I.Answer c}
    (h : Runs replies (call c) s trace answer s') :
    trace = [⟨s, c, answer⟩] ∧ replies c s answer s' := by
  have asked : Runs replies (.ask c .done) s trace answer s' := h
  cases asked with
  | ask answered ending =>
    cases ending
    exact ⟨rfl, answered⟩

/-- What a program does against a function that answers its calls is a run, as far as the state is
seen by `view`, wherever the answers of the function are allowed. -/
theorem of_run {τ : Type} {answer : (c : I.Call) → τ → I.Answer c × τ} (view : τ → σ)
    {P : τ → Prop} (allowed : ∀ c t, P t →
      replies c (view t) (answer c t).1 (view (answer c t).2) ∧ P (answer c t).2)
    (p : Program I α) (t : τ) (holds : P t) :
    ∃ trace, Runs replies p (view t) trace (p.run answer t).1 (view (p.run answer t).2) := by
  induction p generalizing t with
  | done a => exact ⟨[], .done⟩
  | ask call next ih =>
    obtain ⟨reply, kept⟩ := allowed call t holds
    obtain ⟨trace, h⟩ := ih (answer call t).1 (answer call t).2 kept
    exact ⟨_ :: trace, .ask reply h⟩

/-- What every answer keeps, a run keeps. -/
theorem keeps {P : σ → Prop} (step : ∀ c s a s', replies c s a s' → P s → P s')
    {p : Program I α} {s s' : σ} {trace : List (Exchange I σ)} {a : α}
    (h : Runs replies p s trace a s') (holds : P s) : P s' := by
  induction h with
  | done => exact holds
  | ask answered _ ih => exact ih (step _ _ _ _ answered holds)

end Runs

end Program

namespace Fallible

variable {I : Interface} {σ ε α β : Type} {replies : Replies I σ} {s s' : σ}
  {trace : List (Exchange I σ)}

/-- A run of a program that may fail; its result is a value or an error. -/
abbrev Runs (replies : Replies I σ) (p : Fallible I ε α) (s : σ) (trace : List (Exchange I σ))
    (r : Except ε α) (s' : σ) : Prop :=
  Program.Runs replies p.run s trace r s'

theorem runs_pure {a : α} {r : Except ε α}
    (h : Runs replies (pure a : Fallible I ε α) s trace r s') :
    trace = [] ∧ r = .ok a ∧ s' = s := by
  cases h
  exact ⟨rfl, rfl, rfl⟩

theorem runs_throw {e : ε} {r : Except ε α}
    (h : Runs replies (throw e : Fallible I ε α) s trace r s') :
    trace = [] ∧ r = .error e ∧ s' = s := by
  cases h
  exact ⟨rfl, rfl, rfl⟩

/-- A sequence either fails in its first part or goes on with the value of it. -/
theorem runs_bind {p : Fallible I ε α} {f : α → Fallible I ε β} {r : Except ε β} {s'' : σ}
    (h : Runs replies (p >>= f) s trace r s'') :
    (∃ e, r = .error e ∧ Runs replies p s trace (.error e) s'') ∨
      ∃ first last a s', trace = first ++ last ∧ Runs replies p s first (.ok a) s' ∧
        Runs replies (f a) s' last r s'' := by
  obtain ⟨first, last, result, s', rfl, hp, hf⟩ := Program.Runs.of_andThen h
  cases result with
  | error e =>
    cases hf
    exact .inl ⟨e, rfl, by rw [List.append_nil]; exact hp⟩
  | ok a => exact .inr ⟨first, last, a, s', rfl, hp, hf⟩

/-- A program that is followed by a function of its value. -/
theorem runs_map {p : Fallible I ε α} {g : α → β} {r : Except ε β}
    (h : Runs replies (p >>= fun a => pure (g a)) s trace r s') :
    ∃ r', r = r'.map g ∧ Runs replies p s trace r' s' := by
  rcases runs_bind h with ⟨e, rfl, failed⟩ | ⟨first, last, a, t, rfl, ran, ending⟩
  · exact ⟨.error e, rfl, failed⟩
  · obtain ⟨rfl, rfl, rfl⟩ := runs_pure ending
    exact ⟨.ok a, rfl, by rw [List.append_nil]; exact ran⟩

/-- A sequence whose first part fails has failed. -/
theorem runs_bind_of_error {p : Fallible I ε α} {f : α → Fallible I ε β} {e : ε}
    (h : Runs replies p s trace (.error e) s') : Runs replies (p >>= f) s trace (.error e) s' := by
  have sequenced := Program.Runs.andThen (f := ExceptT.bindCont f) h .done
  rw [List.append_nil] at sequenced
  exact sequenced

/-- What follows a program that succeeded goes on from where that ended. -/
theorem run_bind_of_ok {answer : (c : I.Call) → σ → I.Answer c × σ} {p : Fallible I ε α} {a : α}
    (f : α → Fallible I ε β) (ran : Program.run answer p.run s = (.ok a, s')) :
    Program.run answer (p >>= f).run s = Program.run answer (f a).run s' := by
  have sequenced := Program.run_andThen answer p.run (ExceptT.bindCont f) s
  rw [ran] at sequenced
  exact sequenced

theorem run_bind_of_error {answer : (c : I.Call) → σ → I.Answer c × σ} {p : Fallible I ε α} {e : ε}
    (f : α → Fallible I ε β) (ran : Program.run answer p.run s = (.error e, s')) :
    Program.run answer (p >>= f).run s = (.error e, s') := by
  have sequenced := Program.run_andThen answer p.run (ExceptT.bindCont f) s
  rw [ran] at sequenced
  exact sequenced

/-- An attempt has the outcome of what is attempted for its value. -/
theorem run_attempt {answer : (c : I.Call) → σ → I.Answer c × σ} {p : Fallible I ε α}
    {r : Except ε α} (ran : Program.run answer p.run s = (r, s')) :
    Program.run answer (attempt p : Fallible I ε (Except ε α)).run s = (.ok r, s') := by
  have lifted := Program.run_andThen answer p.run (fun r => .done (.ok r : Except ε _)) s
  rw [ran] at lifted
  exact lifted

/-- What follows a call gets an answer that is allowed. -/
theorem runs_call {c : I.Call} {f : I.Answer c → Fallible I ε β} {r : Except ε β} {s'' : σ}
    (h : Runs replies (ExceptT.lift (Program.call c) >>= f) s trace r s'') :
    ∃ answer s' rest, replies c s answer s' ∧ trace = ⟨s, c, answer⟩ :: rest ∧
      Runs replies (f answer) s' rest r s'' := by
  have asked : Program.Runs replies (.ask c fun answer => (f answer).run) s trace r s'' := h
  cases asked with
  | ask answered rest => exact ⟨_, _, _, answered, rfl, rest⟩

/-- What follows a call that may fail goes on with its value, unless it does fail. -/
theorem runs_ask {C : Type} {V : C → Type} {replies : Replies ⟨C, fun c => Except ε (V c)⟩ σ}
    {c : C}
    {f : V c → Fallible ⟨C, fun c => Except ε (V c)⟩ ε β} {r : Except ε β} {s s'' : σ}
    {trace : List (Exchange ⟨C, fun c => Except ε (V c)⟩ σ)}
    (h : Runs replies (ExceptT.mk (Program.call (I := ⟨C, fun c => Except ε (V c)⟩) c) >>= f)
      s trace r s'') :
    (∃ e, replies c s (.error e) s'' ∧ trace = [⟨s, c, .error e⟩] ∧ r = .error e) ∨
      ∃ a s' rest, replies c s (.ok a) s' ∧ trace = ⟨s, c, .ok a⟩ :: rest ∧
        Runs replies (f a) s' rest r s'' := by
  rcases runs_bind h with ⟨e, rfl, failed⟩ | ⟨first, last, a, s', rfl, asked, rest⟩
  · obtain ⟨rfl, answered⟩ := Program.Runs.of_call failed
    exact .inl ⟨e, answered, rfl, rfl⟩
  · obtain ⟨rfl, answered⟩ := Program.Runs.of_call asked
    exact .inr ⟨a, s', last, answered, rfl, rest⟩

end Fallible

end Brokerage
