/-!
Programs that ask. A program either has its result or makes a call and goes on with the answer; what
answers is left open. The same program runs against a backend that keeps a state, and can be
followed through every answer that could come.
-/

namespace Brokerage

/-- What a program may call, and what each call is answered with. -/
structure Interface where
  Call : Type
  Answer : Call → Type

inductive Program (I : Interface) (α : Type) where
  | done (result : α)
  | ask (call : I.Call) (next : I.Answer call → Program I α)

namespace Program

variable {I : Interface} {α β γ : Type}

/-- Goes on with `f` where `p` is done. -/
def andThen (p : Program I α) (f : α → Program I β) : Program I β :=
  match p with
  | done a => f a
  | ask call next => ask call fun answer => (next answer).andThen f

instance : Monad (Program I) where
  pure := done
  bind := andThen

/-- Makes one call. -/
def call (c : I.Call) : Program I (I.Answer c) := ask c done

/-- Runs a program against something that answers calls out of a state. -/
def run {σ : Type} (answer : (c : I.Call) → σ → I.Answer c × σ) : Program I α → σ → α × σ
  | done a, s => (a, s)
  | ask c next, s =>
    let (a, s') := answer c s
    (next a).run answer s'

/-- Running a program and what follows it is running one after the other. -/
theorem run_andThen {σ : Type} (answer : (c : I.Call) → σ → I.Answer c × σ) (p : Program I α)
    (f : α → Program I β) (s : σ) :
    (p.andThen f).run answer s =
      (f (p.run answer s).1).run answer (p.run answer s).2 := by
  induction p generalizing s with
  | done a => rfl
  | ask c next ih => simp only [andThen, run, ih]

end Program

/-- A program that may fail with an `ε`. -/
abbrev Fallible (I : Interface) (ε α : Type) := ExceptT ε (Program I) α

namespace Fallible

variable {I : Interface} {ε α : Type}

/-- Fails with `e` unless `p` holds. -/
def require (p : Bool) (e : ε) : Fallible I ε Unit := if p then pure () else throw e

/-- The outcome of `p`, whichever it is. -/
def attempt (p : Fallible I ε α) : Fallible I ε (Except ε α) := ExceptT.lift p.run

/-- The value of a result, or its error. -/
def ofExcept (r : Except ε α) : Fallible I ε α := ExceptT.mk (pure r)

end Fallible

end Brokerage
