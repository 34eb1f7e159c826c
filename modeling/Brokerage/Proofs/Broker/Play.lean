import Brokerage.Proofs.Broker.Scene

/-! Plays: what becomes of an action in a scene once it is settled how providers conduct themselves
and what the clock says. A play is one of the things that can happen in the world of a broker. -/

namespace Brokerage

/-- How providers conduct themselves: an answer may depend on every call that came before, the
latest first, to whichever provider and about whichever instance. -/
abbrev Conduct : Type :=
  List Instruction → Provider → (call : ProviderCall) → Except ProviderError call.Value

/-- What the provider was told. -/
def Consultation.instruction (c : Consultation) : Instruction := ⟨c.provider, c.call⟩

namespace Scene

/-- The answer to a call, with the scene after it. -/
def reply (time : Instant) (conduct : Conduct) : (call : BrokerCall) → Scene → call.Answer × Scene
  | .store call, w => ((w.store.step time call).1, { w with store := (w.store.step time call).2 })
  | .provider p call, w => (conduct w.told p call, { w with told := ⟨p, call⟩ :: w.told })

/-- The result of an action, with the scene after it. -/
def play (w : Scene) (time : Instant) (conduct : Conduct) {α : Type} (p : Action α) :
    Except BrokerError α × Scene :=
  Program.run (reply time conduct) p.run w

section Play

variable {time : Instant} {conduct : Conduct} {α β : Type} {w w' : Scene}

theorem play_bind_of_ok {p : Action α} {a : α} (f : α → Action β)
    (played : w.play time conduct p = (.ok a, w')) :
    w.play time conduct (p >>= f) = w'.play time conduct (f a) :=
  Fallible.run_bind_of_ok f played

theorem play_bind_of_error {p : Action α} {e : BrokerError} (f : α → Action β)
    (played : w.play time conduct p = (.error e, w')) :
    w.play time conduct (p >>= f) = (.error e, w') :=
  Fallible.run_bind_of_error f played

/-- Actions that are played alike are played alike before the same. -/
theorem play_bind_congr {p q : Action α} (f : α → Action β)
    (alike : w.play time conduct p = w.play time conduct q) :
    w.play time conduct (p >>= f) = w.play time conduct (q >>= f) := by
  cases played : w.play time conduct q with
  | mk r w' =>
    rw [played] at alike
    cases r with
    | ok a => rw [play_bind_of_ok f alike, play_bind_of_ok f played]
    | error e => rw [play_bind_of_error f alike, play_bind_of_error f played]

theorem play_storeResult (call : StoreCall) : w.play time conduct call.result =
    (.ok (w.store.step time call).1, { w with store := (w.store.step time call).2 }) := rfl

theorem play_of_done {p : Action α} {r : Except BrokerError α} (done : p.run = .done r)
    (w : Scene) : w.play time conduct p = (r, w) := by
  rw [play, done]
  rfl

/-- A call whose failure is one of the action. -/
theorem play_storeValue (call : StoreCall) : w.play time conduct call.value =
    ((w.store.step time call).1.mapError .store,
      { w with store := (w.store.step time call).2 }) := by
  rw [StoreCall.value_eq, play_bind_of_ok _ (play_storeResult call)]
  exact play_of_done rfl _

theorem play_liveInstance_of_live {id : String} {row : InstanceRow}
    (live : w.store.liveInstance? id = some row) :
    w.play time conduct (liveInstance id) = (.ok row, w) := by
  rw [liveInstance_eq, play_bind_of_ok _ (play_storeResult _), Store.step_getInstance,
    Store.getInstance, live]
  exact play_of_done rfl w

/-- A play is an action in the world, in which providers are told what they are told in the play. -/
theorem acts_of_play {p : Action α} {r : Except BrokerError α}
    (played : w.play time conduct p = (r, w')) :
    ∃ asked, Acts .none p w.store asked r w'.store ∧
      w'.told = (asked.map (·.instruction)).reverse ++ w.told := by
  obtain ⟨p, rfl⟩ : ∃ q, p = ExceptT.mk q := ⟨p.run, rfl⟩
  induction p generalizing w with
  | done r =>
    cases played
    exact ⟨[], ⟨[], .done, rfl⟩, rfl⟩
  | ask call next ih =>
    obtain ⟨asked, ⟨trace, runs, rfl⟩, told⟩ := ih (reply time conduct call w).1 played
    cases call with
    | store call => exact ⟨_, ⟨_, .ask (World.store time rfl) runs, rfl⟩, told⟩
    | provider provider call =>
      refine ⟨_, ⟨_, .ask (World.provider _) runs, rfl⟩, ?_⟩
      rw [told]
      simp [reply, Consultation.ofTrace, Consultation.ofExchange?, Consultation.instruction]

end Play

end Scene

end Brokerage
