import Brokerage.Proofs.Broker.Performance

/-! The errors with which an action can fail, whatever it is answered. They are read off the ends of
its program, so that nothing has to be known about the store or the providers. A broker by itself
never speaks of legacy plans. -/

namespace Brokerage

/-- The results that a program may have, over all answers, are among those in `Q`. -/
def Program.Ends {I : Interface} {α : Type} (Q : α → Prop) : Program I α → Prop
  | .done a => Q a
  | .ask _ next => ∀ answer, (next answer).Ends Q

namespace Program.Ends

variable {I : Interface} {σ α β : Type} {Q : α → Prop} {R : β → Prop}

theorem andThen {p : Program I α} {f : α → Program I β} (first : p.Ends Q)
    (next : ∀ a, Q a → (f a).Ends R) : (p.andThen f).Ends R := by
  induction p with
  | done a => exact next a first
  | ask call _ ih => exact fun answer => ih answer (first answer)

theorem of_runs {replies : Replies I σ} {p : Program I α} {s s' : σ} {trace : List (Exchange I σ)}
    {a : α} (ends : p.Ends Q) (h : Runs replies p s trace a s') : Q a := by
  induction h with
  | done => exact ends
  | ask _ _ ih => exact ih (ends _)

end Program.Ends

/-- The errors with which a program may fail are among those in `E`. -/
def Fallible.FailsWithin {I : Interface} {ε α : Type} (E : ε → Prop) (p : Fallible I ε α) : Prop :=
  Program.Ends (fun r => ∀ e, r = .error e → E e) p.run

namespace Fallible.FailsWithin

variable {I : Interface} {ε α β : Type} {E : ε → Prop}

theorem pure (a : α) : FailsWithin (I := I) E (pure a) := nofun

theorem throw {e : ε} (allowed : E e) : FailsWithin (I := I) (α := α) E (throw e) := by
  rintro _ ⟨⟩
  exact allowed

theorem bind {p : Fallible I ε α} {f : α → Fallible I ε β} (first : FailsWithin E p)
    (next : ∀ a, FailsWithin E (f a)) : FailsWithin E (p >>= f) := by
  refine Program.Ends.andThen first ?_
  rintro (e | a) fails
  · exact throw (fails e rfl)
  · exact next a

theorem require (p : Bool) {e : ε} (allowed : E e) :
    FailsWithin (I := I) E (Fallible.require p e) := by
  cases p with
  | true => exact pure ()
  | false => exact throw allowed

end Fallible.FailsWithin

open Fallible (FailsWithin)

/-- A legacy plan is what is wrong. -/
def BrokerError.isLegacyPlan : BrokerError → Bool
  | legacyPlan _ => true
  | _ => false

/-- An action never fails because of a legacy plan. -/
abbrev Action.Plain {α : Type} (p : Action α) : Prop :=
  FailsWithin (fun e : BrokerError => e.isLegacyPlan = false) p

section Plain

variable {α : Type}

theorem Acts.plain {faults : Faults} {p : Action α} {s s' : Store} {asked : List Consultation}
    {e : BrokerError} (h : Acts faults p s asked (.error e) s') (plain : Action.Plain p) :
    e.isLegacyPlan = false := by
  obtain ⟨trace, runs, -⟩ := h
  exact Program.Ends.of_runs plain runs e rfl

theorem Acts.of_map_error {faults : Faults} {β : Type} {p : Action α} {g : α → β} {s s' : Store}
    {asked : List Consultation} {e : BrokerError}
    (h : Acts faults (p >>= fun a => pure (g a)) s asked (.error e) s') :
    Acts faults p s asked (.error e) s' := by
  obtain ⟨r, same, acted⟩ := Acts.of_map h
  cases r <;> cases same
  exact acted

theorem StoreCall.result_plain (call : StoreCall) : Action.Plain call.result := fun _ => nofun

theorem Provider.result_plain (p : Provider) (call : ProviderCall) :
    Action.Plain (p.result call) := fun _ => nofun

theorem StoreCall.value_plain (call : StoreCall) : Action.Plain call.value := by
  refine .bind call.result_plain fun answer => ?_
  cases answer with
  | ok a => exact .pure a
  | error e => exact .throw rfl

theorem Provider.value_plain (p : Provider) (call : ProviderCall) :
    Action.Plain (p.value call) := by
  refine .bind (p.result_plain call) fun answer => ?_
  cases answer with
  | ok a => exact .pure a
  | error e => exact .throw rfl

theorem ofCatalog_plain (r : Except CatalogError α) : Action.Plain (ofCatalog r) := by
  cases r with
  | ok a => exact .pure a
  | error e => exact .throw rfl

theorem liveInstance_plain (id : String) : Action.Plain (liveInstance id) := by
  refine .bind (StoreCall.result_plain _) fun answer => ?_
  cases answer with
  | ok row => exact .pure row
  | error e => exact .throw (by split <;> rfl)

/-- What follows the look-up of a live instance finds it, unless the look-up fails. -/
theorem Acts.of_liveInstance_error {faults : Faults} {id : String} {f : InstanceRow → Action α}
    {s s' : Store} {asked : List Consultation} {e : BrokerError}
    (h : Acts faults (liveInstance id >>= f) s asked (.error e) s') :
    (∃ row, s.liveInstance? id = some row ∧ Acts faults (f row) s asked (.error e) s') ∨
      e.isLegacyPlan = false := by
  rcases Acts.of_storeExcept (liveInstance_eq id) h with ⟨time, followed⟩ | ⟨cause, -, failed⟩
  · rw [Store.step_getInstance, Store.getInstance] at followed
    cases found : s.liveInstance? id with
    | some row =>
      rw [found] at followed
      exact .inl ⟨row, rfl, followed⟩
    | none =>
      rw [found] at followed
      obtain ⟨-, same, -⟩ := Acts.of_throw followed
      cases same
      exact .inr rfl
  · obtain ⟨-, same, -⟩ := Acts.of_throw failed
    cases same
    have plain : (if cause.isNotFound then BrokerError.instanceDoesNotExist id
        else .store cause).isLegacyPlan = false := by
      split <;> rfl
    exact .inr plain

namespace Broker

variable (b : Broker) (now : Instant)

theorem checkInstanceLimit_plain : Action.Plain b.checkInstanceLimit := by
  unfold checkInstanceLimit
  cases b.instanceLimit with
  | none => exact .pure ()
  | some limit => exact .bind (StoreCall.value_plain _) fun _ => .require _ rfl

theorem claimInstance_plain (row : InstanceRow) (request : RequestRow) :
    Action.Plain (claimInstance row request) := by
  refine .bind (StoreCall.result_plain _) fun answer => ?_
  cases answer with
  | ok _ => exact .pure ()
  | error e => exact .throw (by split <;> rfl)

theorem provision_plain (id : String) (request : ProvisionRequest) (asyncAllowed : Bool) :
    Action.Plain (b.provision now id request asyncAllowed) := by
  refine .bind b.checkInstanceLimit_plain fun _ => ?_
  refine .bind (StoreCall.value_plain _) fun _ => ?_
  refine .bind (.require _ rfl) fun _ => ?_
  refine .bind (ofCatalog_plain _) fun (plan, provider) => ?_
  refine .bind (.require _ rfl) fun _ => ?_
  cases request.parameters with
  | error e => exact .throw rfl
  | ok fields =>
    refine .bind (claimInstance_plain _ _) fun _ => ?_
    refine .bind (provider.result_plain _) fun answer => ?_
    cases answer with
    | error e => exact .bind (StoreCall.result_plain _) fun _ => .throw rfl
    | ok metadata =>
      refine .bind (StoreCall.result_plain _) fun written => ?_
      cases written with
      | ok _ => exact .pure _
      | error e => exact .throw rfl

theorem checkDeletable_plain (row : InstanceRow) : Action.Plain (b.checkDeletable now row) := by
  unfold checkDeletable
  cases row.status with
  | deprovisioning => exact .throw rfl
  | pending => exact .require _ rfl
  | provisioning | active => exact .pure ()

theorem deprovision_plain (id : String) (request : DeprovisionRequest) (asyncAllowed : Bool) :
    Action.Plain (b.deprovision now id request asyncAllowed) := by
  refine .bind (liveInstance_plain id) fun row => ?_
  refine .bind (b.checkDeletable_plain now row) fun _ => ?_
  refine .bind (ofCatalog_plain _) fun provider => ?_
  refine .bind (.require _ rfl) fun _ => ?_
  refine .bind (provider.value_plain _) fun _ => ?_
  cases provider.deprovisionsAsync with
  | true | false =>
    refine .bind (StoreCall.result_plain _) fun written => ?_
    cases written with
    | ok _ => exact .pure _
    | error e => exact .throw rfl

theorem claimBinding_plain (row : BindingRow) : Action.Plain (claimBinding row) := by
  refine .bind (StoreCall.result_plain _) fun answer => ?_
  cases answer with
  | ok id => exact .pure id
  | error e => exact .throw (by split <;> rfl)

theorem bind_plain (id bindingId : String) (request : BindRequest) :
    Action.Plain (b.bind now id bindingId request) := by
  refine .bind (StoreCall.value_plain _) fun _ => ?_
  refine .bind (.require _ rfl) fun _ => ?_
  refine .bind (.require _ rfl) fun _ => ?_
  refine .bind (liveInstance_plain id) fun row => ?_
  refine .bind (.require _ rfl) fun _ => ?_
  refine .bind (ofCatalog_plain _) fun provider => ?_
  refine .bind (claimBinding_plain _) fun _ => ?_
  refine .bind (provider.result_plain _) fun answer => ?_
  cases answer with
  | error e => exact .bind (StoreCall.result_plain _) fun _ => .throw rfl
  | ok credentials =>
    refine .bind (StoreCall.result_plain _) fun written => ?_
    cases written with
    | error e => exact .throw rfl
    | ok _ => exact provider.value_plain _

theorem liveBinding_plain (id bindingId : String) : Action.Plain (liveBinding id bindingId) := by
  refine .bind (StoreCall.result_plain _) fun answer => ?_
  cases answer with
  | ok row => exact .pure row
  | error e => exact .throw (by split <;> rfl)

theorem unbind_plain (id bindingId : String) : Action.Plain (b.unbind now id bindingId) := by
  refine .bind (liveInstance_plain id) fun row => ?_
  refine .bind (liveBinding_plain id bindingId) fun binding => ?_
  cases binding.status with
  | pending => exact .bind (.require _ rfl) fun _ => StoreCall.value_plain _
  | active =>
    refine .bind (ofCatalog_plain _) fun provider => ?_
    refine .bind (provider.value_plain _) fun _ => ?_
    refine .bind (StoreCall.result_plain _) fun written => ?_
    cases written with
    | ok _ => exact .pure ()
    | error e => exact .throw rfl

theorem carryOut_plain (row : InstanceRow) (action : RecordAction) :
    Action.Plain (carryOut row action) := by
  cases action with
  | softDelete | markActive | markProvisioning => exact StoreCall.result_plain _
  | releaseClaim =>
    refine .bind (StoreCall.result_plain _) fun answer => ?_
    cases answer <;> exact .pure _

theorem settle_plain (row : InstanceRow) (outcome : PollOutcome) :
    Action.Plain (settle row outcome) := by
  simp only [settle]
  split
  · exact .pure _
  · refine .bind (carryOut_plain row _) fun written => ?_
    cases written <;> exact .pure _

theorem finishedWork_plain (provider : Provider) (row : InstanceRow) :
    Action.Plain (finishedWork provider row) := by
  unfold finishedWork
  cases WorkKind.inFlight row.status with
  | some kind => exact .pure _
  | none =>
    refine .bind (provider.result_plain _) fun answer => ?_
    cases answer <;> exact .pure _

theorem lastOperation_plain (id : String) : Action.Plain (b.lastOperation now id) := by
  refine .bind (liveInstance_plain id) fun row => ?_
  refine .bind (ofCatalog_plain _) fun provider => ?_
  refine .bind (.require _ rfl) fun _ => ?_
  split
  · exact .pure _
  refine .bind (provider.result_plain _) fun answer => ?_
  cases answer with
  | error e => exact settle_plain _ _
  | ok finished =>
    cases finished with
    | false => exact settle_plain _ _
    | true =>
      refine .bind (finishedWork_plain _ _) fun kind => ?_
      cases kind with
      | ok kind => exact settle_plain _ _
      | error e => exact .pure _

/-- A broker by itself never fails because of a legacy plan. -/
theorem perform_plain (op : Operation) : Action.Plain (b.perform now op) := by
  cases op with
  | provision id request asyncAllowed =>
    exact .bind (b.provision_plain now id request asyncAllowed) fun _ => .pure _
  | deprovision id request asyncAllowed =>
    exact .bind (b.deprovision_plain now id request asyncAllowed) fun _ => .pure _
  | bind id bindingId request =>
    exact .bind (b.bind_plain now id bindingId request) fun _ => .pure _
  | unbind id bindingId request => exact .bind (b.unbind_plain now id bindingId) fun _ => .pure _
  | update => exact .bind (.throw rfl) fun _ => .pure _
  | lastOperation id => exact .bind (b.lastOperation_plain now id) fun _ => .pure _

end Broker

end Plain

end Brokerage
