import Brokerage.Proofs.Subject

/-! What an error tells of the backend. An operation that fails though its provider did the work
says that something may be orphaned, and one that fails otherwise does not; save for a bind whose
credentials were issued and recorded and then could not be joined, which reports the provider's
error. -/

namespace Brokerage

theorem error_of_map {ε α β : Type} {f : α → β} {r : Except ε α} {e : ε}
    (failed : r.map f = .error e) : r = .error e := by
  cases r with
  | ok => cases failed
  | error => exact congrArg Except.error (Except.error.inj failed)

/-- A provider did the work of an operation of a kind. -/
def Worked (kind : OperationKind) (asked : List Consultation) : Prop :=
  ∃ c ∈ asked, c.call.work? = some kind ∧ ∃ value, c.answer = .ok value

theorem not_worked_of_declined {kind : OperationKind} {c : Consultation} {cause : ProviderError}
    (declined : c.answer = .error cause) : ¬ Worked kind [c] := by
  rintro ⟨c, hc, -, value, answer⟩
  obtain rfl := List.mem_singleton.mp hc
  cases declined.symm.trans answer

/-- What the error of an operation tells of its provider: it was not asked, it declined, or it did
the work. -/
inductive Told (kind : OperationKind) : List Consultation → BrokerError → Prop
  | unasked {e : BrokerError} (orphans : e.isOrphaning = false) : Told kind [] e
  | declined {c : Consultation} {cause : ProviderError} (work : c.call.work? = some kind)
      (answer : c.answer = .error cause) : Told kind [c] (.provider cause)
  | orphaned {c : Consultation} {e : BrokerError} {value : c.call.Value}
      (work : c.call.work? = some kind) (answer : c.answer = .ok value)
      (orphans : e.isOrphaning = true) : Told kind [c] e

namespace Told

variable {kind : OperationKind} {asked : List Consultation} {e : BrokerError}

theorem orphaning_iff (told : Told kind asked e) : e.isOrphaning = true ↔ Worked kind asked := by
  cases told with
  | unasked orphans =>
    rw [orphans]
    exact ⟨nofun, fun ⟨_, hc, _⟩ => nomatch hc⟩
  | declined _ answer => exact ⟨nofun, fun worked => absurd worked (not_worked_of_declined answer)⟩
  | orphaned work answer orphans =>
    exact ⟨fun _ => ⟨_, List.mem_cons_self, work, _, answer⟩, fun _ => orphans⟩

/-- An error that is not about an orphan is the one with which the provider declined, if it was
asked. -/
theorem of_plain (told : Told kind asked e) (plain : e.isOrphaning = false) {c : Consultation}
    (hc : c ∈ asked) : ∃ cause, c.answer = .error cause ∧ e = .provider cause := by
  cases told with
  | unasked => cases hc
  | declined _ answer =>
    obtain rfl := List.mem_singleton.mp hc
    exact ⟨_, answer, rfl⟩
  | orphaned _ _ orphans => cases plain.symm.trans orphans

end Told

namespace Broker

variable {b : Broker} {faults : Faults} {now : Instant} {s s' : Store} {asked : List Consultation}
  {e : BrokerError} {id bindingId : String}

/-! ### One operation -/

theorem Provisioning.told {request : ProvisionRequest} {asyncAllowed : Bool}
    (h : Provisioning b faults now id request asyncAllowed s asked (.error e) s') :
    Told .provision asked e := by
  cases h with
  | refused orphans => exact .unasked orphans
  | failed => exact .declined rfl rfl
  | orphaned => exact .orphaned rfl rfl rfl

theorem Deprovisioning.told {request : DeprovisionRequest} {asyncAllowed : Bool}
    (h : Deprovisioning b faults now id request asyncAllowed s asked (.error e) s') :
    Told .deprovision asked e := by
  cases h with
  | refused orphans => exact .unasked orphans
  | failed => exact .declined rfl rfl
  | orphaned => exact .orphaned rfl rfl rfl

theorem Unbinding.told (h : Unbinding b faults now id bindingId s asked (.error e) s') :
    Told .unbind asked e := by
  cases h with
  | refused orphans => exact .unasked orphans
  | failed => exact .declined rfl rfl
  | orphaned => exact .orphaned rfl rfl rfl

theorem Polling.told (h : Polling b faults now id s asked (.error e) s') :
    Told .lastOperation asked e := by
  cases h with
  | refused orphans => exact .unasked orphans

/-- A bind whose credentials were issued and recorded, and then could not be joined. -/
inductive Unjoined (b : Broker) (now : Instant) (instanceId bindingId : String)
    (request : BindRequest) (s : Store) : List Consultation → BrokerError → Store → Prop
  | failed {row : InstanceRow} {provider : Provider} {credentials : Fields}
      {cause : ProviderError} (saved : Instant)
      (may : b.MayBind instanceId bindingId request s row provider) :
      Unjoined b now instanceId bindingId request s
        [⟨reserved now instanceId bindingId row s, provider, .bind row bindingId request,
            .ok credentials⟩,
          ⟨issued now instanceId bindingId row credentials saved s, provider,
            .joinCredentials credentials row, .error cause⟩]
        (.provider cause) (issued now instanceId bindingId row credentials saved s)

theorem Unjoined.asked_length {request : BindRequest}
    (unjoined : Unjoined b now id bindingId request s asked e s') : asked.length = 2 := by
  cases unjoined
  rfl

theorem Binding.told {request : BindRequest} {r : Except BrokerError Fields}
    (h : Binding b faults now id bindingId request s asked r s') (failed : r = .error e) :
    Told .bind asked e ∨ Unjoined b now id bindingId request s asked e s' := by
  cases h with
  | refused orphans =>
    cases failed
    exact .inl (.unasked orphans)
  | failed =>
    cases failed
    exact .inl (.declined rfl rfl)
  | orphaned =>
    cases failed
    exact .inl (.orphaned rfl rfl rfl)
  | bound saved may answer =>
    cases answer with
    | ok joined => cases failed
    | error cause =>
      cases failed
      exact .inr (.failed saved may)

/-- What the error of an operation tells, unless it binds. -/
theorem Course.told {op : Operation} {r : Except BrokerError Response}
    (h : b.Course faults now s op asked r s') (failed : r = .error e) (kind : op.kind ≠ .bind) :
    Told op.kind asked e := by
  cases h with
  | provision h =>
    obtain rfl := error_of_map failed
    exact h.told
  | deprovision h =>
    obtain rfl := error_of_map failed
    exact h.told
  | bind => exact absurd rfl kind
  | unbind h =>
    obtain rfl := error_of_map failed
    exact h.told
  | update =>
    cases failed
    exact .unasked rfl
  | lastOperation h =>
    obtain rfl := error_of_map failed
    exact h.told

/-- Whatever fails, an operation other than a bind reports an orphan just if its provider did the
work and it failed all the same; any other error of it says that the provider was not asked to do
the work, or is the one with which the provider declined. -/
theorem orphaning_iff_worked {op : Operation} {r : Except BrokerError Response}
    (h : Acts faults (b.perform now op) s asked r s') (kind : op.kind ≠ .bind) :
    ((∃ e, r = .error e ∧ e.isOrphaning = true) ↔ Worked op.kind asked ∧ ∃ e, r = .error e) ∧
    ∀ e, r = .error e → e.isOrphaning = false → ∀ c ∈ asked, c.call.work? = some op.kind →
      ∃ cause, c.answer = .error cause ∧ e = .provider cause := by
  have told : ∀ e, r = .error e → Told op.kind asked e := fun e failed =>
    (Course.of_acts h).told failed kind
  refine ⟨⟨?_, ?_⟩, fun e failed plain c hc _ => (told e failed).of_plain plain hc⟩
  · rintro ⟨e, failed, orphans⟩
    exact ⟨(told e failed).orphaning_iff.mp orphans, e, failed⟩
  · rintro ⟨worked, e, failed⟩
    exact ⟨e, failed, (told e failed).orphaning_iff.mpr worked⟩

/-- A deletion that the provider began and that could not be recorded is reported. -/
theorem orphaning_iff_worked_deprovision :
    let row := (InstanceRow.claim 0 "i" "bucket" "small").withStatus .active
    let s : Store := { instances := [row] }
    let asked : List Consultation := [⟨s, Sample.provider, .deprovision row {}, .ok ()⟩]
    let e : BrokerError := .orphaned "instance" "i" "deprovision" (.constraint "locked")
    Acts .any (Sample.broker.perform 10 (.deprovision "i" {} true)) s asked (.error e) s ∧
      Worked .deprovision asked := by
  intro row s asked e
  have acted : Acts .any (Sample.broker.perform 10 (.deprovision "i" {} true)) s asked
      (.error e) s := by
    refine ⟨[⟨s, .store (.getInstance "i"), .ok row⟩,
      ⟨s, .provider Sample.provider (.deprovision row {}), .ok ()⟩,
      ⟨s, .store (.saveInstance (row.withStatus .deprovisioning)), .error (.constraint "locked")⟩],
      ?_, rfl⟩
    refine .ask (World.store 10 rfl) ?_
    refine .ask (World.provider _) ?_
    refine .ask (World.fault trivial) ?_
    exact .done
  have reported := (orphaning_iff_worked acted (by decide)).1
  obtain ⟨worked, -⟩ := reported.mp ⟨e, rfl, rfl⟩
  exact ⟨acted, worked⟩

end Broker

end Brokerage
