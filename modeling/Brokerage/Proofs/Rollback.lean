import Brokerage.Proofs.Orphans

/-! What is left of an operation that fails before its provider did the work. As long as the store
does not fail, no row of an instance, a binding or a plan is added, changed or lost; a provider that
was told to create an instance leaves the request for it; and an identifier that was claimed in vain
is free again. A bind that fails without a word of an orphan leaves a row in one case only. -/

namespace Brokerage

/-- An action on a store succeeds once the providers do what they are asked to do. -/
structure Succeeds {α : Type} (p : Action α) (s : Store) : Prop where
  always : ∀ {asked r s'}, Acts .none p s asked r s' →
    (∀ c ∈ asked, ∃ value, c.answer = .ok value) → ∃ a, r = .ok a
  possible : ∀ answers : (call : ProviderCall) → call.Value, ∃ asked a s',
    Acts .none p s asked (.ok a) s' ∧ ∀ c ∈ asked, c.answer = .ok (answers c.call)

theorem Succeeds.of_always {α : Type} {p : Action α} {s : Store}
    (always : ∀ {asked r s'}, Acts .none p s asked r s' →
      (∀ c ∈ asked, ∃ value, c.answer = .ok value) → ∃ a, r = .ok a) : Succeeds p s := by
  refine ⟨always, fun answers => ?_⟩
  obtain ⟨asked, r, s', acted, told⟩ : ∃ asked r s', Acts .none p s asked r s' ∧
      ∀ c ∈ asked, c.answer = .ok (answers c.call) :=
    Acts.exists_answered 0 (fun call => .ok (answers call)) p s
  obtain ⟨a, rfl⟩ := always acted fun c hc => ⟨_, told c hc⟩
  exact ⟨asked, a, s', acted, told⟩

/-- The rows of instances, bindings and plans are the same in two stores. -/
structure Store.SameRows (s s' : Store) : Prop where
  instances : s'.instances = s.instances
  bindings : s'.bindings = s.bindings
  plans : s'.plans = s.plans

namespace Broker

variable {b : Broker} {faults : Faults} {now : Instant} {s s' : Store} {asked : List Consultation}
  {e : BrokerError} {id bindingId : String}

/-! ### Trying again -/

theorem MayProvision.congr {request : ProvisionRequest} {asyncAllowed : Bool} {plan : Plan}
    {provider : Provider} (may : b.MayProvision id request asyncAllowed s plan provider)
    (same : s.SameRows s') : b.MayProvision id request asyncAllowed s' plan provider where
  room := by
    intro limit limited
    rw [Store.countAllInstances, same.instances]
    exact may.room limit limited
  fresh := (Store.row?_congr same.instances).trans may.fresh
  resolved := may.resolved
  async := may.async
  parameters := may.parameters

theorem MayBind.congr {request : BindRequest} {row : InstanceRow} {provider : Provider}
    (may : b.MayBind id bindingId request s row provider) (same : s.SameRows s') :
    b.MayBind id bindingId request s' row provider where
  vacant := by
    rw [Store.liveBinding?, same.bindings]
    exact may.vacant
  application := may.application
  live := by
    rw [Store.liveInstance?, same.instances]
    exact may.live
  active := may.active
  served := may.served

/-- What a provider may be told to create is created if the provider does so. -/
theorem MayProvision.succeeds {request : ProvisionRequest} {asyncAllowed : Bool} {plan : Plan}
    {provider : Provider} (may : b.MayProvision id request asyncAllowed s plan provider) :
    Succeeds (b.perform now (.provision id request asyncAllowed)) s := by
  refine .of_always fun h obliging => ?_
  obtain ⟨r, rfl, acted⟩ := Acts.of_map h
  cases Provisioning.of_acts acted with
  | refused _ cause =>
    have unable := cause.resolve_left Faults.not_possible_none
    exact absurd may (unable plan provider)
  | failed =>
    obtain ⟨_, ⟨⟩⟩ := obliging _ List.mem_cons_self
  | orphaned _ fault => exact absurd fault Faults.not_possible_none
  | created => exact ⟨_, rfl⟩

/-- What a provider may be told to issue credentials for gets them if the provider issues and joins
them. -/
theorem MayBind.succeeds {request : BindRequest} {row : InstanceRow} {provider : Provider}
    (may : b.MayBind id bindingId request s row provider) :
    Succeeds (b.perform now (.bind id bindingId request)) s := by
  refine .of_always fun h obliging => ?_
  obtain ⟨r, rfl, acted⟩ := Acts.of_map h
  cases Binding.of_acts acted with
  | refused _ cause =>
    have unable := cause.resolve_left Faults.not_possible_none
    exact absurd may (unable row provider)
  | failed =>
    obtain ⟨_, ⟨⟩⟩ := obliging _ List.mem_cons_self
  | orphaned _ fault => exact absurd fault Faults.not_possible_none
  | bound _ _ answer =>
    cases answer with
    | ok joined => exact ⟨_, rfl⟩
    | error cause =>
      obtain ⟨_, ⟨⟩⟩ := obliging _ (List.mem_cons_of_mem _ List.mem_cons_self)

/-! ### Failed operations -/

/-- What is left of an operation that failed before its provider did the work. The number of a
binding that was released is not given again. -/
inductive Undone (b : Broker) (now : Instant) (s : Store) :
    Operation → List Consultation → Store → Prop
  | unasked {op : Operation} : Undone b now s op [] s
  | declined {op : Operation} {c : Consultation} (work : c.call.work? ≠ some .provision)
      (idle : op.kind ≠ .provision ∧ op.kind ≠ .bind) : Undone b now s op [c] s
  | uncreated {id : String} {request : ProvisionRequest} {asyncAllowed : Bool} {plan : Plan}
      {provider : Provider} {c : Consultation} (work : c.call.work? = some .provision)
      (may : b.MayProvision id request asyncAllowed s plan provider) :
      Undone b now s (.provision id request asyncAllowed) [c] (requested now id request s)
  | unissued {id bindingId : String} {request : BindRequest} {row : InstanceRow}
      {provider : Provider} {c : Consultation} (work : c.call.work? = some .bind)
      (may : b.MayBind id bindingId request s row provider) :
      Undone b now s (.bind id bindingId request) [c]
        { s with lastBindingId := s.lastBindingId + 1 }

section Sound

variable (sound : ¬ faults.Possible)
include sound

theorem Provisioning.undone {request : ProvisionRequest} {asyncAllowed : Bool}
    (h : Provisioning b faults now id request asyncAllowed s asked (.error e) s') :
    Undone b now s (.provision id request asyncAllowed) asked s' := by
  cases h with
  | refused => exact .unasked
  | failed may released =>
    obtain rfl := released.resolve_right fun fault => sound fault.1
    exact .uncreated rfl may
  | orphaned _ fault => exact absurd fault sound

theorem Deprovisioning.undone {request : DeprovisionRequest} {asyncAllowed : Bool}
    (h : Deprovisioning b faults now id request asyncAllowed s asked (.error e) s') :
    Undone b now s (.deprovision id request asyncAllowed) asked s' := by
  cases h with
  | refused => exact .unasked
  | failed => exact .declined nofun ⟨nofun, nofun⟩
  | orphaned _ fault => exact absurd fault sound

theorem Binding.undone {request : BindRequest} {r : Except BrokerError Fields}
    (h : Binding b faults now id bindingId request s asked r s') (numbers : s.NumberedBindings)
    (failed : r = .error e) (idle : ¬ Worked .bind asked) :
    Undone b now s (.bind id bindingId request) asked s' := by
  cases h with
  | refused => exact .unasked
  | failed may released =>
    obtain rfl := released.resolve_right fun fault => sound fault.1
    rw [reserved, Store.releaseBindingClaim_withBinding numbers rfl]
    exact .unissued rfl may
  | orphaned _ fault => exact absurd fault sound
  | bound => exact absurd ⟨_, List.mem_cons_self, rfl, _, rfl⟩ idle

theorem Unbinding.undone {request : UnbindRequest}
    (h : Unbinding b faults now id bindingId s asked (.error e) s') :
    Undone b now s (.unbind id bindingId request) asked s' := by
  cases h with
  | refused => exact .unasked
  | failed => exact .declined nofun ⟨nofun, nofun⟩
  | orphaned _ fault => exact absurd fault sound

theorem Course.undone {op : Operation} {r : Except BrokerError Response}
    (h : b.Course faults now s op asked r s') (numbers : s.NumberedBindings)
    (failed : r = .error e) (idle : ¬ Worked op.kind asked) : Undone b now s op asked s' := by
  cases h with
  | provision h =>
    obtain rfl := error_of_map failed
    exact h.undone sound
  | deprovision h =>
    obtain rfl := error_of_map failed
    exact h.undone sound
  | bind h => exact h.undone sound numbers (error_of_map failed) idle
  | unbind h =>
    obtain rfl := error_of_map failed
    exact h.undone sound
  | update => exact .unasked
  | lastOperation h =>
    obtain rfl := error_of_map failed
    cases h with
    | refused => exact .unasked

end Sound

namespace Undone

variable {op : Operation}

theorem sameRows (h : Undone b now s op asked s') : s.SameRows s' := by
  cases h <;> exact ⟨rfl, rfl, rfl⟩

theorem requests (h : Undone b now s op asked s') :
    ((∀ c ∈ asked, c.call.work? ≠ some .provision) → s'.requests = s.requests) ∧
    ∀ c ∈ asked, c.call.work? = some .provision →
      ∃ request, request.instanceId = op.instanceId ∧ s'.requests = s.requests ++ [request] := by
  cases h with
  | unasked => exact ⟨fun _ => rfl, List.forall_mem_nil _⟩
  | declined other =>
    refine ⟨fun _ => rfl, fun c hc work => ?_⟩
    obtain rfl := List.mem_singleton.mp hc
    exact absurd work other
  | uncreated work =>
    refine ⟨fun none => absurd work (none _ List.mem_cons_self), fun _ _ _ => ?_⟩
    exact ⟨_, rfl, rfl⟩
  | unissued issuing =>
    refine ⟨fun _ => rfl, fun c hc work => ?_⟩
    obtain rfl := List.mem_singleton.mp hc
    cases work.symm.trans issuing

/-- A claim that was released can be made again. -/
theorem succeeds (h : Undone b now s op asked s') (claims : op.kind = .provision ∨ op.kind = .bind)
    (heard : asked ≠ []) (later : Instant) : Succeeds (b.perform later op) s' := by
  have same := h.sameRows
  cases h with
  | unasked => exact absurd rfl heard
  | declined _ idle => exact (claims.elim idle.1 idle.2).elim
  | uncreated _ may => exact (may.congr same).succeeds
  | unissued _ may => exact (may.congr same).succeeds

end Undone

/-- An operation that fails before its provider did the work leaves the instances, the bindings and
the plans as they were, and the requests too, save for the one that stands for an instance that the
provider was told to create. A creation or a bind that the provider declined succeeds when it is
tried again and the provider then does as it is asked. -/
theorem failed_leaves_no_trace {op : Operation} (numbers : s.NumberedBindings)
    (h : Acts .none (b.perform now op) s asked (.error e) s') (idle : ¬ Worked op.kind asked) :
    s.SameRows s' ∧
    ((∀ c ∈ asked, c.call.work? ≠ some .provision) → s'.requests = s.requests) ∧
    (∀ c ∈ asked, c.call.work? = some .provision →
      ∃ request, request.instanceId = op.instanceId ∧ s'.requests = s.requests ++ [request]) ∧
    ((op.kind = .provision ∨ op.kind = .bind) → asked ≠ [] →
      ∀ later, Succeeds (b.perform later op) s') := by
  have undone := (Course.of_acts h).undone Faults.not_possible_none numbers rfl idle
  exact ⟨undone.sameRows, undone.requests.1, undone.requests.2, undone.succeeds⟩

/-- A creation that the provider declined can be asked for again. -/
theorem failed_leaves_no_trace_declined :
    let request : ProvisionRequest := { serviceId := "bucket", planId := "small" }
    let op : Operation := .provision "i" request true
    let claimed := claimed 0 "i" request Sample.plan .empty
    let asked : List Consultation := [⟨claimed, Sample.provider,
      .provision "i" request Sample.plan, .error (.unavailable "busy")⟩]
    let s' := requested 0 "i" request .empty
    Acts .none (Sample.broker.perform 0 op) .empty asked
        (.error (.provider (.unavailable "busy"))) s' ∧
      s'.instances = [] ∧ (∃ request, request.instanceId = "i" ∧ s'.requests = [request]) ∧
      ∀ later, Succeeds (Sample.broker.perform later op) s' := by
  intro request op claimed asked s'
  have acted : Acts .none (Sample.broker.perform 0 op) .empty asked
      (.error (.provider (.unavailable "busy"))) s' := by
    refine ⟨[⟨.empty, .store (.countInstances "i"), .ok 0⟩,
      ⟨.empty, .store (.claimInstance (claim 0 "i" request Sample.plan)
        (.of 0 "i" request.toJson)), .ok 1⟩,
      ⟨claimed, .provider Sample.provider (.provision "i" request Sample.plan),
        .error (.unavailable "busy")⟩,
      ⟨claimed, .store (.releaseInstanceClaim "i"), .ok true⟩], ?_, rfl⟩
    refine .ask (World.store 0 rfl) ?_
    refine .ask (World.store 0 rfl) ?_
    refine .ask (World.provider _) ?_
    refine .ask (World.store 0 rfl) ?_
    exact .done
  have numbers : Store.empty.NumberedBindings := List.forall_mem_nil _
  obtain ⟨same, -, requested, again⟩ :=
    failed_leaves_no_trace numbers acted (not_worked_of_declined rfl)
  exact ⟨acted, same.instances, requested _ List.mem_cons_self rfl,
    again (.inl rfl) (List.cons_ne_nil _ _)⟩

/-! ### Binds -/

/-- A bind whose error is not about an orphan had no credentials issued, and leaves the bindings as
they are unless the store fails; or its credentials are recorded, and it could not join them. -/
theorem bind_idle_or_unjoined {request : BindRequest} (numbers : s.NumberedBindings)
    (h : Acts faults (b.perform now (.bind id bindingId request)) s asked (.error e) s')
    (plain : e.isOrphaning = false) :
    ¬ Worked .bind asked ∧ (¬ faults.Possible → s'.bindings = s.bindings) ∨
      Unjoined b now id bindingId request s asked e s' := by
  obtain ⟨r, failed, acted⟩ := Acts.of_map h
  have course := Binding.of_acts acted
  have failed := error_of_map failed.symm
  refine (course.told failed).imp_left fun told => ?_
  have idle : ¬ Worked .bind asked := fun worked =>
    Bool.eq_false_iff.mp plain (told.orphaning_iff.mpr worked)
  exact ⟨idle, fun sound => (course.undone sound numbers failed idle).sameRows.bindings⟩

/-- Credentials that the provider declines to issue leave no binding behind. -/
theorem bind_idle_or_unjoined_declined :
    let row := (InstanceRow.claim 0 "i" "bucket" "small").withStatus .active
    let s : Store := { instances := [row] }
    let reserved := reserved 20 "i" "j" row s
    let asked : List Consultation := [⟨reserved, Sample.provider,
      .bind row "j" { appGuid? := some "app" }, .error (.unavailable "busy")⟩]
    let e : BrokerError := .provider (.unavailable "busy")
    let s' : Store := { s with lastBindingId := 1 }
    Acts .none (Sample.broker.perform 20 (.bind "i" "j" { appGuid? := some "app" })) s asked
        (.error e) s' ∧
      e.isOrphaning = false ∧ ¬ Worked .bind asked ∧ s'.bindings = s.bindings := by
  intro row s reserved asked e s'
  have acted : Acts .none (Sample.broker.perform 20 (.bind "i" "j" { appGuid? := some "app" })) s
      asked (.error e) s' := by
    refine ⟨[⟨s, .store (.countBindings "i" "j"), .ok 0⟩,
      ⟨s, .store (.getInstance "i"), .ok row⟩,
      ⟨s, .store (.createBinding (.claim 20 "i" "j" "bucket")), .ok 1⟩,
      ⟨reserved, .provider Sample.provider (.bind row "j" { appGuid? := some "app" }),
        .error (.unavailable "busy")⟩,
      ⟨reserved, .store (.releaseBindingClaim 1), .ok true⟩], ?_, rfl⟩
    refine .ask (World.store 20 rfl) ?_
    refine .ask (World.store 20 rfl) ?_
    refine .ask (World.store 20 rfl) ?_
    refine .ask (World.provider _) ?_
    refine .ask (World.store 20 rfl) ?_
    exact .done
  have numbers : s.NumberedBindings := List.forall_mem_nil _
  rcases bind_idle_or_unjoined numbers acted rfl with ⟨idle, kept⟩ | unjoined
  · exact ⟨acted, rfl, idle, kept Faults.not_possible_none⟩
  · exact absurd unjoined.asked_length (by decide)

theorem details_unreadable {row : InstanceRow} (text : row.otherDetails = "\x7b") :
    row.details = .error (.malformed "other_details" .unreadable) := by
  have blank : Text.isBlank "\x7b" = false := by decide +kernel
  have unread : Fields.read? "\x7b" = none := Option.isNone_iff_eq_none.mp (by decide +kernel)
  rw [InstanceRow.details, text, readColumn, blank, unread]
  rfl

/-- Where the metadata of an instance cannot be read, a bind reports the provider's error though
credentials were issued and are recorded. -/
theorem bind_unjoined_malformed :
    let row : InstanceRow :=
      { (InstanceRow.claim 0 "i" "bucket" "small").withStatus .active with otherDetails := "\x7b" }
    let s : Store := { instances := [row] }
    let credentials : Fields := [("user", .str "reader")]
    let bound := issued 20 "i" "j" row credentials 20 s
    let asked : List Consultation := [
      ⟨reserved 20 "i" "j" row s, Sample.provider, .bind row "j" { appGuid? := some "app" },
        .ok credentials⟩,
      ⟨bound, Sample.provider, .joinCredentials credentials row, joinPlain credentials row⟩]
    ∃ e, Acts .none (Sample.broker.perform 20 (.bind "i" "j" { appGuid? := some "app" })) s asked
        (.error e) bound ∧
      e.isOrphaning = false ∧ Worked .bind asked ∧ bound.bindings ≠ s.bindings := by
  intro row s credentials bound asked
  let cause := ProviderError.other (StoreError.malformed "other_details" .unreadable).message
  have unreadable : joinPlain credentials row = .error cause := by
    rw [joinPlain, joinCredentials, details_unreadable rfl]
    rfl
  refine ⟨.provider cause, ?_, rfl, ⟨_, List.mem_cons_self, rfl, credentials, rfl⟩, by decide⟩
  refine ⟨[⟨s, .store (.countBindings "i" "j"), .ok 0⟩,
    ⟨s, .store (.getInstance "i"), .ok row⟩,
    ⟨s, .store (.createBinding (.claim 20 "i" "j" "bucket")), .ok 1⟩,
    ⟨reserved 20 "i" "j" row s, .provider Sample.provider
      (.bind row "j" { appGuid? := some "app" }), .ok credentials⟩,
    ⟨reserved 20 "i" "j" row s, .store (.saveBinding (issuedRow 20 "i" "j" row 1 credentials)),
      .ok ()⟩,
    ⟨bound, .provider Sample.provider (.joinCredentials credentials row),
      joinPlain credentials row⟩], ?_, rfl⟩
  refine .ask (World.store 20 rfl) ?_
  refine .ask (World.store 20 rfl) ?_
  refine .ask (World.store 20 rfl) ?_
  refine .ask (World.provider _) ?_
  refine .ask (World.store 20 rfl) ?_
  refine .ask (World.provider _) ?_
  rw [unreadable]
  exact .done

end Broker

end Brokerage
