import Brokerage.Proofs.Broker.Upgrade
import Brokerage.Proofs.Json.Decoding
import Brokerage.Proofs.Json.RoundTrip

/-! The log of requests. Rows are only ever added to it, one for each call that logs a request and
succeeds; no operation makes two such calls. A provision that comes to its provider has logged its
request last, and the row is read as that request. -/

namespace Brokerage

/-! ### What calls log -/

/-- The row that a call has logged, by the answer to it. -/
def StoreCall.logged? : (call : StoreCall) → Except StoreError call.Value → Option RequestRow
  | claimInstance _ request, .ok number => some { request with id := number }
  | createRequest request, .ok number => some { request with id := number }
  | _, _ => none

theorem StoreCall.logged?_of_error (call : StoreCall) (e : StoreError) :
    call.logged? (.error e) = none := by
  cases call <;> rfl

theorem StoreCall.logged?_of_query {call : StoreCall} (asks : call.isQuery = true)
    (answer : Except StoreError call.Value) : call.logged? answer = none := by
  cases call <;> first | rfl | cases asks

theorem Store.Effect.requests {s s' : Store} {now : Instant} {call : StoreCall}
    {value : call.Value} (effect : s.Effect now call value s') :
    s'.requests = s.requests ++ (call.logged? (.ok value)).toList := by
  cases effect with
  | query asks => rw [StoreCall.logged?_of_query asks, Option.toList_none, List.append_nil]
  | claimInstance | createRequest => rfl
  | createInstance | saveInstance | softDeleteInstance | releaseInstanceClaim | createBinding
  | saveBinding | releaseBindingClaim | softDeleteBinding | createPlan =>
    exact (List.append_nil _).symm

/-- The row that an exchange has logged. -/
def loggedIn? : Exchange brokerInterface Store → Option RequestRow
  | ⟨_, .store call, answer⟩ => call.logged? answer
  | ⟨_, .provider _ _, _⟩ => none

theorem World.requests {faults : Faults} {call : BrokerCall} {s s' : Store} {answer : call.Answer}
    (answered : World faults call s answer s') :
    s'.requests = s.requests ++ (loggedIn? ⟨s, call, answer⟩).toList := by
  cases answered with
  | @store s s' call answer now step =>
    rcases s.step_cases now call with ⟨e, failed⟩ | ⟨value, t, succeeded, effect⟩
    · cases step.symm.trans failed
      rw [loggedIn?, StoreCall.logged?_of_error, Option.toList_none, List.append_nil]
    · cases step.symm.trans succeeded
      exact effect.requests
  | fault => rw [loggedIn?, StoreCall.logged?_of_error, Option.toList_none, List.append_nil]
  | provider => exact (List.append_nil _).symm

/-- A program adds to the log what its calls have logged, in their order. -/
theorem requests_of_runs {faults : Faults} {α : Type} {p : Program brokerInterface α}
    {s s' : Store} {trace : List (Exchange brokerInterface Store)} {a : α}
    (runs : Program.Runs (World faults) p s trace a s') :
    s'.requests = s.requests ++ trace.filterMap loggedIn? := by
  induction runs with
  | done => exact (List.append_nil _).symm
  | ask answered rest ih =>
    rw [ih, World.requests answered, List.append_assoc, List.filterMap_cons]
    cases loggedIn? _ <;> rfl

/-! ### What operations log -/

namespace Broker

variable {b : Broker} {faults : Faults} {now : Instant} {id : String} {s s' : Store}
  {asked : List Consultation}

/-- The row of a request that a provision logs. -/
def loggedRow (now : Instant) (id : String) (request : ProvisionRequest) (s : Store) : RequestRow :=
  { RequestRow.of now id request.toJson with id := s.lastRequestId + 1 }

theorem Provisioning.requests {request : ProvisionRequest} {asyncAllowed : Bool}
    {r : Except BrokerError Bool}
    (h : Provisioning b faults now id request asyncAllowed s asked r s') :
    asked = [] ∧ s'.requests = s.requests ∨
      asked ≠ [] ∧ s'.requests = s.requests ++ [loggedRow now id request s] := by
  cases h with
  | refused => exact .inl ⟨rfl, rfl⟩
  | failed may released =>
    refine .inr ⟨List.cons_ne_nil _ _, ?_⟩
    rcases released with rfl | ⟨-, rfl⟩ <;> rfl
  | orphaned | created => exact .inr ⟨List.cons_ne_nil _ _, rfl⟩

/-- No operation logs more than one request. -/
theorem Course.requests {op : Operation} {r : Except BrokerError Response}
    (h : b.Course faults now s op asked r s') :
    ∃ rows : List RequestRow, rows.length ≤ 1 ∧ s'.requests = s.requests ++ rows := by
  have kept : s'.requests = s.requests →
      ∃ rows : List RequestRow, rows.length ≤ 1 ∧ s'.requests = s.requests ++ rows :=
    fun same => ⟨[], Nat.zero_le 1, by rw [same, List.append_nil]⟩
  cases h with
  | provision h =>
    rcases h.requests with ⟨-, same⟩ | ⟨-, logged⟩
    · exact kept same
    · exact ⟨[_], Nat.le_refl 1, logged⟩
  | deprovision h => cases h <;> exact kept rfl
  | bind h =>
    cases h with
    | refused | orphaned | bound => exact kept rfl
    | failed _ released => rcases released with rfl | ⟨-, rfl⟩ <;> exact kept rfl
  | unbind h => cases h <;> exact kept rfl
  | update => exact kept rfl
  | lastOperation h =>
    cases h with
    | refused | young | undetermined => exact kept rfl
    | settled _ _ settled =>
      cases settled with
      | idle | unwritten => exact kept rfl
      | @written action => cases action <;> exact kept rfl

end Broker

theorem Upgrader.Course.requests {u : Upgrader} {faults : Faults} {now : Instant} {s s' : Store}
    {op : Operation} {asked : List Consultation} {r : Except BrokerError Response}
    (h : u.Course faults now s op asked r s') :
    ∃ rows : List RequestRow, rows.length ≤ 1 ∧ s'.requests = s.requests ++ rows := by
  cases h with
  | served h => exact h.requests
  | declined | moved => exact ⟨[], Nat.zero_le 1, (List.append_nil _).symm⟩

theorem Deployment.requests {d : Deployment} {faults : Faults} {now : Instant} {s s' : Store}
    {op : Operation} {asked : List Consultation} {r : Except BrokerError Response}
    (acts : Acts faults (d.perform now op) s asked r s') :
    ∃ rows : List RequestRow, rows.length ≤ 1 ∧ s'.requests = s.requests ++ rows := by
  cases d with
  | bare b => exact (Broker.Course.of_acts acts).requests
  | upgrading u => exact (Upgrader.Course.of_acts acts).requests

/-- The provision that an operation of a deployment is, if it comes to a provider. -/
theorem Deployment.provisioning {d : Deployment} {faults : Faults} {now : Instant} {s s' : Store}
    {id : String} {request : ProvisionRequest} {asyncAllowed : Bool} {asked : List Consultation}
    {r : Except BrokerError Response} (heard : asked ≠ [])
    (acts : Acts faults (d.perform now (.provision id request asyncAllowed)) s asked r s') :
    ∃ b r, Broker.Provisioning b faults now id request asyncAllowed s asked r s' := by
  cases d with
  | bare b =>
    have acts : Acts faults (b.perform now (.provision id request asyncAllowed)) s asked r s' := acts
    cases Broker.Course.of_acts acts with
    | provision h => exact ⟨b, _, h⟩
  | upgrading u =>
    have acts : Acts faults (u.perform now (.provision id request asyncAllowed)) s asked r s' := acts
    cases Upgrader.Course.of_acts acts with
    | declined => exact absurd rfl heard
    | served h =>
      cases h with
      | provision h => exact ⟨u.broker, _, h⟩

/-! ### Undertakings -/

/-- What may be done with a store: one call, or an operation of a broker. -/
inductive Deed where
  | call (call : StoreCall)
  | operation (deployment : Deployment) (now : Instant) (op : Operation)

/-- A deed as it was done, with the calls that it came to. -/
structure Undertaking where
  deed : Deed
  before : Store
  trace : List (Exchange brokerInterface Store)
  after : Store

namespace Undertaking

/-- The rows that an undertaking has logged for an instance: one for each claim of an instance and
each call to log a request which succeeded in it and whose request names the instance. -/
def loggedFor (u : Undertaking) (id : String) : List RequestRow :=
  (u.trace.filterMap loggedIn?).filter (·.instanceId = id)

/-- The ways in which a deed may be done. -/
inductive Done (faults : Faults) : Undertaking → Prop
  | call {call : StoreCall} {s s' : Store} {trace : List (Exchange brokerInterface Store)}
      {r : Except BrokerError (Except StoreError call.Value)}
      (runs : Fallible.Runs (World faults) call.result s trace r s') :
      Done faults ⟨.call call, s, trace, s'⟩
  | operation {d : Deployment} {now : Instant} {op : Operation} {s s' : Store}
      {trace : List (Exchange brokerInterface Store)} {r : Except BrokerError Response}
      (runs : Fallible.Runs (World faults) (d.perform now op) s trace r s') :
      Done faults ⟨.operation d now op, s, trace, s'⟩

variable {faults : Faults} {u : Undertaking}

/-- What an undertaking has logged is added to the log, and is one row at most. -/
theorem Done.requests (done : u.Done faults) :
    u.after.requests = u.before.requests ++ u.trace.filterMap loggedIn? ∧
      (u.trace.filterMap loggedIn?).length ≤ 1 := by
  cases done with
  | @call call s s' trace r runs =>
    refine ⟨requests_of_runs runs, ?_⟩
    have asked : Program.Runs (I := brokerInterface) (World faults)
      (.ask (BrokerCall.store call) fun answer => .done (.ok answer)) s trace r s' := runs
    cases asked with
    | ask _ rest =>
      cases rest
      exact List.length_filterMap_le _ _
  | operation runs =>
    -- The trace tells which rows were logged, and the course of the operation how many.
    have logged := requests_of_runs runs
    obtain ⟨rows, few, same⟩ := Deployment.requests ⟨_, runs, rfl⟩
    rw [List.append_cancel_left (logged.symm.trans same)]
    exact ⟨same, few⟩

theorem Done.requestsOf (done : u.Done faults) (id : String) :
    u.loggedFor id = [] ∧ u.after.requestsOf id = u.before.requestsOf id ∨
      ∃ row, u.loggedFor id = [row] ∧
        u.after.requestsOf id = u.before.requestsOf id ++ [row] := by
  obtain ⟨logged, few⟩ := done.requests
  have added : u.after.requestsOf id = u.before.requestsOf id ++ u.loggedFor id := by
    rw [Store.requestsOf, logged, List.filter_append, loggedFor, Store.requestsOf]
  have fewer : (u.loggedFor id).length ≤ 1 :=
    Nat.le_trans (List.length_filter_le _ _) few
  cases rows : u.loggedFor id with
  | nil => exact .inl ⟨rfl, by rw [added, rows, List.append_nil]⟩
  | cons row rest =>
    rw [rows] at fewer
    obtain rfl : rest = [] := List.eq_nil_of_length_eq_zero (by simpa using fewer)
    exact .inr ⟨row, rfl, by rw [added, rows]⟩

/-- A provision that came to a provider has logged its request last. -/
theorem Done.last_request {d : Deployment} {now : Instant} {id : String}
    {request : ProvisionRequest} {asyncAllowed : Bool} (done : u.Done faults)
    (deed : u.deed = .operation d now (.provision id request asyncAllowed))
    (heard : Consultation.ofTrace u.trace ≠ []) :
    (u.after.requestsOf id).getLast? = some (Broker.loggedRow now id request u.before) := by
  cases done with
  | call => cases deed
  | @operation d' now' op s s' trace r runs =>
    cases deed
    obtain ⟨b, r, provisioning⟩ := Deployment.provisioning heard ⟨trace, runs, rfl⟩
    rcases provisioning.requests with ⟨none, -⟩ | ⟨-, logged⟩
    · exact absurd none heard
    · have own : [Broker.loggedRow now id request s].filter (·.instanceId = id) =
          [Broker.loggedRow now id request s] := List.filter_cons_of_pos (decide_eq_true rfl)
      rw [Store.requestsOf, logged, List.filter_append, own, List.getLast?_concat]

end Undertaking

/-- Undertakings one after another, from a store to a store. -/
inductive Undertakings (faults : Faults) : Store → List Undertaking → Store → Prop
  | start {s : Store} : Undertakings faults s [] s
  | next {u : Undertaking} {later : List Undertaking} {s : Store} (done : u.Done faults)
      (rest : Undertakings faults u.after later s) : Undertakings faults u.before (u :: later) s

/-- The row that is logged for a request is read as the request, with null parameters absent. -/
theorem Broker.read_loggedRow (now : Instant) (id : String) (request : ProvisionRequest) (s : Store)
    (plain : ∀ v, request.parameters? = some v → v.Plain 126) :
    ∃ v, Json.read? (loggedRow now id request s).requestDetails = some v ∧
      ProvisionRequest.ofJson v =
        .ok { request with parameters? := Json.present? request.parameters? } := by
  have written : (loggedRow now id request s).requestDetails = (Json.obj request.fields).text :=
    congrArg Json.text request.toJson_eq
  rw [written]
  refine ⟨_, Json.read?_text_obj fun p hp => ?_, request.ofJson_fields⟩
  rcases request.text_or_parameters p hp with ⟨-, given⟩ | ⟨text, isText⟩
  · exact plain p.2 given
  · rw [isText]
    exact .str text

/-- The log of requests for an instance only ever grows, whatever calls are made and whatever brokers
do. An undertaking adds to it just what its calls have logged, which is one row at most. After a
provision that came to a provider, the last row is read as its request. -/
theorem requests_logged {faults : Faults} {h : List Undertaking} {s t : Store}
    (run : Undertakings faults s h t) :
    (∀ id, s.requestsOf id <+: t.requestsOf id) ∧
    ∀ u ∈ h, (∀ id, u.loggedFor id = [] ∧ u.after.requestsOf id = u.before.requestsOf id ∨
        ∃ row, u.loggedFor id = [row] ∧
          u.after.requestsOf id = u.before.requestsOf id ++ [row]) ∧
      ∀ d now id request asyncAllowed,
        u.deed = .operation d now (.provision id request asyncAllowed) →
        Consultation.ofTrace u.trace ≠ [] →
        (∀ v, request.parameters? = some v → v.Plain 126) →
        ∃ row v, (u.after.requestsOf id).getLast? = some row ∧
          Json.read? row.requestDetails = some v ∧ ProvisionRequest.ofJson v =
            .ok { request with parameters? := Json.present? request.parameters? } := by
  induction run with
  | start => exact ⟨fun _ => List.prefix_refl _, List.forall_mem_nil _⟩
  | @next u later t done _ ih =>
    refine ⟨fun id => ?_, List.forall_mem_cons.mpr ⟨⟨done.requestsOf, ?_⟩, ih.2⟩⟩
    · have first : u.before.requestsOf id <+: u.after.requestsOf id := by
        rcases done.requestsOf id with ⟨-, same⟩ | ⟨row, -, added⟩
        · exact same ▸ List.prefix_refl _
        · exact added ▸ List.prefix_append _ _
      exact first.trans (ih.1 id)
    · intro d now id request asyncAllowed deed heard plain
      obtain ⟨v, read, decoded⟩ := Broker.read_loggedRow now id request u.before plain
      exact ⟨_, v, done.last_request deed heard, read, decoded⟩

/-- An instance that is made with parameters, and a further request for it that is logged and then
released in vain. -/
theorem requests_logged_parameters :
    let request : ProvisionRequest :=
      { Sample.request with parameters? := some (.obj [("size", .ofNat 3)]) }
    let row := Broker.claim 0 "i" request Sample.plan
    let claimed := Broker.claimed 0 "i" request Sample.plan .empty
    let made := (Broker.requested 0 "i" request .empty).withInstance
      (Store.overwriteInstance 0 (Broker.provisionedRow row {} false) row)
    let other : RequestRow := .of 5 "i" Sample.request.toJson
    let provision : Undertaking :=
      ⟨.operation (.bare Sample.promptBroker) 0 (.provision "i" request false), .empty,
        [⟨.empty, .store (.countInstances "i"), .ok 0⟩,
          ⟨.empty, .store (.claimInstance row (.of 0 "i" request.toJson)), .ok 1⟩,
          ⟨claimed, .provider Sample.promptProvider (.provision "i" request Sample.plan), .ok {}⟩,
          ⟨claimed, .store (.saveInstance (Broker.provisionedRow row {} false)), .ok ()⟩], made⟩
    let note : Undertaking := ⟨.call (.createRequest other), made,
      [⟨made, .store (.createRequest other), .ok 2⟩], made.withRequest other⟩
    let release : Undertaking := ⟨.call (.releaseInstanceClaim "i"), made.withRequest other,
      [⟨made.withRequest other, .store (.releaseInstanceClaim "i"), .ok false⟩],
      made.withRequest other⟩
    Undertakings .none .empty [provision, note, release] (made.withRequest other) ∧
      (∃ row, note.loggedFor "i" = [row] ∧
        (made.withRequest other).requestsOf "i" = made.requestsOf "i" ++ [row]) ∧
      ∃ row v, (made.requestsOf "i").getLast? = some row ∧
        Json.read? row.requestDetails = some v ∧ ProvisionRequest.ofJson v = .ok request := by
  intro request row claimed made other provision note release
  have provisioned : provision.Done .none := by
    refine .operation (r := .ok (.provisioned false)) ?_
    refine .ask (World.store 0 rfl) ?_
    refine .ask (World.store 0 rfl) ?_
    refine .ask (World.provider _) ?_
    refine .ask (World.store 0 rfl) ?_
    exact .done
  have noted : note.Done .none := .call (.ask (World.store 5 rfl) .done)
  have released : release.Done .none := .call (.ask (World.store 6 rfl) .done)
  have run : Undertakings .none .empty [provision, note, release] (made.withRequest other) :=
    .next (u := provision) provisioned (.next (u := note) noted
      (.next (u := release) released .start))
  have plain : ∀ v, request.parameters? = some v → v.Plain 126 := by
    rintro v ⟨⟩
    refine .obj (List.pairwise_singleton _ _) (List.forall_mem_singleton.mpr ?_)
    exact .whole (by decide) (by decide)
  obtain ⟨-, along⟩ := requests_logged run
  obtain ⟨-, read⟩ := along provision (by simp)
  obtain ⟨logs, -⟩ := along note (by simp)
  refine ⟨run, ?_, read _ 0 "i" request false rfl (by decide) plain⟩
  rcases logs "i" with ⟨none, -⟩ | logged
  · cases none
  · exact logged

end Brokerage
