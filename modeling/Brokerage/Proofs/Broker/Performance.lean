import Brokerage.Proofs.Broker.Binding
import Brokerage.Proofs.Broker.Poll
import Brokerage.Proofs.Schema.Levels
import Brokerage.Proofs.Store.Keys
import Brokerage.Schema.Database
import Brokerage.Session

/-! Histories: operations of a broker performed one after another. Each takes a course of its own
operation; what every store call keeps holds along any history. -/

namespace Brokerage

namespace Acts

variable {faults : Faults} {α β : Type} {s s' : Store} {asked : List Consultation}

theorem of_map {p : Action α} {g : α → β} {r : Except BrokerError β}
    (h : Acts faults (p >>= fun a => pure (g a)) s asked r s') :
    ∃ r', r = r'.map g ∧ Acts faults p s asked r' s' := by
  rcases of_bind h with ⟨e, rfl, failed⟩ | ⟨first, last, a, t, rfl, acted, ending⟩
  · exact ⟨.error e, rfl, failed⟩
  · obtain ⟨rfl, rfl, rfl⟩ := of_pure ending
    exact ⟨.ok a, rfl, by rw [List.append_nil]; exact acted⟩

/-- What every store call keeps, an action keeps. -/
theorem keeps {p : Action α} {r : Except BrokerError α} {P : Store → Prop}
    (step : ∀ s now call, P s → P (s.step now call).2) (h : Acts faults p s asked r s')
    (holds : P s) : P s' := by
  obtain ⟨trace, runs, -⟩ := h
  refine runs.keeps (fun call s answer s' answered holds => ?_) holds
  cases answered with
  | @store _ _ call _ now answered =>
    have kept := step s now call holds
    rw [answered] at kept
    exact kept
  | fault _ => exact holds
  | provider _ => exact holds

end Acts

namespace Broker

/-- The courses of operations. -/
inductive Course (b : Broker) (faults : Faults) (now : Instant) (s : Store) :
    Operation → List Consultation → Except BrokerError Response → Store → Prop
  | provision {id : String} {request : ProvisionRequest} {asyncAllowed : Bool}
      {asked : List Consultation} {r : Except BrokerError Bool} {s' : Store} :
      Provisioning b faults now id request asyncAllowed s asked r s' →
      Course b faults now s (.provision id request asyncAllowed) asked (r.map .provisioned) s'
  | deprovision {id : String} {request : DeprovisionRequest} {asyncAllowed : Bool}
      {asked : List Consultation} {r : Except BrokerError Bool} {s' : Store} :
      Deprovisioning b faults now id request asyncAllowed s asked r s' →
      Course b faults now s (.deprovision id request asyncAllowed) asked (r.map .deprovisioned) s'
  | bind {id bindingId : String} {request : BindRequest} {asked : List Consultation}
      {r : Except BrokerError Fields} {s' : Store} :
      Binding b faults now id bindingId request s asked r s' →
      Course b faults now s (.bind id bindingId request) asked (r.map .bound) s'
  | unbind {id bindingId : String} {request : UnbindRequest} {asked : List Consultation}
      {r : Except BrokerError Unit} {s' : Store} :
      Unbinding b faults now id bindingId s asked r s' →
      Course b faults now s (.unbind id bindingId request) asked (r.map fun _ => .unbound) s'
  | update {id : String} {request : UpdateRequest} {asyncAllowed : Bool} :
      Course b faults now s (.update id request asyncAllowed) [] (.error .planChangeNotSupported) s
  | lastOperation {id : String} {asked : List Consultation} {r : Except BrokerError LastOperation}
      {s' : Store} :
      Polling b faults now id s asked r s' →
      Course b faults now s (.lastOperation id) asked (r.map .reported) s'

/-- An operation takes one of its courses. -/
theorem Course.of_acts {b : Broker} {faults : Faults} {now : Instant} {s s' : Store}
    {asked : List Consultation} {r : Except BrokerError Response} :
    {op : Operation} → Acts faults (b.perform now op) s asked r s' →
      b.Course faults now s op asked r s'
  | .provision .., h => by
    obtain ⟨r, rfl, acted⟩ := Acts.of_map h
    exact .provision (.of_acts acted)
  | .deprovision .., h => by
    obtain ⟨r, rfl, acted⟩ := Acts.of_map h
    exact .deprovision (.of_acts acted)
  | .bind .., h => by
    obtain ⟨r, rfl, acted⟩ := Acts.of_map h
    exact .bind (.of_acts acted)
  | .unbind .., h => by
    obtain ⟨r, rfl, acted⟩ := Acts.of_map h
    exact .unbind (.of_acts acted)
  | .update .., h => by
    obtain ⟨r, rfl, acted⟩ := Acts.of_map h
    have failed : Acts faults (throw .planChangeNotSupported : Action Bool) s asked r s' := acted
    obtain ⟨rfl, rfl, rfl⟩ := Acts.of_throw failed
    exact .update
  | .lastOperation .., h => by
    obtain ⟨r, rfl, acted⟩ := Acts.of_map h
    exact .lastOperation (.of_acts acted)

end Broker

/-- An operation as it was performed: when, on which store, and what came of it. -/
structure Performance where
  now : Instant
  op : Operation
  before : Store
  asked : List Consultation
  result : Except BrokerError Response
  after : Store

namespace Broker

/-- A broker performs an operation so, if the failures of its store are among `faults`. -/
def Performs (b : Broker) (faults : Faults) (p : Performance) : Prop :=
  Acts faults (b.perform p.now p.op) p.before p.asked p.result p.after

/-- Operations performed one after another, from a store to a store. -/
inductive History (b : Broker) (faults : Faults) : Store → List Performance → Store → Prop
  | start {s : Store} : History b faults s [] s
  | perform {p : Performance} {rest : List Performance} {s : Store} :
      b.Performs faults p → History b faults p.after rest s →
      History b faults p.before (p :: rest) s

theorem Performs.distinctInstances {b : Broker} {faults : Faults} {p : Performance}
    (performed : b.Performs faults p) (keys : p.before.DistinctInstances) :
    p.after.DistinctInstances :=
  performed.keeps (fun _ now call keys => keys.step now call) keys

theorem Performs.numberedBindings {b : Broker} {faults : Faults} {p : Performance}
    (performed : b.Performs faults p) (numbers : p.before.NumberedBindings) :
    p.after.NumberedBindings :=
  performed.keeps (fun _ now call numbers => numbers.step now call) numbers

namespace History

variable {b : Broker} {faults : Faults} {s s' : Store} {h k : List Performance}

theorem of_append (run : b.History faults s (h ++ k) s') :
    ∃ t, b.History faults s h t ∧ b.History faults t k s' := by
  induction h generalizing s with
  | nil => exact ⟨s, .start, run⟩
  | cons p rest ih =>
    cases run with
    | perform performed run =>
      obtain ⟨t, first, last⟩ := ih run
      exact ⟨t, .perform performed first, last⟩

theorem performs (run : b.History faults s h s') {p : Performance} (hp : p ∈ h) :
    b.Performs faults p := by
  induction run with
  | start => cases hp
  | perform performed _ ih =>
    rcases List.mem_cons.mp hp with rfl | hp
    · exact performed
    · exact ih hp

/-- A history of given operations begins with the first of them. -/
theorem of_map_cons {op : Operation} {ops : List Operation} (run : b.History faults s h s')
    (named : h.map (·.op) = op :: ops) :
    ∃ now asked r t rest, h = ⟨now, op, s, asked, r, t⟩ :: rest ∧
      Acts faults (b.perform now op) s asked r t ∧ b.History faults t rest s' ∧
        rest.map (·.op) = ops := by
  cases run with
  | start => cases named
  | perform performed rest =>
    cases named
    exact ⟨_, _, _, _, _, rfl, performed, rest, rfl⟩

/-- Whatever the providers answer, operations can be performed at any times. -/
theorem exists_answered (answers : (call : ProviderCall) → Except ProviderError call.Value)
    (plan : List (Instant × Operation)) (s : Store) :
    ∃ h s', b.History faults s h s' ∧ h.map (fun p => (p.now, p.op)) = plan ∧
      ∀ p ∈ h, ∀ c ∈ p.asked, c.answer = answers c.call := by
  induction plan generalizing s with
  | nil => exact ⟨[], s, .start, rfl, List.forall_mem_nil _⟩
  | cons first plan ih =>
    obtain ⟨now, op⟩ := first
    obtain ⟨asked, r, t, acted, told⟩ := Acts.exists_answered now answers (b.perform now op) s
    obtain ⟨h, s', run, named, told'⟩ := ih t
    refine ⟨_, s', .perform (p := ⟨now, op, s, asked, r, t⟩) acted run, ?_, ?_⟩
    · rw [List.map_cons, named]
    · exact List.forall_mem_cons.mpr ⟨told, told'⟩

/-- What holds at the start, and after each operation of what came before it, holds at the end. -/
theorem invariant {P : List Performance → Store → Prop} (start : P [] s)
    (step : ∀ past p, P past p.before → b.Performs faults p → P (past ++ [p]) p.after)
    (run : b.History faults s h s') : P h s' := by
  suffices ∀ past, P past s → P (past ++ h) s' from this [] start
  clear start
  -- Operations come off the front, so what came before them is carried along.
  induction run with
  | start =>
    intro past holds
    simpa using holds
  | perform performed _ ih =>
    intro past holds
    simpa using ih (past ++ [_]) (step past _ holds performed)

/-- What every store call keeps, a history keeps. -/
theorem keeps {P : Store → Prop} (step : ∀ s now call, P s → P (s.step now call).2)
    (run : b.History faults s h s') (holds : P s) : P s' :=
  run.invariant (P := fun _ s => P s) holds fun _ _ holds performed =>
    Acts.keeps step performed holds

/-! What is assumed of a store elsewhere holds wherever a history leads that starts from such a
store. -/

theorem distinctInstances (run : b.History faults s h s') (keys : s.DistinctInstances) :
    s'.DistinctInstances :=
  run.keeps (fun _ now call keys => keys.step now call) keys

theorem numberedBindings (run : b.History faults s h s') (numbers : s.NumberedBindings) :
    s'.NumberedBindings :=
  run.keeps (fun _ now call numbers => numbers.step now call) numbers

theorem singleBindings (run : b.History faults s h s') (single : s.SingleBindings) :
    s'.SingleBindings :=
  run.keeps (fun _ now call single => single.step now call) single

end History

end Broker

/-! ### Sessions and databases -/

/-- The failures that a session puts into the calls to its store. -/
def Session.mayFail (session : Session) : Faults :=
  fun call e => session.faults.lookup call.name = some e

/-- What a session does when it performs an operation is done in the world, so that what is said of
every course of an operation is said of sessions. -/
theorem Session.acts (session : Session) (b : Broker) (now : Instant) (op : Operation) :
    ∃ asked, Acts session.mayFail (b.perform now op) session.store asked
      (session.perform (.bare b) now op).1 (session.perform (.bare b) now op).2.store := by
  have allowed : ∀ call t, t.faults = session.faults →
      World session.mayFail call t.store (answer now call t).1 (answer now call t).2.store ∧
        (answer now call t).2.faults = session.faults := by
    intro call t same
    cases call with
    | provider p call =>
      simp only [answer, answerProvider]
      cases t.backends.lookup p.name with
      | none => exact ⟨.provider _, same⟩
      | some backend =>
        simp only [setBackend]
        split
        · exact ⟨.provider _, same⟩
        · exact ⟨.provider _, same⟩
    | store call =>
      simp only [answer, answerStore]
      cases fault : t.faults.lookup call.name with
      | some e => exact ⟨.fault (by rw [mayFail, ← same, fault]), same⟩
      | none => exact ⟨.store now rfl, same⟩
  obtain ⟨trace, runs⟩ := Program.Runs.of_run Session.store
    (P := fun t => t.faults = session.faults) allowed (b.perform now op).run session rfl
  exact ⟨_, trace, runs, rfl⟩

/-- A fresh database at the current schema holds nothing. -/
theorem Database.migrated_store : Database.migrated.store = Store.empty := by
  rw [migrated_eq]
  rfl

/-! ### A small broker -/

namespace Sample

/-- A provider that works out of band both ways. -/
def provider : Provider := ⟨"bucket", true, true⟩

def plan : Plan := { id := "small", name := "small" }

/-- A broker of one plan of one service. -/
def broker : Broker where
  registry := ⟨⟨[{ id := "bucket", name := "bucket", plans := [plan] }]⟩, [("bucket", provider)]⟩

/-- A provider that does all its work at once. -/
def promptProvider : Provider := ⟨"bucket", false, false⟩

/-- The same broker with a provider that does its work at once. -/
def promptBroker : Broker where
  registry := { broker.registry with providers := [("bucket", promptProvider)] }

/-! An instance is made, and credentials for it are issued. -/

open Broker

def request : ProvisionRequest := { serviceId := "bucket", planId := "small" }

def credentials : Fields := [("user", .str "reader")]

/-- A row that was made at once. -/
def madeRow : InstanceRow :=
  Store.overwriteInstance 0 (provisionedRow (claim 0 "i" request plan) {} false)
    (claim 0 "i" request plan)

/-- The store with one instance. -/
def made : Store := (requested 0 "i" request .empty).withInstance madeRow

/-- The binding that holds the credentials. -/
def issuedBinding : BindingRow := issuedRow 10 "i" "j" madeRow 1 credentials

/-- The store with one instance and one binding. -/
def bound : Store := issued 10 "i" "j" madeRow credentials 10 made

/-- An instance is made. -/
def making : Performance :=
  ⟨0, .provision "i" request false, .empty,
    [⟨claimed 0 "i" request plan .empty, promptProvider, .provision "i" request plan, .ok {}⟩],
    .ok (.provisioned false), made⟩

/-- Credentials for it are issued. -/
def issuing : Performance :=
  ⟨10, .bind "i" "j" { appGuid? := some "app" }, made,
    [⟨reserved 10 "i" "j" madeRow made, promptProvider,
        .bind madeRow "j" { appGuid? := some "app" }, .ok credentials⟩,
      ⟨bound, promptProvider, .joinCredentials credentials madeRow, .ok credentials⟩],
    .ok (.bound credentials), bound⟩

theorem making_performed : promptBroker.Performs .none making := by
  refine ⟨[⟨.empty, .store (.countInstances "i"), .ok 0⟩,
    ⟨.empty, .store (.claimInstance (claim 0 "i" request plan) (.of 0 "i" request.toJson)), .ok 1⟩,
    ⟨claimed 0 "i" request plan .empty, .provider promptProvider (.provision "i" request plan),
      .ok {}⟩,
    ⟨claimed 0 "i" request plan .empty,
      .store (.saveInstance (provisionedRow (claim 0 "i" request plan) {} false)), .ok ()⟩],
    ?_, rfl⟩
  refine .ask (World.store 0 rfl) ?_
  refine .ask (World.store 0 rfl) ?_
  refine .ask (World.provider _) ?_
  refine .ask (World.store 0 rfl) ?_
  exact .done

theorem issuing_performed : promptBroker.Performs .none issuing := by
  refine ⟨[⟨made, .store (.countBindings "i" "j"), .ok 0⟩,
    ⟨made, .store (.getInstance "i"), .ok madeRow⟩,
    ⟨made, .store (.createBinding (.claim 10 "i" "j" "bucket")), .ok 1⟩,
    ⟨reserved 10 "i" "j" madeRow made, .provider promptProvider
      (.bind madeRow "j" { appGuid? := some "app" }), .ok credentials⟩,
    ⟨reserved 10 "i" "j" madeRow made,
      .store (.saveBinding (issuedRow 10 "i" "j" madeRow 1 credentials)), .ok ()⟩,
    ⟨bound, .provider promptProvider (.joinCredentials credentials madeRow), .ok credentials⟩],
    ?_, rfl⟩
  refine .ask (World.store 10 rfl) ?_
  refine .ask (World.store 10 rfl) ?_
  refine .ask (World.store 10 rfl) ?_
  refine .ask (World.provider _) ?_
  refine .ask (World.store 10 rfl) ?_
  refine .ask (World.provider _) ?_
  exact .done

end Sample

end Brokerage
