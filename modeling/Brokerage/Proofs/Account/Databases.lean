import Brokerage.Proofs.Account.Records
import Brokerage.Proofs.Account.UserSequence

/-! Database backends that hold users and certificates. What a certificate consists of, what an
operation is called and how long it takes is up to the backend. What is to be deleted has to be
there. -/

namespace Brokerage

/-- A user of a database instance. -/
structure DatabaseUser where
  instanceName : String
  username : String
  password : String

/-- A certificate of a database instance. -/
structure InstanceCertificate where
  instanceName : String
  certificate : Certificate

/-- The user that an instance knows under a name. -/
def DatabaseUser.Is (instanceName username : String) (user : DatabaseUser) : Prop :=
  user.instanceName = instanceName ∧ user.username = username

/-- The certificate that an instance knows by its fingerprint. -/
def InstanceCertificate.Is (instanceName fingerprint : String) (issued : InstanceCertificate) :
    Prop :=
  issued.instanceName = instanceName ∧ issued.certificate.fingerprint = fingerprint

instance (instanceName username : String) : DecidablePred (DatabaseUser.Is instanceName username) :=
  fun _ => inferInstanceAs (Decidable (_ ∧ _))

instance (instanceName fingerprint : String) :
    DecidablePred (InstanceCertificate.Is instanceName fingerprint) :=
  fun _ => inferInstanceAs (Decidable (_ ∧ _))

/-- The users and the certificates of all instances, in the order in which they came. -/
structure Databases where
  users : List DatabaseUser := []
  certificates : List InstanceCertificate := []

namespace Databases

def HasUser (d : Databases) (instanceName username : String) : Prop :=
  ∃ user ∈ d.users, user.Is instanceName username

def HasCertificate (d : Databases) (instanceName fingerprint : String) : Prop :=
  ∃ issued ∈ d.certificates, issued.Is instanceName fingerprint

instance (d : Databases) (instanceName username : String) :
    Decidable (d.HasUser instanceName username) :=
  inferInstanceAs (Decidable (∃ user ∈ d.users, user.Is instanceName username))

instance (d : Databases) (instanceName fingerprint : String) :
    Decidable (d.HasCertificate instanceName fingerprint) :=
  inferInstanceAs (Decidable (∃ issued ∈ d.certificates, issued.Is instanceName fingerprint))

def addUser (d : Databases) (user : DatabaseUser) : Databases :=
  { d with users := d.users ++ [user] }

def addCertificate (d : Databases) (issued : InstanceCertificate) : Databases :=
  { d with certificates := d.certificates ++ [issued] }

def removeUser (d : Databases) (instanceName username : String) : Databases :=
  { d with users := d.users.filter (¬ ·.Is instanceName username) }

def removeCertificate (d : Databases) (instanceName fingerprint : String) : Databases :=
  { d with certificates := d.certificates.filter (¬ ·.Is instanceName fingerprint) }

/-- The databases once a certificate has been withdrawn. -/
def withoutCertificate (d : Databases) (row : InstanceRow) (info : DatabaseInfo) : Databases :=
  if info.caCert = "" then d else d.removeCertificate row.name info.fingerprint

/-! What is taken out of a list is gone; and it is all that goes if it has just been added. -/

theorem not_exists_mem_filter_not {α : Type} {p : α → Prop} [DecidablePred p] {xs : List α} :
    ¬ ∃ x ∈ xs.filter (¬ p ·), p x := by
  rintro ⟨x, held, same⟩
  exact of_decide_eq_true (List.mem_filter.mp held).2 same

theorem filter_not_of_absent {α : Type} {p : α → Prop} [DecidablePred p] {xs : List α}
    (absent : ¬ ∃ x ∈ xs, p x) : xs.filter (¬ p ·) = xs :=
  List.filter_eq_self.mpr fun x hx => decide_eq_true fun same => absent ⟨x, hx, same⟩

theorem filter_not_append_singleton {α : Type} {p : α → Prop} [DecidablePred p] {xs : List α}
    {x : α} (last : p x) (absent : ¬ ∃ y ∈ xs, p y) : (xs ++ [x]).filter (¬ p ·) = xs := by
  rw [List.filter_append, filter_not_of_absent absent,
    List.filter_cons_of_neg (by simpa using last), List.filter_nil, List.append_nil]

variable {d : Databases} {instanceName username fingerprint : String}

theorem not_hasUser_removeUser :
    ¬ (d.removeUser instanceName username).HasUser instanceName username :=
  not_exists_mem_filter_not

theorem not_hasCertificate_removeCertificate :
    ¬ (d.removeCertificate instanceName fingerprint).HasCertificate instanceName fingerprint :=
  not_exists_mem_filter_not

theorem removeUser_of_absent (absent : ¬ d.HasUser instanceName username) :
    d.removeUser instanceName username = d := by
  rw [removeUser, filter_not_of_absent absent]

/-- A user whose name was free is all that deleting it takes away. -/
theorem removeUser_addUser {user : DatabaseUser}
    (free : ¬ d.HasUser user.instanceName user.username) :
    (d.addUser user).removeUser user.instanceName user.username = d := by
  rw [removeUser, addUser, filter_not_append_singleton ⟨rfl, rfl⟩ free]

/-- A certificate whose fingerprint was fresh is all that deleting it takes away. -/
theorem removeCertificate_addCertificate {issued : InstanceCertificate}
    (fresh : ¬ d.HasCertificate issued.instanceName issued.certificate.fingerprint) :
    (d.addCertificate issued).removeCertificate issued.instanceName
      issued.certificate.fingerprint = d := by
  rw [removeCertificate, addCertificate, filter_not_append_singleton ⟨rfl, rfl⟩ fresh]

end Databases

/-- The refusal to delete what is not there. -/
def CredentialError.missing (name : String) : CredentialError := .backend 404 (name ++ " not found")

/-- What a database backend holds, and how many polls will find each operation running. -/
structure DatabaseState where
  databases : Databases := {}
  running : String → Nat := fun _ => 0

/-- What a database backend makes up by itself. -/
structure DatabaseService where
  /-- The certificate that it issues on an instance under a common name. -/
  issue : Databases → String → String → Certificate
  /-- The name of the operation that a call starts. -/
  operation : Databases → DatabaseCall → String
  /-- How many polls find it running. -/
  delay : Databases → DatabaseCall → Nat

namespace DatabaseService

/-- A call that leaves `edited` and starts an operation. -/
def start (service : DatabaseService) (call : DatabaseCall) (edited : Databases)
    (w : DatabaseState) : Except CredentialError String × DatabaseState :=
  let operation := service.operation w.databases call
  (.ok operation,
    ⟨edited, fun o => if o = operation then service.delay w.databases call else w.running o⟩)

/-- What the backend answers, and what it holds after that. An operation that is not done counts the
polls that still have to find it running. -/
def answer (service : DatabaseService) : (call : DatabaseCall) → DatabaseState →
    Except CredentialError call.Value × DatabaseState
  | .insertUser instanceName username password, w =>
    service.start (.insertUser instanceName username password)
      (w.databases.addUser ⟨instanceName, username, password⟩) w
  | .deleteUser instanceName username, w =>
    if w.databases.HasUser instanceName username then
      service.start (.deleteUser instanceName username)
        (w.databases.removeUser instanceName username) w
    else (.error (.missing ("user " ++ username)), w)
  | .insertCertificate instanceName commonName, w =>
    let cert := service.issue w.databases instanceName commonName
    (.ok cert, { w with databases := w.databases.addCertificate ⟨instanceName, cert⟩ })
  | .deleteCertificate instanceName fingerprint, w =>
    if w.databases.HasCertificate instanceName fingerprint then
      service.start (.deleteCertificate instanceName fingerprint)
        (w.databases.removeCertificate instanceName fingerprint) w
    else (.error (.missing ("certificate " ++ fingerprint)), w)
  | .operationDone operation, w =>
    match w.running operation with
    | 0 => (.ok true, w)
    | n + 1 => (.ok false, { w with running := fun o => if o = operation then n else w.running o })

/-- The certificate that a binding is issued once its user has been inserted. -/
def certificateFor (service : DatabaseService) (d : Databases) (user : DatabaseUser)
    (bindingId : String) : Certificate :=
  service.issue (d.addUser user) user.instanceName (certificateNameFor bindingId)

/-- Every operation is found done by one of so many polls. -/
def FinishesWithin (service : DatabaseService) (polls : Nat) : Prop :=
  ∀ d call, service.delay d call < polls

variable {service : DatabaseService} {d : Databases} {running : String → Nat} {operation : String}

theorem answer_operationDone_of_zero (left : running operation = 0) :
    service.answer (.operationDone operation) ⟨d, running⟩ = (.ok true, ⟨d, running⟩) := by
  simp only [answer, left]

theorem answer_operationDone_of_succ {n : Nat} (left : running operation = n + 1) :
    service.answer (.operationDone operation) ⟨d, running⟩ =
      (.ok false, ⟨d, fun o => if o = operation then n else running o⟩) := by
  simp only [answer, left]

end DatabaseService

namespace DatabaseManager

variable {service : DatabaseService} {m : DatabaseManager} {row : InstanceRow} {d : Databases}
  {running : String → Nat} {info : DatabaseInfo}

/-! ### Runs against a backend -/

/-- An operation that is done in time has been polled, and nothing else has happened. -/
theorem run_poll_of_lt {n : Nat} (limit : Nat) {operation : String}
    (soon : running operation < n) :
    ∃ running', Program.run service.answer (poll limit operation n).run ⟨d, running⟩ =
      (.ok (), ⟨d, running'⟩) := by
  induction n generalizing running with
  | zero => exact absurd soon (Nat.not_lt_zero _)
  | succ n ih =>
    unfold poll
    cases left : running operation with
    | zero =>
      have done : Program.run service.answer (DatabaseCall.operationDone operation).ask.run
          ⟨d, running⟩ = (.ok true, ⟨d, running⟩) := service.answer_operationDone_of_zero left
      exact ⟨running, Fallible.run_bind_of_ok _ done⟩
    | succ k =>
      let running' := fun o => if o = operation then k else running o
      have busy : Program.run service.answer (DatabaseCall.operationDone operation).ask.run
          ⟨d, running⟩ = (.ok false, ⟨d, running'⟩) := service.answer_operationDone_of_succ left
      have sooner : running' operation < n := by
        simp only [running', if_true]
        omega
      obtain ⟨running'', polled⟩ := ih sooner
      exact ⟨running'', (Fallible.run_bind_of_ok _ busy).trans polled⟩

/-- A call that starts an operation, and the wait for it. -/
theorem run_waitFor_start (finishes : service.FinishesWithin m.maxPolls) (call : DatabaseCall)
    (edited : Databases) (running : String → Nat) :
    ∃ running', Program.run service.answer (m.waitFor (service.operation d call)).run
      (service.start call edited ⟨d, running⟩).2 = (.ok (), ⟨edited, running'⟩) := by
  refine run_poll_of_lt _ ?_
  simp only [if_true]
  exact finishes d call

/-- The databases once a user has been inserted and issued a certificate. -/
def equipped (service : DatabaseService) (d : Databases) (user : DatabaseUser)
    (bindingId : String) : Databases :=
  (d.addUser user).addCertificate ⟨user.instanceName, service.certificateFor d user bindingId⟩

/-- The credentials of a user and its certificate. -/
def infoOf (user : DatabaseUser) (cert : Certificate) : DatabaseInfo :=
  ⟨user.username, user.password, cert.serverCa, cert.cert, cert.privateKey, cert.fingerprint⟩

variable {bindingId username password : String} {request : BindRequest}

theorem create_over_service (row : InstanceRow) (d : Databases) (running : String → Nat)
    (bindingId : String) (finishes : service.FinishesWithin m.maxPolls)
    (accepted : requestedUser request = .ok (username, password)) :
    let user : DatabaseUser := ⟨row.name, username, password⟩
    ∃ running', (m.over service.answer).create row bindingId request ⟨d, running⟩ =
      (.ok (infoOf user (service.certificateFor d user bindingId)).credentials,
        ⟨equipped service d user bindingId, running'⟩) := by
  intro user
  have inserted : Program.run service.answer
      (DatabaseCall.insertUser row.name username password).ask.run ⟨d, running⟩ =
      service.start (.insertUser row.name username password) (d.addUser user) ⟨d, running⟩ := rfl
  obtain ⟨running', waited⟩ := run_waitFor_start finishes
    (.insertUser row.name username password) (d.addUser user) running
  refine ⟨running', ?_⟩
  show Program.run service.answer (m.createCredentials row bindingId request).run _ = _
  unfold createCredentials
  rw [accepted]
  refine (Fallible.run_bind_of_ok _ inserted).trans ?_
  exact (Fallible.run_bind_of_ok _ waited).trans rfl

theorem run_deleteCertificate_of_missing (certified : info.caCert ≠ "")
    (missing : ¬ d.HasCertificate row.name info.fingerprint) :
    Program.run service.answer (m.deleteCertificate row info).run ⟨d, running⟩ =
      (.error (.missing ("certificate " ++ info.fingerprint)), ⟨d, running⟩) := by
  have refused : Program.run service.answer
      (DatabaseCall.deleteCertificate row.name info.fingerprint).ask.run ⟨d, running⟩ =
      (.error (.missing ("certificate " ++ info.fingerprint)), ⟨d, running⟩) := if_neg missing
  rw [deleteCertificate_eq certified]
  exact Fallible.run_bind_of_error _ refused

/-- A certificate that is there is withdrawn, if credentials have one. -/
theorem run_deleteCertificate (finishes : service.FinishesWithin m.maxPolls)
    (held : info.caCert ≠ "" → d.HasCertificate row.name info.fingerprint)
    (running : String → Nat) :
    ∃ running', Program.run service.answer (m.deleteCertificate row info).run ⟨d, running⟩ =
      (.ok (), ⟨d.withoutCertificate row info, running'⟩) := by
  unfold Databases.withoutCertificate
  by_cases certified : info.caCert = ""
  · rw [if_pos certified, deleteCertificate, if_pos (String.isEmpty_iff.mpr certified)]
    exact ⟨running, rfl⟩
  · rw [if_neg certified, deleteCertificate_eq certified]
    have deleted : Program.run service.answer
        (DatabaseCall.deleteCertificate row.name info.fingerprint).ask.run ⟨d, running⟩ =
        service.start (.deleteCertificate row.name info.fingerprint)
          (d.removeCertificate row.name info.fingerprint) ⟨d, running⟩ := if_pos (held certified)
    obtain ⟨running', waited⟩ := run_waitFor_start finishes
      (.deleteCertificate row.name info.fingerprint)
      (d.removeCertificate row.name info.fingerprint) running
    exact ⟨running', (Fallible.run_bind_of_ok _ deleted).trans waited⟩

/-- A user is deleted, if it is not gone already. -/
theorem run_deleteUser (finishes : service.FinishesWithin m.maxPolls) (row : InstanceRow)
    (info : DatabaseInfo) (d : Databases) (running : String → Nat) :
    ∃ running', Program.run service.answer (m.deleteUser row info).run ⟨d, running⟩ =
      (.ok (), ⟨d.removeUser row.name info.username, running'⟩) := by
  unfold deleteUser
  by_cases held : d.HasUser row.name info.username
  · have deleted : Program.run service.answer
        (Fallible.attempt (DatabaseCall.deleteUser row.name info.username).ask).run ⟨d, running⟩ =
        (.ok (.ok (service.operation d (.deleteUser row.name info.username))),
          (service.start (.deleteUser row.name info.username)
            (d.removeUser row.name info.username) ⟨d, running⟩).2) := by
      have started : service.answer (.deleteUser row.name info.username) ⟨d, running⟩ =
          service.start (.deleteUser row.name info.username)
            (d.removeUser row.name info.username) ⟨d, running⟩ := if_pos held
      exact Fallible.run_attempt started
    obtain ⟨running', waited⟩ := run_waitFor_start finishes
      (.deleteUser row.name info.username) (d.removeUser row.name info.username) running
    exact ⟨running', (Fallible.run_bind_of_ok _ deleted).trans waited⟩
  · have refused : Program.run service.answer
        (Fallible.attempt (DatabaseCall.deleteUser row.name info.username).ask).run ⟨d, running⟩ =
        (.ok (.error (.missing ("user " ++ info.username))), ⟨d, running⟩) := by
      have missing : service.answer (.deleteUser row.name info.username) ⟨d, running⟩ =
          (.error (.missing ("user " ++ info.username)), ⟨d, running⟩) := if_neg held
      exact Fallible.run_attempt missing
    rw [Databases.removeUser_of_absent held]
    exact ⟨running, (Fallible.run_bind_of_ok _ refused).trans rfl⟩

variable {binding : BindingRow}

theorem delete_eq {τ : Type}
    {answer : (call : DatabaseCall) → τ → Except CredentialError call.Value × τ}
    (stored : DatabaseInfo.read? binding.otherDetails = some info) (t : τ) :
    (m.over answer).delete row binding t = Program.run answer
      (m.deleteCertificate row info >>= fun _ => m.deleteUser row info).run t := by
  show Program.run answer (m.deleteCredentials row binding).run t = _
  rw [deleteCredentials_eq stored]

/-- The databases once credentials have been withdrawn. -/
def stripped (d : Databases) (row : InstanceRow) (info : DatabaseInfo) : Databases :=
  (d.withoutCertificate row info).removeUser row.name info.username

/-- Credentials whose certificate is still there are withdrawn, whether or not the user is. -/
theorem delete_over_service (running : String → Nat)
    (finishes : service.FinishesWithin m.maxPolls)
    (stored : DatabaseInfo.read? binding.otherDetails = some info)
    (held : info.caCert ≠ "" → d.HasCertificate row.name info.fingerprint) :
    ∃ running', (m.over service.answer).delete row binding ⟨d, running⟩ =
      (.ok (), ⟨stripped d row info, running'⟩) := by
  obtain ⟨running', withdrawn⟩ := run_deleteCertificate finishes held running
  obtain ⟨running'', removed⟩ :=
    run_deleteUser finishes row info (d.withoutCertificate row info) running'
  refine ⟨running'', (delete_eq stored _).trans ?_⟩
  exact (Fallible.run_bind_of_ok _ withdrawn).trans removed

/-- A certificate that is gone already is not passed over. -/
theorem delete_over_service_of_missing (running : String → Nat)
    (stored : DatabaseInfo.read? binding.otherDetails = some info) (certified : info.caCert ≠ "")
    (missing : ¬ d.HasCertificate row.name info.fingerprint) :
    (m.over service.answer).delete row binding ⟨d, running⟩ =
      (.error (.missing ("certificate " ++ info.fingerprint)), ⟨d, running⟩) := by
  refine (delete_eq stored _).trans ?_
  exact Fallible.run_bind_of_error _ (run_deleteCertificate_of_missing certified missing)

end DatabaseManager

end Brokerage
