import Brokerage.Account.DatabaseBackend
import Brokerage.Proofs.Interruption
import Brokerage.Provider.Managed

/-! Issuing the credentials of a database user. The user is inserted, the operation that does so is
polled until it is done, and then a certificate is issued; the first call that fails is the last
one. -/

namespace Brokerage

namespace DatabaseManager

variable {σ : Type}

/-- The courses of waiting for an operation with some polls left. -/
inductive Polling (replies : Replies databaseInterface σ) (limit : Nat) (operation : String) :
    Nat → σ → List (Exchange databaseInterface σ) → Except CredentialError Unit → σ → Prop
  | gaveUp {s : σ} :
      Polling replies limit operation 0 s [] (.error (.timedOut operation limit)) s
  | unheard {n : Nat} {s s' : σ} {e : CredentialError}
      (failed : replies (.operationDone operation) s (.error e) s') :
      Polling replies limit operation (n + 1) s [⟨s, .operationDone operation, .error e⟩]
        (.error e) s'
  | finished {n : Nat} {s s' : σ} (done : replies (.operationDone operation) s (.ok true) s') :
      Polling replies limit operation (n + 1) s [⟨s, .operationDone operation, .ok true⟩] (.ok ())
        s'
  | unfinished {n : Nat} {s t s' : σ} {rest : List (Exchange databaseInterface σ)}
      {r : Except CredentialError Unit}
      (running : replies (.operationDone operation) s (.ok false) t)
      (again : Polling replies limit operation n t rest r s') :
      Polling replies limit operation (n + 1) s
        (⟨s, .operationDone operation, .ok false⟩ :: rest) r s'

/-- The courses of issuing credentials. -/
inductive Creating (m : DatabaseManager) (replies : Replies databaseInterface σ) (row : InstanceRow)
    (bindingId : String) (request : BindRequest) (s : σ) : Except CredentialError Fields → σ → Prop
  | refused {e : CredentialError} (refusal : requestedUser request = .error e) :
      Creating m replies row bindingId request s (.error e) s
  | uninserted {username password : String} {e : CredentialError} {s' : σ}
      (accepted : requestedUser request = .ok (username, password))
      (failed : replies (.insertUser row.name username password) s (.error e) s') :
      Creating m replies row bindingId request s (.error e) s'
  | unfinished {username password operation : String} {e : CredentialError} {t s' : σ}
      {trace : List (Exchange databaseInterface σ)}
      (accepted : requestedUser request = .ok (username, password))
      (inserted : replies (.insertUser row.name username password) s (.ok operation) t)
      (failed : Fallible.Runs replies (m.waitFor operation) t trace (.error e) s') :
      Creating m replies row bindingId request s (.error e) s'
  | inserted {username password operation : String} {t u s' : σ}
      {trace : List (Exchange databaseInterface σ)} {answer : Except CredentialError Certificate}
      (accepted : requestedUser request = .ok (username, password))
      (inserted : replies (.insertUser row.name username password) s (.ok operation) t)
      (finished : Fallible.Runs replies (m.waitFor operation) t trace (.ok ()) u)
      (certified : replies (.insertCertificate row.name (certificateNameFor bindingId)) u answer
        s') :
      Creating m replies row bindingId request s
        (answer.map fun cert => DatabaseInfo.credentials
          ⟨username, password, cert.serverCa, cert.cert, cert.privateKey, cert.fingerprint⟩) s'

variable {replies : Replies databaseInterface σ} {s s' : σ}
  {trace : List (Exchange databaseInterface σ)} {m : DatabaseManager} {row : InstanceRow}
  {bindingId : String} {request : BindRequest}

theorem Creating.of_runs {r : Except CredentialError Fields}
    (h : Fallible.Runs replies (m.createCredentials row bindingId request) s trace r s') :
    m.Creating replies row bindingId request s r s' := by
  unfold createCredentials at h
  cases accepted : requestedUser request with
  | error e =>
    rw [accepted] at h
    have failed : Fallible.Runs replies (throw e : DatabaseProgram Fields) s trace r s' := h
    obtain ⟨rfl, rfl, rfl⟩ := Fallible.runs_throw failed
    exact .refused accepted
  | ok user =>
    obtain ⟨username, password⟩ := user
    rw [accepted] at h
    rcases Fallible.runs_ask h with
      ⟨e, failed, rfl, rfl⟩ | ⟨operation, t, rest, inserted, rfl, polling⟩
    · exact .uninserted accepted failed
    rcases Fallible.runs_bind polling with ⟨e, rfl, failed⟩ | ⟨_, _, _, u, rfl, finished, ending⟩
    · exact .unfinished accepted inserted failed
    obtain ⟨answer, rfl, asking⟩ := Fallible.runs_map ending
    obtain ⟨rfl, certified⟩ := Program.Runs.of_call asking
    exact .inserted accepted inserted finished certified

theorem Polling.of_runs {limit n : Nat} {operation : String} {r : Except CredentialError Unit}
    (h : Fallible.Runs replies (poll limit operation n) s trace r s') :
    Polling replies limit operation n s trace r s' := by
  induction n generalizing s trace with
  | zero =>
    obtain ⟨rfl, rfl, rfl⟩ := Fallible.runs_throw h
    exact .gaveUp
  | succ n ih =>
    unfold poll at h
    rcases Fallible.runs_ask h with ⟨e, failed, rfl, rfl⟩ | ⟨done, t, rest, polled, rfl, ending⟩
    · exact .unheard failed
    cases done with
    | true =>
      obtain ⟨rfl, rfl, rfl⟩ := Fallible.runs_pure ending
      exact .finished polled
    | false => exact .unfinished polled (ih ending)

/-- What every poll keeps, waiting keeps. -/
theorem Polling.keeps {P : σ → Prop} {limit n : Nat} {operation : String}
    {r : Except CredentialError Unit} (h : Polling replies limit operation n s trace r s')
    (step : ∀ {s answer s'}, replies (.operationDone operation) s answer s' → P s → P s')
    (holds : P s) : P s' := by
  induction h with
  | gaveUp => exact holds
  | unheard polled | finished polled => exact step polled holds
  | unfinished polled _ ih => exact ih (step polled holds)

end DatabaseManager

/-! ### The backend in memory -/

namespace DatabaseBackend

theorem lookup_setPolls (operation : String) (n : Nat) (polls : List (String × Nat)) :
    (setPolls operation n polls).lookup operation = some n := by
  induction polls with
  | nil => simp [setPolls]
  | cons entry rest ih =>
    obtain ⟨other, k⟩ := entry
    rw [setPolls]
    split
    · simp
    · split
      · simp
      · rename_i different
        rw [List.lookup_cons, beq_eq_false_iff_ne.mpr different]
        exact ih

end DatabaseBackend

namespace DatabaseManager

open DatabaseBackend (answer)

/-- An operation is done once it was polled more often than the backend says. -/
theorem run_poll {k : Nat} (limit n : Nat) (operation : String) (b : DatabaseBackend)
    (polled : (b.polls.lookup operation).getD 0 = k) (running : k ≤ b.pollsUntilDone) :
    ∃ polls, Program.run answer (poll limit operation n).run b =
      (if b.pollsUntilDone < k + n then .ok () else .error (.timedOut operation limit),
        { b with polls := polls }) := by
  -- With one more poll made and one fewer left, the sum stays what decides.
  induction n generalizing b k with
  | zero => exact ⟨b.polls, by rw [if_neg (by omega)]; rfl⟩
  | succ n ih =>
    let b' := { b with polls := DatabaseBackend.setPolls operation (k + 1) b.polls }
    have asked : Program.run answer (DatabaseCall.operationDone operation).ask.run b =
        (.ok (decide (b.pollsUntilDone < k + 1)), b') := by
      subst polled
      rfl
    unfold poll
    rw [Fallible.run_bind_of_ok _ asked]
    by_cases done : b.pollsUntilDone < k + 1
    · refine ⟨b'.polls, ?_⟩
      rw [decide_eq_true done, if_pos (Nat.lt_of_lt_of_le done (by omega))]
      rfl
    · have again : (b'.polls.lookup operation).getD 0 = k + 1 := by
        rw [DatabaseBackend.lookup_setPolls]
        rfl
      rw [decide_eq_false done, ← Nat.add_assoc, Nat.add_right_comm]
      exact ih b' again (Nat.le_of_not_lt done)

/-- Over the backend in memory, a user is inserted in any case; the certificate is issued if the
operation is done in time. -/
theorem create_over {m : DatabaseManager} {bindingId username password : String}
    {request : BindRequest} (row : InstanceRow) (b : DatabaseBackend)
    (accepted : requestedUser request = .ok (username, password)) :
    let key := DatabaseBackend.userKey row.name username
    let name := certificateNameFor bindingId
    let info : DatabaseInfo := ⟨username, password, b.serverCa, "cert " ++ name, "key+" ++ name,
      DatabaseBackend.fingerprintOf name⟩
    ∃ polls, (m.over answer).create row bindingId request b =
      if b.pollsUntilDone < m.maxPolls then
        (.ok info.credentials,
          { b with
            users := b.users ++ [key], polls := polls, certificates := b.certificates ++ [name] })
      else
        (.error (.timedOut ("insert-user:" ++ key) m.maxPolls),
          { b with users := b.users ++ [key], polls := polls }) := by
  intro key name info
  let operation := "insert-user:" ++ key
  let b' : DatabaseBackend :=
    { b with users := b.users ++ [key], polls := DatabaseBackend.setPolls operation 0 b.polls }
  have inserted : Program.run answer
      (DatabaseCall.insertUser row.name username password).ask.run b = (.ok operation, b') := rfl
  have unpolled : (b'.polls.lookup operation).getD 0 = 0 := by
    rw [DatabaseBackend.lookup_setPolls]
    rfl
  obtain ⟨polls, waited⟩ := run_poll m.maxPolls m.maxPolls operation b' unpolled (Nat.zero_le _)
  rw [Nat.zero_add] at waited
  refine ⟨polls, ?_⟩
  show Program.run answer (m.createCredentials row bindingId request).run b = _
  unfold createCredentials
  rw [accepted]
  refine (Fallible.run_bind_of_ok _ inserted).trans ?_
  by_cases finished : b.pollsUntilDone < m.maxPolls
  · rw [if_pos finished] at waited ⊢
    refine (Fallible.run_bind_of_ok _ waited).trans ?_
    rfl
  · rw [if_neg finished] at waited ⊢
    exact Fallible.run_bind_of_error _ waited

/-- Whether credentials are issued depends on the request, and on how long the backend takes. -/
theorem issues_iff {m : DatabaseManager} {row : InstanceRow} {bindingId : String}
    {request : BindRequest} {b : DatabaseBackend} :
    (∃ credentials b', (m.over answer).create row bindingId request b = (.ok credentials, b')) ↔
      (∃ user, requestedUser request = .ok user) ∧ b.pollsUntilDone < m.maxPolls := by
  cases accepted : requestedUser request with
  | error e =>
    have refused : (m.over answer).create row bindingId request b = (.error e, b) := by
      show Program.run answer (m.createCredentials row bindingId request).run b = _
      unfold createCredentials
      rw [accepted]
      rfl
    rw [refused]
    exact iff_of_false (by rintro ⟨_, _, ⟨⟩⟩) (by rintro ⟨⟨_, ⟨⟩⟩, -⟩)
  | ok user =>
    obtain ⟨polls, ran⟩ := create_over row b accepted
    rw [ran]
    split
    · rename_i finished
      exact iff_of_true ⟨_, _, rfl⟩ ⟨⟨_, rfl⟩, finished⟩
    · rename_i unfinished
      exact iff_of_false (by rintro ⟨_, _, ⟨⟩⟩) fun h => unfinished h.2

/-- A user has been inserted into a backend, and nothing else has happened but polls. -/
structure Inserted (b : DatabaseBackend) (user : String) (b' : DatabaseBackend) : Prop where
  users : b'.users = b.users ++ [user]
  certificates : b'.certificates = b.certificates
  pollsUntilDone : b'.pollsUntilDone = b.pollsUntilDone

theorem Inserted.polled {b : DatabaseBackend} {user operation : String}
    {w w' : DatabaseBackend × Failure CredentialError} {r : Except CredentialError Bool}
    (polled : interrupted answer (.operationDone operation) w = (r, w'))
    (inserted : Inserted b user w.1) : Inserted b user w'.1 := by
  rcases interrupted_cases polled with answered | ⟨-, same⟩
  · have left : (answer (.operationDone operation) w.1).2 = w'.1 := congrArg Prod.snd answered
    rw [← left]
    exact ⟨inserted.users, inserted.certificates, inserted.pollsUntilDone⟩
  · rw [same]
    exact inserted

theorem Inserted.waited {m : DatabaseManager} {b : DatabaseBackend} {user operation : String}
    {w w' : DatabaseBackend × Failure CredentialError} {r : Except CredentialError Unit}
    {trace : List (Exchange databaseInterface _)}
    (polling : Fallible.Runs (.of (interrupted answer)) (m.waitFor operation) w trace r w')
    (inserted : Inserted b user w.1) : Inserted b user w'.1 :=
  (Polling.of_runs polling).keeps (P := fun w => Inserted b user w.1) Inserted.polled inserted

/-- If credentials are not issued because a call fails, nothing has happened if it is the first one;
else there is a user, but no certificate. -/
theorem Creating.interrupted {m : DatabaseManager} {row : InstanceRow} {bindingId : String}
    {request : BindRequest} {b : DatabaseBackend} {w : DatabaseBackend × Failure CredentialError}
    {n : Nat} {e cause : CredentialError} {r : Except CredentialError Fields}
    (h : m.Creating (.of (interrupted answer)) row bindingId request (b, some (n, e)) r w)
    (accepted : ∃ user, requestedUser request = .ok user) (failed : r = .error cause) :
    n = 0 ∧ w.1 = b ∨ 0 < n ∧ ∃ user, Inserted b user w.1 := by
  obtain ⟨user, accepted⟩ := accepted
  cases h with
  | refused refusal => cases accepted.symm.trans refusal
  | uninserted _ declined =>
    cases n with
    | zero =>
      cases declined
      exact .inl ⟨rfl, rfl⟩
    | succ n => cases declined
  | unfinished _ inserted polling =>
    cases n with
    | zero => cases inserted
    | succ n =>
      cases inserted
      exact .inr ⟨n.succ_pos, _, Inserted.waited polling ⟨rfl, rfl, rfl⟩⟩
  | inserted _ inserted finished certified =>
    cases n with
    | zero => cases inserted
    | succ n =>
      cases inserted
      have left := Inserted.waited finished ⟨rfl, rfl, rfl⟩
      rcases interrupted_cases certified with answered | ⟨-, same⟩
      · cases congrArg Prod.fst answered
        cases failed
      · rw [same]
        exact .inr ⟨n.succ_pos, _, left⟩

end DatabaseManager

end Brokerage
