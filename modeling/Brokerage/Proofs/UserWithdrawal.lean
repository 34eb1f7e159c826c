import Brokerage.Proofs.Account.Databases

/-! Issuing the credentials of a database user and withdrawing them. What is withdrawn is what was
issued. Whatever the backend answers, there is no certificate without its user: the user comes
first, and goes last. -/

namespace Brokerage.DatabaseManager

open Fallible (Runs)

variable {service : DatabaseService} {row : InstanceRow} {d : Databases} {bindingId : String}

/-- The user and the certificate that were added are all that is withdrawn. -/
theorem stripped_equipped {username password : String} :
    let user : DatabaseUser := ⟨row.name, username, password⟩
    let cert := service.certificateFor d user bindingId
    ¬ d.HasUser row.name username → ¬ d.HasCertificate row.name cert.fingerprint →
      cert.serverCa ≠ "" →
      stripped (equipped service d user bindingId) row (infoOf user cert) = d := by
  intro user cert free fresh certified
  have withdrawn : (equipped service d user bindingId).withoutCertificate row (infoOf user cert) =
      d.addUser user :=
    (if_neg certified).trans (Databases.removeCertificate_addCertificate fresh)
  rw [stripped, withdrawn]
  exact Databases.removeUser_addUser free

/-- Credentials that are issued to a new user can be withdrawn, and nothing is left of them then.
However a backend answers, the user is deleted only after its certificate, and a certificate is
asked for only after its user has been inserted. -/
theorem withdrawal_reverses_issue (m : DatabaseManager) (row : InstanceRow) :
    (∀ (service : DatabaseService) (w : DatabaseState) (bindingId username password : String)
        (request : BindRequest),
      service.FinishesWithin m.maxPolls → requestedUser request = .ok (username, password) →
      ¬ w.databases.HasUser row.name username →
      let user : DatabaseUser := ⟨row.name, username, password⟩
      let cert := service.certificateFor w.databases user bindingId
      ¬ w.databases.HasCertificate row.name cert.fingerprint → cert.serverCa ≠ "" →
      ∃ credentials issued,
        (m.over service.answer).create row bindingId request w = (.ok credentials, issued) ∧
        issued.databases = (w.databases.addUser user).addCertificate ⟨row.name, cert⟩ ∧
        ∀ binding : BindingRow, ∃ withdrawn,
          (m.over service.answer).delete row (binding.withCredentials credentials) issued =
            (.ok (), withdrawn) ∧
          withdrawn.databases = w.databases) ∧
    ∀ {σ : Type} (replies : Replies databaseInterface σ) (s s' : σ)
        (before after : List (Exchange databaseInterface σ)) (x : Exchange databaseInterface σ),
      (∀ binding r, Runs replies (m.deleteCredentials row binding) s (before ++ x :: after) r s' →
        ∀ instanceName username, x.call = .deleteUser instanceName username →
          ∃ info, DatabaseInfo.read? binding.otherDetails = some info ∧ instanceName = row.name ∧
            username = info.username ∧ Withdrawn row info before) ∧
      ∀ bindingId request r,
        Runs replies (m.createCredentials row bindingId request) s (before ++ x :: after) r s' →
        ∀ instanceName commonName, x.call = .insertCertificate instanceName commonName →
          instanceName = row.name ∧ commonName = certificateNameFor bindingId ∧
            ∃ username password operation polls, requestedUser request = .ok (username, password) ∧
              Finishes operation polls ∧
              before = ⟨s, .insertUser row.name username password, .ok operation⟩ :: polls := by
  refine ⟨fun service w bindingId username password request finishes accepted free => ?_,
    fun replies s s' before after x => ⟨fun binding r runs i u asked => ?_,
      fun bindingId request r runs i name asked => ?_⟩⟩
  · intro user cert fresh certified
    obtain ⟨running, created⟩ :=
      create_over_service row w.databases w.running bindingId finishes accepted
    refine ⟨_, _, created, rfl, fun binding => ?_⟩
    have stored : DatabaseInfo.read? (binding.withCredentials
        (infoOf user cert).credentials).otherDetails = some (infoOf user cert) :=
      DatabaseInfo.read?_credentials _
    have held : (equipped service w.databases user bindingId).HasCertificate row.name
        cert.fingerprint :=
      ⟨_, List.mem_append_right _ (List.mem_singleton.mpr rfl), rfl, rfl⟩
    obtain ⟨running', deleted⟩ := delete_over_service running finishes stored fun _ => held
    exact ⟨_, deleted, stripped_equipped free fresh certified⟩
  · exact (Deleting.of_runs runs).certificate_first rfl asked
  · exact user_first runs rfl asked

/-- Every operation is still running when it is first polled. In the other run the certificate has
gone by the time that the backend refuses to delete the user. -/
theorem withdrawal_reverses_issue_polled :
    let m : DatabaseManager := { flavor := .postgres, maxPolls := 2 }
    let service : DatabaseService :=
      ⟨fun _ _ name => ⟨"ab", name, "key", "ca"⟩,
        fun _ call => call.name, fun _ _ => 1⟩
    let w : DatabaseState :=
      ⟨⟨[⟨"db", "v", "t"⟩, ⟨"other", "u", "s"⟩], [⟨"db", ⟨"aa", "jcert", "key", "ca"⟩⟩]⟩,
        fun _ => 0⟩
    let row : InstanceRow := { InstanceRow.claim 0 "i" "s" "p" with name := "db" }
    let request : BindRequest :=
      { parameters? := some (.obj [("password", .str "s\"\\"), ("username", .str "u")]) }
    let cert := service.certificateFor w.databases ⟨"db", "u", "s\"\\"⟩ "j"
    let info := infoOf ⟨"db", "u", "s\"\\"⟩ cert
    let binding := (BindingRow.claim 0 "i" "j" "s").withCredentials info.credentials
    let replies : Replies databaseInterface Unit := fun _ _ _ _ => True
    let before : List (Exchange databaseInterface Unit) :=
      [⟨(), .deleteCertificate "db" "ab", .ok "op"⟩, ⟨(), .operationDone "op", .ok false⟩,
        ⟨(), .operationDone "op", .ok true⟩]
    let x : Exchange databaseInterface Unit :=
      ⟨(), .deleteUser "db" "u", .error (.backend 500 "down")⟩
    service.FinishesWithin m.maxPolls ∧ requestedUser request = .ok ("u", "s\"\\") ∧
      ¬ w.databases.HasUser "db" "u" ∧ ¬ w.databases.HasCertificate "db" cert.fingerprint ∧
      cert.serverCa ≠ "" ∧
      (∃ credentials issued,
        (m.over service.answer).create row "j" request w = (.ok credentials, issued) ∧
        issued.databases = (w.databases.addUser ⟨"db", "u", "s\"\\"⟩).addCertificate ⟨"db", cert⟩ ∧
        ∀ binding : BindingRow, ∃ withdrawn,
          (m.over service.answer).delete row (binding.withCredentials credentials) issued =
            (.ok (), withdrawn) ∧
          withdrawn.databases = w.databases) ∧
      Runs replies (m.deleteCredentials row binding) () (before ++ [x])
        (.error (.backend 500 "down")) () ∧
      Withdrawn row info before := by
  intro m service w row request cert info binding replies before x
  have finishes : service.FinishesWithin m.maxPolls := fun _ _ => Nat.lt_succ_self 1
  have accepted : requestedUser request = .ok ("u", "s\"\\") := rfl
  have free : ¬ w.databases.HasUser "db" "u" := by decide
  have fresh : ¬ w.databases.HasCertificate "db" cert.fingerprint := by decide
  have certified : cert.serverCa ≠ "" := by decide
  have stored : DatabaseInfo.read? binding.otherDetails = some info :=
    DatabaseInfo.read?_credentials info
  have runs : Runs replies (m.deleteCredentials row binding) () (before ++ [x])
      (.error (.backend 500 "down")) () := by
    rw [deleteCredentials_eq stored, deleteCertificate_eq certified]
    have asked {α call answer trace a} {next : _ → Program databaseInterface α}
        (rest : Program.Runs replies (next answer) () trace a ()) :
        Program.Runs replies (.ask call next) () (⟨(), call, answer⟩ :: trace) a () :=
      .ask trivial rest
    exact asked (asked (asked (asked .done)))
  obtain ⟨reverses, ordered⟩ := withdrawal_reverses_issue m row
  obtain ⟨info', stored', -, -, withdrawn⟩ :=
    (ordered replies () () before [] x).1 binding _ runs "db" "u" rfl
  cases stored.symm.trans stored'
  exact ⟨finishes, accepted, free, fresh, certified,
    reverses service w "j" "u" "s\"\\" request finishes accepted free fresh certified, runs,
    withdrawn⟩

end Brokerage.DatabaseManager
