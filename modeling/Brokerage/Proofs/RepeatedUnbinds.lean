import Brokerage.Proofs.Account.FailedWithdrawals
import Brokerage.Proofs.Revocation

/-! Unbinds that fail and are repeated. A failed unbind leaves the row of the binding as it is, so
that the next one withdraws the same credentials from the beginning. That can be done as long as the
service account, or the certificate of the database user, is still there; what the first unbind has
deleted is missed by the second one. -/

namespace Brokerage

namespace Broker

/-- An unbind that succeeds: the row of the binding is deleted, and its pair has none. What is left
of the backend is `clean`. -/
def Unbinds {ρ σ : Type} (b : Broker) (resources : ResourceManager ρ) (accounts : AccountManager σ)
    (now : Instant) (id bindingId : String) (request : UnbindRequest) (binding : BindingRow)
    (clean : σ → Prop) (w : Store × ρ × σ) : Prop :=
  ∃ s' x' t', b.unbindOver resources accounts now id bindingId request w =
      (.ok .unbound, s', x', t') ∧
    (∃ time, Store.withdrawn time binding ∈ s'.bindings) ∧
    s'.liveBinding? id bindingId = none ∧ clean t'

variable {ρ σ : Type} {b : Broker} {resources : ResourceManager ρ} {now later : Instant}
  {id bindingId : String} {request again : UnbindRequest} {s s' : Store} {x x' : ρ}
  {asked : List Consultation} {row : InstanceRow} {binding : BindingRow} {provider : Provider}
  {faults : Faults} {e : BrokerError}

theorem MayUnbind.unbinds {accounts : AccountManager σ} {clean : σ → Prop} {t t' : σ}
    (may : b.MayUnbind id bindingId s row binding provider)
    (deleted : accounts.delete row binding t = (.ok (), t')) (spotless : clean t') :
    b.Unbinds resources accounts now id bindingId request binding clean (s, x, t) := by
  obtain ⟨time, unbinds⟩ := may.unbindOver_of_ok request deleted
  have held : binding ∈ s.liveBindings id bindingId :=
    List.mem_of_head? ((Store.liveBinding?_eq_head? ..).symm.trans may.held)
  exact ⟨_, _, _, unbinds, ⟨time, withdrawn_mem_unbound held⟩, liveBinding?_unbound time, spotless⟩

/-- Service accounts: the second unbind succeeds unless it was only the last write of the first one
that failed, and the account was gone by then. -/
theorem unbindOver_identity_repeated {m : IdentityManager} {info : AccountInfo} {t t' : σ}
    {hampered : (call : IdentityCall) → σ → Except CredentialError call.Value × σ}
    {view : σ → Directory} (service : IdentityService)
    (may : b.MayUnbind id bindingId s row binding provider) (attempts : 0 < m.maxAttempts)
    (stored : AccountInfo.read? binding.otherDetails = some info)
    (withdraws : Directory.Withdraws view (.of hampered))
    (known : (view t).HasAccount info.uniqueId)
    (failed : Acts faults (b.perform now (.unbind id bindingId request)) s asked (.error e) s')
    (consulted : Consulted (managedAnswer resources (m.over hampered)) asked (x, t) (x', t')) :
    s' = s ∧ x' = x ∧
      (e.isOrphaning = false ∧ b.Unbinds resources (m.over service.answer) later id bindingId again
          binding (IdentityManager.Clean info) (s', x', view t') ∨
        e.isOrphaning = true ∧ ∀ d, d.accounts = (view t').accounts →
          ∃ d', d'.accounts = (view t').accounts ∧
            b.unbindOver resources (m.over service.answer) later id bindingId again (s', x', d) =
              (.error (.provider (.credentials (.missing ("account " ++ info.uniqueId)))), s', x',
                d')) := by
  obtain ⟨rfl, course⟩ := ManagedUnbinding.of_acts may failed consulted
  have repeatable : (view t').HasAccount info.uniqueId →
      b.Unbinds resources (m.over service.answer) later id bindingId again binding
        (IdentityManager.Clean info) (s, x', view t') := by
    intro known
    obtain ⟨d', deleted, clean⟩ :=
      IdentityManager.delete_over_clean service row attempts stored known
    exact may.unbinds deleted clean
  obtain ⟨rfl, ⟨orphans, rfl⟩ | ⟨result, deleted, told⟩⟩ := course.of_error
  · exact ⟨rfl, rfl, .inl ⟨orphans, repeatable known⟩⟩
  obtain ⟨trace, runs⟩ := Program.Runs.of_answer deleted
  rcases (IdentityManager.Deleting.of_runs runs).left withdraws stored with
    ⟨⟨cause, rfl⟩, same⟩ | ⟨rfl, gone⟩
  · have unreported : e.isOrphaning = false :=
      Bool.eq_false_iff.mpr fun orphans => nomatch told.mp orphans
    refine ⟨rfl, rfl, .inl ⟨unreported, repeatable ?_⟩⟩
    rwa [Directory.HasAccount, same]
  · refine ⟨rfl, rfl, .inr ⟨told.mpr rfl, fun d same => ?_⟩⟩
    have missing : ¬ d.HasAccount info.uniqueId := by rwa [Directory.HasAccount, same]
    obtain ⟨d', declined, kept⟩ :=
      IdentityManager.delete_over_of_missing service row attempts stored missing
    exact ⟨d', kept.trans same, may.unbindOver_of_error declined⟩

/-- Database users: the second unbind succeeds unless the first one got so far that the certificate
was deleted. -/
theorem unbindOver_database_repeated {m : DatabaseManager} {info : DatabaseInfo} {t t' : σ}
    {hampered : (call : DatabaseCall) → σ → Except CredentialError call.Value × σ}
    {view : σ → Databases} {service : DatabaseService} (running : String → Nat)
    (may : b.MayUnbind id bindingId s row binding provider)
    (finishes : service.FinishesWithin m.maxPolls)
    (stored : DatabaseInfo.read? binding.otherDetails = some info)
    (withdraws : Databases.Withdraws view (.of hampered))
    (held : info.caCert ≠ "" → (view t).HasCertificate row.name info.fingerprint)
    (failed : Acts faults (b.perform now (.unbind id bindingId request)) s asked (.error e) s')
    (consulted : Consulted (managedAnswer resources (m.over hampered)) asked (x, t) (x', t')) :
    let cut := (view t).removeCertificate row.name info.fingerprint
    s' = s ∧ x' = x ∧
      ((info.caCert = "" ∨ view t' = view t) ∧
          b.Unbinds resources (m.over service.answer) later id bindingId again binding
            (DatabaseManager.Clean row info) (s', x', ⟨view t', running⟩) ∨
        info.caCert ≠ "" ∧ (view t' = cut ∨ view t' = cut.removeUser row.name info.username) ∧
          b.unbindOver resources (m.over service.answer) later id bindingId again
              (s', x', ⟨view t', running⟩) =
            (.error (.provider (.credentials (.missing ("certificate " ++ info.fingerprint)))), s',
              x', ⟨view t', running⟩)) := by
  intro cut
  obtain ⟨rfl, course⟩ := ManagedUnbinding.of_acts may failed consulted
  have repeatable : (info.caCert ≠ "" → (view t').HasCertificate row.name info.fingerprint) →
      b.Unbinds resources (m.over service.answer) later id bindingId again binding
        (DatabaseManager.Clean row info) (s, x', ⟨view t', running⟩) := by
    intro held
    obtain ⟨w, deleted, clean⟩ :=
      DatabaseManager.delete_over_service_clean running finishes stored held
    exact may.unbinds deleted clean
  obtain ⟨rfl, ⟨-, rfl⟩ | ⟨result, deleted, -⟩⟩ := course.of_error
  · exact ⟨rfl, rfl, .inl ⟨.inr rfl, repeatable held⟩⟩
  obtain ⟨trace, runs⟩ := Program.Runs.of_answer deleted
  by_cases certified : info.caCert = ""
  · exact ⟨rfl, rfl, .inl ⟨.inl certified, repeatable (absurd certified)⟩⟩
  rcases (DatabaseManager.Deleting.of_runs runs).left withdraws stored certified with
    ⟨-, same⟩ | left
  · refine ⟨rfl, rfl, .inl ⟨.inr same, repeatable ?_⟩⟩
    rwa [same]
  · have gone : ¬ (view t').HasCertificate row.name info.fingerprint := by
      rcases left with left | left <;> rw [left] <;>
        exact Databases.not_hasCertificate_removeCertificate
    refine ⟨rfl, rfl, .inr ⟨certified, left, may.unbindOver_of_error ?_⟩⟩
    exact DatabaseManager.delete_over_service_of_missing running stored certified gone

/-- A failed unbind leaves the row of the binding as it is, and can be repeated with success as long
as the first one did not get too far, whatever hampered it. For a provider with service accounts it
got too far if the account was deleted, so that only the last write failed, which is reported as
orphaning; for one with database users if the certificate was deleted. Then the second one, and with
it every later one, is refused because what it asks to delete is not there. -/
theorem unbind_repeatable_or_spent (may : b.MayUnbind id bindingId s row binding provider)
    (failed : Acts faults (b.perform now (.unbind id bindingId request)) s asked (.error e) s') :
    (∀ {σ : Type} (m : IdentityManager) (service : IdentityService) (info : AccountInfo)
        (hampered : (call : IdentityCall) → σ → Except CredentialError call.Value × σ)
        (view : σ → Directory) (t t' : σ),
      0 < m.maxAttempts → AccountInfo.read? binding.otherDetails = some info →
      Directory.Withdraws view (.of hampered) → (view t).HasAccount info.uniqueId →
      Consulted (managedAnswer resources (m.over hampered)) asked (x, t) (x', t') →
      s' = s ∧ x' = x ∧
        (e.isOrphaning = false ∧ b.Unbinds resources (m.over service.answer) later id bindingId
            again binding (IdentityManager.Clean info) (s', x', view t') ∨
          e.isOrphaning = true ∧ ∀ d, d.accounts = (view t').accounts →
            ∃ d', d'.accounts = (view t').accounts ∧
              b.unbindOver resources (m.over service.answer) later id bindingId again (s', x', d) =
                (.error (.provider (.credentials (.missing ("account " ++ info.uniqueId)))), s', x',
                  d'))) ∧
    ∀ {σ : Type} (m : DatabaseManager) (service : DatabaseService) (info : DatabaseInfo)
        (hampered : (call : DatabaseCall) → σ → Except CredentialError call.Value × σ)
        (view : σ → Databases) (t t' : σ) (running : String → Nat),
      service.FinishesWithin m.maxPolls → DatabaseInfo.read? binding.otherDetails = some info →
      Databases.Withdraws view (.of hampered) →
      (info.caCert ≠ "" → (view t).HasCertificate row.name info.fingerprint) →
      Consulted (managedAnswer resources (m.over hampered)) asked (x, t) (x', t') →
      let cut := (view t).removeCertificate row.name info.fingerprint
      s' = s ∧ x' = x ∧
        ((info.caCert = "" ∨ view t' = view t) ∧
            b.Unbinds resources (m.over service.answer) later id bindingId again binding
              (DatabaseManager.Clean row info) (s', x', ⟨view t', running⟩) ∨
          info.caCert ≠ "" ∧ (view t' = cut ∨ view t' = cut.removeUser row.name info.username) ∧
            b.unbindOver resources (m.over service.answer) later id bindingId again
                (s', x', ⟨view t', running⟩) =
              (.error (.provider (.credentials (.missing ("certificate " ++ info.fingerprint)))), s',
                x', ⟨view t', running⟩)) :=
  ⟨fun _ service _ _ _ _ _ attempts stored withdraws known consulted =>
      unbindOver_identity_repeated service may attempts stored withdraws known failed consulted,
    fun _ _ _ _ _ _ _ running finishes stored withdraws held consulted =>
      unbindOver_database_repeated running may finishes stored withdraws held failed consulted⟩

end Broker

namespace Sample

/-! A binding for a service account and one for a database user, as a bind leaves them. -/

def account : AccountInfo := accountManager.issuedFor identities noAccounts "j" "reader"

def accountBinding : BindingRow := Broker.issuedRow 10 "i" "j" madeRow 1 account.credentials

def accountBound : Store := Broker.issued 10 "i" "j" madeRow account.credentials 10 made

def oneAccount : Directory := IdentityManager.equipped identities noAccounts "j" "reader"

theorem account_issued : ∃ response,
    bindOver (accountManager.over identities.answer) 10 (made, {}, noAccounts) =
      (.ok response, accountBound, {}, oneAccount) := ⟨_, rfl⟩

theorem account_mayUnbind :
    promptBroker.MayUnbind "i" "j" accountBound madeRow accountBinding promptProvider where
  live := rfl
  held := rfl
  active := rfl
  served := rfl

/-- A backend each of whose operations is running when it is first polled. -/
def databases : DatabaseService where
  issue _ _ commonName := ⟨"ab", commonName, "key", "ca"⟩
  operation _ call := call.name
  delay _ _ := 1

def databaseUser : DatabaseUser := ⟨madeRow.name, "u", "s"⟩

def user : DatabaseInfo :=
  DatabaseManager.infoOf databaseUser (databases.certificateFor {} databaseUser "j")

def userBinding : BindingRow := Broker.issuedRow 10 "i" "j" madeRow 1 user.credentials

def userBound : Store := Broker.issued 10 "i" "j" madeRow user.credentials 10 made

def oneUser : Databases := DatabaseManager.equipped databases {} databaseUser "j"

theorem user_issued : ∃ response running,
    bindOver (userManager.over databases.answer) 10 (made, {}, {}) =
      (.ok response, userBound, {}, ⟨oneUser, running⟩) := ⟨_, _, rfl⟩

theorem user_mayUnbind :
    promptBroker.MayUnbind "i" "j" userBound madeRow userBinding promptProvider where
  live := rfl
  held := rfl
  active := rfl
  served := rfl

/-- Unbinds over a provider that does not fail in deleting resources. -/
def unbindOver {σ : Type} (accounts : AccountManager σ) (now : Instant) :
    Store × NamedResources × σ → Except BrokerError Response × Store × NamedResources × σ :=
  promptBroker.unbindOver NamedResources.manager accounts now "i" "j" {}

def down : CredentialError := .backend 500 "down"

end Sample

namespace Broker

/-- The account cannot be deleted although its role has been taken back, and the certificate cannot
be deleted; in both cases the second unbind succeeds. -/
theorem unbind_repeatable_or_spent_interrupted :
    let accounts := Sample.accountManager.over Sample.identities.answer
    let accounts' := Sample.accountManager.over (interrupted Sample.identities.answer)
    let users := Sample.userManager.over Sample.databases.answer
    let users' := Sample.userManager.over (interrupted Sample.databases.answer)
    let d := Sample.oneAccount
    let revoked := d.write (RoleBinding.merge (RoleBinding.removeMember
      (memberFor Sample.account.email) d.policy.bindings)) (Sample.identities.tag d)
    let w : DatabaseState := { databases := Sample.oneUser }
    Sample.unbindOver accounts' 20 (Sample.accountBound, {}, d, some (2, Sample.down)) =
        (.error (.provider (.credentials Sample.down)), Sample.accountBound, {}, revoked, none) ∧
      Sample.promptBroker.Unbinds NamedResources.manager accounts 30 "i" "j" {}
        Sample.accountBinding (IdentityManager.Clean Sample.account)
        (Sample.accountBound, {}, revoked) ∧
      Sample.unbindOver users' 20 (Sample.userBound, {}, w, some (0, Sample.down)) =
        (.error (.provider (.credentials Sample.down)), Sample.userBound, {}, w, none) ∧
      Sample.promptBroker.Unbinds NamedResources.manager users 30 "i" "j" {} Sample.userBinding
        (DatabaseManager.Clean Sample.madeRow Sample.user) (Sample.userBound, {}, w) := by
  intro accounts accounts' users users' d revoked w
  have stored : AccountInfo.read? Sample.accountBinding.otherDetails = some Sample.account :=
    AccountInfo.read?_credentials Sample.account
  have stored' : DatabaseInfo.read? Sample.userBinding.otherDetails = some Sample.user :=
    DatabaseInfo.read?_credentials Sample.user
  have declined : accounts'.delete Sample.madeRow Sample.accountBinding
      (d, some (2, Sample.down)) = (.error Sample.down, revoked, none) :=
    (IdentityManager.delete_eq stored ..).trans rfl
  have declined' : users'.delete Sample.madeRow Sample.userBinding
      (w, some (0, Sample.down)) = (.error Sample.down, w, none) :=
    (DatabaseManager.delete_eq stored' _).trans rfl
  have failed : Sample.unbindOver accounts' 20
      (Sample.accountBound, {}, d, some (2, Sample.down)) = _ :=
    Sample.account_mayUnbind.unbindOver_of_error declined
  have failed' : Sample.unbindOver users' 20
      (Sample.userBound, {}, w, some (0, Sample.down)) = _ :=
    Sample.user_mayUnbind.unbindOver_of_error declined'
  refine ⟨failed, ?_, failed', ?_⟩
  · obtain ⟨asked, acts, consulted⟩ := acts_of_serve failed
    have known : d.HasAccount Sample.account.uniqueId := ⟨_, List.mem_singleton_self _, rfl⟩
    obtain ⟨-, -, ⟨-, again⟩ | ⟨⟨⟩, -⟩⟩ :=
      (unbind_repeatable_or_spent Sample.account_mayUnbind acts).1 _ Sample.identities
        Sample.account _ Prod.fst _ _ (by decide) stored
        (Sample.identities.withdraws.interrupted) known consulted
    exact again
  · obtain ⟨asked, acts, consulted⟩ := acts_of_serve failed'
    have finishes : Sample.databases.FinishesWithin Sample.userManager.maxPolls :=
      fun _ _ => (by decide : 1 < 300)
    have held : w.databases.HasCertificate Sample.madeRow.name Sample.user.fingerprint :=
      ⟨_, List.mem_singleton_self _, rfl, rfl⟩
    obtain ⟨-, -, ⟨-, again⟩ | ⟨-, cut | cut, -⟩⟩ :=
      (unbind_repeatable_or_spent Sample.user_mayUnbind acts).2 _ Sample.databases Sample.user _
        (·.1.databases) _ _ (fun _ => 0) finishes stored'
        Sample.databases.withdraws.interrupted (fun _ => held) consulted
    · exact again
    all_goals cases congrArg Databases.certificates cut

/-- Two bindings, each issued by a bind, that cannot be unbound any more. Of the one, only the row
could not be written, and its account is missed now; of the other, the user could not be deleted,
and its certificate is missed. -/
theorem unbind_spent_half_done :
    let accounts := Sample.accountManager.over Sample.identities.answer
    let users := Sample.userManager.over Sample.databases.answer
    let users' := Sample.userManager.over (interrupted Sample.databases.answer)
    let unwritten : Faults := fun call _ => call = .softDeleteBinding "i" "j"
    let s := Sample.accountBound
    let s' := Sample.userBound
    (∃ response, Sample.bindOver accounts 10 (Sample.made, {}, Sample.noAccounts) =
        (.ok response, s, {}, Sample.oneAccount)) ∧
      (∃ response running, Sample.bindOver users 10 (Sample.made, {}, {}) =
        (.ok response, s', {}, ⟨Sample.oneUser, running⟩)) ∧
      (∃ asked gone d', Acts unwritten (Sample.promptBroker.perform 20 (.unbind "i" "j" {})) s asked
            (.error (.orphaned "binding" "j" "unbind" (.database .poolClosed))) s ∧
        Consulted (managedAnswer NamedResources.manager accounts) asked ({}, Sample.oneAccount)
          ({}, gone) ∧
        Sample.unbindOver accounts 30 (s, {}, gone) =
          (.error (.provider (.credentials (.missing "account uid-sb-binding-j"))), s, {}, d') ∧
        s.liveBinding? "i" "j" = some Sample.accountBinding) ∧
      ∃ left, Sample.unbindOver users' 20
          (s', {}, { databases := Sample.oneUser }, some (3, Sample.down)) =
            (.error (.provider (.credentials Sample.down)), s', {}, left, none) ∧
        Sample.unbindOver users 30 (s', {}, left) =
          (.error (.provider (.credentials (.missing "certificate ab"))), s', {}, left) ∧
        s'.liveBinding? "i" "j" = some Sample.userBinding ∧
        left.databases.HasUser Sample.madeRow.name Sample.user.username := by
  intro accounts users users' unwritten s s'
  have stored : AccountInfo.read? Sample.accountBinding.otherDetails = some Sample.account :=
    AccountInfo.read?_credentials Sample.account
  have stored' : DatabaseInfo.read? Sample.userBinding.otherDetails = some Sample.user :=
    DatabaseInfo.read?_credentials Sample.user
  refine ⟨Sample.account_issued, Sample.user_issued, ?_, ?_⟩
  · have known : Sample.oneAccount.HasAccount Sample.account.uniqueId :=
      ⟨_, List.mem_singleton_self _, rfl⟩
    obtain ⟨gone, deleted, missing, -⟩ := IdentityManager.delete_over_clean
      (m := Sample.accountManager) Sample.identities Sample.madeRow (by decide) stored known
    have told : managedAnswer NamedResources.manager accounts
        (.unbind Sample.madeRow Sample.accountBinding) ({}, Sample.oneAccount) =
          (.ok (), {}, gone) := congrArg (fromAccounts ({} : NamedResources)) deleted
    obtain ⟨d', declined, -⟩ := IdentityManager.delete_over_of_missing
      (m := Sample.accountManager) Sample.identities Sample.madeRow (by decide) stored missing
    refine ⟨[⟨s, Sample.promptProvider, .unbind Sample.madeRow Sample.accountBinding, .ok ()⟩],
      gone, d', ⟨[⟨s, .store (.getInstance "i"), .ok Sample.madeRow⟩,
        ⟨s, .store (.getBinding "i" "j"), .ok Sample.accountBinding⟩,
        ⟨s, .provider Sample.promptProvider (.unbind Sample.madeRow Sample.accountBinding), .ok ()⟩,
        ⟨s, .store (.softDeleteBinding "i" "j"), .error (.database .poolClosed)⟩], ?_, rfl⟩,
      ?_, ?_, rfl⟩
    · refine .ask (World.store 20 rfl) ?_
      refine .ask (World.store 20 rfl) ?_
      refine .ask (World.provider _) ?_
      refine .ask (World.fault rfl) ?_
      exact .done
    · exact consulted_cons.mpr ⟨(congrArg Prod.fst told).symm, (congrArg Prod.snd told).symm⟩
    · exact Sample.account_mayUnbind.unbindOver_of_error declined
  · obtain ⟨left, declined, cut, kept⟩ : ∃ left, users'.delete Sample.madeRow Sample.userBinding
        ({ databases := Sample.oneUser }, some (3, Sample.down)) =
          (.error Sample.down, left, none) ∧
        left.databases.certificates = [] ∧ left.databases.users = [Sample.databaseUser] :=
      ⟨_, (DatabaseManager.delete_eq stored' _).trans rfl, rfl, rfl⟩
    have missing : ¬ left.databases.HasCertificate Sample.madeRow.name Sample.user.fingerprint := by
      rintro ⟨issued, held, -⟩
      rw [cut] at held
      cases held
    refine ⟨left, Sample.user_mayUnbind.unbindOver_of_error declined, ?_, rfl, ?_⟩
    · exact Sample.user_mayUnbind.unbindOver_of_error
        (DatabaseManager.delete_over_service_of_missing left.running stored' (by decide) missing)
    · exact ⟨Sample.databaseUser, by rw [kept]; exact List.mem_singleton_self _, rfl, rfl⟩

end Broker

end Brokerage
