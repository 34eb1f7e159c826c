import Brokerage.Proofs.Account.Databases
import Brokerage.Proofs.PartialBinds
import Brokerage.Proofs.Withdrawal

/-! Withdrawals of credentials that fail, and what a second one makes of what they leave. A backend
may fail at any call, but it deletes what it says it deletes. The second withdrawal begins anew: it
wants the service account, or the certificate of the database user, to be there still, and puts up
with a missing user only. -/

namespace Brokerage

/-! ### What there is to be deleted -/

namespace Directory

def HasAccount (d : Directory) (uniqueId : String) : Prop :=
  ∃ r ∈ d.accounts, r.account.uniqueId = uniqueId

/-- Calls are answered out of the directory that `view` shows, and an account that is deleted is
gone. -/
structure Withdraws {σ : Type} (view : σ → Directory) (replies : Replies identityInterface σ) :
    Prop extends Backs view replies where
  deleted : ∀ {s s' uniqueId}, replies (.deleteServiceAccount uniqueId) s (.ok ()) s' →
    view s' = (view s).remove uniqueId

theorem not_hasAccount_remove {d : Directory} {uniqueId : String} :
    ¬ (d.remove uniqueId).HasAccount uniqueId := by
  rintro ⟨r, held, same⟩
  obtain ⟨-, other⟩ := List.mem_filter.mp held
  exact bne_iff_ne.mp other same

end Directory

namespace Databases

/-- Calls are answered out of the databases that `view` shows: what is deleted is gone, and nothing
comes of a poll or of a call that fails. -/
structure Withdraws {σ : Type} (view : σ → Databases) (replies : Replies databaseInterface σ) :
    Prop where
  certificateDeleted : ∀ {s s' instanceName fingerprint operation},
    replies (.deleteCertificate instanceName fingerprint) s (.ok operation) s' →
    view s' = (view s).removeCertificate instanceName fingerprint
  userDeleted : ∀ {s s' instanceName username operation},
    replies (.deleteUser instanceName username) s (.ok operation) s' →
    view s' = (view s).removeUser instanceName username
  polled : ∀ {s s' operation done}, replies (.operationDone operation) s (.ok done) s' →
    view s' = view s
  failed : ∀ {call s s' e}, replies call s (.error e) s' → view s' = view s

end Databases

/-- A backend that answers as it always does, except that one call may fail, is one such. -/
theorem Directory.Withdraws.interrupted
    {answer : (call : IdentityCall) → Directory → Except CredentialError call.Value × Directory}
    (withdraws : Withdraws id (.of answer)) : Withdraws Prod.fst (.of (interrupted answer)) where
  toBacks := withdraws.toBacks.interrupted
  deleted answered := withdraws.deleted (interrupted_ok answered)

theorem IdentityService.withdraws (service : IdentityService) :
    Directory.Withdraws id (.of service.answer) where
  toBacks := service.backs
  deleted {d d' uniqueId} answered := by
    have deleted : service.answer (.deleteServiceAccount uniqueId) d = (.ok (), d') := answered
    simp only [answer] at deleted
    split at deleted <;> cases deleted
    rfl

theorem Databases.Withdraws.interrupted {σ : Type} {view : σ → Databases}
    {answer : (call : DatabaseCall) → σ → Except CredentialError call.Value × σ}
    (withdraws : Withdraws view (.of answer)) :
    Withdraws (view ·.1) (.of (interrupted answer)) where
  certificateDeleted answered := withdraws.certificateDeleted (interrupted_ok answered)
  userDeleted answered := withdraws.userDeleted (interrupted_ok answered)
  polled answered := withdraws.polled (interrupted_ok answered)
  failed answered := by
    rcases interrupted_cases answered with answered | ⟨-, same⟩
    · exact withdraws.failed answered
    · rw [same]

theorem DatabaseService.withdraws (service : DatabaseService) :
    Databases.Withdraws DatabaseState.databases (.of service.answer) where
  certificateDeleted {w w' instanceName fingerprint operation} answered := by
    have deleted : service.answer (.deleteCertificate instanceName fingerprint) w =
        (.ok operation, w') := answered
    simp only [answer] at deleted
    split at deleted <;> cases deleted
    rfl
  userDeleted {w w' instanceName username operation} answered := by
    have deleted : service.answer (.deleteUser instanceName username) w = (.ok operation, w') :=
      answered
    simp only [answer] at deleted
    split at deleted <;> cases deleted
    rfl
  polled {w w' operation done} answered := by
    have polled : service.answer (.operationDone operation) w = (.ok done, w') := answered
    simp only [answer] at polled
    split at polled <;> cases polled <;> rfl
  failed {call w w' e} answered := by
    have refused : service.answer call w = (.error e, w') := answered
    cases call with
    | insertUser | insertCertificate => cases refused
    | operationDone =>
      simp only [answer] at refused
      split at refused <;> cases refused
    | deleteUser | deleteCertificate =>
      simp only [answer] at refused
      split at refused <;> cases refused
      rfl

section Deletion

variable {σ : Type} {s s' : σ} {binding : BindingRow} {r : Except CredentialError Unit}

theorem IdentityManager.Deleting.left {view : σ → Directory}
    {replies : Replies identityInterface σ} {trace : List (Exchange identityInterface σ)}
    {m : IdentityManager} {info : AccountInfo} (h : m.Deleting replies binding s trace r s')
    (withdraws : Directory.Withdraws view replies)
    (stored : AccountInfo.read? binding.otherDetails = some info) :
    (∃ e, r = .error e) ∧ (view s').accounts = (view s).accounts ∨
      r = .ok () ∧ ¬ (view s').HasAccount info.uniqueId := by
  cases h with
  | unreadable lost => cases stored.symm.trans lost
  | unrevoked _ failed =>
    obtain ⟨-, tag, ⟨⟨⟩, -⟩ | ⟨-, left⟩⟩ := failed.backed withdraws.toBacks
    exact .inl ⟨⟨_, rfl⟩, by rw [left]; rfl⟩
  | revoked stored' revoked deleted =>
    cases stored.symm.trans stored'
    obtain ⟨-, tag, ⟨-, left⟩ | ⟨⟨_, ⟨⟩⟩, -⟩⟩ := revoked.backed withdraws.toBacks
    cases r with
    | ok =>
      refine .inr ⟨rfl, ?_⟩
      rw [withdraws.deleted deleted]
      exact Directory.not_hasAccount_remove
    | error e =>
      obtain ⟨tag', kept⟩ := withdraws.failed deleted
      exact .inl ⟨⟨e, rfl⟩, by rw [kept, left]; rfl⟩

namespace DatabaseManager

variable {view : σ → Databases} {replies : Replies databaseInterface σ}
  {trace : List (Exchange databaseInterface σ)} {m : DatabaseManager} {row : InstanceRow}
  {info : DatabaseInfo}

theorem Polling.left {limit n : Nat} {operation : String}
    (h : Polling replies limit operation n s trace r s')
    (withdraws : Databases.Withdraws view replies) : view s' = view s := by
  refine h.keeps (P := fun u => view u = view s) (fun {_ answer _} polled same => ?_) rfl
  cases answer with
  | ok => exact (withdraws.polled polled).trans same
  | error => exact (withdraws.failed polled).trans same

theorem Withdrawing.left (h : m.Withdrawing replies row info s trace r s')
    (withdraws : Databases.Withdraws view replies) (certified : info.caCert ≠ "") :
    (∃ e, r = .error e) ∧ view s' = view s ∨
      view s' = (view s).removeCertificate row.name info.fingerprint := by
  cases h with
  | spared uncertified => exact absurd uncertified certified
  | declined _ failed => exact .inl ⟨⟨_, rfl⟩, withdraws.failed failed⟩
  | accepted _ started polling =>
    exact .inr ((polling.left withdraws).trans (withdraws.certificateDeleted started))

theorem Removing.left (h : m.Removing replies row info s trace r s')
    (withdraws : Databases.Withdraws view replies) :
    view s' = view s ∨ view s' = (view s).removeUser row.name info.username := by
  cases h with
  | gone failed | declined failed => exact .inl (withdraws.failed failed)
  | accepted started polling =>
    exact .inr ((polling.left withdraws).trans (withdraws.userDeleted started))

theorem Deleting.left (h : m.Deleting replies row binding s trace r s')
    (withdraws : Databases.Withdraws view replies)
    (stored : DatabaseInfo.read? binding.otherDetails = some info) (certified : info.caCert ≠ "") :
    let cut := (view s).removeCertificate row.name info.fingerprint
    (∃ e, r = .error e) ∧ view s' = view s ∨
      view s' = cut ∨ view s' = cut.removeUser row.name info.username := by
  intro cut
  cases h with
  | unreadable lost => cases stored.symm.trans lost
  | unwithdrawn stored' failed =>
    cases stored.symm.trans stored'
    exact (failed.left withdraws certified).imp_right .inl
  | @withdrawn info' t _ _ _ _ stored' withdrawn removing =>
    cases stored.symm.trans stored'
    have gone : view t = cut :=
      (withdrawn.left withdraws certified).resolve_left fun h => nomatch h.1
    exact .inr (gone ▸ removing.left withdraws)

end DatabaseManager

end Deletion

/-! ### Withdrawing again -/

namespace IdentityManager

open RoleBinding (Grants)

variable {σ : Type} {m : IdentityManager} {d : Directory} {binding : BindingRow}
  {info : AccountInfo}

theorem delete_eq {answer : (call : IdentityCall) → σ → Except CredentialError call.Value × σ}
    (stored : AccountInfo.read? binding.otherDetails = some info) (row : InstanceRow) (t : σ) :
    (m.over answer).delete row binding t = Program.run answer
      (m.revokeMember info.email >>= fun _ =>
        (IdentityCall.deleteServiceAccount info.uniqueId).ask).run t := by
  show Program.run answer (m.deleteCredentials binding).run t = _
  rw [deleteCredentials_eq stored]

/-- Nothing of the credentials is left: there is no account, and nothing is granted to it. -/
def Clean (info : AccountInfo) (d : Directory) : Prop :=
  ¬ d.HasAccount info.uniqueId ∧ ∀ role, ¬ Grants d.policy.bindings role (memberFor info.email)

theorem delete_over_clean (service : IdentityService) (row : InstanceRow)
    (attempts : 0 < m.maxAttempts)
    (stored : AccountInfo.read? binding.otherDetails = some info)
    (known : d.HasAccount info.uniqueId) :
    ∃ d', (m.over service.answer).delete row binding d = (.ok (), d') ∧ Clean info d' := by
  refine ⟨_, delete_over row binding attempts stored known, Directory.not_hasAccount_remove, ?_⟩
  intro role granted
  exact (RoleBinding.grants_removeMember.mp (RoleBinding.grants_merge.mp granted)).2 rfl

/-- An account that is gone already is not passed over. -/
theorem delete_over_of_missing (service : IdentityService) (row : InstanceRow)
    (attempts : 0 < m.maxAttempts)
    (stored : AccountInfo.read? binding.otherDetails = some info)
    (missing : ¬ d.HasAccount info.uniqueId) :
    ∃ d', (m.over service.answer).delete row binding d =
      (.error (.missing ("account " ++ info.uniqueId)), d') ∧ d'.accounts = d.accounts := by
  have unlisted : d.accounts.any (·.account.uniqueId = info.uniqueId) = false :=
    List.any_eq_false.mpr fun r held same => missing ⟨r, held, of_decide_eq_true same⟩
  refine ⟨d.write (RoleBinding.merge (RoleBinding.removeMember (memberFor info.email)
    d.policy.bindings)) (service.tag d), ?_, rfl⟩
  refine (delete_eq stored row d).trans ?_
  refine (Fallible.run_bind_of_ok _ (run_updatePolicy attempts _ _)).trans ?_
  exact if_neg (Bool.eq_false_iff.mp unlisted)

end IdentityManager

namespace DatabaseManager

variable {service : DatabaseService} {m : DatabaseManager} {d : Databases} {row : InstanceRow}
  {binding : BindingRow} {info : DatabaseInfo}

/-- Nothing of the credentials is left: there is no user, nor a certificate if there was one. -/
def Clean (row : InstanceRow) (info : DatabaseInfo) (w : DatabaseState) : Prop :=
  ¬ w.databases.HasUser row.name info.username ∧
    (info.caCert ≠ "" → ¬ w.databases.HasCertificate row.name info.fingerprint)

theorem delete_over_service_clean (running : String → Nat)
    (finishes : service.FinishesWithin m.maxPolls)
    (stored : DatabaseInfo.read? binding.otherDetails = some info)
    (held : info.caCert ≠ "" → d.HasCertificate row.name info.fingerprint) :
    ∃ w, (m.over service.answer).delete row binding ⟨d, running⟩ = (.ok (), w) ∧
      Clean row info w := by
  obtain ⟨running', deleted⟩ := delete_over_service running finishes stored held
  refine ⟨_, deleted, Databases.not_hasUser_removeUser, fun certified => ?_⟩
  have withdrawn : d.withoutCertificate row info =
      d.removeCertificate row.name info.fingerprint := if_neg certified
  rw [stripped, withdrawn]
  exact Databases.not_hasCertificate_removeCertificate

end DatabaseManager

end Brokerage
