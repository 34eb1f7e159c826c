import Brokerage.Proofs.PolicyEdits

/-! The courses that issuing and withdrawing the credentials of a service account may take, whatever
the calls are answered. An account is created, the policy is edited by attempts that each read it
and write it back, and a key is made; to withdraw them the policy is edited and the account deleted.
The first call that fails is the last one, save for a write that meets a conflict. -/

namespace Brokerage.IdentityManager

variable {σ : Type}

/-- The courses of an edit of the policy that has some attempts left. -/
inductive Attempts (replies : Replies identityInterface σ) (limit : Nat)
    (edit : List RoleBinding → List RoleBinding) :
    Nat → σ → List (Exchange identityInterface σ) → Except CredentialError Unit → σ → Prop
  | gaveUp {s : σ} : Attempts replies limit edit 0 s [] (.error (.retriesExhausted limit)) s
  | unread {n : Nat} {s s' : σ} {e : CredentialError} (read : replies .getPolicy s (.error e) s') :
      Attempts replies limit edit (n + 1) s [⟨s, .getPolicy, .error e⟩] (.error e) s'
  | ended {n : Nat} {s t s' : σ} {policy : Policy} {answer : Except CredentialError Unit}
      (read : replies .getPolicy s (.ok policy) t)
      (written : replies (.setPolicy (edited edit policy)) t answer s')
      (final : ∀ reason, answer ≠ .error (.conflict reason)) :
      Attempts replies limit edit (n + 1) s
        [⟨s, .getPolicy, .ok policy⟩, ⟨t, .setPolicy (edited edit policy), answer⟩] answer s'
  | conflicted {n : Nat} {s t u s' : σ} {policy : Policy} {reason : String}
      {rest : List (Exchange identityInterface σ)} {r : Except CredentialError Unit}
      (read : replies .getPolicy s (.ok policy) t)
      (lost : replies (.setPolicy (edited edit policy)) t (.error (.conflict reason)) u)
      (again : Attempts replies limit edit n u rest r s') :
      Attempts replies limit edit (n + 1) s
        (⟨s, .getPolicy, .ok policy⟩ ::
          ⟨t, .setPolicy (edited edit policy), .error (.conflict reason)⟩ :: rest) r s'

/-- What granting a role to an account does to the bindings. -/
abbrev granting (role email : String) (bindings : List RoleBinding) : List RoleBinding :=
  bindings ++ [⟨qualifiedRole role, [memberFor email]⟩]

/-- The call that creates the account of a binding. -/
abbrev creation (bindingId : String) : IdentityCall :=
  .createServiceAccount (accountIdFor bindingId) (accountIdFor bindingId)

/-- The credentials that an account and its key make. -/
def infoOf (m : IdentityManager) (account : ServiceAccount) (key : String) : AccountInfo :=
  ⟨account.displayName, account.email, account.uniqueId, m.projectId, key⟩

/-- The courses of issuing credentials. -/
inductive Creating (m : IdentityManager) (replies : Replies identityInterface σ)
    (bindingId : String) (request : BindRequest) (s : σ) :
    List (Exchange identityInterface σ) → Except CredentialError Fields → σ → Prop
  | refused {e : CredentialError} (refusal : m.requestedRole request = .error e) :
      Creating m replies bindingId request s [] (.error e) s
  | uncreated {role : String} {e : CredentialError} {s' : σ}
      (accepted : m.requestedRole request = .ok role)
      (failed : replies (creation bindingId) s (.error e) s') :
      Creating m replies bindingId request s [⟨s, creation bindingId, .error e⟩] (.error e) s'
  | ungranted {role : String} {account : ServiceAccount} {e : CredentialError} {t s' : σ}
      {trace : List (Exchange identityInterface σ)}
      (accepted : m.requestedRole request = .ok role)
      (created : replies (creation bindingId) s (.ok account) t)
      (failed : Attempts replies m.maxAttempts (granting role account.email) m.maxAttempts t trace
        (.error e) s') :
      Creating m replies bindingId request s
        (⟨s, creation bindingId, .ok account⟩ :: trace) (.error e) s'
  | granted {role : String} {account : ServiceAccount} {t u s' : σ}
      {trace : List (Exchange identityInterface σ)} {answer : Except CredentialError String}
      (accepted : m.requestedRole request = .ok role)
      (created : replies (creation bindingId) s (.ok account) t)
      (granted : Attempts replies m.maxAttempts (granting role account.email) m.maxAttempts t trace
        (.ok ()) u)
      (keyed : replies (.createKey account) u answer s') :
      Creating m replies bindingId request s
        (⟨s, creation bindingId, .ok account⟩ :: trace ++ [⟨u, .createKey account, answer⟩])
        (answer.map fun key => (m.infoOf account key).credentials) s'

/-- The courses of withdrawing credentials. -/
inductive Deleting (m : IdentityManager) (replies : Replies identityInterface σ)
    (binding : BindingRow) (s : σ) :
    List (Exchange identityInterface σ) → Except CredentialError Unit → σ → Prop
  | unreadable (lost : AccountInfo.read? binding.otherDetails = none) :
      Deleting m replies binding s [] (.error (.malformed .unreadable)) s
  | unrevoked {info : AccountInfo} {e : CredentialError} {s' : σ}
      {trace : List (Exchange identityInterface σ)}
      (stored : AccountInfo.read? binding.otherDetails = some info)
      (failed : Attempts replies m.maxAttempts (RoleBinding.removeMember (memberFor info.email))
        m.maxAttempts s trace (.error e) s') :
      Deleting m replies binding s trace (.error e) s'
  | revoked {info : AccountInfo} {t s' : σ} {trace : List (Exchange identityInterface σ)}
      {answer : Except CredentialError Unit}
      (stored : AccountInfo.read? binding.otherDetails = some info)
      (revoked : Attempts replies m.maxAttempts (RoleBinding.removeMember (memberFor info.email))
        m.maxAttempts s trace (.ok ()) t)
      (deleted : replies (.deleteServiceAccount info.uniqueId) t answer s') :
      Deleting m replies binding s
        (trace ++ [⟨t, .deleteServiceAccount info.uniqueId, answer⟩]) answer s'

variable {replies : Replies identityInterface σ} {s s' : σ}
  {trace : List (Exchange identityInterface σ)}

theorem Attempts.of_runs {limit n : Nat} {edit : List RoleBinding → List RoleBinding}
    {r : Except CredentialError Unit}
    (h : Fallible.Runs replies (updatePolicy limit edit n) s trace r s') :
    Attempts replies limit edit n s trace r s' := by
  induction n generalizing s trace with
  | zero =>
    obtain ⟨rfl, rfl, rfl⟩ := Fallible.runs_throw h
    exact .gaveUp
  | succ n ih =>
    unfold updatePolicy at h
    rcases IdentityCall.of_ask h with ⟨e, read, rfl, rfl⟩ | ⟨policy, t, rest, read, rfl, writing⟩
    · exact .unread read
    obtain ⟨answer, u, rest, written, rfl, ending⟩ := IdentityCall.of_attempt writing
    cases answer with
    | ok =>
      obtain ⟨rfl, rfl, rfl⟩ := Fallible.runs_pure ending
      exact .ended read written (by rintro reason ⟨⟩)
    | error e =>
      cases e with
      | conflict reason => exact .conflicted read written (ih ending)
      | _ =>
        obtain ⟨rfl, rfl, rfl⟩ := Fallible.runs_throw ending
        exact .ended read written (by rintro reason ⟨⟩)

variable {m : IdentityManager}

/-- What is done for every role of a list of one is done once. -/
theorem of_single_role {role : String} {f : String → IdentityProgram Unit}
    {r : Except CredentialError Unit} (h : Fallible.Runs replies ([role].forM f) s trace r s') :
    Fallible.Runs replies (f role) s trace r s' := by
  have sequenced : Fallible.Runs replies (f role >>= fun _ => pure ()) s trace r s' := h
  obtain ⟨r', rfl, ran⟩ := Fallible.runs_map sequenced
  cases r' <;> exact ran

theorem Creating.of_runs {bindingId : String} {request : BindRequest}
    {r : Except CredentialError Fields}
    (h : Fallible.Runs replies (m.createCredentials bindingId request) s trace r s') :
    m.Creating replies bindingId request s trace r s' := by
  unfold createCredentials at h
  cases accepted : m.requestedRole request with
  | error e =>
    rw [accepted] at h
    have failed : Fallible.Runs replies (throw e : IdentityProgram Fields) s trace r s' := h
    obtain ⟨rfl, rfl, rfl⟩ := Fallible.runs_throw failed
    exact .refused accepted
  | ok role =>
    rw [accepted] at h
    obtain ⟨r, rfl, making⟩ := Fallible.runs_map (p := m.createAccount bindingId [role]) h
    rcases IdentityCall.of_ask making with
      ⟨e, failed, rfl, rfl⟩ | ⟨account, t, rest, created, rfl, naming⟩
    · exact .uncreated accepted failed
    rcases Fallible.runs_bind naming with ⟨e, rfl, failed⟩ | ⟨trace, last, _, u, rfl, done, keying⟩
    · exact .ungranted accepted created (.of_runs (of_single_role failed))
    obtain ⟨answer, rfl, asking⟩ := Fallible.runs_map keying
    obtain ⟨rfl, keyed⟩ := Program.Runs.of_call asking
    have course := Creating.granted accepted created (.of_runs (of_single_role done)) keyed
    cases answer <;> exact course

theorem deleteCredentials_eq {binding : BindingRow} {info : AccountInfo}
    (stored : AccountInfo.read? binding.otherDetails = some info) :
    m.deleteCredentials binding = (m.revokeMember info.email >>= fun _ =>
      (IdentityCall.deleteServiceAccount info.uniqueId).ask) := by
  unfold deleteCredentials
  rw [stored]

theorem Deleting.of_runs {binding : BindingRow} {r : Except CredentialError Unit}
    (h : Fallible.Runs replies (m.deleteCredentials binding) s trace r s') :
    m.Deleting replies binding s trace r s' := by
  cases stored : AccountInfo.read? binding.otherDetails with
  | none =>
    unfold deleteCredentials at h
    rw [stored] at h
    obtain ⟨rfl, rfl, rfl⟩ := Fallible.runs_throw h
    exact .unreadable stored
  | some info =>
    rw [deleteCredentials_eq stored] at h
    rcases Fallible.runs_bind h with ⟨e, rfl, failed⟩ | ⟨trace, last, _, t, rfl, done, deleting⟩
    · exact .unrevoked stored (.of_runs failed)
    · obtain ⟨rfl, deleted⟩ := Program.Runs.of_call deleting
      exact .revoked stored (.of_runs done) deleted

end Brokerage.IdentityManager
