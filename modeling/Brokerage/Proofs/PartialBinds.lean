import Brokerage.Proofs.Account.Directory
import Brokerage.Proofs.Account.UserCourses
import Brokerage.Proofs.Broker.Managed

/-! Binds in the middle of which a call of the backend fails. The claim is released, but what has
been made so far is not taken back: a service account is left behind, and as it stands in the way of
the next one, the bind cannot be tried again; or a database user is, which does no such harm. -/

namespace Brokerage

theorem Directory.Backs.interrupted
    {answer : (call : IdentityCall) → Directory → Except CredentialError call.Value × Directory}
    (backs : Backs id (.of answer)) : Backs Prod.fst (.of (interrupted answer)) where
  read answered := backs.read (interrupted_ok answered)
  written answered := backs.written (interrupted_ok answered)
  failed {_ w _ _} answered := by
    rcases interrupted_cases answered with answered | ⟨-, same⟩
    · exact backs.failed answered
    · exact ⟨w.1.policy.etag, same⟩

theorem IdentityService.backs (service : IdentityService) :
    Directory.Backs id (.of service.answer) where
  read answered := by
    cases answered
    exact ⟨rfl, rfl⟩
  written {d d' policy} answered := by
    have written : service.answer (.setPolicy policy) d = (.ok (), d') := answered
    simp only [answer] at written
    split at written <;> cases written
    exact ⟨_, rfl⟩
  failed {call d d' e} answered := by
    have refused : service.answer call d = (.error e, d') := answered
    have same : d' = d := by
      cases call with
      | createKey | getPolicy => cases refused
      | createServiceAccount | setPolicy | deleteServiceAccount =>
        simp only [answer] at refused
        split at refused <;> cases refused
        rfl
    exact ⟨d.policy.etag, same⟩

namespace IdentityManager

variable {service : IdentityService} {m : IdentityManager} {bindingId : String}
  {request : BindRequest} {d : Directory}

/-- What is left of credentials that were not issued: the account has been created, and it may have
been granted the role. -/
structure Unfinished (service : IdentityService) (bindingId role : String) (d d' : Directory) :
    Prop where
  accounts : d'.accounts = d.accounts ++ [⟨accountIdFor bindingId, service.accountFor d bindingId⟩]
  policy : d'.policy.bindings = d.policy.bindings ∨ d'.policy.bindings =
    RoleBinding.merge (granting role (service.accountFor d bindingId).email d.policy.bindings)

/-- If credentials are not issued because a call fails, nothing has happened if it is the first one;
else there is an account. -/
theorem Creating.interrupted {n : Nat} {e cause : CredentialError} {role : String}
    {w : Directory × Failure CredentialError} {trace : List (Exchange identityInterface _)}
    {r : Except CredentialError Fields}
    (h : m.Creating (.of (interrupted service.answer)) bindingId request (d, some (n, e)) trace r w)
    (accepted : m.requestedRole request = .ok role)
    (free : ∀ r ∈ d.accounts, r.accountId ≠ accountIdFor bindingId) (failed : r = .error cause) :
    n = 0 ∧ w.1 = d ∨ 0 < n ∧ Unfinished service bindingId role d w.1 := by
  have creates := service.answer_creation_of_free free
  have backs := service.backs.interrupted
  -- The account is free, so that its creation fails only if it is the call that is made to fail;
  -- otherwise it is there, and the count has gone down by one.
  cases h with
  | refused refusal => cases accepted.symm.trans refusal
  | @uncreated _ e' _ _ declined =>
    cases n with
    | zero =>
      cases declined
      exact .inl ⟨rfl, rfl⟩
    | succ n =>
      have refused : (service.answer (creation bindingId) d).1 = .error e' :=
        congrArg Prod.fst declined
      rw [creates] at refused
      cases refused
  | @ungranted _ account _ t _ _ accepted' created ungranted =>
    cases accepted.symm.trans accepted'
    obtain ⟨made, due⟩ := t
    cases creates.symm.trans (interrupted_ok created)
    obtain ⟨-, tag, ⟨⟨⟩, -⟩ | ⟨-, left⟩⟩ := ungranted.backed backs
    cases n with
    | zero => cases created
    | succ n =>
      refine .inr ⟨n.succ_pos, ?_, .inl ?_⟩ <;> rw [left] <;> rfl
  | @granted _ account t u _ _ answer accepted' created granted keyed =>
    cases accepted.symm.trans accepted'
    obtain ⟨made, due⟩ := t
    cases creates.symm.trans (interrupted_ok created)
    obtain ⟨-, tag, ⟨-, left⟩ | ⟨⟨_, ⟨⟩⟩, -⟩⟩ := granted.backed backs
    cases answer with
    | ok => cases failed
    | error e =>
      obtain ⟨_, kept⟩ := backs.failed keyed
      cases n with
      | zero => cases created
      | succ n =>
        refine .inr ⟨n.succ_pos, ?_, .inr ?_⟩ <;> rw [kept, left] <;> rfl

/-- Credentials are issued only if the request names a role and the account is free. -/
theorem free_of_issued {row : InstanceRow} {credentials : Fields} {d' : Directory}
    (issued : (m.over service.answer).create row bindingId request d = (.ok credentials, d')) :
    ∃ role, m.requestedRole request = .ok role ∧
      ∀ r ∈ d.accounts, r.accountId ≠ accountIdFor bindingId := by
  obtain ⟨trace, runs⟩ := Program.Runs.of_answer issued
  have course := Creating.of_runs runs
  generalize made : (.ok credentials : Except CredentialError Fields) = result at course
  cases course with
  | refused | uncreated | ungranted => cases made
  | granted accepted created =>
    refine ⟨_, accepted, fun r hr same => ?_⟩
    cases created.symm.trans (service.answer_creation_of_taken ⟨r, hr, same⟩)

theorem create_of_taken {role : String} (row : InstanceRow)
    (accepted : m.requestedRole request = .ok role)
    (held : ∃ r ∈ d.accounts, r.accountId = accountIdFor bindingId) :
    (m.over service.answer).create row bindingId request d =
      (.error (IdentityService.taken (accountIdFor bindingId)), d) := by
  have refused : Program.run service.answer (creation bindingId).ask.run d =
      (.error (IdentityService.taken (accountIdFor bindingId)), d) :=
    IdentityService.answer_creation_of_taken held
  show Program.run service.answer (m.createCredentials bindingId request).run d = _
  unfold createCredentials
  rw [accepted]
  have unmade : Program.run service.answer (m.createAccount bindingId [role]).run d = _ :=
    Fallible.run_bind_of_error _ refused
  have unissued := Fallible.run_bind_of_error (fun info : AccountInfo =>
    (pure info.credentials : IdentityProgram Fields)) unmade
  exact unissued

end IdentityManager

/-! ### Joining -/

section Joining

variable {σ τ : Type} {row : InstanceRow} {credentials joined : Fields}

/-- Whether credentials can be joined does not depend on them. -/
theorem IdentityManager.joins_any {m : IdentityManager}
    {answer : (call : IdentityCall) → σ → Except CredentialError call.Value × σ}
    {answer' : (call : IdentityCall) → τ → Except CredentialError call.Value × τ}
    (shown : (m.over answer).join credentials row = .ok joined) (others : Fields) :
    ∃ joined, (m.over answer').join others row = .ok joined := by
  simp only [IdentityManager.over, joinCredentials] at shown ⊢
  cases held : row.details with
  | error =>
    rw [held] at shown
    cases shown
  | ok details => exact ⟨_, rfl⟩

theorem DatabaseManager.joins_any {m : DatabaseManager}
    {answer : (call : DatabaseCall) → σ → Except CredentialError call.Value × σ}
    {answer' : (call : DatabaseCall) → τ → Except CredentialError call.Value × τ}
    (shown : (m.over answer).join credentials row = .ok joined) (others : Fields) :
    ∃ joined, (m.over answer').join others row = .ok joined := by
  simp only [DatabaseManager.over, DatabaseManager.joinCredentials, Brokerage.joinCredentials]
    at shown ⊢
  cases held : row.details with
  | error =>
    rw [held] at shown
    cases shown
  | ok details => exact ⟨_, rfl⟩

end Joining

/-! ### Binds -/

namespace Broker

variable {ρ : Type} {resources : ResourceManager ρ} {b : Broker} {now later : Instant}
  {id bindingId : String} {request : BindRequest} {s s' : Store} {x x' : ρ} {n : Nat}
  {e : CredentialError} {cause : ProviderError} {due : Failure CredentialError}

/-- Service accounts: the account that was created before the call failed stays, and is in the way
of the next bind. -/
theorem bindOver_identity_interrupted {m : IdentityManager} {service : IdentityService}
    {d d' : Directory} (numbers : s.NumberedBindings)
    (undisturbed : b.BindsOver resources (m.over service.answer) now id bindingId request (s, x, d))
    (failed : b.bindOver resources (m.over (interrupted service.answer)) now id bindingId request
      (s, x, d, some (n, e)) = (.error (.provider cause), s', x', d', due)) :
    n = 0 ∧ d' = d ∧
        b.BindsOver resources (m.over service.answer) later id bindingId request (s', x', d') ∨
      0 < n ∧ (∃ role, IdentityManager.Unfinished service bindingId role d d') ∧
        b.bindOver resources (m.over service.answer) later id bindingId request (s', x', d') =
          (.error (.provider (.credentials (IdentityService.taken (accountIdFor bindingId)))),
            s'.skipped, x', d') := by
  obtain ⟨row, provider, credentials, d₁, joined, may, created, shown⟩ := undisturbed.issued
  obtain ⟨rfl, rfl, e', declined⟩ := may.of_bindOver_error numbers (m.joins_any shown) failed
  have again := may.congr s.sameRows_skipped
  obtain ⟨role, accepted, free⟩ := IdentityManager.free_of_issued created
  obtain ⟨trace, runs⟩ := Program.Runs.of_answer declined
  -- Nothing left, and the next bind is the undisturbed one; an account left, and it is refused.
  rcases (IdentityManager.Creating.of_runs runs).interrupted accepted free rfl with
    ⟨first, same⟩ | ⟨later, left⟩
  · cases same
    exact .inl ⟨first, rfl, again.bindsOver created shown⟩
  · have held : ∃ r ∈ d'.accounts, r.accountId = accountIdFor bindingId := by
      rw [left.accounts]
      exact ⟨_, List.mem_append_right _ (List.mem_singleton.mpr rfl), rfl⟩
    have refused : (m.over service.answer).create row bindingId request d' = _ :=
      m.create_of_taken row accepted held
    exact .inr ⟨later, ⟨role, left⟩, again.bindOver_of_error numbers.skipped refused⟩

/-- Database users: the user that was inserted before the call failed stays, and the next bind
inserts it once more. -/
theorem bindOver_database_interrupted {m : DatabaseManager} {d d' : DatabaseBackend}
    (numbers : s.NumberedBindings)
    (undisturbed : b.BindsOver resources (m.over DatabaseBackend.answer) now id bindingId request
      (s, x, d))
    (failed : b.bindOver resources (m.over (interrupted DatabaseBackend.answer)) now id bindingId
      request (s, x, d, some (n, e)) = (.error (.provider cause), s', x', d', due)) :
    (n = 0 ∧ d' = d ∨ 0 < n ∧ ∃ user, DatabaseManager.Inserted d user d') ∧
      b.BindsOver resources (m.over DatabaseBackend.answer) later id bindingId request
        (s', x', d') := by
  obtain ⟨row, provider, credentials, d₁, joined, may, created, shown⟩ := undisturbed.issued
  obtain ⟨rfl, rfl, e', declined⟩ := may.of_bindOver_error numbers (m.joins_any shown) failed
  obtain ⟨accepted, quick⟩ := DatabaseManager.issues_iff.mp ⟨_, _, created⟩
  obtain ⟨trace, runs⟩ := Program.Runs.of_answer declined
  have left : n = 0 ∧ d' = d ∨ 0 < n ∧ ∃ user, DatabaseManager.Inserted d user d' :=
    (DatabaseManager.Creating.of_runs runs).interrupted accepted rfl
  -- The backend takes no longer than before, and does not mind a user that it has.
  have quick : d'.pollsUntilDone < m.maxPolls := by
    rcases left with ⟨-, same⟩ | ⟨-, user, inserted⟩
    · rw [same]
      exact quick
    · rw [inserted.pollsUntilDone]
      exact quick
  obtain ⟨credentials', d₂, created⟩ := DatabaseManager.issues_iff.mpr ⟨accepted, quick⟩
  obtain ⟨joined', shown⟩ := m.joins_any shown credentials'
  exact ⟨left, (may.congr s.sameRows_skipped).bindsOver created shown⟩

/-- A bind that would succeed but for a single call that its backend fails leaves the backend as it
was and can be tried again, if that was the first call; else something is left. For a provider with
service accounts it is the new account, and the bind is refused from then on. For one with database
users it is the user, without a certificate, and the bind can be tried again. -/
theorem bind_untouched_or_partial (numbers : s.NumberedBindings) :
    (∀ (m : IdentityManager) (service : IdentityService) (d d' : Directory),
      b.BindsOver resources (m.over service.answer) now id bindingId request (s, x, d) →
      b.bindOver resources (m.over (interrupted service.answer)) now id bindingId request
        (s, x, d, some (n, e)) = (.error (.provider cause), s', x', d', due) →
      n = 0 ∧ d' = d ∧
          b.BindsOver resources (m.over service.answer) later id bindingId request (s', x', d') ∨
        0 < n ∧ (∃ role, IdentityManager.Unfinished service bindingId role d d') ∧
          b.bindOver resources (m.over service.answer) later id bindingId request (s', x', d') =
            (.error (.provider (.credentials (IdentityService.taken (accountIdFor bindingId)))),
              s'.skipped, x', d')) ∧
    ∀ (m : DatabaseManager) (d d' : DatabaseBackend),
      b.BindsOver resources (m.over DatabaseBackend.answer) now id bindingId request (s, x, d) →
      b.bindOver resources (m.over (interrupted DatabaseBackend.answer)) now id bindingId request
        (s, x, d, some (n, e)) = (.error (.provider cause), s', x', d', due) →
      (n = 0 ∧ d' = d ∨ 0 < n ∧ ∃ user, DatabaseManager.Inserted d user d') ∧
        b.BindsOver resources (m.over DatabaseBackend.answer) later id bindingId request
          (s', x', d') :=
  ⟨fun _ _ _ _ undisturbed failed => bindOver_identity_interrupted numbers undisturbed failed,
    fun _ _ _ undisturbed failed => bindOver_database_interrupted numbers undisturbed failed⟩

end Broker

namespace Sample

/-- A request for a service account as well as for a database user. -/
def bindRequest : BindRequest where
  appGuid? := some "app"
  parameters? := some (.obj
    [("password", .str "s"), ("role", .str "reader"), ("username", .str "u")])

theorem mayBind : promptBroker.MayBind "i" "j" bindRequest made madeRow promptProvider where
  vacant := rfl
  application := by decide
  live := rfl
  active := rfl
  served := rfl

/-- A backend whose accounts are called after what they are asked for. -/
def identities : IdentityService where
  mint _ id displayName := ⟨"accounts/" ++ id, displayName, id ++ "@p", "uid-" ++ id⟩
  key _ account := "key-" ++ account.uniqueId
  tag d := d.policy.etag ++ "+"

/-- Nobody has an account or a role. -/
def noAccounts : Directory := ⟨[], ⟨[], "0"⟩⟩

/-- Binds over a provider that does not fail in making resources. -/
def bindOver {σ : Type} (accounts : AccountManager σ) (now : Instant) :
    Store × NamedResources × σ → Except BrokerError Response × Store × NamedResources × σ :=
  promptBroker.bindOver NamedResources.manager accounts now "i" "j" bindRequest

def BindsOver {σ : Type} (accounts : AccountManager σ) (now : Instant) :
    Store × NamedResources × σ → Prop :=
  promptBroker.BindsOver NamedResources.manager accounts now "i" "j" bindRequest

def accountManager : IdentityManager := { projectId := "p" }

theorem account_bound :
    BindsOver (accountManager.over identities.answer) 0 (made, {}, noAccounts) := by
  have created : ∃ credentials d', (accountManager.over identities.answer).create madeRow "j"
      bindRequest noAccounts = (.ok credentials, d') := ⟨_, _, rfl⟩
  obtain ⟨credentials, d', created⟩ := created
  have joins : (accountManager.over identities.answer).join credentials madeRow =
      .ok (credentials.merge []) := rfl
  exact mayBind.bindsOver created joins

def userManager : DatabaseManager := { flavor := .postgres }

theorem user_bound : BindsOver (userManager.over DatabaseBackend.answer) 0 (made, {}, {}) := by
  have created : ∃ credentials d', (userManager.over DatabaseBackend.answer).create madeRow "j"
      bindRequest {} = (.ok credentials, d') :=
    DatabaseManager.issues_iff.mpr ⟨⟨_, rfl⟩, by decide⟩
  obtain ⟨credentials, d', created⟩ := created
  have joins : ∃ joined, (userManager.over DatabaseBackend.answer).join credentials madeRow =
      .ok joined := ⟨_, rfl⟩
  obtain ⟨joined, shown⟩ := joins
  exact mayBind.bindsOver created shown

end Sample

namespace Broker

/-- The first call fails, and the second bind succeeds; the first poll fails, and a user is left. -/
theorem bind_untouched_or_partial_repeated :
    let accounts := Sample.accountManager.over Sample.identities.answer
    let accounts' := Sample.accountManager.over (interrupted Sample.identities.answer)
    let users := Sample.userManager.over DatabaseBackend.answer
    let users' := Sample.userManager.over (interrupted DatabaseBackend.answer)
    let s := Sample.made
    let d := Sample.noAccounts
    let e : CredentialError := .backend 500 "down"
    s.NumberedBindings ∧
      Sample.BindsOver accounts 0 (s, {}, d) ∧
      Sample.bindOver accounts' 0 (s, {}, d, some (0, e)) =
        (.error (.provider (.credentials e)), s.skipped, {}, d, none) ∧
      Sample.BindsOver accounts 9 (s.skipped, {}, d) ∧
      Sample.BindsOver users 0 (s, {}, {}) ∧
      ∃ left, Sample.bindOver users' 0 (s, {}, {}, some (1, e)) =
          (.error (.provider (.credentials e)), s.skipped, {}, left, none) ∧
        (∃ user, left.users = [user]) ∧ left.certificates = [] ∧
        Sample.BindsOver users 9 (s.skipped, {}, left) := by
  intro accounts accounts' users users' s d e
  have numbers : s.NumberedBindings := List.forall_mem_nil _
  have failed : Sample.bindOver accounts' 0 (s, {}, d, some (0, e)) =
      (.error (.provider (.credentials e)), s.skipped, {}, d, none) :=
    Sample.mayBind.bindOver_of_error numbers rfl
  have failed' : Sample.bindOver users' 0 (s, {}, {}, some (1, e)) =
      (.error (.provider (.credentials e)), s.skipped, {}, _, none) :=
    Sample.mayBind.bindOver_of_error numbers rfl
  refine ⟨numbers, Sample.account_bound, failed, ?_, Sample.user_bound, _, failed', ?_⟩
  · rcases (bind_untouched_or_partial numbers).1 _ _ _ _ Sample.account_bound failed with
      ⟨-, -, again⟩ | ⟨⟨⟩, -⟩
    exact again
  · obtain ⟨left, again⟩ :=
      (bind_untouched_or_partial numbers).2 _ _ _ Sample.user_bound failed'
    rcases left with ⟨⟨⟩, -⟩ | ⟨-, user, inserted⟩
    exact ⟨⟨user, inserted.users⟩, inserted.certificates, again⟩

/-- The key of an account cannot be made. The account is left, and has its role; the second bind is
refused although no call fails. -/
theorem bind_partial_keyless :
    let accounts := Sample.accountManager.over Sample.identities.answer
    let accounts' := Sample.accountManager.over (interrupted Sample.identities.answer)
    let s := Sample.made
    let d := Sample.noAccounts
    let e : CredentialError := .backend 500 "down"
    ∃ left, Sample.BindsOver accounts 0 (s, {}, d) ∧
      Sample.bindOver accounts' 0 (s, {}, d, some (3, e)) =
        (.error (.provider (.credentials e)), s.skipped, {}, left, none) ∧
      d.accounts = [] ∧ d.policy.bindings = [] ∧
      left.accounts = [⟨accountIdFor "j", Sample.identities.accountFor d "j"⟩] ∧
      left.policy.bindings = [⟨"roles/reader", ["serviceAccount:sb-binding-j@p"]⟩] ∧
      ∃ refusal after,
        Sample.bindOver accounts 9 (s.skipped, {}, left) = (.error refusal, after) := by
  intro accounts accounts' s d e
  have numbers : s.NumberedBindings := List.forall_mem_nil _
  have failed : Sample.bindOver accounts' 0 (s, {}, d, some (3, e)) =
      (.error (.provider (.credentials e)), s.skipped, {}, _, none) :=
    Sample.mayBind.bindOver_of_error numbers rfl
  have again := Sample.mayBind.congr s.sameRows_skipped
  refine ⟨_, Sample.account_bound, failed, rfl, rfl, rfl, by decide, ?_⟩
  exact ⟨_, _, again.bindOver_of_error numbers.skipped rfl⟩

end Broker

end Brokerage
