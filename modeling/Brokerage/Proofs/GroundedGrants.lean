import Brokerage.Account.IdentityBackend
import Brokerage.Proofs.Account.Courses
import Brokerage.Proofs.Account.Directory
import Brokerage.Proofs.Account.Grants
import Brokerage.Proofs.Account.Records

/-! Grants to accounts that exist. An account is created before a role is granted to it, and every
role is taken away from it before it is deleted. So nothing is ever granted to an address that has
no account, for the next account under that address to inherit, wherever calls fail. -/

namespace Brokerage

open RoleBinding (Grants)

namespace Directory

/-- Every account that is granted a role exists, and the address of each is the one that its unique
identifier stands for. -/
structure Grounded (emailOf : String → String) (d : Directory) : Prop where
  held : ∀ role email, Grants d.policy.bindings role (memberFor email) →
    ∃ r ∈ d.accounts, r.account.email = email
  addressed : ∀ r ∈ d.accounts, r.account.email = emailOf r.account.uniqueId

/-- How an identity backend answers under which a unique identifier stands for one address, forever.
Nothing comes of a call that fails, except that the policy may have another tag. -/
inductive Served (emailOf : String → String) : Replies identityInterface Directory
  | created {d : Directory} {accountId displayName : String} {account : ServiceAccount}
      (addressed : account.email = emailOf account.uniqueId) :
      Served emailOf (.createServiceAccount accountId displayName) d (.ok account)
        (d.add accountId account)
  | keyed {d : Directory} {account : ServiceAccount} {key : String} :
      Served emailOf (.createKey account) d (.ok key) d
  | read {d : Directory} : Served emailOf .getPolicy d (.ok d.policy) d
  | written {d : Directory} {policy : Policy} {tag : String} :
      Served emailOf (.setPolicy policy) d (.ok ()) (d.write policy.bindings tag)
  | deleted {d : Directory} {uniqueId : String} :
      Served emailOf (.deleteServiceAccount uniqueId) d (.ok ()) (d.remove uniqueId)
  | failed {d : Directory} {call : IdentityCall} {e : CredentialError} {tag : String} :
      Served emailOf call d (.error e) (d.retag tag)

variable {emailOf : String → String} {d d' : Directory} {tag : String}

theorem memberFor_injective {email other : String} (same : memberFor email = memberFor other) :
    email = other := (String.append_right_inj _).mp same

namespace Grounded

theorem retag (grounded : d.Grounded emailOf) : (d.retag tag).Grounded emailOf :=
  ⟨grounded.held, grounded.addressed⟩

theorem of_retagged {trace : List (Exchange identityInterface Directory)}
    (grounded : d.Grounded emailOf) (found : ∀ x ∈ trace, ∃ tag, x.before = d.retag tag) :
    ∀ x ∈ trace, x.before.Grounded emailOf := by
  intro x hx
  obtain ⟨tag, same⟩ := found x hx
  exact same ▸ grounded.retag

/-- A new account is granted nothing that did not go to its address before. -/
theorem add (accountId : String) {account : ServiceAccount} (grounded : d.Grounded emailOf)
    (addressed : account.email = emailOf account.uniqueId) :
    (d.add accountId account).Grounded emailOf := by
  constructor
  · intro role email granted
    obtain ⟨r, hr, named⟩ := grounded.held role email granted
    exact ⟨r, List.mem_append_left _ hr, named⟩
  · intro r hr
    rcases List.mem_append.mp hr with hr | hr
    · exact grounded.addressed r hr
    · cases List.mem_singleton.mp hr
      exact addressed

theorem grant (role tag : String) {email : String} (grounded : d.Grounded emailOf)
    (known : ∃ r ∈ d.accounts, r.account.email = email) :
    (d.write (RoleBinding.merge (IdentityManager.granting role email d.policy.bindings))
      tag).Grounded emailOf := by
  refine ⟨fun r m granted => ?_, grounded.addressed⟩
  rcases RoleBinding.grants_append_singleton.mp (RoleBinding.grants_merge.mp granted) with
    granted | ⟨-, new⟩
  · exact grounded.held r m granted
  · rw [memberFor_injective new]
    exact known

theorem revoke (member tag : String) (grounded : d.Grounded emailOf) :
    (d.write (RoleBinding.merge (RoleBinding.removeMember member d.policy.bindings))
      tag).Grounded emailOf := by
  refine ⟨fun r m granted => ?_, grounded.addressed⟩
  exact grounded.held r m
    (RoleBinding.grants_removeMember.mp (RoleBinding.grants_merge.mp granted)).1

/-- An account can be deleted once nothing is granted to the address that its identifier stands
for. -/
theorem remove {uniqueId : String} (grounded : d.Grounded emailOf)
    (revoked : ∀ role, ¬ Grants d.policy.bindings role (memberFor (emailOf uniqueId))) :
    (d.remove uniqueId).Grounded emailOf := by
  constructor
  · intro role email granted
    obtain ⟨r, hr, rfl⟩ := grounded.held role email granted
    -- If this account were deleted, its address would be the one to which nothing is granted.
    refine ⟨r, List.mem_filter.mpr ⟨hr, bne_iff_ne.mpr ?_⟩, rfl⟩
    rintro rfl
    rw [grounded.addressed r hr] at granted
    exact revoked role granted
  · intro r hr
    exact grounded.addressed r (List.mem_filter.mp hr).1

end Grounded

theorem Served.backs : Backs id (Served emailOf) where
  read h := by
    cases h
    exact ⟨rfl, rfl⟩
  written h := by
    cases h
    exact ⟨_, rfl⟩
  failed h := by
    cases h
    exact ⟨_, rfl⟩

end Directory

namespace IdentityManager

open Directory (Served Grounded)

variable {emailOf : String → String} {d d' : Directory} {m : IdentityManager}
  {trace : List (Exchange identityInterface Directory)}

theorem Attempts.served {limit n : Nat} {edit : List RoleBinding → List RoleBinding}
    {r : Except CredentialError Unit} (h : Attempts (Served emailOf) limit edit n d trace r d') :
    (∀ x ∈ trace, ∃ tag, x.before = d.retag tag) ∧
      ∃ tag, r = .ok () ∧ d' = d.write (RoleBinding.merge (edit d.policy.bindings)) tag ∨
        (∃ e, r = .error e) ∧ d' = d.retag tag :=
  h.backed Served.backs

/-- The credentials of an account, under the address that its unique identifier stands for. -/
def Issued (emailOf : String → String) (credentials : Fields) : Prop :=
  ∃ info : AccountInfo, credentials = info.credentials ∧ info.email = emailOf info.uniqueId

/-- Issuing credentials keeps every grant grounded, at each call and at the end. -/
theorem Creating.keeps_grounded {bindingId : String} {request : BindRequest}
    {r : Except CredentialError Fields}
    (h : m.Creating (Served emailOf) bindingId request d trace r d')
    (grounded : d.Grounded emailOf) :
    (∀ x ∈ trace, x.before.Grounded emailOf) ∧ d'.Grounded emailOf ∧
      ∀ credentials, r = .ok credentials → Issued emailOf credentials := by
  cases h with
  | refused => exact ⟨List.forall_mem_nil _, grounded, nofun⟩
  | uncreated _ failed =>
    cases failed
    exact ⟨List.forall_mem_singleton.mpr grounded, grounded.retag, nofun⟩
  | ungranted _ created failed =>
    cases created with | created addressed =>
    obtain ⟨found, tag, ⟨⟨⟩, -⟩ | ⟨-, rfl⟩⟩ := failed.served
    have equipped := grounded.add (accountIdFor bindingId) addressed
    exact ⟨List.forall_mem_cons.mpr ⟨grounded, equipped.of_retagged found⟩, equipped.retag, nofun⟩
  | @granted role account _ _ _ _ answer _ created granted keyed =>
    -- The account is there by the time that the role is written.
    cases created with | created addressed =>
    obtain ⟨found, tag, ⟨-, rfl⟩ | ⟨⟨e, ⟨⟩⟩, -⟩⟩ := granted.served
    have equipped := grounded.add (accountIdFor bindingId) addressed
    have granted := equipped.grant role tag
      ⟨_, List.mem_append_right _ (List.mem_singleton.mpr rfl), rfl⟩
    refine ⟨?_, ?_, ?_⟩
    · refine List.forall_mem_append.mpr ⟨?_, List.forall_mem_singleton.mpr granted⟩
      exact List.forall_mem_cons.mpr ⟨grounded, equipped.of_retagged found⟩
    · cases keyed with
      | keyed => exact granted
      | failed => exact granted.retag
    · intro credentials issued
      cases answer with
      | error => cases issued
      | ok key =>
        cases issued
        exact ⟨m.infoOf account key, rfl, addressed⟩

/-- Withdrawing credentials that were issued keeps every grant grounded. -/
theorem Deleting.keeps_grounded {binding : BindingRow} {r : Except CredentialError Unit}
    {credentials : Fields} (h : m.Deleting (Served emailOf) binding d trace r d')
    (grounded : d.Grounded emailOf) (issued : Issued emailOf credentials)
    (stored : binding.otherDetails = credentials.text) :
    (∀ x ∈ trace, x.before.Grounded emailOf) ∧ d'.Grounded emailOf := by
  obtain ⟨info, rfl, addressed⟩ := issued
  have readable : AccountInfo.read? binding.otherDetails = some info := by
    rw [stored, AccountInfo.read?_credentials]
  cases h with
  | unreadable => exact ⟨List.forall_mem_nil _, grounded⟩
  | unrevoked _ failed =>
    obtain ⟨found, tag, ⟨⟨⟩, -⟩ | ⟨-, rfl⟩⟩ := failed.served
    exact ⟨grounded.of_retagged found, grounded.retag⟩
  | revoked stored revoked deleted =>
    cases readable.symm.trans stored
    obtain ⟨found, tag, ⟨-, rfl⟩ | ⟨⟨e, ⟨⟩⟩, -⟩⟩ := revoked.served
    have reduced := grounded.revoke (memberFor info.email) tag
    refine ⟨?_, ?_⟩
    · exact List.forall_mem_append.mpr
        ⟨grounded.of_retagged found, List.forall_mem_singleton.mpr reduced⟩
    · cases deleted with
      | failed => exact reduced.retag
      | deleted =>
        -- What was revoked is the address of the deleted account, as its credentials have it.
        refine reduced.remove fun role granted => ?_
        rw [← addressed] at granted
        exact (RoleBinding.grants_removeMember.mp (RoleBinding.grants_merge.mp granted)).2 rfl

/-- Bindings and unbindings of one manager, one after another, to the success or failure of each.
Credentials that were issued are withdrawn any number of times. -/
inductive Works (m : IdentityManager) (replies : Replies identityInterface Directory)
    (issued : List Fields) (d : Directory) :
    List (Exchange identityInterface Directory) → List Fields → Directory → Prop
  | idle : Works m replies issued d [] issued d
  | issue {trace last : List (Exchange identityInterface Directory)} {issued' : List Fields}
      {d' d'' : Directory} {bindingId : String} {request : BindRequest}
      {r : Except CredentialError Fields} (before : Works m replies issued d trace issued' d')
      (run : Fallible.Runs replies (m.createCredentials bindingId request) d' last r d'') :
      Works m replies issued d (trace ++ last) (issued' ++ r.toOption.toList) d''
  | withdraw {trace last : List (Exchange identityInterface Directory)} {issued' : List Fields}
      {d' d'' : Directory} {binding : BindingRow} {credentials : Fields}
      {r : Except CredentialError Unit} (before : Works m replies issued d trace issued' d')
      (known : credentials ∈ issued') (stored : binding.otherDetails = credentials.text)
      (run : Fallible.Runs replies (m.deleteCredentials binding) d' last r d'') :
      Works m replies issued d (trace ++ last) issued' d''

/-- Whatever credentials are issued and withdrawn, and whichever calls fail, conflicts included:
if every account that is granted a role exists at the start, then so does it when each call is made
and at the end. -/
theorem grants_grounded {issued issued' : List Fields} (grounded : d.Grounded emailOf)
    (produced : ∀ credentials ∈ issued, Issued emailOf credentials)
    (h : m.Works (Served emailOf) issued d trace issued' d') :
    (∀ x ∈ trace, x.before.Grounded emailOf) ∧ d'.Grounded emailOf ∧
      ∀ credentials ∈ issued', Issued emailOf credentials := by
  induction h with
  | idle => exact ⟨List.forall_mem_nil _, grounded, produced⟩
  | @issue _ _ _ _ _ _ _ r _ run ih =>
    obtain ⟨earlier, grounded, produced⟩ := ih
    obtain ⟨later, grounded, new⟩ := (Creating.of_runs run).keeps_grounded grounded
    refine ⟨List.forall_mem_append.mpr ⟨earlier, later⟩, grounded, ?_⟩
    refine List.forall_mem_append.mpr ⟨produced, fun credentials hc => ?_⟩
    cases r with
    | error => cases hc
    | ok =>
      cases List.mem_singleton.mp hc
      exact new _ rfl
  | withdraw _ known stored run ih =>
    obtain ⟨earlier, grounded, produced⟩ := ih
    obtain ⟨later, grounded⟩ :=
      (Deleting.of_runs run).keeps_grounded grounded (produced _ known) stored
    exact ⟨List.forall_mem_append.mpr ⟨earlier, later⟩, grounded, produced⟩

/-- Credentials are withdrawn twice: at first the account cannot be deleted and remains, without its
role; then both are gone. Another account has its role throughout. -/
theorem grants_grounded_again :
    let m : IdentityManager := { projectId := "p" }
    let emailOf := fun uniqueId => uniqueId ++ "@p"
    let other : Registration := ⟨"x", ⟨"n", "x", "0@p", "0"⟩⟩
    let account : ServiceAccount := ⟨"n", "y", "1@p", "1"⟩
    let d : Directory := ⟨[other], ⟨[⟨"roles/a", [memberFor "0@p"]⟩], "0"⟩⟩
    let info := m.infoOf account "key"
    d.Grounded emailOf ∧ (∀ credentials ∈ ([] : List Fields), Issued emailOf credentials) ∧
      ∃ trace d' between, m.Works (Served emailOf) [] d trace [info.credentials] d' ∧
        ⟨between, .deleteServiceAccount "1", .error (.backend 503 "later")⟩ ∈ trace ∧
        between.accounts = [other, ⟨accountIdFor "y", account⟩] ∧ d'.accounts = [other] ∧
        (∀ x ∈ trace, x.before.Grounded emailOf) ∧ d'.Grounded emailOf := by
  intro m emailOf other account d info
  have grounded : d.Grounded emailOf := by
    constructor
    · rintro role email ⟨b, hb, -, has⟩
      refine ⟨other, List.mem_singleton.mpr rfl, ?_⟩
      cases List.mem_singleton.mp hb
      exact (Directory.memberFor_injective (List.mem_singleton.mp has)).symm
    · exact List.forall_mem_singleton.mpr rfl
  have none : ∀ credentials ∈ ([] : List Fields), Issued emailOf credentials :=
    List.forall_mem_nil _
  let revoke := RoleBinding.removeMember (memberFor account.email)
  let revoked (d : Directory) (tag : String) :=
    d.write (RoleBinding.merge (revoke d.policy.bindings)) tag
  let revocation (d : Directory) : List (Exchange identityInterface Directory) :=
    [⟨d, .getPolicy, .ok d.policy⟩, ⟨d, .setPolicy (edited revoke d.policy), .ok ()⟩]
  let granted := (d.add (accountIdFor "y") account).write
    (RoleBinding.merge (granting "a" account.email d.policy.bindings)) "1"
  let between := revoked granted "2"
  let deletion : IdentityCall := .deleteServiceAccount account.uniqueId
  let later : CredentialError := .backend 503 "later"
  let binding := (BindingRow.claim 0 "i" "y" "s").withCredentials info.credentials
  have stored : AccountInfo.read? binding.otherDetails = some info :=
    AccountInfo.read?_credentials info
  have issuing : Fallible.Runs (Served emailOf)
      (m.createCredentials "y" { parameters? := some (.obj [("role", .str "a")]) }) d _
      (.ok info.credentials) granted :=
    .ask (.created rfl) (.ask .read (.ask .written (.ask .keyed .done)))
  have withdrawing (d d' : Directory) (tag : String) (r : Except CredentialError Unit)
      (deleted : Served emailOf deletion (revoked d tag) r d') :
      Fallible.Runs (Served emailOf) (m.deleteCredentials binding) d
        (revocation d ++ [⟨revoked d tag, deletion, r⟩]) r d' := by
    rw [deleteCredentials_eq stored]
    exact .ask .read (.ask .written (.ask deleted .done))
  have kept : info.credentials ∈ [info.credentials] := List.mem_singleton.mpr rfl
  have text : binding.otherDetails = info.credentials.text := rfl
  have issued : m.Works (Served emailOf) [] d _ [info.credentials] granted := .issue .idle issuing
  have lost : Served emailOf deletion between (.error later) (between.retag "2") := .failed
  have works := (issued.withdraw kept text (withdrawing _ _ "2" _ lost)).withdraw
    kept text (withdrawing _ _ "3" _ .deleted)
  obtain ⟨calls, ended, -⟩ := grants_grounded grounded none works
  refine ⟨grounded, none, _, _, between, works, ?_, rfl, rfl, calls, ended⟩
  refine List.mem_append_left _ (List.mem_append_right _ ?_)
  exact List.mem_append_right _ (List.mem_singleton.mpr rfl)

end IdentityManager

/-! ### The backend in memory

The backend that runs derives addresses from unique identifiers, so that what is issued and
withdrawn over it keeps every grant grounded. -/

namespace IdentityBackend

open Directory (Served)
open IdentityManager (Creating Deleting Issued)

/-- The identifier that an account was asked for under. -/
def requestedId (uniqueId : String) : String := String.ofList (uniqueId.toList.drop 4)

/-- The address that a unique identifier stands for. -/
def addressOf (project uniqueId : String) : String :=
  requestedId uniqueId ++ "@" ++ project ++ ".example.com"

def directory (b : IdentityBackend) : Directory :=
  ⟨b.accounts.map fun account => ⟨requestedId account.uniqueId, account⟩, ⟨b.policy, b.etag⟩⟩

theorem requestedId_newAccount (b : IdentityBackend) (id displayName : String) :
    requestedId (b.newAccount id displayName).uniqueId = id := by
  simp [requestedId, newAccount, String.toList_append]

theorem directory_disturb (b : IdentityBackend) :
    b.disturb.directory = b.directory.retag b.disturb.etag := by
  unfold disturb
  split <;> rfl

/-- Each answer of the backend is one under which a unique identifier stands for one address. -/
theorem served_of_answer (call : IdentityCall) (b : IdentityBackend) :
    Served (addressOf b.project) call b.directory (answer call b).1
      (answer call b).2.directory := by
  cases call with
  | getPolicy => exact .read
  | createKey account => exact .keyed
  | createServiceAccount id displayName =>
    have addressed : (b.newAccount id displayName).email =
        addressOf b.project (b.newAccount id displayName).uniqueId := by
      rw [addressOf, requestedId_newAccount]
      rfl
    have added : b.directory.add id (b.newAccount id displayName) =
        { b with accounts := b.accounts ++ [b.newAccount id displayName] }.directory := by
      simp [directory, Directory.add, requestedId_newAccount, etag]
    simp only [answer]
    split
    · exact .failed
    · exact added ▸ .created addressed
  | setPolicy policy =>
    let b' : IdentityBackend :=
      { b.disturb with policy := policy.bindings, version := b.disturb.version + 1 }
    have written : b'.directory = b.directory.write policy.bindings b'.etag := by
      have kept := congrArg Directory.accounts b.directory_disturb
      exact congrArg (Directory.mk · ⟨policy.bindings, b'.etag⟩) kept
    simp only [answer]
    split
    · exact written ▸ .written
    · exact b.directory_disturb ▸ .failed
  | deleteServiceAccount uniqueId =>
    have removed : b.directory.remove uniqueId =
        { b with accounts := b.accounts.filter (·.uniqueId != uniqueId) }.directory := by
      simp [directory, Directory.remove, List.filter_map, Function.comp_def, etag]
    simp only [answer]
    split
    · exact removed ▸ .deleted
    · exact .failed

theorem project_answer (call : IdentityCall) (b : IdentityBackend) :
    (answer call b).2.project = b.project := by
  have disturbed : b.disturb.project = b.project := by
    unfold disturb
    split <;> rfl
  cases call with
  | getPolicy | createKey => rfl
  | createServiceAccount | deleteServiceAccount =>
    simp only [answer]
    split <;> rfl
  | setPolicy =>
    simp only [answer]
    split <;> exact disturbed

/-- A run over the backend is one under which a unique identifier stands for one address. -/
theorem runs_directory {α : Type} (program : IdentityProgram α) (b : IdentityBackend) :
    ∃ trace, Fallible.Runs (Served (addressOf b.project)) program b.directory trace
      (Program.run answer program.run b).1 (Program.run answer program.run b).2.directory := by
  -- Addresses depend on the project, which no call changes.
  refine Program.Runs.of_run directory (P := fun t => t.project = b.project) ?_ program.run b rfl
  intro call t same
  exact ⟨same ▸ served_of_answer call t, (project_answer call t).trans same⟩

variable {m : IdentityManager} {b : IdentityBackend}

/-- Credentials that are issued over the backend leave every grant grounded. -/
theorem create_grounded (bindingId : String) (request : BindRequest)
    (grounded : b.directory.Grounded (addressOf b.project)) :
    let ran := Program.run answer (m.createCredentials bindingId request).run b
    ran.2.directory.Grounded (addressOf b.project) ∧
      ∀ credentials, ran.1 = .ok credentials → Issued (addressOf b.project) credentials := by
  intro ran
  obtain ⟨trace, runs⟩ := runs_directory (m.createCredentials bindingId request) b
  exact ((Creating.of_runs runs).keeps_grounded grounded).2

/-- So do credentials that are withdrawn, if they were issued. -/
theorem delete_grounded {binding : BindingRow} {credentials : Fields}
    (grounded : b.directory.Grounded (addressOf b.project))
    (issued : Issued (addressOf b.project) credentials)
    (stored : binding.otherDetails = credentials.text) :
    (Program.run answer (m.deleteCredentials binding).run b).2.directory.Grounded
      (addressOf b.project) := by
  obtain ⟨trace, runs⟩ := runs_directory (m.deleteCredentials binding) b
  exact ((Deleting.of_runs runs).keeps_grounded grounded issued stored).2

end IdentityBackend

end Brokerage
