import Brokerage.Proofs.Account.Courses
import Brokerage.Proofs.Account.Directory
import Brokerage.Proofs.Account.Grants
import Brokerage.Proofs.Account.Records
import Brokerage.Provider.Managed

/-! Issuing the credentials of a service account and withdrawing them. In between, one role more is
granted, and to the new account; afterwards the accounts are those from before, and so is the policy
once it is merged. -/

namespace Brokerage

namespace RoleBinding

variable {bindings : List RoleBinding} {role member : String}

/-- Taking out a member that nothing else was granted to undoes a grant. -/
theorem merge_removeMember_grant (unknown : ∀ r, ¬ Grants bindings r member) :
    merge (removeMember member (merge (bindings ++ [⟨role, [member]⟩]))) = merge bindings := by
  refine merge_congr fun r m => ?_
  rw [grants_removeMember, grants_merge, grants_append_singleton]
  constructor
  · rintro ⟨granted | ⟨-, new⟩, other⟩
    · exact granted
    · exact absurd new other
  · intro granted
    refine ⟨.inl granted, ?_⟩
    rintro rfl
    exact unknown r granted

end RoleBinding

namespace IdentityManager

open RoleBinding (Grants)

variable {service : IdentityService} {m : IdentityManager} {d : Directory} {n : Nat}

/-! ### Runs against a directory -/

theorem run_ask {σ : Type} {answer : (c : IdentityCall) → σ → Except CredentialError c.Value × σ}
    (call : IdentityCall) (s : σ) : Program.run answer call.ask.run s = answer call s := rfl

/-- The write that an attempt makes of what it read. -/
theorem run_write (service : IdentityService) (d : Directory)
    (edit : List RoleBinding → List RoleBinding) :
    Program.run service.answer
        (Fallible.attempt (IdentityCall.setPolicy (edited edit d.policy)).ask).run d =
      (.ok (.ok ()), d.write (RoleBinding.merge (edit d.policy.bindings)) (service.tag d)) := by
  have written : service.answer (.setPolicy (edited edit d.policy)) d =
      (.ok (), d.write (RoleBinding.merge (edit d.policy.bindings)) (service.tag d)) := if_pos rfl
  show (Except.ok (service.answer (.setPolicy (edited edit d.policy)) d).1,
    (service.answer (.setPolicy (edited edit d.policy)) d).2) = _
  rw [written]

/-- Nobody else writes the policy, so that the first attempt succeeds. -/
theorem run_updatePolicy (attempts : 0 < n) (limit : Nat)
    (edit : List RoleBinding → List RoleBinding) :
    Program.run service.answer (updatePolicy limit edit n).run d =
      (.ok (), d.write (RoleBinding.merge (edit d.policy.bindings)) (service.tag d)) := by
  obtain ⟨n, rfl⟩ := Nat.exists_eq_add_of_lt attempts
  rw [Nat.zero_add]
  refine (Fallible.run_bind_of_ok _ (run_ask .getPolicy d)).trans ?_
  exact Fallible.run_bind_of_ok _ (run_write service d edit)

/-- The directory once an account has been created and granted a role. -/
def equipped (service : IdentityService) (d : Directory) (bindingId role : String) : Directory :=
  let account := service.accountFor d bindingId
  let added := d.add (accountIdFor bindingId) account
  added.write (RoleBinding.merge (granting role account.email d.policy.bindings))
    (service.tag added)

/-- The credentials that a binding is issued. -/
def issuedFor (m : IdentityManager) (service : IdentityService) (d : Directory)
    (bindingId role : String) : AccountInfo :=
  let account := service.accountFor d bindingId
  m.infoOf account (service.key (equipped service d bindingId role) account)

variable {bindingId role : String} {request : BindRequest}

theorem create_over (row : InstanceRow) (attempts : 0 < m.maxAttempts)
    (accepted : m.requestedRole request = .ok role)
    (free : ∀ r ∈ d.accounts, r.accountId ≠ accountIdFor bindingId) :
    (m.over service.answer).create row bindingId request d =
      (.ok (m.issuedFor service d bindingId role).credentials,
        equipped service d bindingId role) := by
  have created : Program.run service.answer (creation bindingId).ask.run d =
      (.ok (service.accountFor d bindingId),
        d.add (accountIdFor bindingId) (service.accountFor d bindingId)) :=
    IdentityService.answer_creation_of_free free
  have granted : Program.run service.answer
      ([role].forM fun role => m.grantRole role (service.accountFor d bindingId).email).run
        (d.add (accountIdFor bindingId) (service.accountFor d bindingId)) =
      (.ok (), equipped service d bindingId role) := by
    refine (Fallible.run_bind_of_ok _ (run_updatePolicy attempts _ _)).trans ?_
    rfl
  have made : Program.run service.answer (m.createAccount bindingId [role]).run d =
      (.ok (m.issuedFor service d bindingId role), equipped service d bindingId role) := by
    refine (Fallible.run_bind_of_ok _ created).trans ?_
    refine (Fallible.run_bind_of_ok _ granted).trans ?_
    rfl
  show Program.run service.answer (m.createCredentials bindingId request).run d = _
  unfold createCredentials
  rw [accepted]
  exact Fallible.run_bind_of_ok _ made

theorem delete_over (row : InstanceRow) (binding : BindingRow) (attempts : 0 < m.maxAttempts)
    {info : AccountInfo}
    (stored : AccountInfo.read? binding.otherDetails = some info)
    (known : ∃ r ∈ d.accounts, r.account.uniqueId = info.uniqueId) :
    (m.over service.answer).delete row binding d =
      (.ok (), (d.write (RoleBinding.merge
        (RoleBinding.removeMember (memberFor info.email) d.policy.bindings))
          (service.tag d)).remove info.uniqueId) := by
  have listed : d.accounts.any (·.account.uniqueId = info.uniqueId) = true :=
    List.any_eq_true.mpr (known.imp fun r h => ⟨h.1, decide_eq_true h.2⟩)
  show Program.run service.answer (m.deleteCredentials binding).run d = _
  rw [deleteCredentials_eq stored]
  refine (Fallible.run_bind_of_ok _ (run_updatePolicy attempts _ _)).trans ?_
  exact if_pos listed

/-! ### Issuing and withdrawing -/

/-- What is issued for a binding whose account is free can be withdrawn. In between, the policy
grants one role more than before, to the new account; afterwards the accounts are as they were, and
the policy is what merging made of it. -/
theorem withdrawal_undoes_issue (row : InstanceRow) (attempts : 0 < m.maxAttempts)
    (accepted : m.requestedRole request = .ok role)
    (free : ∀ r ∈ d.accounts, r.accountId ≠ accountIdFor bindingId)
    (unused : ∀ r ∈ d.accounts,
      r.account.uniqueId ≠ (service.accountFor d bindingId).uniqueId)
    (unknown : ∀ r, ¬ Grants d.policy.bindings r
      (memberFor (service.accountFor d bindingId).email)) :
    ∃ credentials issued,
      (m.over service.answer).create row bindingId request d = (.ok credentials, issued) ∧
      (∀ r member, Grants issued.policy.bindings r member ↔ Grants d.policy.bindings r member ∨
        r = qualifiedRole role ∧ member = memberFor (service.accountFor d bindingId).email) ∧
      ∀ binding : BindingRow, ∃ withdrawn,
        (m.over service.answer).delete row (binding.withCredentials credentials) issued =
          (.ok (), withdrawn) ∧
        withdrawn.accounts = d.accounts ∧
        withdrawn.policy.bindings = RoleBinding.merge d.policy.bindings := by
  refine ⟨_, _, create_over row attempts accepted free, fun r member => ?_, fun binding => ?_⟩
  · exact RoleBinding.grants_merge.trans RoleBinding.grants_append_singleton
  have stored : AccountInfo.read?
      (binding.withCredentials (m.issuedFor service d bindingId role).credentials).otherDetails =
        some (m.issuedFor service d bindingId role) := AccountInfo.read?_credentials _
  have known : ∃ r ∈ (equipped service d bindingId role).accounts,
      r.account.uniqueId = (m.issuedFor service d bindingId role).uniqueId :=
    ⟨⟨accountIdFor bindingId, service.accountFor d bindingId⟩,
      List.mem_append_right _ (List.mem_singleton.mpr rfl), rfl⟩
  refine ⟨_, delete_over row _ attempts stored known, ?_, ?_⟩
  · exact Directory.accounts_remove_add unused
  · exact RoleBinding.merge_removeMember_grant unknown

/-- A policy that names a role twice, grants it twice to one and has a role for nobody comes back
with one entry for the role. -/
theorem withdrawal_undoes_issue_repeated :
    let m : IdentityManager := { projectId := "p", allowedRoles := ["reader"] }
    let service : IdentityService :=
      ⟨fun d id name => ⟨"accounts/" ++ id, name, id ++ "@p", toString d.accounts.length⟩,
        fun _ account => "key of " ++ account.email, fun d => d.policy.etag ++ "+"⟩
    let d : Directory :=
      ⟨[⟨"sb-binding-a", ⟨"accounts/a", "a", "a@p", "0"⟩⟩],
        ⟨[⟨"roles/reader", ["user:y", "user:x"]⟩, ⟨"roles/void", []⟩, ⟨"roles/reader", ["user:y"]⟩],
          "v"⟩⟩
    let request : BindRequest := { parameters? := some (.obj [("role", .str "reader")]) }
    let account := service.accountFor d "b"
    let row : InstanceRow := .claim 0 "i" "s" "p"
    0 < m.maxAttempts ∧ m.requestedRole request = .ok "reader" ∧
      (∀ r ∈ d.accounts, r.accountId ≠ accountIdFor "b") ∧
      (∀ r ∈ d.accounts, r.account.uniqueId ≠ account.uniqueId) ∧
      (∀ r, ¬ Grants d.policy.bindings r (memberFor account.email)) ∧
      ∃ credentials issued,
        (m.over service.answer).create row "b" request d = (.ok credentials, issued) ∧
        (∀ r member, Grants issued.policy.bindings r member ↔ Grants d.policy.bindings r member ∨
          r = "roles/reader" ∧ member = memberFor account.email) ∧
        ∀ binding : BindingRow, ∃ withdrawn,
          (m.over service.answer).delete row (binding.withCredentials credentials) issued =
            (.ok (), withdrawn) ∧
          withdrawn.accounts = d.accounts ∧
          withdrawn.policy.bindings = [⟨"roles/reader", ["user:x", "user:y"]⟩] := by
  intro m service d request account row
  have attempts : 0 < m.maxAttempts := by decide
  have accepted : m.requestedRole request = .ok "reader" := rfl
  have free : ∀ r ∈ d.accounts, r.accountId ≠ accountIdFor "b" := by decide
  have unused : ∀ r ∈ d.accounts, r.account.uniqueId ≠ account.uniqueId := by decide
  have unnamed : ∀ b ∈ d.policy.bindings, memberFor account.email ∉ b.members := by decide
  have unknown : ∀ r, ¬ Grants d.policy.bindings r (memberFor account.email) := by
    rintro r ⟨b, given, -, has⟩
    exact unnamed b given has
  have merged : RoleBinding.merge d.policy.bindings = [⟨"roles/reader", ["user:x", "user:y"]⟩] := by
    decide
  refine ⟨attempts, accepted, free, unused, unknown, ?_⟩
  rw [← merged]
  exact withdrawal_undoes_issue row attempts accepted free unused unknown

end IdentityManager

end Brokerage
