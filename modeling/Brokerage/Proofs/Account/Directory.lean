import Brokerage.Proofs.Account.Courses

/-! Identity backends that hold accounts and a policy. What an account is called and addressed by,
what a key looks like and how versions are tagged is up to the backend; of two accounts asked for
under one identifier it makes the first only. -/

namespace Brokerage

/-- An account, under the identifier that it was asked for. -/
structure Registration where
  accountId : String
  account : ServiceAccount

structure Directory where
  /-- In the order of creation. -/
  accounts : List Registration := []
  policy : Policy

namespace Directory

def add (d : Directory) (accountId : String) (account : ServiceAccount) : Directory :=
  { d with accounts := d.accounts ++ [⟨accountId, account⟩] }

def remove (d : Directory) (uniqueId : String) : Directory :=
  { d with accounts := d.accounts.filter (·.account.uniqueId != uniqueId) }

def write (d : Directory) (bindings : List RoleBinding) (tag : String) : Directory :=
  { d with policy := ⟨bindings, tag⟩ }

/-- A policy that is written as it was, with another tag. -/
def retag (d : Directory) (tag : String) : Directory := d.write d.policy.bindings tag

/-- An account whose unique identifier was not in use is all that removing it takes away. -/
theorem accounts_remove_add {d : Directory} {accountId : String} {account : ServiceAccount}
    (unused : ∀ r ∈ d.accounts, r.account.uniqueId ≠ account.uniqueId) :
    ((d.add accountId account).remove account.uniqueId).accounts = d.accounts := by
  have others : d.accounts.filter (·.account.uniqueId != account.uniqueId) = d.accounts :=
    List.filter_eq_self.mpr fun r hr => bne_iff_ne.mpr (unused r hr)
  simp [add, remove, List.filter_append, others]

/-- Calls are answered out of the directory that `view` shows: a write of the policy is what there
is to be read, and nothing comes of a call that fails, except that the policy may have another
tag. -/
structure Backs {σ : Type} (view : σ → Directory) (replies : Replies identityInterface σ) :
    Prop where
  read : ∀ {s s' policy}, replies .getPolicy s (.ok policy) s' →
    policy = (view s).policy ∧ view s' = view s
  written : ∀ {s s' policy}, replies (.setPolicy policy) s (.ok ()) s' →
    ∃ tag, view s' = (view s).write policy.bindings tag
  failed : ∀ {call s s' e}, replies call s (.error e) s' → ∃ tag, view s' = (view s).retag tag

end Directory

/-- What an edit finds and leaves: only the write that succeeds changes the bindings, and what it
writes is made of those that were there. -/
theorem IdentityManager.Attempts.backed {σ : Type} {view : σ → Directory}
    {replies : Replies identityInterface σ} {limit n : Nat}
    {edit : List RoleBinding → List RoleBinding} {s s' : σ}
    {trace : List (Exchange identityInterface σ)} {r : Except CredentialError Unit}
    (h : Attempts replies limit edit n s trace r s') (backs : Directory.Backs view replies) :
    (∀ x ∈ trace, ∃ tag, view x.before = (view s).retag tag) ∧
      ∃ tag, r = .ok () ∧
          view s' = (view s).write (RoleBinding.merge (edit (view s).policy.bindings)) tag ∨
        (∃ e, r = .error e) ∧ view s' = (view s).retag tag := by
  have same : ∀ t, ∃ tag, view t = (view t).retag tag := fun t => ⟨(view t).policy.etag, rfl⟩
  induction h with
  | @gaveUp s =>
    obtain ⟨tag, kept⟩ := same s
    exact ⟨List.forall_mem_nil _, tag, .inr ⟨⟨_, rfl⟩, kept⟩⟩
  | @unread _ s _ e read =>
    obtain ⟨tag, kept⟩ := backs.failed read
    exact ⟨List.forall_mem_singleton.mpr (same s), tag, .inr ⟨⟨e, rfl⟩, kept⟩⟩
  | @ended _ s t _ _ answer read written =>
    obtain ⟨rfl, unchanged⟩ := backs.read read
    have found : ∃ tag, view t = (view s).retag tag := unchanged ▸ same s
    refine ⟨List.forall_mem_cons.mpr ⟨same s, List.forall_mem_singleton.mpr found⟩, ?_⟩
    cases answer with
    | ok =>
      obtain ⟨tag, left⟩ := backs.written written
      exact ⟨tag, .inl ⟨rfl, by rw [left, unchanged]; rfl⟩⟩
    | error e =>
      obtain ⟨tag, left⟩ := backs.failed written
      exact ⟨tag, .inr ⟨⟨e, rfl⟩, by rw [left, unchanged]⟩⟩
  | @conflicted _ s t u _ _ _ _ _ read lost _ ih =>
    obtain ⟨rfl, unchanged⟩ := backs.read read
    obtain ⟨tag, left⟩ := backs.failed lost
    have found : ∃ tag, view t = (view s).retag tag := unchanged ▸ same s
    have retagged : view u = (view s).retag tag := by rw [left, unchanged]
    obtain ⟨later, ending⟩ := ih
    rw [retagged] at later ending
    exact ⟨List.forall_mem_cons.mpr ⟨same s, List.forall_mem_cons.mpr ⟨found, later⟩⟩, ending⟩

/-- What an identity backend makes up by itself. -/
structure IdentityService where
  /-- The account that it makes under an identifier and a display name. -/
  mint : Directory → String → String → ServiceAccount
  key : Directory → ServiceAccount → String
  /-- The tag of the next version of the policy. -/
  tag : Directory → String

namespace IdentityService

/-- The refusal of a second account under an identifier. -/
def taken (accountId : String) : CredentialError :=
  .backend 409 ("account " ++ accountId ++ " already exists")

def answer (service : IdentityService) : (call : IdentityCall) → Directory →
    Except CredentialError call.Value × Directory
  | .createServiceAccount id displayName, d =>
    if d.accounts.any (·.accountId = id) then (.error (taken id), d)
    else (.ok (service.mint d id displayName), d.add id (service.mint d id displayName))
  | .createKey account, d => (.ok (service.key d account), d)
  | .getPolicy, d => (.ok d.policy, d)
  | .setPolicy policy, d =>
    if policy.etag = d.policy.etag then (.ok (), d.write policy.bindings (service.tag d))
    else (.error (.conflict "etag mismatch"), d)
  | .deleteServiceAccount uniqueId, d =>
    if d.accounts.any (·.account.uniqueId = uniqueId) then (.ok (), d.remove uniqueId)
    else (.error (.backend 404 ("account " ++ uniqueId ++ " not found")), d)

/-- The account that is made for a binding. -/
def accountFor (service : IdentityService) (d : Directory) (bindingId : String) : ServiceAccount :=
  service.mint d (accountIdFor bindingId) (accountIdFor bindingId)

section Creation

variable {service : IdentityService} {d : Directory} {bindingId : String}

theorem answer_creation_of_free (free : ∀ r ∈ d.accounts, r.accountId ≠ accountIdFor bindingId) :
    service.answer (IdentityManager.creation bindingId) d =
      (.ok (service.accountFor d bindingId),
        d.add (accountIdFor bindingId) (service.accountFor d bindingId)) := by
  have untaken : d.accounts.any (·.accountId = accountIdFor bindingId) = false :=
    List.any_eq_false.mpr fun r hr => by simpa using free r hr
  exact if_neg (Bool.eq_false_iff.mp untaken)

theorem answer_creation_of_taken (held : ∃ r ∈ d.accounts, r.accountId = accountIdFor bindingId) :
    service.answer (IdentityManager.creation bindingId) d =
      (.error (taken (accountIdFor bindingId)), d) :=
  if_pos (List.any_eq_true.mpr (held.imp fun _ h => ⟨h.1, decide_eq_true h.2⟩))

end Creation

end IdentityService

end Brokerage
