import Brokerage.Proofs.Account.Courses
import Brokerage.Proofs.Account.Grants

/-! How far an identity manager goes that only lets some roles be asked for. It makes no call for
any other role, and what it writes into the policy grants what was granted when it read it, and the
role to the account that it has just created; this holds whatever it is answered. -/

namespace Brokerage

namespace Fields

variable {fields : Fields} {key s : String}

theorem get?_of_text? (h : fields.text? key = some s) : fields.get? key = some (.str s) := by
  unfold text? at h
  split at h
  · rename_i held
    cases h
    exact held
  · cases h

end Fields

namespace IdentityManager

open RoleBinding (Grants)

variable {σ : Type} {trace : List (Exchange identityInterface σ)}

/-- Every write of the policy comes directly after the read of what it was made of. -/
def WritesEdited (edit : List RoleBinding → List RoleBinding)
    (trace : List (Exchange identityInterface σ)) : Prop :=
  ∀ earlier t written answer later, trace = earlier ++ ⟨t, .setPolicy written, answer⟩ :: later →
    ∃ u policy, earlier.getLast? = some ⟨u, .getPolicy, .ok policy⟩ ∧ written = edited edit policy

namespace WritesEdited

variable {edit : List RoleBinding → List RoleBinding} {x : Exchange identityInterface σ}

theorem nil : WritesEdited edit ([] : List (Exchange identityInterface σ)) := by
  intro earlier t written answer later split
  cases earlier <;> cases split

theorem cons (other : ∀ policy, x.call ≠ .setPolicy policy) (rest : WritesEdited edit trace) :
    WritesEdited edit (x :: trace) := by
  intro earlier t written answer later split
  cases earlier with
  | nil =>
    cases split
    exact absurd rfl (other written)
  | cons y earlier =>
    obtain ⟨u, policy, read, made⟩ := rest _ _ _ _ _ (List.cons.inj split).2
    exact ⟨u, policy, by rw [List.getLast?_cons, read]; rfl, made⟩

theorem append_singleton (first : WritesEdited edit trace)
    (other : ∀ policy, x.call ≠ .setPolicy policy) : WritesEdited edit (trace ++ [x]) := by
  intro earlier t written answer later split
  rcases List.append_eq_append_iff.mp split with ⟨between, -, last⟩ | ⟨between, before, last⟩
  · cases between with
    | nil =>
      cases last
      exact absurd rfl (other written)
    | cons y between => cases between <;> cases last
  · cases between with
    | nil =>
      cases last
      exact absurd rfl (other written)
    | cons y between =>
      cases last
      exact first _ _ _ _ _ before

/-- An attempt reads the policy and writes what it has made of it. -/
theorem attempt {s t : σ} {policy : Policy} {answer : Except CredentialError Unit}
    (rest : WritesEdited edit trace) : WritesEdited edit
      (⟨s, .getPolicy, .ok policy⟩ :: ⟨t, .setPolicy (edited edit policy), answer⟩ :: trace) := by
  intro earlier t written answer later split
  rcases earlier with _ | ⟨_, _ | ⟨_, earlier⟩⟩
  · cases split
  · cases split
    exact ⟨s, policy, rfl, rfl⟩
  · obtain ⟨u, policy, read, made⟩ := rest _ _ _ _ _ (List.cons.inj (List.cons.inj split).2).2
    exact ⟨u, policy, by rw [List.getLast?_cons, List.getLast?_cons, read]; rfl, made⟩

end WritesEdited

variable {replies : Replies identityInterface σ} {s s' : σ}

theorem Attempts.writesEdited {limit n : Nat} {edit : List RoleBinding → List RoleBinding}
    {r : Except CredentialError Unit} (h : Attempts replies limit edit n s trace r s') :
    WritesEdited edit trace := by
  induction h with
  | gaveUp => exact .nil
  | unread => exact WritesEdited.nil.cons nofun
  | ended => exact WritesEdited.nil.attempt
  | conflicted _ _ _ ih => exact ih.attempt

variable {m : IdentityManager} {bindingId : String} {request : BindRequest}

/-- Parameters that have a field are a record. -/
theorem record_of_bindParameters {fields : Fields} {key : String} {v : Json}
    (read : bindParameters request = .ok fields) (held : fields.get? key = some v) :
    request.parameters? = some (.obj fields) := by
  unfold bindParameters BindRequest.parameters at read
  -- Absent parameters and null are read as an empty record, which has no field.
  cases given : request.parameters? with
  | none =>
    rw [given] at read
    cases read
    cases held
  | some v =>
    rw [given] at read
    cases v with
    | null =>
      cases read
      cases held
    | obj =>
      cases read
      rfl
    | _ => cases read

/-- A role that a limited manager accepts is one that the request names and that may be asked
for. -/
theorem named_of_requestedRole {role : String} (limited : m.allowedRoles ≠ [])
    (accepted : m.requestedRole request = .ok role) :
    ∃ fields : Fields, request.parameters? = some (.obj fields) ∧
      fields.get? "role" = some (.str role) ∧ role ∈ m.allowedRoles := by
  unfold requestedRole at accepted
  cases read : bindParameters request with
  | error e =>
    rw [read] at accepted
    cases accepted
  | ok fields =>
    simp only [read] at accepted
    cases named : fields.text? "role" with
    | none =>
      rw [named] at accepted
      cases accepted
    | some name =>
      simp only [named] at accepted
      split at accepted
      · rename_i allowed
        cases accepted
        have held := Fields.get?_of_text? named
        exact ⟨fields, record_of_bindParameters read held, held, by simpa [limited] using allowed⟩
      · cases accepted

/-- What issuing credentials writes into the policy grants what the policy that it has just read
grants, and one role more to the account that it created. -/
theorem Creating.writes {r : Except CredentialError Fields}
    (h : m.Creating replies bindingId request s trace r s') (called : trace ≠ []) :
    ∃ role, m.requestedRole request = .ok role ∧
      ∀ earlier t written answer later,
        trace = earlier ++ ⟨t, .setPolicy written, answer⟩ :: later →
        ∃ account u policy, trace.head? = some ⟨s, creation bindingId, .ok account⟩ ∧
          earlier.getLast? = some ⟨u, .getPolicy, .ok policy⟩ ∧
          written = edited (granting role account.email) policy := by
  cases h with
  | refused => exact absurd rfl called
  | uncreated accepted =>
    refine ⟨_, accepted, fun earlier t written answer later split => ?_⟩
    rcases List.append_eq_singleton_iff.mp split.symm with ⟨-, last⟩ | ⟨-, last⟩ <;> cases last
  | @ungranted _ account _ _ _ _ accepted _ failed =>
    refine ⟨_, accepted, fun earlier t written answer later split => ?_⟩
    have edits := failed.writesEdited.cons (x := ⟨s, creation bindingId, .ok account⟩) nofun
    obtain ⟨u, policy, read, made⟩ := edits earlier t written answer later split
    exact ⟨account, u, policy, rfl, read, made⟩
  | @granted _ account _ u _ _ answer accepted _ granted =>
    refine ⟨_, accepted, fun earlier t written answer' later split => ?_⟩
    have edits := (granted.writesEdited.append_singleton (x := ⟨u, .createKey account, answer⟩)
      nofun).cons (x := ⟨s, creation bindingId, .ok account⟩) nofun
    obtain ⟨u, policy, read, made⟩ := edits earlier t written answer' later split
    exact ⟨account, u, policy, rfl, read, made⟩

/-- A manager that lets only some roles be asked for makes a call only for one of them, and every
policy that it writes is the one that it read right before it, with exactly that role granted to the
account that it created first. -/
theorem grants_limited {r : Except CredentialError Fields} (limited : m.allowedRoles ≠ [])
    (h : Fallible.Runs replies (m.createCredentials bindingId request) s trace r s')
    (called : trace ≠ []) :
    ∃ (fields : Fields) (role : String), request.parameters? = some (.obj fields) ∧
      fields.get? "role" = some (.str role) ∧ role ∈ m.allowedRoles ∧
      ∀ earlier t written answer later,
        trace = earlier ++ ⟨t, .setPolicy written, answer⟩ :: later →
        ∃ account u policy, trace.head? = some ⟨s, creation bindingId, .ok account⟩ ∧
          earlier.getLast? = some ⟨u, .getPolicy, .ok policy⟩ ∧
          ∀ r member, Grants written.bindings r member ↔ Grants policy.bindings r member ∨
            r = qualifiedRole role ∧ member = memberFor account.email := by
  obtain ⟨role, accepted, writes⟩ := (Creating.of_runs h).writes called
  obtain ⟨fields, parameters, named, allowed⟩ := named_of_requestedRole limited accepted
  refine ⟨fields, role, parameters, named, allowed, fun earlier t written answer later split => ?_⟩
  obtain ⟨account, u, policy, created, read, rfl⟩ := writes earlier t written answer later split
  refine ⟨account, u, policy, created, read, fun r member => ?_⟩
  exact RoleBinding.grants_merge.trans RoleBinding.grants_append_singleton

/-- A role is granted at the second attempt: what is written then is made of what the second read
found, and a role that nobody has is not in it. -/
theorem grants_limited_conflict :
    let m : IdentityManager := { projectId := "p", allowedRoles := ["reader"] }
    let request : BindRequest := { parameters? := some (.obj [("role", .str "reader")]) }
    let account : ServiceAccount := ⟨"n", "d", "a@p", "7"⟩
    let first : Policy := ⟨[⟨"roles/reader", ["user:x"]⟩, ⟨"roles/void", []⟩], "0"⟩
    let second : Policy := ⟨[⟨"roles/owner", ["user:y"]⟩], "1"⟩
    let lost := edited (granting "reader" "a@p") first
    let written := edited (granting "reader" "a@p") second
    let before : List (Exchange identityInterface Unit) :=
      [⟨(), creation "b", .ok account⟩, ⟨(), .getPolicy, .ok first⟩,
        ⟨(), .setPolicy lost, .error (.conflict "late")⟩, ⟨(), .getPolicy, .ok second⟩]
    let trace := before ++ [⟨(), .setPolicy written, .ok ()⟩, ⟨(), .createKey account, .ok "k"⟩]
    m.allowedRoles ≠ [] ∧
      Fallible.Runs (fun _ s _ t => t = s) (m.createCredentials "b" request) () trace
        (.ok (m.infoOf account "k").credentials) () ∧ trace ≠ [] ∧
      ∀ r member, Grants written.bindings r member ↔ Grants second.bindings r member ∨
        r = "roles/reader" ∧ member = "serviceAccount:a@p" := by
  intro m request account first second lost written before trace
  have limited : m.allowedRoles ≠ [] := by decide
  have runs : Fallible.Runs (fun _ s _ t => t = s) (m.createCredentials "b" request) () trace
      (.ok (m.infoOf account "k").credentials) () := by
    refine .ask rfl (.ask rfl (.ask rfl ?_))
    refine .ask rfl (.ask rfl (.ask rfl ?_))
    exact .done
  have called : trace ≠ [] := List.cons_ne_nil _ _
  obtain ⟨fields, role, parameters, named, -, writes⟩ := grants_limited limited runs called
  cases parameters
  cases named
  obtain ⟨account', u, policy, created, read, grants⟩ := writes before () written (.ok ()) _ rfl
  cases created
  cases read
  exact ⟨limited, runs, called, grants⟩

end IdentityManager

end Brokerage
