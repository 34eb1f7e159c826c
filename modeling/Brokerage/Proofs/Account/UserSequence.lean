import Brokerage.Proofs.Account.UserCourses
import Mathlib.Data.List.Basic

/-! The sequence of calls that a database user takes. A certificate is asked for once the operation
that inserts the user is done. When credentials are withdrawn, the certificate comes first, and the
user once the operation that deletes the certificate is done. -/

namespace Brokerage.DatabaseManager

variable {σ : Type}

/-- The courses of withdrawing the certificate of credentials. -/
inductive Withdrawing (m : DatabaseManager) (replies : Replies databaseInterface σ)
    (row : InstanceRow) (info : DatabaseInfo) (s : σ) :
    List (Exchange databaseInterface σ) → Except CredentialError Unit → σ → Prop
  | spared (uncertified : info.caCert = "") : Withdrawing m replies row info s [] (.ok ()) s
  | declined {e : CredentialError} {s' : σ} (certified : info.caCert ≠ "")
      (failed : replies (.deleteCertificate row.name info.fingerprint) s (.error e) s') :
      Withdrawing m replies row info s
        [⟨s, .deleteCertificate row.name info.fingerprint, .error e⟩] (.error e) s'
  | accepted {operation : String} {t s' : σ} {trace : List (Exchange databaseInterface σ)}
      {r : Except CredentialError Unit} (certified : info.caCert ≠ "")
      (started : replies (.deleteCertificate row.name info.fingerprint) s (.ok operation) t)
      (polling : Polling replies m.maxPolls operation m.maxPolls t trace r s') :
      Withdrawing m replies row info s
        (⟨s, .deleteCertificate row.name info.fingerprint, .ok operation⟩ :: trace) r s'

/-- The courses of deleting the user of credentials. -/
inductive Removing (m : DatabaseManager) (replies : Replies databaseInterface σ)
    (row : InstanceRow) (info : DatabaseInfo) (s : σ) :
    List (Exchange databaseInterface σ) → Except CredentialError Unit → σ → Prop
  | gone {reason : String} {s' : σ}
      (missing : replies (.deleteUser row.name info.username) s (.error (.backend 404 reason)) s') :
      Removing m replies row info s
        [⟨s, .deleteUser row.name info.username, .error (.backend 404 reason)⟩] (.ok ()) s'
  | declined {e : CredentialError} {s' : σ}
      (failed : replies (.deleteUser row.name info.username) s (.error e) s') :
      Removing m replies row info s [⟨s, .deleteUser row.name info.username, .error e⟩] (.error e)
        s'
  | accepted {operation : String} {t s' : σ} {trace : List (Exchange databaseInterface σ)}
      {r : Except CredentialError Unit}
      (started : replies (.deleteUser row.name info.username) s (.ok operation) t)
      (polling : Polling replies m.maxPolls operation m.maxPolls t trace r s') :
      Removing m replies row info s
        (⟨s, .deleteUser row.name info.username, .ok operation⟩ :: trace) r s'

/-- The courses of withdrawing credentials. -/
inductive Deleting (m : DatabaseManager) (replies : Replies databaseInterface σ)
    (row : InstanceRow) (binding : BindingRow) (s : σ) :
    List (Exchange databaseInterface σ) → Except CredentialError Unit → σ → Prop
  | unreadable (lost : DatabaseInfo.read? binding.otherDetails = none) :
      Deleting m replies row binding s [] (.error (.malformed .unreadable)) s
  | unwithdrawn {info : DatabaseInfo} {e : CredentialError} {s' : σ}
      {trace : List (Exchange databaseInterface σ)}
      (stored : DatabaseInfo.read? binding.otherDetails = some info)
      (failed : m.Withdrawing replies row info s trace (.error e) s') :
      Deleting m replies row binding s trace (.error e) s'
  | withdrawn {info : DatabaseInfo} {t s' : σ} {first last : List (Exchange databaseInterface σ)}
      {r : Except CredentialError Unit}
      (stored : DatabaseInfo.read? binding.otherDetails = some info)
      (withdrawn : m.Withdrawing replies row info s first (.ok ()) t)
      (removing : m.Removing replies row info t last r s') :
      Deleting m replies row binding s (first ++ last) r s'

variable {replies : Replies databaseInterface σ} {s s' : σ}
  {trace : List (Exchange databaseInterface σ)} {m : DatabaseManager} {row : InstanceRow}
  {info : DatabaseInfo} {binding : BindingRow} {r : Except CredentialError Unit}

/-! ### Runs and courses -/

theorem deleteCertificate_eq (certified : info.caCert ≠ "") : m.deleteCertificate row info =
    ((DatabaseCall.deleteCertificate row.name info.fingerprint).ask >>= m.waitFor) :=
  if_neg (mt String.isEmpty_iff.mp certified)

theorem deleteCredentials_eq (stored : DatabaseInfo.read? binding.otherDetails = some info) :
    m.deleteCredentials row binding = (m.deleteCertificate row info >>= fun _ =>
      m.deleteUser row info) := by
  unfold deleteCredentials
  rw [stored]

theorem Withdrawing.of_runs
    (h : Fallible.Runs replies (m.deleteCertificate row info) s trace r s') :
    m.Withdrawing replies row info s trace r s' := by
  by_cases certified : info.caCert = ""
  · rw [deleteCertificate, if_pos (String.isEmpty_iff.mpr certified)] at h
    obtain ⟨rfl, rfl, rfl⟩ := Fallible.runs_pure h
    exact .spared certified
  · rw [deleteCertificate_eq certified] at h
    rcases Fallible.runs_ask h with
      ⟨e, failed, rfl, rfl⟩ | ⟨operation, t, rest, started, rfl, polling⟩
    · exact .declined certified failed
    · exact .accepted certified started (.of_runs polling)

theorem Removing.of_runs (h : Fallible.Runs replies (m.deleteUser row info) s trace r s') :
    m.Removing replies row info s trace r s' := by
  unfold deleteUser at h
  obtain ⟨answer, t, rest, asked, rfl, ending⟩ := Fallible.runs_call h
  cases answer with
  | ok operation => exact .accepted asked (.of_runs ending)
  | error e =>
    cases e with
    | backend code reason =>
      by_cases gone : code = 404
      · subst gone
        obtain ⟨rfl, rfl, rfl⟩ := Fallible.runs_pure ending
        exact .gone asked
      · simp only [if_neg gone] at ending
        obtain ⟨rfl, rfl, rfl⟩ := Fallible.runs_throw ending
        exact .declined asked
    | _ =>
      obtain ⟨rfl, rfl, rfl⟩ := Fallible.runs_throw ending
      exact .declined asked

/-- A withdrawal takes one of its courses. -/
theorem Deleting.of_runs
    (h : Fallible.Runs replies (m.deleteCredentials row binding) s trace r s') :
    m.Deleting replies row binding s trace r s' := by
  cases stored : DatabaseInfo.read? binding.otherDetails with
  | none =>
    unfold deleteCredentials at h
    rw [stored] at h
    obtain ⟨rfl, rfl, rfl⟩ := Fallible.runs_throw h
    exact .unreadable stored
  | some info =>
    rw [deleteCredentials_eq stored] at h
    rcases Fallible.runs_bind h with ⟨e, rfl, failed⟩ | ⟨first, last, _, t, rfl, done, removing⟩
    · exact .unwithdrawn stored (.of_runs failed)
    · exact .withdrawn stored (.of_runs done) (.of_runs removing)

/-! ### One operation after the other -/

/-- The polls of an operation, up to the one that finds it done. -/
def Finishes (operation : String) (polls : List (Exchange databaseInterface σ)) : Prop :=
  (∀ x ∈ polls, x.call = .operationDone operation) ∧
    ∃ t, polls.getLast? = some ⟨t, .operationDone operation, .ok true⟩

theorem Polling.calls {limit n : Nat} {operation : String}
    (h : Polling replies limit operation n s trace r s') :
    ∀ x ∈ trace, x.call = .operationDone operation := by
  induction h with
  | gaveUp => exact List.forall_mem_nil _
  | unheard | finished => exact List.forall_mem_singleton.mpr rfl
  | unfinished _ _ ih => exact List.forall_mem_cons.mpr ⟨rfl, ih⟩

theorem Polling.finishes {limit n : Nat} {operation : String}
    (h : Polling replies limit operation n s trace (.ok ()) s') : Finishes operation trace := by
  refine ⟨h.calls, ?_⟩
  generalize done : (.ok () : Except CredentialError Unit) = r at h
  induction h with
  | gaveUp | unheard => cases done
  | @finished _ s => exact ⟨s, rfl⟩
  | unfinished _ _ ih =>
    obtain ⟨t, last⟩ := ih done
    exact ⟨t, by rw [List.getLast?_cons, last]; rfl⟩

theorem Withdrawing.calls (h : m.Withdrawing replies row info s trace r s') :
    ∀ x ∈ trace, x.call = .deleteCertificate row.name info.fingerprint ∨
      ∃ operation, x.call = .operationDone operation := by
  cases h with
  | spared => exact List.forall_mem_nil _
  | declined => exact List.forall_mem_singleton.mpr (.inl rfl)
  | accepted _ _ polling =>
    exact List.forall_mem_cons.mpr ⟨.inl rfl, fun x hx => .inr ⟨_, polling.calls x hx⟩⟩

theorem Removing.calls (h : m.Removing replies row info s trace r s') :
    ∃ first polls, trace = first :: polls ∧ first.call = .deleteUser row.name info.username ∧
      ∀ x ∈ polls, ∃ operation, x.call = .operationDone operation := by
  cases h with
  | gone | declined => exact ⟨_, [], rfl, rfl, List.forall_mem_nil _⟩
  | accepted _ polling => exact ⟨_, _, rfl, rfl, fun x hx => ⟨_, polling.calls x hx⟩⟩

/-- What was asked before: the deletion of the certificate, if there is one, was accepted and is
done. -/
def Withdrawn (row : InstanceRow) (info : DatabaseInfo)
    (before : List (Exchange databaseInterface σ)) : Prop :=
  info.caCert = "" ∧ before = [] ∨
    ∃ s operation polls, Finishes operation polls ∧
      before = ⟨s, .deleteCertificate row.name info.fingerprint, .ok operation⟩ :: polls

theorem Withdrawing.withdrawn (h : m.Withdrawing replies row info s trace (.ok ()) s') :
    Withdrawn row info trace := by
  cases h with
  | spared uncertified => exact .inl ⟨uncertified, rfl⟩
  | accepted _ _ polling => exact .inr ⟨_, _, _, polling.finishes, rfl⟩

variable {before after : List (Exchange databaseInterface σ)} {x : Exchange databaseInterface σ}
  {instanceName : String}

/-- The user is not deleted before the certificate is. -/
theorem Deleting.certificate_first {username : String}
    (h : m.Deleting replies row binding s trace r s') (split : trace = before ++ x :: after)
    (asked : x.call = .deleteUser instanceName username) :
    ∃ info, DatabaseInfo.read? binding.otherDetails = some info ∧ instanceName = row.name ∧
      username = info.username ∧ Withdrawn row info before := by
  have held : x ∈ trace := by
    rw [split]
    exact List.mem_append_right _ List.mem_cons_self
  have other : ∀ {info : DatabaseInfo} {first t r}, m.Withdrawing replies row info s first r t →
      x ∉ first := by
    intro info first t r withdrawing hx
    rcases withdrawing.calls x hx with same | ⟨operation, same⟩ <;> cases asked.symm.trans same
  cases h with
  | unreadable => exact absurd held List.not_mem_nil
  | unwithdrawn _ failed => exact absurd held (other failed)
  | @withdrawn info _ _ first _ _ stored withdrawn removing =>
    obtain ⟨head, polls, rfl, named, polled⟩ := removing.calls
    have unpolled : x ∉ polls := fun hx => by
      obtain ⟨operation, same⟩ := polled x hx
      cases asked.symm.trans same
    obtain ⟨rfl, rfl, -⟩ := (List.append_cons_inj_of_notMem (other withdrawn) unpolled).mp split
    cases named.symm.trans asked
    exact ⟨info, stored, rfl, rfl, withdrawn.withdrawn⟩

/-- A certificate is not asked for before the user has been inserted. -/
theorem user_first {bindingId commonName : String} {request : BindRequest}
    {result : Except CredentialError Fields}
    (h : Fallible.Runs replies (m.createCredentials row bindingId request) s trace result s')
    (split : trace = before ++ x :: after)
    (asked : x.call = .insertCertificate instanceName commonName) :
    instanceName = row.name ∧ commonName = certificateNameFor bindingId ∧
      ∃ username password operation polls, requestedUser request = .ok (username, password) ∧
        Finishes operation polls ∧
        before = ⟨s, .insertUser row.name username password, .ok operation⟩ :: polls := by
  have held : x ∈ trace := by
    rw [split]
    exact List.mem_append_right _ List.mem_cons_self
  unfold createCredentials at h
  cases accepted : requestedUser request with
  | error e =>
    rw [accepted] at h
    have failed : Fallible.Runs replies (throw e : DatabaseProgram Fields) s trace result s' := h
    obtain ⟨rfl, -⟩ := Fallible.runs_throw failed
    exact absurd held List.not_mem_nil
  | ok user =>
    obtain ⟨username, password⟩ := user
    rw [accepted] at h
    -- Neither the insertion of the user nor a poll is the call in question.
    have other : ∀ {polls operation} {answer : Except CredentialError String},
        (∀ y ∈ polls, y.call = .operationDone operation) →
        x ∉ ⟨s, .insertUser row.name username password, answer⟩ :: polls := by
      intro polls operation answer polled hx
      rcases List.mem_cons.mp hx with rfl | hx
      · cases asked
      · cases asked.symm.trans (polled x hx)
    rcases Fallible.runs_ask h with ⟨e, -, rfl, -⟩ | ⟨operation, t, rest, -, rfl, waiting⟩
    · exact absurd held (@other [] "" _ (List.forall_mem_nil _))
    rcases Fallible.runs_bind waiting with ⟨e, -, failed⟩ | ⟨polls, last, _, u, rfl, done, ending⟩
    · exact absurd held (other (Polling.of_runs failed).calls)
    have polling := Polling.of_runs done
    obtain ⟨answer, -, asking⟩ := Fallible.runs_map ending
    obtain ⟨rfl, -⟩ := Program.Runs.of_call asking
    rw [← List.cons_append] at split
    obtain ⟨rfl, rfl, -⟩ :=
      (List.append_cons_inj_of_notMem (other polling.calls) List.not_mem_nil).mp split
    cases asked
    exact ⟨rfl, rfl, username, password, operation, polls, rfl, polling.finishes, rfl⟩

end Brokerage.DatabaseManager
