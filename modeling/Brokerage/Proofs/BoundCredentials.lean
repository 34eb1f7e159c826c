import Brokerage.Proofs.Account.Records
import Brokerage.Proofs.PartialBinds
import Brokerage.Proofs.StoredRecords
import Brokerage.Proofs.Subject

/-! What a bind returns and what it leaves on record. The binding holds the credentials as they were
issued, and the application sees them joined with what is stored about the instance, and with an
address if they are for a database. What a later unbind withdraws is told by the binding alone, so
that nothing that is stored about the instance can stand in for it. -/

namespace Brokerage

/-! ### Issued credentials -/

/-- Texts whose names ascend are a record that a text can give back. -/
theorem StoredTexts.plain_fields {texts : StoredTexts}
    (sorted : (texts.map (·.1)).Pairwise (· < ·)) : (Json.obj texts.fields).Plain Json.maxDepth := by
  refine .obj (List.pairwise_map.mpr (List.pairwise_map.mp sorted)) fun p hp => ?_
  obtain ⟨text, -, rfl⟩ := List.mem_map.mp hp
  exact .str text.2

theorem DatabaseInfo.plain_credentials (i : DatabaseInfo) :
    (Json.obj i.credentials).Plain Json.maxDepth := by
  rw [credentials_eq]
  exact StoredTexts.plain_fields (by decide : ["CaCert", "ClientCert", "ClientKey", "Password",
    "Sha1Fingerprint", "Username"].Pairwise (· < ·))

/-! ### Joined credentials -/

/-- The rules by which providers join fresh credentials with what is stored about the instance: the
one of a provider that has none of its own, and those of the two managers. The manager of database
users adds an address. -/
inductive Joins {τ : Type} (answer : ProviderAnswers τ) : Option DatabaseManager → Prop
  | plain (rule : ∀ credentials row t,
      (answer (.joinCredentials credentials row) t).1 = joinPlain credentials row) :
      Joins answer none
  | identity {σ : Type} (m : IdentityManager)
      (backend : (call : IdentityCall) → σ → Except CredentialError call.Value × σ)
      (rule : ∀ credentials row t, (answer (.joinCredentials credentials row) t).1 =
        ((m.over backend).join credentials row).mapError .credentials) :
      Joins answer none
  | database {σ : Type} (m : DatabaseManager)
      (backend : (call : DatabaseCall) → σ → Except CredentialError call.Value × σ)
      (rule : ∀ credentials row t, (answer (.joinCredentials credentials row) t).1 =
        ((m.over backend).join credentials row).mapError .credentials) :
      Joins answer (some m)

/-- Joined credentials with the address that they make, if there is to be one. -/
def addressed : Option DatabaseManager → Fields → Fields
  | none, joined => joined
  | some m, joined => joined.insert "uri" (.str (m.connectionUri joined))

/-- What an application sees of credentials: the names of both records, each with the value that the
details of the instance give it if they do, and the address of all that in place of any other. -/
structure Shown (address? : Option DatabaseManager) (details minted shown : Fields) : Prop where
  sorted : shown.Sorted
  union : ∃ joined : Fields, joined.Sorted ∧
    (∀ key, joined.get? key = (details.get? key).or (minted.get? key)) ∧
    ∀ key, shown.get? key =
      match address? with
      | some m => if key = "uri" then some (.str (m.connectionUri joined)) else joined.get? key
      | none => joined.get? key

theorem joinCredentials_eq_ok {credentials shown : Fields} {row : InstanceRow}
    (joined : joinCredentials credentials row = .ok shown) :
    ∃ details, row.details = .ok details ∧ shown = credentials.merge details := by
  unfold joinCredentials at joined
  cases read : row.details with
  | error e =>
    rw [read] at joined
    cases joined
  | ok details =>
    rw [read] at joined
    cases joined
    exact ⟨details, rfl, rfl⟩

/-- Credentials that were joined were joined with details that can be read. -/
theorem Joins.details {τ : Type} {answer : ProviderAnswers τ} {address? : Option DatabaseManager}
    {credentials shown : Fields} {row : InstanceRow} {t : τ} (joins : Joins answer address?)
    (joined : (answer (.joinCredentials credentials row) t).1 = .ok shown) :
    ∃ details, row.details = .ok details ∧ shown = addressed address? (credentials.merge details) := by
  cases joins with
  | plain rule =>
    rw [rule, joinPlain] at joined
    split at joined <;> cases joined
    rename_i joined
    exact joinCredentials_eq_ok joined
  | identity m backend rule =>
    rw [rule] at joined
    have joined : joinCredentials credentials row = .ok shown :=
      Broker.ok_of_mapError (Broker.ok_of_mapError joined)
    exact joinCredentials_eq_ok joined
  | database m backend rule =>
    rw [rule] at joined
    have joined : m.joinCredentials credentials row = .ok shown :=
      Broker.ok_of_mapError (Broker.ok_of_mapError joined)
    unfold DatabaseManager.joinCredentials at joined
    cases plainly : joinCredentials credentials row with
    | error e =>
      rw [plainly] at joined
      cases joined
    | ok union =>
      rw [plainly] at joined
      cases joined
      obtain ⟨details, read, rfl⟩ := joinCredentials_eq_ok plainly
      exact ⟨details, read, rfl⟩

theorem shown_addressed {details minted : Fields} (stored : details.Sorted) (issued : minted.Sorted)
    (address? : Option DatabaseManager) :
    Shown address? details minted (addressed address? (minted.merge details)) := by
  have sorted : (minted.merge details).Sorted := issued.merge details
  have union := Fields.get?_merge_of_sorted minted stored
  cases address? with
  | none => exact ⟨sorted, _, sorted, union, fun _ => rfl⟩
  | some m => exact ⟨sorted.insert _ _, _, sorted, union, Fields.get?_insert _ _ _⟩

namespace Broker

variable {b : Broker} {faults : Faults} {now : Instant} {id bindingId i j : String} {s s' : Store}
  {asked : List Consultation} {binding : BindingRow}

/-! ### The binding on record -/

/-- A binding that was issued is what its pair is read as, and holds the credentials. -/
theorem liveBinding?_issued {request : BindRequest} {row : InstanceRow} {provider : Provider}
    (may : b.MayBind id bindingId request s row provider) (credentials : Fields)
    (saved : Instant) :
    ∃ stored, (issued now id bindingId row credentials saved s).liveBinding? id bindingId =
      some stored ∧ stored.otherDetails = credentials.text := by
  have claimed : (s.withBinding (.claim now id bindingId row.serviceId)).liveBinding? id bindingId =
      some (s.numbered (.claim now id bindingId row.serviceId)) :=
    Store.liveBinding?_withBinding may.vacant
  exact ⟨_, Store.liveBinding?_rewriteBindings_self (Store.isOf_overwriteBinding saved _ · id bindingId)
    (Store.live_overwriteBinding saved _) claimed (decide_eq_true rfl), rfl⟩

/-- Only an unbind that succeeds changes what a pair with a live binding is read as. -/
theorem Course.liveBinding?_kept {op : Operation} {r : Except BrokerError Response}
    (h : b.Course faults now s op asked r s') (numbers : s.NumberedBindings)
    (held : s.liveBinding? i j = some binding)
    (kept : ∀ request, op = .unbind i j request → r ≠ .ok .unbound) :
    s'.liveBinding? i j = some binding := by
  suffices s'.liveBindings i j = s.liveBindings i j by
    rw [Store.liveBinding?_eq_head?, this, ← Store.liveBinding?_eq_head?, held]
  by_cases same : op.pair? = some (i, j)
  case neg => exact h.liveBindings_ne numbers same
  cases h with
  | provision | deprovision | update | lastOperation => cases same
  | bind h =>
    cases same
    cases h with
    | refused => rfl
    | failed may | orphaned may | bound _ may => cases held.symm.trans may.vacant
  | unbind h =>
    cases same
    cases h with
    | refused | failed | orphaned => rfl
    | withdrawn | done => exact absurd rfl (kept _ rfl)

/-- In the course of operations, none of which withdraws the pair, its live binding stays as it is. -/
theorem History.liveBinding?_kept {h : List Performance} (run : b.History faults s h s')
    (numbers : s.NumberedBindings) (held : s.liveBinding? i j = some binding)
    (kept : ∀ p ∈ h, ∀ request, p.op = .unbind i j request → p.result ≠ .ok .unbound) :
    s'.liveBinding? i j = some binding := by
  induction run with
  | start => exact held
  | @perform p rest t performed _ ih =>
    obtain ⟨first, others⟩ := List.forall_mem_cons.mp kept
    exact ih (performed.numberedBindings numbers)
      ((Course.of_acts performed).liveBinding?_kept numbers held first) others

/-- A provider that an unbind calls is told the live row of the instance and the live binding of the
pair. -/
theorem Unbinding.call_eq {r : Except BrokerError Unit} {c : Consultation}
    (h : Unbinding b faults now id bindingId s asked r s') (hc : c ∈ asked) :
    ∃ row binding, s.liveInstance? id = some row ∧ s.liveBinding? id bindingId = some binding ∧
      c.call = .unbind row binding := by
  cases h with
  | refused | withdrawn => cases hc
  | failed may | orphaned may | done _ may =>
    obtain rfl := List.mem_singleton.mp hc
    exact ⟨_, _, may.live, may.held, rfl⟩

end Broker

/-! ### Withdrawals -/

/-- Whatever the backend, the managers withdraw the same for one row and binding as for another. -/
structure WithdrawnAlike (row row' : InstanceRow) (binding binding' : BindingRow) : Prop where
  identity : ∀ {σ : Type} (m : IdentityManager)
    (backend : (call : IdentityCall) → σ → Except CredentialError call.Value × σ),
    (m.over backend).delete row binding = (m.over backend).delete row' binding'
  database : ∀ {σ : Type} (m : DatabaseManager)
    (backend : (call : DatabaseCall) → σ → Except CredentialError call.Value × σ),
    (m.over backend).delete row binding = (m.over backend).delete row' binding'

/-- What is withdrawn is told by the text of the binding and the name of the resource. -/
theorem WithdrawnAlike.of_text {row row' : InstanceRow} {binding binding' : BindingRow}
    (named : row.name = row'.name) (text : binding.otherDetails = binding'.otherDetails) :
    WithdrawnAlike row row' binding binding' where
  identity m backend := by
    have same : m.deleteCredentials binding = m.deleteCredentials binding' := by
      unfold IdentityManager.deleteCredentials
      rw [text]
    exact congrArg (fun program => Program.run backend (ExceptT.run program)) same
  database m backend := by
    have certificate : m.deleteCertificate row = m.deleteCertificate row' := by
      funext info
      unfold DatabaseManager.deleteCertificate
      rw [named]
    have user : m.deleteUser row = m.deleteUser row' := by
      funext info
      unfold DatabaseManager.deleteUser
      rw [named]
      refine congrArg (Fallible.attempt (DatabaseCall.deleteUser row'.name info.username).ask >>= ·)
        (funext fun answer => ?_)
      cases answer with
      | ok => rfl
      | error e => cases e <;> rfl
    have same : m.deleteCredentials row binding = m.deleteCredentials row' binding' := by
      unfold DatabaseManager.deleteCredentials
      rw [text, certificate, user]
    exact congrArg (fun program => Program.run backend (ExceptT.run program)) same

namespace Broker

/-- Whatever is done first, as long as no unbind of the pair succeeds, the next unbind tells the
provider of no binding but `stored`, and both managers withdraw for it what they would withdraw for
any binding that has the text of `minted`, whatever is stored about the instance. -/
def WithdrawsMinted (b : Broker) (id bindingId : String) (stored : BindingRow) (minted : Fields)
    (s : Store) : Prop :=
  ∀ faults h s', b.History faults s h s' →
    (∀ p ∈ h, ∀ request, p.op = .unbind id bindingId request → p.result ≠ .ok .unbound) →
    ∀ now request asked r t,
      Acts faults (b.perform now (.unbind id bindingId request)) s' asked r t →
      ∀ c ∈ asked, ∃ row, s'.liveInstance? id = some row ∧ c.call = .unbind row stored ∧
        ∀ row' binding', row'.name = row.name → binding'.otherDetails = minted.text →
          WithdrawnAlike row row' stored binding'

theorem withdrawsMinted {b : Broker} {id bindingId : String} {s : Store} {stored : BindingRow}
    {minted : Fields} (numbers : s.NumberedBindings)
    (held : s.liveBinding? id bindingId = some stored) (text : stored.otherDetails = minted.text) :
    b.WithdrawsMinted id bindingId stored minted s := by
  intro faults h s' run kept now request asked r t acts c hc
  obtain ⟨_, -, acted⟩ := Acts.of_map acts
  obtain ⟨row, binding, live, found, told⟩ := (Unbinding.of_acts acted).call_eq hc
  cases found.symm.trans (run.liveBinding?_kept numbers held kept)
  exact ⟨row, live, told, fun _ _ named same => .of_text named.symm (text.trans same.symm)⟩

/-- A bind that succeeds leaves a binding that holds what the provider issued and nothing else, and
returns that joined with what is stored about the instance. What is withdrawn later is what was
issued, whatever names the stored details have. -/
theorem bound_credentials {τ : Type} {answer : ProviderAnswers τ}
    {address? : Option DatabaseManager} {b : Broker} {faults : Faults} {now : Instant}
    {id bindingId : String} {request : BindRequest} {s s' : Store} {asked : List Consultation}
    {response : Response} {t t' : τ} (joins : Joins answer address?) (numbers : s.NumberedBindings)
    (acts : Acts faults (b.perform now (.bind id bindingId request)) s asked (.ok response) s')
    (consulted : Consulted answer asked t t') :
    ∃ row details minted shown stored,
      s.liveInstance? id = some row ∧ row.details = .ok details ∧
      (answer (.bind row bindingId request) t).1 = .ok minted ∧
      response = .bound shown ∧ s'.liveBinding? id bindingId = some stored ∧
      ((Json.obj minted).Plain Json.maxDepth →
        stored.credentials = .ok minted ∧ Shown address? details minted shown) ∧
      b.WithdrawsMinted id bindingId stored minted s' := by
  have numbers' : s'.NumberedBindings :=
    acts.keeps (fun _ now call numbers => numbers.step now call) numbers
  obtain ⟨r, made, acted⟩ := Acts.of_map acts
  cases Binding.of_acts acted with
  | refused | failed | orphaned => cases made
  | @bound row provider minted saved may shown? =>
    obtain ⟨issued, joined, -⟩ := consulted
    cases shown? with
    | error => cases made
    | ok shown =>
      cases made
      obtain ⟨details, read, rfl⟩ := joins.details joined.symm
      obtain ⟨stored, held, text⟩ := liveBinding?_issued may minted saved
      refine ⟨row, details, minted, _, stored, may.live, read, issued.symm, rfl, held,
        fun plain => ⟨?_, ?_⟩, withdrawsMinted numbers' held text⟩
      · rw [BindingRow.credentials, text]
        exact Fields.readColumn_text plain _
      · exact shown_addressed (Fields.sorted_of_readColumn read) (Fields.sorted_of_plain plain) _

end Broker

namespace Sample

/-- Stored details with names that credentials have too. -/
def remarks : StoredTexts :=
  [("Sha1Fingerprint", "ff"), ("Username", "root"), ("host", "db"), ("uri", "none")]

def metadata : Fields := remarks.fields

def describedRow : InstanceRow := madeRow.withDetails metadata

/-- The store with one instance, about which the details are stored. -/
def described : Store := { made with instances := [describedRow] }

/-- The database user that is asked for, with the certificate that is issued. -/
def mintedUser : DatabaseInfo :=
  ⟨"u", "s", "server ca", "cert jcert", "key+jcert", "sha1-jcert"⟩

theorem described_details : describedRow.details = .ok metadata := by
  have plain : (Json.obj remarks.fields).Plain Json.maxDepth :=
    StoredTexts.plain_fields (by decide)
  exact Fields.readColumn_text plain _

end Sample

namespace Broker

/-- The stored user name and fingerprint are shown to the application in place of those that were
issued, and do not get into the binding. -/
theorem bound_credentials_described :
    let answer := managedAnswer NamedResources.manager
      (Sample.userManager.over DatabaseBackend.answer)
    Joins answer (some Sample.userManager) ∧ Sample.described.NumberedBindings ∧
    ∃ shown asked after left stored,
      Acts .none (Sample.promptBroker.perform 10 (.bind "i" "j" Sample.bindRequest))
        Sample.described asked (.ok (.bound shown)) after ∧
      Consulted answer asked ({}, {}) left ∧
      after.liveBinding? "i" "j" = some stored ∧
      stored.credentials = .ok Sample.mintedUser.credentials ∧
      Shown (some Sample.userManager) Sample.metadata Sample.mintedUser.credentials shown ∧
      shown.get? "Username" = some (.str "root") ∧
      Sample.promptBroker.WithdrawsMinted "i" "j" stored Sample.mintedUser.credentials after := by
  intro answer
  have joins : Joins answer (some Sample.userManager) := .database _ _ fun _ _ _ => rfl
  have numbers : Sample.described.NumberedBindings := nofun
  have may : Sample.promptBroker.MayBind "i" "j" Sample.bindRequest Sample.described
      Sample.describedRow Sample.promptProvider := ⟨rfl, by decide, rfl, rfl, rfl⟩
  obtain ⟨left, created⟩ : ∃ left, (Sample.userManager.over DatabaseBackend.answer).create
      Sample.describedRow "j" Sample.bindRequest {} =
        (.ok Sample.mintedUser.credentials, left) := ⟨_, rfl⟩
  have joined : ∃ joined, (Sample.userManager.over DatabaseBackend.answer).join
      Sample.mintedUser.credentials Sample.describedRow = .ok joined := by
    simp only [DatabaseManager.over, DatabaseManager.joinCredentials, joinCredentials,
      Sample.described_details]
    exact ⟨_, rfl⟩
  obtain ⟨_, joined⟩ := joined
  have binds : Sample.promptBroker.BindsOver NamedResources.manager
      (Sample.userManager.over DatabaseBackend.answer) 10 "i" "j" Sample.bindRequest
      (Sample.described, {}, {}) := may.bindsOver created joined
  obtain ⟨response, ⟨after, last⟩, bound⟩ := binds
  obtain ⟨asked, acts, consulted⟩ := acts_of_serve bound
  obtain ⟨row, details, minted, shown, stored, live, read, issued, rfl, held, kept, withdraws⟩ :=
    bound_credentials joins numbers acts consulted
  cases live.symm.trans may.live
  cases read.symm.trans Sample.described_details
  have same : minted = Sample.mintedUser.credentials :=
    Except.ok.inj (issued.symm.trans
      (congrArg (fun result => result.1.mapError ProviderError.credentials) created))
  subst same
  obtain ⟨credentials, shows⟩ := kept Sample.mintedUser.plain_credentials
  obtain ⟨union, -, names, values⟩ := shows.union
  refine ⟨joins, numbers, shown, asked, after, last, stored, acts, consulted, held, credentials,
    shows, ?_, withdraws⟩
  rw [values]
  exact names "Username"

end Broker

end Brokerage
