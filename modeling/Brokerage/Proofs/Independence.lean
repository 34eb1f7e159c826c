import Brokerage.Proofs.Broker.Scene

/-! Operations on two instances do not come in each other's way. What an operation does to the store,
tells providers and returns is made out by what is known of its own instance; so that two operations,
performed at one time by a broker without a limit, come to the same in either order. -/

namespace Brokerage

open Scene

/-- What an action on a row makes of a store. -/
def RecordAction.edit (time : Instant) (row : InstanceRow) : RecordAction → Edit
  | .softDelete => .rewrite row.id (Store.deleted time)
  | .markActive => .rewrite row.id (Store.overwriteInstance time (row.withStatus .active))
  | .markProvisioning =>
    .rewrite row.id (Store.overwriteInstance time (row.withStatus .provisioning))
  | .releaseClaim => .release row.id

theorem RecordAction.apply_edit (action : RecordAction) (time : Instant) (row : InstanceRow)
    (s : Store) : (action.edit time row).apply s = action.effect time row s := by
  cases action <;> rfl

theorem RecordAction.about_edit (action : RecordAction) (time : Instant) (row : InstanceRow) :
    (action.edit time row).About row.id := by
  cases action with
  | softDelete => exact ⟨rfl, Store.deleted_id time⟩
  | markActive | markProvisioning => exact ⟨rfl, Store.overwriteInstance_id time _⟩
  | releaseClaim => rfl

namespace Broker

variable {b : Broker} {now : Instant} {answers : LocalAnswers} {id : String} {w v : Scene}

/-! ### Operations seen from their instance -/

theorem checkDeletable_done (b : Broker) (now : Instant) (row : InstanceRow) :
    ∃ r, (b.checkDeletable now row).run = .done r := by
  unfold checkDeletable
  cases row.status with
  | pending => cases b.isStale now row.createdAt <;> exact ⟨_, rfl⟩
  | deprovisioning | provisioning | active => exact ⟨_, rfl⟩

theorem deprovision_parallel (alike : Alike id w v) (request : DeprovisionRequest)
    (asyncAllowed : Bool) :
    Parallel now answers w v (.start id) (b.deprovision now id request asyncAllowed)
      (b.deprovision now id request asyncAllowed) := by
  unfold deprovision
  refine .liveInstance alike fun row hw hv => ?_
  obtain ⟨checked, done⟩ := checkDeletable_done b now row
  refine .bind (run_of_done done _) (run_of_done done _) fun _ _ => ?_
  refine .ofCatalog fun provider => ?_
  refine .require ?_
  obtain rfl := Store.liveInstance?_id hw
  refine .askValue alike rfl fun _ => ?_
  cases way : provider.deprovisionsAsync with
  | true =>
    have about : (Edit.rewrite row.id
        (Store.overwriteInstance now (row.withStatus .deprovisioning))).About row.id :=
      ⟨rfl, Store.overwriteInstance_id now _⟩
    exact .write about (Store.step_saveInstance_of_live now hw)
      (Store.step_saveInstance_of_live now hv) (.done rfl rfl)
  | false =>
    have about : (Edit.rewrite row.id (Store.deleted now)).About row.id :=
      ⟨rfl, Store.deleted_id now⟩
    exact .write about (Store.step_softDeleteInstance_of_live now hw)
      (Store.step_softDeleteInstance_of_live now hv) (.done rfl rfl)

theorem unbind_parallel (alike : Alike id w v) (bindingId : String) :
    Parallel now answers w v (.start id) (b.unbind now id bindingId)
      (b.unbind now id bindingId) := by
  unfold unbind
  refine .liveInstance alike fun row hw _ => ?_
  refine .liveBinding alike fun binding heldw heldv => ?_
  have about : (Edit.withdraw id bindingId now).About id := rfl
  cases binding.status with
  | pending =>
    refine .require ?_
    rw [StoreCall.value_eq]
    exact .write about (Store.step_softDeleteBinding_of_live now heldw)
      (Store.step_softDeleteBinding_of_live now heldv) (.done rfl rfl)
  | active =>
    refine .ofCatalog fun provider => ?_
    obtain rfl := Store.liveInstance?_id hw
    refine .askValue alike rfl fun _ => ?_
    exact .write about (Store.step_softDeleteBinding_of_live now heldw)
      (Store.step_softDeleteBinding_of_live now heldv) (.done rfl rfl)

/-- A binding is claimed under the next number of either store. -/
theorem claimBinding_parallel {α : Type} (alike : Alike id w v) {row : BindingRow}
    (named : row.instanceId = id) {f : Int → Action α}
    (next : Parallel now answers w v ((Progress.start id).edited (.issue row) named)
      (f (w.store.lastBindingId + 1)) (f (v.store.lastBindingId + 1))) :
    Parallel now answers w v (.start id) (claimBinding row >>= f) (claimBinding row >>= f) := by
  subst named
  rw [claimBinding_eq]
  have same : w.store.liveBinding? row.instanceId row.bindingId =
      v.store.liveBinding? row.instanceId row.bindingId := alike.store.liveBinding?
  by_cases free : w.store.liveBinding? row.instanceId row.bindingId = none
  · have about : (Edit.issue row).About row.instanceId := rfl
    exact .write about (Store.step_createBinding_of_free now free)
      (Store.step_createBinding_of_free now (same ▸ free)) next
  · have about : Edit.keep.About row.instanceId := trivial
    exact .write about (Store.step_createBinding_of_taken now free)
      (Store.step_createBinding_of_taken now (same ▸ free)) (.done rfl rfl)

theorem bind_parallel (alike : Alike id w v) (hw : w.store.NumberedBindings)
    (hv : v.store.NumberedBindings) (bindingId : String) (request : BindRequest) :
    Parallel now answers w v (.start id) (b.bind now id bindingId request)
      (b.bind now id bindingId request) := by
  unfold bind
  refine .readValue (a := w.store.countBindings id bindingId) rfl ?_ ?_
  · rw [alike.store.countBindings]
    rfl
  refine .require ?_
  refine .require ?_
  refine .liveInstance alike fun row live _ => ?_
  obtain rfl := Store.liveInstance?_id live
  refine .require ?_
  refine .ofCatalog fun provider => ?_
  refine claimBinding_parallel alike rfl ?_
  have about : (ProviderCall.bind row bindingId request).instanceId = row.id := rfl
  refine .ask alike about fun answer => ?_
  cases answer with
  | error e =>
    have released : Edit.number.About row.id := trivial
    exact .write released (Prod.ext rfl (Store.releaseBindingClaim_withBinding hw rfl))
      (Prod.ext rfl (Store.releaseBindingClaim_withBinding hv rfl)) (.done rfl rfl)
  | ok credentials =>
    -- What is written of the claim does not depend on its number.
    let issued := Store.overwriteBinding now (issuedRow now row.id bindingId row 0 credentials)
      (.claim now row.id bindingId row.serviceId)
    have saved : (Edit.issue issued).About row.id := rfl
    have written : ∀ s : Store, s.NumberedBindings →
        (s.withBinding (.claim now row.id bindingId row.serviceId)).step now
          (.saveBinding (issuedRow now row.id bindingId row (s.lastBindingId + 1) credentials)) =
            (.ok (), s.withBinding issued) := by
      intro s numbers
      have held := Store.numbered_mem_withBinding s (.claim now row.id bindingId row.serviceId)
      have named : (s.numbered (.claim now row.id bindingId row.serviceId)).id =
          (issuedRow now row.id bindingId row (s.lastBindingId + 1) credentials).id := rfl
      refine (Store.step_saveBinding_of_live now held named rfl).trans ?_
      exact congrArg (Prod.mk _) (Store.rewriteBindings_withBinding numbers)
    exact .write saved (written w.store hw) (written v.store hv) (.reply alike rfl)

/-- An instance is claimed in either store, if it has a row in neither. -/
theorem claimInstance_parallel {α : Type} (alike : Alike id w v) {row : InstanceRow}
    {request : RequestRow} (live : row.live = true)
    (about : (Edit.create row request).About id) {f : Unit → Action α}
    (next : w.store.row? row.id = none → v.store.row? row.id = none →
      Parallel now answers w v ((Progress.start id).edited (.create row request) about)
        (f ()) (f ())) :
    Parallel now answers w v (.start id) (claimInstance row request >>= f)
      (claimInstance row request >>= f) := by
  obtain ⟨rfl, entered⟩ := about
  rw [claimInstance_eq]
  have same : w.store.row? row.id = v.store.row? row.id := alike.store.row?
  by_cases fresh : w.store.row? row.id = none
  · have about : (Edit.create row request).About row.id := ⟨rfl, entered⟩
    exact .write about (Store.step_claimInstance_of_fresh now request fresh live)
      (Store.step_claimInstance_of_fresh now request (same ▸ fresh) live)
      (next fresh (same ▸ fresh))
  · have kept : Edit.keep.About row.id := trivial
    obtain ⟨_, takenw⟩ := Store.step_claimInstance_of_taken now request fresh
    obtain ⟨_, takenv⟩ := Store.step_claimInstance_of_taken now request (same ▸ fresh)
    exact .write kept takenw takenv (.done rfl rfl)

theorem provision_parallel (unlimited : b.instanceLimit = none) (alike : Alike id w v)
    (request : ProvisionRequest) (asyncAllowed : Bool) :
    Parallel now answers w v (.start id) (b.provision now id request asyncAllowed)
      (b.provision now id request asyncAllowed) := by
  unfold provision
  have checked : (b.checkInstanceLimit).run = .done (.ok ()) := by
    rw [checkInstanceLimit, unlimited]
    rfl
  refine .bind (run_of_done checked _) (run_of_done checked _) fun _ _ => ?_
  refine .readValue (a := w.store.countInstances id) rfl ?_ ?_
  · rw [alike.store.countInstances]
    rfl
  refine .require ?_
  refine .ofCatalog fun resolved => ?_
  obtain ⟨plan, provider⟩ := resolved
  refine .require ?_
  cases request.parameters with
  | error e => exact .done rfl rfl
  | ok fields =>
    let asked : RequestRow := .of now id request.toJson
    let claim := claim now id request plan
    have claimed : (Edit.create claim asked).About id := ⟨rfl, rfl⟩
    refine claimInstance_parallel alike rfl claimed fun freshw freshv => ?_
    refine .ask alike rfl fun answer => ?_
    cases answer with
    | error e =>
      have entered : (Edit.enter asked).About id := rfl
      -- The request stays, the claim does not.
      have released : ∀ s : Store, s.row? id = none →
          (((s.withRequest asked).withInstance claim).releaseInstanceClaim id).2 =
            s.withRequest asked := by
        intro s fresh
        have fresh : (s.withRequest asked).row? claim.id = none := fresh
        exact Store.releaseInstanceClaim_withInstance fresh rfl rfl
      exact .write entered (Prod.ext rfl (released w.store freshw))
        (Prod.ext rfl (released v.store freshv)) (.done rfl rfl)
    | ok metadata =>
      let row := provisionedRow claim metadata provider.provisionsAsync
      let made := Store.overwriteInstance now row claim
      have created : (Edit.create made asked).About id := ⟨rfl, rfl⟩
      have written : ∀ s : Store, s.row? id = none →
          ((s.withRequest asked).withInstance claim).step now (.saveInstance row) =
            (.ok (), (s.withRequest asked).withInstance made) := by
        intro s fresh
        have fresh : (s.withRequest asked).row? claim.id = none := fresh
        have live : ((s.withRequest asked).withInstance claim).liveInstance? row.id = some claim :=
          Store.liveInstance?_withInstance fresh rfl
        refine (Store.step_saveInstance_of_live now live).trans ?_
        exact congrArg (Prod.mk _) (Store.rewriteInstance_withInstance fresh rfl)
      exact .write created (written w.store freshw) (written v.store freshv) (.done rfl rfl)

theorem settle_parallel {row : InstanceRow} {g : Progress row.id} (kept : g.edit = .keep)
    (hw : w.store.liveInstance? row.id = some row) (hv : v.store.liveInstance? row.id = some row)
    (outcome : PollOutcome) :
    Parallel now answers w v g (settle row outcome) (settle row outcome) := by
  unfold settle
  cases called : (Transition.next row.status outcome).action with
  | none =>
    simp only [called]
    exact .done rfl rfl
  | some action =>
    simp only [called, carryOut_eq]
    have about := action.about_edit now row
    -- Nothing was written before, so that the action finds the row as the poll did.
    have stepped : ∀ u : Scene, u.store.liveInstance? row.id = some row →
        ∃ value, (g.edit.apply u.store).step now (action.call row) =
          (.ok value, (action.edit now row).apply u.store) := by
      intro u live
      rw [kept, RecordAction.apply_edit]
      exact action.step_call now live
    obtain ⟨_, donew⟩ := stepped w hw
    obtain ⟨_, donev⟩ := stepped v hv
    exact .write about donew donev (.done rfl rfl)

theorem lastOperation_parallel (alike : Alike id w v) :
    Parallel now answers w v (.start id) (b.lastOperation now id) (b.lastOperation now id) := by
  unfold lastOperation
  refine .liveInstance alike fun row hw hv => ?_
  obtain rfl := Store.liveInstance?_id hw
  refine .ofCatalog fun provider => ?_
  refine .require ?_
  split
  · exact .done rfl rfl
  · have about : (ProviderCall.poll row).instanceId = row.id := rfl
    refine .ask alike about fun answer => ?_
    cases answer with
    | error e => exact settle_parallel rfl hw hv _
    | ok finished =>
      cases finished with
      | false => exact settle_parallel rfl hw hv _
      | true =>
        cases known : WorkKind.inFlight row.status with
        | some kind =>
          simp only [finishedWork, known]
          exact settle_parallel rfl hw hv _
        | none =>
          simp only [finishedWork_of_unknown known]
          have about : (ProviderCall.wasDelete row).instanceId = row.id := rfl
          refine .ask alike about fun answer => ?_
          cases answer with
          | ok wasDelete => exact settle_parallel rfl hw hv _
          | error e => exact .done rfl rfl

/-- What an operation does, tells providers and returns is made out by what is known of its own
instance. -/
theorem perform_alike (unlimited : b.instanceLimit = none) (now : Instant)
    (answers : LocalAnswers) {op : Operation} (alike : Alike op.instanceId w v)
    (hw : w.store.NumberedBindings) (hv : v.store.NumberedBindings) :
    ∃ r, ∃ g : Progress op.instanceId,
      run now answers (b.perform now op) w = (r, w.after g) ∧
        run now answers (b.perform now op) v = (r, v.after g) := by
  show Parallel now answers w v (.start op.instanceId) (b.perform now op) (b.perform now op)
  cases op with
  | provision id request asyncAllowed =>
    exact .map Response.provisioned (provision_parallel unlimited alike request asyncAllowed)
  | deprovision id request asyncAllowed =>
    exact .map Response.deprovisioned (deprovision_parallel alike request asyncAllowed)
  | bind id bindingId request =>
    exact .map Response.bound (bind_parallel alike hw hv bindingId request)
  | unbind id bindingId request =>
    exact .map (fun _ => Response.unbound) (unbind_parallel alike bindingId)
  | update id request asyncAllowed => exact .done rfl rfl
  | lastOperation id => exact .map Response.reported (lastOperation_parallel alike)

/-! ### Two operations -/

/-- The results of two operations, and the scene after both. -/
structure Turns where
  first : Except BrokerError Response
  second : Except BrokerError Response
  after : Scene

/-- Two operations, one after the other. -/
def inTurn (b : Broker) (now : Instant) (answers : LocalAnswers) (op₁ op₂ : Operation)
    (w : Scene) : Turns :=
  let x := run now answers (b.perform now op₁) w
  let y := run now answers (b.perform now op₂) x.2
  ⟨x.1, y.1, y.2⟩

/-- Operations on two instances, performed at one time by a broker without a limit, have the same
results in either order, and come to the same store but for the numbers that it gave and the order
of its rows. This is so from every store whose bindings have numbers that it has given. -/
theorem operations_commute (unlimited : b.instanceLimit = none) {op₁ op₂ : Operation}
    (apart : op₁.instanceId ≠ op₂.instanceId) (now : Instant) (answers : LocalAnswers) {w : Scene}
    (numbers : w.store.NumberedBindings) :
    let x := b.inTurn now answers op₁ op₂ w
    let y := b.inTurn now answers op₂ op₁ w
    x.first = y.second ∧ x.second = y.first ∧
      Store.SameSince w.store x.after.store y.after.store := by
  have numbered : ∀ op, (run now answers (b.perform now op) w).2.store.NumberedBindings :=
    fun op => run_keeps (fun _ call held => held.step now call) _ w numbers
  -- Each operation is compared with itself in the scene that the other one leaves.
  obtain ⟨r, g, alone, -⟩ := perform_alike unlimited now answers
    (.refl op₂.instanceId w) numbers numbers
  have numbers₂ := numbered op₂
  rw [alone] at numbers₂
  obtain ⟨r₁, g₁, alone₁, late₁⟩ := perform_alike unlimited now answers
    (alike_after w g apart) numbers numbers₂
  have numbers₁ := numbered op₁
  rw [alone₁] at numbers₁
  obtain ⟨r₂, g₂, alone₂, late₂⟩ := perform_alike unlimited now answers
    (alike_after w g₁ (Ne.symm apart)) numbers numbers₁
  obtain ⟨rfl, same⟩ := Prod.mk.inj (alone.symm.trans alone₂)
  rw [same] at alone late₁
  simp only [inTurn, alone, alone₁, late₁, late₂]
  exact ⟨trivial, trivial, Edit.apply_comm g₁.edits g₂.edits apart w.store⟩

end Broker

/-- Providers do what they are told. -/
def Sample.obedient : LocalAnswers
  | _, _, .provision _ _ _ => .ok {}
  | _, _, .bind _ _ _ | _, _, .joinCredentials _ _ => .ok credentials
  | _, _, .deprovision _ _ | _, _, .unbind _ _ => .ok ()
  | _, _, .poll _ | _, _, .wasDelete _ => .ok true

/-- Of two instances that are made, the one that is made first has the first request. -/
theorem Broker.operations_commute_numbered :
    let w : Scene := ⟨.empty, []⟩
    let op₁ : Operation := .provision "i" Sample.request false
    let op₂ : Operation := .provision "k" Sample.request false
    let x := Sample.promptBroker.inTurn 0 Sample.obedient op₁ op₂ w
    let y := Sample.promptBroker.inTurn 0 Sample.obedient op₂ op₁ w
    Sample.promptBroker.instanceLimit = none ∧ op₁.instanceId ≠ op₂.instanceId ∧
      w.store.NumberedBindings ∧ x.second = .ok (.provisioned false) ∧
      x.after.store.requests.map (fun r => (r.id, r.instanceId)) = [(1, "i"), (2, "k")] ∧
      y.after.store.requests.map (fun r => (r.id, r.instanceId)) = [(1, "k"), (2, "i")] ∧
      x.first = y.second ∧ x.second = y.first ∧
      Store.SameSince w.store x.after.store y.after.store := by
  have numbers : Store.empty.NumberedBindings := List.forall_mem_nil _
  have apart : (Operation.provision "i" Sample.request false).instanceId ≠
      (Operation.provision "k" Sample.request false).instanceId := by decide
  dsimp only
  refine ⟨rfl, apart, numbers, ?_, ?_, ?_,
    operations_commute rfl apart 0 Sample.obedient numbers⟩
  · rfl
  · rfl
  · rfl

end Brokerage
