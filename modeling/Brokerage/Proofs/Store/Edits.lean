import Brokerage.Proofs.Store.Bindings

/-! Edits of a store: what one operation makes of it, as a value. An edit is about an instance. It
leaves the rows of every other instance as they are, and what it makes of the rows of its own depends
on those alone, but for the numbers of new rows; so that edits about two instances come to the same
whichever is made first. -/

namespace Brokerage

/-- Rows are told apart by their keys: lists that have the same rows under each key, in the same
order, have the same rows. -/
theorem perm_of_filter_key {α κ : Type} [DecidableEq α] [DecidableEq κ] {l₁ l₂ : List α}
    (key : α → κ) (same : ∀ k, l₁.filter (key · = k) = l₂.filter (key · = k)) : l₁.Perm l₂ := by
  refine List.perm_iff_count.mpr fun a => ?_
  have counted : ∀ l : List α, (l.filter (key · = key a)).count a = l.count a :=
    fun l => List.count_filter (by simp)
  rw [← counted l₁, same, counted l₂]

/-- The row with one number for all that are given after `n`. -/
def BindingRow.unnumbered (n : Int) (row : BindingRow) : BindingRow :=
  if n < row.id then { row with id := n + 1 } else row

def RequestRow.unnumbered (n : Int) (row : RequestRow) : RequestRow :=
  if n < row.id then { row with id := n + 1 } else row

namespace Store

/-- The rows of an instance. -/
def instancesOf (s : Store) (id : String) : List InstanceRow := s.instances.filter (·.id = id)

/-- The bindings of an instance, live or deleted. -/
def bindingsOf (s : Store) (id : String) : List BindingRow :=
  s.bindings.filter (·.instanceId = id)

/-- The bindings of an instance but for the numbers given after `n`. -/
def bindingsSince (n : Int) (s : Store) (id : String) : List BindingRow :=
  (s.bindingsOf id).map (·.unnumbered n)

def requestsSince (n : Int) (s : Store) (id : String) : List RequestRow :=
  (s.requestsOf id).map (·.unnumbered n)

/-- Two stores hold the same about an instance and its bindings. -/
structure Alike (id : String) (s t : Store) : Prop where
  instances : s.instancesOf id = t.instancesOf id
  bindings : s.bindingsOf id = t.bindingsOf id

/-- Two stores hold the same but for the numbers given since `start`, and for the order of rows. -/
structure SameSince (start s t : Store) : Prop where
  instances : s.instances.Perm t.instances
  rows : ∀ id, s.row? id = t.row? id
  bindings : (s.bindings.map (·.unnumbered start.lastBindingId)).Perm
    (t.bindings.map (·.unnumbered start.lastBindingId))
  requests : (s.requests.map (·.unnumbered start.lastRequestId)).Perm
    (t.requests.map (·.unnumbered start.lastRequestId))
  plans : s.plans = t.plans
  lastBindingId : s.lastBindingId = t.lastBindingId
  lastRequestId : s.lastRequestId = t.lastRequestId

variable {s t : Store} {id i k bindingId : String} {n : Int}

/-! ### What is looked up of an instance -/

theorem row?_eq_head? : s.row? id = (s.instancesOf id).head? := by
  simp [row?, instancesOf, List.head?_filter]

theorem liveInstance?_eq_find? : s.liveInstance? id = (s.instancesOf id).find? (·.live) := by
  simp [liveInstance?, instancesOf, List.find?_filter]

theorem countInstances_eq_countP : s.countInstances id = (s.instancesOf id).countP (·.live) := by
  simp [countInstances, instancesOf, List.countP_filter, Bool.and_comm]

theorem liveBindings_eq_filter : s.liveBindings id bindingId =
    (s.bindingsOf id).filter fun r => r.isOf id bindingId && r.live := by
  rw [liveBindings, bindingsOf, List.filter_filter]
  refine List.filter_congr fun r _ => ?_
  cases ofPair : r.isOf id bindingId with
  | false => rfl
  | true =>
    rw [Bool.true_and, decide_eq_true (isOf_iff.mp ofPair).1, Bool.and_true]

namespace Alike

variable (alike : Alike id s t)
include alike

theorem row? : s.row? id = t.row? id := by
  rw [row?_eq_head?, alike.instances, row?_eq_head?]

theorem liveInstance? : s.liveInstance? id = t.liveInstance? id := by
  rw [liveInstance?_eq_find?, alike.instances, liveInstance?_eq_find?]

theorem countInstances : s.countInstances id = t.countInstances id := by
  rw [countInstances_eq_countP, alike.instances, countInstances_eq_countP]

theorem liveBindings : s.liveBindings id bindingId = t.liveBindings id bindingId := by
  rw [liveBindings_eq_filter, alike.bindings, liveBindings_eq_filter]

theorem liveBinding? : s.liveBinding? id bindingId = t.liveBinding? id bindingId := by
  rw [liveBinding?_eq_head?, alike.liveBindings, liveBinding?_eq_head?]

theorem countBindings : s.countBindings id bindingId = t.countBindings id bindingId := by
  rw [countBindings_eq_length, alike.liveBindings, countBindings_eq_length]

end Alike

/-! ### The writes, seen from one instance -/

theorem instancesOf_withInstance (row : InstanceRow) :
    (s.withInstance row).instancesOf k = s.instancesOf k ++ [row].filter (·.id = k) :=
  List.filter_append _ _

theorem instancesOf_rewriteInstance {f : InstanceRow → InstanceRow} (keeps : ∀ r, (f r).id = r.id) :
    (s.rewriteInstance i f).instancesOf k =
      (s.instancesOf k).map fun r => if r.id = i && r.live then f r else r := by
  rw [instancesOf, rewriteInstance, List.filter_map, instancesOf]
  refine congrArg (List.map _) (List.filter_congr fun r _ => ?_)
  exact rewrite_keeps (g := fun r : InstanceRow => decide (r.id = k)) (fun r => by rw [keeps]) _ r

theorem instancesOf_releaseInstanceClaim :
    (s.releaseInstanceClaim i).2.instancesOf k =
      (s.instancesOf k).filter fun r => !releasableInstance i r := by
  simp only [instancesOf, releaseInstanceClaim, List.filter_filter, Bool.and_comm]

theorem bindingsOf_withBinding (row : BindingRow) :
    (s.withBinding row).bindingsOf k =
      s.bindingsOf k ++ [s.numbered row].filter (·.instanceId = k) :=
  List.filter_append _ _

theorem bindingsOf_withdrawn (time : Instant) :
    (s.rewriteBindings (·.isOf i bindingId) (withdrawn time)).bindingsOf k =
      (s.bindingsOf k).map fun r => if r.isOf i bindingId && r.live then withdrawn time r else r := by
  rw [bindingsOf, rewriteBindings, List.filter_map, bindingsOf]
  refine congrArg (List.map _) (List.filter_congr fun r _ => ?_)
  exact rewrite_keeps (f := withdrawn time) (g := fun r => decide (r.instanceId = k))
    (fun _ => rfl) _ r

theorem bindingsSince_withBinding (within : n ≤ s.lastBindingId) (row : BindingRow) :
    bindingsSince n (s.withBinding row) k = bindingsSince n s k ++
      [{ row with id := n + 1, deletedAt? := none }].filter (·.instanceId = k) := by
  have later : n < s.lastBindingId + 1 := by omega
  rw [bindingsSince, bindingsOf_withBinding, List.map_append, bindingsSince]
  by_cases same : row.instanceId = k <;>
    simp [numbered, BindingRow.unnumbered, same, later]

theorem bindingsSince_withdrawn (time : Instant) :
    bindingsSince n (s.rewriteBindings (·.isOf i bindingId) (withdrawn time)) k =
      (bindingsSince n s k).map fun r =>
        if r.isOf i bindingId && r.live then withdrawn time r else r := by
  rw [bindingsSince, bindingsOf_withdrawn, bindingsSince, List.map_map, List.map_map]
  refine List.map_congr_left fun r _ => ?_
  -- Whether a row is withdrawn is not a matter of its number.
  have own : ∀ number, (BindingRow.isOf { r with id := number } i bindingId &&
      BindingRow.live { r with id := number }) = (r.isOf i bindingId && r.live) := fun _ => rfl
  simp only [Function.comp, BindingRow.unnumbered]
  by_cases later : n < r.id <;> cases picked : r.isOf i bindingId && r.live <;>
    simp [later, picked, own, withdrawn]

theorem requestsOf_withRequest (row : RequestRow) :
    (s.withRequest row).requestsOf k =
      s.requestsOf k ++ [{ row with id := s.lastRequestId + 1 }].filter (·.instanceId = k) :=
  List.filter_append _ _

theorem requestsSince_withRequest (within : n ≤ s.lastRequestId) (row : RequestRow) :
    requestsSince n (s.withRequest row) k = requestsSince n s k ++
      [{ row with id := n + 1 }].filter (·.instanceId = k) := by
  have later : n < s.lastRequestId + 1 := by omega
  rw [requestsSince, requestsOf_withRequest, List.map_append, requestsSince]
  by_cases same : row.instanceId = k <;> simp [RequestRow.unnumbered, same, later]

end Store

/-- What an operation makes of a store. -/
inductive Edit where
  | keep
  /-- An instance was asked for in vain. -/
  | enter (request : RequestRow)
  | create (row : InstanceRow) (request : RequestRow)
  | rewrite (id : String) (f : InstanceRow → InstanceRow)
  | release (id : String)
  /-- A binding was claimed in vain. -/
  | number
  | issue (row : BindingRow)
  | withdraw (instanceId bindingId : String) (time : Instant)

namespace Edit

def apply : Edit → Store → Store
  | keep, s => s
  | enter request, s => s.withRequest request
  | create row request, s => (s.withRequest request).withInstance row
  | rewrite id f, s => s.rewriteInstance id f
  | release id, s => (s.releaseInstanceClaim id).2
  | number, s => { s with lastBindingId := s.lastBindingId + 1 }
  | issue row, s => s.withBinding row
  | withdraw instanceId bindingId time, s =>
    s.rewriteBindings (·.isOf instanceId bindingId) (Store.withdrawn time)

/-- The edit touches rows of one instance only, and leaves it its identifier. -/
def About (i : String) : Edit → Prop
  | keep | number => True
  | enter request => request.instanceId = i
  | create row request => row.id = i ∧ request.instanceId = i
  | rewrite id f => id = i ∧ ∀ r, (f r).id = r.id
  | release id => id = i
  | issue row => row.instanceId = i
  | withdraw instanceId _ _ => instanceId = i

/-- How many numbers the edit gives to bindings. -/
def bindingNumbers : Edit → Nat
  | number | issue _ => 1
  | keep | enter _ | create _ _ | rewrite _ _ | release _ | withdraw _ _ _ => 0

def requestNumbers : Edit → Nat
  | enter _ | create _ _ => 1
  | keep | rewrite _ _ | release _ | number | issue _ | withdraw _ _ _ => 0

variable {s t : Store} {e : Edit} {i k : String} {n : Int}

theorem lastBindingId_apply (e : Edit) (s : Store) :
    (e.apply s).lastBindingId = s.lastBindingId + e.bindingNumbers := by
  cases e <;> simp [apply, bindingNumbers, Store.withRequest, Store.createRequest,
    Store.withInstance, Store.rewriteInstance, Store.releaseInstanceClaim, Store.withBinding,
    Store.insertBinding, Store.rewriteBindings]

theorem lastRequestId_apply (e : Edit) (s : Store) :
    (e.apply s).lastRequestId = s.lastRequestId + e.requestNumbers := by
  cases e <;> simp [apply, requestNumbers, Store.withRequest, Store.createRequest,
    Store.withInstance, Store.rewriteInstance, Store.releaseInstanceClaim, Store.withBinding,
    Store.insertBinding, Store.rewriteBindings]

theorem plans_apply (e : Edit) (s : Store) : (e.apply s).plans = s.plans := by
  cases e <;> rfl

/-! ### Other instances -/

section Other

variable (about : e.About i) (other : k ≠ i)
include about other

theorem instancesOf_apply_ne : (e.apply s).instancesOf k = s.instancesOf k := by
  cases e with
  | keep | enter | number | issue | withdraw => rfl
  | create row =>
    obtain ⟨rfl, -⟩ := about
    rw [apply, Store.instancesOf_withInstance]
    simp [Ne.symm other, Store.instancesOf, Store.withRequest, Store.createRequest]
  | rewrite id f =>
    obtain ⟨rfl, keeps⟩ := about
    rw [apply, Store.instancesOf_rewriteInstance keeps]
    refine (List.map_congr_left fun r hr => ?_).trans (List.map_id _)
    have named : r.id = k := by simpa using (List.mem_filter.mp hr).2
    simp [named, other]
  | release id =>
    obtain rfl : id = i := about
    rw [apply, Store.instancesOf_releaseInstanceClaim]
    refine List.filter_eq_self.mpr fun r hr => ?_
    have named : r.id = k := by simpa using (List.mem_filter.mp hr).2
    simp [Store.releasableInstance, named, other]

theorem bindingsOf_apply_ne : (e.apply s).bindingsOf k = s.bindingsOf k := by
  cases e with
  | keep | enter | create | rewrite | release | number => rfl
  | issue row =>
    obtain rfl : row.instanceId = i := about
    rw [apply, Store.bindingsOf_withBinding]
    simp [Store.numbered, Ne.symm other]
  | withdraw id bindingId time =>
    obtain rfl : id = i := about
    rw [apply, Store.bindingsOf_withdrawn]
    refine (List.map_congr_left fun r hr => ?_).trans (List.map_id _)
    have named : r.instanceId = k := by simpa using (List.mem_filter.mp hr).2
    simp [BindingRow.isOf, named, other]

theorem requestsOf_apply_ne : (e.apply s).requestsOf k = s.requestsOf k := by
  cases e with
  | keep | rewrite | release | number | issue | withdraw => rfl
  | enter row =>
    obtain rfl : row.instanceId = i := about
    rw [apply, Store.requestsOf_withRequest]
    simp [Ne.symm other]
  | create row request =>
    obtain ⟨-, rfl⟩ := about
    show (s.withRequest request).requestsOf k = s.requestsOf k
    rw [Store.requestsOf_withRequest]
    simp [Ne.symm other]

theorem alike_apply_ne : Store.Alike k s (e.apply s) :=
  ⟨(instancesOf_apply_ne about other).symm, (bindingsOf_apply_ne about other).symm⟩

end Other

/-! ### The instance of the edit -/

theorem instancesOf_apply_congr (about : e.About i) (same : s.instancesOf i = t.instancesOf i) :
    (e.apply s).instancesOf i = (e.apply t).instancesOf i := by
  cases e with
  | keep | enter | number | issue | withdraw => exact same
  | create row request =>
    have same : (s.withRequest request).instancesOf i = (t.withRequest request).instancesOf i :=
      same
    rw [apply, apply, Store.instancesOf_withInstance, Store.instancesOf_withInstance, same]
  | rewrite id f =>
    rw [apply, apply, Store.instancesOf_rewriteInstance about.2,
      Store.instancesOf_rewriteInstance about.2, same]
  | release id =>
    rw [apply, apply, Store.instancesOf_releaseInstanceClaim,
      Store.instancesOf_releaseInstanceClaim, same]

theorem bindingsSince_apply_congr (same : s.bindingsOf i = t.bindingsOf i)
    (hs : n ≤ s.lastBindingId) (ht : n ≤ t.lastBindingId) :
    Store.bindingsSince n (e.apply s) i = Store.bindingsSince n (e.apply t) i := by
  have since : Store.bindingsSince n s i = Store.bindingsSince n t i := congrArg _ same
  cases e with
  | keep | enter | create | rewrite | release | number => exact since
  | issue row =>
    rw [apply, apply, Store.bindingsSince_withBinding hs, Store.bindingsSince_withBinding ht, since]
  | withdraw =>
    rw [apply, apply, Store.bindingsSince_withdrawn, Store.bindingsSince_withdrawn, since]

theorem requestsSince_apply_congr (same : s.requestsOf i = t.requestsOf i)
    (hs : n ≤ s.lastRequestId) (ht : n ≤ t.lastRequestId) :
    Store.requestsSince n (e.apply s) i = Store.requestsSince n (e.apply t) i := by
  have since : Store.requestsSince n s i = Store.requestsSince n t i := congrArg _ same
  cases e with
  | keep | rewrite | release | number | issue | withdraw => exact since
  | enter request =>
    rw [apply, apply, Store.requestsSince_withRequest hs, Store.requestsSince_withRequest ht, since]
  | create row request =>
    have entered : Store.requestsSince n (s.withRequest request) i =
        Store.requestsSince n (t.withRequest request) i := by
      rw [Store.requestsSince_withRequest hs, Store.requestsSince_withRequest ht, since]
    exact entered

/-! ### Two edits -/

theorem bindings_unnumbered_filter (n : Int) (s : Store) (k : String) :
    (s.bindings.map (·.unnumbered n)).filter (·.instanceId = k) = Store.bindingsSince n s k := by
  rw [List.filter_map, Store.bindingsSince, Store.bindingsOf]
  refine congrArg (List.map _) (List.filter_congr fun r _ => ?_)
  simp only [Function.comp, BindingRow.unnumbered]
  split <;> rfl

theorem requests_unnumbered_filter (n : Int) (s : Store) (k : String) :
    (s.requests.map (·.unnumbered n)).filter (·.instanceId = k) = Store.requestsSince n s k := by
  rw [List.filter_map, Store.requestsSince, Store.requestsOf]
  refine congrArg (List.map _) (List.filter_congr fun r _ => ?_)
  simp only [Function.comp, RequestRow.unnumbered]
  split <;> rfl

section Two

variable {e₁ e₂ : Edit} {j : String} (first : e₁.About i) (second : e₂.About j) (apart : i ≠ j)
include first second apart

/-- What edits leave alone of other instances, and make of their own whatever was made of others, two
of them make of every instance in either order. -/
theorem view_comm {β : Type} {view : Store → String → β}
    (frame : ∀ {e : Edit} {i k : String} {s : Store}, e.About i → k ≠ i →
      view (e.apply s) k = view s k)
    (own₁ : view (e₁.apply (e₂.apply s)) i = view (e₁.apply s) i)
    (own₂ : view (e₂.apply (e₁.apply s)) j = view (e₂.apply s) j) (k : String) :
    view (e₂.apply (e₁.apply s)) k = view (e₁.apply (e₂.apply s)) k := by
  -- An instance is that of one edit, which the other leaves alone, or of neither.
  by_cases ofFirst : k = i
  · subst ofFirst
    rw [frame second apart, own₁]
  · by_cases ofSecond : k = j
    · subst ofSecond
      rw [own₂, frame first ofFirst]
    · rw [frame second ofSecond, frame first ofFirst, frame first ofFirst, frame second ofSecond]

theorem instancesOf_comm (k : String) :
    (e₂.apply (e₁.apply s)).instancesOf k = (e₁.apply (e₂.apply s)).instancesOf k := by
  refine view_comm first second apart instancesOf_apply_ne ?_ ?_ k
  · exact instancesOf_apply_congr first (instancesOf_apply_ne second apart)
  · exact instancesOf_apply_congr second (instancesOf_apply_ne first (Ne.symm apart))

theorem bindingsSince_comm (within : n ≤ s.lastBindingId) (k : String) :
    Store.bindingsSince n (e₂.apply (e₁.apply s)) k =
      Store.bindingsSince n (e₁.apply (e₂.apply s)) k := by
  have later : ∀ e : Edit, n ≤ (e.apply s).lastBindingId := by
    intro e
    rw [lastBindingId_apply]
    omega
  refine view_comm first second apart ?_ ?_ ?_ k
  · intro e i k s about other
    exact congrArg _ (bindingsOf_apply_ne about other)
  · exact bindingsSince_apply_congr (bindingsOf_apply_ne second apart) (later e₂) within
  · exact bindingsSince_apply_congr (bindingsOf_apply_ne first (Ne.symm apart)) (later e₁) within

theorem requestsSince_comm (within : n ≤ s.lastRequestId) (k : String) :
    Store.requestsSince n (e₂.apply (e₁.apply s)) k =
      Store.requestsSince n (e₁.apply (e₂.apply s)) k := by
  have later : ∀ e : Edit, n ≤ (e.apply s).lastRequestId := by
    intro e
    rw [lastRequestId_apply]
    omega
  refine view_comm first second apart ?_ ?_ ?_ k
  · intro e i k s about other
    exact congrArg _ (requestsOf_apply_ne about other)
  · exact requestsSince_apply_congr (requestsOf_apply_ne second apart) (later e₂) within
  · exact requestsSince_apply_congr (requestsOf_apply_ne first (Ne.symm apart)) (later e₁) within

/-- Edits about two instances come to the same in either order. -/
theorem apply_comm (s : Store) :
    Store.SameSince s (e₂.apply (e₁.apply s)) (e₁.apply (e₂.apply s)) where
  instances := perm_of_filter_key (·.id) (instancesOf_comm first second apart)
  rows id := by
    rw [Store.row?_eq_head?, instancesOf_comm first second apart, Store.row?_eq_head?]
  bindings := by
    refine perm_of_filter_key (·.instanceId) fun k => ?_
    rw [bindings_unnumbered_filter, bindings_unnumbered_filter,
      bindingsSince_comm first second apart (Int.le_refl _)]
  requests := by
    refine perm_of_filter_key (·.instanceId) fun k => ?_
    rw [requests_unnumbered_filter, requests_unnumbered_filter,
      requestsSince_comm first second apart (Int.le_refl _)]
  plans := by simp only [plans_apply]
  lastBindingId := by
    simp only [lastBindingId_apply]
    omega
  lastRequestId := by
    simp only [lastRequestId_apply]
    omega

end Two

end Edit

end Brokerage
