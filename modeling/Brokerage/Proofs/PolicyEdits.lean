import Brokerage.Account.IdentityBackend
import Brokerage.Proofs.Run

/-! Edits of a policy that several writers share. Every version of it has a tag of its own, and a
write takes effect only if it names the tag of the current version. What an edit was made of is
therefore still current when the edit is written, whatever others write meanwhile, and an edit that
finds too many of them in its way leaves no trace. -/

namespace Brokerage

/-- A policy that several writers share, with the tags that its earlier versions had. -/
structure SharedPolicy where
  current : Policy
  pastTags : List String := []

namespace SharedPolicy

/-- A tag that no version has had yet. -/
def Fresh (v : SharedPolicy) (tag : String) : Prop := tag ≠ v.current.etag ∧ tag ∉ v.pastTags

/-- The policy with a further version. -/
def write (v : SharedPolicy) (bindings : List RoleBinding) (tag : String) : SharedPolicy :=
  ⟨⟨bindings, tag⟩, v.current.etag :: v.pastTags⟩

/-- What others may make of a policy, by any number of writes. -/
inductive Others : SharedPolicy → SharedPolicy → Prop
  | idle {v : SharedPolicy} : Others v v
  | write {v w : SharedPolicy} {bindings : List RoleBinding} {tag : String} :
      Others v w → w.Fresh tag → Others v (w.write bindings tag)

/-- The answers to the calls of one writer; before each of them others may have written. A write
takes effect if it names the current version, and is a conflict otherwise. Any call may fail in
another way, without effect. -/
inductive Reply : (call : IdentityCall) → SharedPolicy → Except CredentialError call.Value →
    SharedPolicy → Prop
  | read {v w : SharedPolicy} : Others v w → Reply .getPolicy v (.ok w.current) w
  | written {v w : SharedPolicy} {policy : Policy} {tag : String} :
      Others v w → policy.etag = w.current.etag → w.Fresh tag →
      Reply (.setPolicy policy) v (.ok ()) (w.write policy.bindings tag)
  | conflict {v w : SharedPolicy} {policy : Policy} {reason : String} :
      Others v w → policy.etag ≠ w.current.etag →
      Reply (.setPolicy policy) v (.error (.conflict reason)) w
  | failed {v w : SharedPolicy} {call : IdentityCall} {e : CredentialError} :
      Others v w → (∀ policy reason, call = .setPolicy policy → e ≠ .conflict reason) →
      Reply call v (.error e) w
  | unrelated {v w : SharedPolicy} {call : IdentityCall}
      {answer : Except CredentialError call.Value} : Others v w → call ≠ .getPolicy →
      (∀ policy, call ≠ .setPolicy policy) → Reply call v answer w

variable {u v w : SharedPolicy}

theorem Others.trans (first : Others u v) (last : Others v w) : Others u w := by
  induction last with
  | idle => exact first
  | write _ fresh ih => exact ih.write fresh

theorem Others.mem_pastTags (h : Others v w) : w = v ∨ v.current.etag ∈ w.pastTags := by
  induction h with
  | idle => exact .inl rfl
  | write _ _ ih =>
    right
    rcases ih with rfl | past
    · exact List.mem_cons_self
    · exact List.mem_cons_of_mem _ past

/-- As long as the current version has the same tag, nobody has written. -/
theorem Others.eq_of_etag (h : Others v w) (same : w.current.etag = v.current.etag) : w = v := by
  cases h with
  | idle => rfl
  | write before fresh =>
    rcases before.mem_pastTags with rfl | past
    · exact absurd same fresh.1
    · rw [← same] at past
      exact absurd past fresh.2

theorem Reply.of_getPolicy {answer : Except CredentialError Policy}
    (h : Reply .getPolicy v answer w) :
    Others v w ∧ (answer = .ok w.current ∨ ∃ e, answer = .error e) := by
  cases h with
  | read others => exact ⟨others, .inl rfl⟩
  | failed others => exact ⟨others, .inr ⟨_, rfl⟩⟩
  | unrelated _ reads => exact absurd rfl reads

/-- A write is answered in one of three ways, and only if all is well it has an effect. -/
theorem Reply.of_setPolicy {policy : Policy} {answer : Except CredentialError Unit}
    (h : Reply (.setPolicy policy) v answer w) :
    (∃ u tag, Others v u ∧ policy.etag = u.current.etag ∧ u.Fresh tag ∧ answer = .ok () ∧
        w = u.write policy.bindings tag) ∨
      Others v w ∧ ∃ e, answer = .error e := by
  cases h with
  | written others same fresh => exact .inl ⟨_, _, others, same, fresh, rfl, rfl⟩
  | conflict others => exact .inr ⟨others, _, rfl⟩
  | failed others => exact .inr ⟨others, _, rfl⟩
  | unrelated _ _ writes => exact absurd rfl (writes policy)

end SharedPolicy

/-! ### Calls -/

/-- A call of one writer, with what it met and how it was answered. -/
abbrev PolicyExchange : Type := Exchange identityInterface SharedPolicy

namespace PolicyExchange

/-- The policy was to be replaced. -/
def writes : PolicyExchange → Bool
  | ⟨_, .setPolicy _, _⟩ => true
  | _ => false

/-- The policy was replaced. -/
def takesEffect : PolicyExchange → Bool
  | ⟨_, .setPolicy _, .ok _⟩ => true
  | _ => false

/-- The policy was not replaced, because it was no longer the one that was read. -/
def conflicts : PolicyExchange → Bool
  | ⟨_, .setPolicy _, .error (.conflict _)⟩ => true
  | _ => false

/-- The error with which a call failed, unless that is the conflict of a write. -/
def failure? : PolicyExchange → Option CredentialError
  | ⟨_, .setPolicy _, .error (.conflict _)⟩ => none
  | ⟨_, _, .error e⟩ => some e
  | ⟨_, _, .ok _⟩ => none

theorem failure?_of_plain {v : SharedPolicy} {policy : Policy} {e : CredentialError}
    (plain : ∀ reason, e ≠ .conflict reason) :
    failure? ⟨v, .setPolicy policy, .error e⟩ = some e := by
  cases e with
  | conflict reason => exact absurd rfl (plain reason)
  | _ => rfl

end PolicyExchange

/-- What follows a call of its own goes on with the value of it, and an error ends it. -/
theorem IdentityCall.of_ask {σ β : Type} {replies : Replies identityInterface σ}
    {call : IdentityCall} {f : call.Value → IdentityProgram β} {s s'' : σ}
    {trace : List (Exchange identityInterface σ)} {r : Except CredentialError β}
    (h : Fallible.Runs replies (call.ask >>= f) s trace r s'') :
    (∃ e, replies call s (.error e) s'' ∧ trace = [⟨s, call, .error e⟩] ∧ r = .error e) ∨
      ∃ a s' rest, replies call s (.ok a) s' ∧ trace = ⟨s, call, .ok a⟩ :: rest ∧
        Fallible.Runs replies (f a) s' rest r s'' :=
  Fallible.runs_ask h

/-- What follows an attempt of a call of its own goes on with the answer to it. -/
theorem IdentityCall.of_attempt {σ β : Type} {replies : Replies identityInterface σ}
    {call : IdentityCall} {f : Except CredentialError call.Value → IdentityProgram β} {s s'' : σ}
    {trace : List (Exchange identityInterface σ)} {r : Except CredentialError β}
    (h : Fallible.Runs replies (Fallible.attempt call.ask >>= f) s trace r s'') :
    ∃ answer s' rest, replies call s answer s' ∧ trace = ⟨s, call, answer⟩ :: rest ∧
      Fallible.Runs replies (f answer) s' rest r s'' :=
  Fallible.runs_call (I := identityInterface) (c := call) (f := f) h

namespace IdentityManager

open SharedPolicy (Others Reply)
open PolicyExchange (writes takesEffect conflicts failure?)

/-- What an edit makes of the policy that was read. -/
def edited (edit : List RoleBinding → List RoleBinding) (policy : Policy) : Policy :=
  { policy with bindings := RoleBinding.merge (edit policy.bindings) }

/-- The courses of an edit that has some attempts left. -/
inductive Editing (limit : Nat) (edit : List RoleBinding → List RoleBinding) :
    Nat → SharedPolicy → List PolicyExchange → Except CredentialError Unit → SharedPolicy → Prop
  | gaveUp {v : SharedPolicy} : Editing limit edit 0 v [] (.error (.retriesExhausted limit)) v
  | unread {n : Nat} {v w : SharedPolicy} {e : CredentialError} (others : Others v w) :
      Editing limit edit (n + 1) v [⟨v, .getPolicy, .error e⟩] (.error e) w
  | unwritten {n : Nat} {v u w : SharedPolicy} {e : CredentialError} (others : Others v w)
      (plain : ∀ reason, e ≠ .conflict reason) :
      Editing limit edit (n + 1) v
        [⟨v, .getPolicy, .ok u.current⟩, ⟨u, .setPolicy (edited edit u.current), .error e⟩]
        (.error e) w
  | written {n : Nat} {v u : SharedPolicy} {tag : String} (others : Others v u)
      (fresh : u.Fresh tag) :
      Editing limit edit (n + 1) v
        [⟨v, .getPolicy, .ok u.current⟩, ⟨u, .setPolicy (edited edit u.current), .ok ()⟩]
        (.ok ()) (u.write (RoleBinding.merge (edit u.current.bindings)) tag)
  | conflicted {n : Nat} {v u w v' : SharedPolicy} {reason : String} {rest : List PolicyExchange}
      {r : Except CredentialError Unit} (others : Others v w)
      (again : Editing limit edit n w rest r v') :
      Editing limit edit (n + 1) v
        (⟨v, .getPolicy, .ok u.current⟩ ::
          ⟨u, .setPolicy (edited edit u.current), .error (.conflict reason)⟩ :: rest) r v'

variable {limit n : Nat} {edit : List RoleBinding → List RoleBinding} {v v' : SharedPolicy}
  {trace : List PolicyExchange} {r : Except CredentialError Unit}

/-- An edit takes one of its courses. -/
theorem Editing.of_runs (h : Fallible.Runs Reply (updatePolicy limit edit n) v trace r v') :
    Editing limit edit n v trace r v' := by
  induction n generalizing v trace with
  | zero =>
    obtain ⟨rfl, rfl, rfl⟩ := Fallible.runs_throw h
    exact .gaveUp
  | succ n ih =>
    unfold updatePolicy at h
    rcases IdentityCall.of_ask h with
      ⟨e, answered, rfl, rfl⟩ | ⟨policy, u, rest, answered, rfl, editing⟩
    · exact .unread answered.of_getPolicy.1
    clear h
    obtain ⟨before, same | ⟨_, ⟨⟩⟩⟩ := answered.of_getPolicy
    cases same
    obtain ⟨answer, w, rest, answered, rfl, ending⟩ := IdentityCall.of_attempt editing
    rcases answered.of_setPolicy with ⟨t, tag, between, same, fresh, rfl, rfl⟩ | ⟨between, e, rfl⟩
    · obtain ⟨rfl, rfl, rfl⟩ := Fallible.runs_pure ending
      -- The version that was read is the current one, so that nobody has written in between.
      obtain rfl := between.eq_of_etag same.symm
      exact .written before fresh
    · have others := before.trans between
      cases e with
      | conflict reason => exact .conflicted others (ih ending)
      | _ =>
        obtain ⟨rfl, rfl, rfl⟩ := Fallible.runs_throw ending
        exact .unwritten others nofun

/-! ### What becomes of an edit -/

/-- An edit that succeeds is written once, to what it was made of. -/
theorem Editing.written_once (h : Editing limit edit n v trace r v') (worked : r = .ok ()) :
    trace.countP takesEffect = 1 ∧ ∃ w tag, Others v w ∧ w.Fresh tag ∧
      v' = w.write (RoleBinding.merge (edit w.current.bindings)) tag := by
  induction h with
  | gaveUp | unread | unwritten => cases worked
  | written others fresh => exact ⟨rfl, _, _, others, fresh, rfl⟩
  | conflicted others _ ih =>
    obtain ⟨once, w, tag, later, fresh, rfl⟩ := ih worked
    exact ⟨once, w, tag, others.trans later, fresh, rfl⟩

/-- An edit that fails is not written. -/
theorem Editing.unwritten_of_error {e : CredentialError} (h : Editing limit edit n v trace r v')
    (failed : r = .error e) : trace.countP takesEffect = 0 ∧ Others v v' := by
  induction h with
  | gaveUp => exact ⟨rfl, .idle⟩
  | unread others | unwritten others => exact ⟨rfl, others⟩
  | written => cases failed
  | conflicted others _ ih =>
    obtain ⟨never, later⟩ := ih failed
    exact ⟨never, others.trans later⟩

/-- An edit that fails though no call of it failed has met a conflict in each of its attempts. -/
theorem Editing.exhausted {e : CredentialError} (h : Editing limit edit n v trace r v')
    (failed : r = .error e) (unfailing : ∀ x ∈ trace, failure? x ≠ some e) :
    e = .retriesExhausted limit ∧ trace.countP writes = n ∧
      ∀ x ∈ trace, writes x = true → conflicts x = true := by
  induction h with
  | gaveUp =>
    cases failed
    exact ⟨rfl, rfl, List.forall_mem_nil _⟩
  | unread =>
    cases failed
    exact absurd rfl (unfailing _ List.mem_cons_self)
  | unwritten _ plain =>
    cases failed
    have last := unfailing _ (List.mem_cons_of_mem _ List.mem_cons_self)
    exact absurd (PolicyExchange.failure?_of_plain plain) last
  | written => cases failed
  | conflicted _ _ ih =>
    have later := fun x hx => unfailing x (List.mem_cons_of_mem _ (List.mem_cons_of_mem _ hx))
    obtain ⟨rfl, attempts, conflicting⟩ := ih failed later
    refine ⟨rfl, ?_, ?_⟩
    · simp [List.countP_cons, writes, attempts]
    · intro x hx writing
      rcases List.mem_cons.mp hx with rfl | hx
      · cases writing
      rcases List.mem_cons.mp hx with rfl | hx
      · rfl
      · exact conflicting x hx writing

/-- A call that fails is the last one of an edit. -/
theorem Editing.ends_of_failure {x : PolicyExchange} {e : CredentialError}
    (h : Editing limit edit n v trace r v') (hx : x ∈ trace) (failing : failure? x = some e) :
    r = .error e ∧ ∃ earlier, trace = earlier ++ [x] := by
  induction h with
  | gaveUp => cases hx
  | unread =>
    obtain rfl := List.mem_singleton.mp hx
    cases failing
    exact ⟨rfl, [], rfl⟩
  | unwritten _ plain =>
    rcases List.mem_cons.mp hx with rfl | hx
    · cases failing
    obtain rfl := List.mem_singleton.mp hx
    rw [PolicyExchange.failure?_of_plain plain] at failing
    cases failing
    exact ⟨rfl, [_], rfl⟩
  | written =>
    rcases List.mem_cons.mp hx with rfl | hx
    · cases failing
    obtain rfl := List.mem_singleton.mp hx
    cases failing
  | conflicted _ _ ih =>
    rcases List.mem_cons.mp hx with rfl | hx
    · cases failing
    rcases List.mem_cons.mp hx with rfl | hx
    · cases failing
    obtain ⟨same, earlier, rfl⟩ := ih hx
    exact ⟨same, _ :: _ :: earlier, rfl⟩

/-- The programs that edit the policy, each with what it does to the bindings. -/
inductive Edits (m : IdentityManager) :
    IdentityProgram Unit → (List RoleBinding → List RoleBinding) → Prop
  | grant {role email : String} :
      m.Edits (m.grantRole role email) (· ++ [⟨qualifiedRole role, [memberFor email]⟩])
  | revoke {email : String} :
      m.Edits (m.revokeMember email) (RoleBinding.removeMember (memberFor email))

variable {m : IdentityManager} {program : IdentityProgram Unit}

theorem Edits.editing (edits : m.Edits program edit)
    (h : Fallible.Runs Reply program v trace r v') :
    Editing m.maxAttempts edit m.maxAttempts v trace r v' := by
  cases edits with
  | grant => exact .of_runs h
  | revoke => exact .of_runs h

/-- Whatever others write meanwhile, an edit that succeeds was written once, onto the policy that
was then current. One that fails without a failure of a call has made all its attempts, three of
them by default, has lost each and has changed nothing; and a call that fails is the last one and
leaves nothing either. -/
theorem policy_edits_isolated (edits : m.Edits program edit)
    (h : Fallible.Runs Reply program v trace r v') :
    (r = .ok () → trace.countP takesEffect = 1 ∧ ∃ w tag, Others v w ∧ w.Fresh tag ∧
      v' = w.write (RoleBinding.merge (edit w.current.bindings)) tag) ∧
    (∀ e, r = .error e → (∀ x ∈ trace, failure? x ≠ some e) →
      e = .retriesExhausted m.maxAttempts ∧ trace.countP writes = m.maxAttempts ∧
      (∀ x ∈ trace, writes x = true → conflicts x = true) ∧ Others v v') ∧
    ∀ x ∈ trace, ∀ e, failure? x = some e → r = .error e ∧ (∃ earlier, trace = earlier ++ [x]) ∧
      trace.countP takesEffect = 0 ∧ Others v v' := by
  have editing := edits.editing h
  refine ⟨editing.written_once, ?_, ?_⟩
  · intro e failed unfailing
    obtain ⟨exhausted, attempts, conflicting⟩ := editing.exhausted failed unfailing
    exact ⟨exhausted, attempts, conflicting, (editing.unwritten_of_error failed).2⟩
  · intro x hx e failing
    obtain ⟨failed, last⟩ := editing.ends_of_failure hx failing
    exact ⟨failed, last, editing.unwritten_of_error failed⟩

/-- A role is granted although another writer was first: the second attempt is made of what that
writer left. -/
theorem policy_edits_isolated_overtaken :
    let m : IdentityManager := { projectId := "p" }
    let granted (email : String) : RoleBinding := ⟨"roles/a", [memberFor email]⟩
    let first : SharedPolicy := ⟨⟨[], "0"⟩, []⟩
    let overtaken : SharedPolicy := first.write [granted "y"] "1"
    let last := overtaken.write (RoleBinding.merge [granted "y", granted "x"]) "2"
    let trace : List PolicyExchange := [⟨first, .getPolicy, .ok first.current⟩,
      ⟨first, .setPolicy ⟨RoleBinding.merge [granted "x"], "0"⟩, .error (.conflict "late")⟩,
      ⟨overtaken, .getPolicy, .ok overtaken.current⟩,
      ⟨overtaken, .setPolicy ⟨last.current.bindings, "1"⟩, .ok ()⟩]
    m.Edits (m.grantRole "a" "x") (· ++ [granted "x"]) ∧
      Fallible.Runs Reply (m.grantRole "a" "x") first trace (.ok ()) last ∧
      trace.countP takesEffect = 1 ∧ ∃ w tag, Others first w ∧ w.Fresh tag ∧
        last = w.write (RoleBinding.merge (w.current.bindings ++ [granted "x"])) tag := by
  intro m granted first overtaken last trace
  have edits : m.Edits (m.grantRole "a" "x") (· ++ [granted "x"]) := .grant
  have fresh : first.Fresh "1" := ⟨by decide, List.not_mem_nil⟩
  have still : overtaken.Fresh "2" := ⟨by decide, by decide⟩
  have runs : Fallible.Runs Reply (m.grantRole "a" "x") first trace (.ok ()) last := by
    refine .ask (.read .idle) (.ask (.conflict (w := overtaken) (.write .idle fresh) ?_) ?_)
    · decide
    refine .ask (.read .idle) (.ask (.written .idle rfl still) ?_)
    exact .done
  exact ⟨edits, runs, (policy_edits_isolated edits runs).1 rfl⟩

end IdentityManager

/-! ### The backend in memory

The backend that runs is one of those that several writers share: what is said of every run of one
writer holds of the runs over it. -/

namespace IdentityBackend

open SharedPolicy (Others Reply)

def tag (version : Nat) : String := "v" ++ toString version

theorem tag_injective {m n : Nat} (same : tag m = tag n) : m = n := by
  have digits : Nat.toDigits 10 m = Nat.toDigits 10 n := by
    simpa [tag, Nat.repr] using congrArg String.toList same
  rw [← Nat.ofDigitChars_toDigits (b := 10) (n := m) (by decide) (by decide), digits,
    Nat.ofDigitChars_toDigits (by decide) (by decide)]

/-- The policy of a backend, with the tags of the versions before this one. -/
def shared (b : IdentityBackend) : SharedPolicy :=
  ⟨⟨b.policy, tag b.version⟩, (List.range b.version).reverse.map tag⟩

theorem shared_fresh (b : IdentityBackend) : b.shared.Fresh (tag (b.version + 1)) := by
  constructor
  · intro same
    exact absurd (tag_injective same) (by omega)
  · intro past
    obtain ⟨n, earlier, same⟩ := List.mem_map.mp past
    have := List.mem_range.mp (List.mem_reverse.mp earlier)
    exact absurd (tag_injective same) (by omega)

theorem shared_write (b : IdentityBackend) (bindings : List RoleBinding) :
    { b with policy := bindings, version := b.version + 1 : IdentityBackend }.shared =
      b.shared.write bindings (tag (b.version + 1)) := by
  simp [shared, SharedPolicy.write, List.range_succ]

theorem others_disturb (b : IdentityBackend) : Others b.shared b.disturb.shared := by
  unfold disturb
  split
  · have written := b.shared_write b.policy
    exact written ▸ .write .idle b.shared_fresh
  · exact .idle

/-- Each answer of the backend is one that a writer among several may get. -/
theorem reply_of_answer (call : IdentityCall) (b : IdentityBackend) :
    Reply call b.shared (answer call b).1 (answer call b).2.shared := by
  cases call with
  | getPolicy => exact .read .idle
  | setPolicy policy =>
    unfold answer
    by_cases same : policy.etag = b.disturb.etag
    · simp only [same, if_true, shared_write]
      exact .written b.others_disturb same b.disturb.shared_fresh
    · simp only [same, if_false]
      exact .conflict b.others_disturb same
  | createServiceAccount id displayName =>
    refine .unrelated ?_ nofun nofun
    simp only [answer]
    split <;> exact .idle
  | createKey account => exact .unrelated .idle nofun nofun
  | deleteServiceAccount uniqueId =>
    refine .unrelated ?_ nofun nofun
    simp only [answer]
    split <;> exact .idle

/-- A run over the backend is one of a writer among several. -/
theorem runs_shared {α : Type} (program : IdentityProgram α) (b : IdentityBackend) :
    ∃ trace, Fallible.Runs Reply program b.shared trace (Program.run answer program.run b).1
      (Program.run answer program.run b).2.shared :=
  Program.Runs.of_run shared (P := fun _ => True)
    (fun call b _ => ⟨reply_of_answer call b, trivial⟩) program.run b trivial

/-- Over the backend, an edit that succeeds is the last version, made of the one before it; an edit
that fails leaves what other writers made. -/
theorem edit_isolated {m : IdentityManager} {program : IdentityProgram Unit}
    {edit : List RoleBinding → List RoleBinding} (edits : m.Edits program edit)
    (b : IdentityBackend) :
    let ran := Program.run answer program.run b
    (ran.1 = .ok () → ∃ w tag, Others b.shared w ∧ w.Fresh tag ∧
      ran.2.shared = w.write (RoleBinding.merge (edit w.current.bindings)) tag) ∧
    ∀ e, ran.1 = .error e → Others b.shared ran.2.shared := by
  intro ran
  obtain ⟨trace, runs⟩ := runs_shared program b
  have editing := edits.editing runs
  exact ⟨fun worked => (editing.written_once worked).2,
    fun e failed => (editing.unwritten_of_error failed).2⟩

end IdentityBackend

end Brokerage
