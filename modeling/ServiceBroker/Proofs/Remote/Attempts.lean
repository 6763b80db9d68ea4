import Mathlib.Data.List.Nodup
import ServiceBroker.Proofs.Remote.Users

/-!
# One attempt for every request

An operation looks for its namespace at most once and posts at most once to an endpoint, in an order
that is settled beforehand. Nothing is tried again: the first answer that is not accepted ends the
operation with its kind of failure. Only one answer is let pass. When a user is to be created for a
binding and the API rejects that, the user may be there already, and the listing that follows
decides.

## Main definitions

* `Remote.Attempt`, `Remote.attempts`: what is tried
* `Remote.plan`: what an operation may try, in its order
* `Remote.Tolerates`: the answers that are let pass though they are not accepted
* `Remote.Orderly`: a program that keeps to a plan and ends with its first failure

## Main results

* `Remote.orderly_perform`: every operation is orderly
* `Remote.first_failure_ends_operation`: only acknowledged requests count as carried out
-/

namespace ServiceBroker.Remote

open Program

/-! ### Plans -/

/-- What is tried: a lookup of namespaces, or a request to an endpoint. -/
inductive Attempt where
  | lookup
  | post (endpoint : Cluster.Endpoint)
  deriving DecidableEq, Repr

/-- What a request tries. Recalling and keeping a namespace asks nobody else. -/
def Request.attempt? : Request → Option Attempt
  | .locate (.lookup _) => some .lookup
  | .locate _ => none
  | .post m => some (.post m.endpoint)

/-- What is tried in some events. -/
def attempts (trace : List (Event effects)) : List Attempt :=
  trace.filterMap fun e => e.request.attempt?

/-- What an operation may try, in its order. -/
def plan : Executor.Operation → List Attempt
  | .createCluster _ => [.post .clusters]
  | .deleteCluster _ => [.lookup, .post .userShow, .post .clustersDelete]
  | .createBinding .. => [.lookup, .post .userCreate, .post .userShow]
  | .deleteBinding .. => [.lookup, .post .usersDelete]
  | .clusterDetail _ => [.lookup, .post .showClusters]

/-- No plan has an entry twice. -/
theorem nodup_plan (op : Executor.Operation) : (plan op).Nodup := by
  cases op <;> simp [plan]

/-- The rejection of a user that is to be created for a binding. -/
def Tolerates (op : Executor.Operation) (m : Cluster.Message) (answer : Delivery) : Prop :=
  (∃ instanceId bindingId appId, op = .createBinding instanceId bindingId appId) ∧
    m.endpoint = .userCreate ∧ answer.standing .userCreate = .rejected

variable {α β : Type} {remote : Remote} {trace before after : List (Event effects)}
  {m : Cluster.Message} {answer : Delivery} {todo todo' : List Attempt}
  {tolerates : Cluster.Message → Delivery → Prop}

/-- The program tries what is on the list, in its order and each entry at most once. An answer that
is not accepted ends it with the kind of failure that the answer comes to, unless it is tolerated,
and then there is more to ask. -/
def Orderly (tolerates : Cluster.Message → Delivery → Prop) :
    List Attempt → Program effects (Except Executor.Failure α) → Prop
  | _, .done _ => True
  | todo, .ask (.locate (.lookup _)) k =>
    ∃ rest, (.lookup :: rest).Sublist todo ∧ ∀ reply, Orderly tolerates rest (k reply)
  | todo, .ask (.locate (.recall _)) k => ∀ reply, Orderly tolerates todo (k reply)
  | todo, .ask (.locate (.remember _ _)) k => ∀ reply, Orderly tolerates todo (k reply)
  | todo, .ask (.post m) k =>
    ∃ rest, (.post m.endpoint :: rest).Sublist todo ∧ ∀ answer,
      Orderly tolerates rest (k answer) ∧
      (tolerates m answer → ∃ r k', k answer = .ask (E := effects) r k') ∧
      (answer.standing m.endpoint ≠ .accepted → ¬ tolerates m answer →
        ∃ failure, k answer = .done (.error failure) ∧
          (answer.standing m.endpoint).code? = some failure.code)

/-- A program may leave out what is on the list. -/
theorem Orderly.mono {p : Program effects (Except Executor.Failure α)}
    (h : Orderly tolerates todo p) (hsub : todo.Sublist todo') : Orderly tolerates todo' p := by
  induction p with
  | done a => trivial
  | ask r k ih =>
    match r with
    | .locate (.recall _) | .locate (.remember _ _) => exact fun reply => ih reply (h reply)
    | .locate (.lookup _) | .post _ =>
      obtain ⟨rest, hrest, hk⟩ := h
      exact ⟨rest, hrest.trans hsub, hk⟩

theorem orderly_resolve_bind {instanceId : String}
    {f : Except Executor.Failure String → Program effects (Except Executor.Failure α)}
    (h : ∀ resolved, Orderly tolerates todo (f resolved)) :
    Orderly tolerates (.lookup :: todo) (remote.resolve instanceId >>= f) := by
  intro known
  cases known with
  | some namespaceName => exact (h _).mono (List.sublist_cons_self ..)
  | none =>
    refine ⟨todo, .refl _, fun answer => ?_⟩
    match answer with
    | .error failure => exact h _
    | .ok [] => exact h _
    | .ok (namespaceName :: others) => exact fun _ => h _

theorem orderly_call_bind {f : Except Executor.Failure (List β) →
      Program effects (Except Executor.Failure α)} {item : Json.Reader β}
    (hitem : m.endpoint.status? = Cluster.Envelope.status? item)
    (htolerates : ∀ answer, ¬ tolerates m answer)
    (herror : ∀ failure, f (.error failure) = .done (.error failure))
    (hok : ∀ contents, Orderly tolerates todo (f (.ok contents))) :
    Orderly tolerates (.post m.endpoint :: todo) (remote.call m item >>= f) := by
  rw [call_bind]
  refine ⟨todo, .refl _, fun answer => ?_⟩
  dsimp only
  cases haccept : remote.accept m item answer with
  | ok contents =>
    have haccepted := standing_of_accept_eq_ok hitem haccept
    exact ⟨hok contents, fun h => absurd h (htolerates answer), fun h => absurd haccepted h⟩
  | error failure =>
    have hcode := code?_of_accept_eq_error hitem haccept
    rw [herror]
    exact ⟨trivial, fun h => absurd h (htolerates answer), fun _ _ => ⟨failure, rfl, hcode⟩⟩

/-- A post that lets rejections pass, but nothing else. -/
theorem orderly_post_bind {f : Except Executor.Failure (Cluster.Envelope β) →
      Program effects (Except Executor.Failure α)} {item : Json.Reader β}
    (hitem : m.endpoint.status? = Cluster.Envelope.status? item)
    (htolerates : ∀ answer, tolerates m answer ↔ answer.standing m.endpoint = .rejected)
    (herror : ∀ failure, f (.error failure) = .done (.error failure))
    (hok : ∀ envelope, Orderly tolerates todo (f (.ok envelope)) ∧
      ∃ r k, f (.ok envelope) = .ask (E := effects) r k) :
    Orderly tolerates (.post m.endpoint :: todo) (remote.post m item >>= f) := by
  refine ⟨todo, .refl _, fun answer => ?_⟩
  -- What is posted is received at once, and nothing is asked for in between.
  change Orderly tolerates todo (f (remote.receive m.endpoint item answer)) ∧
    (_ → ∃ r k, f (remote.receive m.endpoint item answer) = .ask (E := effects) r k) ∧
    (_ → _ → ∃ failure, f (remote.receive m.endpoint item answer) = .done (.error failure) ∧ _)
  rw [htolerates]
  cases hreceive : remote.receive m.endpoint item answer with
  | ok envelope =>
    have hstanding := standing_of_receive_eq_ok hitem hreceive
    refine ⟨(hok envelope).1, fun _ => (hok envelope).2, fun haccepted hrejected => ?_⟩
    by_cases hsaid : envelope.status.isOk
    · exact absurd (hstanding.trans (if_pos hsaid)) haccepted
    · exact absurd (hstanding.trans (if_neg hsaid)) hrejected
  | error failure =>
    obtain ⟨hreadable, hcode⟩ := standing_of_receive_eq_error hitem hreceive
    rw [herror]
    refine ⟨trivial, fun hrejected => ?_, fun _ _ => ⟨failure, rfl, hcode⟩⟩
    rw [hrejected] at hreadable
    cases hreadable

/-- Every operation is orderly. -/
theorem orderly_perform (op : Executor.Operation) :
    Orderly (Tolerates op) (plan op) (remote.perform op) := by
  cases op with
  | createCluster order =>
    exact orderly_call_bind rfl (fun _ h => nomatch h.2.1) (fun _ => rfl) fun _ => trivial
  | deleteCluster instanceId =>
    refine orderly_resolve_bind fun resolved => ?_
    cases resolved with
    | error failure => trivial
    | ok namespaceName =>
      refine orderly_call_bind rfl (fun _ h => nomatch h.2.1) (fun _ => rfl) fun shown => ?_
      dsimp only
      split
      · trivial
      · exact orderly_call_bind rfl (fun _ h => nomatch h.2.1) (fun _ => rfl) fun _ => trivial
  | createBinding instanceId bindingId appId =>
    change Orderly _ _ (remote.createBinding instanceId bindingId)
    unfold createBinding
    cases userOf bindingId with
    | error failure => trivial
    | ok name =>
      refine orderly_resolve_bind fun resolved => ?_
      cases resolved with
      | error failure => trivial
      | ok namespaceName =>
        -- Only here a post is not a call: what the answer says about the user is not looked at.
        refine orderly_post_bind rfl (fun answer => ?_) (fun _ => rfl) fun envelope => ⟨?_, ?_⟩
        · exact ⟨fun h => h.2.2, fun h => ⟨⟨_, _, _, rfl⟩, rfl, h⟩⟩
        · refine orderly_call_bind rfl (fun _ h => nomatch h.2.1) (fun _ => rfl) fun shown => ?_
          dsimp only
          split <;> trivial
        · exact ⟨_, _, call_bind ..⟩
  | deleteBinding instanceId bindingId =>
    change Orderly _ _ (remote.deleteBinding instanceId bindingId)
    unfold deleteBinding
    cases userOf bindingId with
    | error failure => trivial
    | ok name =>
      refine orderly_resolve_bind fun resolved => ?_
      cases resolved with
      | error failure => trivial
      | ok namespaceName =>
        exact orderly_call_bind rfl (fun _ h => nomatch h.2.1) (fun _ => rfl) fun _ => trivial
  | clusterDetail instanceId =>
    refine orderly_resolve_bind fun resolved => ?_
    cases resolved with
    | error failure => trivial
    | ok namespaceName =>
      exact orderly_call_bind rfl (fun _ h => nomatch h.2.1) (fun _ => rfl) fun _ => trivial

/-! ### Runs of orderly programs -/

/-- What an orderly program has tried is a part of its list. -/
theorem Orderly.attempts_sublist {p q : Program effects (Except Executor.Failure α)}
    (h : Orderly tolerates todo p) (hq : Reaches p trace q) : (attempts trace).Sublist todo := by
  induction hq generalizing todo with
  | refl p => exact List.nil_sublist todo
  | ask r k reply hq ih =>
    match r with
    | .locate (.recall _) | .locate (.remember _ _) => exact ih (h reply)
    | .locate (.lookup _) =>
      obtain ⟨rest, hsub, hrest⟩ := h
      exact ((ih (hrest reply)).cons_cons _).trans hsub
    | .post m =>
      obtain ⟨rest, hsub, hrest⟩ := h
      exact ((ih (hrest reply).1).cons_cons _).trans hsub

/-- What an orderly program is left to do is orderly. -/
theorem Orderly.of_reaches {p q : Program effects (Except Executor.Failure α)}
    (h : Orderly tolerates todo p) (hq : Reaches p trace q) : ∃ rest, Orderly tolerates rest q := by
  induction hq generalizing todo with
  | refl p => exact ⟨todo, h⟩
  | ask r k reply hq ih =>
    match r with
    | .locate (.recall _) | .locate (.remember _ _) => exact ih (h reply)
    | .locate (.lookup _) =>
      obtain ⟨rest, -, hrest⟩ := h
      exact ih (hrest reply)
    | .post m =>
      obtain ⟨rest, -, hrest⟩ := h
      exact ih (hrest reply).1

/-- An orderly program goes on after an answer that is tolerated, and is done with its failure after
any other that is not accepted. -/
theorem Orderly.of_posted {p q : Program effects (Except Executor.Failure α)}
    (h : Orderly tolerates todo p) (hq : Reaches p (before ++ ⟨.post m, answer⟩ :: after) q) :
    (tolerates m answer → after = [] → ∃ r k, q = .ask (E := effects) r k) ∧
    (answer.standing m.endpoint ≠ .accepted → ¬ tolerates m answer → after = [] ∧
      ∃ failure, q = .done (.error failure) ∧
        (answer.standing m.endpoint).code? = some failure.code) := by
  obtain ⟨p', hbefore, hafter⟩ := reaches_append_iff.mp hq
  obtain ⟨rest, hp'⟩ := h.of_reaches hbefore
  cases hafter with
  | ask _ k _ hafter =>
    obtain ⟨rest, -, hk⟩ := hp'
    obtain ⟨-, hgoes, hends⟩ := hk answer
    constructor
    · rintro htolerated rfl
      rw [reaches_nil_iff.mp hafter]
      exact hgoes htolerated
    · intro hfailed hstrict
      obtain ⟨failure, hdone, hcode⟩ := hends hfailed hstrict
      rw [hdone] at hafter
      obtain ⟨rfl, rfl⟩ := reaches_done_iff.mp hafter
      exact ⟨rfl, failure, rfl, hcode⟩

/-- Only acknowledged requests count as carried out. An operation looks for a namespace at most once
and posts at most once to an endpoint. The first answer that is not accepted is the last event, and
the operation ends with the kind of failure that this answer comes to; only the rejection of a user
that is to be created for a binding lets it go on. So an operation that succeeds has had every other
request accepted. -/
theorem first_failure_ends_operation (remote : Remote) (op : Executor.Operation)
    {q : Program effects (Executor.Outcome op)} (h : Reaches (remote.perform op) trace q) :
    (attempts trace).Nodup ∧
    (∀ before m answer after, trace = before ++ ⟨.post m, answer⟩ :: after →
      (Tolerates op m answer → after = [] → ∃ r k, q = .ask (E := effects) r k) ∧
      (answer.standing m.endpoint ≠ .accepted → ¬ Tolerates op m answer → after = [] ∧
        ∃ failure, q = .done (.error failure) ∧
          (answer.standing m.endpoint).code? = some failure.code)) ∧
    (∀ success, q = .done (.ok success) → ∀ m answer, (m, answer) ∈ posts trace →
      answer.standing m.endpoint = .accepted ∨ Tolerates op m answer) := by
  have horderly : Orderly (Tolerates op) (plan op) (remote.perform op) := orderly_perform op
  refine ⟨(horderly.attempts_sublist h).nodup (nodup_plan op), ?_, ?_⟩
  · rintro before m answer after rfl
    exact horderly.of_posted h
  · rintro success rfl m answer hposted
    obtain ⟨before, after, rfl⟩ := exists_append_of_mem_posts hposted
    by_contra hfailed
    obtain ⟨hfailed, hstrict⟩ := not_or.mp hfailed
    obtain ⟨-, failure, hdone, -⟩ := (horderly.of_posted h).2 hfailed hstrict
    cases hdone

/-- A user that is there already is let pass, and wrong credentials for the listing that follows are
reported as such. -/
theorem first_failure_ends_operation_unauthorized :
    Tolerates (.createBinding "b" "a7cb6bd8-cf67-400f-805c-019e85eac3bf" none)
      (.createUser (trial.userCreation "ns" "b" "useru7fwxwgpm5aa7ac4agpil2wdx4")) userExists ∧
    ∃ failure, Reaches
      (trial.perform (.createBinding "b" "a7cb6bd8-cf67-400f-805c-019e85eac3bf" none))
      (bindingTrace userExists (.answered 401 [])) (.done (.error failure)) ∧
      some failure.code = some "authentication_failed" := by
  obtain ⟨envelope, hreceive⟩ := receive_userExists
  have hreaches : ∃ q, Reaches
      (trial.perform (.createBinding "b" "a7cb6bd8-cf67-400f-805c-019e85eac3bf" none))
      (bindingTrace userExists (.answered 401 [])) q := by
    change ∃ q, Reaches (trial.createBinding "b" "a7cb6bd8-cf67-400f-805c-019e85eac3bf") _ q
    rw [createBinding_eq bindingUsername_trial]
    refine exists_reaches_ask (E := effects) (r := .locate (.recall "b")) ?_
    refine exists_reaches_ask (E := effects) (r := .post (.createUser _)) ?_
    dsimp only
    rw [hreceive]
    refine exists_reaches_ask (E := effects) (r := .post (.showUsers _)) ?_
    exact ⟨_, .refl _⟩
  have hrejected : userExists.standing .userCreate = .rejected := by decide +kernel
  obtain ⟨q, hq⟩ := hreaches
  obtain ⟨-, hends, -⟩ := first_failure_ends_operation trial _ hq
  obtain ⟨-, hfails⟩ := hends (bindingTrace userExists (.answered 401 [])).dropLast _ _ [] rfl
  obtain ⟨-, failure, rfl, hcode⟩ := hfails (by decide) fun h => nomatch h.2.1
  exact ⟨⟨⟨_, _, _, rfl⟩, rfl, hrejected⟩, failure, hq, hcode.symm⟩

end ServiceBroker.Remote
