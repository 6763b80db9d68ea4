import ServiceBroker.Proofs.Identifier.Username
import ServiceBroker.Proofs.Outcome
import ServiceBroker.Proofs.Remote.Acceptance

/-!
# Clusters are deleted only after their users have been looked at

Deleting a cluster takes the databases of all its bindings along. So the users are listed first, and
the deletion is posted only if that listing was accepted and holds nobody who looks like the user of
a binding.

## Main definitions

* `Remote.Cleared`: what has to have been posted before a deletion

## Main results

* `Remote.reaches_deleteCluster`: how far a deletion can have come
* `Remote.deletion_posted_only_if_cleared`: the safety of deletions, in every log of calls
-/

namespace ServiceBroker.Remote

open Program

variable {remote : Remote} {trace : List (Event effects)}

/-- The request for the users on the clusters of an instance. -/
def listing (remote : Remote) (namespaceName instanceId : String) : Cluster.ShowUsers where
  clusterName := Cluster.allClusters
  selector := remote.selector instanceId
  namespaceName
  clientVersion := remote.clientVersion
  expired := ""

/-- The request to delete the clusters of an instance. -/
def deletion (remote : Remote) (namespaceName instanceId : String) : Cluster.DeleteCluster where
  clusterName := Cluster.allClusters
  selector := remote.selector instanceId
  namespaceName
  clientVersion := remote.clientVersion
  deleteData := false
  deleteBackups := false

/-- One of the users shown has the shape of a binding's user. -/
def ShowsBinding (shown : List Cluster.Users) : Prop :=
  ∃ cluster ∈ shown, ∃ secret ∈ cluster.secrets, Identifier.isBindingUsername secret.username

/-- The test that stops a deletion. -/
theorem any_secrets_iff (shown : List Cluster.Users) :
    ((secrets shown).any fun s => Identifier.isBindingUsername s.username) ↔
      ShowsBinding shown := by
  simp only [secrets, List.any_flatMap, List.any_eq_true, ShowsBinding]

/-- What a deletion does once it knows the namespace. -/
theorem deleteCluster_eq (instanceId : String) :
    remote.deleteCluster instanceId = remote.resolve instanceId >>= fun
      | .error failure => .done (.error failure)
      | .ok namespaceName =>
        .ask (E := effects) (.post (.showUsers (remote.listing namespaceName instanceId)))
          fun answer =>
            match remote.accept (.showUsers (remote.listing namespaceName instanceId))
              Cluster.Users.reader answer with
            | .error failure => .done (.error failure)
            | .ok shown =>
              if (secrets shown).any fun s => Identifier.isBindingUsername s.username then
                .done (.error (.bindingsRemain instanceId))
              else
                .ask (E := effects) (.post (.deleteCluster (remote.deletion namespaceName instanceId)))
                  fun answer => .done ((remote.accept
                    (.deleteCluster (remote.deletion namespaceName instanceId))
                    Json.Reader.json answer).map fun _ => ()) := by
  unfold deleteCluster users listing deletion
  refine congrArg (remote.resolve instanceId >>= ·) (funext fun resolved => ?_)
  cases resolved with
  | error failure => rfl
  | ok namespaceName =>
    simp only [call_bind]
    refine congrArg (Program.ask (E := effects) _) (funext fun answer => ?_)
    generalize remote.accept _ Cluster.Users.reader answer = accepted
    cases accepted with
    | error failure => rfl
    | ok shown => rfl

/-- How far a deletion can have come: nothing is posted yet, or the listing is, or after an accepted
listing without users of bindings the deletion too. -/
theorem reaches_deleteCluster {instanceId : String}
    {q : Program effects (Except Executor.Failure Unit)}
    (h : Reaches (remote.deleteCluster instanceId) trace q) :
    posts trace = [] ∨
    ∃ namespaceName answer,
      (posts trace = [(.showUsers (remote.listing namespaceName instanceId), answer)] ∧
        ∀ shown, Accepted Cluster.Users.reader answer shown → ShowsBinding shown →
          q = .done (.error (.bindingsRemain instanceId))) ∨
      ∃ shown answer', Accepted Cluster.Users.reader answer shown ∧ ¬ ShowsBinding shown ∧
        posts trace = [(.showUsers (remote.listing namespaceName instanceId), answer),
          (.deleteCluster (remote.deletion namespaceName instanceId), answer')] := by
  rw [deleteCluster_eq] at h
  -- Cut where the namespace is known: up to there nothing is posted, whatever is looked up.
  rcases reaches_bind h with ⟨p, hp⟩ | ⟨located, resolved, rest, rfl, hresolve, hrest⟩
  · exact .inl (posts_of_reaches_resolve hp)
  have hlocated : posts located = [] :=
    posts_of_reaches_resolve (run_iff_reaches_done.mp hresolve)
  rw [posts_append, hlocated, List.nil_append]
  cases resolved with
  | error failure =>
    obtain ⟨rfl, -⟩ := reaches_done_iff.mp hrest
    exact .inl rfl
  | ok namespaceName =>
    rcases reaches_ask_iff.mp hrest with ⟨rfl, -⟩ | ⟨answer, rest, rfl, hlisted⟩
    · exact .inl rfl
    refine .inr ⟨namespaceName, answer, ?_⟩
    cases haccept : remote.accept (.showUsers (remote.listing namespaceName instanceId))
        Cluster.Users.reader answer with
    | error failure =>
      -- The answer was refused, so no reading of it is an accepted one.
      rw [haccept] at hlisted
      obtain ⟨rfl, -⟩ := reaches_done_iff.mp hlisted
      refine .inl ⟨rfl, fun shown hshown _ => ?_⟩
      rw [accept_eq_ok_iff.mpr hshown] at haccept
      cases haccept
    | ok shown =>
      have hshown := accept_eq_ok_iff.mp haccept
      rw [haccept] at hlisted
      dsimp only at hlisted
      split at hlisted
      · obtain ⟨rfl, rfl⟩ := reaches_done_iff.mp hlisted
        exact .inl ⟨rfl, fun _ _ _ => rfl⟩
      · next hany =>
        have hclear : ¬ ShowsBinding shown := mt (any_secrets_iff shown).mpr hany
        rcases reaches_ask_iff.mp hlisted with ⟨rfl, -⟩ | ⟨answer', rest, rfl, hdeleted⟩
        · -- The deletion is due but not posted yet. An answer has one reading only, and that one
          -- shows no binding.
          refine .inl ⟨rfl, fun shown' hshown' hbinding => ?_⟩
          exact absurd (hshown.unique hshown' ▸ hbinding) hclear
        · obtain ⟨rfl, -⟩ := reaches_done_iff.mp hdeleted
          exact .inr ⟨shown, answer', hshown, hclear, rfl⟩

/-- The request is no deletion. -/
def NoDeletion (_ : List (Event effects)) (r : Request) : Prop :=
  ∀ m, r ≠ .post (.deleteCluster m)

/-- Every operation but one posts no deletion at all. -/
theorem guarded_noDeletion {op : Executor.Operation}
    (hop : ∀ instanceId, op ≠ .deleteCluster instanceId) (past : List (Event effects)) :
    Guarded (E := effects) NoDeletion past (remote.perform op) := by
  have hresolve (instanceId : String) (past : List (Event effects)) :
      Guarded (E := effects) NoDeletion past (remote.resolve instanceId) :=
    guarded_resolve fun _ _ _ h => by cases h
  -- The programs ask for different things but in the same way: a name may be missing, then a
  -- namespace, then an answer, and no post on the way is a deletion.
  cases op with
  | createCluster order =>
    exact guarded_call_bind (fun m h => by cases h) fun _ _ => trivial
  | deleteCluster instanceId => exact absurd rfl (hop instanceId)
  | createBinding instanceId bindingId appId =>
    change Guarded _ past (remote.createBinding instanceId bindingId)
    unfold createBinding
    cases userOf bindingId with
    | error failure => trivial
    | ok name =>
      refine (hresolve instanceId past).bind fun located resolved _ => ?_
      cases resolved with
      | error failure => trivial
      | ok namespaceName =>
        refine guarded_post_bind (fun m h => by cases h) fun _ received => ?_
        cases received with
        | error failure => trivial
        | ok envelope =>
          refine guarded_call_bind (fun m h => by cases h) fun _ accepted => ?_
          cases accepted with
          | error failure => trivial
          | ok shown =>
            dsimp only
            split <;> trivial
  | deleteBinding instanceId bindingId =>
    change Guarded _ past (remote.deleteBinding instanceId bindingId)
    unfold deleteBinding
    cases userOf bindingId with
    | error failure => trivial
    | ok name =>
      refine (hresolve instanceId past).bind fun located resolved _ => ?_
      cases resolved with
      | error failure => trivial
      | ok namespaceName =>
        exact guarded_call_bind (fun m h => by cases h) fun _ _ => trivial
  | clusterDetail instanceId =>
    refine (hresolve instanceId past).bind fun located resolved _ => ?_
    cases resolved with
    | error failure => trivial
    | ok namespaceName =>
      refine guarded_call_bind (fun m h => by cases h) fun _ accepted => ?_
      cases accepted <;> trivial

/-- What lets the deletion `m` be posted by a call for an instance, `asked` being all that this call
has posted before: a single listing of users, accepted and without users of bindings, of the same
clusters that the deletion is about. -/
def Cleared (remote : Remote) (instanceId : String)
    (asked : List (Cluster.Message × Delivery)) (m : Cluster.DeleteCluster) : Prop :=
  ∃ (users : Cluster.ShowUsers) (answer : Delivery) (shown : List Cluster.Users),
    asked = [(.showUsers users, answer)] ∧
    Accepted Cluster.Users.reader answer shown ∧
    (∀ cluster ∈ shown, ∀ secret ∈ cluster.secrets,
      ¬ Identifier.isBindingUsername secret.username) ∧
    users.namespaceName = m.namespaceName ∧
    users.selector = remote.labelKey ++ "=" ++ instanceId ∧
    m.selector = remote.labelKey ++ "=" ++ instanceId ∧
    users.clusterName = "all" ∧ m.clusterName = "all" ∧
    m.deleteData = false ∧ m.deleteBackups = false

/-- Where one of two requests stands. -/
theorem append_cons_eq_pair {β : Type} {x y z : β} {before after : List β}
    (h : before ++ z :: after = [x, y]) :
    (before = [] ∧ z = x ∧ after = [y]) ∨ (before = [x] ∧ z = y ∧ after = []) := by
  rcases List.append_eq_cons_iff.mp h with ⟨rfl, hrest⟩ | ⟨tail, rfl, htail⟩
  · obtain ⟨hz, hafter⟩ := List.cons.inj hrest
    exact .inl ⟨rfl, hz, hafter⟩
  · rcases List.append_eq_singleton_iff.mp htail.symm with ⟨rfl, hrest⟩ | ⟨-, hrest⟩
    · obtain ⟨hz, hafter⟩ := List.cons.inj hrest
      exact .inr ⟨rfl, hz, hafter⟩
    · cases hrest

/-- The deletion of a call is cleared by the listing of the same call. -/
theorem cleared_of_reaches {instanceId : String} {before after : List (Event effects)}
    {m : Cluster.DeleteCluster} {answer : Delivery}
    {q : Program effects (Except Executor.Failure Unit)}
    (h : Reaches (remote.deleteCluster instanceId)
      (before ++ ⟨.post (.deleteCluster m), answer⟩ :: after) q) :
    remote.Cleared instanceId (posts before) m := by
  rcases reaches_deleteCluster h with hposts | ⟨namespaceName, listed, ⟨hposts, -⟩ |
    ⟨shown, answer', hshown, hclear, hposts⟩⟩ <;> rw [posts_append, posts_post] at hposts
  · simp at hposts
  · obtain ⟨-, h⟩ | ⟨-, h⟩ := List.append_eq_singleton_iff.mp hposts <;> cases h
  · rcases append_cons_eq_pair hposts with ⟨-, h, -⟩ | ⟨hbefore, h, -⟩
    · cases h
    · cases h
      exact ⟨_, listed, shown, hbefore, hshown, fun cluster hcluster secret hsecret hname =>
        hclear ⟨cluster, hcluster, secret, hsecret, hname⟩, rfl, rfl, rfl, rfl, rfl, rfl, rfl⟩

/-- A call whose listing was accepted and shows a binding's user is over. -/
theorem refused_of_reaches {instanceId : String} {before after : List (Event effects)}
    {users : Cluster.ShowUsers} {answer : Delivery} {shown : List Cluster.Users}
    {q : Program effects (Except Executor.Failure Unit)}
    (h : Reaches (remote.deleteCluster instanceId)
      (before ++ ⟨.post (.showUsers users), answer⟩ :: after) q)
    (haccepted : Accepted Cluster.Users.reader answer shown) (hbinding : ShowsBinding shown) :
    posts after = [] ∧ q = .done (.error (.bindingsRemain instanceId)) := by
  rcases reaches_deleteCluster h with hposts | ⟨namespaceName, listed, ⟨hposts, hrefused⟩ |
    ⟨shown', answer', hshown, hclear, hposts⟩⟩ <;> rw [posts_append, posts_post] at hposts
  · simp at hposts
  · obtain ⟨-, h⟩ | ⟨-, h⟩ := List.append_eq_singleton_iff.mp hposts
    · obtain ⟨hanswer, hafter⟩ := List.cons.inj h
      cases hanswer
      exact ⟨hafter, hrefused shown haccepted hbinding⟩
    · cases h
  · rcases append_cons_eq_pair hposts with ⟨-, h, -⟩ | ⟨-, h, -⟩
    · cases h
      exact absurd (hshown.unique haccepted ▸ hbinding) hclear
    · cases h

/-- Deletions are safe however calls overlap. A deletion is posted only by the call for its
instance, and only once that call has been shown, by an accepted answer, that no binding has a user
on the clusters in question. If it is shown the user of any binding, the call posts nothing more and
fails because bindings remain. -/
theorem deletion_posted_only_if_cleared (remote : Remote) {calls : Nat → Executor.Operation}
    {log : List (Nat × Event effects)} (h : remote.IsLog calls log) :
    (∀ before n m answer after,
      log = before ++ (n, ⟨.post (.deleteCluster m), answer⟩) :: after →
      ∃ instanceId, calls n = .deleteCluster instanceId ∧
        remote.Cleared instanceId (posts (eventsOf n before)) m) ∧
    (∀ before n users answer after instanceId shown cluster secret bindingId,
      log = before ++ (n, ⟨.post (.showUsers users), answer⟩) :: after →
      calls n = .deleteCluster instanceId →
      Accepted Cluster.Users.reader answer shown → cluster ∈ shown → secret ∈ cluster.secrets →
      Identifier.bindingUsername bindingId = .ok secret.username →
      posts (eventsOf n after) = [] ∧
        Run (remote.deleteCluster instanceId) (eventsOf n log)
          (.error (.bindingsRemain instanceId))) := by
  constructor
  · intro before n m answer after hlog
    have hn := h n
    rw [hlog, eventsOf_append, eventsOf_cons_self] at hn
    by_cases hop : ∃ instanceId, calls n = .deleteCluster instanceId
    · obtain ⟨instanceId, hcall⟩ := hop
      rw [hcall] at hn
      obtain ⟨q, hq⟩ := hn
      exact ⟨instanceId, hcall, cleared_of_reaches hq⟩
    · -- A call of another operation never posts a deletion, so this event cannot be its own.
      obtain ⟨q, hq⟩ := hn
      have hguarded : Guarded NoDeletion [] (remote.perform (calls n)) :=
        guarded_noDeletion (not_exists.mp hop) []
      exact absurd rfl (hguarded.of_reaches hq m)
  · intro before n users answer after instanceId shown cluster secret bindingId hlog hcall haccepted
      hcluster hsecret hname
    have hbinding : ShowsBinding shown :=
      ⟨cluster, hcluster, secret, hsecret, Identifier.isBindingUsername_of_bindingUsername hname⟩
    have hn := h n
    rw [hcall] at hn
    obtain ⟨q, hq⟩ := hn
    -- `hq` stays about the whole log, for the run; the copy is cut at the listing.
    have hsplit := hq
    rw [hlog, eventsOf_append, eventsOf_cons_self] at hsplit
    obtain ⟨hafter, rfl⟩ := refused_of_reaches hsplit haccepted hbinding
    exact ⟨hafter, run_iff_reaches_done.mpr hq⟩

/-! ### Two deletions at once -/

/-- Instances `a` and `b` are deleted at the same time. -/
def trialCalls : Nat → Executor.Operation
  | 0 => .deleteCluster "a"
  | _ => .deleteCluster "b"

/-- The answer that shows one user, that of a binding. -/
def trialUsers : Delivery := .success [.ofMembers [("secrets", .array [.ofMembers
  [("username", .string "useru7fwxwgpm5aa7ac4agpil2wdx4"), ("password", .string "pw")]])]]

/-- The users of `a` are listed and there are none, those of `b` are listed and one belongs to a
binding, and `a` is deleted, though no answer comes. -/
def trialLog : List (Nat × Event effects) := [
  (0, ⟨.locate (.recall "a"), some "ns"⟩),
  (1, ⟨.locate (.recall "b"), some "ns"⟩),
  (0, ⟨.post (.showUsers (trial.listing "ns" "a")), .success []⟩),
  (1, ⟨.post (.showUsers (trial.listing "ns" "b")), trialUsers⟩),
  (0, ⟨.post (.deleteCluster (trial.deletion "ns" "a")), .dropped⟩)]

theorem accepted_nobody : Accepted Cluster.Users.reader (.success []) [] :=
  ⟨200, _, ⟨⟨"ok", ""⟩, []⟩, rfl, by decide, by decide, eq_ok_of_toOption (by decide +kernel), rfl,
    rfl⟩

theorem accepted_trialUsers : Accepted Cluster.Users.reader trialUsers
    [⟨"", [⟨"", "useru7fwxwgpm5aa7ac4agpil2wdx4", "pw"⟩]⟩] :=
  ⟨200, _, ⟨⟨"ok", ""⟩, _⟩, rfl, by decide, by decide, eq_ok_of_toOption (by decide +kernel), rfl,
    rfl⟩

theorem isLog_trialLog : trial.IsLog trialCalls trialLog := by
  intro n
  match n with
  | 0 =>
    refine ⟨.done (.error (.transportFailure
      "clustersdelete: error sending request for url (http://apiserver/clustersdelete)")), ?_⟩
    change Reaches (trial.deleteCluster "a") _ _
    rw [deleteCluster_eq]
    refine Reaches.ask (E := effects) (.locate (.recall "a")) _ (some "ns") ?_
    refine Reaches.ask (E := effects) (.post (.showUsers _)) _ (.success []) ?_
    dsimp only
    rw [accept_eq_ok_iff.mpr accepted_nobody]
    exact Reaches.ask (E := effects) (.post (.deleteCluster _)) _ .dropped (.refl _)
  | 1 =>
    refine ⟨.done (.error (.bindingsRemain "b")), ?_⟩
    change Reaches (trial.deleteCluster "b") _ _
    rw [deleteCluster_eq]
    refine Reaches.ask (E := effects) (.locate (.recall "b")) _ (some "ns") ?_
    refine Reaches.ask (E := effects) (.post (.showUsers _)) _ trialUsers ?_
    dsimp only
    rw [accept_eq_ok_iff.mpr accepted_trialUsers]
    exact .refl _
  | n + 2 => exact ⟨_, .refl _⟩

/-- In that log the deletion of `a` is cleared and that of `b` is refused. -/
theorem deletion_posted_only_if_cleared_trial :
    trial.IsLog trialCalls trialLog ∧
    (∃ instanceId, trialCalls 0 = .deleteCluster instanceId ∧
      trial.Cleared instanceId (posts (eventsOf 0 (trialLog.take 4)))
        (trial.deletion "ns" "a")) ∧
    Run (trial.deleteCluster "b") (eventsOf 1 trialLog) (.error (.bindingsRemain "b")) := by
  obtain ⟨hposted, hrefused⟩ := deletion_posted_only_if_cleared trial isLog_trialLog
  have hname : Identifier.bindingUsername "a7cb6bd8-cf67-400f-805c-019e85eac3bf" =
      .ok "useru7fwxwgpm5aa7ac4agpil2wdx4" := eq_ok_of_toOption (by decide +kernel)
  refine ⟨isLog_trialLog, hposted (trialLog.take 4) 0 _ .dropped [] rfl, ?_⟩
  exact (hrefused (trialLog.take 3) 1 _ trialUsers (trialLog.drop 4) "b" _ _ _ _ rfl rfl
    accepted_trialUsers (List.mem_singleton_self _) (List.mem_singleton_self _) hname).2

end ServiceBroker.Remote
