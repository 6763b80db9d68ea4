import ServiceBroker.Proofs.Broker.Verbs
import ServiceBroker.Proofs.Remote.Whereabouts

/-!
# Deprovisioning an instance once more

An instance that is already gone counts as deprovisioned. But it is the lookup that finds out that an
instance is gone, and a namespace that is kept is not looked up. Whoever has deleted the cluster of
an instance has kept its namespace, so the next one to deprovision it has the users of clusters that
are not there listed, and then asks for these clusters to be deleted. An API that rejects this makes
the broker fail.

## Main definitions

* `Remote.World.Lacks`: no cluster matches a selector
* `Remote.Strict`: the API rejects the deletion of clusters that are not there
* `Broker.deprovisioned`: what the outcome of a deletion is for the platform

## Main results

* `Remote.rejected_of_run_deleteCluster`: what comes of deleting clusters that are not there
* `Broker.repeated_deprovision_is_rejected`: only the first one to deprovision an instance succeeds
-/

namespace ServiceBroker

open Program

/-- Only one failure has the code of a rejection. -/
theorem Executor.Failure.exists_eq_of_code {failure : Executor.Failure}
    (h : failure.code = "downstream_rejected") : ∃ detail, failure = .downstreamRejected detail := by
  cases failure with
  | downstreamRejected detail => exact ⟨detail, rfl⟩
  | _ => simp [code] at h

namespace Remote

variable {remote : Remote} {w : World} {log before after : List (Nat × Event effects)}
  {trace : List (Event effects)} {e : Event effects} {instanceId selector : String}

/-! ### Clusters that are not there -/

namespace World

/-- No cluster matches the selector. -/
def Lacks (w : World) (selector : String) : Prop := ∀ c ∈ w.clusters, c.selector ≠ selector

/-- The answer of an event is the one that the API gives where no cluster matches: nobody is listed,
and a deletion is rejected. -/
def Answers (w : World) : Event effects → Prop
  | ⟨.post (.showUsers m), answer⟩ =>
    w.Lacks m.selector → Accepted Cluster.Users.reader answer []
  | ⟨.post (.deleteCluster m), answer⟩ =>
    w.Lacks m.selector → (answer.standing .clustersDelete).code? = some "downstream_rejected"
  | _ => True

/-- The event creates a cluster that the selector matches. -/
def Creates (selector : String) (e : Event effects) : Prop :=
  ∃ m answer, e = ⟨.post (.createCluster m), answer⟩ ∧ m.selector = selector

/-- Clusters that are not there do not appear by themselves. -/
theorem Lacks.step (h : w.Lacks selector) (he : ¬ Creates selector e) :
    (w.step remote e).Lacks selector := by
  intro c hc
  rcases mem_clusters_step hc with hc | ⟨answer, rfl, -⟩
  · exact h c hc
  · exact fun hselector => he ⟨c, answer, rfl, hselector⟩

theorem Lacks.run (h : w.Lacks selector) (hlog : ∀ entry ∈ log, ¬ Creates selector entry.2) :
    (w.run remote log).Lacks selector := by
  induction log generalizing w with
  | nil => exact h
  | cons entry log ih =>
    rw [List.forall_mem_cons] at hlog
    exact ih (h.step hlog.1) hlog.2

/-- After a deletion there are no clusters of the instance. -/
theorem lacks_step_deletion {m : Cluster.DeleteCluster} {answer : Delivery}
    (h : remote.acknowledged (.deleteCluster m) answer) :
    (w.step remote ⟨.post (.deleteCluster m), answer⟩).Lacks m.selector := by
  rw [step_deletion h]
  exact fun c hc => of_decide_eq_true (List.mem_filter.mp hc).2

/-- A namespace that is kept is not forgotten. -/
theorem isSome_find?_memo_run (h : (w.memo.find? instanceId).isSome) :
    ((w.run remote log).memo.find? instanceId).isSome := by
  induction log generalizing w with
  | nil => exact h
  | cons entry log ih =>
    refine ih ?_
    rcases w.find?_memo_step remote entry.2 instanceId with ⟨ns, -, hfind⟩ | ⟨-, hfind⟩
    · rw [hfind]
      rfl
    · rwa [hfind]

end World

/-- Every answer in the log is the one that an API gives that deletes only what is there. -/
def Strict (remote : Remote) (w : World) (log : List (Nat × Event effects)) : Prop :=
  ∀ before n e after, log = before ++ (n, e) :: after → (w.run remote before).Answers e

theorem strict_nil : remote.Strict w [] := fun before _ _ _ h => by cases before <;> cases h

theorem strict_cons_iff {n : Nat} :
    remote.Strict w ((n, e) :: log) ↔ w.Answers e ∧ remote.Strict (w.step remote e) log := by
  constructor
  · intro h
    refine ⟨h [] n e log rfl, fun before m e' after hlog => ?_⟩
    exact h ((n, e) :: before) m e' after (hlog ▸ rfl)
  · rintro ⟨he, hlog⟩ before m e' after heq
    cases before with
    | nil =>
      cases heq
      exact he
    | cons entry before =>
      obtain ⟨rfl, rfl⟩ := List.cons.inj heq
      exact hlog before m e' after rfl

theorem Strict.of_append (h : remote.Strict w (before ++ after)) :
    remote.Strict (w.run remote before) after := by
  rintro front n e rest rfl
  rw [← World.run_append]
  exact h (before ++ front) n e rest (List.append_assoc ..).symm

/-! ### Deleting clusters that are not there -/

/-- The event has been replied to by a world in which the instance has no cluster, and in which a
namespace is kept for it or not. -/
def HappensWithout (remote : Remote) (instanceId : String) (isKept : Bool) (e : Event effects) :
    Prop :=
  ∃ w : World, w.Lacks (remote.selector instanceId) ∧
    (w.memo.find? instanceId).isSome = isKept ∧ w.Gives e ∧ w.Answers e

/-- If its namespace is kept, deleting the clusters of an instance that has none is rejected. -/
theorem rejected_of_run_deleteCluster {outcome : Except Executor.Failure Unit}
    (h : ∀ e ∈ trace, remote.HappensWithout instanceId true e)
    (hrun : Run (remote.deleteCluster instanceId) trace outcome) :
    ∃ detail, outcome = .error (.downstreamRejected detail) := by
  rw [deleteCluster_eq, run_bind_iff] at hrun
  obtain ⟨located, resolved, rest, rfl, hresolve, hrest⟩ := hrun
  -- The memo has an entry, so the lookup that would tell that nothing is there is never made.
  have hrecalled : recollection instanceId none ∉ located := by
    intro hmem
    obtain ⟨w, -, hkept, hgives, -⟩ := h _ (List.mem_append_left _ hmem)
    have hnone : none = w.memo.find? instanceId := hgives
    rw [← hnone] at hkept
    cases hkept
  rcases run_resolve_cases hresolve with ⟨ns, rfl, -⟩ | ⟨_, _, -, rfl, -⟩
  · obtain ⟨listed, rest, rfl, hlisted⟩ := run_ask_iff.mp hrest
    have hnobody : Accepted Cluster.Users.reader listed [] := by
      obtain ⟨w, hlacks, -, -, hanswers⟩ :=
        h ⟨.post (.showUsers (remote.listing ns instanceId)), listed⟩ (by simp)
      exact hanswers hlacks
    dsimp only at hlisted
    rw [accept_eq_ok_iff.mpr hnobody] at hlisted
    obtain ⟨deleted, rest, rfl, hdeleted⟩ := run_ask_iff.mp hlisted
    obtain ⟨-, rfl⟩ := run_done_iff.mp hdeleted
    have hcode : (deleted.standing .clustersDelete).code? = some "downstream_rejected" := by
      obtain ⟨w, hlacks, -, -, hanswers⟩ :=
        h ⟨.post (.deleteCluster (remote.deletion ns instanceId)), deleted⟩ (by simp)
      exact hanswers hlacks
    cases haccept : remote.accept (.deleteCluster (remote.deletion ns instanceId))
      Json.Reader.json deleted with
    | ok contents =>
      have hstanding : deleted.standing .clustersDelete = .accepted :=
        standing_of_accept_eq_ok rfl haccept
      rw [hstanding] at hcode
      cases hcode
    | error failure =>
      have hfailure : (deleted.standing .clustersDelete).code? = some failure.code :=
        code?_of_accept_eq_error rfl haccept
      obtain ⟨detail, rfl⟩ := Executor.Failure.exists_eq_of_code
        (Option.some.inj (hfailure.symm.trans hcode))
      exact ⟨detail, rfl⟩
  · exact absurd List.mem_cons_self hrecalled

/-- If its namespace is not kept, an instance that has no cluster is not found, unless the lookup
fails. -/
theorem instanceNotFound_of_run_deleteCluster {outcome : Except Executor.Failure Unit}
    (h : ∀ e ∈ trace, remote.HappensWithout instanceId false e)
    (hlookup : ∀ failure, remote.lookup instanceId (.error failure) ∉ trace)
    (hrun : Run (remote.deleteCluster instanceId) trace outcome) :
    ∃ detail, outcome = .error (.instanceNotFound detail) := by
  rw [deleteCluster_eq, run_bind_iff] at hrun
  obtain ⟨located, resolved, rest, rfl, hresolve, hrest⟩ := hrun
  rcases run_resolve_cases hresolve with ⟨ns, -, hlocates⟩ | ⟨failure, answer, rfl, rfl, hfailure⟩
  · cases hlocates with
    | recalled =>
      obtain ⟨w, -, hkept, hgives, -⟩ := h _ (List.mem_append_left _ (List.mem_singleton_self _))
      have hsome : some ns = w.memo.find? instanceId := hgives
      rw [← hsome] at hkept
      cases hkept
    | found others =>
      obtain ⟨w, hlacks, -, hgives, -⟩ :=
        h (remote.lookup instanceId (.ok (ns :: others))) (by simp)
      have hperm : (ns :: others).Perm
          ((w.clustersOf remote instanceId).map (·.namespaceName)) := hgives
      have hnone : w.clustersOf remote instanceId = [] :=
        List.filter_eq_nil_iff.mpr fun c hc => by simpa using hlacks c hc
      rw [hnone] at hperm
      cases hperm.eq_nil
  · obtain ⟨rfl, rfl⟩ := run_done_iff.mp hrest
    rcases hfailure with rfl | ⟨-, detail, rfl⟩
    · exact absurd (by simp) (hlookup failure)
    · exact ⟨detail, rfl⟩

/-- In a log the events happen without a cluster from some point on if there is none then, and none
is created later. -/
theorem happensWithout_of_mem {isKept : Bool} {n : Nat} (hlacks : w.Lacks (remote.selector instanceId))
    (hnone : ∀ entry ∈ log, ¬ World.Creates (remote.selector instanceId) entry.2)
    (hkept : ∀ before after, log = before ++ after →
      ((w.run remote before).memo.find? instanceId).isSome = isKept)
    (htruth : remote.Truthful w log) (hstrict : remote.Strict w log) (h : (n, e) ∈ log) :
    remote.HappensWithout instanceId isKept e := by
  obtain ⟨before, after, rfl⟩ := List.append_of_mem h
  exact ⟨w.run remote before, hlacks.run fun entry hentry => hnone entry (List.mem_append_left _ hentry),
    hkept before _ rfl, htruth.gives, hstrict before n e after rfl⟩

/-! ### Deleting the clusters that there are -/

/-- An acknowledged deletion is the last thing that is asked for. -/
def DeletesLast (remote : Remote) :
    (r : Request) → (r.Reply → Program effects (Except Executor.Failure Unit)) → Prop
  | .post (.deleteCluster m), k =>
    ∀ answer, remote.acknowledged (.deleteCluster m) answer → k answer = .done (.ok ())
  | _, _ => True

theorem always_deletesLast :
    Always (E := effects) remote.DeletesLast (remote.deleteCluster instanceId) := by
  rw [deleteCluster_eq]
  refine always_resolve_bind (fun _ _ => trivial) fun resolved => ?_
  cases resolved with
  | error failure => trivial
  | ok ns =>
    refine ⟨trivial, fun listed => ?_⟩
    dsimp only
    split
    · trivial
    · split
      · trivial
      · refine ⟨fun deleted hack => ?_, fun _ => trivial⟩
        cases haccept : remote.accept (.deleteCluster (remote.deletion ns instanceId))
          Json.Reader.json deleted with
        | error failure =>
          rw [acknowledged, haccept] at hack
          cases hack
        | ok contents =>
          dsimp only
          rw [haccept]
          rfl

/-- Once its deletion has been acknowledged, the operation has succeeded. -/
theorem succeeded_of_acknowledged {before after : List (Event effects)} {m : Cluster.DeleteCluster}
    {answer : Delivery} {q : Program effects (Except Executor.Failure Unit)}
    (h : Reaches (remote.deleteCluster instanceId)
      (before ++ ⟨.post (.deleteCluster m), answer⟩ :: after) q)
    (hack : remote.acknowledged (.deleteCluster m) answer) :
    after = [] ∧ q = .done (.ok ()) := by
  obtain ⟨p, hbefore, hafter⟩ := reaches_append_iff.mp h
  cases hafter with
  | ask _ k _ hafter =>
    have hdone : k answer = .done (.ok ()) := always_deletesLast.of_reaches hbefore answer hack
    rw [hdone] at hafter
    exact reaches_done_iff.mp hafter

end Remote

namespace Broker

open Remote (World)

section Logs

variable {b : Broker} {remote : Remote} {calls : Nat → Call}
  {log before after : List (Nat × Event Remote.effects)} {n k : Nat} {instanceId : String}
  {acceptsIncomplete : Bool}

/-- What the outcome of a deletion is for the platform. An instance that is not found counts as
deprovisioned. -/
def deprovisioned (b : Broker) (acceptsIncomplete : Bool) :
    Except Executor.Failure Unit → Except Failure Answer
  | .ok _ => .ok (.accepted (b.isAsync acceptsIncomplete))
  | .error (.instanceNotFound _) => .ok (.accepted false)
  | .error failure => .error (.executor failure)

theorem through_deprovision : through remote (b.perform (.deprovision instanceId acceptsIncomplete)) =
    remote.deleteCluster instanceId >>= fun outcome =>
      .done (b.deprovisioned acceptsIncomplete outcome) := by
  refine congrArg (remote.deleteCluster instanceId >>= ·) (funext fun outcome => ?_)
  match outcome with
  | .ok _ => rfl
  | .error failure => cases failure <;> rfl

theorem run_deprovision_iff {trace : List (Event Remote.effects)} {result : Except Failure Answer} :
    Run (through remote (b.perform (.deprovision instanceId acceptsIncomplete))) trace result ↔
      ∃ outcome, Run (remote.deleteCluster instanceId) trace outcome ∧
        result = b.deprovisioned acceptsIncomplete outcome := by
  rw [through_deprovision, run_bind_done_iff]

/-- Without a provision of the instance none of its clusters is created. -/
theorem not_creates (hlog : b.IsVerbLog remote calls log)
    (hnone : ∀ r a, calls n ≠ .provision instanceId r a) {e : Event Remote.effects}
    (he : (n, e) ∈ log) : ¬ Remote.World.Creates (remote.selector instanceId) e := by
  rintro ⟨m, answer, rfl, hselector⟩
  obtain ⟨id, r, a, hcall, hm⟩ := provision_of_creation hlog he
  obtain rfl : id = instanceId := remote.selector_injective (hm.symm.trans hselector)
  exact hnone r a hcall

/-- The deletion behind a deprovision that begins after some events. -/
theorem exists_run_deleteCluster {result : Except Failure Answer}
    (hcall : calls k = .deprovision instanceId acceptsIncomplete) (hbefore : eventsOf k before = [])
    (hrun : Run (through remote (b.perform (calls k))) (eventsOf k (before ++ after)) result) :
    ∃ outcome, Run (remote.deleteCluster instanceId) (eventsOf k after) outcome ∧
      result = b.deprovisioned acceptsIncomplete outcome := by
  rw [hcall, eventsOf_append, hbefore, List.nil_append] at hrun
  exact run_deprovision_iff.mp hrun

/-- Once an instance is gone, everything that is asked for it later on is answered without a cluster,
unless the instance is provisioned again. -/
theorem happensWithout_of_lacks {isKept : Bool}
    (hlog : b.IsVerbLog remote calls (before ++ after))
    (htruth : remote.Truthful .empty (before ++ after))
    (hstrict : remote.Strict .empty (before ++ after))
    (hlacks : (World.empty.run remote before).Lacks (remote.selector instanceId))
    (hnone : ∀ entry ∈ after, ∀ r a, calls entry.1 ≠ .provision instanceId r a)
    (hkept : ∀ front rest, after = front ++ rest →
      ((World.empty.run remote (before ++ front)).memo.find? instanceId).isSome = isKept) :
    ∀ e ∈ eventsOf k after, remote.HappensWithout instanceId isKept e := by
  intro e he
  refine Remote.happensWithout_of_mem hlacks (fun entry hentry => ?_)
    (fun front rest hafter => ?_) (Remote.truthful_append.mp htruth).2 hstrict.of_append
    (mem_of_mem_eventsOf he)
  · exact not_creates hlog (hnone entry hentry) (List.mem_append_right _ hentry)
  · rw [← World.run_append]
    exact hkept front rest hafter

/-- Whoever deprovisions an instance that is gone fails if its namespace has been kept. -/
theorem rejected_of_kept {result : Except Failure Answer}
    (hlog : b.IsVerbLog remote calls (before ++ after))
    (htruth : remote.Truthful .empty (before ++ after))
    (hstrict : remote.Strict .empty (before ++ after))
    (hlacks : (World.empty.run remote before).Lacks (remote.selector instanceId))
    (hkept : ((World.empty.run remote before).memo.find? instanceId).isSome)
    (hnone : ∀ entry ∈ after, ∀ r a, calls entry.1 ≠ .provision instanceId r a)
    (hcall : calls k = .deprovision instanceId acceptsIncomplete) (hbefore : eventsOf k before = [])
    (hrun : Run (through remote (b.perform (calls k))) (eventsOf k (before ++ after)) result) :
    ∃ detail, result = .error (.executor (.downstreamRejected detail)) := by
  obtain ⟨outcome, hdelete, rfl⟩ := exists_run_deleteCluster hcall hbefore hrun
  have hstays : ∀ front rest, after = front ++ rest →
      ((World.empty.run remote (before ++ front)).memo.find? instanceId).isSome = true := by
    intro front rest _
    rw [World.run_append]
    exact World.isSome_find?_memo_run hkept
  obtain ⟨detail, rfl⟩ := Remote.rejected_of_run_deleteCluster
    (happensWithout_of_lacks hlog htruth hstrict hlacks hnone hstays) hdelete
  exact ⟨detail, rfl⟩

/-- An instance that is gone counts as deprovisioned if its namespace has not been kept. -/
theorem accepted_of_not_kept {result : Except Failure Answer}
    (hlog : b.IsVerbLog remote calls (before ++ after))
    (htruth : remote.Truthful .empty (before ++ after))
    (hstrict : remote.Strict .empty (before ++ after))
    (hlacks : (World.empty.run remote before).Lacks (remote.selector instanceId))
    (hkept : (World.empty.run remote (before ++ after)).memo.find? instanceId = none)
    (hnone : ∀ entry ∈ after, ∀ r a, calls entry.1 ≠ .provision instanceId r a)
    (hcall : calls k = .deprovision instanceId acceptsIncomplete) (hbefore : eventsOf k before = [])
    (hlookup : ∀ failure, remote.lookup instanceId (.error failure) ∉ eventsOf k (before ++ after))
    (hrun : Run (through remote (b.perform (calls k))) (eventsOf k (before ++ after)) result) :
    result = .ok (.accepted false) := by
  obtain ⟨outcome, hdelete, rfl⟩ := exists_run_deleteCluster hcall hbefore hrun
  -- What is kept at some time is kept in the end.
  have hnever : ∀ front rest, after = front ++ rest →
      ((World.empty.run remote (before ++ front)).memo.find? instanceId).isSome = false := by
    rintro front rest rfl
    rw [← Bool.not_eq_true]
    intro hsome
    have hend : ((World.empty.run remote (before ++ (front ++ rest))).memo.find?
        instanceId).isSome := by
      rw [← List.append_assoc, World.run_append]
      exact World.isSome_find?_memo_run hsome
    rw [hkept] at hend
    cases hend
  rw [eventsOf_append, hbefore, List.nil_append] at hlookup
  obtain ⟨detail, rfl⟩ := Remote.instanceNotFound_of_run_deleteCluster
    (happensWithout_of_lacks hlog htruth hstrict hlacks hnone hnever) hlookup hdelete
  rfl

/-- After a deletion that has been acknowledged, the instance is gone and its namespace is kept. -/
theorem gone_of_acknowledged {m : Cluster.DeleteCluster} {answer : Remote.Delivery}
    (hlog : b.IsVerbLog remote calls (before ++ (n, ⟨.post (.deleteCluster m), answer⟩) :: after))
    (htruth : remote.Truthful .empty (before ++ (n, ⟨.post (.deleteCluster m), answer⟩) :: after))
    (hcall : calls n = .deprovision instanceId acceptsIncomplete)
    (hack : remote.acknowledged (.deleteCluster m) answer) :
    Run (through remote (b.perform (calls n)))
        (eventsOf n (before ++ (n, ⟨.post (.deleteCluster m), answer⟩) :: after))
        (.ok (.accepted (b.isAsync acceptsIncomplete))) ∧
      (World.empty.run remote (before ++ [(n, ⟨.post (.deleteCluster m), answer⟩)])).Lacks
        (remote.selector instanceId) ∧
      ((World.empty.run remote (before ++ [(n, ⟨.post (.deleteCluster m), answer⟩)])).memo.find?
        instanceId).isSome := by
  obtain ⟨q, hq⟩ := hlog n
  rw [hcall] at hq ⊢
  rw [through_deprovision] at hq
  obtain ⟨p, hp⟩ := reaches_of_reaches_bind_done hq
  have hsplit := hp
  rw [eventsOf_append, eventsOf_cons_self] at hsplit
  obtain ⟨-, rfl⟩ := Remote.succeeded_of_acknowledged hsplit hack
  obtain ⟨_, _, _, -, -, -, -, -, hselector, -⟩ := Remote.cleared_of_reaches hsplit
  -- A deletion goes to a namespace that was recalled or looked up before, and either way it is kept.
  have hjustified : remote.Justified (eventsOf n before) (.post (.deleteCluster m)) := by
    simpa using (Remote.guarded_perform (.deleteCluster instanceId)).of_reaches hsplit
  have hendpoint : (Cluster.Message.deleteCluster m).endpoint ≠ .clusters :=
    Cluster.Endpoint.noConfusion
  obtain ⟨front, rest, rfl, hmemo⟩ := Remote.exists_memo_of_justified hjustified
    (Remote.truthful_append.mp htruth).1 hendpoint hselector
  refine ⟨run_deprovision_iff.mpr ⟨.ok (), run_iff_reaches_done.mpr hp, rfl⟩, ?_, ?_⟩
  · have hinstance : m.selector = remote.selector instanceId := hselector
    rw [World.run_append, World.run_cons, World.run_nil, ← hinstance]
    exact World.lacks_step_deletion hack
  · rw [List.append_assoc, World.run_append]
    exact World.isSome_find?_memo_run (hmemo ▸ rfl)

/-- Nothing but the first one to deprovision an instance succeeds, in every log of verbs, if lookups
are answered truthfully and the API rejects the deletion of clusters that are not there. Once a
deletion has been acknowledged, it has succeeded, but as long as the instance is not provisioned
again everyone else who deprovisions it fails because that is rejected. Only where no namespace has
been kept for an instance that is gone, it is found to be gone and counts as deprovisioned. -/
theorem repeated_deprovision_is_rejected (b : Broker) (remote : Remote) {calls : Nat → Call}
    {log : List (Nat × Event Remote.effects)} (hlog : b.IsVerbLog remote calls log)
    (htruth : remote.Truthful .empty log) (hstrict : remote.Strict .empty log) :
    (∀ before n m answer after instanceId acceptsIncomplete,
      log = before ++ (n, ⟨.post (.deleteCluster m), answer⟩) :: after →
      calls n = .deprovision instanceId acceptsIncomplete →
      remote.acknowledged (.deleteCluster m) answer →
      Run (through remote (b.perform (calls n))) (eventsOf n log)
        (.ok (.accepted (b.isAsync acceptsIncomplete))) ∧
      ((∀ entry ∈ after, ∀ r a, calls entry.1 ≠ .provision instanceId r a) →
        ∀ k acceptsIncomplete' result, calls k = .deprovision instanceId acceptsIncomplete' →
          k ≠ n → eventsOf k before = [] →
          Run (through remote (b.perform (calls k))) (eventsOf k log) result →
          ∃ detail, result = .error (.executor (.downstreamRejected detail)))) ∧
    (∀ before after instanceId, log = before ++ after →
      (World.empty.run remote before).Lacks (remote.selector instanceId) →
      (∀ entry ∈ after, ∀ r a, calls entry.1 ≠ .provision instanceId r a) →
      (World.empty.run remote log).memo.find? instanceId = none →
      ∀ k acceptsIncomplete result, calls k = .deprovision instanceId acceptsIncomplete →
        eventsOf k before = [] →
        (∀ failure, remote.lookup instanceId (.error failure) ∉ eventsOf k log) →
        Run (through remote (b.perform (calls k))) (eventsOf k log) result →
        result = .ok (.accepted false)) := by
  constructor
  · rintro before n m answer after instanceId acceptsIncomplete rfl hcall hack
    obtain ⟨hfirst, hlacks, hkept⟩ := gone_of_acknowledged hlog htruth hcall hack
    refine ⟨hfirst, fun hnone k acceptsIncomplete' result hcall' hk hbefore hrun => ?_⟩
    rw [List.append_cons] at hlog htruth hstrict hrun
    refine rejected_of_kept hlog htruth hstrict hlacks hkept hnone hcall' ?_ hrun
    rw [eventsOf_append, hbefore, eventsOf, if_neg hk.symm]
    rfl
  · rintro before after instanceId rfl hlacks hnone hkept k acceptsIncomplete result hcall hbefore
      hlookup hrun
    exact accepted_of_not_kept hlog htruth hstrict hlacks hkept hnone hcall hbefore hlookup hrun

end Logs

/-! ### An instance that is deprovisioned twice -/

namespace Repetition

open Remote

/-- An instance is provisioned, deprovisioned, and deprovisioned once more. -/
def calls : Nat → Call
  | 0 => .provision "i" ⟨"service", "plan", none, none,
      some [("CLUSTERNAME", .string "c"), ("NAMESPACE", .string "ns1")], none⟩ false
  | _ => .deprovision "i" false

/-- The events before its deletion. -/
def past : List (Nat × Event Remote.effects) :=
  [(0, ⟨.post (.createCluster (Recreation.creation "ns1")), .success []⟩),
    (1, recollection "i" none), (1, trial.lookup "i" (.ok ["ns1"])), (1, keeping "i" "ns1"),
    (1, ⟨.post (.showUsers (trial.listing "ns1" "i")), .success []⟩)]

/-- The answer that rejects a deletion because there is nothing to delete. -/
def nothingThere : Delivery := .rejection "no clusters found"

/-- The events after its deletion. -/
def again : List (Nat × Event Remote.effects) :=
  [(2, recollection "i" (some "ns1")),
    (2, ⟨.post (.showUsers (trial.listing "ns1" "i")), .success []⟩),
    (2, ⟨.post (.deleteCluster (trial.deletion "ns1" "i")), nothingThere⟩)]

def log : List (Nat × Event Remote.effects) :=
  past ++ (1, ⟨.post (.deleteCluster (trial.deletion "ns1" "i")), .success []⟩) :: again

theorem exists_run_first (b : Broker) : ∃ result,
    Run (through trial (b.perform (.deprovision "i" false))) (eventsOf 1 log) result := by
  rw [through_deprovision, deleteCluster_eq]
  refine exists_run_ask (E := Remote.effects) ?_
  refine exists_run_ask (E := Remote.effects) ?_
  refine exists_run_ask (E := Remote.effects) ?_
  refine exists_run_ask (E := Remote.effects) ?_
  dsimp only
  rw [accept_eq_ok_iff.mpr accepted_nobody]
  exact exists_run_ask (E := Remote.effects) ⟨_, .done _⟩

theorem exists_run_again (b : Broker) : ∃ result,
    Run (through trial (b.perform (.deprovision "i" false))) (eventsOf 2 log) result := by
  rw [through_deprovision, deleteCluster_eq]
  refine exists_run_ask (E := Remote.effects) ?_
  refine exists_run_ask (E := Remote.effects) ?_
  dsimp only
  rw [accept_eq_ok_iff.mpr accepted_nobody]
  exact exists_run_ask (E := Remote.effects) ⟨_, .done _⟩

theorem isVerbLog (b : Broker) : b.IsVerbLog trial calls log := by
  intro n
  match n with
  | 0 => exact exists_reaches_ask (E := Remote.effects) ⟨_, .refl _⟩
  | 1 =>
    obtain ⟨result, hrun⟩ := exists_run_first b
    exact ⟨_, run_iff_reaches_done.mp hrun⟩
  | 2 =>
    obtain ⟨result, hrun⟩ := exists_run_again b
    exact ⟨_, run_iff_reaches_done.mp hrun⟩
  | n + 3 => exact ⟨_, .refl _⟩

theorem run_past : World.empty.run trial past =
    ⟨[Recreation.creation "ns1"], [("i", "ns1")]⟩ := by
  simp only [past, World.run_cons, World.run_nil, World.step_recollection, World.step_lookup,
    World.step_keeping, World.step_creation (Recreation.acknowledged_success _)]
  rfl

theorem truthful : trial.Truthful .empty log := by
  refine truthful_append.mpr ⟨?_, ?_⟩
  · refine ⟨trivial, ?_⟩
    rw [World.step_creation (Recreation.acknowledged_success _)]
    exact ⟨rfl, .refl _, trivial, trivial, trivial⟩
  · rw [run_past]
    refine ⟨trivial, ?_⟩
    rw [World.step_deletion (Recreation.acknowledged_success _)]
    exact ⟨rfl, trivial, trivial, trivial⟩

theorem code?_nothingThere :
    (nothingThere.standing .clustersDelete).code? = some "downstream_rejected" := by
  decide +kernel

theorem strict : trial.Strict .empty log := by
  have hthere : ¬ (World.Lacks ⟨[Recreation.creation "ns1"], [("i", "ns1")]⟩ (trial.selector "i")) :=
    fun h => h _ (List.mem_singleton_self _) rfl
  unfold log past
  simp only [List.cons_append, List.nil_append, strict_cons_iff,
    World.step_creation (Recreation.acknowledged_success _), World.step_recollection,
    World.step_lookup, World.step_keeping]
  refine ⟨trivial, trivial, trivial, trivial, fun _ => accepted_nobody, fun h => absurd h hthere, ?_⟩
  unfold again
  simp only [strict_cons_iff]
  exact ⟨trivial, fun _ => accepted_nobody, fun _ => code?_nothingThere, strict_nil⟩

end Repetition

/-- The first deprovision succeeds, and the second one fails. -/
theorem repeated_deprovision_is_rejected_twice :
    Run (through Remote.trial ((⟨"service", true⟩ : Broker).perform (.deprovision "i" false)))
        (eventsOf 1 Repetition.log) (.ok (.accepted false)) ∧
      ∃ detail,
        Run (through Remote.trial ((⟨"service", true⟩ : Broker).perform (.deprovision "i" false)))
          (eventsOf 2 Repetition.log) (.error (.executor (.downstreamRejected detail))) := by
  obtain ⟨hfirst, hagain⟩ := (repeated_deprovision_is_rejected ⟨"service", true⟩ Remote.trial
    (Repetition.isVerbLog _) Repetition.truthful Repetition.strict).1 Repetition.past 1 _ _
    Repetition.again "i" false rfl rfl (Remote.Recreation.acknowledged_success _)
  refine ⟨hfirst, ?_⟩
  obtain ⟨result, hrun⟩ := Repetition.exists_run_again ⟨"service", true⟩
  have hnone : ∀ entry ∈ Repetition.again, ∀ r a,
      Repetition.calls entry.1 ≠ .provision "i" r a := by
    simp [Repetition.again, Repetition.calls]
  obtain ⟨detail, rfl⟩ := hagain hnone 2 false result rfl (by decide) rfl hrun
  exact ⟨detail, hrun⟩

end Broker

end ServiceBroker
