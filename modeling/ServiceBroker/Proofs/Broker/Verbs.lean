import ServiceBroker.Proofs.Broker.Session
import ServiceBroker.Proofs.Remote.Attempts

/-!
# Verbs over the cluster-management API

Over the remote executor a verb recalls and looks up namespaces and posts requests, and that is all
that is seen of it here. The lock that orders creations and deletions is left out, so verbs may take
turns in more ways than the lock would let them.

## Main definitions

* `Broker.through`: a verb as a program that uses the API itself
* `Broker.IsVerbLog`: the logs of verbs that overlap in any way

## Main results

* `Broker.runAlone_eq_runIn_through`: this is what a broker over the remote executor runs
* `Broker.exists_operation_of_reaches_through`: every event is one of an operation of the verb
* `Broker.provision_of_creation`: clusters are created by nothing but provisions
-/

namespace ServiceBroker.Broker

open Program

/-- What a request of a verb asks of the API. -/
def carryOut (remote : Remote) : (r : Request) → Program Remote.effects r.Reply
  | .execute op => remote.perform op
  | .acquire | .release => .done ()

/-- What a verb asks of the API when its operations are carried out over it. -/
def through {α : Type} (remote : Remote) (p : Program effects α) : Program Remote.effects α :=
  p.substitute (carryOut remote)

/-- Calls of verbs, each with a number, can overlap in such a way that `log` comes about. -/
def IsVerbLog (b : Broker) (remote : Remote) (calls : Nat → Call)
    (log : List (Nat × Event Remote.effects)) : Prop :=
  ∀ n, ∃ q, Reaches (through remote (b.perform (calls n))) (eventsOf n log) q

variable {α : Type} {b : Broker} {remote : Remote} {call : Call} {p : Program effects α}
  {past : List (Event effects)} {trace : List (Event Remote.effects)} {e : Event Remote.effects}

theorem through_execute {op : Executor.Operation} {k : Executor.Outcome op → Program effects α} :
    through remote (.ask (E := effects) (.execute op) k) =
      remote.perform op >>= fun outcome => through remote (k outcome) := rfl

/-- This is what a broker over the remote executor runs. -/
theorem runAlone_eq_runIn_through (script : Remote.Script) :
    runAlone remote.executor p script = (through remote p).runIn Remote.Script.answer script := by
  induction p generalizing script with
  | done a => rfl
  | ask r k ih =>
    match r with
    | .execute op =>
      rw [through_execute, runIn_bind]
      exact ih _ _
    | .acquire | .release => exact ih () script

/-- Every event of a verb is one of an operation that it carries out. -/
theorem exists_operation_of_reaches_through {allowed : List (Event effects) → Request → Prop}
    {q : Program Remote.effects α} (hp : Guarded (E := effects) allowed past p)
    (h : Reaches (through remote p) trace q) (he : e ∈ trace) :
    ∃ past op trace q, allowed past (.execute op) ∧ Reaches (remote.perform op) trace q ∧
      e ∈ trace := by
  induction p generalizing past trace with
  | done a =>
    obtain ⟨rfl, -⟩ := reaches_done_iff.mp h
    cases he
  | ask r k ih =>
    match r with
    | .execute op =>
      rw [through_execute] at h
      rcases reaches_bind h with ⟨q, hq⟩ | ⟨first, outcome, rest, rfl, hfirst, hrest⟩
      · exact ⟨past, op, trace, q, hp.1, hq, he⟩
      · rcases List.mem_append.mp he with he | he
        · exact ⟨past, op, first, _, hp.1, run_iff_reaches_done.mp hfirst, he⟩
        · exact ih outcome (hp.2 outcome) hrest he
    | .acquire | .release => exact ih () (hp.2 ()) h he

/-! ### Creations -/

/-- If the request creates the cluster of an instance, then the call is a provision of it. -/
def IsProvisionOf (call : Call) (_ : List (Event effects)) (r : Request) : Prop :=
  ∀ order, r = .execute (.createCluster order) →
    ∃ request acceptsIncomplete, call = .provision order.instanceId request acceptsIncomplete

/-- No verb creates a cluster but a provision, and that creates one of its instance. -/
theorem guarded_isProvisionOf (b : Broker) (call : Call) :
    Guarded (E := effects) (IsProvisionOf call) [] (b.perform call) := by
  refine ((always_mayAsk_perform b call).mono fun r _ hr order horder => ?_).guarded []
  subst horder
  cases call with
  | provision instanceId request acceptsIncomplete =>
    obtain ⟨parameters, -, horder⟩ := Option.map_eq_some_iff.mp (hr.resolve_right id)
    cases horder
    exact ⟨request, acceptsIncomplete, rfl⟩
  | deprovision | update | bind | unbind | lastOperation =>
    simp [Call.MayAsk, Call.change?] at hr

/-- An operation creates a cluster only if it is asked to, and for the instance it is asked about. -/
theorem creation_of_reaches_perform {op : Executor.Operation}
    {q : Program Remote.effects (Executor.Outcome op)} {m : Cluster.CreateCluster}
    {answer : Remote.Delivery} (h : Reaches (remote.perform op) trace q)
    (hm : ⟨.post (.createCluster m), answer⟩ ∈ trace) :
    ∃ order, op = .createCluster order ∧ m.selector = remote.selector order.instanceId := by
  have htried : .post .clusters ∈ Remote.plan op :=
    ((Remote.orderly_perform op).attempts_sublist h).subset
      (List.mem_filterMap.mpr ⟨_, hm, rfl⟩)
  cases op with
  | createCluster order =>
    refine ⟨order, rfl, ?_⟩
    have hfirst : remote.createCluster order = _ := Remote.call_bind ..
    change Reaches (remote.createCluster order) trace q at h
    rw [hfirst] at h
    rcases reaches_ask_iff.mp h with ⟨rfl, -⟩ | ⟨reply, rest, rfl, hrest⟩
    · cases hm
    · obtain ⟨rfl, -⟩ := reaches_done_iff.mp hrest
      cases List.mem_singleton.mp hm
      rfl
  | deleteCluster | createBinding | deleteBinding | clusterDetail => simp [Remote.plan] at htried

/-- Clusters are created by nothing but provisions of their instances. -/
theorem provision_of_creation {calls : Nat → Call} {log : List (Nat × Event Remote.effects)}
    {n : Nat} {m : Cluster.CreateCluster} {answer : Remote.Delivery}
    (hlog : b.IsVerbLog remote calls log) (h : (n, ⟨.post (.createCluster m), answer⟩) ∈ log) :
    ∃ instanceId request acceptsIncomplete,
      calls n = .provision instanceId request acceptsIncomplete ∧
        m.selector = remote.selector instanceId := by
  obtain ⟨q, hq⟩ := hlog n
  obtain ⟨past, op, trace, q', hallowed, hq', hm⟩ :=
    exists_operation_of_reaches_through (guarded_isProvisionOf b (calls n)) hq (mem_eventsOf h)
  obtain ⟨order, rfl, hselector⟩ := creation_of_reaches_perform hq' hm
  obtain ⟨request, acceptsIncomplete, hcall⟩ := hallowed order rfl
  exact ⟨_, request, acceptsIncomplete, hcall, hselector⟩

end ServiceBroker.Broker
