import ServiceBroker.Proofs.Remote.Acceptance

/-!
# Where requests are sent

A call that is about existing clusters first comes to know a namespace, by remembering it or by
looking it up, and sends all its requests there.

## Main definitions

* `Cluster.Message.selector`, `Cluster.Message.namespaceName`: the clusters that a request is about
* `Remote.Locates`: the events by which a call comes to know a namespace
* `Remote.Justified`: what a call may ask after its events so far

## Main results

* `Remote.guarded_perform`: every operation sends its requests where it has located the instance
* `Remote.IsLog.justified`: so does every call in a log
-/

namespace ServiceBroker

/-- The label selector of the clusters that a request is about. -/
def Cluster.Message.selector : Cluster.Message → String
  | .createCluster m => m.selector
  | .deleteCluster m => m.selector
  | .showClusters m => m.selector
  | .createUser m => m.selector
  | .showUsers m => m.selector
  | .deleteUser m => m.selector

/-- The namespace that a request is sent to. -/
def Cluster.Message.namespaceName : Cluster.Message → String
  | .createCluster m => m.namespaceName
  | .deleteCluster m => m.namespaceName
  | .showClusters m => m.namespaceName
  | .createUser m => m.namespaceName
  | .showUsers m => m.namespaceName
  | .deleteUser m => m.namespaceName

namespace Remote

open Program

variable {remote : Remote} {instanceId namespaceName : String} {α : Type}

/-- The namespace that was kept for an instance is recalled. -/
def recollection (instanceId : String) (known : Option String) : Event effects :=
  ⟨.locate (.recall instanceId), known⟩

/-- The namespaces of the clusters of an instance are looked up. -/
def lookup (remote : Remote) (instanceId : String) (answer : Locator.Answer) : Event effects :=
  ⟨.locate (.lookup (remote.selector instanceId)), answer⟩

/-- The namespace of an instance is kept. -/
def keeping (instanceId namespaceName : String) : Event effects :=
  ⟨.locate (.remember instanceId namespaceName), ()⟩

/-- The events by which a call comes to know the namespace of an instance: it is recalled, or it
heads the answer to a lookup and is kept. -/
inductive Locates (remote : Remote) (instanceId namespaceName : String) :
    List (Event effects) → Prop where
  | recalled : Locates remote instanceId namespaceName
      [recollection instanceId (some namespaceName)]
  | found (others : List String) : Locates remote instanceId namespaceName
      [recollection instanceId none, remote.lookup instanceId (.ok (namespaceName :: others)),
        keeping instanceId namespaceName]

/-- A search for a namespace tells one, or nothing was kept and the lookup tells none. -/
theorem run_resolve_cases {trace : List (Event effects)}
    {resolved : Except Executor.Failure String} (h : Run (remote.resolve instanceId) trace resolved) :
    (∃ namespaceName, resolved = .ok namespaceName ∧
      remote.Locates instanceId namespaceName trace) ∨
    ∃ failure answer, resolved = .error failure ∧
      trace = [recollection instanceId none, remote.lookup instanceId answer] ∧
      (answer = .error failure ∨ answer = .ok [] ∧ ∃ detail, failure = .instanceNotFound detail) := by
  obtain ⟨known, rest, rfl, hknown⟩ := run_ask_iff.mp h
  cases known with
  | some namespaceName =>
    obtain ⟨rfl, rfl⟩ := run_done_iff.mp hknown
    exact .inl ⟨namespaceName, rfl, .recalled⟩
  | none =>
    obtain ⟨answer, rest, rfl, hanswer⟩ := run_ask_iff.mp hknown
    match answer with
    | .error failure =>
      obtain ⟨rfl, rfl⟩ := run_done_iff.mp hanswer
      exact .inr ⟨failure, _, rfl, rfl, .inl rfl⟩
    | .ok [] =>
      obtain ⟨rfl, rfl⟩ := run_done_iff.mp hanswer
      exact .inr ⟨_, _, rfl, rfl, .inr ⟨rfl, _, rfl⟩⟩
    | .ok (namespaceName :: others) =>
      obtain ⟨_, rest, rfl, hkept⟩ := run_ask_iff.mp hanswer
      obtain ⟨rfl, rfl⟩ := run_done_iff.mp hkept
      exact .inl ⟨namespaceName, rfl, .found others⟩

/-- What a call may ask after its events so far. A namespace is kept only if it has just been looked
up, and requests about existing clusters are sent where the instance has been located. -/
def Justified (remote : Remote) (past : List (Event effects)) : Request → Prop
  | .locate (.remember instanceId namespaceName) => ∃ others,
    past = [recollection instanceId none,
      remote.lookup instanceId (.ok (namespaceName :: others))]
  | .locate _ => True
  | .post m => m.endpoint ≠ .clusters → ∃ instanceId located asked, past = located ++ asked ∧
    remote.Locates instanceId m.namespaceName located ∧ m.selector = remote.selector instanceId

/-- The request is sent to this namespace, and about the clusters of this instance. -/
def IsSentTo (remote : Remote) (instanceId namespaceName : String) (_ : List (Event effects))
    (r : Request) : Prop :=
  ∃ m, r = .post m ∧ m.selector = remote.selector instanceId ∧ m.namespaceName = namespaceName

/-- A program may send its requests where the instance has been located. -/
theorem Locates.guarded {located : List (Event effects)}
    (h : remote.Locates instanceId namespaceName located) {p : Program effects α}
    (hp : Guarded (E := effects) (remote.IsSentTo instanceId namespaceName) located p) :
    Guarded (E := effects) remote.Justified located p := by
  refine hp.mono fun asked r hr => ?_
  obtain ⟨m, rfl, hselector, rfl⟩ := hr
  exact fun _ => ⟨instanceId, located, asked, rfl, h, hselector⟩

/-- Requests are sent where the instance has been located if all that follows is sent there. -/
theorem guarded_resolve_bind {f : Except Executor.Failure String → Program effects α}
    (herror : ∀ failure past, Guarded (E := effects) remote.Justified past (f (.error failure)))
    (hok : ∀ namespaceName past,
      Guarded (E := effects) (remote.IsSentTo instanceId namespaceName) past
        (f (.ok namespaceName))) :
    Guarded (E := effects) remote.Justified [] (remote.resolve instanceId >>= f) := by
  -- The four ways in which a namespace is recalled or looked up; only two of them tell one.
  refine ⟨trivial, fun known => ?_⟩
  cases known with
  | some namespaceName => exact Locates.recalled.guarded (hok namespaceName _)
  | none =>
    refine ⟨trivial, fun answer => ?_⟩
    match answer with
    | .error failure => exact herror failure _
    | .ok [] => exact herror _ _
    | .ok (namespaceName :: others) =>
      refine ⟨⟨others, rfl⟩, fun _ => ?_⟩
      exact (Locates.found others).guarded (hok namespaceName _)

/-- Every operation sends its requests where it has located the instance. -/
theorem guarded_perform (op : Executor.Operation) :
    Guarded (E := effects) remote.Justified [] (remote.perform op) := by
  -- Creations name their namespace themselves. All other operations locate the instance first, and
  -- everything after that is sent to the namespace that was found.
  cases op with
  | createCluster order => exact guarded_call_bind (fun h => absurd rfl h) fun _ _ => trivial
  | deleteCluster instanceId =>
    refine guarded_resolve_bind (fun _ _ => trivial) fun namespaceName past => ?_
    refine guarded_call_bind ⟨_, rfl, rfl, rfl⟩ fun past accepted => ?_
    cases accepted with
    | error failure => trivial
    | ok shown =>
      dsimp only
      split
      · trivial
      · exact guarded_call_bind ⟨_, rfl, rfl, rfl⟩ fun _ _ => trivial
  | createBinding instanceId bindingId appId =>
    change Guarded _ [] (remote.createBinding instanceId bindingId)
    unfold createBinding
    cases userOf bindingId with
    | error failure => trivial
    | ok name =>
      refine guarded_resolve_bind (fun _ _ => trivial) fun namespaceName past => ?_
      refine guarded_post_bind ⟨_, rfl, rfl, rfl⟩ fun past received => ?_
      cases received with
      | error failure => trivial
      | ok envelope =>
        refine guarded_call_bind ⟨_, rfl, rfl, rfl⟩ fun past accepted => ?_
        cases accepted with
        | error failure => trivial
        | ok shown =>
          dsimp only
          split <;> trivial
  | deleteBinding instanceId bindingId =>
    change Guarded _ [] (remote.deleteBinding instanceId bindingId)
    unfold deleteBinding
    cases userOf bindingId with
    | error failure => trivial
    | ok name =>
      refine guarded_resolve_bind (fun _ _ => trivial) fun namespaceName past => ?_
      exact guarded_call_bind ⟨_, rfl, rfl, rfl⟩ fun _ _ => trivial
  | clusterDetail instanceId =>
    refine guarded_resolve_bind (fun _ _ => trivial) fun namespaceName past => ?_
    refine guarded_call_bind ⟨_, rfl, rfl, rfl⟩ fun past accepted => ?_
    cases accepted <;> trivial

/-- Whatever a call in a log asks is justified by its own events before. -/
theorem IsLog.justified {calls : Nat → Executor.Operation}
    {before after : List (Nat × Event effects)} {n : Nat} {e : Event effects}
    (h : remote.IsLog calls (before ++ (n, e) :: after)) :
    remote.Justified (eventsOf n before) e.request := by
  obtain ⟨q, hq⟩ := h n
  rw [eventsOf_append, eventsOf_cons_self] at hq
  simpa using (guarded_perform (calls n)).of_reaches hq

end Remote

end ServiceBroker
