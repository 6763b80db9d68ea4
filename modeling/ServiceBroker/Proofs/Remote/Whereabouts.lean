import Mathlib.Data.List.Induction
import ServiceBroker.Proofs.Remote.Deletion
import ServiceBroker.Proofs.Remote.Location

/-!
# Where clusters are and where requests go

A namespace that has been kept for an instance is not looked up again, for an instance does not
move. So requests go to the namespace where a cluster of the instance was when it was found. If the
instance is deleted and created again somewhere else, they still do.

## Main definitions

* `Remote.World`: the clusters that there are, and the namespaces that are kept
* `Remote.Truthful`: lookups are answered by the clusters that there are
* `Remote.IsSequential`: one call comes after the other

## Main results

* `Remote.World.memo_step_answer`: what is kept is what the executor over a script keeps
* `Remote.requests_go_where_found`: where requests go
* `Remote.request_misses_recreated_cluster`: not always to the cluster that there is
-/

namespace ServiceBroker.Remote

open Program

/-! ### The world -/

/-- What the requests of calls act on: the clusters that there are, in the order in which they were
created, and the namespaces that are kept for instances. -/
structure World where
  clusters : List Cluster.CreateCluster
  memo : Table String String

/-- No cluster has been created yet, and no namespace is kept. -/
def World.empty : World := ⟨[], []⟩

/-- The answer says that a request about whole clusters has been carried out. -/
def acknowledged (remote : Remote) (m : Cluster.Message) (answer : Delivery) : Bool :=
  (remote.accept m Json.Reader.json answer).isOk

namespace World

/-- The clusters of an instance. -/
def clustersOf (w : World) (remote : Remote) (instanceId : String) : List Cluster.CreateCluster :=
  w.clusters.filter (·.selector = remote.selector instanceId)

/-- The world after an event. A cluster exists from the acknowledgement of its creation to that of a
deletion for its instance. -/
def step (remote : Remote) (w : World) : Event effects → World
  | ⟨.post (.createCluster m), answer⟩ =>
    if remote.acknowledged (.createCluster m) answer then { w with clusters := w.clusters ++ [m] }
    else w
  | ⟨.post (.deleteCluster m), answer⟩ =>
    if remote.acknowledged (.deleteCluster m) answer then
      { w with clusters := w.clusters.filter (·.selector ≠ m.selector) }
    else w
  | ⟨.locate (.remember id ns), _⟩ => { w with memo := w.memo.put id ns }
  | _ => w

/-- The world after some events. -/
def run (remote : Remote) (w : World) (log : List (Nat × Event effects)) : World :=
  log.foldl (fun w e => w.step remote e.2) w

/-- The reply of an event is the one that the world gives: what is recalled is what is kept, and a
lookup that succeeds is answered with the namespaces of the clusters that the selector matches, in
any order. -/
def Gives (w : World) : Event effects → Prop
  | ⟨.locate (.recall id), known⟩ => known = w.memo.find? id
  | ⟨.locate (.lookup selector), .ok names⟩ =>
    names.Perm ((w.clusters.filter (·.selector = selector)).map (·.namespaceName))
  | _ => True

end World

/-- Every reply in the log is the one that the world gives at that time. -/
def Truthful (remote : Remote) : World → List (Nat × Event effects) → Prop
  | _, [] => True
  | w, (_, e) :: log => w.Gives e ∧ remote.Truthful (w.step remote e) log

section Logs

variable {remote : Remote} {calls : Nat → Executor.Operation} {w : World}
  {log before after : List (Nat × Event effects)} {n : Nat} {e : Event effects}
  {instanceId namespaceName : String}

namespace World

@[simp] theorem step_recollection (known : Option String) :
    w.step remote (recollection instanceId known) = w := rfl

@[simp] theorem step_lookup (answer : Locator.Answer) :
    w.step remote (remote.lookup instanceId answer) = w := rfl

@[simp] theorem step_keeping : w.step remote (keeping instanceId namespaceName) =
    { w with memo := w.memo.put instanceId namespaceName } := rfl

theorem step_creation {m : Cluster.CreateCluster} {answer : Delivery}
    (h : remote.acknowledged (.createCluster m) answer) :
    w.step remote ⟨.post (.createCluster m), answer⟩ = { w with clusters := w.clusters ++ [m] } :=
  if_pos h

theorem step_deletion {m : Cluster.DeleteCluster} {answer : Delivery}
    (h : remote.acknowledged (.deleteCluster m) answer) :
    w.step remote ⟨.post (.deleteCluster m), answer⟩ =
      { w with clusters := w.clusters.filter (·.selector ≠ m.selector) } :=
  if_pos h

theorem memo_step_post (m : Cluster.Message) (answer : Delivery) :
    (w.step remote ⟨.post m, answer⟩).memo = w.memo := by
  cases m with
  | createCluster m =>
    unfold step
    dsimp only
    split <;> rfl
  | deleteCluster m =>
    unfold step
    dsimp only
    split <;> rfl
  | _ => rfl

/-- A script keeps and recalls namespaces as the world does. -/
theorem memo_step_answer (r : Request) {script : Script} (h : w.memo = script.locator.memo) :
    (w.step remote ⟨r, (Script.answer r script).1⟩).memo =
        (Script.answer r script).2.locator.memo ∧
      ∀ known, ⟨r, (Script.answer r script).1⟩ = recollection instanceId known →
        known = w.memo.find? instanceId := by
  match r with
  | .locate (.recall id) =>
    refine ⟨h, fun known heq => ?_⟩
    cases heq
    rw [h]
    rfl
  | .locate (.lookup selector) => exact ⟨h, nofun⟩
  | .locate (.remember id ns) =>
    refine ⟨?_, nofun⟩
    change w.memo.put id ns = script.locator.memo.put id ns
    rw [h]
  | .post m => exact ⟨(memo_step_post m _).trans h, nofun⟩

@[simp] theorem run_nil : w.run remote [] = w := rfl

@[simp] theorem run_cons : w.run remote ((n, e) :: log) = (w.step remote e).run remote log := rfl

@[simp] theorem run_append :
    w.run remote (before ++ after) = (w.run remote before).run remote after :=
  List.foldl_append

end World

theorem truthful_append : remote.Truthful w (before ++ after) ↔
    remote.Truthful w before ∧ remote.Truthful (w.run remote before) after := by
  induction before generalizing w with
  | nil => exact (Iff.of_eq (true_and _)).symm
  | cons entry before ih => exact (and_congr_right fun _ => ih).trans (and_assoc).symm

theorem Truthful.gives (h : remote.Truthful w (before ++ (n, e) :: after)) :
    (w.run remote before).Gives e :=
  (truthful_append.mp h).2.1

/-! ### What is kept -/

/-- One event keeps a namespace for the instance or leaves the one that is kept. -/
theorem World.find?_memo_step (w : World) (remote : Remote) (e : Event effects)
    (instanceId : String) :
    (∃ namespaceName, e = keeping instanceId namespaceName ∧
      (w.step remote e).memo.find? instanceId = some namespaceName) ∨
    (∀ namespaceName, e ≠ keeping instanceId namespaceName) ∧
      (w.step remote e).memo.find? instanceId = w.memo.find? instanceId := by
  match e with
  | ⟨.locate (.remember id ns), ()⟩ =>
    have hput : (w.step remote (keeping id ns)).memo.find? instanceId =
        if instanceId = id then some ns else w.memo.find? instanceId := Table.find?_put ..
    by_cases hid : instanceId = id
    · subst hid
      exact .inl ⟨ns, rfl, hput.trans (if_pos rfl)⟩
    · refine .inr ⟨fun ns' heq => ?_, hput.trans (if_neg hid)⟩
      cases heq
      exact hid rfl
  | ⟨.locate (.recall _), _⟩ | ⟨.locate (.lookup _), _⟩ => exact .inr ⟨nofun, rfl⟩
  | ⟨.post m, answer⟩ => exact .inr ⟨nofun, by rw [memo_step_post]⟩

/-- Without an event that keeps one, the namespace that is kept for the instance stays as it is. -/
theorem World.find?_memo_run (h : ∀ entry ∈ log, ∀ namespaceName,
    entry.2 ≠ keeping instanceId namespaceName) :
    (w.run remote log).memo.find? instanceId = w.memo.find? instanceId := by
  induction log generalizing w with
  | nil => rfl
  | cons entry log ih =>
    rw [List.forall_mem_cons] at h
    rcases w.find?_memo_step remote entry.2 instanceId with ⟨ns, hkeeping, -⟩ | ⟨-, hfind⟩
    · exact absurd hkeeping (h.1 ns)
    · exact (ih h.2).trans hfind

/-- What is kept in the end has been kept by some event. -/
theorem World.exists_keeping (h : (World.empty.run remote log).memo.find? instanceId =
    some namespaceName) :
    ∃ before n after, log = before ++ (n, keeping instanceId namespaceName) :: after := by
  induction log using List.reverseRecOn with
  | nil => cases h
  | append_singleton log entry ih =>
    obtain ⟨n, e⟩ := entry
    rw [run_append, run_cons, run_nil] at h
    rcases (World.empty.run remote log).find?_memo_step remote e instanceId with
      ⟨ns, rfl, hfind⟩ | ⟨-, hfind⟩
    · obtain rfl := Option.some.inj (hfind.symm.trans h)
      exact ⟨log, n, [], rfl⟩
    · obtain ⟨before, m, after, rfl⟩ := ih (hfind ▸ h)
      exact ⟨before, m, after ++ [(n, e)], by simp⟩

/-- A cluster that there is after an event was there before, or it has just been created. -/
theorem World.mem_clusters_step {m : Cluster.CreateCluster}
    (h : m ∈ (w.step remote e).clusters) :
    m ∈ w.clusters ∨ ∃ answer, e = ⟨.post (.createCluster m), answer⟩ ∧
      remote.acknowledged (.createCluster m) answer := by
  unfold step at h
  split at h
  · split at h
    · next hack =>
      rcases List.mem_append.mp h with h | h
      · exact .inl h
      · obtain rfl := List.mem_singleton.mp h
        exact .inr ⟨_, rfl, hack⟩
    · exact .inl h
  · split at h
    · exact .inl (List.mem_filter.mp h).1
    · exact .inl h
  · exact .inl h
  · exact .inl h

/-- Every cluster that there is has been created, and its creation acknowledged. -/
theorem World.exists_creation {m : Cluster.CreateCluster}
    (h : m ∈ (World.empty.run remote log).clusters) :
    ∃ before n answer after, log = before ++ (n, ⟨.post (.createCluster m), answer⟩) :: after ∧
      remote.acknowledged (.createCluster m) answer := by
  induction log using List.reverseRecOn with
  | nil => cases h
  | append_singleton log entry ih =>
    obtain ⟨n, e⟩ := entry
    rw [run_append, run_cons, run_nil] at h
    rcases mem_clusters_step h with h | ⟨answer, rfl, hack⟩
    · obtain ⟨before, k, answer, after, rfl, hack⟩ := ih h
      exact ⟨before, k, answer, after ++ [(n, e)], by simp, hack⟩
    · exact ⟨log, n, answer, [], rfl, hack⟩

/-! ### One call after the other -/

/-- The events of a call come after those of all calls with smaller numbers. -/
def IsSequential (log : List (Nat × Event effects)) : Prop :=
  log.Pairwise fun x y => x.1 ≤ y.1

/-- What comes between two events of a call is of the same call. -/
theorem IsSequential.eq_of_mem {e' : Event effects} {entry : Nat × Event effects}
    (h : IsSequential (before ++ (n, e) :: log ++ (n, e') :: after)) (hentry : entry ∈ log) :
    entry.1 = n := by
  rw [List.append_assoc, List.cons_append] at h
  obtain ⟨hfirst, hrest⟩ := List.pairwise_cons.mp (List.pairwise_append.mp h).2.1
  have hlow : n ≤ entry.1 := hfirst entry (List.mem_append_left _ hentry)
  have hhigh : entry.1 ≤ n :=
    (List.pairwise_append.mp hrest).2.2 entry hentry (n, e') List.mem_cons_self
  exact Nat.le_antisymm hhigh hlow

/-- If calls come one after the other, a namespace is kept only where none was. -/
theorem find?_memo_eq_none_of_keeping
    (hlog : remote.IsLog calls (before ++ (n, keeping instanceId namespaceName) :: after))
    (htruth : remote.Truthful .empty (before ++ (n, keeping instanceId namespaceName) :: after))
    (hseq : IsSequential (before ++ (n, keeping instanceId namespaceName) :: after)) :
    (World.empty.run remote before).memo.find? instanceId = none := by
  obtain ⟨others, hpast⟩ := hlog.justified
  have hsplit : eventsOf n before = [] ++ recollection instanceId none ::
      [remote.lookup instanceId (.ok (namespaceName :: others))] := hpast
  obtain ⟨front, rest, rfl, -, hrest⟩ := exists_append_of_eventsOf hsplit
  -- Since the call recalled nothing only itself has been at work, and it has not kept anything yet.
  have hrecalled : (World.empty.run remote front).memo.find? instanceId = none := by
    rw [List.append_assoc, List.cons_append] at htruth
    exact htruth.gives.symm
  rw [World.run_append, World.run_cons, World.find?_memo_run]
  · exact hrecalled
  · intro entry hentry ns heq
    have hmem : (n, keeping instanceId ns) ∈ rest := by
      rw [← heq, ← hseq.eq_of_mem hentry]
      exact hentry
    have hkeeping := mem_eventsOf hmem
    rw [hrest, List.mem_singleton] at hkeeping
    cases hkeeping

/-- So what is once kept is kept for ever. -/
theorem find?_memo_run_of_isSequential (hlog : remote.IsLog calls (before ++ after))
    (htruth : remote.Truthful .empty (before ++ after)) (hseq : IsSequential (before ++ after))
    (h : (World.empty.run remote before).memo.find? instanceId = some namespaceName) :
    (World.empty.run remote (before ++ after)).memo.find? instanceId = some namespaceName := by
  -- The induction is on what follows, and every event moves on to what has been.
  induction after generalizing before with
  | nil => rwa [List.append_nil]
  | cons entry after ih =>
    obtain ⟨n, e⟩ := entry
    rw [List.append_cons]
    refine ih (List.append_cons .. ▸ hlog) (List.append_cons .. ▸ htruth)
      (List.append_cons .. ▸ hseq) ?_
    rw [World.run_append, World.run_cons, World.run_nil]
    rcases (World.empty.run remote before).find?_memo_step remote e instanceId with
      ⟨ns, rfl, -⟩ | ⟨-, hfind⟩
    · rw [find?_memo_eq_none_of_keeping hlog htruth hseq] at h
      cases h
    · rw [hfind, h]

/-! ### Requests -/

theorem selector_injective (remote : Remote) : Function.Injective remote.selector :=
  fun _ _ h => (String.append_right_inj (remote.labelKey ++ "=")).mp h

/-- All creations of the instance that have been acknowledged are in this namespace. -/
def CreatedOnlyIn (remote : Remote) (log : List (Nat × Event effects))
    (instanceId namespaceName : String) : Prop :=
  ∀ n m answer, (n, (⟨.post (.createCluster m), answer⟩ : Event effects)) ∈ log →
    m.selector = remote.selector instanceId → remote.acknowledged (.createCluster m) answer →
    m.namespaceName = namespaceName

/-- Clusters of an instance are where it has been created. -/
theorem CreatedOnlyIn.eq_of_mem_clustersOf {c : Cluster.CreateCluster}
    (h : remote.CreatedOnlyIn log instanceId namespaceName)
    (hc : c ∈ (World.empty.run remote log).clustersOf remote instanceId) :
    c.namespaceName = namespaceName := by
  obtain ⟨hmem, hof⟩ := List.mem_filter.mp hc
  obtain ⟨before, n, answer, after, rfl, hack⟩ := World.exists_creation hmem
  exact h n c answer (by simp) (of_decide_eq_true hof) hack

theorem CreatedOnlyIn.of_append
    (h : remote.CreatedOnlyIn (before ++ after) instanceId namespaceName) :
    remote.CreatedOnlyIn before instanceId namespaceName :=
  fun n m answer hmem => h n m answer (List.mem_append_left _ hmem)

/-- A namespace is kept only if it has been found. -/
theorem exists_lookup_of_keeping
    (hlog : remote.IsLog calls (before ++ (n, keeping instanceId namespaceName) :: after)) :
    ∃ front others rest, before =
      front ++ (n, remote.lookup instanceId (.ok (namespaceName :: others))) :: rest := by
  obtain ⟨others, hpast⟩ := hlog.justified
  have hsplit : eventsOf n before = [recollection instanceId none] ++
      remote.lookup instanceId (.ok (namespaceName :: others)) :: [] := hpast
  obtain ⟨front, rest, rfl, -, -⟩ := exists_append_of_eventsOf hsplit
  exact ⟨front, others, rest, rfl⟩

/-- What justifies a request about existing clusters is that its namespace has been kept. -/
theorem exists_memo_of_justified {m : Cluster.Message}
    (hjustified : remote.Justified (eventsOf n before) (.post m))
    (htruth : remote.Truthful .empty before) (hm : m.endpoint ≠ .clusters)
    (hselector : m.selector = remote.selector instanceId) :
    ∃ front rest, before = front ++ rest ∧
      (World.empty.run remote front).memo.find? instanceId = some m.namespaceName := by
  obtain ⟨id, located, asked, hpast, hlocates, hid⟩ := hjustified hm
  obtain rfl : id = instanceId := remote.selector_injective (hid.symm.trans hselector)
  cases hlocates with
  | recalled =>
    have hsplit : eventsOf n before = [] ++ recollection id (some m.namespaceName) :: asked := hpast
    obtain ⟨front, rest, rfl, -, -⟩ := exists_append_of_eventsOf hsplit
    exact ⟨front, _, rfl, htruth.gives.symm⟩
  | found others =>
    have hsplit : eventsOf n before = [recollection id none,
        remote.lookup id (.ok (m.namespaceName :: others))] ++
        keeping id m.namespaceName :: asked := hpast
    obtain ⟨front, rest, rfl, -, -⟩ := exists_append_of_eventsOf hsplit
    refine ⟨front ++ [(n, keeping id m.namespaceName)], rest, by simp, ?_⟩
    rw [World.run_append, World.run_cons, World.run_nil]
    exact (Table.find?_put ..).trans (if_pos rfl)

/-- When a request about existing clusters is sent to a namespace, this has been kept before. -/
theorem exists_memo_of_post {m : Cluster.Message} {answer : Delivery}
    (hlog : remote.IsLog calls (before ++ (n, ⟨.post m, answer⟩) :: after))
    (htruth : remote.Truthful .empty (before ++ (n, ⟨.post m, answer⟩) :: after))
    (hm : m.endpoint ≠ .clusters) (hselector : m.selector = remote.selector instanceId) :
    ∃ front rest, before = front ++ rest ∧
      (World.empty.run remote front).memo.find? instanceId = some m.namespaceName :=
  exists_memo_of_justified hlog.justified (truthful_append.mp htruth).1 hm hselector

/-- A namespace that has been kept headed the answer to a lookup, and a cluster of the instance was
there. -/
theorem exists_lookup_of_memo (hlog : remote.IsLog calls (before ++ after))
    (htruth : remote.Truthful .empty (before ++ after))
    (h : (World.empty.run remote before).memo.find? instanceId = some namespaceName) :
    ∃ front k others rest, before =
        front ++ (k, remote.lookup instanceId (.ok (namespaceName :: others))) :: rest ∧
      ∃ c ∈ (World.empty.run remote front).clustersOf remote instanceId,
        c.namespaceName = namespaceName := by
  obtain ⟨kept, k, more, rfl⟩ := World.exists_keeping h
  rw [List.append_assoc, List.cons_append] at hlog htruth
  obtain ⟨front, others, rest, rfl⟩ := exists_lookup_of_keeping hlog
  refine ⟨front, k, others, _, List.append_assoc .., ?_⟩
  rw [List.append_assoc, List.cons_append] at htruth
  have hperm : (namespaceName :: others).Perm
      (((World.empty.run remote front).clustersOf remote instanceId).map (·.namespaceName)) :=
    htruth.gives
  exact List.mem_map.mp (hperm.subset List.mem_cons_self)

/-- However operations overlap, a request about existing clusters of an instance is sent to a
namespace that headed the answer to a lookup, where a cluster of the instance was then. If the
instance has one cluster and has been created in one namespace only, the request goes to where that
cluster is. If operations come one after the other, all requests for the instance go to the one
namespace that stays kept for it. -/
theorem requests_go_where_found (remote : Remote) {calls : Nat → Executor.Operation}
    {log : List (Nat × Event effects)} (hlog : remote.IsLog calls log)
    (htruth : remote.Truthful .empty log) :
    ∀ before n m answer after instanceId, log = before ++ (n, ⟨.post m, answer⟩) :: after →
      m.endpoint ≠ .clusters → m.selector = remote.selector instanceId →
      (∃ front k others rest, before =
          front ++ (k, remote.lookup instanceId (.ok (m.namespaceName :: others))) :: rest ∧
        ∃ c ∈ (World.empty.run remote front).clustersOf remote instanceId,
          c.namespaceName = m.namespaceName) ∧
      (∀ c, (World.empty.run remote before).clustersOf remote instanceId = [c] →
        (∃ namespaceName, remote.CreatedOnlyIn before instanceId namespaceName) →
        m.namespaceName = c.namespaceName) ∧
      (IsSequential log →
        (World.empty.run remote log).memo.find? instanceId = some m.namespaceName) := by
  rintro before n m answer after instanceId rfl hm hselector
  obtain ⟨known, later, rfl, hmemo⟩ := exists_memo_of_post hlog htruth hm hselector
  rw [List.append_assoc] at hlog htruth
  obtain ⟨front, k, others, rest, rfl, c, hc, hnamespace⟩ := exists_lookup_of_memo hlog htruth hmemo
  refine ⟨⟨front, k, others, rest ++ later, by simp, c, hc, hnamespace⟩, ?_, fun hseq => ?_⟩
  · rintro current hcurrent ⟨ns, hcreated⟩
    -- Both the cluster that was found and the one there is now have been created.
    have hmem := List.mem_singleton_self current
    rw [← hcurrent] at hmem
    calc m.namespaceName = c.namespaceName := hnamespace.symm
      _ = ns := hcreated.of_append.of_append.eq_of_mem_clustersOf hc
      _ = current.namespaceName := (hcreated.eq_of_mem_clustersOf hmem).symm
  · rw [List.append_assoc] at hseq ⊢
    exact find?_memo_run_of_isSequential hlog htruth hseq hmemo

end Logs

/-! ### An instance that is created again -/

namespace Recreation

/-- An instance is created, deleted, created again in the namespace `ns`, and described. -/
def calls (ns : String) : Nat → Executor.Operation
  | 0 => .createCluster ⟨"i", "c", "ns1", "plan"⟩
  | 1 => .deleteCluster "i"
  | 2 => .createCluster ⟨"i", "c", ns, "plan"⟩
  | _ => .clusterDetail "i"

/-- The request to create its cluster. -/
def creation (ns : String) : Cluster.CreateCluster where
  clusterName := "c"
  namespaceName := ns
  selector := trial.selector "i"
  clientVersion := trial.clientVersion
  sizing := Plan.resolve "plan"

/-- The request to describe its cluster. -/
def description (ns : String) : Cluster.ShowClusters where
  clusterName := Cluster.allClusters
  selector := trial.selector "i"
  namespaceName := ns
  clientVersion := trial.clientVersion

/-- The events up to the second creation. -/
def past (ns : String) : List (Nat × Event effects) :=
  [(0, ⟨.post (.createCluster (creation "ns1")), .success []⟩),
    (1, recollection "i" none), (1, trial.lookup "i" (.ok ["ns1"])), (1, keeping "i" "ns1"),
    (1, ⟨.post (.showUsers (trial.listing "ns1" "i")), .success []⟩),
    (1, ⟨.post (.deleteCluster (trial.deletion "ns1" "i")), .success []⟩),
    (2, ⟨.post (.createCluster (creation ns)), .success []⟩)]

/-- The events up to the description. -/
def known (ns : String) : List (Nat × Event effects) :=
  past ns ++ [(3, recollection "i" (some "ns1"))]

/-- The description is sent to the namespace that was kept. -/
def log (ns : String) : List (Nat × Event effects) :=
  known ns ++ [(3, ⟨.post (.showClusters (description "ns1")), .success []⟩)]

theorem exists_accepted_nothing : ∃ contents, Accepted Json.Reader.json (.success []) contents := by
  have hcode : ((Cluster.Envelope.reader Json.Reader.json).fromText (Utf8.bytes (Json.render
      (.ofMembers [("status", .ofMembers [("code", .string "ok")]),
        ("results", .array [])])))).toOption.map (·.status.code) = some "ok" := by
    decide +kernel
  obtain ⟨envelope, henvelope, hok⟩ := Option.map_eq_some_iff.mp hcode
  exact ⟨_, 200, _, envelope, rfl, by decide, by decide, eq_ok_of_toOption henvelope, hok, rfl⟩

theorem acknowledged_success (m : Cluster.Message) : trial.acknowledged m (.success []) := by
  obtain ⟨contents, haccepted⟩ := exists_accepted_nothing
  rw [acknowledged, accept_eq_ok_iff.mpr haccepted]
  rfl

theorem isLog (ns : String) : trial.IsLog (calls ns) (log ns) := by
  intro n
  match n with
  | 0 => exact exists_reaches_ask (E := effects) ⟨_, .refl _⟩
  | 1 =>
    change ∃ q, Reaches (trial.deleteCluster "i") _ q
    rw [deleteCluster_eq]
    refine exists_reaches_ask (E := effects) ?_
    refine exists_reaches_ask (E := effects) ?_
    refine exists_reaches_ask (E := effects) ?_
    refine exists_reaches_ask (E := effects) ?_
    dsimp only
    rw [accept_eq_ok_iff.mpr accepted_nobody]
    exact exists_reaches_ask (E := effects) ⟨_, .refl _⟩
  | 2 => exact exists_reaches_ask (E := effects) ⟨_, .refl _⟩
  | 3 =>
    refine exists_reaches_ask (E := effects) ?_
    exact exists_reaches_ask (E := effects) ⟨_, .refl _⟩
  | n + 4 => exact ⟨_, .refl _⟩

theorem isSequential (ns : String) : IsSequential (log ns) := by
  have hnumbers : ((log ns).map Prod.fst).Pairwise (· ≤ ·) := by
    change [0, 1, 1, 1, 1, 1, 2, 3, 3].Pairwise (· ≤ ·)
    decide
  exact List.pairwise_map.mp hnumbers

theorem run_past (ns : String) :
    World.empty.run trial (past ns) = ⟨[creation ns], [("i", "ns1")]⟩ := by
  simp only [past, World.run_cons, World.run_nil, World.step_recollection, World.step_lookup,
    World.step_keeping, World.step_creation (acknowledged_success _),
    World.step_deletion (acknowledged_success _)]
  rfl

theorem truthful (ns : String) : trial.Truthful .empty (log ns) := by
  rw [log, known, List.append_assoc]
  refine truthful_append.mpr ⟨?_, ?_⟩
  · refine ⟨trivial, ?_⟩
    rw [World.step_creation (acknowledged_success _)]
    exact ⟨rfl, .refl _, trivial, trivial, trivial, trivial, trivial⟩
  · rw [run_past]
    exact ⟨rfl, trivial, trivial⟩

/-- When the description is sent, there is the one cluster that was created last. -/
theorem clustersOf_known (ns : String) :
    (World.empty.run trial (known ns)).clustersOf trial "i" = [creation ns] := by
  rw [known, World.run_append, run_past]
  rfl

theorem createdOnlyIn : trial.CreatedOnlyIn (known "ns1") "i" "ns1" := by
  intro n m answer hmem _ _
  simp only [known, past, recollection, lookup, keeping, List.cons_append, List.nil_append,
    List.mem_cons, List.not_mem_nil, Prod.mk.injEq, Event.mk.injEq, Request.post.injEq,
    Cluster.Message.createCluster.injEq, reduceCtorEq, false_and, and_false, or_false,
    false_or] at hmem
  rcases hmem with ⟨-, rfl, -⟩ | ⟨-, rfl, -⟩
  · rfl
  · rfl

end Recreation

/-- An instance that has been found in one namespace and is created again in another is looked for
where it was. -/
theorem request_misses_recreated_cluster :
    ¬ ∀ calls log, trial.IsLog calls log → trial.Truthful .empty log → IsSequential log →
      ∀ before n m answer after instanceId c, log = before ++ (n, ⟨.post m, answer⟩) :: after →
        m.endpoint ≠ .clusters → m.selector = trial.selector instanceId →
        (World.empty.run trial before).clustersOf trial instanceId = [c] →
        m.namespaceName = c.namespaceName := by
  intro h
  have hsame := h (Recreation.calls "ns2") (Recreation.log "ns2") (Recreation.isLog "ns2")
    (Recreation.truthful "ns2") (Recreation.isSequential "ns2") (Recreation.known "ns2") 3
    (.showClusters (Recreation.description "ns1")) (.success []) [] "i" _ rfl nofun rfl
    (Recreation.clustersOf_known "ns2")
  exact absurd hsame (by decide)

/-- An instance that is created again where it was is found there. If it is created somewhere else,
the first namespace stays kept for it. -/
theorem request_finds_recreated_cluster :
    (World.empty.run trial (Recreation.known "ns1")).clustersOf trial "i" =
      [Recreation.creation "ns1"] ∧
    (Recreation.description "ns1").namespaceName = (Recreation.creation "ns1").namespaceName ∧
    (World.empty.run trial (Recreation.log "ns2")).memo.find? "i" =
      some (Recreation.description "ns1").namespaceName := by
  refine ⟨Recreation.clustersOf_known "ns1", ?_, ?_⟩
  · exact (requests_go_where_found trial (Recreation.isLog "ns1") (Recreation.truthful "ns1")
      (Recreation.known "ns1") 3 (.showClusters (Recreation.description "ns1")) (.success []) [] "i"
      rfl nofun rfl).2.1 _ (Recreation.clustersOf_known "ns1") ⟨"ns1", Recreation.createdOnlyIn⟩
  · exact (requests_go_where_found trial (Recreation.isLog "ns2") (Recreation.truthful "ns2")
      (Recreation.known "ns2") 3 (.showClusters (Recreation.description "ns1")) (.success []) [] "i"
      rfl nofun rfl).2.2 (Recreation.isSequential "ns2")

end ServiceBroker.Remote
