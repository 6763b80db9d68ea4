import ServiceBroker.Proofs.Broker.Interleaving

/-!
# Overlapping calls over the executor in memory

A binding takes two operations, and between them its instance can be deleted and another be created
under the same ID. The binding is then the one that it would have been on the new instance: whether
it succeeds is decided by its second operation, and its document follows from its ID. So calls that
overlap come to the same as one after the other.

## Main definitions

* `Broker.Call.IsIdle`: calls that make no use of the executor
* `Broker.IsLinearization`: an order for calls that have overlapped

## Main results

* `Broker.actsLast_bind`: a binding comes to the same as if made at its second operation
* `Broker.overlapping_calls_linearize`: calls that overlap come to the same one after the other
-/

namespace ServiceBroker.Broker

variable {b : Broker} {s : InMemory}

/-! ### Calls that act last -/

/-- What is left of a binding once the address of the cluster has been checked. -/
def issue (instanceId bindingId : String) (r : BindRequest) (details : Cluster.Details)
    (base : Url) : Program effects (Except Failure Connection) :=
  execute (.createBinding instanceId bindingId r.appId) >>= fun outcome =>
    match (outcome : Except Executor.Failure Credential) with
    | .error failure => .done (.error (.executor failure))
    | .ok credential => .done (Connection.ofCredential details base credential)

theorem bind_eq (instanceId bindingId : String) (r : BindRequest) :
    bind instanceId bindingId r = execute (.clusterDetail instanceId) >>= fun outcome =>
      match (outcome : Except Executor.Failure Cluster.Details) with
      | .error failure => .done (.error (.executor failure))
      | .ok details =>
        match Connection.base details.advertisedHost details.database with
        | .error failure => .done (.error failure)
        | .ok base => issue instanceId bindingId r details base := rfl

/-- The second operation of a binding decides what it comes to. What the first has told about the
cluster may be out of date by then, but all clusters are at one address. -/
theorem actsLast_issue (instanceId bindingId : String) (r : BindRequest) (order : Cluster.Order) :
    ActsLast InMemory.executor InMemory.Valid
      (runAlone InMemory.executor (bind instanceId bindingId r))
      (issue instanceId bindingId r (InMemory.detailsFor order) InMemory.address) := by
  intro s hs
  rw [runAlone_bind hs, executor_perform]
  by_cases hfind : s.instances.find? instanceId = none
  · rw [InMemory.perform_createBinding_of_none bindingId r.appId hfind, if_pos hfind]
    exact .inl ⟨_, rfl, rfl⟩
  · rw [hs.perform_createBinding bindingId r.appId hfind, if_neg hfind]
    refine .inl ⟨.ok (InMemory.connectionFor bindingId), ?_, ?_⟩
    · split_ifs <;> rfl
    · exact InMemory.ofCredential_detailsFor order bindingId

/-- A binding comes to the same as if it had been made as a whole at its last operation. -/
theorem actsLast_bind (instanceId bindingId : String) (r : BindRequest) :
    ActsLast InMemory.executor InMemory.Valid
      (runAlone InMemory.executor (bind instanceId bindingId r)) (bind instanceId bindingId r) := by
  nth_rewrite 2 [bind_eq]
  intro s hs
  rw [executor_perform, InMemory.perform_clusterDetail]
  -- Without an instance the first operation is also the last, and otherwise it only tells the
  -- address, which is that of all clusters.
  cases hfind : s.instances.find? instanceId with
  | none =>
    refine .inl ⟨.error (.executor (.instanceNotFound instanceId)), ?_, rfl⟩
    rw [runAlone_bind hs, if_pos hfind]
  | some details =>
    obtain ⟨order, rfl⟩ := hs.details_eq hfind
    refine .inr ⟨rfl, ?_⟩
    dsimp only [Program.bind]
    rw [InMemory.base_detailsFor]
    exact actsLast_issue instanceId bindingId r order

/-- The call makes no use of the executor: it is a provision that is refused before, or it asks for
nothing. -/
inductive Call.IsIdle : Call → Prop where
  | refused (instanceId : String) {r : ProvisionRequest} (acceptsIncomplete : Bool)
      {failure : Failure} : ProvisionParameters.ofMembers r.parameters = .error failure →
      IsIdle (.provision instanceId r acceptsIncomplete)
  | update (instanceId : String) (r : UpdateRequest) (acceptsIncomplete : Bool) :
      IsIdle (.update instanceId r acceptsIncomplete)
  | lastOperation (instanceId : String) : IsIdle (.lastOperation instanceId)

/-- A call that makes no use of the executor is done with it from the start. -/
theorem Call.IsIdle.endsIn {call : Call} (h : call.IsIdle) : ∃ a, EndsIn a (b.perform call) := by
  cases h with
  | refused instanceId acceptsIncomplete hparameters =>
    rw [perform, Broker.provision, hparameters]
    exact ⟨_, rfl⟩
  | update => exact ⟨_, rfl⟩
  | lastOperation => exact ⟨_, rfl⟩

/-- Every other call comes to the same as if it had been made as a whole at its last operation. -/
theorem actsLast_perform {call : Call} (h : ¬ call.IsIdle) :
    ActsLast InMemory.executor InMemory.Valid (b.serve InMemory.executor call)
      (b.perform call) := by
  cases call with
  | provision instanceId r acceptsIncomplete =>
    cases hparameters : ProvisionParameters.ofMembers r.parameters with
    | error failure => exact absurd (.refused instanceId acceptsIncomplete hparameters) h
    | ok parameters =>
      refine ActsLast.map _ ?_
      rw [Broker.provision, hparameters]
      refine actsLast_exclusively_bind fun outcome => ?_
      rcases outcome with failure | _
      · exact ⟨_, rfl⟩
      · exact ⟨_, rfl⟩
  | deprovision instanceId acceptsIncomplete =>
    refine ActsLast.map _ (actsLast_exclusively_bind fun outcome => ?_)
    rcases outcome with failure | _
    · cases failure <;> exact ⟨_, rfl⟩
    · exact ⟨_, rfl⟩
  | update instanceId r acceptsIncomplete => exact absurd (.update instanceId r acceptsIncomplete) h
  | bind instanceId bindingId r => exact (actsLast_bind instanceId bindingId r).map _
  | unbind instanceId bindingId =>
    exact ActsLast.map _ (actsLast_execute_bind fun outcome => ⟨_, rfl⟩)
  | lastOperation instanceId => exact absurd (.lastOperation instanceId) h

theorem isReady_perform (b : Broker) (call : Call) :
    IsReady InMemory.executor InMemory.Valid (b.serve InMemory.executor call) (b.perform call) := by
  by_cases h : call.IsIdle
  · exact .inr h.endsIn
  · exact .inl (actsLast_perform h)

/-! ### All calls -/

/-- An order of all calls in which those that use the executor stand in the order of their last
operations, and the others anywhere. -/
structure IsLinearization {n : Nat} (log : List (Fin n × Program.Event effects))
    (order : List (Fin n)) : Prop where
  perm : order.Perm (List.finRange n)
  /-- Of several operations of a call, only the last counts. -/
  filter_eq : order.filter (callers log).contains = (callers log).dedup

theorem exists_isLinearization {n : Nat} (log : List (Fin n × Program.Event effects)) :
    ∃ order, IsLinearization log order := by
  -- Those that make no use of the executor may well stand at the end.
  refine ⟨(callers log).dedup ++ (List.finRange n).filter (· ∉ callers log), ?_, ?_⟩
  · have hnodup : ((callers log).dedup ++ (List.finRange n).filter (· ∉ callers log)).Nodup := by
      refine List.Nodup.append (List.nodup_dedup _) ((List.nodup_finRange n).filter _) ?_
      intro i hi hi'
      exact of_decide_eq_true (List.mem_filter.mp hi').2 (List.mem_dedup.mp hi)
    refine (List.perm_ext_iff_of_nodup hnodup (List.nodup_finRange n)).mpr fun i => ?_
    rw [List.mem_append, List.mem_dedup, List.mem_filter, decide_eq_true_eq]
    exact iff_of_true (or_iff_not_imp_left.mpr fun hi => ⟨List.mem_finRange i, hi⟩)
      (List.mem_finRange i)
  · rw [List.filter_append, List.filter_eq_self.mpr, List.filter_eq_nil_iff.mpr, List.append_nil]
    · intro i hi
      simpa using (List.mem_filter.mp hi).2
    · intro i hi
      exact List.contains_iff_mem.mpr (List.mem_dedup.mp hi)

/-- Calls over the executor in memory that overlap in any way come to the same as one after the
other, in the order of their last operations: all have the same outcomes, and the tables are the
same after them. At no time is there a binding without its instance. -/
theorem overlapping_calls_linearize (b : Broker) {n : Nat} (calls : Fin n → Call) {s : InMemory}
    {w : Shared InMemory} {log : List (Fin n × Program.Event effects)}
    {programs : Fin n → Program effects (Except Failure Answer)} (hs : s.Valid)
    (h : Interleaving InMemory.executor ⟨false, s⟩ (fun i => b.perform (calls i)) log w programs) :
    (∀ instanceId bindingId, (w.state.bindings.find? (instanceId, bindingId)).isSome →
      (w.state.instances.find? instanceId).isSome) ∧
    ∀ outcome : Fin n → Except Failure Answer, programs = (fun i => .done (outcome i)) →
      (∀ i, i ∉ callers log ↔ (calls i).IsIdle) ∧
      (∃ order, IsLinearization log order) ∧
      ∀ order, IsLinearization log order →
        b.play InMemory.executor s (order.map calls) =
          ⟨order.map fun i => ⟨calls i, outcome i⟩, w.state⟩ := by
  have hInv (op : Executor.Operation) (s : InMemory) (hs : s.Valid) :
      (InMemory.executor.perform op s).2.Valid := hs.perform op
  refine ⟨fun _ _ => (h.preserves hInv hs).bound, ?_⟩
  rintro outcome rfl
  obtain ⟨hdue, hreplays⟩ := h.replays hInv hs fun i => isReady_perform b (calls i)
  have hidle (i : Fin n) : i ∉ callers log ↔ (calls i).IsIdle := by
    rcases hdue i with ⟨hmem, hacts⟩ | ⟨hmem, hends⟩
    · refine iff_of_false (not_not.mpr hmem) fun hi => ?_
      obtain ⟨a, ha⟩ := hi.endsIn (b := b)
      exact hacts.not_endsIn ha
    · exact iff_of_true hmem (by_contra fun hi => (actsLast_perform hi).not_endsIn hends)
  refine ⟨hidle, exists_isLinearization log, fun order horder => Replays.play_eq ?_⟩
  rw [← horder.filter_eq] at hreplays
  refine hreplays.of_filter fun i hi s => ?_
  rcases hdue i with ⟨hmem, -⟩ | ⟨-, hends⟩
  · exact absurd (List.contains_iff_mem.mpr hmem) hi
  · exact hends.runAlone_eq s

/-! ### A binding across the re-creation of its instance -/

namespace Recreation

/-- The cluster that is there first. -/
def firstOrder : Cluster.Order := ⟨"i", "c", "n", "plan"⟩

/-- The cluster that takes its place. -/
def secondOrder : Cluster.Order := ⟨"i", "d", "n", "plan"⟩

def bindRequest : BindRequest := ⟨"service", "plan", none, none, none⟩

/-- An instance is bound while it is deprovisioned and provisioned with another cluster. -/
def calls : Fin 3 → Call
  | 0 => .bind "i" "b" bindRequest
  | 1 => .deprovision "i" false
  | 2 => .provision "i" ⟨"service", "plan", none, none,
      some [("CLUSTERNAME", .string "d"), ("NAMESPACE", .string "n")], none⟩ false

def outcome : Fin 3 → Except Failure Answer
  | 0 => .ok (.connection (InMemory.connectionFor "b"))
  | 1 | 2 => .ok (.accepted false)

/-- The binding finds the first cluster, and its user is created on the second. -/
def log : List (Fin 3 × Program.Event effects) :=
  [(0, ⟨.execute (.clusterDetail "i"), .ok (InMemory.detailsFor firstOrder)⟩),
    (1, ⟨.acquire, ()⟩), (1, ⟨.execute (.deleteCluster "i"), .ok ()⟩), (1, ⟨.release, ()⟩),
    (2, ⟨.acquire, ()⟩), (2, ⟨.execute (.createCluster secondOrder), .ok ()⟩),
    (2, ⟨.release, ()⟩),
    (0, ⟨.execute (.createBinding "i" "b" none), .ok (InMemory.credentialFor "b")⟩)]

def before : InMemory := ⟨[("i", InMemory.detailsFor firstOrder)], []⟩

def after : InMemory :=
  ⟨[("i", InMemory.detailsFor secondOrder)], [(("i", "b"), InMemory.credentialFor "b")]⟩

theorem valid_before : before.Valid := InMemory.valid_empty.createCluster firstOrder

theorem isLinearization : IsLinearization log [1, 2, 0] where
  perm := by decide
  filter_eq := by decide

/-- What the binding goes on with once it has found the first cluster. -/
def resumed : Program effects (Except Failure Answer) := do
  return (← issue "i" "b" bindRequest (InMemory.detailsFor firstOrder) InMemory.address).map
    .connection

theorem resume_detailsFor :
    (match Connection.base (InMemory.detailsFor firstOrder).advertisedHost
        (InMemory.detailsFor firstOrder).database with
      | .error failure => .done (.error failure)
      | .ok base => issue "i" "b" bindRequest (InMemory.detailsFor firstOrder) base) =
      issue "i" "b" bindRequest (InMemory.detailsFor firstOrder) InMemory.address := by
  rw [InMemory.base_detailsFor]

theorem interleaving (b : Broker) :
    Interleaving InMemory.executor ⟨false, before⟩ (fun i => b.perform (calls i)) log
      ⟨false, after⟩ fun i => .done (outcome i) := by
  refine .turn_of_eq 0 resumed rfl rfl ?_ ?_
  · exact congrArg (fun p : Program effects (Except Failure Connection) =>
      p >>= fun result => (pure (result.map Answer.connection) : Program effects _))
      resume_detailsFor
  · refine .turn 1 rfl rfl (.turn 1 rfl rfl (.turn 1 rfl rfl ?_))
    refine .turn 2 rfl rfl (.turn 2 rfl rfl (.turn 2 rfl rfl ?_))
    refine .turn 0 rfl rfl (.stop fun i => ?_)
    obtain ⟨_ | _ | _ | n, hi⟩ := i
    · rfl
    · rfl
    · rfl
    · omega

end Recreation

/-- A binding across the re-creation of its instance comes to the same as one after it. -/
theorem binding_across_recreation :
    Interleaving InMemory.executor ⟨false, Recreation.before⟩
        (fun i => (⟨"service", true⟩ : Broker).perform (Recreation.calls i)) Recreation.log
        ⟨false, Recreation.after⟩ (fun i => .done (Recreation.outcome i)) ∧
      IsLinearization Recreation.log [1, 2, 0] ∧
      (⟨"service", true⟩ : Broker).play InMemory.executor Recreation.before
          ([1, 2, 0].map Recreation.calls) =
        ⟨[1, 2, 0].map fun i => ⟨Recreation.calls i, Recreation.outcome i⟩, Recreation.after⟩ :=
  ⟨Recreation.interleaving _, Recreation.isLinearization,
    ((overlapping_calls_linearize _ _ Recreation.valid_before (Recreation.interleaving _)).2
      Recreation.outcome rfl).2.2 _ Recreation.isLinearization⟩

end ServiceBroker.Broker
