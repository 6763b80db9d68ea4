import ServiceBroker.Proofs.Broker.Contract
import ServiceBroker.Proofs.Server.Requests

/-!
# Requests that change nothing

A request that fails leaves the tables of the executor in memory as they are. Where the executor
refuses an operation this is so for the operation itself. It is less clear for a binding: the user
is created before the connection document is put together, and were that to fail, the user would
stay behind. It cannot fail, since every cluster that the tables have ever held is at one address
that credentials can be set for. All of this is shown of single operations and their answers, and so
holds as well while other requests are under way and change the tables in between.

## Main definitions

* `InMemory.Given`, `InMemory.Leaves`: answers that tables in order give, and answers after which the
  tables are as before
* `Server.Turns`, `Server.Serving`: requests that overlap, from a server that has just started

## Main results

* `Broker.Bridges.leaves`: a call that fails leaves the tables as they are
* `Server.leaves_of_run`: so does every step of a request that fails, or that only reads or updates
* `Server.failed_requests_change_nothing`: the tables before and after such a request are the same
-/

namespace ServiceBroker

open Program

/-! ### Operations that change nothing -/

namespace InMemory

variable {event : Event Executor.effects} {op : Executor.Operation} {t t' : InMemory}

/-- The answer is one that tables in order give. -/
def Given (event : Event Executor.effects) : Prop :=
  ∃ t : InMemory, t.Valid ∧ (InMemory.perform event.request t).1 = event.reply

/-- Whatever tables give this answer are left as they are. -/
def Leaves (event : Event Executor.effects) : Prop :=
  ∀ t : InMemory, (InMemory.perform event.request t).1 = event.reply →
    (InMemory.perform event.request t).2 = t

theorem leaves_clusterDetail (id : String) (outcome : Except Executor.Failure Cluster.Details) :
    Leaves ⟨.clusterDetail id, outcome⟩ := by
  intro t _
  dsimp only
  rw [perform_clusterDetail]
  split <;> rfl

/-- An operation that is refused changes nothing. -/
theorem leaves_of_error (op : Executor.Operation) (failure : Executor.Failure) :
    Leaves ⟨op, .error failure⟩ := by
  intro t hanswer
  cases op with
  | createCluster order => cases hanswer
  | deleteBinding id bindingId => cases hanswer
  | clusterDetail id => exact leaves_clusterDetail id _ t hanswer
  | deleteCluster id =>
    unfold InMemory.perform at hanswer ⊢
    dsimp only at hanswer ⊢
    cases hfind : t.instances.find? id with
    | none => rfl
    | some details =>
      rw [hfind] at hanswer
      dsimp only at hanswer ⊢
      by_cases hbindings : t.hasBindings id
      · rw [if_pos hbindings]
      · rw [if_neg hbindings] at hanswer
        cases hanswer
  | createBinding id bindingId appId =>
    unfold InMemory.perform at hanswer ⊢
    dsimp only at hanswer ⊢
    cases hfind : t.instances.find? id with
    | none => rfl
    | some details =>
      rw [hfind] at hanswer
      dsimp only at hanswer
      split at hanswer <;> cases hanswer

/-- All details that tables in order give are those of some order. -/
theorem details_eq_of_given {id : String} {details : Cluster.Details}
    (h : Given ⟨.clusterDetail id, .ok details⟩) : ∃ order, details = detailsFor order := by
  obtain ⟨t, hvalid, hanswer⟩ := h
  dsimp only at hanswer
  rw [perform_clusterDetail] at hanswer
  split at hanswer
  · cases hanswer
  · next found hfind =>
    obtain rfl := Except.ok.inj hanswer
    exact hvalid.details_eq hfind

/-- The credential that tables in order give follows from the binding. -/
theorem credential_eq_of_given {id bindingId : String} {appId : Option String}
    {credential : Credential} (h : Given ⟨.createBinding id bindingId appId, .ok credential⟩) :
    credential = credentialFor bindingId := by
  obtain ⟨t, hvalid, hanswer⟩ := h
  dsimp only at hanswer
  by_cases hfind : t.instances.find? id = none
  · rw [perform_createBinding_of_none bindingId appId hfind] at hanswer
    cases hanswer
  · rw [hvalid.perform_createBinding bindingId appId hfind] at hanswer
    exact (Except.ok.inj hanswer).symm

end InMemory

/-! ### Calls that change nothing -/

namespace Broker.Bridges

variable {b : Broker} {call : Call} {calls : List (Event Executor.effects)}
  {result : Except Failure Answer} {failure : Failure}

/-- A call that fails leaves the tables as they are. -/
theorem leaves (h : Bridges b call calls (.error failure))
    (hgiven : ∀ event ∈ calls, InMemory.Given event) : ∀ event ∈ calls, InMemory.Leaves event := by
  generalize hresult : (.error failure : Except Failure Answer) = result at h
  cases h with
  | invalid => exact nofun
  | notProvisioned | notDeprovisioned =>
    exact List.forall_mem_singleton.mpr (InMemory.leaves_of_error _ _)
  | unknown | unaddressed =>
    exact List.forall_mem_singleton.mpr (InMemory.leaves_clusterDetail _ _)
  | notBound instanceId bindingId r failure hbase =>
    exact List.forall_mem_cons.mpr ⟨InMemory.leaves_clusterDetail _ _,
      List.forall_mem_singleton.mpr (InMemory.leaves_of_error _ _)⟩
  | @bound instanceId bindingId r details url credential hbase =>
    -- The document is put together after the user exists, and cannot fail.
    obtain ⟨hdetails, hcredential⟩ := List.forall_mem_cons.mp hgiven
    obtain ⟨order, rfl⟩ := InMemory.details_eq_of_given hdetails
    obtain rfl := InMemory.credential_eq_of_given (List.forall_mem_singleton.mp hcredential)
    obtain rfl := Except.ok.inj ((InMemory.base_detailsFor order).symm.trans hbase)
    rw [InMemory.ofCredential_detailsFor] at hresult
    cases hresult
  | provisioned | deprovisioned | alreadyGone | updated | unbound | polled => cases hresult

/-- Updates and polls ask for nothing. -/
theorem eq_nil (h : Bridges b call calls result)
    (hverb : call.verb = .update ∨ call.verb = .lastOperation) : calls = [] := by
  cases h with
  | updated | polled | invalid => rfl
  | _ => rcases hverb with hverb | hverb <;> cases hverb

end Broker.Bridges

namespace Server

variable {ι : Type} {s : Server} {r : Http.Request} {call : Broker.Call}
  {trace : List (Event effects)} {response : Http.Response}

/-! ### Requests that change nothing -/

/-- The request was not carried out, or it does not ask for a change. -/
def IsIdle (r : Http.Request) (response : Http.Response) : Prop :=
  400 ≤ response.status ∨ r.method ∈ ["GET", "HEAD", "PATCH"]

/-- The operation of the executor that an event is. -/
def operation? : Event effects → Option (Event Executor.effects)
  | ⟨.step request, reply⟩ => Broker.operation? ⟨request, reply⟩
  | ⟨.validate _, _⟩ | ⟨.record .., _⟩ | ⟨.readMetrics, _⟩ => none

theorem isBroker_of_operation? {event : Event effects} {operation : Event Executor.effects}
    (h : operation? event = some operation) : event.request.IsBroker := by
  obtain ⟨need, reply⟩ := event
  cases need with
  | step request => trivial
  | validate | record | readMetrics => cases h

theorem status_respond_lt (call : Broker.Call) (answer : Broker.Answer) :
    (respond call answer).status < 400 := by
  cases answer with
  | accepted isAsync =>
    simp only [respond, operationAnswer, emptyAnswer, Http.Response.json]
    split_ifs <;> decide
  | connection c =>
    have hstatus : (respond call (.connection c)).status = 201 := rfl
    omega
  | done =>
    have hstatus : (respond call .done).status = 200 := rfl
    omega

theorem status_sent (r : Http.Request) (response : Http.Response) :
    (sent r response).status = response.status := by
  unfold sent
  split <;> rfl

/-- A request that only reads or updates asks for nothing but an update or a poll. -/
theorem Asks.verb_eq (h : s.Asks r call) (hmethod : r.method ∈ ["GET", "HEAD", "PATCH"]) :
    call.verb = .update ∨ call.verb = .lastOperation := by
  obtain ⟨route, endpoint, -, hendpoint, hreads⟩ := h
  cases hreads with
  | update => exact .inl rfl
  | lastOperation => exact .inr rfl
  | provision | deprovision | bind | unbind =>
    -- These endpoints answer to `PUT` and `DELETE` only.
    exfalso
    have hcases : r.method = "GET" ∨ r.method = "HEAD" ∨ r.method = "PATCH" := by simpa using hmethod
    rcases hcases with hm | hm | hm <;> rw [hm] at hendpoint <;>
      cases route <;> simp [Route.endpoint?, Route.isReading] at hendpoint

/-- The operations of a request whose call is carried out are those of the call. -/
theorem Carries.operation?_iff {steps : List (Event Broker.effects)}
    {result : Except Failure Broker.Answer} (h : Carries s r call steps result trace response)
    {operation : Event Executor.effects} :
    (∃ event ∈ trace, operation? event = some operation) ↔ operation ∈ Broker.made steps := by
  obtain ⟨checked, caller, hchecked, rfl⟩ := h.admitted
  rw [Broker.made, List.mem_filterMap]
  constructor
  · rintro ⟨event, hevent, hoperation⟩
    rcases List.mem_append.mp hevent with hevent | hevent
    · exact absurd (isBroker_of_operation? hoperation)
        (isAside_authenticate _ _ hchecked event hevent)
    · rcases List.mem_append.mp hevent with hevent | hevent
      · obtain ⟨step, hstep, rfl⟩ := List.mem_map.mp hevent
        exact ⟨step, hstep, hoperation⟩
      · obtain rfl := List.mem_singleton.mp hevent
        cases hoperation
  · rintro ⟨step, hstep, hoperation⟩
    have hevent : taken step ∈ steps.map taken := List.mem_map_of_mem hstep
    exact ⟨taken step, by simp [hevent], hoperation⟩

/-- No step of an idle request changes the tables, whatever happens between its steps. -/
theorem leaves_of_run (hrun : Run (s.answer r) trace response)
    (hgiven : ∀ event ∈ trace, ∀ operation ∈ operation? event, InMemory.Given operation)
    (hidle : IsIdle r response) :
    ∀ event ∈ trace, ∀ operation ∈ operation? event, InMemory.Leaves operation := by
  intro event hevent operation hoperation
  rcases run_answer_cases hrun with haside | ⟨call, steps, result, hcarries⟩
  · exact absurd (isBroker_of_operation? hoperation) (haside event hevent)
  · have hmade : operation ∈ Broker.made steps :=
      hcarries.operation?_iff.mp ⟨event, hevent, hoperation⟩
    -- All that the executor was asked is what the call bridges to.
    have hbridges : Broker.Bridges s.broker call (Broker.made steps) result :=
      Broker.run_operations_perform_iff.mp (Broker.run_operations_iff.mpr ⟨steps, hcarries.run, rfl⟩)
    rcases hidle with hstatus | hmethod
    · cases result with
      | ok answer =>
        rw [hcarries.response_eq, status_sent] at hstatus
        exact absurd hstatus (Nat.not_le_of_lt (status_respond_lt call answer))
      | error failure =>
        refine hbridges.leaves (fun operation hmade => ?_) operation hmade
        obtain ⟨event, hevent, hoperation⟩ := hcarries.operation?_iff.mpr hmade
        exact hgiven event hevent operation hoperation
    · rw [hbridges.eq_nil (hcarries.asks.verb_eq hmethod)] at hmade
      cases hmade

/-! ### Requests that overlap -/

variable {σ : Type} {e : Executor σ} {validate : String → Except Failure String}

/-- `Turns e state log state'`: from `state` on the needs of requests can be met as in `log`, and this
leads to `state'`. Tokens may be judged otherwise each time. -/
inductive Turns (e : Executor σ) : State σ → List (ι × Event effects) → State σ → Prop where
  | nil (state : State σ) : Turns e state [] state
  | cons (n : ι) (validate : String → Except Failure String) (need : Need) {state state' : State σ}
      {log : List (ι × Event effects)} :
      Turns e (sequential e validate need state).2 log state' →
      Turns e state ((n, ⟨need, (sequential e validate need state).1⟩) :: log) state'

/-- Requests, each with a number, can overlap in such a way that `log` comes about, and a server over
empty tables is led to this state. The lock is left out, so verbs may take turns in more ways than
it would let them. -/
structure Serving (s : Server) (requests : Nat → Http.Request) (log : List (Nat × Event effects))
    (state : State InMemory) : Prop where
  reaches (n : Nat) : ∃ q, Reaches (s.answer (requests n)) (eventsOf n log) q
  turns : Turns InMemory.executor (.start .empty) log state

theorem Turns.append {state mid state' : State σ} {log more : List (ι × Event effects)}
    (h : Turns e state log mid) (hmore : Turns e mid more state') :
    Turns e state (log ++ more) state' := by
  induction h with
  | nil state => exact hmore
  | cons n validate need _ ih => exact .cons n validate need (ih hmore)

/-- A request that is served alone takes all turns. -/
theorem turns_of_served {state state' : State σ}
    (h : Served (sequential e validate) state trace state') (n : ι) :
    Turns e state (trace.map (n, ·)) state' := by
  induction h with
  | nil state => exact .nil state
  | cons need _ ih => exact .cons n validate need ih

variable {need : Need} {state state' : State InMemory} {log : List (ι × Event effects)}
  {operation : Event Executor.effects}

/-- Where an operation of the executor is needed, the tables are those that it leads to. -/
theorem executor_of_operation?
    (h : operation? ⟨need, (sequential InMemory.executor validate need state).1⟩ = some operation) :
    (InMemory.perform operation.request state.executor).1 = operation.reply ∧
      (sequential InMemory.executor validate need state).2.executor =
        (InMemory.perform operation.request state.executor).2 := by
  cases need with
  | step request =>
    cases request with
    | execute op =>
      obtain rfl := Option.some.inj h
      exact ⟨rfl, rfl⟩
    | acquire | release => cases h
  | validate | record | readMetrics => cases h

/-- Where none is needed, the tables stay. -/
theorem executor_of_operation?_eq_none
    (h : operation? ⟨need, (sequential InMemory.executor validate need state).1⟩ = none) :
    (sequential InMemory.executor validate need state).2.executor = state.executor := by
  cases need with
  | step request =>
    cases request with
    | execute op => cases h
    | acquire | release => rfl
  | validate | record | readMetrics => rfl

/-- While requests overlap the tables stay in order, and so give all answers. -/
theorem Turns.valid (h : Turns InMemory.executor state log state') (hvalid : state.executor.Valid) :
    state'.executor.Valid ∧
      ∀ entry ∈ log, ∀ operation ∈ operation? entry.2, InMemory.Given operation := by
  -- Every turn finds tables in order, by those before it, and leaves them so.
  induction h with
  | nil state => exact ⟨hvalid, nofun⟩
  | @cons n validate need state state' log _ ih =>
    cases hoperation :
        operation? ⟨need, (sequential InMemory.executor validate need state).1⟩ with
    | none =>
      obtain ⟨hvalid', hgiven⟩ := ih (executor_of_operation?_eq_none hoperation ▸ hvalid)
      refine ⟨hvalid', List.forall_mem_cons.mpr ⟨?_, hgiven⟩⟩
      rw [hoperation]
      exact nofun
    | some operation =>
      obtain ⟨hreply, hafter⟩ := executor_of_operation? hoperation
      obtain ⟨hvalid', hgiven⟩ := ih (hafter ▸ hvalid.perform operation.request)
      refine ⟨hvalid', List.forall_mem_cons.mpr ⟨?_, hgiven⟩⟩
      rw [hoperation]
      intro found hfound
      obtain rfl := Option.some.inj hfound
      exact ⟨state.executor, hvalid, hreply⟩

/-- Operations that leave the tables as they are do so one after the other. -/
theorem Turns.executor_eq (h : Turns InMemory.executor state log state')
    (hleaves : ∀ entry ∈ log, ∀ operation ∈ operation? entry.2, InMemory.Leaves operation) :
    state'.executor = state.executor := by
  induction h with
  | nil state => rfl
  | @cons n validate need state state' log _ ih =>
    obtain ⟨hfirst, hrest⟩ := List.forall_mem_cons.mp hleaves
    rw [ih hrest]
    cases hoperation :
        operation? ⟨need, (sequential InMemory.executor validate need state).1⟩ with
    | none => exact executor_of_operation?_eq_none hoperation
    | some operation =>
      obtain ⟨hreply, hafter⟩ := executor_of_operation? hoperation
      rw [hafter]
      exact hfirst operation hoperation state.executor hreply

/-- A request that is served next, and alone, is one more of those that overlap. -/
theorem Serving.serve {requests : Nat → Http.Request} {log : List (Nat × Event effects)}
    (h : Serving s requests log state) {n : Nat} (hn : eventsOf n log = [])
    (validate : String → Except Failure String) :
    Serving s requests
      (log ++ ((s.answer (requests n)).events (sequential InMemory.executor validate) state).map (n, ·))
      (s.serve InMemory.executor validate (requests n) state).2 := by
  obtain ⟨trace, hrun, hserved⟩ :=
    exists_run_of_serve s (requests n) InMemory.executor validate state
  have hevents := events_eq_iff.mpr ⟨_, _, hrun, hserved⟩
  rw [hevents]
  refine ⟨fun m => ?_, h.turns.append (turns_of_served hserved n)⟩
  rw [eventsOf_append]
  -- The others have not moved, and the one that is served is done.
  by_cases hm : n = m
  · subst hm
    rw [hn, eventsOf_map_self]
    exact ⟨_, run_iff_reaches_done.mp hrun⟩
  · rw [eventsOf_map_of_ne hm, List.append_nil]
    exact h.reaches m

/-- Whatever the policy is, and however requests have overlapped so far, a request that is answered
with a status of 400 or above, and one by `GET`, `HEAD` or `PATCH`, finds the same tables before and
after it. While other requests are under way, it is still none of its turns that changes them, whatever the
tables are by then. -/
theorem failed_requests_change_nothing {requests : Nat → Http.Request}
    {log : List (Nat × Event effects)} (h : Serving s requests log state) :
    (∀ validate r, IsIdle r (s.serve InMemory.executor validate r state).1 →
      (s.serve InMemory.executor validate r state).2.executor = state.executor) ∧
    ∀ n response, Run (s.answer (requests n)) (eventsOf n log) response →
      IsIdle (requests n) response → ∀ event ∈ eventsOf n log, ∀ before after,
        Turns InMemory.executor before [(n, event)] after → after.executor = before.executor := by
  obtain ⟨hvalid, hgiven⟩ := h.turns.valid InMemory.valid_empty
  constructor
  · intro validate r hidle
    obtain ⟨trace, hrun, hserved⟩ := exists_run_of_serve s r InMemory.executor validate state
    have hturns := turns_of_served hserved 0
    have hgiven' := (hturns.valid hvalid).2
    refine hturns.executor_eq (List.forall_mem_map.mpr ?_)
    exact leaves_of_run hrun (List.forall_mem_map.mp hgiven') hidle
  · intro n response hrun hidle event hevent before after hturn
    have hgiven' : ∀ event ∈ eventsOf n log, ∀ operation ∈ operation? event,
        InMemory.Given operation := fun event hevent => hgiven _ (mem_of_mem_eventsOf hevent)
    exact hturn.executor_eq
      (List.forall_mem_singleton.mpr (leaves_of_run hrun hgiven' hidle event hevent))

namespace Trial

/-- A server that anyone may call. -/
def server : Server := ⟨⟨"svc", false⟩, .anyone, "mock", false⟩

/-- A request on an instance or one of its bindings. -/
def request (method path body : String) : Http.Request where
  method
  target := .ofText path.toList
  headers := []
  body := Utf8.bytes body

/-- An instance is created and bound; then it is to be deleted. -/
def requests : Nat → Http.Request
  | 0 => request "PUT" "/v2/service_instances/i" <|
    "\x7b\"service_id\":\"s\",\"plan_id\":\"p\",\"parameters\":" ++
      "\x7b\"CLUSTERNAME\":\"c\",\"NAMESPACE\":\"n\"\x7d\x7d"
  | 1 => request "PUT" "/v2/service_instances/i/service_bindings/b"
    "\x7b\"service_id\":\"s\",\"plan_id\":\"p\"\x7d"
  | _ => request "DELETE" "/v2/service_instances/i" ""

/-- The state in which the deletion is asked for. -/
def bound : State InMemory :=
  (server.serve InMemory.executor .ok (requests 1)
    (server.serve InMemory.executor .ok (requests 0) (.start .empty)).2).2

end Trial

/-- An instance that has a binding is not deleted, and all stays as it is. -/
theorem failed_requests_change_nothing_bound :
    (Trial.server.serve InMemory.executor .ok (Trial.requests 2) Trial.bound).1.status = 500 ∧
      (Trial.server.serve InMemory.executor .ok (Trial.requests 2) Trial.bound).2.executor =
        Trial.bound.executor := by
  have hstart : Serving Trial.server Trial.requests [] (.start .empty) :=
    ⟨fun n => ⟨_, .refl _⟩, .nil _⟩
  have hcreated := hstart.serve (n := 0) rfl .ok
  have hbound := hcreated.serve (n := 1) (eventsOf_map_of_ne Nat.zero_ne_one _) .ok
  have hstatus : (Trial.server.serve InMemory.executor .ok (Trial.requests 2)
      Trial.bound).1.status = 500 := by decide +kernel
  have hidle : IsIdle (Trial.requests 2)
      (Trial.server.serve InMemory.executor .ok (Trial.requests 2) Trial.bound).1 :=
    .inl (by rw [hstatus]; decide)
  exact ⟨hstatus, (failed_requests_change_nothing hbound).1 .ok (Trial.requests 2) hidle⟩

end Server

end ServiceBroker
