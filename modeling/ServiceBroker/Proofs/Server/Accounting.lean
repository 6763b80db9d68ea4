import Mathlib.Algebra.BigOperators.Group.Finset.Piecewise
import ServiceBroker.Http.Status
import ServiceBroker.Proofs.Server.Requests

/-!
# Every verb is counted once

The outcome of a verb is counted where the verb is carried out, and the answer to the request is made
from the same outcome, so the counters can be told from the outside: they say how many requests have
reached each verb, and what the answers to these have reported. Requests that do not reach a verb
leave no trace.

## Main definitions

* `Server.Visit`: a request, and how tokens are judged when it comes
* `Server.verb?`: the verb that a request reaches
* `Server.reported?`: the outcome that an answer reports
* `Server.serveAll`: requests that come one after the other

## Main results

* `Metrics.total_record`, `Metrics.observed_record`, `Metrics.IsBalanced.record`: what is counted
* `Server.call?_eq_some_iff`: the call of a request can be computed
* `Server.serve_of_verb?`, `Server.serve_of_verb?_eq_none`: what one request changes
* `Server.verbs_are_counted_once`: the counters after any number of requests
-/

namespace ServiceBroker

/-! ### Counters -/

namespace Metrics

variable {m : Metrics}

theorem total_record (m : Metrics) (verb v : Broker.Verb) (outcome o : String) :
    (m.record verb outcome).total v o =
      m.total v o + if v = verb ∧ o = outcome then 1 else 0 := by
  unfold record total
  dsimp only
  rw [Table.find?_put]
  by_cases h : (v, o) = (verb, outcome)
  · obtain ⟨rfl, rfl⟩ := Prod.mk.inj h
    rw [if_pos rfl, if_pos ⟨rfl, rfl⟩, Option.getD_some]
  · rw [if_neg h, if_neg fun hboth => h (by rw [hboth.1, hboth.2]), Nat.add_zero]

theorem observed_record (m : Metrics) (verb v : Broker.Verb) (outcome : String) :
    (m.record verb outcome).observed v = m.observed v + if v = verb then 1 else 0 := by
  unfold record observed
  dsimp only
  rw [Table.find?_put]
  by_cases h : v = verb
  · subst h
    rw [if_pos rfl, if_pos rfl, Option.getD_some]
  · rw [if_neg h, if_neg h, Nat.add_zero]

/-- As many durations of the verb were observed as outcomes were counted. -/
def IsBalanced (m : Metrics) (verb : Broker.Verb) : Prop :=
  ∃ outcomes : Finset String, (∀ outcome, outcome ∉ outcomes → m.total verb outcome = 0) ∧
    m.observed verb = ∑ outcome ∈ outcomes, m.total verb outcome

theorem isBalanced_zero (verb : Broker.Verb) : zero.IsBalanced verb :=
  ⟨∅, fun _ _ => rfl, rfl⟩

theorem IsBalanced.record {verb : Broker.Verb} (h : m.IsBalanced verb) (v : Broker.Verb)
    (outcome : String) : (m.record v outcome).IsBalanced verb := by
  obtain ⟨outcomes, hzero, hsum⟩ := h
  refine ⟨insert outcome outcomes, fun o ho => ?_, ?_⟩
  · rw [Finset.mem_insert, not_or] at ho
    rw [total_record, hzero o ho.2, if_neg fun hboth => ho.1 hboth.2]
  · -- An outcome that is counted for the first time has not counted before.
    have hbefore : ∑ o ∈ insert outcome outcomes, m.total verb o = m.observed verb := by
      rw [hsum]
      refine (Finset.sum_subset (Finset.subset_insert ..) fun o _ ho => hzero o ho).symm
    simp only [total_record, Finset.sum_add_distrib, hbefore, observed_record]
    by_cases hv : verb = v
    · simp [hv]
    · simp [hv]

end Metrics

namespace Server

open Program

variable {s : Server} {r : Http.Request} {endpoint : Endpoint} {call : Broker.Call}
  {verb : Broker.Verb} {trace : List (Event effects)} {response : Http.Response} {σ : Type}
  {e : Executor σ} {validate : String → Except Failure String} {state state' : State σ}

/-! ### The verb that a request reaches -/

/-- The call that a request spells at an endpoint. -/
def call? (r : Http.Request) : Endpoint → Option Broker.Call
  | .provision segment => do
    let id ← (readId "instance_id" segment).toOption
    let incomplete ← (acceptsIncomplete r.target.query).toOption
    let body ← (readBody ProvisionRequest.reader r).toOption
    return .provision id body incomplete
  | .update segment => do
    let id ← (readId "instance_id" segment).toOption
    let incomplete ← (acceptsIncomplete r.target.query).toOption
    let body ← (readBody UpdateRequest.reader r).toOption
    return .update id body incomplete
  | .deprovision segment => do
    let id ← (readId "instance_id" segment).toOption
    let incomplete ← (acceptsIncomplete r.target.query).toOption
    return .deprovision id incomplete
  | .lastOperation segment => do
    let id ← (readId "instance_id" segment).toOption
    return .lastOperation id
  | .bind segment bindingSegment => do
    let id ← (readId "instance_id" segment).toOption
    let bindingId ← (readId "binding_id" bindingSegment).toOption
    let body ← (readBody BindRequest.reader r).toOption
    return .bind id bindingId body
  | .unbind segment bindingSegment => do
    let id ← (readId "instance_id" segment).toOption
    let bindingId ← (readId "binding_id" bindingSegment).toOption
    return .unbind id bindingId
  | .catalog | .health | .metrics => none

/-- This is the call that the request reads as. -/
theorem call?_eq_some_iff : call? r endpoint = some call ↔ Reads r endpoint call := by
  constructor
  · intro h
    cases endpoint with
    | catalog | health | metrics => cases h
    | provision segment =>
      simp only [call?, Option.bind_eq_bind, Option.bind_eq_some_iff, toOption_eq_some_iff] at h
      obtain ⟨id, hid, incomplete, hincomplete, body, hbody, hcall⟩ := h
      cases hcall
      exact .provision hid hincomplete hbody
    | update segment =>
      simp only [call?, Option.bind_eq_bind, Option.bind_eq_some_iff, toOption_eq_some_iff] at h
      obtain ⟨id, hid, incomplete, hincomplete, body, hbody, hcall⟩ := h
      cases hcall
      exact .update hid hincomplete hbody
    | deprovision segment =>
      simp only [call?, Option.bind_eq_bind, Option.bind_eq_some_iff, toOption_eq_some_iff] at h
      obtain ⟨id, hid, incomplete, hincomplete, hcall⟩ := h
      cases hcall
      exact .deprovision hid hincomplete
    | lastOperation segment =>
      simp only [call?, Option.bind_eq_bind, Option.bind_eq_some_iff, toOption_eq_some_iff] at h
      obtain ⟨id, hid, hcall⟩ := h
      cases hcall
      exact .lastOperation hid
    | bind segment bindingSegment =>
      simp only [call?, Option.bind_eq_bind, Option.bind_eq_some_iff, toOption_eq_some_iff] at h
      obtain ⟨id, hid, bindingId, hbindingId, body, hbody, hcall⟩ := h
      cases hcall
      exact .bind hid hbindingId hbody
    | unbind segment bindingSegment =>
      simp only [call?, Option.bind_eq_bind, Option.bind_eq_some_iff, toOption_eq_some_iff] at h
      obtain ⟨id, hid, bindingId, hbindingId, hcall⟩ := h
      cases hcall
      exact .unbind hid hbindingId
  · intro h
    cases h with
    | provision hid hincomplete hbody => rw [call?, hid, hincomplete, hbody]; rfl
    | update hid hincomplete hbody => rw [call?, hid, hincomplete, hbody]; rfl
    | deprovision hid hincomplete => rw [call?, hid, hincomplete]; rfl
    | lastOperation hid => rw [call?, hid]; rfl
    | bind hid hbindingId hbody => rw [call?, hid, hbindingId, hbody]; rfl
    | unbind hid hbindingId => rw [call?, hid, hbindingId]; rfl

/-- A request of a sequence, and how tokens are judged when it comes. -/
structure Visit where
  validate : String → Except Failure String
  request : Http.Request

variable {visit : Visit} {visits : List Visit}

/-- The verb that a request reaches: its caller is admitted, its path has a route, this has an
endpoint for its method, and its IDs, its query and its body spell a call there. -/
def verb? (s : Server) (visit : Visit) : Option Broker.Verb :=
  match s.policy.verdict visit.validate (credentials? visit.request) with
  | .admitted _ => do
    let route ← s.route? visit.request
    let endpoint ← route.endpoint? visit.request.method
    let call ← call? visit.request endpoint
    return call.verb
  | .refused _ | .crashed => none

theorem verb?_eq_some_iff :
    s.verb? visit = some verb ↔
      (∃ caller, s.policy.verdict visit.validate (credentials? visit.request) = .admitted caller) ∧
        ∃ call, s.Asks visit.request call ∧ call.verb = verb := by
  unfold verb?
  constructor
  · intro h
    split at h
    · next caller hverdict =>
      simp only [Option.bind_eq_bind, Option.bind_eq_some_iff, call?_eq_some_iff] at h
      obtain ⟨route, hroute, endpoint, hendpoint, call, hreads, hverb⟩ := h
      exact ⟨⟨caller, hverdict⟩, call, ⟨route, endpoint, hroute, hendpoint, hreads⟩,
        Option.some.inj hverb⟩
    · cases h
    · cases h
  · rintro ⟨⟨caller, hverdict⟩, call, ⟨route, endpoint, hroute, hendpoint, hreads⟩, rfl⟩
    rw [hverdict, hroute]
    dsimp only [Option.bind_eq_bind, Option.bind_some]
    rw [hendpoint, Option.bind_some, call?_eq_some_iff.mpr hreads]
    rfl

/-! ### What an answer reports -/

/-- The outcome that an answer reports: that it is a success, or else the error that its body names.
-/
def reported? (response : Http.Response) : Option String :=
  if Http.isSuccess response.status then some "success"
  else
    match response.body with
    | .json body => (body.get? "error").bind Json.asString?
    | .empty | .text _ | .lines _ => none

theorem isSuccess_respond (call : Broker.Call) (answer : Broker.Answer) :
    Http.isSuccess (respond call answer).status := by
  cases answer with
  | accepted isAsync =>
    simp only [respond, operationAnswer, emptyAnswer, Http.Response.json]
    split_ifs <;> rfl
  | connection c => rfl
  | done => rfl

theorem isSuccess_status (failure : Failure) : Http.isSuccess failure.status = false := by
  cases failure with
  | executor cause => cases cause <;> rfl
  | missingParameter | badRequest | unauthorized | internal => rfl

/-- The body of an answer to a request that failed names the failure. -/
theorem get?_body (failure : Failure) :
    failure.body.get? "error" = some (.string failure.code) := by
  change Json.Members.find? (Json.Members.ofList _) "error" = _
  simp [Json.Members.ofList, Json.Members.find?_insert]

theorem reported?_refusal (failure : Failure) : reported? (refusal failure) = some failure.code := by
  have hstatus : Http.isSuccess (refusal failure).status = false := isSuccess_status failure
  have hbody : (refusal failure).body = .json failure.body := rfl
  rw [reported?, hstatus, if_neg Bool.false_ne_true, hbody]
  dsimp only
  rw [get?_body]
  rfl

theorem reported?_conclude (call : Broker.Call) (result : Except Failure Broker.Answer) :
    reported? (conclude call result) = some (Metrics.outcome result) := by
  cases result with
  | ok answer => exact if_pos (isSuccess_respond call answer)
  | error failure => exact reported?_refusal failure

/-- Nothing but the last operation can be asked for without a body, and asking for that never fails.
-/
theorem Asks.exists_ok_of_head (h : s.Asks r call) (hmethod : r.method = "HEAD")
    {steps : List (Event Broker.effects)} {result : Except Failure Broker.Answer}
    (hrun : Run (s.broker.perform call) steps result) : ∃ answer, result = .ok answer := by
  obtain ⟨route, endpoint, -, hendpoint, hreads⟩ := h
  rw [hmethod] at hendpoint
  cases hreads with
  | lastOperation hid => exact ⟨_, (run_done_iff.mp hrun).2⟩
  | provision | update | deprovision | bind | unbind =>
    cases route <;> simp [Route.endpoint?, Route.isReading] at hendpoint

/-- The answer to a call reports the outcome under which the call is counted, also when it is sent
without its body. -/
theorem reported?_sent (h : s.Asks r call) {steps : List (Event Broker.effects)}
    {result : Except Failure Broker.Answer} (hrun : Run (s.broker.perform call) steps result) :
    reported? (sent r (conclude call result)) = some (Metrics.outcome result) := by
  unfold sent
  split
  · next hmethod =>
    obtain ⟨answer, rfl⟩ := h.exists_ok_of_head hmethod hrun
    exact if_pos (isSuccess_respond call answer)
  · exact reported?_conclude call result

/-! ### What one request changes -/

/-- The steps of a verb leave the counters as they are. -/
theorem metrics_of_served_taken {steps : List (Event Broker.effects)}
    (h : Served (sequential e validate) state (steps.map taken) state') :
    state'.metrics = state.metrics := by
  induction steps generalizing state with
  | nil => rw [served_nil_iff.mp h]
  | cons step steps ih =>
    have hrest := ih (served_cons_iff.mp h).2
    exact hrest

/-- A request that reaches a verb has it counted once, with the outcome that its answer reports. -/
theorem serve_of_verb? (h : s.verb? visit = some verb) (e : Executor σ) (state : State σ) :
    ∃ outcome, reported? (s.serve e visit.validate visit.request state).1 = some outcome ∧
      (s.serve e visit.validate visit.request state).2.metrics =
        state.metrics.record verb outcome := by
  obtain ⟨⟨caller, hverdict⟩, call, hasks, rfl⟩ := verb?_eq_some_iff.mp h
  obtain ⟨trace, hrun, hserved⟩ := exists_run_of_serve s visit.request e visit.validate state
  obtain ⟨route, endpoint, hroute, hendpoint, hreads⟩ := id hasks
  rw [answer_eq_bind hroute hendpoint (isGuarded_of_reads hendpoint hreads)] at hrun
  obtain ⟨checked, v, rest, rfl, hchecked, hrest⟩ := run_bind_iff.mp hrun
  obtain ⟨mid, hserved, hservedRest⟩ := served_append_iff.mp hserved
  obtain ⟨rfl, rfl⟩ := eq_verdict_of_served hchecked hserved
  rw [hverdict] at hrest
  obtain ⟨response, hat, hresponse⟩ := run_bind_done_iff.mp hrest
  obtain ⟨steps, result, hperform, rfl, rfl⟩ := (run_answerAt_iff hreads).mp hat
  refine ⟨Metrics.outcome result, by rw [hresponse, reported?_sent hasks hperform], ?_⟩
  obtain ⟨before, htaken, hcounted⟩ := served_append_iff.mp hservedRest
  rw [← metrics_of_served_taken htaken]
  rw [served_nil_iff.mp (served_cons_iff.mp hcounted).2]
  rfl

/-- A request that reaches no verb changes nothing. -/
theorem serve_of_verb?_eq_none (h : s.verb? visit = none) (e : Executor σ) (state : State σ) :
    (s.serve e visit.validate visit.request state).2 = state := by
  obtain ⟨trace, hrun, hserved⟩ := exists_run_of_serve s visit.request e visit.validate state
  rcases run_answer_cases hrun with haside | ⟨call, steps, result, hcarries⟩
  · exact eq_of_served hserved haside
  · -- The request would reach the verb of the call that it has carried out.
    obtain ⟨checked, caller, hchecked, rfl⟩ := hcarries.admitted
    obtain ⟨mid, hserved, -⟩ := served_append_iff.mp hserved
    have hverb := verb?_eq_some_iff.mpr
      ⟨⟨caller, (eq_verdict_of_served hchecked hserved).1.symm⟩, call, hcarries.asks, rfl⟩
    rw [h] at hverb
    cases hverb

/-! ### Requests that come one after the other -/

/-- Requests that come one after the other, with the answer to each, and the state that they lead to.
-/
def serveAll (s : Server) (e : Executor σ) :
    List Visit → State σ → List (Visit × Http.Response) × State σ
  | [], state => ([], state)
  | visit :: visits, state =>
    let served := s.serve e visit.validate visit.request state
    let rest := serveAll s e visits served.2
    ((visit, served.1) :: rest.1, rest.2)

theorem serveAll_cons (s : Server) (e : Executor σ) (visit : Visit) (visits : List Visit)
    (state : State σ) :
    s.serveAll e (visit :: visits) state =
      ((visit, (s.serve e visit.validate visit.request state).1) ::
        (s.serveAll e visits (s.serve e visit.validate visit.request state).2).1,
      (s.serveAll e visits (s.serve e visit.validate visit.request state).2).2) := rfl

/-- The request has reached the verb, and this has ended with the outcome. -/
def EndedWith (s : Server) (verb : Broker.Verb) (outcome : String)
    (answered : Visit × Http.Response) : Prop :=
  s.verb? answered.1 = some verb ∧ reported? answered.2 = some outcome

instance (s : Server) (verb : Broker.Verb) (outcome : String) :
    DecidablePred (s.EndedWith verb outcome) :=
  fun _ => inferInstanceAs (Decidable (_ ∧ _))

/-- One request adds one to the counter of its verb and its outcome, if it has reached a verb. -/
theorem total_serve (s : Server) (e : Executor σ) (visit : Visit) (state : State σ)
    (verb : Broker.Verb) (outcome : String) :
    (s.serve e visit.validate visit.request state).2.metrics.total verb outcome =
      state.metrics.total verb outcome +
        if s.EndedWith verb outcome (visit, (s.serve e visit.validate visit.request state).1)
        then 1 else 0 := by
  rcases (s.verb? visit).eq_none_or_eq_some with hverb | ⟨v, hverb⟩
  · have hnot : ¬ s.EndedWith verb outcome
        (visit, (s.serve e visit.validate visit.request state).1) := by
      rintro ⟨hreached, -⟩
      exact nomatch hverb.symm.trans hreached
    rw [serve_of_verb?_eq_none hverb, if_neg hnot, Nat.add_zero]
  · obtain ⟨o, hreported, hmetrics⟩ := serve_of_verb? hverb e state
    have hiff : s.EndedWith verb outcome
        (visit, (s.serve e visit.validate visit.request state).1) ↔ verb = v ∧ outcome = o := by
      unfold EndedWith
      rw [hverb, hreported]
      simp only [Option.some.injEq, eq_comm]
    rw [hmetrics, Metrics.total_record]
    exact congrArg (_ + ·) (if_congr hiff.symm rfl rfl)

/-- It adds one to the observations of its verb. -/
theorem observed_serve (s : Server) (e : Executor σ) (visit : Visit) (state : State σ)
    (verb : Broker.Verb) :
    (s.serve e visit.validate visit.request state).2.metrics.observed verb =
      state.metrics.observed verb + if s.verb? visit = some verb then 1 else 0 := by
  cases hverb : s.verb? visit with
  | none => rw [serve_of_verb?_eq_none hverb, if_neg nofun, Nat.add_zero]
  | some v =>
    obtain ⟨o, -, hmetrics⟩ := serve_of_verb? hverb e state
    rw [hmetrics, Metrics.observed_record]
    simp only [Option.some.injEq, eq_comm]

theorem total_serveAll (s : Server) (e : Executor σ) (visits : List Visit) (state : State σ)
    (verb : Broker.Verb) (outcome : String) :
    (s.serveAll e visits state).2.metrics.total verb outcome =
      state.metrics.total verb outcome +
        (s.serveAll e visits state).1.countP (s.EndedWith verb outcome ·) := by
  induction visits generalizing state with
  | nil => rfl
  | cons visit visits ih =>
    rw [serveAll_cons, List.countP_cons, ih, total_serve]
    simp only [decide_eq_true_eq]
    omega

theorem observed_serveAll (s : Server) (e : Executor σ) (visits : List Visit) (state : State σ)
    (verb : Broker.Verb) :
    (s.serveAll e visits state).2.metrics.observed verb =
      state.metrics.observed verb + visits.countP (s.verb? · = some verb) := by
  induction visits generalizing state with
  | nil => rfl
  | cons visit visits ih =>
    rw [serveAll_cons, List.countP_cons, ih, observed_serve]
    simp only [decide_eq_true_eq]
    omega

theorem isBalanced_serveAll (s : Server) (e : Executor σ) (visits : List Visit) {state : State σ}
    (h : state.metrics.IsBalanced verb) :
    (s.serveAll e visits state).2.metrics.IsBalanced verb := by
  induction visits generalizing state with
  | nil => exact h
  | cons visit visits ih =>
    rw [serveAll_cons]
    refine ih ?_
    cases hverb : s.verb? visit with
    | none => rwa [serve_of_verb?_eq_none hverb]
    | some v =>
      obtain ⟨outcome, -, hmetrics⟩ := serve_of_verb? hverb e state
      rw [hmetrics]
      exact h.record v outcome

/-- Requests without a route, and those for the catalog, the health or the metrics of the server,
reach no verb. -/
theorem verb?_eq_none
    (h : s.route? visit.request ∈ [none, some .catalog, some .health, some .metrics]) :
    s.verb? visit = none := by
  refine Option.eq_none_iff_forall_ne_some.mpr fun verb hverb => ?_
  obtain ⟨-, call, ⟨route, endpoint, hroute, hendpoint, hreads⟩, -⟩ := verb?_eq_some_iff.mp hverb
  rw [hroute] at h
  obtain rfl | rfl | rfl : route = .catalog ∨ route = .health ∨ route = .metrics := by simpa using h
  · obtain ⟨-, rfl⟩ : Route.isReading visit.request.method ∧ Endpoint.catalog = endpoint := by
      simpa [Route.endpoint?] using hendpoint
    cases hreads
  · cases isGuarded_of_reads hendpoint hreads
  · cases isGuarded_of_reads hendpoint hreads

/-- Whatever the executor and the policy, after any number of requests each counter says how many of
them have reached its verb and have ended with its outcome, as their answers report it. As many
durations of a verb were observed as requests have reached it, and as its outcomes were counted. A
request reaches a verb if its caller is admitted and it spells a call of that verb. All others change
nothing, and among them are those for the catalog, the health and the metrics. -/
theorem verbs_are_counted_once (s : Server) (e : Executor σ) (executor : σ)
    (visits : List Visit) :
    (∀ verb outcome,
      (s.serveAll e visits (.start executor)).2.metrics.total verb outcome =
        (s.serveAll e visits (.start executor)).1.countP (s.EndedWith verb outcome ·)) ∧
    (∀ verb,
      (s.serveAll e visits (.start executor)).2.metrics.observed verb =
        visits.countP (s.verb? · = some verb) ∧
      (s.serveAll e visits (.start executor)).2.metrics.IsBalanced verb) ∧
    (∀ visit verb, s.verb? visit = some verb ↔
      (∃ caller,
        s.policy.verdict visit.validate (credentials? visit.request) = .admitted caller) ∧
      ∃ call, s.Asks visit.request call ∧ call.verb = verb) ∧
    (∀ visit verb, s.verb? visit = some verb → ∀ state, ∃ outcome,
      reported? (s.serve e visit.validate visit.request state).1 = some outcome) ∧
    (∀ visit, s.verb? visit = none → ∀ state,
      (s.serve e visit.validate visit.request state).2 = state) ∧
    ∀ visit, s.route? visit.request ∈ [none, some .catalog, some .health, some .metrics] →
      s.verb? visit = none := by
  refine ⟨fun verb outcome => ?_, fun verb => ⟨?_, ?_⟩, fun _ _ => verb?_eq_some_iff,
    fun visit verb h state => ?_, fun visit h state => serve_of_verb?_eq_none h e state,
    fun visit h => verb?_eq_none h⟩
  · rw [total_serveAll]
    exact Nat.zero_add _
  · rw [observed_serveAll]
    exact Nat.zero_add _
  · exact s.isBalanced_serveAll e visits (Metrics.isBalanced_zero verb)
  · obtain ⟨outcome, hreported, -⟩ := serve_of_verb? h e state
    exact ⟨outcome, hreported⟩

namespace Tally

/-- A server that anyone may call. -/
def server : Server := ⟨⟨"svc", false⟩, .anyone, "mock", false⟩

/-- A request without a body. -/
def arrival (method path : String) : Visit := ⟨.ok, method, .ofText path.toList, [], []⟩

/-- An instance that is not there is deleted, the last operation on it is asked for in two ways, and a
binding of it is asked for without saying more; the server is asked how it does. -/
def arrivals : List Visit :=
  [arrival "DELETE" "/v2/service_instances/i",
    arrival "GET" "/v2/service_instances/i/last_operation",
    arrival "HEAD" "/v2/service_instances/i/last_operation",
    arrival "PUT" "/v2/service_instances/i/service_bindings/b",
    arrival "GET" "/healthz"]

end Tally

/-- Both ways to ask for the last operation count, and the binding does not, as it is refused before it
reaches the broker. -/
theorem verbs_are_counted_once_tally :
    (Tally.server.serveAll InMemory.executor Tally.arrivals (.start .empty)).2.metrics.observed
        .lastOperation = 2 ∧
      (Tally.server.serveAll InMemory.executor Tally.arrivals (.start .empty)).2.metrics.observed
        .bind = 0 := by
  have hobserved :=
    (verbs_are_counted_once Tally.server InMemory.executor .empty Tally.arrivals).2.1
  rw [(hobserved .lastOperation).1, (hobserved .bind).1]
  decide +kernel

end Server

end ServiceBroker
