import ServiceBroker.Proofs.Broker.Session
import ServiceBroker.Proofs.Server.Authorization

/-!
# Requests that reach a verb

A request makes a call of the broker if its route has an endpoint of the broker for its method, its
IDs, its query and its body are in order, and its caller is admitted. The call is then carried out
as a whole and counted, and the answer follows from its result. Whatever else a request may be, the
broker takes no part in its answer.

## Main definitions

* `Server.Reads`: the call that a request spells at an endpoint
* `Server.Asks`: the call that a request asks for
* `Server.conclude`: the answer to a call, by its result
* `Server.IsAside`: a program that takes place without the broker
* `Server.Carries`: a request whose call is carried out

## Main results

* `Server.run_runVerb_iff`: a verb is carried out as a whole, and then counted
* `Server.answerAt_cases`: what an endpoint may do
* `Server.isAside_answerAt`: an endpoint that no call is spelled at does without the broker
* `Server.run_answer_cases`: a request has its call carried out, or is answered without the broker
-/

namespace ServiceBroker

/-- The verb of a call. -/
def Broker.Call.verb : Broker.Call → Broker.Verb
  | .provision .. => .provision
  | .deprovision .. => .deprovision
  | .update .. => .update
  | .bind .. => .bind
  | .unbind .. => .unbind
  | .lastOperation _ => .lastOperation

namespace Server

open Program

variable {s : Server} {r : Http.Request} {route : Route} {endpoint : Endpoint} {call : Broker.Call}
  {trace : List (Event effects)} {steps : List (Event Broker.effects)} {response : Http.Response}
  {verb : Broker.Verb} {α β : Type}

/-! ### Calls that are spelled out -/

/-- `Reads r endpoint call`: at the endpoint the IDs, the query and the body of the request are in
order, and they spell this call. -/
inductive Reads (r : Http.Request) : Endpoint → Broker.Call → Prop where
  | provision {segment : List Char} {id : String} {incomplete : Bool} {body : ProvisionRequest} :
      readId "instance_id" segment = .ok id → acceptsIncomplete r.target.query = .ok incomplete →
      readBody ProvisionRequest.reader r = .ok body →
      Reads r (.provision segment) (.provision id body incomplete)
  | update {segment : List Char} {id : String} {incomplete : Bool} {body : UpdateRequest} :
      readId "instance_id" segment = .ok id → acceptsIncomplete r.target.query = .ok incomplete →
      readBody UpdateRequest.reader r = .ok body →
      Reads r (.update segment) (.update id body incomplete)
  | deprovision {segment : List Char} {id : String} {incomplete : Bool} :
      readId "instance_id" segment = .ok id → acceptsIncomplete r.target.query = .ok incomplete →
      Reads r (.deprovision segment) (.deprovision id incomplete)
  | lastOperation {segment : List Char} {id : String} :
      readId "instance_id" segment = .ok id → Reads r (.lastOperation segment) (.lastOperation id)
  | bind {segment bindingSegment : List Char} {id bindingId : String} {body : BindRequest} :
      readId "instance_id" segment = .ok id → readId "binding_id" bindingSegment = .ok bindingId →
      readBody BindRequest.reader r = .ok body →
      Reads r (.bind segment bindingSegment) (.bind id bindingId body)
  | unbind {segment bindingSegment : List Char} {id bindingId : String} :
      readId "instance_id" segment = .ok id → readId "binding_id" bindingSegment = .ok bindingId →
      Reads r (.unbind segment bindingSegment) (.unbind id bindingId)

/-- The request asks for this call: its route has an endpoint for its method, and it spells the call
there. -/
def Asks (s : Server) (r : Http.Request) (call : Broker.Call) : Prop :=
  ∃ route endpoint, s.route? r = some route ∧ route.endpoint? r.method = some endpoint ∧
    Reads r endpoint call

/-- The answer to a call that succeeds. -/
def respond (call : Broker.Call) : Broker.Answer → Http.Response
  | .accepted isAsync => operationAnswer (if call.verb = .provision then 201 else 200) isAsync
  | .connection connection => .json 201 (.ofMembers [("credentials", connection.toJson)])
  | .done => emptyAnswer 200

/-- The answer to a call, by its result. -/
def conclude (call : Broker.Call) : Except Failure Broker.Answer → Http.Response
  | .ok answer => respond call answer
  | .error failure => refusal failure

/-! ### Verbs -/

/-- A step of a verb. -/
def taken (event : Event Broker.effects) : Event effects := ⟨.step event.request, event.reply⟩

/-- The result of a verb is counted. -/
def counted (verb : Broker.Verb) (result : Except Failure α) : Event effects :=
  ⟨.record verb (Metrics.outcome result), ()⟩

/-- The steps of a verb are what it asks for, one by one. -/
theorem spells_step_iff :
    Spells (fun r => .ask (E := effects) (.step r) .done) steps trace ↔ trace = steps.map taken := by
  constructor
  · intro h
    induction h with
    | nil => rfl
    | cons first hfirst _ ih =>
      obtain ⟨reply, rest, rfl, hdone⟩ := run_ask_iff.mp hfirst
      obtain ⟨rfl, rfl⟩ := run_done_iff.mp hdone
      exact congrArg (_ :: ·) ih
  · rintro rfl
    induction steps with
    | nil => exact .nil
    | cons step steps ih =>
      exact .cons [taken step] (run_ask_iff.mpr ⟨step.reply, [], rfl, .done _⟩) ih

/-- A verb is carried out as a whole, its result is counted, and the answer follows from it. -/
theorem run_runVerb_iff {p : Program Broker.effects (Except Failure α)}
    {respond : α → Http.Response} :
    Run (runVerb verb p respond) trace response ↔ ∃ steps result, Run p steps result ∧
      trace = steps.map taken ++ [counted verb result] ∧
      response = match result with
        | .ok a => respond a
        | .error failure => refusal failure := by
  unfold runVerb
  rw [run_bind_iff]
  constructor
  · rintro ⟨first, result, rest, rfl, hfirst, hrest⟩
    obtain ⟨steps, hrun, hsteps⟩ := run_substitute_iff.mp hfirst
    obtain rfl := spells_step_iff.mp hsteps
    obtain ⟨reply, rest, rfl, hdone⟩ := run_ask_iff.mp hrest
    refine ⟨steps, result, hrun, ?_⟩
    -- Whether it has succeeded or failed, the verb has been counted by now.
    cases result with
    | ok a => obtain ⟨rfl, rfl⟩ := run_done_iff.mp hdone; exact ⟨rfl, rfl⟩
    | error failure => obtain ⟨rfl, rfl⟩ := run_done_iff.mp hdone; exact ⟨rfl, rfl⟩
  · rintro ⟨steps, result, hrun, rfl, rfl⟩
    refine ⟨_, result, _, rfl, run_substitute_iff.mpr ⟨steps, hrun, spells_step_iff.mpr rfl⟩, ?_⟩
    refine run_ask_iff.mpr ⟨(), [], rfl, ?_⟩
    cases result with
    | ok a => exact .done _
    | error failure => exact .done _

/-- The same for a verb as it appears in a call. -/
theorem run_runVerb_map_iff (call : Broker.Call) {p : Program Broker.effects (Except Failure α)}
    {answer : α → Http.Response} {f : α → Broker.Answer}
    (hanswer : ∀ a, answer a = respond call (f a)) :
    Run (runVerb call.verb p answer) trace response ↔ ∃ steps result,
      Run (do return (← p).map f) steps result ∧
        trace = steps.map taken ++ [counted call.verb result] ∧ response = conclude call result := by
  rw [run_runVerb_iff]
  have hconclude (result : Except Failure α) : (match result with
      | .ok a => answer a
      | .error failure => refusal failure) = conclude call (result.map f) := by
    cases result with
    | ok a => exact hanswer a
    | error failure => rfl
  have hcounted (result : Except Failure α) :
      counted call.verb (result.map f) = counted call.verb result := by
    cases result <;> rfl
  constructor
  · rintro ⟨steps, result, hrun, rfl, rfl⟩
    exact ⟨steps, result.map f, run_bind_done_iff.mpr ⟨result, hrun, rfl⟩, by rw [hcounted],
      hconclude result⟩
  · rintro ⟨steps, answered, hmap, rfl, rfl⟩
    obtain ⟨result, hrun, rfl⟩ := run_bind_done_iff.mp hmap
    exact ⟨steps, result, hrun, by rw [hcounted], (hconclude result).symm⟩

/-- At its endpoint a request that spells a call is answered with the verb of the call. -/
theorem exists_answerAt_eq (h : Reads r endpoint call) (s : Server) :
    ∃ (α : Type) (p : Program Broker.effects (Except Failure α)) (f : α → Broker.Answer),
      s.answerAt r endpoint = runVerb call.verb p (fun a => respond call (f a)) ∧
        s.broker.perform call = (do return (← p).map f) := by
  cases h with
  | @provision segment id incomplete body hid hincomplete hbody =>
    refine ⟨_, s.broker.provision id body incomplete, .accepted, ?_, rfl⟩
    simp only [answerAt, provision, hid, hincomplete, hbody]
    rfl
  | @update segment id incomplete body hid hincomplete hbody =>
    refine ⟨_, s.broker.update incomplete, .accepted, ?_, rfl⟩
    simp only [answerAt, update, hid, hincomplete, hbody]
    rfl
  | @deprovision segment id incomplete hid hincomplete =>
    refine ⟨_, s.broker.deprovision id incomplete, .accepted, ?_, rfl⟩
    simp only [answerAt, deprovision, hid, hincomplete]
    rfl
  | @lastOperation segment id hid =>
    refine ⟨_, Broker.lastOperation, fun _ => .done, ?_, rfl⟩
    simp only [answerAt, lastOperation, hid]
    rfl
  | @bind segment bindingSegment id bindingId body hid hbindingId hbody =>
    refine ⟨_, Broker.bind id bindingId body, .connection, ?_, rfl⟩
    simp only [answerAt, bind, hid, hbindingId, hbody]
    rfl
  | @unbind segment bindingSegment id bindingId hid hbindingId =>
    refine ⟨_, Broker.unbind id bindingId, fun _ => .done, ?_, rfl⟩
    simp only [answerAt, unbind, hid, hbindingId]
    rfl

/-- At its endpoint a request has the call that it spells carried out. -/
theorem run_answerAt_iff (h : Reads r endpoint call) :
    Run (s.answerAt r endpoint) trace response ↔ ∃ steps result,
      Run (s.broker.perform call) steps result ∧
        trace = steps.map taken ++ [counted call.verb result] ∧ response = conclude call result := by
  obtain ⟨α, p, f, hanswer, hperform⟩ := exists_answerAt_eq h s
  rw [hanswer, hperform]
  exact run_runVerb_map_iff call fun _ => rfl

/-- A request that cannot be read is answered at once. -/
theorem exists_done_of_orAnswer {P : Prop}
    {p : Except Http.Response (Program effects Http.Response)}
    (h : ∀ program, p = .ok program → P) : P ∨ ∃ response, orAnswer p = .done response := by
  cases p with
  | ok program => exact .inl (h program rfl)
  | error response => exact .inr ⟨response, rfl⟩

/-- An endpoint has a call spelled at it, or tells the counters, or answers at once. -/
theorem answerAt_cases (s : Server) (r : Http.Request) (endpoint : Endpoint) :
    endpoint = .metrics ∨ (∃ call, Reads r endpoint call) ∨
      ∃ response, s.answerAt r endpoint = .done response := by
  cases endpoint with
  | metrics => exact .inl rfl
  | catalog | health => exact .inr (.inr ⟨_, rfl⟩)
  | provision segment =>
    refine .inr (exists_done_of_orAnswer fun program hok => ?_)
    obtain ⟨id, hid, hrest⟩ := bind_eq_ok_iff.mp hok
    obtain ⟨incomplete, hincomplete, hrest⟩ := bind_eq_ok_iff.mp hrest
    obtain ⟨body, hbody, -⟩ := bind_eq_ok_iff.mp hrest
    exact ⟨_, .provision hid hincomplete hbody⟩
  | update segment =>
    refine .inr (exists_done_of_orAnswer fun program hok => ?_)
    obtain ⟨id, hid, hrest⟩ := bind_eq_ok_iff.mp hok
    obtain ⟨incomplete, hincomplete, hrest⟩ := bind_eq_ok_iff.mp hrest
    obtain ⟨body, hbody, -⟩ := bind_eq_ok_iff.mp hrest
    exact ⟨_, .update hid hincomplete hbody⟩
  | deprovision segment =>
    refine .inr (exists_done_of_orAnswer fun program hok => ?_)
    obtain ⟨id, hid, hrest⟩ := bind_eq_ok_iff.mp hok
    obtain ⟨incomplete, hincomplete, -⟩ := bind_eq_ok_iff.mp hrest
    exact ⟨_, .deprovision hid hincomplete⟩
  | lastOperation segment =>
    refine .inr (exists_done_of_orAnswer fun program hok => ?_)
    obtain ⟨id, hid, -⟩ := bind_eq_ok_iff.mp hok
    exact ⟨_, .lastOperation hid⟩
  | bind segment bindingSegment =>
    refine .inr (exists_done_of_orAnswer fun program hok => ?_)
    obtain ⟨id, hid, hrest⟩ := bind_eq_ok_iff.mp hok
    obtain ⟨bindingId, hbindingId, hrest⟩ := bind_eq_ok_iff.mp hrest
    obtain ⟨body, hbody, -⟩ := bind_eq_ok_iff.mp hrest
    exact ⟨_, .bind hid hbindingId hbody⟩
  | unbind segment bindingSegment =>
    refine .inr (exists_done_of_orAnswer fun program hok => ?_)
    obtain ⟨id, hid, hrest⟩ := bind_eq_ok_iff.mp hok
    obtain ⟨bindingId, hbindingId, -⟩ := bind_eq_ok_iff.mp hrest
    exact ⟨_, .unbind hid hbindingId⟩

/-! ### Answers without the broker -/

/-- The program takes place without the broker. -/
def IsAside (p : Program effects α) : Prop :=
  ∀ trace a, Run p trace a → ∀ event ∈ trace, ¬ event.request.IsBroker

theorem isAside_done (a : α) : IsAside (.done a) := by
  intro trace a' hrun
  obtain ⟨rfl, rfl⟩ := run_done_iff.mp hrun
  exact nofun

theorem IsAside.bind {p : Program effects α} {f : α → Program effects β} (hp : IsAside p)
    (hf : ∀ a, IsAside (f a)) : IsAside (p >>= f) := by
  intro trace b hrun event hevent
  obtain ⟨first, a, rest, rfl, hfirst, hrest⟩ := run_bind_iff.mp hrun
  rcases List.mem_append.mp hevent with hevent | hevent
  · exact hp first a hfirst event hevent
  · exact hf a rest b hrest event hevent

theorem isAside_metrics : IsAside metrics := by
  intro trace response hrun event hevent
  obtain ⟨counters, rest, rfl, hrest⟩ := run_ask_iff.mp hrun
  rcases List.mem_cons.mp hevent with rfl | hevent
  · exact id
  · exact isAside_done _ rest response hrest event hevent

/-- Whoever calls is looked at without the broker. -/
theorem isAside_authenticate : IsAside (s.authenticate r) := by
  intro trace v hrun event hevent
  obtain ⟨checks, -, hspells⟩ := run_substitute_iff.mp hrun
  clear hrun
  induction hspells with
  | nil => cases hevent
  | cons first hfirst _ ih =>
    -- Each check is one event, and it validates a token.
    obtain ⟨reply, rest, rfl, hdone⟩ := run_ask_iff.mp hfirst
    obtain ⟨rfl, -⟩ := run_done_iff.mp hdone
    rcases List.mem_cons.mp hevent with rfl | hevent
    · exact id
    · exact ih hevent

/-- An endpoint that no call is spelled at does without the broker. -/
theorem isAside_answerAt (h : ∀ call, ¬ Reads r endpoint call) :
    IsAside (s.answerAt r endpoint) := by
  rcases answerAt_cases s r endpoint with rfl | ⟨call, hreads⟩ | ⟨response, hdone⟩
  · exact isAside_metrics
  · exact absurd hreads (h call)
  · rw [hdone]
    exact isAside_done response

theorem IsAside.guarded {p : Program effects Http.Response} (hp : IsAside p) :
    IsAside (s.guarded r p) := by
  refine isAside_authenticate.bind fun v => ?_
  cases v with
  | admitted caller => exact hp
  | refused failure => exact isAside_done _
  | crashed => exact isAside_done _

/-- A request that asks for no call is answered without the broker. -/
theorem isAside_answer (h : ∀ call, ¬ s.Asks r call) : IsAside (s.answer r) := by
  unfold answer
  cases hroute : s.route? r with
  | none => exact isAside_done _
  | some route =>
    have hon : IsAside (s.answerOn r route) := by
      unfold answerOn
      cases hendpoint : route.endpoint? r.method with
      | none =>
        -- That the method is not allowed is told without the broker, too.
        dsimp only
        refine IsAside.bind ?_ fun _ => isAside_done _
        split
        · exact (isAside_done _).guarded
        · exact isAside_done _
      | some endpoint =>
        have hat : IsAside (s.answerAt r endpoint) :=
          isAside_answerAt fun call hreads => h call ⟨route, endpoint, hroute, hendpoint, hreads⟩
        dsimp only
        split
        · exact hat.guarded
        · exact hat
    dsimp only
    split
    · exact hon.bind fun _ => isAside_done _
    · exact hon

/-! ### Whole requests -/

/-- Calls are spelled on guarded routes only. -/
theorem isGuarded_of_reads (hendpoint : route.endpoint? r.method = some endpoint)
    (hreads : Reads r endpoint call) : route.isGuarded := by
  cases route with
  | health =>
    obtain ⟨-, rfl⟩ : Route.isReading r.method ∧ Endpoint.health = endpoint := by
      simpa [Route.endpoint?] using hendpoint
    cases hreads
  | metrics =>
    obtain ⟨-, rfl⟩ : Route.isReading r.method ∧ Endpoint.metrics = endpoint := by
      simpa [Route.endpoint?] using hendpoint
    cases hreads
  | catalog | «instance» _ | lastOperation _ | binding _ _ => rfl

/-- The request has its call carried out by these steps and with this result, after its caller has
been admitted; the result is counted, and the answer follows from it. -/
structure Carries (s : Server) (r : Http.Request) (call : Broker.Call)
    (steps : List (Event Broker.effects)) (result : Except Failure Broker.Answer)
    (trace : List (Event effects)) (response : Http.Response) : Prop where
  asks : s.Asks r call
  run : Run (s.broker.perform call) steps result
  admitted : ∃ checked caller, Run (s.authenticate r) checked (.admitted caller) ∧
    trace = checked ++ (steps.map taken ++ [counted call.verb result])
  response_eq : response = sent r (conclude call result)

/-- A request has its call carried out, or is answered without the broker. -/
theorem run_answer_cases (h : Run (s.answer r) trace response) :
    (∀ event ∈ trace, ¬ event.request.IsBroker) ∨
      ∃ call steps result, Carries s r call steps result trace response := by
  by_cases hasks : ∃ call, s.Asks r call
  · obtain ⟨call, route, endpoint, hroute, hendpoint, hreads⟩ := hasks
    rw [answer_eq_bind hroute hendpoint (isGuarded_of_reads hendpoint hreads)] at h
    obtain ⟨checked, v, rest, rfl, hchecked, hrest⟩ := run_bind_iff.mp h
    -- The call is carried out only if the verdict is good; otherwise the request is over with it.
    cases v with
    | admitted caller =>
      obtain ⟨response, hat, rfl⟩ := run_bind_done_iff.mp hrest
      obtain ⟨steps, result, hrun, rfl, rfl⟩ := (run_answerAt_iff hreads).mp hat
      exact .inr ⟨call, steps, result, ⟨route, endpoint, hroute, hendpoint, hreads⟩, hrun,
        ⟨checked, caller, hchecked, rfl⟩, rfl⟩
    | refused failure =>
      obtain ⟨rfl, rfl⟩ := run_done_iff.mp hrest
      exact .inl (isAside_authenticate _ _ (by simpa using hchecked))
    | crashed =>
      obtain ⟨rfl, rfl⟩ := run_done_iff.mp hrest
      exact .inl (isAside_authenticate _ _ (by simpa using hchecked))
  · exact .inl (isAside_answer (not_exists.mp hasks) _ _ h)

end Server

end ServiceBroker
