import ServiceBroker.Authentication.Basic
import ServiceBroker.Json.Printer
import ServiceBroker.Server.Metrics
import ServiceBroker.Server.Route

/-!
# The HTTP server

A request is answered by a program. Its path decides on the route; a guarded route asks who is
calling before anything else; then come the method, the IDs, the query and the body, and only a
request that has all of them in order reaches a verb of the broker.

## Main definitions

* `Server.effects`: what the answer to a request may need
* `Server.answer`: the answer to a request, as a program
* `Server.sequential`: how these needs are met when requests come one at a time
* `Server.serve`: the answer to one request of such a sequence
-/

namespace ServiceBroker

/-- A server: the broker behind it, who may call, the kind of the executor, and whether metrics are
published. -/
structure Server where
  broker : Broker
  policy : Policy
  executorKind : String
  publishesMetrics : Bool
  deriving DecidableEq, Repr

namespace Server

/-- The version that the server reports. -/
def version : String := "0.1.0"

/-- What the answer to a request may need: a token validated, a step of a verb, an outcome counted,
or the counters. -/
inductive Need where
  | validate (v : Policy.Validation)
  | step (r : Broker.Request)
  | record (verb : Broker.Verb) (outcome : String)
  | readMetrics
  deriving DecidableEq, Repr

/-- The type of what meets a need. -/
abbrev Need.Reply : Need → Type
  | .validate _ => Except Failure String
  | .step r => r.Reply
  | .record .. => Unit
  | .readMetrics => Metrics

/-- The effects of the server. -/
abbrev effects : Effects := ⟨Need, Need.Reply⟩

/-- The verdict on the caller of a request, from its authorization header. A header of other than
visible characters counts as absent. -/
def authenticate (s : Server) (r : Http.Request) : Program effects Verdict :=
  (s.policy.authenticate ((r.header? "authorization").bind Header.visible?)).substitute
    fun v => .ask (E := effects) (.validate v) .done

/-- The answer to a request that failed. -/
def refusal (failure : Failure) : Http.Response := .json failure.status failure.body

/-- Run a verb, count its outcome and answer with it. -/
def runVerb {α : Type} (verb : Broker.Verb) (p : Program Broker.effects (Except Failure α))
    (respond : α → Http.Response) : Program effects Http.Response := do
  let result ← p.substitute fun r => .ask (E := effects) (.step r) .done
  .ask (E := effects) (.record verb (Metrics.outcome result)) fun _ =>
    match result with
    | .ok a => .done (respond a)
    | .error failure => .done (refusal failure)

/-- The longest body that is read, in bytes. -/
def maxBodyLength : Nat := 65536

/-- The value that the body of a request holds. -/
def readBody {α : Type} (reader : Json.Reader α) (r : Http.Request) : Except Http.Response α :=
  if r.body.length > maxBodyLength then
    .error (refusal (.badRequest "failed to read body: length limit exceeded"))
  else
    match reader.fromText r.body with
    | .ok a => .ok a
    | .error defect => .error (refusal (.badRequest s!"invalid JSON: {defect.message}"))

/-- A program for a request that is in order, or else the answer that says what is not. -/
def orAnswer (p : Except Http.Response (Program effects Http.Response)) :
    Program effects Http.Response :=
  match p with
  | .ok p => p
  | .error response => .done response

/-- The answer to an operation with nothing to tell. -/
def emptyAnswer (status : Nat) : Http.Response := .json status (.ofMembers [])

/-- The answer to an operation that is accepted, or finished with the given status. -/
def operationAnswer (finished : Nat) (isAsync : Bool) : Http.Response :=
  emptyAnswer (if isAsync then 202 else finished)

/-- The answer to a request to create an instance. -/
def provision (s : Server) (r : Http.Request) (instanceId : List Char) :
    Program effects Http.Response := orAnswer do
  let id ← readId "instance_id" instanceId
  let incomplete ← acceptsIncomplete r.target.query
  let body ← readBody ProvisionRequest.reader r
  return runVerb .provision (s.broker.provision id body incomplete) (operationAnswer 201)

/-- The answer to a request to change an instance. -/
def update (s : Server) (r : Http.Request) (instanceId : List Char) :
    Program effects Http.Response := orAnswer do
  let _ ← readId "instance_id" instanceId
  let incomplete ← acceptsIncomplete r.target.query
  let _ ← readBody UpdateRequest.reader r
  return runVerb .update (s.broker.update incomplete) (operationAnswer 200)

/-- The answer to a request to delete an instance. -/
def deprovision (s : Server) (r : Http.Request) (instanceId : List Char) :
    Program effects Http.Response := orAnswer do
  let id ← readId "instance_id" instanceId
  let incomplete ← acceptsIncomplete r.target.query
  return runVerb .deprovision (s.broker.deprovision id incomplete) (operationAnswer 200)

/-- The answer to a question after the last operation on an instance. -/
def lastOperation (instanceId : List Char) : Program effects Http.Response := orAnswer do
  let _ ← readId "instance_id" instanceId
  return runVerb .lastOperation Broker.lastOperation fun _ => emptyAnswer 200

/-- The answer to a request to create a binding. -/
def bind (r : Http.Request) (instanceId bindingId : List Char) :
    Program effects Http.Response := orAnswer do
  let id ← readId "instance_id" instanceId
  let bid ← readId "binding_id" bindingId
  let body ← readBody BindRequest.reader r
  return runVerb .bind (Broker.bind id bid body) fun connection =>
    .json 201 (.ofMembers [("credentials", connection.toJson)])

/-- The answer to a request to delete a binding. -/
def unbind (instanceId bindingId : List Char) : Program effects Http.Response := orAnswer do
  let id ← readId "instance_id" instanceId
  let bid ← readId "binding_id" bindingId
  return runVerb .unbind (Broker.unbind id bid) fun _ => emptyAnswer 200

/-- The answer to a question after the health of the server. -/
def health (s : Server) : Http.Response :=
  .json 200 (.ofMembers [("status", .string "ok"), ("executor", .string s.executorKind),
    ("version", .string version)])

/-- The media type of published metrics. -/
def metricsType : String := "text/plain; version=0.0.4; charset=utf-8"

/-- The answer to a question after the metrics. -/
def metrics : Program effects Http.Response :=
  .ask (E := effects) .readMetrics fun m =>
    .done ⟨200, some metricsType, [], .lines (Metrics.lines m)⟩

/-- The answer of an endpoint. -/
def answerAt (s : Server) (r : Http.Request) : Endpoint → Program effects Http.Response
  | .catalog => .done (.json 200 s.broker.catalog.toJson)
  | .provision id => s.provision r id
  | .update id => s.update r id
  | .deprovision id => s.deprovision r id
  | .lastOperation id => lastOperation id
  | .bind id bindingId => bind r id bindingId
  | .unbind id bindingId => unbind id bindingId
  | .health => .done s.health
  | .metrics => metrics

/-- The route of a request. Metrics have none if they are not published. -/
def route? (s : Server) (r : Http.Request) : Option Route :=
  (Route.ofPath? r.target.path).filter fun route => route ≠ .metrics || s.publishesMetrics

/-- Go on with `p` if the caller of a request may call. A header of visible characters can always be
cut where its scheme ends, so the last case does not arise. -/
def guarded (s : Server) (r : Http.Request) (p : Program effects Http.Response) :
    Program effects Http.Response := do
  match ← s.authenticate r with
  | .admitted _ => p
  | .refused failure => return refusal failure
  | .crashed => return .bare 500

/-- The answer of a route, with the methods it answers to if the one of the request is none of them.
-/
def answerOn (s : Server) (r : Http.Request) (route : Route) : Program effects Http.Response :=
  let inside := match route.endpoint? r.method with
    | some endpoint => s.answerAt r endpoint
    | none => .done (.bare 405)
  -- A method that the route does not know is refused only to those who may call.
  let outside := if route.isGuarded then s.guarded r inside else inside
  match route.endpoint? r.method with
  | some _ => outside
  | none => do return (← outside).allowing route.methods

/-- The answer to a request. One that asks for the head alone is answered without a body. -/
def answer (s : Server) (r : Http.Request) : Program effects Http.Response :=
  match s.route? r with
  | none => .done (.bare 404)
  | some route =>
    if r.method = "HEAD" then do return (← s.answerOn r route).headOnly
    else s.answerOn r route

/-- What changes while a server runs: the state of its executor, and the counters. -/
structure State (σ : Type) where
  executor : σ
  metrics : Metrics

/-- A server that has just started. -/
def State.start {σ : Type} (executor : σ) : State σ := ⟨executor, .zero⟩

/-- How needs are met when requests come one at a time. -/
def sequential {σ : Type} (e : Executor σ) (validate : String → Except Failure String) :
    (need : Need) → StateM (State σ) need.Reply
  | .validate v => fun s => (validate v.token, s)
  | .step r => fun s =>
    let (reply, next) := Broker.sequential e r s.executor
    (reply, { s with executor := next })
  | .record verb outcome => fun s => ((), { s with metrics := s.metrics.record verb outcome })
  | .readMetrics => fun s => (s.metrics, s)

/-- The answer to one of a sequence of requests. -/
def serve {σ : Type} (s : Server) (e : Executor σ) (validate : String → Except Failure String)
    (r : Http.Request) : StateM (State σ) Http.Response :=
  (s.answer r).runIn (sequential e validate)

end Server

end ServiceBroker
