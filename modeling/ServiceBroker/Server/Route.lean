import ServiceBroker.Http.Message
import ServiceBroker.Text.Form

/-!
# Routes

A path belongs to at most one route, and each route answers to some methods. The IDs in a path are
percent-encoded; a route holds them as they were sent.

## Main definitions

* `Route.ofPath?`: the route of a path
* `Endpoint`: a route together with a method that it answers to
* `Route.endpoint?`: the endpoint for a method
* `readId`: the ID that a segment of a path spells
* `acceptsIncomplete`: what a query says on operations that finish later
-/

namespace ServiceBroker

/-- What a path leads to. -/
inductive Route where
  | catalog
  | instance (instanceId : List Char)
  | lastOperation (instanceId : List Char)
  | binding (instanceId bindingId : List Char)
  | health
  | metrics
  deriving DecidableEq, Repr

/-- What a method on a path asks for. -/
inductive Endpoint where
  | catalog
  | provision (instanceId : List Char)
  | update (instanceId : List Char)
  | deprovision (instanceId : List Char)
  | lastOperation (instanceId : List Char)
  | bind (instanceId bindingId : List Char)
  | unbind (instanceId bindingId : List Char)
  | health
  | metrics
  deriving DecidableEq, Repr

namespace Route

/-- The route of a list of segments. Only the last segment of a path has to be there. -/
def ofSegments? : List String → Option Route
  | ["", "v2", "catalog"] => some .catalog
  | ["", "v2", "service_instances", id] => if id = "" then none else some (.instance id.toList)
  | ["", "v2", "service_instances", id, "last_operation"] => some (.lastOperation id.toList)
  | ["", "v2", "service_instances", id, "service_bindings", bindingId] =>
    if bindingId = "" then none else some (.binding id.toList bindingId.toList)
  | ["", "healthz"] => some .health
  | ["", "metrics"] => some .metrics
  | _ => none

/-- The route of a path. -/
def ofPath? (path : List Char) : Option Route :=
  ofSegments? ((splitAt (· == '/') path).map String.ofList)

/-- The methods that a route answers to, in alphabetical order. -/
def methods : Route → List String
  | .instance _ => ["DELETE", "PATCH", "PUT"]
  | .binding .. => ["DELETE", "PUT"]
  | _ => ["GET", "HEAD"]

/-- The method reads and changes nothing. -/
def isReading (method : String) : Bool := method == "GET" || method == "HEAD"

/-- The endpoint for a method on a route. -/
def endpoint? (route : Route) (method : String) : Option Endpoint :=
  match route with
  | .catalog => if isReading method then some .catalog else none
  | .lastOperation id => if isReading method then some (.lastOperation id) else none
  | .health => if isReading method then some .health else none
  | .metrics => if isReading method then some .metrics else none
  | .instance id =>
    match method with
    | "PUT" => some (.provision id)
    | "PATCH" => some (.update id)
    | "DELETE" => some (.deprovision id)
    | _ => none
  | .binding id bindingId =>
    match method with
    | "PUT" => some (.bind id bindingId)
    | "DELETE" => some (.unbind id bindingId)
    | _ => none

/-- Only the routes of the broker ask who is calling. -/
def isGuarded : Route → Bool
  | .health | .metrics => false
  | _ => true

end Route

/-- The ID that a segment of a path spells, which has to be UTF-8 once it is decoded. -/
def readId (name : String) (segment : List Char) : Except Http.Response String :=
  match Utf8.decode? (Percent.decode segment) with
  | some cs => .ok (String.ofList cs)
  | none => .error (.text 400 s!"Invalid URL: Invalid UTF-8 in `{name}`")

/-- The name under which a query says whether an operation may finish later. -/
def incompleteName : String := "accepts_incomplete"

/-- What the names and values of a query say on operations that finish later, given what was said so
far. -/
def readIncomplete : Option Bool → List (String × String) → Except String Bool
  | said, [] => .ok (said.getD false)
  | said, (name, value) :: rest =>
    if name ≠ incompleteName then readIncomplete said rest
    else if said.isSome then .error s!"duplicate field `{incompleteName}`"
    else
      match value with
      | "true" => readIncomplete (some true) rest
      | "false" => readIncomplete (some false) rest
      | _ => .error s!"{incompleteName}: provided string was not `true` or `false`"

/-- What a query says on operations that finish later. -/
def acceptsIncomplete (query : List Char) : Except Http.Response Bool :=
  (readIncomplete none (Form.pairs query)).mapError fun defect =>
    .text 400 s!"Failed to deserialize query string: {defect}"

end ServiceBroker
