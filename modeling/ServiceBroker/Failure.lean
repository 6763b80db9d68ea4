import ServiceBroker.Executor.Failure
import ServiceBroker.Json.Basic

/-!
# Failures of a broker request

## Main definitions

* `Failure`: why a request to the broker was not carried out
* `Failure.status`: the HTTP status of the answer
* `Failure.body`: the body of the answer
-/

namespace ServiceBroker

/-- Why a request to the broker was not carried out. -/
inductive Failure where
  | missingParameter (name : String)
  | badRequest (detail : String)
  | unauthorized (detail : String)
  | internal (detail : String)
  | executor (cause : Executor.Failure)
  deriving DecidableEq, Repr

namespace Failure

/-- The name of the cause, in answers and metrics. -/
def code : Failure → String
  | .missingParameter _ => "missing_parameter"
  | .badRequest _ => "bad_request"
  | .unauthorized _ => "unauthorized"
  | .internal _ => "internal_error"
  | .executor cause => cause.code

/-- The wording of a failure. -/
def message : Failure → String
  | .missingParameter name => s!"missing required parameter: {name}"
  | .badRequest detail => s!"bad request: {detail}"
  | .unauthorized detail => s!"unauthorized: {detail}"
  | .internal detail => s!"internal error: {detail}"
  | .executor cause => cause.message

/-- The HTTP status of the answer to a request that failed. -/
def status : Failure → Nat
  | .missingParameter _ | .badRequest _ => 400
  | .unauthorized _ => 401
  | .internal _ => 500
  | .executor cause =>
    match cause with
    | .invalidIdentifier _ => 400
    | .instanceNotFound _ => 404
    | .authenticationFailed => 401
    | .bindingsRemain _ | .configuration _ => 500
    | .downstreamRejected _ | .transportFailure _ | .shapeMismatch _ | .credentialNotFound _ => 502

/-- The body of the answer to a request that failed. -/
def body (f : Failure) : Json :=
  .ofMembers [("error", .string f.code), ("description", .string f.message)]

/-- The failure with a given code. -/
def ofCode (code detail : String) : Failure :=
  match code with
  | "missing_parameter" => .missingParameter detail
  | "bad_request" => .badRequest detail
  | "unauthorized" => .unauthorized detail
  | "internal_error" => .internal detail
  | code => .executor (.ofCode code detail)

end Failure

end ServiceBroker
