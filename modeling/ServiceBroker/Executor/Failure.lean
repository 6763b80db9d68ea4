/-!
# Failures of an executor

## Main definitions

* `Executor.Failure`: why an executor could not do what it was asked
* `Executor.Failure.code`: the name of the cause, in answers and metrics
* `Executor.Failure.message`: its wording
-/

namespace ServiceBroker.Executor

/-- Why an executor could not do what it was asked. -/
inductive Failure where
  | invalidIdentifier (detail : String)
  | instanceNotFound (detail : String)
  | bindingsRemain (instanceId : String)
  | credentialNotFound (detail : String)
  | shapeMismatch (detail : String)
  | downstreamRejected (detail : String)
  | authenticationFailed
  | transportFailure (detail : String)
  | configuration (detail : String)
  deriving DecidableEq, Repr

/-- The name of the cause, in answers and metrics. -/
def Failure.code : Failure → String
  | .invalidIdentifier _ => "invalid_identifier"
  | .instanceNotFound _ => "instance_not_found"
  | .bindingsRemain _ => "bindings_remain"
  | .credentialNotFound _ => "credential_not_found"
  | .shapeMismatch _ => "shape_mismatch"
  | .downstreamRejected _ => "downstream_rejected"
  | .authenticationFailed => "authentication_failed"
  | .transportFailure _ => "transport_failure"
  | .configuration _ => "config"

/-- The wording of a failure. -/
def Failure.message : Failure → String
  | .invalidIdentifier detail => s!"invalid identifier: {detail}"
  | .instanceNotFound detail => s!"instance not found: {detail}"
  | .bindingsRemain instanceId => s!"instance {instanceId} still has bindings"
  | .credentialNotFound detail => s!"credential not found: {detail}"
  | .shapeMismatch detail => s!"unexpected response shape: {detail}"
  | .downstreamRejected detail => s!"request rejected: {detail}"
  | .authenticationFailed => "could not authenticate with the cluster-management API"
  | .transportFailure detail => s!"transport failure: {detail}"
  | .configuration detail => s!"configuration error: {detail}"

/-- The failure with a given code; any other code counts as a wrong configuration. -/
def Failure.ofCode (code detail : String) : Failure :=
  match code with
  | "invalid_identifier" => .invalidIdentifier detail
  | "instance_not_found" => .instanceNotFound detail
  | "bindings_remain" => .bindingsRemain detail
  | "credential_not_found" => .credentialNotFound detail
  | "shape_mismatch" => .shapeMismatch detail
  | "downstream_rejected" => .downstreamRejected detail
  | "authentication_failed" => .authenticationFailed
  | "transport_failure" => .transportFailure detail
  | _ => .configuration detail

end ServiceBroker.Executor
