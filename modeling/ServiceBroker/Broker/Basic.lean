import ServiceBroker.Broker.Connection
import ServiceBroker.Broker.Request
import ServiceBroker.Executor.Basic

/-!
# The broker

The broker turns the verbs of a platform into operations of an executor. It keeps nothing about
instances itself. Clusters are created and deleted one at a time, under a lock; binding and
unbinding take no lock.

## Main definitions

* `Broker.effects`: what the verbs ask for
* `Broker.provision`, `Broker.deprovision`, `Broker.update`, `Broker.bind`, `Broker.unbind`,
  `Broker.lastOperation`: the verbs, as programs
* `Broker.sequential`: how requests are answered when one verb runs at a time
-/

namespace ServiceBroker

/-- How a broker presents itself to platforms. -/
structure Broker where
  serviceId : String
  asyncEnabled : Bool
  deriving DecidableEq, Repr

namespace Broker

/-- The verbs of a platform. -/
inductive Verb where
  | provision
  | deprovision
  | update
  | bind
  | unbind
  | lastOperation
  deriving DecidableEq, Repr

/-- The name of a verb, in metrics. -/
def Verb.name : Verb → String
  | .provision => "provision"
  | .deprovision => "deprovision"
  | .update => "update"
  | .bind => "bind"
  | .unbind => "unbind"
  | .lastOperation => "last_operation"

/-- What a verb asks for: an operation of the executor, or the lock that orders the creation and
deletion of clusters. -/
inductive Request where
  | execute (op : Executor.Operation)
  | acquire
  | release
  deriving DecidableEq, Repr

/-- The type of the reply to a request. -/
abbrev Request.Reply : Request → Type
  | .execute op => Executor.Outcome op
  | .acquire | .release => Unit

/-- The effects of the verbs. -/
abbrev effects : Effects := ⟨Request, Request.Reply⟩

/-- Carry out an operation. -/
def execute (op : Executor.Operation) : Program effects (Executor.Outcome op) :=
  .ask (E := effects) (.execute op) fun outcome => .done outcome

/-- Carry out an operation while holding the lock. -/
def exclusively (op : Executor.Operation) : Program effects (Executor.Outcome op) :=
  .ask (E := effects) .acquire fun _ =>
    .ask (E := effects) (.execute op) fun outcome =>
      .ask (E := effects) .release fun _ => .done outcome

/-- An operation is reported as accepted rather than finished if the platform and the broker both
agree to that. -/
def isAsync (b : Broker) (acceptsIncomplete : Bool) : Bool := acceptsIncomplete && b.asyncEnabled

/-- Create the cluster of a new instance. -/
def provision (b : Broker) (instanceId : String) (r : ProvisionRequest)
    (acceptsIncomplete : Bool) : Program effects (Except Failure Bool) :=
  match ProvisionParameters.ofMembers r.parameters with
  | .error failure => .done (.error failure)
  | .ok parameters => do
    let outcome ← exclusively
      (.createCluster ⟨instanceId, parameters.clusterName, parameters.namespaceName, r.planId⟩)
    match (outcome : Except Executor.Failure Unit) with
    | .ok _ => return .ok (b.isAsync acceptsIncomplete)
    | .error failure => return .error (.executor failure)

/-- Delete the cluster of an instance. One that is already gone counts as deleted. -/
def deprovision (b : Broker) (instanceId : String) (acceptsIncomplete : Bool) :
    Program effects (Except Failure Bool) := do
  let outcome ← exclusively (.deleteCluster instanceId)
  match (outcome : Except Executor.Failure Unit) with
  | .ok _ => return .ok (b.isAsync acceptsIncomplete)
  | .error (.instanceNotFound _) => return .ok false
  | .error failure => return .error (.executor failure)

/-- Plans cannot be changed; the request is accepted and nothing is done. -/
def update (b : Broker) (acceptsIncomplete : Bool) : Program effects (Except Failure Bool) :=
  .done (.ok (b.isAsync acceptsIncomplete))

/-- Issue the credentials of a binding. The address is checked before the user is created. -/
def bind (instanceId bindingId : String) (r : BindRequest) :
    Program effects (Except Failure Connection) := do
  let outcome ← execute (.clusterDetail instanceId)
  match (outcome : Except Executor.Failure Cluster.Details) with
  | .error failure => return .error (.executor failure)
  | .ok details =>
    match Connection.base details.advertisedHost details.database with
    -- Nothing has been created yet that would have to be taken back.
    | .error failure => return .error failure
    | .ok base =>
      let outcome ← execute (.createBinding instanceId bindingId r.appId)
      match (outcome : Except Executor.Failure Credential) with
      | .error failure => return .error (.executor failure)
      | .ok credential => return Connection.ofCredential details base credential

/-- Withdraw the credentials of a binding. A failure to do so is not reported. -/
def unbind (instanceId bindingId : String) : Program effects (Except Failure Unit) := do
  let _ ← execute (.deleteBinding instanceId bindingId)
  return .ok ()

/-- There is never an operation in progress to report on. -/
def lastOperation : Program effects (Except Failure Unit) := .done (.ok ())

/-- The catalog of the broker. -/
def catalog (b : Broker) : Catalog := .ofService b.serviceId

/-- How requests are answered when one verb runs at a time: the lock is always free. -/
def sequential {σ : Type} (e : Executor σ) : (r : Request) → StateM σ r.Reply
  | .execute op => e.perform op
  | .acquire => fun s => ((), s)
  | .release => fun s => ((), s)

/-- Run one verb by itself. -/
def runAlone {σ α : Type} (e : Executor σ) (p : Program effects α) : StateM σ α :=
  p.runIn (sequential e)

end Broker

end ServiceBroker
