import ServiceBroker.Cluster.Basic
import ServiceBroker.Executor.Failure
import ServiceBroker.Program

/-!
# Executors

An executor creates and deletes clusters and the credentials of bindings. What it does may depend on
a state, which stands for everything that it remembers or talks to.

## Main definitions

* `Executor.Operation`: what an executor can be asked, with the type of the answer
* `Executor`: a way to carry out operations
* `Executor.recorded`: an executor that also keeps a record of what it was asked
-/

namespace ServiceBroker

/-- What an executor can be asked. -/
inductive Executor.Operation where
  | createCluster (order : Cluster.Order)
  | deleteCluster (instanceId : String)
  | createBinding (instanceId bindingId : String) (appId : Option String)
  | deleteBinding (instanceId bindingId : String)
  | clusterDetail (instanceId : String)
  deriving DecidableEq, Repr

/-- The type of the answer to an operation that succeeds. -/
abbrev Executor.Operation.Answer : Executor.Operation → Type
  | .createBinding .. => Credential
  | .clusterDetail _ => Cluster.Details
  | _ => Unit

/-- The outcome of an operation. -/
abbrev Executor.Outcome (op : Executor.Operation) : Type := Except Executor.Failure op.Answer

/-- The effects of a program that uses an executor and nothing else. -/
abbrev Executor.effects : Effects := ⟨Executor.Operation, Executor.Outcome⟩

/-- A way to carry out operations with a state of type `σ`. -/
structure Executor (σ : Type) where
  /-- What sort of executor it is. -/
  kind : String
  perform : (op : Executor.Operation) → StateM σ (Executor.Outcome op)

namespace Executor

variable {σ : Type}

/-- An executor that also keeps a record of what it was asked, the latest first. -/
def recorded (e : Executor σ) : Executor (σ × List Operation) where
  kind := e.kind
  perform op s :=
    let (outcome, next) := e.perform op s.1
    (outcome, next, op :: s.2)

/-- The operation creates or deletes a cluster. -/
def Operation.changesCluster : Operation → Bool
  | .createCluster _ | .deleteCluster _ => true
  | _ => false

end Executor

end ServiceBroker
