import ServiceBroker.Executor.Basic

/-!
# Executors with fixed answers

## Main definitions

* `Executor.Answers`: one outcome for every sort of operation
* `Executor.fixed`: the executor that always gives them
-/

namespace ServiceBroker.Executor

/-- One outcome for every sort of operation. -/
structure Answers where
  createCluster : Except Failure Unit
  deleteCluster : Except Failure Unit
  createBinding : Except Failure Credential
  deleteBinding : Except Failure Unit
  clusterDetail : Except Failure Cluster.Details

/-- The outcome of an operation. -/
def Answers.outcome (a : Answers) : (op : Operation) → Outcome op
  | .createCluster _ => a.createCluster
  | .deleteCluster _ => a.deleteCluster
  | .createBinding .. => a.createBinding
  | .deleteBinding .. => a.deleteBinding
  | .clusterDetail _ => a.clusterDetail

/-- The executor that always gives the same answers. -/
def fixed (a : Answers) : Executor Unit := ⟨"scripted", fun op s => (a.outcome op, s)⟩

end ServiceBroker.Executor
