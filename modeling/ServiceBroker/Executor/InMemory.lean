import ServiceBroker.Digest.Sha256
import ServiceBroker.Executor.Basic
import ServiceBroker.Table

/-!
# The executor in memory

Clusters and bindings are kept in tables and nothing else is touched, for development and for trying
a platform out. Credentials follow from the binding ID, so a repeated bind finds the same ones.

## Main definitions

* `InMemory`: the tables
* `InMemory.executor`: the executor over them
* `InMemory.bindingCount`: the number of bindings of an instance
-/

namespace ServiceBroker

/-- The clusters by instance, and the credentials by instance and binding. -/
structure InMemory where
  instances : Table String Cluster.Details
  bindings : Table (String × String) Credential
  deriving DecidableEq, Repr

namespace InMemory

/-- Tables that hold nothing. -/
def empty : InMemory := ⟨[], []⟩

/-- The password of every binding. -/
def password : String := "WaltSentMe"

/-- The user name of a binding: the first half of the digest of its ID. -/
def usernameFor (bindingId : String) : String :=
  "user_" ++ String.ofList (Hex.lower ((Sha256.digest (Utf8.bytes bindingId)).take 16))

/-- The credential of a binding. -/
def credentialFor (bindingId : String) : Credential := ⟨usernameFor bindingId, password⟩

/-- Where a new cluster can be reached. -/
def detailsFor (order : Cluster.Order) : Cluster.Details where
  name := order.clusterName
  clusterName := order.clusterName
  clusterIp := "10.10.33.44"
  externalIp := "198.51.100.42"
  database := "userdb"

/-- The instance has a binding. -/
def hasBindings (s : InMemory) (instanceId : String) : Bool :=
  s.bindings.keys.any fun key => key.1 == instanceId

/-- The number of bindings of an instance. -/
def bindingCount (s : InMemory) (instanceId : String) : Nat :=
  s.bindings.keys.countP fun key => key.1 == instanceId

/-- Carry out an operation. An instance that has bindings is not deleted, and nothing is bound to an
instance that does not exist. -/
def perform : (op : Executor.Operation) → StateM InMemory (Executor.Outcome op)
  | .createCluster order => fun s =>
    (.ok (), { s with instances := s.instances.put order.instanceId (detailsFor order) })
  | .deleteCluster id => fun s =>
    match s.instances.find? id with
    | none => (.error (.instanceNotFound id), s)
    | some _ =>
      if s.hasBindings id then (.error (.bindingsRemain id), s)
      else (.ok (), { s with instances := s.instances.erase id })
  | .createBinding id bindingId _ => fun s =>
    match s.instances.find? id with
    | none => (.error (.instanceNotFound id), s)
    | some _ =>
      match s.bindings.find? (id, bindingId) with
      | some credential => (.ok credential, s)
      | none =>
        let credential := credentialFor bindingId
        (.ok credential, { s with bindings := s.bindings.put (id, bindingId) credential })
  | .deleteBinding id bindingId => fun s =>
    (.ok (), { s with bindings := s.bindings.erase (id, bindingId) })
  | .clusterDetail id => fun s =>
    match s.instances.find? id with
    | none => (.error (.instanceNotFound id), s)
    | some details => (.ok details, s)

/-- The executor in memory. -/
def executor : Executor InMemory := ⟨"mock", perform⟩

end InMemory

end ServiceBroker
