import ServiceBroker.Plan

/-!
# Requests to the cluster-management API

Clusters are addressed by a namespace, a label selector and a name, which here always stands for
every cluster that the selector matches.

## Main definitions

* `Cluster.Message`: a request
* `Cluster.Message.endpoint`: the endpoint that it goes to
* `Cluster.Message.toJson`: its body
-/

namespace ServiceBroker.Cluster

/-- The cluster name that stands for every cluster that the selector matches. -/
def allClusters : String := "all"

/-- The length of the passwords that are generated for bindings. -/
def passwordLength : Nat := 16

/-- Create a cluster that carries the selector as its label. -/
structure CreateCluster where
  clusterName : String
  namespaceName : String
  selector : String
  clientVersion : String
  sizing : Plan.Sizing
  deriving DecidableEq, Repr

/-- Delete clusters, and their data and backups if that is asked for. -/
structure DeleteCluster where
  clusterName : String
  selector : String
  namespaceName : String
  clientVersion : String
  deleteData : Bool
  deleteBackups : Bool
  deriving DecidableEq, Repr

/-- Describe clusters. -/
structure ShowClusters where
  clusterName : String
  selector : String
  namespaceName : String
  clientVersion : String
  deriving DecidableEq, Repr

/-- Create a user with a generated password. -/
structure CreateUser where
  name : String
  namespaceName : String
  selector : String
  managedUser : Bool
  clientVersion : String
  passwordLength : Nat
  deriving DecidableEq, Repr

/-- List the users of clusters; `expired` narrows the list down to users about to expire. -/
structure ShowUsers where
  clusterName : String
  selector : String
  namespaceName : String
  clientVersion : String
  expired : String
  deriving DecidableEq, Repr

/-- Delete a user. -/
structure DeleteUser where
  username : String
  selector : String
  namespaceName : String
  clientVersion : String
  deriving DecidableEq, Repr

/-- A request to the cluster-management API. -/
inductive Message where
  | createCluster (m : CreateCluster)
  | deleteCluster (m : DeleteCluster)
  | showClusters (m : ShowClusters)
  | createUser (m : CreateUser)
  | showUsers (m : ShowUsers)
  | deleteUser (m : DeleteUser)
  deriving DecidableEq, Repr

/-- The endpoints of the API. -/
inductive Endpoint where
  | clusters
  | clustersDelete
  | showClusters
  | userCreate
  | userShow
  | usersDelete
  deriving DecidableEq, Repr

/-- The name of an endpoint, relative to the base URL of the API. -/
def Endpoint.name : Endpoint → String
  | .clusters => "clusters"
  | .clustersDelete => "clustersdelete"
  | .showClusters => "showclusters"
  | .userCreate => "usercreate"
  | .userShow => "usershow"
  | .usersDelete => "usersdelete"

/-- What an endpoint does, as failures word it. -/
def Endpoint.activity : Endpoint → String
  | .clusters => "create cluster"
  | .clustersDelete => "delete cluster"
  | .showClusters => "show cluster"
  | .userCreate => "create user"
  | .userShow => "show user"
  | .usersDelete => "delete user"

/-- The endpoint that a request goes to. -/
def Message.endpoint : Message → Endpoint
  | .createCluster _ => .clusters
  | .deleteCluster _ => .clustersDelete
  | .showClusters _ => .showClusters
  | .createUser _ => .userCreate
  | .showUsers _ => .userShow
  | .deleteUser _ => .usersDelete

/-- The body of a request. -/
def Message.toJson : Message → Json
  | .createCluster m => .ofMembers [
      ("clusterName", .string m.clusterName), ("namespace", .string m.namespaceName),
      ("selector", .string m.selector), ("clientVersion", .string m.clientVersion),
      ("planAttributes", m.sizing.toJson)]
  | .deleteCluster m => .ofMembers [
      ("clusterName", .string m.clusterName), ("selector", .string m.selector),
      ("namespace", .string m.namespaceName), ("clientVersion", .string m.clientVersion),
      ("deleteData", .bool m.deleteData), ("deleteBackups", .bool m.deleteBackups)]
  | .showClusters m => .ofMembers [
      ("clusterName", .string m.clusterName), ("selector", .string m.selector),
      ("namespace", .string m.namespaceName), ("clientVersion", .string m.clientVersion)]
  | .createUser m => .ofMembers [
      ("name", .string m.name), ("namespace", .string m.namespaceName),
      ("selector", .string m.selector), ("managedUser", .bool m.managedUser),
      ("clientVersion", .string m.clientVersion), ("passwordLength", .nat m.passwordLength)]
  | .showUsers m => .ofMembers [
      ("clusterName", .string m.clusterName), ("selector", .string m.selector),
      ("namespace", .string m.namespaceName), ("clientVersion", .string m.clientVersion),
      ("expired", .string m.expired)]
  | .deleteUser m => .ofMembers [
      ("username", .string m.username), ("selector", .string m.selector),
      ("namespace", .string m.namespaceName), ("clientVersion", .string m.clientVersion)]

end ServiceBroker.Cluster
