import ServiceBroker.Text.Redacted

/-!
# Clusters and credentials

## Main definitions

* `Cluster.Order`: what is needed to create a cluster
* `Cluster.Details`: where a cluster can be reached
* `Cluster.Details.advertisedHost`: the address that applications are given
* `Credential`: a user name with its password
-/

namespace ServiceBroker

/-- What is needed to create the cluster of a service instance. The sizing follows from the plan. -/
structure Cluster.Order where
  instanceId : String
  clusterName : String
  namespaceName : String
  planId : String
  deriving DecidableEq, Repr

/-- Where a cluster can be reached. The external address is empty when the cluster is not published
outside the platform. -/
structure Cluster.Details where
  name : String
  clusterName : String
  clusterIp : String
  externalIp : String
  database : String
  deriving DecidableEq, Repr

/-- The address that applications are given: the external one if there is one. -/
def Cluster.Details.advertisedHost (d : Cluster.Details) : String :=
  if d.externalIp = "" then d.clusterIp else d.externalIp

/-- A user name with its password. -/
structure Credential where
  username : String
  password : String
  deriving DecidableEq, Repr

/-- A credential in log text, its password blotted out. -/
def Credential.logText (c : Credential) : String :=
  Text.record "BasicCred"
    [("username", Text.quote c.username), ("password", Text.quote "[REDACTED]")]

end ServiceBroker
