import ServiceBroker.Executor.Failure
import ServiceBroker.Json.Record
import ServiceBroker.Text.Redacted

/-!
# Answers of the cluster-management API

Every answer is an envelope of a status and results. Only the status code `ok` is success, whatever
the HTTP status.

## Main definitions

* `Cluster.Envelope`: an answer with results of any type
* `Cluster.Envelope.results`: the results, or the rejection
* `Cluster.Shown`, `Cluster.Users`: what the API tells of a cluster and of its users
-/

namespace ServiceBroker.Cluster

open Json

/-- The status code of success. -/
def okCode : String := "ok"

/-- The status of an answer. -/
structure Status where
  code : String
  detail : String
  deriving DecidableEq, Repr

/-- The status is success. -/
def Status.isOk (s : Status) : Bool := s.code == okCode

/-- Reads a status. -/
def Status.reader : Reader Status :=
  Record.reader "struct Status" <|
    Status.mk <$> .withDefault "code" .string "" <*> .withDefault "msg" .string ""

/-- An answer with results of type `α`. -/
structure Envelope (α : Type) where
  status : Status
  contents : List α
  deriving DecidableEq, Repr

/-- Reads an answer. What it does not hold counts as empty. -/
def Envelope.reader {α : Type} (item : Reader α) : Reader (Envelope α) :=
  Record.reader "struct Envelope" <|
    Envelope.mk <$> .withDefault "status" Status.reader ⟨"", ""⟩ <*>
      .withDefault "results" (.list item) []

/-- The results of an answer, or its rejection of an activity. -/
def Envelope.results {α : Type} (e : Envelope α) (activity : String) :
    Except Executor.Failure (List α) :=
  if e.status.isOk then .ok e.contents
  else .error (.downstreamRejected s!"{activity}: {e.status.detail}")

/-- A service through which a cluster can be reached. -/
structure Shown.Service where
  name : String
  clusterName : String
  clusterIp : String
  externalIp : String
  deriving DecidableEq, Repr

/-- Reads a service. -/
def Shown.Service.reader : Reader Shown.Service :=
  Record.reader "struct ShowClusterService" <|
    Shown.Service.mk <$> .withDefault "name" .string "" <*>
      .withDefault "clusterName" .string "" <*> .withDefault "clusterIP" .string "" <*>
      .withDefault "externalIP" .string ""

/-- What the API tells of a cluster. -/
structure Shown where
  database : String
  services : List Shown.Service
  deriving DecidableEq, Repr

/-- Reads what the API tells of a cluster. -/
def Shown.reader : Reader Shown :=
  Record.reader "struct ShowClusterDetail" <|
    Shown.mk <$> .withDefault "database" .string "" <*>
      .withDefault "services" (.list Shown.Service.reader) []

/-- A user of a cluster with its password. -/
structure Users.Secret where
  name : String
  username : String
  password : String
  deriving DecidableEq, Repr

/-- Reads a user. -/
def Users.Secret.reader : Reader Users.Secret :=
  Record.reader "struct UserSecret" <|
    Users.Secret.mk <$> .withDefault "name" .string "" <*> .required "username" .string <*>
      .required "password" .string

/-- A user in log text, without its password. -/
def Users.Secret.logText (s : Users.Secret) : String :=
  Text.partialRecord "UserSecret"
    [("name", Text.quote s.name), ("username", Text.quote s.username)]

/-- The users of a cluster. -/
structure Users where
  clusterName : String
  secrets : List Users.Secret
  deriving DecidableEq, Repr

/-- Reads the users of a cluster. -/
def Users.reader : Reader Users :=
  Record.reader "struct ShowUserDetail" <|
    Users.mk <$> .withDefault "clusterName" .string "" <*>
      .withDefault "secrets" (.list Users.Secret.reader) []

end ServiceBroker.Cluster
