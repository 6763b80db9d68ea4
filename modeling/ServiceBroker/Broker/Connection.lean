import ServiceBroker.Cluster.Basic
import ServiceBroker.Failure
import ServiceBroker.Url.Edit

/-!
# Connection documents

An application is given a URL with which it can connect to its database, and beside it the parts of
that URL. The address is checked before a user is created, so that a bad one leaves nothing behind.

## Main definitions

* `Connection.base`: the URL of a database at an address
* `Connection.ofCredential`: the document for a credential
-/

namespace ServiceBroker

/-- What an application needs to connect to its database. -/
structure Connection where
  username : String
  password : String
  port : Nat
  database : String
  host : String
  internalHost : String
  uri : String
  deriving DecidableEq, Repr

namespace Connection

/-- The port of every database. -/
def databasePort : Nat := 5432

/-- The scheme of a connection URL. -/
def scheme : String := "postgresql"

/-- The failure to build a connection URL. -/
def cannotBuild (what : String) : Failure := .internal s!"cannot build connection URI: {what}"

/-- The text of a host inside a URL: an IPv6 literal is written anew, in brackets. -/
def authority (host : String) : String :=
  match Ipv6.parse? host.toList with
  | some a => s!"[{String.ofList a.display}]"
  | none => host

/-- The URL of a database at an address, without credentials. -/
def base (host database : String) : Except Failure Url :=
  if host = "" then .error (.executor (.shapeMismatch "cluster advertises no service address"))
  else
    match Url.parse s!"{scheme}://{authority host}:{databasePort}/" with
    | .error defect => .error (cannotBuild s!"host {Text.quote host}: {defect.message}")
    | .ok url => .ok (url.setPath database)

/-- The document for a credential on a cluster whose connection URL is `base`. -/
def ofCredential (details : Cluster.Details) (base : Url) (credential : Credential) :
    Except Failure Connection :=
  match base.setUsername? credential.username with
  | none => .error (cannotBuild "username")
  | some url =>
    match url.setPassword? credential.password with
    | none => .error (cannotBuild "password")
    | some url => .ok {
        username := credential.username
        password := credential.password
        port := databasePort
        database := details.database
        host := details.advertisedHost
        internalHost := details.clusterIp
        uri := String.ofList url.write }

/-- The document as applications receive it. -/
def toJson (c : Connection) : Json :=
  .ofMembers [("username", .string c.username), ("password", .string c.password),
    ("db_port", .nat c.port), ("db_name", .string c.database), ("db_host", .string c.host),
    ("internal_host", .string c.internalHost), ("uri", .string c.uri)]

/-- The document in log text, without its password and the URL that holds it. -/
def logText (c : Connection) : String :=
  Text.partialRecord "BindCredentials" [
    ("username", Text.quote c.username), ("db_port", toString c.port),
    ("db_name", Text.quote c.database), ("db_host", Text.quote c.host),
    ("internal_host", Text.quote c.internalHost)]

end Connection

end ServiceBroker
