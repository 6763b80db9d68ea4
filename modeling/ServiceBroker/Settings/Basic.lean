import ServiceBroker.Text.Blank
import ServiceBroker.Text.Redacted

/-!
# Settings of the broker

## Main definitions

* `Settings`: everything that can be set, in four sections
* `Settings.validate`: the first thing about the settings that rules them out
-/

namespace ServiceBroker

namespace Settings

/-- Where to listen, and what to show to operators. -/
structure Server where
  bind : String
  metricsEnabled : Bool
  debugCredentials : Bool
  deriving DecidableEq, Repr

/-- Listen on every interface and publish metrics. -/
def Server.standard : Server := ⟨"0.0.0.0:8443", true, false⟩

/-- How the broker presents itself to platforms. -/
structure Broker where
  serviceId : Option String
  asyncEnabled : Bool
  deriving DecidableEq, Repr

/-- No fixed service ID, and every operation reported as finished. -/
def Broker.standard : Broker := ⟨none, false⟩

/-- How to reach the cluster-management API. The request timeout counts seconds. -/
structure Remote where
  apiserverUrl : String
  clientVersion : String
  username : String
  password : String
  requestTimeout : UInt64
  insecureSkipVerify : Bool
  instanceLabelKey : String
  kubeconfig : Option String
  deriving DecidableEq, Repr

/-- The client version that is sent when none is set. -/
def Remote.standardClientVersion : String := "4.0.1"

/-- The request timeout when none is set. -/
def Remote.standardTimeout : UInt64 := 30

/-- The label that ties a cluster to its instance when no other is set. -/
def Remote.standardLabelKey : String := "pgo-osb-instance"

/-- A number of seconds in log text. -/
def secondsText (n : UInt64) : String := if n = 0 then "0ns" else s!"{n}s"

/-- How to reach the cluster-management API, in log text, without the password. -/
def Remote.logText (r : Remote) : String :=
  Text.partialRecord "RemoteSettings" [
    ("apiserver_url", Text.quote r.apiserverUrl), ("client_version", Text.quote r.clientVersion),
    ("username", Text.quote r.username), ("request_timeout", secondsText r.requestTimeout),
    ("instance_label_key", Text.quote r.instanceLabelKey)]

/-- What carries out the work: an executor in memory, or the cluster-management API. -/
inductive Executor where
  | inMemory
  | remote (r : Remote)
  deriving DecidableEq, Repr

/-- Who may call: everyone, holders of one name and password, or holders of a token that the
orchestration platform accepts. -/
inductive Authentication where
  | anyone
  | basic (username password : String)
  | tokenReview
  deriving DecidableEq, Repr

end Settings

/-- Everything that can be set. -/
structure Settings where
  server : Settings.Server
  broker : Settings.Broker
  executor : Settings.Executor
  authentication : Settings.Authentication
  deriving DecidableEq, Repr

namespace Settings

/-- The settings when nothing is set. -/
def standard : Settings := ⟨.standard, .standard, .inMemory, .anyone⟩

/-- Settings for trying the broker out: the standard ones with a fixed service ID. -/
def trial : Settings :=
  { standard with broker := ⟨some "4be12541-2945-4101-8a33-79ac0ad58750", false⟩ }

/-- What rules settings out. -/
inductive Defect where
  | blankServiceId
  | notHttpUrl (url : String)
  | noUsername
  | zeroTimeout
  | badLabelKey (key : String)
  | noBasicCredentials
  deriving DecidableEq, Repr

/-- The wording of a defect. -/
def Defect.message : Defect → String
  | .blankServiceId => "broker.service_id must not be empty when set"
  | .notHttpUrl url =>
    s!"executor.apiserver_url must be an http(s) URL, got {Text.quote url}"
  | .noUsername => "executor.username must not be empty"
  | .zeroTimeout => "executor.request_timeout_secs must be greater than 0"
  | .badLabelKey key =>
    s!"executor.instance_label_key is not a valid label key: {Text.quote key}"
  | .noBasicCredentials => "auth.username and auth.password are required for basic auth"

/-- A service ID, if it is set, has to hold more than white space. -/
def Broker.validate (b : Broker) : Except Defect Unit :=
  match b.serviceId with
  | some id => if (Text.trim id.toList).isEmpty then .error .blankServiceId else .ok ()
  | none => .ok ()

/-- The text starts like a URL of the web. -/
def isHttpUrl (url : String) : Bool :=
  "https://".toList.isPrefixOf url.toList || "http://".toList.isPrefixOf url.toList

/-- The text can stand before the equals sign of a label selector. -/
def isLabelKey (key : String) : Bool := !key.toList.isEmpty && !key.toList.contains '='

/-- A remote executor needs a web address, a user name, time to answer and a label. -/
def Executor.validate : Executor → Except Defect Unit
  | .inMemory => .ok ()
  | .remote r =>
    if !isHttpUrl r.apiserverUrl then .error (.notHttpUrl r.apiserverUrl)
    else if r.username.isEmpty then .error .noUsername
    else if r.requestTimeout = 0 then .error .zeroTimeout
    else if !isLabelKey r.instanceLabelKey then .error (.badLabelKey r.instanceLabelKey)
    else .ok ()

/-- Basic authentication needs a name and a password. -/
def Authentication.validate : Authentication → Except Defect Unit
  | .basic username password =>
    if username.isEmpty || password.isEmpty then .error .noBasicCredentials else .ok ()
  | _ => .ok ()

/-- The first thing about the settings that rules them out. -/
def validate (s : Settings) : Except Defect Unit := do
  s.broker.validate
  s.executor.validate
  s.authentication.validate

end Settings

end ServiceBroker
