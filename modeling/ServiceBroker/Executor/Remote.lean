import ServiceBroker.Cluster.Envelope
import ServiceBroker.Cluster.Message
import ServiceBroker.Executor.Basic
import ServiceBroker.Http.Status
import ServiceBroker.Identifier
import ServiceBroker.Json.Printer
import ServiceBroker.Locator
import ServiceBroker.Text.Base64
import ServiceBroker.Url.Edit

/-!
# The executor over the cluster-management API

Every request is a single post with basic credentials. A request counts as carried out only if its
answer says so; the first one that is not ends the operation. Before a cluster is deleted its users
are listed, and one with the shape of a binding username stops the deletion.

A client that posts the requests is taken as given. Where one is made anew for every request, from
material that may have changed on disk since the executor was prepared (`Tls.prepare`), that can
fail before the request is posted and end the operation with a wrong configuration; this is left out
here.

## Main definitions

* `Remote`: the connection to the API
* `Remote.Delivery`: what comes back for a request
* `Remote.receive`: what a delivery means
* `Remote.perform`: the operations, as programs
* `Remote.executor`: the executor over a script of answers
-/

namespace ServiceBroker

/-- The connection to the cluster-management API. -/
structure Remote where
  baseUrl : Url
  clientVersion : String
  username : String
  password : String
  labelKey : String

namespace Remote

/-- What comes back for a request: nothing, or a status with a body. -/
inductive Delivery where
  | dropped
  | answered (status : Nat) (body : List UInt8)
  deriving DecidableEq, Repr

/-- What comes back when a response with the given status and bytes after its head is sent. -/
def Delivery.ofResponse (status : Nat) (content : List UInt8) : Delivery :=
  .answered status (if Http.isBodiless status then [] else content)

/-- What an operation asks for: a step towards a namespace, or a request to the API. -/
inductive Request where
  | locate (r : Locator.Request)
  | post (m : Cluster.Message)
  deriving DecidableEq, Repr

/-- The type of the reply to a request. -/
abbrev Request.Reply : Request → Type
  | .locate r => r.Reply
  | .post _ => Delivery

/-- The effects of the operations. -/
abbrev effects : Effects := ⟨Request, Request.Reply⟩

/-- The URL of an endpoint. -/
def url (remote : Remote) (endpoint : Cluster.Endpoint) : Url :=
  remote.baseUrl.join endpoint.name.toList

/-- What a delivery means. Wrong credentials are told apart before anything else, and a success that
cannot be read is none. -/
def receive {α : Type} (remote : Remote) (endpoint : Cluster.Endpoint) (item : Json.Reader α) :
    Delivery → Except Executor.Failure (Cluster.Envelope α)
  | .dropped =>
    let url := String.ofList (remote.url endpoint).withoutCredentials.write
    .error (.transportFailure s!"{endpoint.name}: error sending request for url ({url})")
  | .answered status body =>
    if status = 401 then .error .authenticationFailed
    else if !Http.isSuccess status then
      let text := String.ofList (Utf8.decodeLossy body)
      .error (.downstreamRejected
        s!"{endpoint.name} returned {Http.describeStatus status}: {text}")
    else
      match (Cluster.Envelope.reader item).fromText body with
      | .ok envelope => .ok envelope
      | .error _ => .error (.transportFailure
          s!"decoding {endpoint.name} response: error decoding response body")

/-- Post a request and read the envelope of its answer. The client is taken as given, so a post is
the first thing that happens; and the base URL being that of the web, every endpoint has a URL. -/
def post {α : Type} (remote : Remote) (m : Cluster.Message) (item : Json.Reader α) :
    Program effects (Except Executor.Failure (Cluster.Envelope α)) :=
  .ask (E := effects) (.post m) fun delivery =>
    .done (remote.receive m.endpoint item delivery)

/-- Post a request whose answer has to be a success. -/
def call {α : Type} (remote : Remote) (m : Cluster.Message) (item : Json.Reader α) :
    Program effects (Except Executor.Failure (List α)) := do
  match ← remote.post m item with
  | .error failure => return .error failure
  | .ok envelope => return envelope.results m.endpoint.activity

/-- The label selector of an instance. -/
def selector (remote : Remote) (instanceId : String) : String :=
  Locator.selector remote.labelKey instanceId

/-- The namespace of an instance. -/
def resolve (remote : Remote) (instanceId : String) :
    Program effects (Except Executor.Failure String) :=
  (Locator.resolve remote.labelKey instanceId).substitute fun r =>
    .ask (E := effects) (.locate r) .done

/-- The users of the clusters of an instance. -/
def users (remote : Remote) (namespaceName instanceId : String) :
    Program effects (Except Executor.Failure (List Cluster.Users)) :=
  remote.call (.showUsers {
    clusterName := Cluster.allClusters
    selector := remote.selector instanceId
    namespaceName
    clientVersion := remote.clientVersion
    expired := "" }) Cluster.Users.reader

/-- The secrets of users, in the order of the answer. -/
def secrets (shown : List Cluster.Users) : List Cluster.Users.Secret :=
  shown.flatMap (·.secrets)

/-- Create a cluster. -/
def createCluster (remote : Remote) (order : Cluster.Order) :
    Program effects (Except Executor.Failure Unit) := do
  let created ← remote.call (.createCluster {
    clusterName := order.clusterName
    namespaceName := order.namespaceName
    selector := remote.selector order.instanceId
    clientVersion := remote.clientVersion
    sizing := Plan.resolve order.planId }) Json.Reader.json
  return created.map fun _ => ()

/-- Delete the clusters of an instance, unless a binding still has a user on them. -/
def deleteCluster (remote : Remote) (instanceId : String) :
    Program effects (Except Executor.Failure Unit) := do
  match ← remote.resolve instanceId with
  | .error failure => return .error failure
  | .ok namespaceName =>
    match ← remote.users namespaceName instanceId with
    | .error failure => return .error failure
    | .ok shown =>
      if (secrets shown).any fun s => Identifier.isBindingUsername s.username then
        return .error (.bindingsRemain instanceId)
      else
        let deleted ← remote.call (.deleteCluster {
          clusterName := Cluster.allClusters
          selector := remote.selector instanceId
          namespaceName
          clientVersion := remote.clientVersion
          deleteData := false
          deleteBackups := false }) Json.Reader.json
        return deleted.map fun _ => ()

/-- The user name of a binding. -/
def userOf (bindingId : String) : Except Executor.Failure String :=
  (Identifier.bindingUsername bindingId).mapError fun defect =>
    .invalidIdentifier (defect.message bindingId)

/-- Create the user of a binding and look its password up. A user that is already there is rejected
by the API and found by the look-up all the same. -/
def createBinding (remote : Remote) (instanceId bindingId : String) :
    Program effects (Except Executor.Failure Credential) := do
  match userOf bindingId with
  | .error failure => return .error failure
  | .ok name =>
    match ← remote.resolve instanceId with
    | .error failure => return .error failure
    | .ok namespaceName =>
      match ← remote.post (.createUser {
          name
          namespaceName
          selector := remote.selector instanceId
          managedUser := true
          clientVersion := remote.clientVersion
          passwordLength := Cluster.passwordLength }) Json.Reader.json with
      | .error failure => return .error failure
      -- The look-up decides, so a rejection in the envelope does not count.
      | .ok _ =>
        match ← remote.users namespaceName instanceId with
        | .error failure => return .error failure
        | .ok shown =>
          match (secrets shown).find? fun s => s.username == name with
          | some secret => return .ok ⟨secret.username, secret.password⟩
          | none => return .error (.credentialNotFound
              s!"user {name} missing from cluster secrets")

/-- Delete the user of a binding. -/
def deleteBinding (remote : Remote) (instanceId bindingId : String) :
    Program effects (Except Executor.Failure Unit) := do
  match userOf bindingId with
  | .error failure => return .error failure
  | .ok name =>
    match ← remote.resolve instanceId with
    | .error failure => return .error failure
    | .ok namespaceName =>
      let deleted ← remote.call (.deleteUser {
        username := name
        selector := remote.selector instanceId
        namespaceName
        clientVersion := remote.clientVersion }) Json.Reader.json
      return deleted.map fun _ => ()

/-- The details of an instance for which the API shows exactly one cluster with one service. -/
def detailsOf (instanceId : String) :
    List Cluster.Shown → Except Executor.Failure Cluster.Details
  | [] => .error (.instanceNotFound instanceId)
  | [shown] =>
    match shown.services with
    | [service] => .ok {
        name := service.name
        clusterName := service.clusterName
        clusterIp := service.clusterIp
        externalIp := service.externalIp
        database := shown.database }
    | services => .error (.shapeMismatch
        s!"expected one service for instance {instanceId}, got {services.length}")
  | shown => .error (.shapeMismatch
      s!"expected one cluster for instance {instanceId}, got {shown.length}")

/-- Describe the cluster of an instance. -/
def clusterDetail (remote : Remote) (instanceId : String) :
    Program effects (Except Executor.Failure Cluster.Details) := do
  match ← remote.resolve instanceId with
  | .error failure => return .error failure
  | .ok namespaceName =>
    match ← remote.call (.showClusters {
        clusterName := Cluster.allClusters
        selector := remote.selector instanceId
        namespaceName
        clientVersion := remote.clientVersion }) Cluster.Shown.reader with
    | .error failure => return .error failure
    | .ok shown => return detailsOf instanceId shown

/-- Carry out an operation. -/
def perform (remote : Remote) : (op : Executor.Operation) → Program effects (Executor.Outcome op)
  | .createCluster order => remote.createCluster order
  | .deleteCluster instanceId => remote.deleteCluster instanceId
  | .createBinding instanceId bindingId _ => remote.createBinding instanceId bindingId
  | .deleteBinding instanceId bindingId => remote.deleteBinding instanceId bindingId
  | .clusterDetail instanceId => remote.clusterDetail instanceId

/-- A script of answers: those of the lookup, and the deliveries still to come. The requests posted
so far stand with the latest first. -/
structure Script where
  locator : Locator.Script
  deliveries : List Delivery
  posted : List Cluster.Message

/-- The delivery when no other is left. -/
def lastDelivery : Delivery :=
  .answered 200 (Utf8.bytes (Json.render (.ofMembers [("status", .ofMembers [
    ("code", .string "error"), ("msg", .string "no scripted response")])])))

/-- Give the reply to a request. -/
def Script.answer : (r : Request) → StateM Script r.Reply
  | .locate r => fun s =>
    let (reply, locator) := Locator.Script.answer r s.locator
    (reply, { s with locator })
  | .post m => fun s =>
    (s.deliveries.head?.getD lastDelivery,
      { s with deliveries := s.deliveries.tail, posted := m :: s.posted })

/-- The executor over a script of answers. -/
def executor (remote : Remote) : Executor Script where
  kind := "remote"
  perform op := (remote.perform op).runIn Script.answer

/-- The value of the header that carries a user name and a password. -/
def basicAuthorization (username password : String) : String :=
  "Basic " ++ String.ofList (Base64.encode (Utf8.bytes (username ++ ":" ++ password)))

/-- The authorization of every request. Credentials in the base URL go before the others. -/
def authorization (remote : Remote) : String :=
  let decode (cs : List Char) : String := String.ofList (Utf8.decodeLossy (Percent.decode cs))
  if remote.baseUrl.userinfo.isEmpty then basicAuthorization remote.username remote.password
  else basicAuthorization (decode remote.baseUrl.username) (decode remote.baseUrl.password)

end Remote

end ServiceBroker
