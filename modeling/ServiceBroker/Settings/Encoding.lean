import ServiceBroker.Json.Record
import ServiceBroker.Settings.Basic

/-!
# Settings as JSON

Every section has a reader, which fills in what is left out, and an encoding, which spells
everything out.

## Main definitions

* `Settings.reader`, and a `reader` in the namespace of each section
* `Settings.toJson`, and a `toJson` in the namespace of each section
-/

namespace ServiceBroker.Settings

open Json

/-- The server section with everything spelled out. -/
def Server.toJson (s : Server) : Json :=
  .ofMembers [("bind", .string s.bind), ("metrics_enabled", .bool s.metricsEnabled),
    ("debug_credentials", .bool s.debugCredentials)]

/-- Reads the server section. -/
def Server.reader : Reader Server :=
  Record.reader "struct ServerConfig" <|
    Server.mk <$> .withDefault "bind" .string Server.standard.bind <*>
      .withDefault "metrics_enabled" .bool Server.standard.metricsEnabled <*>
      .withDefault "debug_credentials" .bool Server.standard.debugCredentials

/-- The broker section with everything spelled out. -/
def Broker.toJson (b : Broker) : Json :=
  .ofMembers [("service_id", .ofString? b.serviceId), ("async_enabled", .bool b.asyncEnabled)]

/-- Reads the broker section. -/
def Broker.reader : Reader Broker :=
  Record.reader "struct BrokerConfig" <|
    Broker.mk <$> .optional "service_id" .string <*> .withDefault "async_enabled" .bool false

/-- The executor section with everything spelled out. -/
def Executor.toJson : Executor → Json
  | .inMemory => .ofMembers [("type", .string "mock")]
  | .remote r => .ofMembers [
      ("type", .string "remote"),
      ("apiserver_url", .string r.apiserverUrl),
      ("client_version", .string r.clientVersion),
      ("username", .string r.username),
      ("password", .string r.password),
      ("request_timeout_secs", .nat r.requestTimeout.toNat),
      ("insecure_skip_verify", .bool r.insecureSkipVerify),
      ("instance_label_key", .string r.instanceLabelKey),
      ("kubeconfig", .ofString? r.kubeconfig)]

/-- The fields of a remote executor. -/
def Remote.record : Record Remote :=
  Remote.mk <$> .required "apiserver_url" .string <*>
    .withDefault "client_version" .string Remote.standardClientVersion <*>
    .required "username" .string <*>
    .required "password" .string <*>
    .withDefault "request_timeout_secs" .uint64 Remote.standardTimeout <*>
    .withDefault "insecure_skip_verify" .bool false <*>
    .withDefault "instance_label_key" .string Remote.standardLabelKey <*>
    .optional "kubeconfig" (.stringAs "path string")

/-- Reads the executor section. -/
def Executor.reader : Reader Executor :=
  .tagged "internally tagged enum ExecutorConfig" "type" [
    ("mock", .unit .inMemory),
    ("remote", (Remote.record.reader "struct variant ExecutorConfig::Remote").map .remote)]

/-- The authentication section with everything spelled out. -/
def Authentication.toJson : Authentication → Json
  | .anyone => .ofMembers [("type", .string "none")]
  | .basic username password => .ofMembers [("type", .string "basic"),
      ("username", .string username), ("password", .string password)]
  | .tokenReview => .ofMembers [("type", .string "token_review")]

/-- Reads the authentication section. -/
def Authentication.reader : Reader Authentication :=
  .tagged "internally tagged enum AuthConfig" "type" [
    ("none", .unit .anyone),
    ("basic", Record.reader "struct variant AuthConfig::Basic"
      (.basic <$> .required "username" .string <*> .required "password" .string)),
    ("token_review", .unit .tokenReview)]

/-- Settings with everything spelled out. -/
def toJson (s : Settings) : Json :=
  .ofMembers [("server", s.server.toJson), ("broker", s.broker.toJson),
    ("executor", s.executor.toJson), ("auth", s.authentication.toJson)]

/-- Reads settings. -/
def reader : Reader Settings :=
  Record.reader "struct AppConfig" <|
    Settings.mk <$> .withDefault "server" Server.reader .standard <*>
      .withDefault "broker" Broker.reader .standard <*>
      .withDefault "executor" Executor.reader .inMemory <*>
      .withDefault "auth" Authentication.reader .anyone

end ServiceBroker.Settings
