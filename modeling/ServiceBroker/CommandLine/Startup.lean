import ServiceBroker.Authentication.Basic
import ServiceBroker.CommandLine.Arguments
import ServiceBroker.Executor.Prepared
import ServiceBroker.Server.Address
import ServiceBroker.Server.Basic
import ServiceBroker.Settings.Encoding
import ServiceBroker.Settings.Variable
import ServiceBroker.Toml.Document

/-!
# Starting the server

Settings come from a file and from the environment, whose values go before those of the file. They
are checked, and everything that they name is prepared, before the server listens.

## Main definitions

* `Startup.Failure`: why the server does not start
* `Startup.load`: the settings
* `Startup.prepare`: everything that has to be ready before the server listens
* `Startup.command`: what a call of the program comes to
-/

namespace ServiceBroker.Startup

open CommandLine

/-- Why the server does not start. -/
inductive Failure where
  | noSettings
  | unreadableSettings
  | invalidSettings (defect : Settings.Defect)
  | executor (cause : Executor.Failure)
  | platform (cause : Executor.Failure)
  | authentication (cause : ServiceBroker.Failure)
  | badAddress
  | cannotListen (address : ListenAddress)
  deriving DecidableEq, Repr

/-- The wording of a failure. -/
def Failure.message : Failure → String
  | .noSettings => "No configuration provided."
  | .unreadableSettings => "failed to load configuration"
  | .invalidSettings defect => s!"invalid configuration: {defect.message}"
  | .executor _ => "failed to initialize executor"
  | .platform _ => "failed to create kube client for TokenReview"
  | .authentication _ => "failed to initialize authentication"
  | .badAddress => "invalid bind address"
  | .cannotListen address => s!"failed to bind to {address.write}"

/-- The variables of the environment, by name. -/
abbrev Environment := List (String × String)

/-- A variable other than the one for the path is there for settings. -/
def hasSettings (env : Environment) : Bool :=
  env.any fun v =>
    v.1 != settingsVariable && Variable.namePrefix.toList.isPrefixOf v.1.toList

/-- What the environment says on the platform. -/
def ambience (env : Environment) : Platform.Ambience where
  kubeconfigs :=
    let named := ((env.lookup "KUBECONFIG").map fun paths =>
      ((splitAt (· == ':') paths.toList).filter fun p => !p.isEmpty).map String.ofList).getD []
    if !named.isEmpty then named
    else
      -- Without a home directory that of the administrator counts.
      let home := ((env.lookup "HOME").filter fun home => !home.isEmpty).getD "/root"
      [Files.inside home ".kube/config"]
  host := env.lookup "KUBERNETES_SERVICE_HOST"
  port := env.lookup "KUBERNETES_SERVICE_PORT"

/-- The settings that the file's tree and the environment spell. -/
def settingsOf (file : Json) (env : Environment) : Except Failure Settings :=
  match Settings.reader.fromJson (file.overlay (Variable.tree env)) with
  | .ok settings => .ok settings
  | .error _ => .error .unreadableSettings

/-- The settings. A path that is no file counts as an empty one. -/
def load (path : String) (env : Environment) :
    Program Files.effects (Except Failure Settings) := do
  match ← Files.find path with
  | none =>
    if hasSettings env then return settingsOf (.object []) env else return .error .noSettings
  | some .directory => return settingsOf (.object []) env
  | some .file =>
    match ← Files.read path with
    | .error _ => return .error .unreadableSettings
    | .ok text =>
      match (Utf8.decode? text).bind Toml.ofText? with
      | none => return .error .unreadableSettings
      | some tree => return settingsOf tree env

/-- Everything that is ready before the server listens. -/
structure Ready where
  settings : Settings
  executor : Executor.Prepared
  policy : Policy
  address : ListenAddress

/-- The server of settings. Without a service ID of its own it takes the one that is made up for it.
-/
def Ready.server (r : Ready) (madeUp : String) : Server where
  broker := ⟨r.settings.broker.serviceId.getD madeUp, r.settings.broker.asyncEnabled⟩
  policy := r.policy
  executorKind := r.executor.kind
  publishesMetrics := r.settings.server.metricsEnabled

/-- The path of a kubeconfig that settings name. -/
def kubeconfigOf : Settings.Executor → Option String
  | .inMemory => none
  | .remote r => r.kubeconfig

/-- Reach the platform if tokens are to be validated there. -/
def connectForTokens (s : Settings) (env : Environment) :
    Program Files.effects (Except Executor.Failure Unit) :=
  match s.authentication with
  | .tokenReview => Platform.connect (ambience env) (kubeconfigOf s.executor)
  | _ => .done (.ok ())

/-- What settings ask for beside an executor. -/
def finish (s : Settings) (executor : Executor.Prepared) : Except Failure Ready :=
  match Policy.ofSettings s.authentication true with
  | .error cause => .error (.authentication cause)
  | .ok policy =>
    match ListenAddress.parse? s.server.bind with
    | none => .error .badAddress
    | some address => .ok ⟨s, executor, policy, address⟩

/-- Everything that has to be ready before the server listens. -/
def prepare (path : String) (env : Environment) :
    Program Files.effects (Except Failure Ready) := do
  match ← load path env with
  | .error failure => return .error failure
  | .ok settings =>
    match settings.validate with
    | .error defect => return .error (.invalidSettings defect)
    | .ok () =>
      match ← Executor.prepare (ambience env) settings.executor with
      | .error cause => return .error (.executor cause)
      | .ok executor =>
        match ← connectForTokens settings env with
        | .error cause => return .error (.platform cause)
        | .ok () => return finish settings executor

/-- What a call of the program comes to: lines to print, a server to run, or an end with a message
and an exit code. -/
inductive Outcome where
  | print (lines : List String)
  | listen (ready : Ready)
  | fail (message : String) (exitCode : UInt8)

/-- What a call of the program comes to. -/
def command (arguments : List String) (env : Environment) : Program Files.effects Outcome := do
  let environmentPath := env.lookup settingsVariable
  match parse arguments with
  | .error defect => return .fail s!"error: {defect.message}" 2
  | .ok .help => return .print (help environmentPath)
  | .ok .version => return .print [versionText Server.version]
  | .ok (.serve named) =>
    match ← prepare ((named.or environmentPath).getD standardSettingsPath) env with
    | .error failure => return .fail s!"Error: {failure.message}" 1
    | .ok ready => return .listen ready

end ServiceBroker.Startup
