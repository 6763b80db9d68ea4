import ServiceBroker.Decimal.Literal
import ServiceBroker.Files
import ServiceBroker.Json.Record
import ServiceBroker.Platform.Basic
import ServiceBroker.Tls.Client
import ServiceBroker.Url.Address
import ServiceBroker.Yaml.Block

/-!
# How to reach the platform

A kubeconfig lists clusters, users and contexts, which pair a cluster with a user, and names the
context to use. A pod of the platform can do without one: its environment names a host and a port,
and the files of its service account say whom to trust there.

## Main definitions

* `Kubeconfig`, `Kubeconfig.ofText?`: the part of such a file that counts
* `Kubeconfig.server?`: the address of the cluster that it leads to
* `Platform.accountBundle`: how a pod reaches the platform
* `Platform.connect`: reach the platform that a file describes, or the one that the environment does
-/

namespace ServiceBroker

open Json

/-- A context: which cluster to use, and as which user. -/
structure Kubeconfig.Context where
  cluster : String
  user : Option String
  deriving DecidableEq, Repr

/-- A list of clusters with their addresses, users and contexts, under names; entries may be empty.
-/
structure Kubeconfig where
  current : Option String
  clusters : List (String × Option (Option String))
  users : List (String × Bool)
  contexts : List (String × Option Kubeconfig.Context)
  deriving DecidableEq, Repr

namespace Kubeconfig

/-- Reads an entry that is named. -/
def named {α : Type} (title : String) (r : Record α) : Reader (String × α) :=
  Record.reader title (Prod.mk <$> .required "name" .string <*> r)

/-- Reads a cluster, of which the address counts. -/
def clusterReader : Reader (Option String) :=
  Record.reader "struct Cluster" <|
    (fun server _ _ _ => server) <$> .optional "server" .string <*>
      .optional "insecure-skip-tls-verify" .bool <*>
      .optional "certificate-authority" .string <*>
      .optional "certificate-authority-data" .string

/-- Reads a user, of whom only the name counts. -/
def userReader : Reader Unit :=
  Record.reader "struct AuthInfo" <|
    (fun _ _ _ => ()) <$> .optional "username" .string <*> .optional "password" .string <*>
      .optional "token" .string

/-- Reads a context. -/
def contextReader : Reader Context :=
  Record.reader "struct Context" <|
    (fun cluster user _ => ⟨cluster, user⟩) <$> .required "cluster" .string <*>
      .optional "user" .string <*> .optional "namespace" .string

/-- A list that may be missing. -/
def listOf {α : Type} (key : String) (item : Reader α) : Record (List α) :=
  (·.getD []) <$> .optional key (.list item)

/-- Reads a kubeconfig. -/
def reader : Reader Kubeconfig :=
  Record.reader "struct Kubeconfig" <|
    (fun current clusters users contexts _ _ => ⟨current, clusters, users, contexts⟩) <$>
      .optional "current-context" .string <*>
      listOf "clusters" (named "struct NamedCluster" (.optional "cluster" clusterReader)) <*>
      listOf "users" (named "struct NamedAuthInfo"
        ((fun user => user.isSome) <$> .optional "user" userReader)) <*>
      listOf "contexts" (named "struct NamedContext" (.optional "context" contextReader)) <*>
      .optional "kind" .string <*> .optional "apiVersion" .string

/-- A kubeconfig that lists nothing. -/
def empty : Kubeconfig := ⟨none, [], [], []⟩

/-- Two kubeconfigs as one, in which the first goes before the second. -/
def merge (a b : Kubeconfig) : Kubeconfig where
  current := a.current.or b.current
  clusters := a.clusters ++ b.clusters
  users := a.users ++ b.users
  contexts := a.contexts ++ b.contexts

/-- The kubeconfig that a text spells, all its documents taken together. -/
def ofText? (text : List UInt8) : Option Kubeconfig := do
  let documents ← Yaml.documents? (← Utf8.decode? text)
  let configs ← documents.mapM fun d => (reader.fromJson d).toOption
  return configs.foldl merge empty

/-- The entry with a name, if it is there and not empty. -/
def entry? {α : Type} (entries : List (String × Option α)) (name : String) : Option α :=
  (entries.lookup name).join

/-- The text can be the address of a cluster. -/
def isAddress (text : String) : Bool :=
  !text.isEmpty && text.toList.all fun c =>
    33 ≤ c.toNat && c.toNat < 127 && !"\"<>\\^`\x7b|\x7d".toList.contains c

/-- The address of the cluster that a kubeconfig leads to. -/
def server? (k : Kubeconfig) : Option String := do
  let context ← entry? k.contexts (← k.current)
  let server ← (← entry? k.clusters context.cluster)
  -- A context need not name a user, but one that it names has to be listed.
  let hasUser := (context.user.map fun user => (k.users.lookup user).getD false).getD true
  if hasUser ∧ isAddress server then some server else none

end Kubeconfig

namespace Platform

/-- What the environment says on the platform: where kubeconfigs lie, and under which host and port
a pod reaches it. -/
structure Ambience where
  kubeconfigs : List String
  host : Option String
  port : Option String
  deriving DecidableEq, Repr

/-- Where a kubeconfig lies if the environment says nothing. -/
def Ambience.standard : Ambience := ⟨["/root/.kube/config"], none, none⟩

/-- The kubeconfig in a file, or why it cannot be read. -/
def readKubeconfig (path : String) : Program Files.effects (Except String Kubeconfig) := do
  match ← Files.read path with
  | .error why => return .error s!"failed to read kubeconfig from '{Text.quote path}': {why}"
  | .ok text =>
    match Kubeconfig.ofText? text with
    | none => return .error "failed to parse kubeconfig YAML: "
    | some k => return .ok k

/-- The kubeconfigs in files, as one. -/
def readKubeconfigs : List String → Program Files.effects (Except String Kubeconfig)
  | [] => return .ok .empty
  | path :: rest => do
    match ← readKubeconfig path with
    | .error why => return .error why
    | .ok k => return (← readKubeconfigs rest).map k.merge

/-- A file of the service account that a pod runs as. -/
def accountFile (name : String) : String :=
  Files.inside "/var/run/secrets/kubernetes.io/serviceaccount" name

/-- The text is the number of a port, perhaps with a plus sign. -/
def isPort (text : String) : Bool :=
  let (negative, digits) := Decimal.Literal.sign text.toList
  !negative && !digits.isEmpty && digits.all isDecimalDigit && ofDecimalDigits digits ≤ 65535

/-- A pod needs a host and a port in its environment that make an address; the result says what is
wrong with them otherwise. -/
def Ambience.checkAddress (ambience : Ambience) : Except String Unit :=
  match ambience.host, ambience.port with
  | some host, some port =>
    if !isPort port then .error "failed to parse cluster port: "
    else if !Kubeconfig.isAddress s!"https://{host}:{port}" then
      .error "failed to parse cluster url: "
    else .ok ()
  | _, _ =>
    .error "failed to read an incluster environment variable: environment variable not found"

/-- The certificates with which a pod reaches the platform, or why it cannot. -/
def accountBundle (ambience : Ambience) :
    Program Files.effects (Except String (List UInt8)) := do
  match ambience.checkAddress with
  | .error why => return .error why
  | .ok () =>
    match ← Files.read (accountFile "namespace") with
    | .error why => return .error s!"failed to read the default namespace: {why}"
    | .ok name =>
      if (Utf8.decode? name).isSome then
        match ← Files.read (accountFile "ca.crt") with
        | .error why => return .error s!"failed to read a certificate bundle: {why}"
        | .ok bundle =>
          if (Pem.sections? bundle).isSome then return .ok bundle
          else return .error "failed to parse PEM-encoded certificates: "
      else
        return .error "failed to read the default namespace: stream did not contain valid UTF-8"

/-- Reach the platform as a pod does, if no kubeconfig leads there; `why` says why none does. -/
def connectAsPod (ambience : Ambience) (why : String) :
    Program Files.effects (Except Executor.Failure Unit) := do
  match ← accountBundle ambience with
  | .error whyNot =>
    return .error (.configuration ("failed to infer kube config: failed to infer config: " ++
      s!"in-cluster: ({whyNot}), kubeconfig: ({why})"))
  | .ok bundle =>
    if Tls.isAuthority bundle then return .ok ()
    else return .error (.configuration "failed to create kube client: ")

/-- Reach the platform that a file describes, or else the one that the environment does: with its
kubeconfigs, or else as a pod. -/
def connect (ambience : Ambience) (kubeconfig : Option String) :
    Program Files.effects (Except Executor.Failure Unit) := do
  match kubeconfig with
  | some path =>
    match ← readKubeconfig path with
    | .error _ => return .error (.configuration "failed to read kubeconfig: ")
    | .ok k =>
      if k.server?.isSome then return .ok ()
      else return .error (.configuration "failed to load kubeconfig: ")
  | none =>
    match ← readKubeconfigs ambience.kubeconfigs with
    | .error why => connectAsPod ambience why
    | .ok k =>
      -- A kubeconfig that is in order but leads nowhere does not stand in the way of a pod.
      if k.server?.isSome then return .ok () else connectAsPod ambience ""

end Platform

end ServiceBroker
