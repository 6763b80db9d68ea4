import ServiceBroker.Executor.InMemory
import ServiceBroker.Executor.Remote
import ServiceBroker.Platform.Kubeconfig
import ServiceBroker.Settings.Basic
import ServiceBroker.Tls.Client
import ServiceBroker.Url.Parser

/-!
# Preparing an executor

An executor is prepared once, from the settings. Everything that it will need later is checked then.

## Main definitions

* `Executor.Prepared`: an executor that is ready for work
* `Executor.prepare`: the executor that settings ask for
-/

namespace ServiceBroker.Executor

/-- An executor that is ready for work. -/
inductive Prepared where
  | inMemory
  | remote (r : Remote)

/-- What sort of executor it is. -/
def Prepared.kind : Prepared → String
  | .inMemory => InMemory.executor.kind
  | .remote r => r.executor.kind

/-- A remote executor, with the platform within reach and the material for its client in place. -/
def prepareRemote (ambience : Platform.Ambience) (s : Settings.Remote) :
    Program Files.effects (Except Failure Prepared) := do
  match Url.parse s.apiserverUrl with
  | .error defect => return .error (.configuration s!"invalid apiserver_url: {defect.message}")
  | .ok url =>
    match ← Platform.connect ambience s.kubeconfig with
    | .error failure => return .error failure
    | .ok () =>
      match ← Tls.prepare .standard with
      | .error failure => return .error failure
      | .ok () => return .ok (.remote {
          baseUrl := url.asBase
          clientVersion := s.clientVersion
          username := s.username
          password := s.password
          labelKey := s.instanceLabelKey })

/-- The executor that settings ask for. -/
def prepare (ambience : Platform.Ambience) (s : Settings.Executor) :
    Program Files.effects (Except Failure Prepared) :=
  match s.validate with
  | .error defect => .done (.error (.configuration defect.message))
  | .ok () =>
    match s with
    | .inMemory => .done (.ok .inMemory)
    | .remote r => prepareRemote ambience r

end ServiceBroker.Executor
