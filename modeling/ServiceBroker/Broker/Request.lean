import ServiceBroker.Catalog
import ServiceBroker.Failure

/-!
# Request bodies of the broker

## Main definitions

* `ProvisionRequest`, `UpdateRequest`, `BindRequest`: the bodies, each with its reader
* `ProvisionParameters.ofMembers`: the parameters that a provision cannot do without
* `BindRequest.appId`: the application that a binding is for
-/

namespace ServiceBroker

open Json

/-- The body of a request to create a service instance. -/
structure ProvisionRequest where
  serviceId : String
  planId : String
  organizationGuid : Option String
  spaceGuid : Option String
  parameters : Option Members
  context : Option Json

/-- Reads the body of a request to create a service instance. -/
def ProvisionRequest.reader : Reader ProvisionRequest :=
  Record.reader "struct ProvisionRequest" <|
    ProvisionRequest.mk <$> .required "service_id" .string <*> .required "plan_id" .string <*>
      .optional "organization_guid" .string <*> .optional "space_guid" .string <*>
      .optional "parameters" .members <*> .optional "context" .json

/-- The parameters that a provision cannot do without. -/
structure ProvisionParameters where
  clusterName : String
  namespaceName : String
  deriving DecidableEq, Repr

/-- A parameter that has to be a string and not an empty one. -/
def requiredParameter (parameters : Option Members) (key : String) : Except Failure String :=
  match parameters.bind fun members => members.find? key with
  | some (.string s) => if s = "" then .error (.missingParameter key) else .ok s
  | _ => .error (.missingParameter key)

/-- The parameters that a provision cannot do without; the cluster name is asked for first. -/
def ProvisionParameters.ofMembers (parameters : Option Members) :
    Except Failure ProvisionParameters := do
  let clusterName ← requiredParameter parameters clusterNameParameter
  let namespaceName ← requiredParameter parameters namespaceParameter
  return ⟨clusterName, namespaceName⟩

/-- The body of a request to change a service instance. -/
structure UpdateRequest where
  serviceId : String
  planId : Option String
  parameters : Option Members

/-- Reads the body of a request to change a service instance. -/
def UpdateRequest.reader : Reader UpdateRequest :=
  Record.reader "struct UpdateRequest" <|
    UpdateRequest.mk <$> .required "service_id" .string <*> .optional "plan_id" .string <*>
      .optional "parameters" .members

/-- What a binding is for. -/
structure BindResource where
  appGuid : Option String
  deriving DecidableEq, Repr

/-- Reads what a binding is for. -/
def BindResource.reader : Reader BindResource :=
  Record.reader "struct BindResource" <| BindResource.mk <$> .optional "app_guid" .string

/-- The body of a request to create a binding. Its own application ID is the older form of the one
in the resource. -/
structure BindRequest where
  serviceId : String
  planId : String
  appGuid : Option String
  bindResource : Option BindResource
  parameters : Option Members

/-- Reads the body of a request to create a binding. -/
def BindRequest.reader : Reader BindRequest :=
  Record.reader "struct BindRequest" <|
    BindRequest.mk <$> .required "service_id" .string <*> .required "plan_id" .string <*>
      .optional "app_guid" .string <*> .optional "bind_resource" BindResource.reader <*>
      .optional "parameters" .members

/-- The application that a binding is for, if the platform names one: the ID in the resource goes
before the other, and an empty ID names none. -/
def BindRequest.appId (r : BindRequest) : Option String :=
  ((r.bindResource.bind (·.appGuid)).or r.appGuid).filter (· ≠ "")

end ServiceBroker
