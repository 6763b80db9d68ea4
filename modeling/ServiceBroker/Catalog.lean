import ServiceBroker.Plan

/-!
# The service catalog

## Main definitions

* `Catalog`: the services on offer
* `Catalog.ofService`: the catalog of a broker whose one service has a given ID
* `Catalog.toJson`: the catalog as platforms fetch it
-/

namespace ServiceBroker

/-- The provisioning parameter that names the cluster. -/
def clusterNameParameter : String := "CLUSTERNAME"

/-- The provisioning parameter that names the namespace of the cluster. -/
def namespaceParameter : String := "NAMESPACE"

/-- A service on offer. -/
structure Catalog.Service where
  id : String
  name : String
  description : String
  bindable : Bool
  planUpdateable : Bool
  plans : List Plan

/-- The services on offer. -/
structure Catalog where
  services : List Catalog.Service

namespace Catalog

/-- The catalog of a broker whose one service has the given ID. -/
def ofService (serviceId : String) : Catalog where
  services := [{
    id := serviceId
    name := "pgo-osb-service"
    description := "PostgreSQL clusters managed by the postgres operator"
    bindable := true
    planUpdateable := false
    plans := Plan.all }]

/-- The plan IDs of a catalog, in its order. -/
def planIds (c : Catalog) : List String := c.services.flatMap fun s => s.plans.map (·.id)

/-- The JSON schema of the provisioning parameters. -/
def provisionSchema : Json :=
  let text : Json := .ofMembers [("type", .string "string")]
  .ofMembers [("service_instance", .ofMembers [("create", .ofMembers [("parameters", .ofMembers [
    ("$schema", .string "http://json-schema.org/draft-04/schema#"),
    ("type", .string "object"),
    ("properties", .ofMembers [(clusterNameParameter, text), (namespaceParameter, text)]),
    ("required", .array [.string clusterNameParameter, .string namespaceParameter])])])])]

/-- A plan as the catalog shows it. -/
def planJson (p : Plan) : Json :=
  .ofMembers [("id", .string p.id), ("name", .string p.name),
    ("description", .string p.description), ("free", .bool true), ("schemas", provisionSchema)]

/-- A service as the catalog shows it. -/
def serviceJson (s : Service) : Json :=
  .ofMembers [("id", .string s.id), ("name", .string s.name),
    ("description", .string s.description), ("bindable", .bool s.bindable),
    ("plan_updateable", .bool s.planUpdateable),
    ("metadata", .ofMembers [("displayName", .string "pgo osb service"),
      ("imageUrl", .string "https://avatars2.githubusercontent.com/u/19862012?s=200&v=4")]),
    ("plans", .array (s.plans.map planJson))]

/-- The catalog as platforms fetch it. -/
def toJson (c : Catalog) : Json := .ofMembers [("services", .array (c.services.map serviceJson))]

end Catalog

end ServiceBroker
