import ServiceBroker.Json.Record

/-!
# Service plans

Plan IDs and names are published to platforms and never change or get used again.

## Main definitions

* `Tier`, `Plan.Sizing`: what is asked of the cluster manager
* `Plan.all`: the plans on offer
* `Plan.resolve`: the sizing of a plan ID, with a default for IDs that name no plan
-/

namespace ServiceBroker

/-- A size class of a resource; `default` leaves the choice to the cluster manager. -/
inductive Tier where
  | default
  | small
  | medium
  | large
  deriving DecidableEq, Repr

namespace Tier

/-- The name of a tier. -/
def name : Tier → String
  | .default => "default"
  | .small => "small"
  | .medium => "medium"
  | .large => "large"

/-- Every tier, in ascending order. -/
def all : List Tier := [.default, .small, .medium, .large]

/-- A tier as JSON. -/
def toJson (t : Tier) : Json := .string t.name

/-- Reads a tier from its name. -/
def reader : Json.Reader Tier := .variant (all.map fun t => (t.name, t))

end Tier

namespace Plan

/-- The sizing of a new cluster. -/
structure Sizing where
  resource : Tier
  storage : Tier
  replicas : UInt32
  deriving DecidableEq, Repr

/-- A sizing as JSON. -/
def Sizing.toJson (s : Sizing) : Json :=
  .ofMembers [("resourceTier", s.resource.toJson), ("storageTier", s.storage.toJson),
    ("replicaCount", .nat s.replicas.toNat)]

/-- The fields of a sizing. -/
def Sizing.record : Json.Record Sizing :=
  Sizing.mk <$> .required "resourceTier" Tier.reader <*> .required "storageTier" Tier.reader <*>
    .required "replicaCount" .uint32

/-- Reads a sizing. -/
def Sizing.reader : Json.Reader Sizing := Sizing.record.reader "struct PlanConfig"

end Plan

/-- A plan as the catalog publishes it. -/
structure Plan where
  id : String
  name : String
  description : String
  sizing : Plan.Sizing
  deriving DecidableEq, Repr

namespace Plan

/-- The plan whose sizing applies when nothing more specific is known. -/
def standard : Plan :=
  ⟨"86064792-7ea2-467b-af93-ac9694d96d5c", "default", "The default plan for the pgo osb service",
    ⟨.default, .default, 0⟩⟩

/-- The plans on offer. -/
def all : List Plan := [
  standard,
  ⟨"885a1cb6-ca42-43e9-a725-8195918e1343", "standalone_sm", "Small postgres server, no replicas",
    ⟨.small, .small, 0⟩⟩,
  ⟨"dc951396-bb28-45a4-b040-cfe3bebc6121", "standalone_md", "Medium postgres server, no replicas",
    ⟨.medium, .medium, 0⟩⟩,
  ⟨"04349656-4dc9-4b67-9b15-52a93d64d566", "standalone_lg", "Large postgres server, no replicas",
    ⟨.large, .large, 0⟩⟩,
  ⟨"877432f8-07eb-4e57-b984-d025a71d2282", "ha_sm", "Small postgres server with replicas",
    ⟨.small, .small, 2⟩⟩,
  ⟨"89bcdf8a-e637-4bb3-b7ce-aca083cc1e69", "ha_md", "Medium postgres server with replicas",
    ⟨.medium, .medium, 2⟩⟩,
  ⟨"470ca1a0-2763-41f1-a4cf-985acdb549ab", "ha_lg", "Large postgres server with replicas",
    ⟨.large, .large, 2⟩⟩]

/-- The plan with a given ID. -/
def find? (id : String) : Option Plan := all.find? fun p => p.id == id

/-- The sizing of a plan ID; an ID that names no plan gets the standard one. -/
def resolve (id : String) : Sizing := ((find? id).getD standard).sizing

end Plan

end ServiceBroker
