import ShootPlan.Record
import ShootPlan.ZoneRules
/-!
Alicloud networks and documents. A zone is one range for workers, an eighth of the worker
network.
-/
namespace ShootPlan.AlicloudNetwork

structure Zone where
  name : String
  workers : String
  deriving DecidableEq

def Zone.record : Record Zone where
  name := "Zone"
  fields := .cons (.required "name") <| .cons (.required "workers") .nil
  build := fun (a, b, ()) => ⟨a, b⟩
  split z := (z.name, z.workers, ())

instance : Coded Zone := Zone.record.coded

def zonesFrom (parent : Cidr) : Nat → List String → Except NetworkError (List Zone)
  | _, [] => .ok []
  | index, name :: rest => do
    let workers ← parent.carve (index * (parent.size / 8)) 3
    return ⟨name, workers.text⟩ :: (← zonesFrom parent (index + 1) rest)

/-- The zones of a worker network, in the order of their names. -/
def layout (network : String) (names : List String) : Except NetworkError (List Zone) := do
  let parent ← workerNetwork network
  checkZoneNames names 1
  zonesFrom parent 0 names

/-- A network that is there already, or the range of one to be made. -/
structure Vpc where
  id : Option String := none
  cidr : Option String := none
  deriving DecidableEq

def Vpc.record : Record Vpc where
  name := "Vpc"
  fields := .cons (.optional "id") <| .cons (.optional "cidr") .nil
  build := fun (a, b, ()) => ⟨a, b⟩
  split v := (v.id, v.cidr, ())

instance : Coded Vpc := Vpc.record.coded

structure Networks where
  vpc : Vpc
  zones : List Zone := []
  deriving DecidableEq

def Networks.record : Record Networks where
  name := "Networks"
  fields := .cons (.required "vpc") <| .cons (.defaulted "zones" []) .nil
  build := fun (a, b, ()) => ⟨a, b⟩
  split n := (n.vpc, n.zones, ())

instance : Coded Networks := Networks.record.coded

structure Infrastructure where
  apiVersion : String := Hyperscaler.alicloud.apiVersion
  kind : String := "InfrastructureConfig"
  networks : Networks
  deriving DecidableEq

namespace Infrastructure

def record : Record Infrastructure where
  name := "InfrastructureConfig"
  fields :=
    .cons (.required "apiVersion") <| .cons (.required "kind") <| .cons (.required "networks") .nil
  build := fun (a, b, c, ()) => ⟨a, b, c⟩
  split i := (i.apiVersion, i.kind, i.networks, ())

instance : Coded Infrastructure := record.coded

/-- The document of a new cluster. -/
def create (network : String) (names : List String) : Except NetworkError Infrastructure := do
  let zones ← layout network names
  return { networks := { vpc := { cidr := some network }, zones } }

def zoneNames (doc : Infrastructure) : List String := doc.networks.zones.map Zone.name

/-- The document with zones appended; no added range may overlap one that is there. -/
def grow (doc : Infrastructure) (network : String) (added : List String) :
    Except NetworkError Infrastructure := do
  let zones ← layout network (doc.zoneNames ++ added)
  let fresh := zones.drop doc.networks.zones.length
  ensureDisjoint (doc.networks.zones.map Zone.workers) (fresh.map Zone.workers)
  return { doc with networks := { doc.networks with zones := doc.networks.zones ++ fresh } }

end Infrastructure

end ShootPlan.AlicloudNetwork
