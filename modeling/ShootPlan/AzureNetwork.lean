import ShootPlan.Record
import ShootPlan.ZoneRules
/-!
Azure networks and documents. Zones are numbers; each gets an eighth of the worker network
and a NAT gateway. A cluster without zones puts the whole worker network into one subnet.
-/
namespace ShootPlan.AzureNetwork

structure NatGateway where
  enabled : Bool
  idleConnectionTimeoutMinutes : Option Int32 := none
  deriving DecidableEq

def NatGateway.record : Record NatGateway where
  name := "NatGateway"
  fields := .cons (.required "enabled") <| .cons (.optional "idleConnectionTimeoutMinutes") .nil
  build := fun (a, b, ()) => ⟨a, b⟩
  split g := (g.enabled, g.idleConnectionTimeoutMinutes, ())

instance : Coded NatGateway := NatGateway.record.coded

def NatGateway.standard : NatGateway := ⟨true, some 4⟩

structure Zone where
  name : Int32
  cidr : String
  natGateway : Option NatGateway := none
  deriving DecidableEq

def Zone.record : Record Zone where
  name := "Zone"
  fields := .cons (.required "name") <| .cons (.required "cidr") <| .cons (.optional "natGateway") .nil
  build := fun (a, b, c, ()) => ⟨a, b, c⟩
  split z := (z.name, z.cidr, z.natGateway, ())

instance : Coded Zone := Zone.record.coded

/-- The zone that a name means: a number from 1 to 8 in any spelling, else none. -/
def zoneNumber? (name : String) : Option Int32 :=
  match Numeral.signed? name.toList with
  | some n => if 1 ≤ n ∧ n ≤ 8 then some (.ofInt n) else none
  | none => none

/-- The numbers that names mean; other names are skipped, a second name of one number refused. -/
def zoneNumbers (seen : List Int32) : List String → Except NetworkError (List Int32)
  | [] => .ok []
  | name :: rest =>
    match zoneNumber? name with
    | none => zoneNumbers seen rest
    | some n =>
      if n ∈ seen then .error (.duplicateZone name)
      else (zoneNumbers (n :: seen) rest).map (n :: ·)

def zonesFrom (parent : Cidr) : Nat → List Int32 → Except NetworkError (List Zone)
  | _, [] => .ok []
  | index, number :: rest => do
    let subnet ← parent.carve (index * (parent.size / 8)) 3
    return ⟨number, subnet.text, some .standard⟩ :: (← zonesFrom parent (index + 1) rest)

/-- The zones of a worker network, one for each name that means a number. -/
def layout (network : String) (names : List String) : Except NetworkError (List Zone) := do
  let parent ← workerNetwork network
  checkZoneNames names 0
  zonesFrom parent 0 (← zoneNumbers [] names)

/-- A virtual network that is there already, or the range of one to be made. -/
structure VNet where
  name : Option String := none
  resourceGroup : Option String := none
  cidr : Option String := none
  deriving DecidableEq

def VNet.record : Record VNet where
  name := "VNet"
  fields :=
    .cons (.optional "name") <| .cons (.optional "resourceGroup") <| .cons (.optional "cidr") .nil
  build := fun (a, b, c, ()) => ⟨a, b, c⟩
  split v := (v.name, v.resourceGroup, v.cidr, ())

instance : Coded VNet := VNet.record.coded

/-- The subnet and the gateway are for clusters without zones. -/
structure Networks where
  vnet : VNet
  workers : Option String := none
  natGateway : Option NatGateway := none
  zones : List Zone := []
  deriving DecidableEq

def Networks.record : Record Networks where
  name := "Networks"
  fields :=
    .cons (.required "vnet") <| .cons (.optional "workers") <| .cons (.optional "natGateway") <|
    .cons (.sparse "zones") .nil
  build := fun (a, b, c, d, ()) => ⟨a, b, c, d⟩
  split n := (n.vnet, n.workers, n.natGateway, n.zones, ())

instance : Coded Networks := Networks.record.coded

structure Infrastructure where
  apiVersion : String := Hyperscaler.azure.apiVersion
  kind : String := "InfrastructureConfig"
  networks : Networks
  zoned : Bool := false
  deriving DecidableEq

namespace Infrastructure

def record : Record Infrastructure where
  name := "InfrastructureConfig"
  fields :=
    .cons (.required "apiVersion") <| .cons (.required "kind") <| .cons (.required "networks") <|
    .cons (.defaulted "zoned" false) .nil
  build := fun (a, b, c, d, ()) => ⟨a, b, c, d⟩
  split i := (i.apiVersion, i.kind, i.networks, i.zoned, ())

instance : Coded Infrastructure := record.coded

/-- The document of a new cluster; without a usable zone it is one without zones. -/
def create (network : String) (names : List String) : Except NetworkError Infrastructure := do
  let zones ← layout network names
  let vnet : VNet := { cidr := some network }
  if zones.isEmpty then return { networks := { vnet, workers := some network } }
  else return { networks := { vnet, zones }, zoned := true }

/-- Zone numbers in plain decimal. -/
def zoneNames (doc : Infrastructure) : List String :=
  doc.networks.zones.map fun zone => toString zone.name.toInt

/-- The document with zones appended whose numbers it does not have yet. -/
def grow (doc : Infrastructure) (network : String) (added : List String) :
    Except NetworkError Infrastructure := do
  let zones ← layout network (doc.zoneNames ++ added)
  let fresh := zones.filter fun zone => !doc.networks.zones.any fun z => z.name == zone.name
  ensureDisjoint (doc.networks.zones.map Zone.cidr) (fresh.map Zone.cidr)
  let all := doc.networks.zones ++ fresh
  return { doc with networks := { doc.networks with zones := all }, zoned := !all.isEmpty }

end Infrastructure

end ShootPlan.AzureNetwork
