import ShootPlan.Record
import ShootPlan.ZoneRules
/-!
AWS networks and documents. A zone has a range for workers, a public and an internal one.
The first three zones take a quarter of the worker network each, half of it for workers and
a quarter for each of the others; up to five more zones share the last quarter in equal
small ranges.
-/
namespace ShootPlan.AwsNetwork

structure Zone where
  name : String
  workers : String
  public_ : String
  internal : String
  deriving DecidableEq

def Zone.record : Record Zone where
  name := "Zone"
  fields :=
    .cons (.required "name") <| .cons (.required "workers") <| .cons (.required "public") <|
    .cons (.required "internal") .nil
  build := fun (a, b, c, d, ()) => ⟨a, b, c, d⟩
  split z := (z.name, z.workers, z.public_, z.internal, ())

instance : Coded Zone := Zone.record.coded

def Zone.subnets (zone : Zone) : List String := [zone.workers, zone.public_, zone.internal]

/-- Zones that take a whole quarter. -/
def largeZones : Nat := 3

/-- Where the ranges of a zone start, and how many bits longer its prefixes are. -/
structure Block where
  start : Nat
  workerBits : Nat
  rangeBits : Nat

def block (size index : Nat) : Block :=
  if index < largeZones then ⟨index * (size / 4), 3, 4⟩
  else ⟨3 * size / 4 + (index - largeZones) * 3 * (size / 64), 6, 6⟩

def zone (parent : Cidr) (index : Nat) (name : String) : Except NetworkError Zone := do
  let b := block parent.size index
  let workers ← parent.carve b.start b.workerBits
  let public_ ← parent.carve (b.start + workers.size) b.rangeBits
  let internal ← parent.carve (b.start + workers.size + public_.size) b.rangeBits
  return ⟨name, workers.text, public_.text, internal.text⟩

def zonesFrom (parent : Cidr) : Nat → List String → Except NetworkError (List Zone)
  | _, [] => .ok []
  | index, name :: rest => do
    return (← zone parent index name) :: (← zonesFrom parent (index + 1) rest)

/-- The zones of a worker network, in the order of their names. -/
def layout (network : String) (names : List String) : Except NetworkError (List Zone) := do
  let parent ← workerNetwork network
  checkZoneNames names 1
  zonesFrom parent 0 names

/-- A network that is there already, or the range of one to be made. -/
structure Vpc where
  id : Option String := none
  cidr : Option String := none
  deriving DecidableEq

def Vpc.record : Record Vpc where
  name := "Vpc"
  fields := .cons (.optional "id") <| .cons (.optional "cidr") .nil
  build := fun (a, b, ()) => ⟨a, b⟩
  split v := (v.id, v.cidr, ())

instance : Coded Vpc := Vpc.record.coded

structure Networks where
  vpc : Vpc
  zones : List Zone := []
  deriving DecidableEq

def Networks.record : Record Networks where
  name := "Networks"
  fields := .cons (.required "vpc") <| .cons (.defaulted "zones" []) .nil
  build := fun (a, b, ()) => ⟨a, b⟩
  split n := (n.vpc, n.zones, ())

instance : Coded Networks := Networks.record.coded

structure DualStack where
  enabled : Bool
  deriving DecidableEq

def DualStack.record : Record DualStack where
  name := "DualStack"
  fields := .cons (.required "enabled") .nil
  build := fun (a, ()) => ⟨a⟩
  split d := (d.enabled, ())

instance : Coded DualStack := DualStack.record.coded

structure Infrastructure where
  apiVersion : String := Hyperscaler.aws.apiVersion
  kind : String := "InfrastructureConfig"
  networks : Networks
  dualStack : Option DualStack := none
  deriving DecidableEq

namespace Infrastructure

def record : Record Infrastructure where
  name := "InfrastructureConfig"
  fields :=
    .cons (.required "apiVersion") <| .cons (.required "kind") <| .cons (.required "networks") <|
    .cons (.optional "dualStack") .nil
  build := fun (a, b, c, d, ()) => ⟨a, b, c, d⟩
  split i := (i.apiVersion, i.kind, i.networks, i.dualStack, ())

instance : Coded Infrastructure := record.coded

/-- The document of a new cluster. -/
def create (network : String) (names : List String) (dualStack : Bool) :
    Except NetworkError Infrastructure := do
  let zones ← layout network names
  return {
    networks := { vpc := { cidr := some network }, zones }
    dualStack := if dualStack then some ⟨true⟩ else none }

def zoneNames (doc : Infrastructure) : List String := doc.networks.zones.map Zone.name

/--
The document with zones appended. They get the ranges of their positions, the zones that
are there stay as they are, and no added range may overlap one of theirs.
-/
def grow (doc : Infrastructure) (network : String) (added : List String) :
    Except NetworkError Infrastructure := do
  let zones ← layout network (doc.zoneNames ++ added)
  let fresh := zones.drop doc.networks.zones.length
  ensureDisjoint (doc.networks.zones.flatMap Zone.subnets) (fresh.flatMap Zone.subnets)
  return { doc with networks := { doc.networks with zones := doc.networks.zones ++ fresh } }

end Infrastructure

structure InstanceMetadataOptions where
  httpTokens : Option String := none
  httpPutResponseHopLimit : Option Int64 := none
  deriving DecidableEq

def InstanceMetadataOptions.record : Record InstanceMetadataOptions where
  name := "InstanceMetadataOptions"
  fields := .cons (.optional "httpTokens") <| .cons (.optional "httpPutResponseHopLimit") .nil
  build := fun (a, b, ()) => ⟨a, b⟩
  split o := (o.httpTokens, o.httpPutResponseHopLimit, ())

instance : Coded InstanceMetadataOptions := InstanceMetadataOptions.record.coded

/-- The provider's document of a worker pool. -/
structure WorkerConfig where
  apiVersion : String := Hyperscaler.aws.apiVersion
  kind : String := "WorkerConfig"
  instanceMetadataOptions : Option InstanceMetadataOptions := none
  deriving DecidableEq

def WorkerConfig.record : Record WorkerConfig where
  name := "WorkerConfig"
  fields :=
    .cons (.required "apiVersion") <| .cons (.required "kind") <|
    .cons (.optional "instanceMetadataOptions") .nil
  build := fun (a, b, c, ()) => ⟨a, b, c⟩
  split c := (c.apiVersion, c.kind, c.instanceMetadataOptions, ())

instance : Coded WorkerConfig := WorkerConfig.record.coded

/-- Instance metadata only for requests that carry a session token. -/
def WorkerConfig.tokensRequired : WorkerConfig where
  instanceMetadataOptions := some ⟨some "required", some 2⟩

end ShootPlan.AwsNetwork
