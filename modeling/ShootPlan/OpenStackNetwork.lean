import ShootPlan.Record
import ShootPlan.ZoneRules
/-!
OpenStack networks and documents. All zones share one worker network.
-/
namespace ShootPlan.OpenStackNetwork

structure Networks where
  workers : Option String := none
  deriving DecidableEq

def Networks.record : Record Networks where
  name := "Networks"
  fields := .cons (.optional "workers") .nil
  build := fun (a, ()) => ⟨a⟩
  split n := (n.workers, ())

instance : Coded Networks := Networks.record.coded

/-- The worker network in plain notation; zone names are checked and not used. -/
def layout (network : String) (names : List String) : Except NetworkError Networks := do
  let block ← workerNetwork network
  checkZoneNames names 0
  return ⟨some block.text⟩

structure Infrastructure where
  apiVersion : String := Hyperscaler.openstack.apiVersion
  kind : String := "InfrastructureConfig"
  floatingPoolName : String := "FloatingIP-external-kyma-01"
  networks : Networks
  deriving DecidableEq

namespace Infrastructure

def record : Record Infrastructure where
  name := "InfrastructureConfig"
  fields :=
    .cons (.required "apiVersion") <| .cons (.required "kind") <|
    .cons (.required "floatingPoolName") <| .cons (.required "networks") .nil
  build := fun (a, b, c, d, ()) => ⟨a, b, c, d⟩
  split i := (i.apiVersion, i.kind, i.floatingPoolName, i.networks, ())

instance : Coded Infrastructure := record.coded

/-- The document of a new cluster. -/
def create (network : String) (names : List String) : Except NetworkError Infrastructure := do
  return { networks := ← layout network names }

end Infrastructure

end ShootPlan.OpenStackNetwork
