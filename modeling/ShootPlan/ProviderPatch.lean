import ShootPlan.Version
import ShootPlan.WorkerDefaults
/-!
The cloud side of a Shoot that exists. Its documents are kept as they are; added zones are
appended. Pools keep their order, the order of their zones, and their images unless newer
ones are asked for.
-/
namespace ShootPlan

/-- The parts of the existing Shoot that its cloud side depends on. -/
structure PriorProvider where
  workers : List Worker := []
  infrastructureConfig : Option Json := none
  controlPlaneConfig : Option Json := none
  deriving DecidableEq

/-- Existing zones in their order, then the requested ones that are not among them. -/
def alignZones (existing requested : List String) : List String :=
  existing ++ requested.filter (· ∉ existing)

/--
The image of a pool that exists. Without a named request it stays. Of two versions of one
image the greater is taken. Another image is taken as it is asked for.
-/
def WorkerDefaults.patchImage (defaults : WorkerDefaults) (requested existing : Option MachineImage) :
    MachineImage :=
  match requested.filter (·.name ≠ ""), existing with
  | none, some existing => existing
  | some requested, some existing =>
    if requested.name = existing.name then
      let version :=
        match requested.version, existing.version with
        | some wanted, some current => some (Version.max wanted current)
        | wanted, current => wanted.or current
      defaults.image (some { name := requested.name, version })
    else defaults.image (some requested)
  | requested, none => defaults.image requested

namespace PriorProvider

def worker? (prior : PriorProvider) (name : String) : Option Worker :=
  prior.workers.find? fun worker => worker.name == name

/-- Where a pool stood; new pools come after all others. -/
def rank (prior : PriorProvider) (worker : Worker) : Nat :=
  prior.workers.findIdx fun existing => existing.name == worker.name

/-- The Runtime's pools in the order of the existing Shoot, new ones last. -/
def ordered (prior : PriorProvider) (workers : List Worker) : List Worker :=
  workers.mergeSort fun a b => prior.rank a ≤ prior.rank b

/-- A pool of the Runtime with what the existing pool of its name passes on. -/
def patch (prior : PriorProvider) (defaults : WorkerDefaults) (provider : Hyperscaler)
    (worker : Worker) : Worker :=
  let existing := prior.worker? worker.name
  let image := defaults.patchImage worker.machine.image (existing.bind fun e => e.machine.image)
  { worker with
    machine := { worker.machine with image := some image }
    zones :=
      match existing with
      | some e => alignZones e.zones worker.zones
      | none => worker.zones
    updateStrategy := worker.updateStrategy.or (existing.bind Worker.updateStrategy)
    providerConfig :=
      worker.providerConfig.or <|
        (existing.bind Worker.providerConfig).or (defaults.providerConfig provider) }

/-- The document that is there; only OpenStack clusters can do without one. -/
def infrastructure? (prior : PriorProvider) (provider : Hyperscaler) :
    Except ConversionError (Option (Json × InfrastructureDocument)) :=
  match prior.infrastructureConfig with
  | some json =>
    match InfrastructureDocument.decode provider json with
    | .ok doc => .ok (some (json, doc))
    | .error error => .error (.network error)
  | none => if provider = .openstack then .ok none else .error (.infrastructureMissing provider)

/-- Allocate zones in a document; an overlap is a fault of the cluster, not of the request. -/
def growDocument (doc : InfrastructureDocument) (network : String) (added : List String) :
    Except ConversionError Json :=
  match doc.grow network added with
  | .ok grown => .ok grown.json
  | .error (.subnetOverlap subnet persisted) => .error (.zoneOverlap subnet persisted)
  | .error error => .error (.network error)

/--
The document stays as it is unless zones are added. It also stays on OpenStack, where zones
have no networks, and on Azure when the cluster has no zones.
-/
def infrastructure (prior : PriorProvider) (runtime : Runtime) (provider : Hyperscaler)
    (workers : List Worker) : Except ConversionError Json := do
  let zones := zonesOf workers
  match ← prior.infrastructure? provider with
  | none => runtime.newInfrastructure provider zones
  | some (json, doc) =>
    let known := doc.zoneNames?.getD (zonesOf prior.workers)
    let added := zones.filter (· ∉ known)
    if (provider = .azure ∧ known = []) ∨ added = [] ∨ provider = .openstack then return json
    else growDocument doc runtime.spec.shoot.networking.nodes added

def controlPlane (prior : PriorProvider) (provider : Hyperscaler) : Json :=
  prior.controlPlaneConfig.getD (ControlPlaneDocument.create provider).json

end PriorProvider

def Extender.providerPatch (defaults : WorkerDefaults) (prior : PriorProvider) : Extender where
  name := "provider"
  apply runtime shoot := do
    runtime.checkMainWorker
    let provider ← runtime.hyperscaler
    let workers := prior.ordered runtime.spec.shoot.provider.allWorkers
    let infrastructure ← prior.infrastructure runtime provider workers
    let block : ProviderBlock := {
      type := provider.name
      controlPlaneConfig := some (prior.controlPlane provider)
      infrastructureConfig := some infrastructure
      workers := workers.map (prior.patch defaults provider)
      workersSettings := some workersSettings }
    return { shoot with spec := { shoot.spec with provider := block } }

end ShootPlan
