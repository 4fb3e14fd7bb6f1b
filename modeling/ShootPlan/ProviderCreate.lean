import ShootPlan.WorkerDefaults
/-!
The cloud side of a new Shoot, from the Runtime alone.
-/
namespace ShootPlan

/-- A pool as the Runtime describes it, with image and document filled in. -/
def Worker.create (defaults : WorkerDefaults) (provider : Hyperscaler) (worker : Worker) : Worker :=
  { worker with
    machine := { worker.machine with image := some (defaults.image worker.machine.image) }
    providerConfig := worker.providerConfig.or (defaults.providerConfig provider) }

/-- A document that the Runtime supplies is taken as it is. -/
def Runtime.createInfrastructure (runtime : Runtime) (provider : Hyperscaler) :
    Except ConversionError Json :=
  match runtime.spec.shoot.provider.infrastructureConfig with
  | some supplied => .ok supplied
  | none => runtime.newInfrastructure provider (zonesOf runtime.spec.shoot.provider.allWorkers)

def Runtime.createControlPlane (runtime : Runtime) (provider : Hyperscaler) : Json :=
  runtime.spec.shoot.provider.controlPlaneConfig.getD (ControlPlaneDocument.create provider).json

def Extender.providerCreate (defaults : WorkerDefaults) : Extender where
  name := "provider"
  apply runtime shoot := do
    runtime.checkMainWorker
    let provider ← runtime.hyperscaler
    let infrastructure ← runtime.createInfrastructure provider
    let block : ProviderBlock := {
      type := provider.name
      controlPlaneConfig := some (runtime.createControlPlane provider)
      infrastructureConfig := some infrastructure
      workers := runtime.spec.shoot.provider.allWorkers.map (Worker.create defaults provider)
      workersSettings := some workersSettings }
    return { shoot with spec := { shoot.spec with provider := block } }

end ShootPlan
