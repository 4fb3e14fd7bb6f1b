import ShootPlan.Extender
import ShootPlan.ProviderDocument
/-!
What worker pools get where the Runtime leaves it open, and the rules that new and existing
clusters share.
-/
namespace ShootPlan

structure WorkerDefaults where
  imageName : String
  imageVersion : String
  /-- Require session tokens for instance metadata, on AWS. -/
  enforceTokens : Bool
  deriving DecidableEq

namespace WorkerDefaults

/-- The image that was asked for; an empty name or version gives way to the default. -/
def image (defaults : WorkerDefaults) (requested : Option MachineImage) : MachineImage where
  name := ((requested.map MachineImage.name).filter (· ≠ "")).getD defaults.imageName
  version :=
    some (((requested.bind MachineImage.version).filter (· ≠ "")).getD defaults.imageVersion)

/-- The provider's document for pools that bring none. -/
def providerConfig (defaults : WorkerDefaults) (provider : Hyperscaler) : Option Json :=
  if provider = .aws ∧ defaults.enforceTokens then
    some (Coded.write AwsNetwork.WorkerConfig.tokensRequired).canonical
  else none

end WorkerDefaults

/-- Exactly one pool is the main one. -/
def Runtime.checkMainWorker (runtime : Runtime) : Except ConversionError Unit :=
  if runtime.spec.shoot.provider.workers.length = 1 then .ok () else .error .noSingleMainWorker

/-- The zones of pools, each where it is first named. -/
def zonesOf (workers : List Worker) : List String := (workers.flatMap Worker.zones).eraseDups

def workersSettings : WorkersSettings := { sshAccess := some ⟨false⟩ }

def Runtime.dualStack (runtime : Runtime) : Bool :=
  runtime.spec.shoot.networking.dualStack.getD false

/-- The infrastructure document of a new cluster with these zones. -/
def Runtime.newInfrastructure (runtime : Runtime) (provider : Hyperscaler) (zones : List String) :
    Except ConversionError Json :=
  match InfrastructureDocument.create provider runtime.spec.shoot.networking.nodes zones runtime.dualStack with
  | .ok doc => .ok doc.json
  | .error error => .error (.network error)

end ShootPlan
