import ShootPlan.ConversionError
import ShootPlan.Runtime
/-!
A conversion is a row of extenders. Each fills in its part of the Shoot from the Runtime,
or fails and leaves the Shoot as it was.
-/
namespace ShootPlan

structure Extender where
  name : String
  apply : Runtime → Shoot → Except ConversionError Shoot

namespace Extender

/-- The Shoot after the extender has run, and what went wrong if it failed. -/
def run (extender : Extender) (runtime : Runtime) (shoot : Shoot) : Shoot × Option ConversionError :=
  match extender.apply runtime shoot with
  | .ok extended => (extended, none)
  | .error error => (shoot, some error)

/-- Apply all in order; the first failure is reported under the extender's name. -/
def applyAll (runtime : Runtime) : List Extender → Shoot → Except ConversionError Shoot
  | [], shoot => .ok shoot
  | extender :: rest, shoot =>
    match extender.apply runtime shoot with
    | .ok extended => applyAll runtime rest extended
    | .error error => .error (.extender extender.name error)

end Extender

def Runtime.hyperscaler (runtime : Runtime) : Except ConversionError Hyperscaler :=
  match Hyperscaler.ofName? runtime.spec.shoot.provider.type with
  | some provider => .ok provider
  | none => .error (.unsupportedProvider runtime.spec.shoot.provider.type)

/-- Change the API server's settings, which are there from then on. -/
def Shoot.updateApiServer (shoot : Shoot) (change : ApiServer → ApiServer) : Shoot :=
  let kubernetes := shoot.spec.kubernetes
  let apiServer := some (change (kubernetes.apiServer.getD {}))
  { shoot with spec := { shoot.spec with kubernetes := { kubernetes with apiServer } } }

/-- Platform regions whose clusters only staff inside the EU may access. -/
def euAccessRegions : List String := ["cf-eu11", "cf-ch20"]

def Runtime.needsEuAccess (runtime : Runtime) : Bool :=
  runtime.spec.shoot.platformRegion ∈ euAccessRegions

def euAccessAnnotation : String := "support.gardener.cloud/eu-access-for-cluster-nodes"

end ShootPlan
