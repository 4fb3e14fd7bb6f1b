import ShootPlan.Extender
import ShootPlan.KeyedList
import ShootPlan.Setup
import ShootPlan.Version
/-!
Extenders for the cluster as a whole: its version and domain, who logs in, and where and
how it is run.
-/
namespace ShootPlan.Extender

/-- The version asked for or the default, unless the current one is greater. -/
def chosenVersion (defaultVersion : String) (current : Option String) (requested : Option String) :
    String :=
  let version := (requested.filter (· ≠ "")).getD defaultVersion
  match current.filter (· ≠ "") with
  | some current => if Version.order current version = .gt then current else version
  | none => version

def kubernetes (defaultVersion : String) (current : Option String) : Extender where
  name := "kubernetes"
  apply runtime shoot :=
    let version := chosenVersion defaultVersion current runtime.spec.shoot.kubernetes.version
    if version = "" then .error .emptyKubernetesVersion
    else
      let kubernetes := { shoot.spec.kubernetes with version }
      .ok { shoot with spec := { shoot.spec with kubernetes } }

/-- The cluster's domain is its name under the common domain. -/
def dns (domainPrefix : String) : Extender where
  name := "dns"
  apply runtime shoot :=
    let name := runtime.spec.shoot.name
    if name = "" then .error .emptyShootName
    else
      let dns := some { domain := some (name ++ "." ++ domainPrefix) }
      .ok { shoot with spec := { shoot.spec with dns } }

/-- The login the Runtime asks for, else the default, if that is configured. -/
def oidc (fallback : OidcConfig) : Extender where
  name := "oidc"
  apply runtime shoot :=
    let requested := runtime.spec.shoot.kubernetes.apiServer.oidcConfig
    let chosen := if requested.isConfigured then requested else fallback
    .ok <|
      if chosen.isConfigured then
        shoot.updateApiServer fun server => { server with oidcConfig := some chosen }
      else shoot

def cloudProfileName : Hyperscaler → String
  | .aws => "aws"
  | .azure => "az"
  | .alicloud => "alicloud"
  | .openstack => "converged-cloud-kyma"

def cloudProfile : Extender where
  name := "cloud-profile"
  apply runtime shoot := do
    let provider ← runtime.hyperscaler
    let cloudProfileName := some (cloudProfileName provider)
    return { shoot with spec := { shoot.spec with cloudProfileName } }

def euAccessRestriction : AccessRestriction where
  name := "eu-access-only"
  options := .singleton euAccessAnnotation "true"

def accessRestrictions : Extender where
  name := "access-restrictions"
  apply runtime shoot := .ok <|
    if runtime.needsEuAccess then
      let accessRestrictions :=
        ((KeyedList.ofList shoot.spec.accessRestrictions).upsert euAccessRestriction).items
      { shoot with spec := { shoot.spec with accessRestrictions } }
    else shoot

def exposureClass : Extender where
  name := "exposure-class"
  apply runtime shoot := do
    if (← runtime.hyperscaler) = .openstack then
      let exposureClassName := some "converged-cloud-internet"
      return { shoot with spec := { shoot.spec with exposureClassName } }
    else return shoot

/-- The toleration that clusters of one platform region need. -/
def assuredWorkload : Toleration := { key := "ksa-assured-workload" }

def tolerations : Extender where
  name := "tolerations"
  apply runtime shoot := .ok <|
    if runtime.spec.shoot.platformRegion = "cf-sa30"
        ∧ (shoot.spec.tolerations.any fun t => t.key == assuredWorkload.key) = false then
      let tolerations := shoot.spec.tolerations ++ [assuredWorkload]
      { shoot with spec := { shoot.spec with tolerations } }
    else shoot

/-- Keep the control plane in the cluster's own region, if the Runtime says so. -/
def seedSelector : Extender where
  name := "seed-selector"
  apply runtime shoot := .ok <|
    if runtime.spec.shoot.enforceSeedLocation = some true then
      let matchLabels := .singleton "seed.gardener.cloud/region" runtime.spec.shoot.region
      { shoot with spec := { shoot.spec with seedSelector := some { matchLabels } } }
    else shoot

/-- What is updated by itself, and the region's window for it if there is one. -/
def maintenance (kubernetesVersion machineImageVersion : Bool) (windows : MaintenanceTable) :
    Extender where
  name := "maintenance"
  apply runtime shoot :=
    let maintenance := some {
      autoUpdate := some ⟨kubernetesVersion, some machineImageVersion⟩
      timeWindow := (windows.get? runtime.spec.shoot.region).map MaintenanceWindow.timeWindow }
    .ok { shoot with spec := { shoot.spec with maintenance } }

/-- Service account tokens last thirty days and are not extended. -/
def tokenExpiration : Extender where
  name := "token-expiration"
  apply _ shoot := .ok <|
    shoot.updateApiServer fun server =>
      { server with serviceAccountConfig := some ⟨some false, some "2592000s"⟩ }

end ShootPlan.Extender
