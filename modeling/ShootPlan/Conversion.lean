import ShootPlan.ClusterExtenders
import ShootPlan.ExtensionsExtender
import ShootPlan.ObjectExtenders
import ShootPlan.ProviderCreate
import ShootPlan.ProviderPatch
/-!
Conversion of a Runtime into a Shoot: from nothing, or over what an existing Shoot has to
keep.
-/
namespace ShootPlan

/-- Everything but the Runtime and the existing Shoot. -/
structure Setup where
  settings : Settings
  auditLogs : AuditLogTable
  windows : MaintenanceTable
  deriving DecidableEq

/-- What a conversion takes over from an existing Shoot. -/
structure ExistingShoot where
  kubernetesVersion : String := ""
  workers : List Worker := []
  infrastructureConfig : Option Json := none
  controlPlaneConfig : Option Json := none
  extensions : List Extension := []
  resources : List NamedResource := []
  auditConfig : Option AuditConfig := none
  deriving DecidableEq

namespace ExistingShoot

def ofShoot (shoot : Shoot) : ExistingShoot where
  kubernetesVersion := shoot.spec.kubernetes.version
  workers := shoot.spec.provider.workers
  infrastructureConfig := shoot.spec.provider.infrastructureConfig
  controlPlaneConfig := shoot.spec.provider.controlPlaneConfig
  extensions := shoot.spec.extensions
  resources := shoot.spec.resources
  auditConfig := shoot.spec.kubernetes.apiServer.bind ApiServer.auditConfig

def provider (existing : ExistingShoot) : PriorProvider :=
  ⟨existing.workers, existing.infrastructureConfig, existing.controlPlaneConfig⟩

end ExistingShoot

inductive Mode where
  | create
  | patch (existing : ExistingShoot)
  deriving DecidableEq

namespace Mode

def name : Mode → String
  | create => "create"
  | patch _ => "patch"

def existing? : Mode → Option ExistingShoot
  | create => none
  | patch existing => some existing

end Mode

structure Conversion where
  setup : Setup
  mode : Mode
  deriving DecidableEq

namespace Conversion

def workerDefaults (settings : Settings) : WorkerDefaults where
  imageName := settings.machineImage.defaultName
  imageVersion := settings.machineImage.defaultVersion
  enforceTokens := settings.provider.aws.enableIMDSv2

def providerExtender (c : Conversion) : Extender :=
  let defaults := workerDefaults c.setup.settings
  match c.mode with
  | .create => .providerCreate defaults
  | .patch existing => .providerPatch defaults existing.provider

/-- The extenders in the order they are applied. -/
def extenders (c : Conversion) : List Extender :=
  let settings := c.setup.settings
  let existing := c.mode.existing?
  [.annotations,
    .labels,
    .kubernetes settings.kubernetes.defaultVersion (existing.map ExistingShoot.kubernetesVersion),
    .dns settings.dns.domainPrefix,
    .oidc settings.kubernetes.defaultOperatorOidc,
    .cloudProfile,
    .accessRestrictions,
    .extensions settings.dns.secretName settings.dns.providerType c.setup.auditLogs,
    .exposureClass,
    .tolerations,
    .seedSelector,
    .maintenance settings.kubernetes.enableKubernetesVersionAutoUpdate
      settings.kubernetes.enableMachineImageVersionAutoUpdate c.setup.windows,
    .tokenExpiration,
    .auditLog settings.auditLogging.policyConfigMapName c.setup.auditLogs
      (existing.bind ExistingShoot.auditConfig),
    c.providerExtender]

/-- The network plugin where the Runtime names none. -/
def defaultNetworkType : String := "calico"

def networking (runtime : Runtime) : Networking :=
  let wanted := runtime.spec.shoot.networking
  { type := some ((wanted.type.filter (· ≠ "")).getD defaultNetworkType)
    ipFamilies := if runtime.dualStack then [.ipv4, .ipv6] else []
    nodes := some wanted.nodes
    pods := some wanted.pods
    services := some wanted.services }

/-- The Shoot before any extender has run. -/
def seed (c : Conversion) (runtime : Runtime) : Shoot :=
  let wanted := runtime.spec.shoot
  let existing := c.mode.existing?
  { metadata := { name := some wanted.name, nameSpace := some c.setup.settings.nameSpace }
    spec := {
      controlPlane := wanted.controlPlane
      extensions := (existing.map ExistingShoot.extensions).getD []
      networking := some (networking runtime)
      purpose := if wanted.purpose = "" then none else some wanted.purpose
      region := wanted.region
      resources := (existing.map ExistingShoot.resources).getD []
      secretBindingName := some wanted.secretBindingName } }

def run (c : Conversion) (runtime : Runtime) : Except ConversionError Shoot :=
  Extender.applyAll runtime c.extenders (c.seed runtime)

end Conversion

end ShootPlan
