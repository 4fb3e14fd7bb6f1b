import ShootPlan.Oidc
/-!
The settings of a conversion: defaults, switches and the project that clusters live in.
Settings that have to be given must not be empty.
-/
namespace ShootPlan

structure KubernetesSettings where
  defaultVersion : String
  enableKubernetesVersionAutoUpdate : Bool := false
  enableMachineImageVersionAutoUpdate : Bool := false
  defaultOperatorOidc : OidcConfig := {}
  deriving DecidableEq

def KubernetesSettings.record : Record KubernetesSettings where
  name := "KubernetesConfig"
  fields :=
    .cons (.required "defaultVersion") <|
    .cons (.defaulted "enableKubernetesVersionAutoUpdate" false) <|
    .cons (.defaulted "enableMachineImageVersionAutoUpdate" false) <|
    .cons (.defaulted "defaultOperatorOidc" {}) .nil
  build := fun (a, b, c, d, ()) => ⟨a, b, c, d⟩
  split k :=
    (k.defaultVersion, k.enableKubernetesVersionAutoUpdate, k.enableMachineImageVersionAutoUpdate,
      k.defaultOperatorOidc, ())

instance : Coded KubernetesSettings := KubernetesSettings.record.coded

structure DnsSettings where
  secretName : String
  domainPrefix : String
  providerType : String
  deriving DecidableEq

def DnsSettings.record : Record DnsSettings where
  name := "DnsConfig"
  fields :=
    .cons (.required "secretName") <| .cons (.required "domainPrefix") <|
    .cons (.required "providerType") .nil
  build := fun (a, b, c, ()) => ⟨a, b, c⟩
  split d := (d.secretName, d.domainPrefix, d.providerType, ())

instance : Coded DnsSettings := DnsSettings.record.coded

structure AwsSettings where
  enableIMDSv2 : Bool := false
  deriving DecidableEq

def AwsSettings.record : Record AwsSettings where
  name := "AwsConfig"
  fields := .cons (.defaulted "enableIMDSv2" false) .nil
  build := fun (a, ()) => ⟨a⟩
  split s := (s.enableIMDSv2, ())

instance : Coded AwsSettings := AwsSettings.record.coded

structure ProviderSettings where
  aws : AwsSettings := {}
  deriving DecidableEq

def ProviderSettings.record : Record ProviderSettings where
  name := "ProviderConfig"
  fields := .cons (.defaulted "aws" {}) .nil
  build := fun (a, ()) => ⟨a⟩
  split p := (p.aws, ())

instance : Coded ProviderSettings := ProviderSettings.record.coded

structure MachineImageSettings where
  defaultName : String
  defaultVersion : String
  deriving DecidableEq

def MachineImageSettings.record : Record MachineImageSettings where
  name := "MachineImageConfig"
  fields := .cons (.required "defaultName") <| .cons (.required "defaultVersion") .nil
  build := fun (a, b, ()) => ⟨a, b⟩
  split m := (m.defaultName, m.defaultVersion, ())

instance : Coded MachineImageSettings := MachineImageSettings.record.coded

structure GardenerSettings where
  projectName : String
  deriving DecidableEq

def GardenerSettings.record : Record GardenerSettings where
  name := "GardenerConfig"
  fields := .cons (.required "projectName") .nil
  build := fun (a, ()) => ⟨a⟩
  split g := (g.projectName, ())

instance : Coded GardenerSettings := GardenerSettings.record.coded

structure AuditLogSettings where
  policyConfigMapName : String
  tenantConfigPath : Option String := none
  deriving DecidableEq

def AuditLogSettings.record : Record AuditLogSettings where
  name := "AuditLogConfig"
  fields := .cons (.required "policyConfigMapName") <| .cons (.optional "tenantConfigPath") .nil
  build := fun (a, b, ()) => ⟨a, b⟩
  split s := (s.policyConfigMapName, s.tenantConfigPath, ())

instance : Coded AuditLogSettings := AuditLogSettings.record.coded

structure MaintenanceSettings where
  windowMapPath : Option String := none
  deriving DecidableEq

def MaintenanceSettings.record : Record MaintenanceSettings where
  name := "MaintenanceWindowConfig"
  fields := .cons (.optional "windowMapPath") .nil
  build := fun (a, ()) => ⟨a⟩
  split s := (s.windowMapPath, ())

instance : Coded MaintenanceSettings := MaintenanceSettings.record.coded

structure Settings where
  kubernetes : KubernetesSettings
  dns : DnsSettings
  provider : ProviderSettings := {}
  machineImage : MachineImageSettings
  gardener : GardenerSettings
  auditLogging : AuditLogSettings
  maintenanceWindow : MaintenanceSettings := {}
  deriving DecidableEq

namespace Settings

def record : Record Settings where
  name := "ConverterConfig"
  fields :=
    .cons (.required "kubernetes") <| .cons (.required "dns") <| .cons (.defaulted "provider" {}) <|
    .cons (.required "machineImage") <| .cons (.required "gardener") <|
    .cons (.required "auditLogging") <| .cons (.defaulted "maintenanceWindow" {}) .nil
  build := fun (a, b, c, d, e, f, g, ()) => ⟨a, b, c, d, e, f, g⟩
  split s :=
    (s.kubernetes, s.dns, s.provider, s.machineImage, s.gardener, s.auditLogging,
      s.maintenanceWindow, ())

instance : Coded Settings := record.coded

/-- The settings that must not be empty, in the order of their paths. -/
def required (s : Settings) : List (String × String) :=
  [("audit_logging.policy_config_map_name", s.auditLogging.policyConfigMapName),
    ("dns.domain_prefix", s.dns.domainPrefix),
    ("dns.provider_type", s.dns.providerType),
    ("dns.secret_name", s.dns.secretName),
    ("gardener.project_name", s.gardener.projectName),
    ("kubernetes.default_version", s.kubernetes.defaultVersion),
    ("machine_image.default_name", s.machineImage.defaultName),
    ("machine_image.default_version", s.machineImage.defaultVersion)]

/-- Paths of the required settings that are empty. -/
def emptyPaths (s : Settings) : List String :=
  (s.required.filter fun field => field.2 = "").map Prod.fst

/-- The namespace of the garden's project. -/
def nameSpace (s : Settings) : String := "garden-" ++ s.gardener.projectName

end Settings

end ShootPlan
