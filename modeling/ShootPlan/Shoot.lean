import ShootPlan.Metadata
import ShootPlan.Oidc
import ShootPlan.Worker
/-!
The Shoot: the cluster object that the garden provisions.
-/
namespace ShootPlan

structure AccessRestriction where
  name : String
  options : Dict String := .empty
  deriving DecidableEq

def AccessRestriction.record : Record AccessRestriction where
  name := "AccessRestrictionWithOptions"
  fields := .cons (.required "name") <| .cons (.sparseMap "options") .nil
  build := fun (a, b, ()) => ⟨a, b⟩
  split r := (r.name, r.options, ())

instance : Coded AccessRestriction := AccessRestriction.record.coded

structure FailureTolerance where
  type : String
  deriving DecidableEq

def FailureTolerance.record : Record FailureTolerance where
  name := "FailureTolerance"
  fields := .cons (.required "type") .nil
  build := fun (a, ()) => ⟨a⟩
  split t := (t.type, ())

instance : Coded FailureTolerance := FailureTolerance.record.coded

structure HighAvailability where
  failureTolerance : FailureTolerance
  deriving DecidableEq

def HighAvailability.record : Record HighAvailability where
  name := "HighAvailability"
  fields := .cons (.required "failureTolerance") .nil
  build := fun (a, ()) => ⟨a⟩
  split h := (h.failureTolerance, ())

instance : Coded HighAvailability := HighAvailability.record.coded

structure ControlPlane where
  highAvailability : Option HighAvailability := none
  deriving DecidableEq

def ControlPlane.record : Record ControlPlane where
  name := "ControlPlane"
  fields := .cons (.optional "highAvailability") .nil
  build := fun (a, ()) => ⟨a⟩
  split c := (c.highAvailability, ())

instance : Coded ControlPlane := ControlPlane.record.coded

structure Dns where
  domain : Option String := none
  deriving DecidableEq

def Dns.record : Record Dns where
  name := "Dns"
  fields := .cons (.optional "domain") .nil
  build := fun (a, ()) => ⟨a⟩
  split d := (d.domain, ())

instance : Coded Dns := Dns.record.coded

/-- A cluster add-on, known by its type. -/
structure Extension where
  type : String
  providerConfig : Option Json := none
  disabled : Option Bool := none
  deriving DecidableEq

def Extension.record : Record Extension where
  name := "Extension"
  fields :=
    .cons (.required "type") <| .cons (.optional "providerConfig") <| .cons (.optional "disabled") .nil
  build := fun (a, b, c, ()) => ⟨a, b, c⟩
  split e := (e.type, e.providerConfig, e.disabled, ())

instance : Coded Extension := Extension.record.coded

structure ObjectReference where
  name : String
  deriving DecidableEq

def ObjectReference.record : Record ObjectReference where
  name := "ObjectReference"
  fields := .cons (.required "name") .nil
  build := fun (a, ()) => ⟨a⟩
  split r := (r.name, ())

instance : Coded ObjectReference := ObjectReference.record.coded

structure AuditPolicy where
  configMapRef : Option ObjectReference := none
  deriving DecidableEq

def AuditPolicy.record : Record AuditPolicy where
  name := "AuditPolicy"
  fields := .cons (.optional "configMapRef") .nil
  build := fun (a, ()) => ⟨a⟩
  split p := (p.configMapRef, ())

instance : Coded AuditPolicy := AuditPolicy.record.coded

structure AuditConfig where
  auditPolicy : Option AuditPolicy := none
  deriving DecidableEq

def AuditConfig.record : Record AuditConfig where
  name := "AuditConfig"
  fields := .cons (.optional "auditPolicy") .nil
  build := fun (a, ()) => ⟨a⟩
  split c := (c.auditPolicy, ())

instance : Coded AuditConfig := AuditConfig.record.coded

structure ServiceAccountConfig where
  extendTokenExpiration : Option Bool := none
  maxTokenExpiration : Option String := none
  deriving DecidableEq

def ServiceAccountConfig.record : Record ServiceAccountConfig where
  name := "ServiceAccountConfig"
  fields := .cons (.optional "extendTokenExpiration") <| .cons (.optional "maxTokenExpiration") .nil
  build := fun (a, b, ()) => ⟨a, b⟩
  split c := (c.extendTokenExpiration, c.maxTokenExpiration, ())

instance : Coded ServiceAccountConfig := ServiceAccountConfig.record.coded

/-- Settings of the cluster's API server. -/
structure ApiServer where
  auditConfig : Option AuditConfig := none
  oidcConfig : Option OidcConfig := none
  serviceAccountConfig : Option ServiceAccountConfig := none
  deriving DecidableEq

def ApiServer.record : Record ApiServer where
  name := "KubeApiServerConfig"
  fields :=
    .cons (.optional "auditConfig") <| .cons (.optional "oidcConfig") <|
    .cons (.optional "serviceAccountConfig") .nil
  build := fun (a, b, c, ()) => ⟨a, b, c⟩
  split s := (s.auditConfig, s.oidcConfig, s.serviceAccountConfig, ())

instance : Coded ApiServer := ApiServer.record.coded

structure Kubernetes where
  version : String := ""
  apiServer : Option ApiServer := none
  deriving DecidableEq

def Kubernetes.record : Record Kubernetes where
  name := "Kubernetes"
  fields := .cons (.defaulted "version" "") <| .cons (.optional "kubeAPIServer") .nil
  build := fun (a, b, ()) => ⟨a, b⟩
  split k := (k.version, k.apiServer, ())

instance : Coded Kubernetes := Kubernetes.record.coded

structure AutoUpdate where
  kubernetesVersion : Bool
  machineImageVersion : Option Bool := none
  deriving DecidableEq

def AutoUpdate.record : Record AutoUpdate where
  name := "MaintenanceAutoUpdate"
  fields := .cons (.required "kubernetesVersion") <| .cons (.optional "machineImageVersion") .nil
  build := fun (a, b, ()) => ⟨a, b⟩
  split u := (u.kubernetesVersion, u.machineImageVersion, ())

instance : Coded AutoUpdate := AutoUpdate.record.coded

/-- The daily window in which the garden may change the cluster. -/
structure TimeWindow where
  begin : String
  finish : String
  deriving DecidableEq

def TimeWindow.record : Record TimeWindow where
  name := "MaintenanceTimeWindow"
  fields := .cons (.required "begin") <| .cons (.required "end") .nil
  build := fun (a, b, ()) => ⟨a, b⟩
  split w := (w.begin, w.finish, ())

instance : Coded TimeWindow := TimeWindow.record.coded

structure Maintenance where
  autoUpdate : Option AutoUpdate := none
  timeWindow : Option TimeWindow := none
  deriving DecidableEq

def Maintenance.record : Record Maintenance where
  name := "Maintenance"
  fields := .cons (.optional "autoUpdate") <| .cons (.optional "timeWindow") .nil
  build := fun (a, b, ()) => ⟨a, b⟩
  split m := (m.autoUpdate, m.timeWindow, ())

instance : Coded Maintenance := Maintenance.record.coded

inductive IpFamily where
  | ipv4
  | ipv6
  deriving DecidableEq

namespace IpFamily

def name : IpFamily → String
  | ipv4 => "IPv4"
  | ipv6 => "IPv6"

def all : List IpFamily := [ipv4, ipv6]

instance : Coded IpFamily where
  read := Coded.readNamed (all.map fun f => (f.name, f))
  write f := .string f.name
  shape := .scalar

end IpFamily

structure Networking where
  type : Option String := none
  ipFamilies : List IpFamily := []
  nodes : Option String := none
  pods : Option String := none
  services : Option String := none
  deriving DecidableEq

def Networking.record : Record Networking where
  name := "Networking"
  fields :=
    .cons (.optional "type") <| .cons (.sparse "ipFamilies") <| .cons (.optional "nodes") <|
    .cons (.optional "pods") <| .cons (.optional "services") .nil
  build := fun (a, b, c, d, e, ()) => ⟨a, b, c, d, e⟩
  split n := (n.type, n.ipFamilies, n.nodes, n.pods, n.services, ())

instance : Coded Networking := Networking.record.coded

structure SshAccess where
  enabled : Bool
  deriving DecidableEq

def SshAccess.record : Record SshAccess where
  name := "SshAccess"
  fields := .cons (.required "enabled") .nil
  build := fun (a, ()) => ⟨a⟩
  split s := (s.enabled, ())

instance : Coded SshAccess := SshAccess.record.coded

structure WorkersSettings where
  sshAccess : Option SshAccess := none
  deriving DecidableEq

def WorkersSettings.record : Record WorkersSettings where
  name := "WorkersSettings"
  fields := .cons (.optional "sshAccess") .nil
  build := fun (a, ()) => ⟨a⟩
  split s := (s.sshAccess, ())

instance : Coded WorkersSettings := WorkersSettings.record.coded

/-- The cloud side of a Shoot: its worker pools and the provider's own documents. -/
structure ProviderBlock where
  type : String := ""
  controlPlaneConfig : Option Json := none
  infrastructureConfig : Option Json := none
  workers : List Worker := []
  workersSettings : Option WorkersSettings := none
  deriving DecidableEq

def ProviderBlock.record : Record ProviderBlock where
  name := "Provider"
  fields :=
    .cons (.required "type") <| .cons (.optional "controlPlaneConfig") <|
    .cons (.optional "infrastructureConfig") <| .cons (.defaulted "workers" []) <|
    .cons (.optional "workersSettings") .nil
  build := fun (a, b, c, d, e, ()) => ⟨a, b, c, d, e⟩
  split p := (p.type, p.controlPlaneConfig, p.infrastructureConfig, p.workers, p.workersSettings, ())

instance : Coded ProviderBlock := ProviderBlock.record.coded

/-- The object that a named resource stands for. -/
structure ResourceTarget where
  apiVersion : String
  kind : String
  name : String
  deriving DecidableEq

def ResourceTarget.record : Record ResourceTarget where
  name := "CrossVersionObjectReference"
  fields := .cons (.required "apiVersion") <| .cons (.required "kind") <| .cons (.required "name") .nil
  build := fun (a, b, c, ()) => ⟨a, b, c⟩
  split t := (t.apiVersion, t.kind, t.name, ())

instance : Coded ResourceTarget := ResourceTarget.record.coded

/-- A resource under the name that extensions use for it. -/
structure NamedResource where
  name : String
  resourceRef : ResourceTarget
  deriving DecidableEq

def NamedResource.record : Record NamedResource where
  name := "NamedResourceReference"
  fields := .cons (.required "name") <| .cons (.required "resourceRef") .nil
  build := fun (a, b, ()) => ⟨a, b⟩
  split r := (r.name, r.resourceRef, ())

instance : Coded NamedResource := NamedResource.record.coded

structure SeedSelector where
  matchLabels : Dict String := .empty
  deriving DecidableEq

def SeedSelector.record : Record SeedSelector where
  name := "SeedSelector"
  fields := .cons (.sparseMap "matchLabels") .nil
  build := fun (a, ()) => ⟨a⟩
  split s := (s.matchLabels, ())

instance : Coded SeedSelector := SeedSelector.record.coded

structure Toleration where
  key : String
  value : Option String := none
  deriving DecidableEq

def Toleration.record : Record Toleration where
  name := "Toleration"
  fields := .cons (.required "key") <| .cons (.optional "value") .nil
  build := fun (a, b, ()) => ⟨a, b⟩
  split t := (t.key, t.value, ())

instance : Coded Toleration := Toleration.record.coded

structure ShootSpec where
  accessRestrictions : List AccessRestriction := []
  cloudProfileName : Option String := none
  controlPlane : Option ControlPlane := none
  dns : Option Dns := none
  exposureClassName : Option String := none
  extensions : List Extension := []
  kubernetes : Kubernetes := {}
  maintenance : Option Maintenance := none
  networking : Option Networking := none
  provider : ProviderBlock := {}
  purpose : Option String := none
  region : String := ""
  resources : List NamedResource := []
  secretBindingName : Option String := none
  seedSelector : Option SeedSelector := none
  tolerations : List Toleration := []
  deriving DecidableEq

def ShootSpec.record : Record ShootSpec where
  name := "ShootSpec"
  fields :=
    .cons (.sparse "accessRestrictions") <| .cons (.optional "cloudProfileName") <|
    .cons (.optional "controlPlane") <| .cons (.optional "dns") <|
    .cons (.optional "exposureClassName") <| .cons (.sparse "extensions") <|
    .cons (.required "kubernetes") <| .cons (.optional "maintenance") <|
    .cons (.optional "networking") <| .cons (.required "provider") <|
    .cons (.optional "purpose") <| .cons (.required "region") <| .cons (.sparse "resources") <|
    .cons (.optional "secretBindingName") <| .cons (.optional "seedSelector") <|
    .cons (.sparse "tolerations") .nil
  build := fun (a, b, c, d, e, f, g, h, i, j, k, l, m, n, o, p, ()) =>
    ⟨a, b, c, d, e, f, g, h, i, j, k, l, m, n, o, p⟩
  split s :=
    (s.accessRestrictions, s.cloudProfileName, s.controlPlane, s.dns, s.exposureClassName,
      s.extensions, s.kubernetes, s.maintenance, s.networking, s.provider, s.purpose, s.region,
      s.resources, s.secretBindingName, s.seedSelector, s.tolerations, ())

instance : Coded ShootSpec := ShootSpec.record.coded

structure Shoot where
  metadata : Metadata
  spec : ShootSpec
  deriving DecidableEq

def Shoot.record : Record Shoot where
  name := "Shoot"
  banner := [("apiVersion", .string "core.gardener.cloud/v1beta1"), ("kind", .string "Shoot")]
  fields := .cons (.required "metadata") <| .cons (.required "spec") .nil
  build := fun (a, b, ()) => ⟨a, b⟩
  split s := (s.metadata, s.spec, ())

instance : Coded Shoot := Shoot.record.coded

end ShootPlan
