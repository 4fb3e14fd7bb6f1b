import ShootPlan.RegistryCache
import ShootPlan.Shoot
/-!
The Runtime: a short description of the cluster that is wanted.
-/
namespace ShootPlan

structure RuntimeApiServer where
  oidcConfig : OidcConfig := {}
  deriving DecidableEq

def RuntimeApiServer.record : Record RuntimeApiServer where
  name := "RuntimeApiServer"
  fields := .cons (.defaulted "oidcConfig" {}) .nil
  build := fun (a, ()) => ⟨a⟩
  split s := (s.oidcConfig, ())

instance : Coded RuntimeApiServer := RuntimeApiServer.record.coded

structure RuntimeKubernetes where
  version : Option String := none
  apiServer : RuntimeApiServer := {}
  deriving DecidableEq

def RuntimeKubernetes.record : Record RuntimeKubernetes where
  name := "RuntimeKubernetes"
  fields := .cons (.optional "version") <| .cons (.defaulted "kubeAPIServer" {}) .nil
  build := fun (a, b, ()) => ⟨a, b⟩
  split k := (k.version, k.apiServer, ())

instance : Coded RuntimeKubernetes := RuntimeKubernetes.record.coded

structure RuntimeProvider where
  type : String
  workers : List Worker
  additionalWorkers : Option (List Worker) := none
  infrastructureConfig : Option Json := none
  controlPlaneConfig : Option Json := none
  deriving DecidableEq

def RuntimeProvider.record : Record RuntimeProvider where
  name := "RuntimeProvider"
  fields :=
    .cons (.required "type") <| .cons (.required "workers") <|
    .cons (.optional "additionalWorkers") <| .cons (.optional "infrastructureConfig") <|
    .cons (.optional "controlPlaneConfig") .nil
  build := fun (a, b, c, d, e, ()) => ⟨a, b, c, d, e⟩
  split p := (p.type, p.workers, p.additionalWorkers, p.infrastructureConfig, p.controlPlaneConfig, ())

instance : Coded RuntimeProvider := RuntimeProvider.record.coded

/-- The main pools and then the additional ones. -/
def RuntimeProvider.allWorkers (provider : RuntimeProvider) : List Worker :=
  provider.workers ++ provider.additionalWorkers.getD []

structure RuntimeNetworking where
  type : Option String := none
  pods : String
  nodes : String
  services : String
  dualStack : Option Bool := none
  deriving DecidableEq

def RuntimeNetworking.record : Record RuntimeNetworking where
  name := "RuntimeNetworking"
  fields :=
    .cons (.optional "type") <| .cons (.required "pods") <| .cons (.required "nodes") <|
    .cons (.required "services") <| .cons (.optional "dualStack") .nil
  build := fun (a, b, c, d, e, ()) => ⟨a, b, c, d, e⟩
  split n := (n.type, n.pods, n.nodes, n.services, n.dualStack, ())

instance : Coded RuntimeNetworking := RuntimeNetworking.record.coded

structure FilterSwitch where
  enabled : Bool := false
  deriving DecidableEq

def FilterSwitch.record : Record FilterSwitch where
  name := "FilterSwitch"
  fields := .cons (.required "enabled") .nil
  build := fun (a, ()) => ⟨a⟩
  split s := (s.enabled, ())

instance : Coded FilterSwitch := FilterSwitch.record.coded

structure TrafficFilter where
  ingress : Option FilterSwitch := none
  egress : FilterSwitch := {}
  deriving DecidableEq

def TrafficFilter.record : Record TrafficFilter where
  name := "Filter"
  fields := .cons (.optional "ingress") <| .cons (.defaulted "egress" {}) .nil
  build := fun (a, b, ()) => ⟨a, b⟩
  split f := (f.ingress, f.egress, ())

instance : Coded TrafficFilter := TrafficFilter.record.coded

structure NetworkSecurity where
  filter : TrafficFilter := {}
  deriving DecidableEq

def NetworkSecurity.record : Record NetworkSecurity where
  name := "NetworkingSecurity"
  fields := .cons (.defaulted "filter" {}) .nil
  build := fun (a, ()) => ⟨a⟩
  split s := (s.filter, ())

instance : Coded NetworkSecurity := NetworkSecurity.record.coded

structure Security where
  administrators : List String := []
  networking : NetworkSecurity := {}
  deriving DecidableEq

def Security.record : Record Security where
  name := "Security"
  fields := .cons (.defaulted "administrators" []) <| .cons (.defaulted "networking" {}) .nil
  build := fun (a, b, ()) => ⟨a, b⟩
  split s := (s.administrators, s.networking, ())

instance : Coded Security := Security.record.coded

/-- The settings of a cache as a Runtime names them. -/
structure CacheSettings where
  cache : RegistryCache
  deriving DecidableEq

instance : Coded CacheSettings where
  read node := ((RegistryCache.recordNamed "RegistryCacheConfig").read node).map CacheSettings.mk
  write s := (RegistryCache.recordNamed "RegistryCacheConfig").write s.cache
  shape := .members (RegistryCache.recordNamed "RegistryCacheConfig").fields.shapes

/-- A cache that is wanted, with the object that asks for it. -/
structure CacheRequest where
  name : String
  nameSpace : String := ""
  uid : String := ""
  config : CacheSettings
  deriving DecidableEq

def CacheRequest.record : Record CacheRequest where
  name := "ImageRegistryCache"
  fields :=
    .cons (.required "name") <| .cons (.defaulted "namespace" "") <|
    .cons (.defaulted "uid" "") <| .cons (.required "config") .nil
  build := fun (a, b, c, d, ()) => ⟨a, b, c, d⟩
  split r := (r.name, r.nameSpace, r.uid, r.config, ())

instance : Coded CacheRequest := CacheRequest.record.coded

structure RuntimeShoot where
  name : String
  purpose : String := ""
  platformRegion : String := ""
  region : String
  licenceType : Option String := none
  secretBindingName : String
  enforceSeedLocation : Option Bool := none
  kubernetes : RuntimeKubernetes := {}
  provider : RuntimeProvider
  networking : RuntimeNetworking
  controlPlane : Option ControlPlane := none
  deriving DecidableEq

def RuntimeShoot.record : Record RuntimeShoot where
  name := "RuntimeShoot"
  fields :=
    .cons (.required "name") <| .cons (.defaulted "purpose" "") <|
    .cons (.defaulted "platformRegion" "") <| .cons (.required "region") <|
    .cons (.optional "licenceType") <| .cons (.required "secretBindingName") <|
    .cons (.optional "enforceSeedLocation") <| .cons (.defaulted "kubernetes" {}) <|
    .cons (.required "provider") <| .cons (.required "networking") <|
    .cons (.optional "controlPlane") .nil
  build := fun (a, b, c, d, e, f, g, h, i, j, k, ()) => ⟨a, b, c, d, e, f, g, h, i, j, k⟩
  split s :=
    (s.name, s.purpose, s.platformRegion, s.region, s.licenceType, s.secretBindingName,
      s.enforceSeedLocation, s.kubernetes, s.provider, s.networking, s.controlPlane, ())

instance : Coded RuntimeShoot := RuntimeShoot.record.coded

structure RuntimeSpec where
  shoot : RuntimeShoot
  security : Security := {}
  caching : List CacheRequest := []
  deriving DecidableEq

def RuntimeSpec.record : Record RuntimeSpec where
  name := "RuntimeSpec"
  fields :=
    .cons (.required "shoot") <| .cons (.defaulted "security" {}) <| .cons (.sparse "caching") .nil
  build := fun (a, b, c, ()) => ⟨a, b, c⟩
  split s := (s.shoot, s.security, s.caching, ())

instance : Coded RuntimeSpec := RuntimeSpec.record.coded

inductive RuntimeState where
  | pending
  | ready
  | terminating
  | failed
  deriving DecidableEq

namespace RuntimeState

def name : RuntimeState → String
  | pending => "Pending"
  | ready => "Ready"
  | terminating => "Terminating"
  | failed => "Failed"

def all : List RuntimeState := [pending, ready, terminating, failed]

instance : Coded RuntimeState where
  read := Coded.readNamed (all.map fun s => (s.name, s))
  write s := .string s.name
  shape := .scalar

end RuntimeState

structure RuntimeStatus where
  state : RuntimeState := .pending
  lastReconciled : Option Instant := none
  deriving DecidableEq

def RuntimeStatus.record : Record RuntimeStatus where
  name := "RuntimeStatus"
  fields := .cons (.defaulted "state" .pending) <| .cons (.optional "lastReconciled") .nil
  build := fun (a, b, ()) => ⟨a, b⟩
  split s := (s.state, s.lastReconciled, ())

instance : Coded RuntimeStatus := RuntimeStatus.record.coded

structure Runtime where
  metadata : Metadata
  spec : RuntimeSpec
  status : Option RuntimeStatus := none
  deriving DecidableEq

def Runtime.record : Record Runtime where
  name := "Runtime"
  banner :=
    [("apiVersion", .string "infrastructuremanager.kyma-project.io/v1"), ("kind", .string "Runtime")]
  fields := .cons (.required "metadata") <| .cons (.required "spec") <| .cons (.placed "status") .nil
  build := fun (a, b, c, ()) => ⟨a, b, c⟩
  split r := (r.metadata, r.spec, r.status, ())

instance : Coded Runtime := Runtime.record.coded

/-- The value of a label, if the Runtime carries it. -/
def Runtime.label (runtime : Runtime) (key : String) : Option String :=
  runtime.metadata.labels.bind fun labels => labels.get? key

end ShootPlan
