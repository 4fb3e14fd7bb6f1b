import ShootPlan.AlicloudNetwork
import ShootPlan.AwsNetwork
import ShootPlan.AzureNetwork
import ShootPlan.OpenStackNetwork
/-!
The documents that tell a provider how to build a cluster's infrastructure and control
plane. Each is one of the provider's own kind; as JSON they are canonical.
-/
namespace ShootPlan

inductive InfrastructureDocument where
  | aws (doc : AwsNetwork.Infrastructure)
  | azure (doc : AzureNetwork.Infrastructure)
  | alicloud (doc : AlicloudNetwork.Infrastructure)
  | openstack (doc : OpenStackNetwork.Infrastructure)
  deriving DecidableEq

namespace InfrastructureDocument

/-- The document of a new cluster. Only AWS knows dual stacks. -/
def create (provider : Hyperscaler) (network : String) (zones : List String) (dualStack : Bool) :
    Except NetworkError InfrastructureDocument :=
  match provider with
  | .aws => (AwsNetwork.Infrastructure.create network zones dualStack).map .aws
  | .azure => (AzureNetwork.Infrastructure.create network zones).map .azure
  | .alicloud => (AlicloudNetwork.Infrastructure.create network zones).map .alicloud
  | .openstack => (OpenStackNetwork.Infrastructure.create network zones).map .openstack

/-- Read a document that a cluster has. -/
def decode (provider : Hyperscaler) (json : Json) : Except NetworkError InfrastructureDocument :=
  Except.mapError (.document provider .infrastructure) <|
    match provider with
    | .aws => (Coded.read json).map .aws
    | .azure => (Coded.read json).map .azure
    | .alicloud => (Coded.read json).map .alicloud
    | .openstack => (Coded.read json).map .openstack

def provider : InfrastructureDocument → Hyperscaler
  | aws _ => .aws
  | azure _ => .azure
  | alicloud _ => .alicloud
  | openstack _ => .openstack

/-- Zones in the order they were allocated; OpenStack does not record any. -/
def zoneNames? : InfrastructureDocument → Option (List String)
  | aws doc => some doc.zoneNames
  | azure doc => some doc.zoneNames
  | alicloud doc => some doc.zoneNames
  | openstack _ => none

/-- The document with zones allocated after the ones it has. -/
def grow (doc : InfrastructureDocument) (network : String) (added : List String) :
    Except NetworkError InfrastructureDocument :=
  match doc with
  | aws doc => (doc.grow network added).map .aws
  | azure doc => (doc.grow network added).map .azure
  | alicloud doc => (doc.grow network added).map .alicloud
  | openstack doc => .ok (.openstack doc)

def json : InfrastructureDocument → Json
  | aws doc => (Coded.write doc).canonical
  | azure doc => (Coded.write doc).canonical
  | alicloud doc => (Coded.write doc).canonical
  | openstack doc => (Coded.write doc).canonical

end InfrastructureDocument

/-- What most providers know of a control plane. -/
structure PlainControlPlane where
  apiVersion : String
  kind : String := DocumentKind.controlPlane.name
  deriving DecidableEq

def PlainControlPlane.record : Record PlainControlPlane where
  name := "ControlPlaneConfig"
  fields := .cons (.required "apiVersion") <| .cons (.required "kind") .nil
  build := fun (a, b, ()) => ⟨a, b⟩
  split c := (c.apiVersion, c.kind, ())

instance : Coded PlainControlPlane := PlainControlPlane.record.coded

/-- OpenStack also names what provides load balancers. -/
structure BalancedControlPlane where
  apiVersion : String := Hyperscaler.openstack.apiVersion
  kind : String := DocumentKind.controlPlane.name
  loadBalancerProvider : Option String := some "f5"
  deriving DecidableEq

def BalancedControlPlane.record : Record BalancedControlPlane where
  name := "ControlPlaneConfig"
  fields :=
    .cons (.required "apiVersion") <| .cons (.required "kind") <|
    .cons (.optional "loadBalancerProvider") .nil
  build := fun (a, b, c, ()) => ⟨a, b, c⟩
  split c := (c.apiVersion, c.kind, c.loadBalancerProvider, ())

instance : Coded BalancedControlPlane := BalancedControlPlane.record.coded

inductive ControlPlaneDocument where
  | aws (doc : PlainControlPlane)
  | azure (doc : PlainControlPlane)
  | alicloud (doc : PlainControlPlane)
  | openstack (doc : BalancedControlPlane)
  deriving DecidableEq

namespace ControlPlaneDocument

/-- The document of a new cluster. -/
def create : Hyperscaler → ControlPlaneDocument
  | .aws => aws { apiVersion := Hyperscaler.aws.apiVersion }
  | .azure => azure { apiVersion := Hyperscaler.azure.apiVersion }
  | .alicloud => alicloud { apiVersion := Hyperscaler.alicloud.apiVersion }
  | .openstack => openstack {}

/-- Read a document that a cluster has. -/
def decode (provider : Hyperscaler) (json : Json) : Except NetworkError ControlPlaneDocument :=
  Except.mapError (.document provider .controlPlane) <|
    match provider with
    | .aws => (Coded.read json).map .aws
    | .azure => (Coded.read json).map .azure
    | .alicloud => (Coded.read json).map .alicloud
    | .openstack => (Coded.read json).map .openstack

def json : ControlPlaneDocument → Json
  | aws doc => (Coded.write doc).canonical
  | azure doc => (Coded.write doc).canonical
  | alicloud doc => (Coded.write doc).canonical
  | openstack doc => (Coded.write doc).canonical

end ControlPlaneDocument

end ShootPlan
