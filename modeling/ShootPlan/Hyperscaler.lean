/-!
The cloud providers a cluster can run on.
-/
namespace ShootPlan

inductive Hyperscaler where
  | aws
  | azure
  | alicloud
  | openstack
  deriving DecidableEq, Repr

namespace Hyperscaler

def name : Hyperscaler → String
  | aws => "aws"
  | azure => "azure"
  | alicloud => "alicloud"
  | openstack => "openstack"

def all : List Hyperscaler := [aws, azure, alicloud, openstack]

def ofName? (name : String) : Option Hyperscaler := all.find? fun h => h.name == name

@[simp] theorem ofName?_name (h : Hyperscaler) : ofName? h.name = some h := by
  cases h <;> decide

/-- The version that all documents of a provider carry. -/
def apiVersion (h : Hyperscaler) : String := h.name ++ ".provider.extensions.gardener.cloud/v1alpha1"

end Hyperscaler

end ShootPlan
