import ShootPlan.Extender
/-!
Annotations and labels of the Shoot, taken from the Runtime.
-/
namespace ShootPlan.Extender

def runtimeIdLabel : String := "kyma-project.io/runtime-id"
def globalAccountLabel : String := "kyma-project.io/global-account-id"
def subaccountLabel : String := "kyma-project.io/subaccount-id"
def runtimeIdAnnotation : String := "infrastructuremanager.kyma-project.io/runtime-id"
def licenceTypeAnnotation : String := "infrastructuremanager.kyma-project.io/licence-type"

/-- The Shoot has annotations afterwards, even if there is nothing to note. -/
def annotations : Extender where
  name := "annotations"
  apply runtime shoot :=
    let noted := (shoot.metadata.annotations.getD .empty)
      |>.insertSome runtimeIdAnnotation (runtime.label runtimeIdLabel)
      |>.insertSome licenceTypeAnnotation (runtime.spec.shoot.licenceType.filter (· ≠ ""))
      |>.insertSome euAccessAnnotation (if runtime.needsEuAccess then some "true" else none)
    .ok { shoot with metadata := { shoot.metadata with annotations := some noted } }

/-- Add a label if there is a value for it; labels are made when first needed. -/
def addLabel (labels : Option (Dict String)) (key : String) : Option String → Option (Dict String)
  | some value => some ((labels.getD .empty).insert key value)
  | none => labels

def labels : Extender where
  name := "labels"
  apply runtime shoot :=
    let account := addLabel shoot.metadata.labels "account" (runtime.label globalAccountLabel)
    let both := addLabel account "subaccount" (runtime.label subaccountLabel)
    .ok { shoot with metadata := { shoot.metadata with labels := both } }

end ShootPlan.Extender
