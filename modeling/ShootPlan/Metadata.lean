import ShootPlan.Instant
import ShootPlan.Record
/-!
The metadata that every cluster object carries. Only the parts that are set are written.
-/
namespace ShootPlan

/-- A document that says which fields, in its own notation. -/
structure FieldSet where
  json : Json
  deriving DecidableEq

instance : Coded FieldSet where
  read node := (Source.json (Source.wrapped node)).map FieldSet.mk
  write fields := fields.json
  shape := .whole

/-- Who last changed which fields. -/
structure ManagedFields where
  apiVersion : Option String := none
  fieldsType : Option String := none
  fieldsV1 : Option FieldSet := none
  manager : Option String := none
  operation : Option String := none
  subresource : Option String := none
  time : Option WholeSecond := none
  deriving DecidableEq

def ManagedFields.record : Record ManagedFields where
  name := "ManagedFieldsEntry"
  layout := .objectOnly
  fields :=
    .cons (.optional "apiVersion") <| .cons (.optional "fieldsType") <|
    .cons (.optional "fieldsV1") <| .cons (.optional "manager") <|
    .cons (.optional "operation") <| .cons (.optional "subresource") <|
    .cons (.optional "time") .nil
  build := fun (a, b, c, d, e, f, g, ()) => ⟨a, b, c, d, e, f, g⟩
  split m := (m.apiVersion, m.fieldsType, m.fieldsV1, m.manager, m.operation, m.subresource, m.time, ())

instance : Coded ManagedFields := ManagedFields.record.coded

/-- The object that owns this one. -/
structure OwnerReference where
  apiVersion : String
  blockOwnerDeletion : Option Bool := none
  controller : Option Bool := none
  kind : String
  name : String
  uid : String
  deriving DecidableEq

def OwnerReference.record : Record OwnerReference where
  name := "OwnerReference"
  layout := .objectOnly
  fields :=
    .cons (.lenient "apiVersion") <| .cons (.optional "blockOwnerDeletion") <|
    .cons (.optional "controller") <| .cons (.lenient "kind") <|
    .cons (.lenient "name") <| .cons (.lenient "uid") .nil
  build := fun (a, b, c, d, e, f, ()) => ⟨a, b, c, d, e, f⟩
  split o := (o.apiVersion, o.blockOwnerDeletion, o.controller, o.kind, o.name, o.uid, ())

instance : Coded OwnerReference := OwnerReference.record.coded

structure Metadata where
  annotations : Option (Dict String) := none
  creationTimestamp : Option WholeSecond := none
  deletionGracePeriodSeconds : Option Int64 := none
  deletionTimestamp : Option WholeSecond := none
  finalizers : Option (List String) := none
  generateName : Option String := none
  generation : Option Int64 := none
  labels : Option (Dict String) := none
  managedFields : Option (List ManagedFields) := none
  name : Option String := none
  nameSpace : Option String := none
  ownerReferences : Option (List OwnerReference) := none
  resourceVersion : Option String := none
  selfLink : Option String := none
  uid : Option String := none
  deriving DecidableEq

def Metadata.record : Record Metadata where
  name := "ObjectMeta"
  layout := .objectOnly
  fields :=
    .cons (.optional "annotations") <| .cons (.optional "creationTimestamp") <|
    .cons (.optional "deletionGracePeriodSeconds") <| .cons (.optional "deletionTimestamp") <|
    .cons (.optional "finalizers") <| .cons (.optional "generateName") <|
    .cons (.optional "generation") <| .cons (.optional "labels") <|
    .cons (.optional "managedFields") <| .cons (.optional "name") <|
    .cons (.optional "namespace") <| .cons (.optional "ownerReferences") <|
    .cons (.optional "resourceVersion") <| .cons (.optional "selfLink") <|
    .cons (.optional "uid") .nil
  build := fun (a, b, c, d, e, f, g, h, i, j, k, l, m, n, o, ()) =>
    ⟨a, b, c, d, e, f, g, h, i, j, k, l, m, n, o⟩
  split m :=
    (m.annotations, m.creationTimestamp, m.deletionGracePeriodSeconds, m.deletionTimestamp,
      m.finalizers, m.generateName, m.generation, m.labels, m.managedFields, m.name, m.nameSpace,
      m.ownerReferences, m.resourceVersion, m.selfLink, m.uid, ())

instance : Coded Metadata := Metadata.record.coded

end ShootPlan
