import ShootPlan.ServiceConfig
import ShootPlan.Shoot
/-!
Comparison of two Shoots, field by field, over the fields that a conversion decides.
Extensions are compared as a set by type, all else by what is written of it.
-/
namespace ShootPlan

structure Difference where
  path : String
  message : String
  deriving DecidableEq, Repr

/-- A known extension's document that cannot be read. -/
structure ComparisonError where
  extension : String
  fault : Fault
  deriving DecidableEq

def ComparisonError.message (error : ComparisonError) : String :=
  "Invalid provider config of extension " ++ error.extension ++ ": " ++ error.fault.message

/-- The differing fields, in the order of comparison. -/
structure Comparison where
  differences : List Difference
  deriving DecidableEq, Repr

namespace Comparison

def passed (c : Comparison) : Bool := c.differences.isEmpty

def text (c : Comparison) : String :=
  if c.passed then "Shoots are equal"
  else
    "Shoots differ in " ++ toString c.differences.length ++ " field(s):\n"
      ++ String.join (c.differences.map fun d => "  " ++ d.path ++ ": " ++ d.message ++ "\n")

def shown {α : Type} [Coded α] (value : α) : String := (Coded.write value).canonical.text

/-- Values agree when the same is written of them. -/
def field {α : Type} [Coded α] (path : String) (expected actual : α) : List Difference :=
  if (Coded.write expected).comparand = (Coded.write actual).comparand then []
  else [⟨path, "expected " ++ shown expected ++ ", got " ++ shown actual⟩]

/-- The types of extensions, sorted, each once. -/
def types (extensions : List Extension) : List String :=
  (Dict.ofList (extensions.map fun e => (e.type, ()))).keys

def repeated (extensions : List Extension) (side : String) : List String :=
  (types extensions).filterMap fun type =>
    let count := extensions.countP fun e => e.type == type
    if 1 < count then
      some ("extension " ++ type ++ " appears " ++ toString count ++ " times in " ++ side)
    else none

def ofType (extensions : List Extension) (type : String) : Option Extension :=
  extensions.find? fun e => e.type == type

/-- Read both documents as the same kind and compare what they say. -/
def sameAs (α : Type) [Coded α] [DecidableEq α] (expected actual : Json) : Except Fault Bool := do
  let e : α ← Coded.read expected
  let a : α ← Coded.read actual
  return e = a

/-- Documents of the garden's own extensions are compared by what they say. -/
def sameDocument (type : String) (expected actual : Json) : Except Fault Bool :=
  if type = ExtensionType.dns then sameAs DnsConfig expected actual
  else if type = ExtensionType.cert then sameAs CertConfig expected actual
  else if type = ExtensionType.auditLog then sameAs AuditLogConfig expected actual
  else if type = ExtensionType.registryCache then sameAs RegistryConfig expected actual
  else .ok (expected.comparand = actual.comparand)

def sameConfig (type : String) : Option Json → Option Json → Except ComparisonError Bool
  | none, none => .ok true
  | some expected, some actual => (sameDocument type expected actual).mapError (.mk type)
  | _, _ => .ok false

def configText (config : Option Json) : String := ((config.map Json.text).getD "null")

/-- What differs between two extensions of one type. -/
def pair (type : String) (expected actual : Extension) : Except ComparisonError (List String) := do
  let e := expected.disabled.getD false
  let a := actual.disabled.getD false
  let disabled :=
    if e = a then []
    else
      ["extension " ++ type ++ ": expected disabled=" ++ toString e ++ ", got disabled=" ++ toString a]
  if ← sameConfig type expected.providerConfig actual.providerConfig then return disabled
  else
    return disabled ++ ["extension " ++ type ++ ": expected providerConfig "
      ++ configText expected.providerConfig ++ ", got " ++ configText actual.providerConfig]

def mismatchOf (expected actual : List Extension) (type : String) :
    Except ComparisonError (List String) :=
  match ofType expected type, ofType actual type with
  | some e, some a => pair type e a
  | some _, none => .ok ["extension " ++ type ++ " is missing"]
  | none, some _ => .ok ["extension " ++ type ++ " is unexpected"]
  | none, none => .ok []

/-- Everything in which two extension lists differ; the order of the lists does not matter. -/
def extensionMismatches (expected actual : List Extension) : Except ComparisonError (List String) := do
  let perType ← (types (expected ++ actual)).mapM (mismatchOf expected actual)
  return repeated expected "expected" ++ repeated actual "actual" ++ perType.flatten

def extensions (expected actual : List Extension) : Except ComparisonError (List Difference) := do
  let mismatches ← extensionMismatches expected actual
  if mismatches = [] then return []
  else return [⟨"spec/Extensions", "; ".intercalate mismatches⟩]

/-- Annotations and the fields that the garden fills in are left out. -/
def ofShoots (expected actual : Shoot) : Except ComparisonError Comparison := do
  let e := expected.spec
  let a := actual.spec
  let extensions ← extensions e.extensions a.extensions
  return ⟨
    field "metadata/name" expected.metadata.name actual.metadata.name
    ++ field "metadata/namespace" expected.metadata.nameSpace actual.metadata.nameSpace
    ++ field "metadata/labels" (expected.metadata.labels.getD .empty) (actual.metadata.labels.getD .empty)
    ++ field "spec/AccessRestrictions" e.accessRestrictions a.accessRestrictions
    ++ field "spec/CloudProfileName" e.cloudProfileName a.cloudProfileName
    ++ field "spec/ControlPlane" e.controlPlane a.controlPlane
    ++ field "spec/DNS" e.dns a.dns
    ++ field "spec/ExposureClassName" e.exposureClassName a.exposureClassName
    ++ extensions
    ++ field "spec/Kubernetes" e.kubernetes a.kubernetes
    ++ field "spec/Maintenance" e.maintenance a.maintenance
    ++ field "spec/Networking" e.networking a.networking
    ++ field "spec/Provider" e.provider a.provider
    ++ field "spec/Purpose" e.purpose a.purpose
    ++ field "spec/Region" e.region a.region
    ++ field "spec/Resources" e.resources a.resources
    ++ field "spec/SecretBindingName" e.secretBindingName a.secretBindingName
    ++ field "spec/SeedSelector" e.seedSelector a.seedSelector
    ++ field "spec/Tolerations" e.tolerations a.tolerations⟩

end Comparison

end ShootPlan
