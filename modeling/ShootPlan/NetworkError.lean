import ShootPlan.CidrText
import ShootPlan.Fault
import ShootPlan.Hyperscaler
/-!
What can go wrong when networks are laid out and provider documents are read.
-/
namespace ShootPlan

/-- The two documents that a provider defines for a cluster. -/
inductive DocumentKind where
  | infrastructure
  | controlPlane
  deriving DecidableEq, Repr

def DocumentKind.name : DocumentKind → String
  | .infrastructure => "InfrastructureConfig"
  | .controlPlane => "ControlPlaneConfig"

inductive NetworkError where
  | invalidCidr (text : String) (fault : CidrFault)
  | unsupportedLength (text : String) (length : Nat)
  | zoneCount (count least : Nat)
  | duplicateZone (name : String)
  | subnetOutOfRange (parent : Cidr) (offset : UInt64) (length : UInt8)
  | subnetOverlap (subnet persisted : Cidr)
  | unsupportedProvider (name : String)
  | document (provider : Hyperscaler) (kind : DocumentKind) (fault : Fault)
  deriving DecidableEq

/-- Prefix lengths a worker network may have. -/
def workerLengths : Nat × Nat := (16, 24)

/-- Most zones a worker network is parted into. -/
def maxZones : Nat := 8

namespace NetworkError

def message : NetworkError → String
  | .invalidCidr text fault => "Invalid CIDR " ++ text ++ ": " ++ fault.reason
  | .unsupportedLength text length =>
    "Unsupported prefix length /" ++ toString length ++ " of " ++ text ++ ", expected /"
      ++ toString workerLengths.1 ++ " to /" ++ toString workerLengths.2
  | .zoneCount count least =>
    "Zone count " ++ toString count ++ " out of range, expected " ++ toString least ++ " to "
      ++ toString maxZones
  | .duplicateZone name => "Duplicate zone name: " ++ name
  | .subnetOutOfRange parent offset length =>
    "Generated subnet " ++ String.ofList (Cidr.addressChars parent.base) ++ "+"
      ++ toString offset.toNat ++ "/" ++ toString length.toNat ++ " escapes worker CIDR " ++ parent.text
  | .subnetOverlap subnet persisted =>
    "Subnet " ++ subnet.text ++ " of an added zone overlaps persisted subnet " ++ persisted.text
  | .unsupportedProvider name => "Unsupported provider type: " ++ name
  | .document provider kind fault =>
    "Invalid " ++ provider.name ++ " " ++ kind.name ++ " document: " ++ fault.message

end NetworkError

end ShootPlan
