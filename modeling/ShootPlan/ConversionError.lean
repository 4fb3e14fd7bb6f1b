import ShootPlan.MaintenanceTime
import ShootPlan.NetworkError
/-!
Reasons why a conversion, or the loading of what it needs, fails.
-/
namespace ShootPlan

/-- The documents that a conversion is set up with. -/
inductive SetupDocument where
  | settings
  | auditLogs
  | maintenanceWindows
  deriving DecidableEq, Repr

def SetupDocument.title : SetupDocument → String
  | .settings => "converter config"
  | .auditLogs => "audit log data"
  | .maintenanceWindows => "maintenance windows"

inductive SetupFault where
  | unparsed (document : SetupDocument) (fault : Fault)
  /-- Required settings that are empty. -/
  | emptySettings (paths : List String)
  | emptyTenant (provider region : String) (fields : List String)
  | badWindow (region text : String) (fault : MaintenanceFault)
  deriving DecidableEq

namespace SetupFault

/-- What failed, before the cause. -/
def title : SetupFault → String
  | .unparsed document _ => "Failed to parse " ++ document.title
  | .emptySettings _ => "Invalid converter config"
  | .emptyTenant provider region _ => "Invalid audit log data for " ++ provider ++ "/" ++ region
  | .badWindow region _ _ => "Invalid maintenance window for " ++ region

def message (fault : SetupFault) : String :=
  match fault with
  | .unparsed _ cause => fault.title ++ ": " ++ cause.message
  | .badWindow _ text cause => fault.title ++ ": " ++ cause.message text
  | _ => fault.title

end SetupFault

inductive ConversionError where
  | emptyKubernetesVersion
  | emptyShootName
  | noSingleMainWorker
  | unsupportedProvider (name : String)
  | network (error : NetworkError)
  | auditLogNotFound (provider region : String)
  | maintenanceWindowNotFound (region : String)
  | domainMissing
  | infrastructureMissing (provider : Hyperscaler)
  /-- The subnet of an added zone would overlap one in use. -/
  | zoneOverlap (subnet persisted : Cidr)
  | setup (fault : SetupFault)
  | extender (name : String) (source : ConversionError)
  deriving DecidableEq

namespace ConversionError

/-- A look-up found no entry, so the feature does not apply. -/
def isNotFound : ConversionError → Bool
  | .auditLogNotFound _ _ => true
  | .maintenanceWindowNotFound _ => true
  | .extender _ source => source.isNotFound
  | _ => false

def message : ConversionError → String
  | .emptyKubernetesVersion => "Validation error: Kubernetes version must not be empty"
  | .emptyShootName => "Validation error: Shoot name must not be empty"
  | .noSingleMainWorker => "Validation error: single main worker is required"
  | .unsupportedProvider name => "Unsupported provider type: " ++ name
  | .network error => "Hyperscaler error: " ++ error.message
  | .auditLogNotFound provider region =>
    "Audit log data not found for provider " ++ provider ++ " in region " ++ region
  | .maintenanceWindowNotFound region => "Maintenance window not found for region: " ++ region
  | .domainMissing => "Internal error: Shoot domain must be set before extensions"
  | .infrastructureMissing provider =>
    "Internal error: Existing infrastructure config is required to update a " ++ provider.name ++ " Shoot"
  | .zoneOverlap subnet persisted =>
    "Internal error: " ++ (NetworkError.subnetOverlap subnet persisted).message
  | .setup fault => fault.message
  | .extender name source => name ++ " extender failed: " ++ source.message

end ConversionError

end ShootPlan
