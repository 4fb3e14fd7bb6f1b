import ShootPlan.ConversionError
import ShootPlan.Settings
import ShootPlan.Shoot
/-!
What a conversion is set up with: settings, the audit log tenants by provider and region,
and the maintenance windows by region. Each is read from a text and checked as a whole.
-/
namespace ShootPlan

/-- Read a text's tree; a text without one is unreadable. -/
def parseDocument {α : Type} [Coded α] (document : SetupDocument) (tree : Option Written) :
    Except ConversionError α :=
  Except.mapError (fun fault => .setup (.unparsed document fault)) <|
    match tree with
    | some tree => Coded.read tree
    | none => .error .unreadable

def Settings.load (tree : Option Written) : Except ConversionError Settings := do
  let settings : Settings ← parseDocument .settings tree
  if settings.emptyPaths = [] then return settings
  else throw (.setup (.emptySettings settings.emptyPaths))

/-- The tenant that takes the audit logs of a region. -/
structure Tenant where
  tenantID : String
  serviceURL : String
  secretName : String
  deriving DecidableEq

namespace Tenant

def record : Record Tenant where
  name := "AuditLogData"
  fields :=
    .cons (.required "tenantID") <| .cons (.required "serviceURL") <|
    .cons (.required "secretName") .nil
  build := fun (a, b, c, ()) => ⟨a, b, c⟩
  split t := (t.tenantID, t.serviceURL, t.secretName, ())

instance : Coded Tenant := record.coded

/-- Names of the parts that are empty, in order of the names. -/
def emptyFields (tenant : Tenant) : List String :=
  ([("secret_name", tenant.secretName), ("service_url", tenant.serviceURL),
    ("tenant_id", tenant.tenantID)].filter fun field => field.2 = "").map Prod.fst

end Tenant

structure AuditLogTable where
  tenants : Dict (Dict Tenant)
  deriving DecidableEq

namespace AuditLogTable

def empty : AuditLogTable := ⟨.empty⟩

instance : Coded AuditLogTable where
  read node := (Coded.read node).map AuditLogTable.mk
  write table := Coded.write table.tenants
  shape := Coded.shape (Dict (Dict Tenant))

/-- All tenants with provider and region, in order of these. -/
def entries (table : AuditLogTable) : List (String × String × Tenant) :=
  table.tenants.entries.flatMap fun (provider, regions) =>
    regions.entries.map fun (region, tenant) => (provider, region, tenant)

/-- Every tenant has all its parts; the first that has not is reported. -/
def load (tree : Option Written) : Except ConversionError AuditLogTable := do
  let table : AuditLogTable ← parseDocument .auditLogs tree
  match table.entries.find? fun entry => entry.2.2.emptyFields ≠ [] with
  | some (provider, region, tenant) => throw (.setup (.emptyTenant provider region tenant.emptyFields))
  | none => return table

def get? (table : AuditLogTable) (provider region : String) : Option Tenant :=
  (table.tenants.get? provider).bind fun regions => regions.get? region

def get (table : AuditLogTable) (provider region : String) : Except ConversionError Tenant :=
  match table.get? provider region with
  | some tenant => .ok tenant
  | none => .error (.auditLogNotFound provider region)

def insert (table : AuditLogTable) (provider region : String) (tenant : Tenant) : AuditLogTable :=
  let regions := (table.tenants.get? provider).getD .empty
  ⟨table.tenants.insert provider (regions.insert region tenant)⟩

end AuditLogTable

/-- The daily maintenance window of a region. -/
structure MaintenanceWindow where
  begin : String
  finish : String
  deriving DecidableEq

namespace MaintenanceWindow

def record : Record MaintenanceWindow where
  name := "MaintenanceWindow"
  fields := .cons (.required "begin") <| .cons (.required "end") .nil
  build := fun (a, b, ()) => ⟨a, b⟩
  split w := (w.begin, w.finish, ())

instance : Coded MaintenanceWindow := record.coded

def timeWindow (window : MaintenanceWindow) : TimeWindow := ⟨window.begin, window.finish⟩

/-- The first of both times that is not in the notation. -/
def fault? (window : MaintenanceWindow) : Option (String × MaintenanceFault) :=
  match MaintenanceTime.check window.begin, MaintenanceTime.check window.finish with
  | .error fault, _ => some (window.begin, fault)
  | .ok (), .error fault => some (window.finish, fault)
  | .ok (), .ok () => none

end MaintenanceWindow

structure MaintenanceTable where
  windows : Dict MaintenanceWindow
  deriving DecidableEq

namespace MaintenanceTable

def empty : MaintenanceTable := ⟨.empty⟩

instance : Coded MaintenanceTable where
  read node := (Coded.read node).map MaintenanceTable.mk
  write table := Coded.write table.windows
  shape := Coded.shape (Dict MaintenanceWindow)

/-- Every time is in the notation; the first region where one is not is reported. -/
def load (tree : Option Written) : Except ConversionError MaintenanceTable := do
  let table : MaintenanceTable ← parseDocument .maintenanceWindows tree
  match table.windows.entries.findSome? fun entry => entry.2.fault?.map (entry.1, ·) with
  | some (region, text, fault) => throw (.setup (.badWindow region text fault))
  | none => return table

def get? (table : MaintenanceTable) (region : String) : Option MaintenanceWindow :=
  table.windows.get? region

def get (table : MaintenanceTable) (region : String) : Except ConversionError MaintenanceWindow :=
  match table.get? region with
  | some window => .ok window
  | none => .error (.maintenanceWindowNotFound region)

def insert (table : MaintenanceTable) (region : String) (window : MaintenanceWindow) :
    MaintenanceTable :=
  ⟨table.windows.insert region window⟩

end MaintenanceTable

end ShootPlan
