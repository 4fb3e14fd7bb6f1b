import ShootPlan.Extender
import ShootPlan.KeyedList
import ShootPlan.ServiceConfig
import ShootPlan.Setup
/-!
The garden's extensions of a cluster, and the audit logging they belong to. Extensions the
cluster has keep their places; these are renewed or added after them.
-/
namespace ShootPlan

/-- The resource that holds the credentials for audit logs. -/
def auditLogCredentials : String := "auditlog-credentials"

namespace Extension

def plain (type : String) (disabled : Bool) : Extension := ⟨type, none, some disabled⟩

def configured {α : Type} [Coded α] (type : String) (config : α) : Extension :=
  ⟨type, some (Coded.write config).canonical, some false⟩

/-- Runs when the Runtime wants outgoing traffic filtered. -/
def networkFilter (runtime : Runtime) : Extension :=
  plain ExtensionType.networkFilter (!runtime.spec.security.networking.filter.egress.enabled)

def cert : Extension :=
  configured ExtensionType.cert { shootIssuers := some ⟨true⟩ : CertConfig }

def dns (secretName providerType domain : String) : Extension :=
  configured ExtensionType.dns {
    dnsProviderReplication := some ⟨true⟩
    providers := [⟨some { included := [domain] }, some secretName, some providerType⟩]
    syncProvidersFromShootSpecDNS := some false : DnsConfig }

def oidc : Extension := plain ExtensionType.oidc false

def auditLog (tenant : Tenant) : Extension :=
  configured ExtensionType.auditLog {
    type := "standard"
    tenantID := tenant.tenantID
    serviceURL := tenant.serviceURL
    secretReferenceName := auditLogCredentials : AuditLogConfig }

def registryCache (requests : List CacheRequest) : Extension :=
  configured ExtensionType.registryCache {
    caches := requests.map fun request => request.config.cache : RegistryConfig }

end Extension

/-- The tenant for the Runtime's provider and region. -/
def AuditLogTable.tenant? (table : AuditLogTable) (runtime : Runtime) : Option Tenant :=
  table.get? runtime.spec.shoot.provider.type runtime.spec.shoot.region

namespace Extender

/-- The extensions that a conversion renews, in the order new ones are added. -/
def renewed (secretName providerType : String) (auditLogs : AuditLogTable) (runtime : Runtime)
    (domain : String) : List Extension :=
  [Extension.networkFilter runtime, Extension.cert, Extension.dns secretName providerType domain,
    Extension.oidc]
    ++ ((auditLogs.tenant? runtime).map Extension.auditLog).toList
    ++ (if runtime.spec.caching.isEmpty then [] else [Extension.registryCache runtime.spec.caching])

def extensions (secretName providerType : String) (auditLogs : AuditLogTable) : Extender where
  name := "extensions"
  apply runtime shoot :=
    match shoot.spec.dns.bind Dns.domain with
    | none => .error .domainMissing
    | some domain =>
      let extensions :=
        (renewed secretName providerType auditLogs runtime domain).foldl KeyedList.upsert
          (KeyedList.ofList shoot.spec.extensions)
      .ok { shoot with spec := { shoot.spec with extensions := extensions.items } }

/--
With a tenant the audit policy and the credentials are set. Without one the cluster keeps
the audit settings it has.
-/
def auditLog (policyConfigMapName : String) (auditLogs : AuditLogTable)
    (existing : Option AuditConfig) : Extender where
  name := "audit-log"
  apply runtime shoot := .ok <|
    match auditLogs.tenant? runtime with
    | some tenant =>
      let policy : AuditConfig := ⟨some ⟨some ⟨policyConfigMapName⟩⟩⟩
      let shoot := shoot.updateApiServer fun server => { server with auditConfig := some policy }
      let credentials : NamedResource := ⟨auditLogCredentials, ⟨"v1", "Secret", tenant.secretName⟩⟩
      let resources := ((KeyedList.ofList shoot.spec.resources).upsert credentials).items
      { shoot with spec := { shoot.spec with resources } }
    | none =>
      match existing with
      | some config => shoot.updateApiServer fun server => { server with auditConfig := some config }
      | none => shoot

end Extender

end ShootPlan
