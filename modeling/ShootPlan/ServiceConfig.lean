import ShootPlan.RegistryCache
/-!
The documents that configure the garden's own extensions, and the types these extensions
are known by.
-/
namespace ShootPlan

namespace ExtensionType

def networkFilter : String := "shoot-networking-filter"
def cert : String := "shoot-cert-service"
def dns : String := "shoot-dns-service"
def oidc : String := "shoot-oidc-service"
def auditLog : String := "shoot-auditlog-service"
def registryCache : String := "registry-cache"

end ExtensionType

structure ShootIssuers where
  enabled : Bool
  deriving DecidableEq

def ShootIssuers.record : Record ShootIssuers where
  name := "ShootIssuers"
  fields := .cons (.required "enabled") .nil
  build := fun (a, ()) => ⟨a⟩
  split s := (s.enabled, ())

instance : Coded ShootIssuers := ShootIssuers.record.coded

/-- Certificates. -/
structure CertConfig where
  apiVersion : String := "service.cert.extensions.gardener.cloud/v1alpha1"
  kind : String := "CertConfig"
  shootIssuers : Option ShootIssuers := none
  deriving DecidableEq

def CertConfig.record : Record CertConfig where
  name := "CertConfig"
  fields :=
    .cons (.required "apiVersion") <| .cons (.required "kind") <| .cons (.optional "shootIssuers") .nil
  build := fun (a, b, c, ()) => ⟨a, b, c⟩
  split c := (c.apiVersion, c.kind, c.shootIssuers, ())

instance : Coded CertConfig := CertConfig.record.coded

structure DnsProviderReplication where
  enabled : Bool
  deriving DecidableEq

def DnsProviderReplication.record : Record DnsProviderReplication where
  name := "DnsProviderReplication"
  fields := .cons (.required "enabled") .nil
  build := fun (a, ()) => ⟨a⟩
  split r := (r.enabled, ())

instance : Coded DnsProviderReplication := DnsProviderReplication.record.coded

structure DnsDomains where
  included : List String := []
  excluded : List String := []
  deriving DecidableEq

def DnsDomains.record : Record DnsDomains where
  name := "DnsIncludeExclude"
  fields := .cons (.sparse "include") <| .cons (.sparse "exclude") .nil
  build := fun (a, b, ()) => ⟨a, b⟩
  split d := (d.included, d.excluded, ())

instance : Coded DnsDomains := DnsDomains.record.coded

structure DnsProvider where
  domains : Option DnsDomains := none
  secretName : Option String := none
  type : Option String := none
  deriving DecidableEq

def DnsProvider.record : Record DnsProvider where
  name := "DnsProvider"
  fields :=
    .cons (.optional "domains") <| .cons (.optional "secretName") <| .cons (.optional "type") .nil
  build := fun (a, b, c, ()) => ⟨a, b, c⟩
  split p := (p.domains, p.secretName, p.type, ())

instance : Coded DnsProvider := DnsProvider.record.coded

/-- Domain names. -/
structure DnsConfig where
  apiVersion : String := "service.dns.extensions.gardener.cloud/v1alpha1"
  kind : String := "DNSConfig"
  dnsProviderReplication : Option DnsProviderReplication := none
  providers : List DnsProvider := []
  syncProvidersFromShootSpecDNS : Option Bool := none
  deriving DecidableEq

def DnsConfig.record : Record DnsConfig where
  name := "DnsConfig"
  fields :=
    .cons (.required "apiVersion") <| .cons (.required "kind") <|
    .cons (.optional "dnsProviderReplication") <| .cons (.sparse "providers") <|
    .cons (.optional "syncProvidersFromShootSpecDNS") .nil
  build := fun (a, b, c, d, e, ()) => ⟨a, b, c, d, e⟩
  split c :=
    (c.apiVersion, c.kind, c.dnsProviderReplication, c.providers, c.syncProvidersFromShootSpecDNS, ())

instance : Coded DnsConfig := DnsConfig.record.coded

/-- Audit logs. -/
structure AuditLogConfig where
  apiVersion : String := "service.auditlog.extensions.gardener.cloud/v1alpha1"
  kind : String := "AuditlogConfig"
  type : String
  tenantID : String
  serviceURL : String
  secretReferenceName : String
  deriving DecidableEq

def AuditLogConfig.record : Record AuditLogConfig where
  name := "AuditlogConfig"
  fields :=
    .cons (.required "apiVersion") <| .cons (.required "kind") <| .cons (.required "type") <|
    .cons (.required "tenantID") <| .cons (.required "serviceURL") <|
    .cons (.required "secretReferenceName") .nil
  build := fun (a, b, c, d, e, f, ()) => ⟨a, b, c, d, e, f⟩
  split c := (c.apiVersion, c.kind, c.type, c.tenantID, c.serviceURL, c.secretReferenceName, ())

instance : Coded AuditLogConfig := AuditLogConfig.record.coded

instance : Coded RegistryCache := (RegistryCache.recordNamed "RegistryCache").coded

/-- Registry caches. -/
structure RegistryConfig where
  apiVersion : String := "registry.extensions.gardener.cloud/v1alpha3"
  kind : String := "RegistryConfig"
  caches : List RegistryCache := []
  deriving DecidableEq

def RegistryConfig.record : Record RegistryConfig where
  name := "RegistryConfig"
  fields :=
    .cons (.required "apiVersion") <| .cons (.required "kind") <| .cons (.defaulted "caches" []) .nil
  build := fun (a, b, c, ()) => ⟨a, b, c⟩
  split c := (c.apiVersion, c.kind, c.caches, ())

instance : Coded RegistryConfig := RegistryConfig.record.coded

end ShootPlan
