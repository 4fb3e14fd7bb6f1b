import ShootPlan.Proofs.RecordRoundTrip
import ShootPlan.ServiceConfig
/-!
The documents of the garden's own extensions are read back as they were written.
-/
namespace ShootPlan

open ShootPlan.Coded ShootPlan.Field

theorem ShootIssuers.faithful (issuers : ShootIssuers) : Faithful issuers :=
  Record.faithful (by decide) rfl ⟨faithful_required (faithful_bool _), trivial⟩

theorem CertConfig.faithful (config : CertConfig) : Faithful config :=
  Record.faithful (by decide) rfl
    ⟨faithful_required (faithful_string _), faithful_required (faithful_string _),
      faithful_optional fun issuers _ => ShootIssuers.faithful issuers, trivial⟩

theorem DnsProviderReplication.faithful (replication : DnsProviderReplication) :
    Faithful replication :=
  Record.faithful (by decide) rfl ⟨faithful_required (faithful_bool _), trivial⟩

theorem DnsDomains.faithful (domains : DnsDomains) : Faithful domains :=
  Record.faithful (by decide) rfl
    ⟨faithful_sparse fun _ _ => faithful_string _, faithful_sparse fun _ _ => faithful_string _,
      trivial⟩

theorem DnsProvider.faithful (provider : DnsProvider) : Faithful provider :=
  Record.faithful (by decide) rfl
    ⟨faithful_optional fun domains _ => DnsDomains.faithful domains,
      faithful_optional fun _ _ => faithful_string _, faithful_optional fun _ _ => faithful_string _,
      trivial⟩

theorem DnsConfig.faithful (config : DnsConfig) : Faithful config :=
  Record.faithful (by decide) rfl
    ⟨faithful_required (faithful_string _), faithful_required (faithful_string _),
      faithful_optional fun replication _ => DnsProviderReplication.faithful replication,
      faithful_sparse fun provider _ => DnsProvider.faithful provider,
      faithful_optional fun _ _ => faithful_bool _, trivial⟩

theorem AuditLogConfig.faithful (config : AuditLogConfig) : Faithful config :=
  Record.faithful (by decide) rfl
    ⟨faithful_required (faithful_string _), faithful_required (faithful_string _),
      faithful_required (faithful_string _), faithful_required (faithful_string _),
      faithful_required (faithful_string _), faithful_required (faithful_string _), trivial⟩

theorem CacheVolume.faithful (volume : CacheVolume) : Faithful volume :=
  Record.faithful (by decide) rfl
    ⟨faithful_optional fun _ _ => faithful_string _, faithful_optional fun _ _ => faithful_string _,
      trivial⟩

theorem CacheExpiry.faithful (expiry : CacheExpiry) : Faithful expiry :=
  Record.faithful (by decide) rfl ⟨faithful_required (faithful_string _), trivial⟩

theorem RegistryCache.fields_faithful (name : String) (cache : RegistryCache) :
    (recordNamed name).fields.Faithful ((recordNamed name).split cache) :=
  ⟨faithful_required (faithful_string _), faithful_optional fun _ _ => faithful_string _,
    faithful_optional fun volume _ => CacheVolume.faithful volume,
    faithful_optional fun expiry _ => CacheExpiry.faithful expiry,
    faithful_optional fun _ _ => faithful_string _, trivial⟩

theorem RegistryCache.faithful (cache : RegistryCache) : Faithful cache :=
  Record.faithful (by decide) rfl (fields_faithful _ cache)

theorem RegistryConfig.faithful (config : RegistryConfig) : Faithful config :=
  Record.faithful (by decide) rfl
    ⟨faithful_required (faithful_string _), faithful_required (faithful_string _),
      faithful_defaulted (faithful_list fun cache _ => RegistryCache.faithful cache), trivial⟩

end ShootPlan
