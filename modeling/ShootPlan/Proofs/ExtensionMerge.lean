import ShootPlan.Proofs.ExtensionList
import ShootPlan.Proofs.KeyedOrder
import ShootPlan.Proofs.ServiceRoundTrip
/-!
What a patch makes of the extensions of a Shoot. Their types stay in order, and new types come
after them. An extension is either renewed, and then does not depend on those before, or it is
the first one of its type that was there.
-/
namespace ShootPlan

/-- The extension looks after names under this domain, and no others. -/
def Extension.ServesDomain (e : Extension) (domain : String) : Prop :=
  ∃ json, ∃ config : DnsConfig, e.providerConfig = some json ∧ Coded.read json = .ok config ∧
    config.providers.map DnsProvider.domains = [some { included := [domain] }]

theorem Extension.dns_servesDomain (secretName providerType domain : String) :
    (Extension.dns secretName providerType domain).ServesDomain domain :=
  ⟨_, _, rfl, (DnsConfig.faithful _).read_write, rfl⟩

/-- The new list is the old one, with the extensions of these types renewed or added to it. -/
structure MergesInto (old : List Extension) (types : List String) (new : List Extension) : Prop where
  order : new.map Extension.type =
    (old.map Extension.type).eraseDups ++ types.filter (· ∉ old.map Extension.type)
  distinct : (new.map Extension.type).Nodup
  kept : ∀ e ∈ new, e.type ∉ types → old.find? (fun first => first.type == e.type) = some e

namespace Conversion

variable {c : Conversion} {runtime : Runtime} {shoot : Shoot} {e : Extension}

theorem mem_extensions_iff_of_renewed (h : e.type ∈ c.setup.auditLogs.renewedTypes runtime) :
    e ∈ c.extensions runtime ↔ e ∈ c.renewed runtime := by
  rw [extensions, KeyedList.mem_foldl_upsert_iff (nodup_renewed c runtime), map_key_renewed]
  exact or_iff_left fun hold => hold.2 h

theorem mem_extensions_iff_of_kept (h : e.type ∉ c.setup.auditLogs.renewedTypes runtime) :
    e ∈ c.extensions runtime ↔
      c.priorExtensions.find? (fun first => first.type == e.type) = some e := by
  have hnew : e ∉ c.renewed runtime := fun hmem =>
    h (map_key_renewed c runtime ▸ List.mem_map_of_mem (f := Keyed.key) hmem)
  rw [extensions, KeyedList.mem_foldl_upsert_iff (nodup_renewed c runtime), map_key_renewed,
    or_iff_right hnew, KeyedList.mem_ofList_iff]
  exact and_iff_left h

theorem extensions_order (c : Conversion) (runtime : Runtime) :
    (c.extensions runtime).map Extension.type =
      (c.priorExtensions.map Extension.type).eraseDups ++
        (c.setup.auditLogs.renewedTypes runtime).filter (· ∉ c.priorExtensions.map Extension.type) := by
  have hkeys := KeyedList.foldl_upsert_keys (KeyedList.ofList c.priorExtensions) (nodup_renewed c runtime)
  rw [KeyedList.ofList_keys, map_key_renewed] at hkeys
  simp only [List.mem_eraseDups] at hkeys
  exact hkeys

theorem mergesInto (c : Conversion) (runtime : Runtime) :
    MergesInto c.priorExtensions (c.setup.auditLogs.renewedTypes runtime) (c.extensions runtime) where
  order := extensions_order c runtime
  distinct := nodup_extensions c runtime
  kept _ hmem htype := (mem_extensions_iff_of_kept htype).1 hmem

theorem mergesInto_of_run (h : c.run runtime = .ok shoot) :
    MergesInto c.priorExtensions (c.setup.auditLogs.renewedTypes runtime) shoot.spec.extensions := by
  obtain ⟨-, -, provider, json, -, -, -, rfl⟩ := run_eq_ok_iff.1 h
  exact mergesInto c runtime

theorem eq_dns_of_mem_renewed (he : e ∈ c.renewed runtime) (htype : e.type = ExtensionType.dns) :
    e = Extension.dns c.setup.settings.dns.secretName c.setup.settings.dns.providerType
      (c.domain runtime) := by
  refine List.inj_on_of_nodup_map (nodup_renewed c runtime) he ?_ htype
  simp [renewed, Extender.renewed]

/--
A patch merges what it renews into the extensions that are there. What it renews is the same
for every conversion with these settings and tenants, and serves the domain of the Shoot.
-/
theorem extensions_merged {setup : Setup} {existing : ExistingShoot}
    (h : run ⟨setup, .patch existing⟩ runtime = .ok shoot) :
    MergesInto existing.extensions (setup.auditLogs.renewedTypes runtime) shoot.spec.extensions ∧
      (∀ (c : Conversion) (other : Shoot), c.setup.settings = setup.settings →
        c.setup.auditLogs = setup.auditLogs → c.run runtime = .ok other →
        ∀ e : Extension, e.type ∈ setup.auditLogs.renewedTypes runtime →
          (e ∈ shoot.spec.extensions ↔ e ∈ other.spec.extensions)) ∧
      ∃ domain, shoot.spec.dns = some { domain := some domain } ∧
        ∀ e ∈ shoot.spec.extensions, e.type = ExtensionType.dns → e.ServesDomain domain := by
  have hmerged := mergesInto_of_run h
  obtain ⟨-, -, provider, json, -, -, -, rfl⟩ := run_eq_ok_iff.1 h
  have hrenewed (e : Extension) (htype : e.type ∈ setup.auditLogs.renewedTypes runtime) :
      e ∈ extensions ⟨setup, .patch existing⟩ runtime ↔ e ∈ renewed ⟨setup, .patch existing⟩ runtime :=
    mem_extensions_iff_of_renewed (c := ⟨setup, .patch existing⟩) htype
  refine ⟨hmerged, fun c other hsettings hlogs hother e htype => ?_, _, rfl, fun e he htype => ?_⟩
  · obtain ⟨-, -, provider', json', -, -, -, rfl⟩ := run_eq_ok_iff.1 hother
    have hsame : renewed ⟨setup, .patch existing⟩ runtime = c.renewed runtime := by
      simp only [renewed, domain, hsettings, hlogs]
    calc e ∈ extensions ⟨setup, .patch existing⟩ runtime
      _ ↔ e ∈ renewed ⟨setup, .patch existing⟩ runtime := hrenewed e htype
      _ ↔ e ∈ c.renewed runtime := by rw [hsame]
      _ ↔ e ∈ c.extensions runtime := (mem_extensions_iff_of_renewed (hlogs ▸ htype)).symm
  · have hdns : e.type ∈ setup.auditLogs.renewedTypes runtime := by
      simp [AuditLogTable.renewedTypes, htype]
    rw [eq_dns_of_mem_renewed ((hrenewed e hdns).1 he) htype]
    exact Extension.dns_servesDomain _ _ _

/-- A type that is there twice, one that is renewed, and a cache that nobody asks for now. -/
def mergedExisting : ExistingShoot where
  extensions := [
    ⟨"custom", some (.bool true), none⟩,
    ⟨ExtensionType.oidc, none, some true⟩,
    ⟨"custom", none, some true⟩,
    ⟨ExtensionType.registryCache, none, some true⟩]

theorem extensions_merged_sample : ∃ shoot,
    run ⟨Lifecycle.sampleSetup, .patch mergedExisting⟩
        (Lifecycle.sampleStep .openstack "1.30.1" ["a"]).runtime = .ok shoot ∧
      shoot.spec.extensions.map Extension.type =
        ["custom", ExtensionType.oidc, ExtensionType.registryCache, ExtensionType.networkFilter,
          ExtensionType.cert, ExtensionType.dns] ∧
      ∀ e ∈ shoot.spec.extensions, e.type = "custom" → e = ⟨"custom", some (.bool true), none⟩ := by
  obtain ⟨json, hjson⟩ : ∃ json, infrastructure ⟨Lifecycle.sampleSetup, .patch mergedExisting⟩
      (Lifecycle.sampleStep .openstack "1.30.1" ["a"]).runtime .openstack = .ok json := by
    rw [infrastructure_of_one_pool _ _ rfl]
    exact ⟨_, rfl⟩
  obtain ⟨shoot, hshoot⟩ : ∃ shoot, run ⟨Lifecycle.sampleSetup, .patch mergedExisting⟩
      (Lifecycle.sampleStep .openstack "1.30.1" ["a"]).runtime = .ok shoot :=
    ⟨_, run_eq_ok_iff.2 ⟨by decide, by decide, .openstack, json, rfl, rfl, hjson, rfl⟩⟩
  obtain ⟨hmerged, -⟩ := extensions_merged hshoot
  refine ⟨shoot, hshoot, hmerged.order.trans (by decide), fun e he htype => ?_⟩
  have hfirst := hmerged.kept e he (by rw [htype]; decide)
  rw [htype] at hfirst
  exact (Option.some.inj hfirst).symm

end Conversion

namespace Lifecycle

variable {shoot last : Shoot} {steps : List Step}

/-- Over a whole life no extension type is lost or moved; new ones only come at the end. -/
theorem types_prefix_of_run (hdistinct : (shoot.spec.extensions.map Extension.type).Nodup)
    (hrun : run (some shoot) steps = some last) :
    shoot.spec.extensions.map Extension.type <+: last.spec.extensions.map Extension.type := by
  have hkept : (last.spec.extensions.map Extension.type).Nodup ∧
      shoot.spec.extensions.map Extension.type <+: last.spec.extensions.map Extension.type := by
    refine run_invariant (P := fun s => (s.spec.extensions.map Extension.type).Nodup ∧
        shoot.spec.extensions.map Extension.type <+: s.spec.extensions.map Extension.type)
      (fun step _ s next hs hnext => ?_) ⟨hdistinct, List.prefix_refl _⟩ hrun
    have hmerged : MergesInto s.spec.extensions (step.setup.auditLogs.renewedTypes step.runtime)
        next.spec.extensions := Conversion.mergesInto_of_run hnext
    have hsame : (s.spec.extensions.map Extension.type).eraseDups = s.spec.extensions.map Extension.type :=
      KeyedList.eraseDups_map_key hs.1
    have hnew := hmerged.order
    rw [hsame] at hnew
    exact ⟨hmerged.distinct, hs.2.trans (hnew ▸ List.prefix_append _ _)⟩
  exact hkept.2

end Lifecycle

end ShootPlan
