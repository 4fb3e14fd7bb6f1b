import ShootPlan.Proofs.ComparisonReport
import ShootPlan.Proofs.Likeness
/-!
What a comparison that passes says of the documents of the garden's own extensions. They are
compared as they are read, so they may differ in what a reader passes over, and in nothing
else.
-/
namespace ShootPlan

namespace Json

mutual

/-- Without the members that are null or an empty list, at every depth. -/
def bare : Json → Json
  | .array items => .array (bareItems items)
  | .object members => .object (bareMembers members)
  | scalar => scalar

def bareItems : List Json → List Json
  | [] => []
  | item :: rest => item.bare :: bareItems rest

def bareMembers : List (String × Json) → List (String × Json)
  | [] => []
  | (key, value) :: rest =>
    if value = .null ∨ value = .array [] then bareMembers rest
    else (key, value.bare) :: bareMembers rest

end

/-- The same up to the order of members and up to those that are null or an empty list. -/
def SameButDefaults (x y : Json) : Prop := x.bare.canonical = y.bare.canonical

instance (x y : Json) : Decidable (x.SameButDefaults y) :=
  inferInstanceAs (Decidable (x.bare.canonical = y.bare.canonical))

end Json

open ShootPlan.Coded ShootPlan.Field

def ShootIssuers.alike : Likeness := .record [.required "enabled" Eq]

def CertConfig.alike : Likeness := .record [
  .required "apiVersion" Eq, .required "kind" Eq, .optional "shootIssuers" ShootIssuers.alike]

def DnsProviderReplication.alike : Likeness := .record [.required "enabled" Eq]

def DnsDomains.alike : Likeness := .record [.list "include" Eq, .list "exclude" Eq]

def DnsProvider.alike : Likeness := .record [
  .optional "domains" DnsDomains.alike, .optional "secretName" Eq, .optional "type" Eq]

def DnsConfig.alike : Likeness := .record [
  .required "apiVersion" Eq, .required "kind" Eq,
  .optional "dnsProviderReplication" DnsProviderReplication.alike,
  .list "providers" DnsProvider.alike, .optional "syncProvidersFromShootSpecDNS" Eq]

def AuditLogConfig.alike : Likeness := .record [
  .required "apiVersion" Eq, .required "kind" Eq, .required "type" Eq, .required "tenantID" Eq,
  .required "serviceURL" Eq, .required "secretReferenceName" Eq]

def CacheVolume.alike : Likeness := .record [.optional "size" Eq, .optional "storageClassName" Eq]

def CacheExpiry.alike : Likeness := .record [.required "ttl" Eq]

def RegistryCache.alike : Likeness := .record [
  .required "upstream" Eq, .optional "remoteURL" Eq, .optional "volume" CacheVolume.alike,
  .optional "garbageCollection" CacheExpiry.alike, .optional "secretReferenceName" Eq]

def RegistryConfig.alike : Likeness := .record [
  .required "apiVersion" Eq, .required "kind" Eq, .list "caches" RegistryCache.alike]

theorem ShootIssuers.isLikeness : IsLikeness (Coded.read (α := ShootIssuers)) alike :=
  Record.isLikeness rfl (by decide) (fun _ => rfl) (.cons (isMember_required isLikeness_bool) .nil)

theorem CertConfig.isLikeness : IsLikeness (Coded.read (α := CertConfig)) alike :=
  Record.isLikeness rfl (by decide) (fun _ => rfl) <|
    .cons (isMember_required isLikeness_string) <| .cons (isMember_required isLikeness_string) <|
    .cons (isMember_optional ShootIssuers.isLikeness) .nil

theorem DnsProviderReplication.isLikeness :
    IsLikeness (Coded.read (α := DnsProviderReplication)) alike :=
  Record.isLikeness rfl (by decide) (fun _ => rfl) (.cons (isMember_required isLikeness_bool) .nil)

theorem DnsDomains.isLikeness : IsLikeness (Coded.read (α := DnsDomains)) alike :=
  Record.isLikeness rfl (by decide) (fun _ => rfl) <|
    .cons (isMember_sparse isLikeness_string) <| .cons (isMember_sparse isLikeness_string) .nil

theorem DnsProvider.isLikeness : IsLikeness (Coded.read (α := DnsProvider)) alike :=
  Record.isLikeness rfl (by decide) (fun _ => rfl) <|
    .cons (isMember_optional DnsDomains.isLikeness) <|
    .cons (isMember_optional isLikeness_string) <| .cons (isMember_optional isLikeness_string) .nil

theorem DnsConfig.isLikeness : IsLikeness (Coded.read (α := DnsConfig)) alike :=
  Record.isLikeness rfl (by decide) (fun _ => rfl) <|
    .cons (isMember_required isLikeness_string) <| .cons (isMember_required isLikeness_string) <|
    .cons (isMember_optional DnsProviderReplication.isLikeness) <|
    .cons (isMember_sparse DnsProvider.isLikeness) <| .cons (isMember_optional isLikeness_bool) .nil

theorem AuditLogConfig.isLikeness : IsLikeness (Coded.read (α := AuditLogConfig)) alike :=
  Record.isLikeness rfl (by decide) (fun _ => rfl) <|
    .cons (isMember_required isLikeness_string) <| .cons (isMember_required isLikeness_string) <|
    .cons (isMember_required isLikeness_string) <| .cons (isMember_required isLikeness_string) <|
    .cons (isMember_required isLikeness_string) <| .cons (isMember_required isLikeness_string) .nil

theorem CacheVolume.isLikeness : IsLikeness (Coded.read (α := CacheVolume)) alike :=
  Record.isLikeness rfl (by decide) (fun _ => rfl) <|
    .cons (isMember_optional isLikeness_string) <| .cons (isMember_optional isLikeness_string) .nil

theorem CacheExpiry.isLikeness : IsLikeness (Coded.read (α := CacheExpiry)) alike :=
  Record.isLikeness rfl (by decide) (fun _ => rfl) (.cons (isMember_required isLikeness_string) .nil)

theorem RegistryCache.isLikeness : IsLikeness (Coded.read (α := RegistryCache)) alike :=
  Record.isLikeness rfl (by decide) (fun _ => rfl) <|
    .cons (isMember_required isLikeness_string) <| .cons (isMember_optional isLikeness_string) <|
    .cons (isMember_optional CacheVolume.isLikeness) <|
    .cons (isMember_optional CacheExpiry.isLikeness) <| .cons (isMember_optional isLikeness_string) .nil

theorem RegistryConfig.isLikeness : IsLikeness (Coded.read (α := RegistryConfig)) alike :=
  Record.isLikeness rfl (by decide) (fun _ => rfl) <|
    .cons (isMember_required isLikeness_string) <| .cons (isMember_required isLikeness_string) <|
    .cons (isMember_defaulted_nil RegistryCache.isLikeness) .nil

namespace ServiceDocument

/-- The extension types whose documents are known, with what makes two of them alike. -/
def likenesses : List (String × Likeness) := [
  (ExtensionType.dns, DnsConfig.alike), (ExtensionType.cert, CertConfig.alike),
  (ExtensionType.auditLog, AuditLogConfig.alike),
  (ExtensionType.registryCache, RegistryConfig.alike)]

theorem isLikeness {service : String × Likeness} (h : service ∈ likenesses) :
    IsLikeness (read service.1) service.2 := by
  simp only [likenesses, List.mem_cons, List.not_mem_nil, or_false] at h
  obtain rfl | rfl | rfl | rfl := h
  · exact DnsConfig.isLikeness.map fun _ _ => ServiceDocument.dns.inj
  · exact CertConfig.isLikeness.map fun _ _ => ServiceDocument.cert.inj
  · exact AuditLogConfig.isLikeness.map fun _ _ => ServiceDocument.auditLog.inj
  · exact RegistryConfig.isLikeness.map fun _ _ => ServiceDocument.registryCache.inj

end ServiceDocument

namespace Extension

variable {e a : Extension} {service : String × Likeness} {x y : Json}

/-- Extensions of a known type say the same exactly if their documents can be read and are alike. -/
theorem saysSame_iff_alike (h : service ∈ ServiceDocument.likenesses) (he : e.type = service.1)
    (ha : a.type = service.1) (hx : e.providerConfig = some x) (hy : a.providerConfig = some y) :
    e.SaysSame a ↔ e.Decodes ∧ a.Decodes ∧ service.2 x y := by
  have hread {b : Extension} {json : Json} (htype : b.type = service.1)
      (hjson : b.providerConfig = some json) {found? : Option ServiceDocument} :
      b.document? = .ok found? ↔
        ∃ document, ServiceDocument.read service.1 json = .ok document ∧ some document = found? :=
    htype ▸ document?_eq_ok_iff hjson
  constructor
  · rintro ⟨found?, hfound, hfound'⟩
    refine ⟨⟨found?, hfound⟩, ⟨found?, hfound'⟩, ?_⟩
    obtain ⟨d, hd, rfl⟩ := (hread he hx).1 hfound
    obtain ⟨d', hd', hsame⟩ := (hread ha hy).1 hfound'
    exact (ServiceDocument.isLikeness h hd hd').1 (Option.some.inj hsame).symm
  · rintro ⟨⟨found?, hfound⟩, ⟨other?, hother⟩, halike⟩
    obtain ⟨d, hd, rfl⟩ := (hread he hx).1 hfound
    obtain ⟨d', hd', rfl⟩ := (hread ha hy).1 hother
    rw [saysSame_iff hfound hother, Option.some.injEq]
    exact (ServiceDocument.isLikeness h hd hd').2 halike

end Extension

namespace Comparison

/--
Two Shoots pass only if the documents of each known extension are alike: under the names that
the extension knows they hold the same, or one omits what the other writes as null or as an
empty list.
-/
theorem alike_of_passes {expected actual : Shoot} (h : Passes expected actual) :
    ∀ service ∈ ServiceDocument.likenesses,
      ∀ e ∈ expected.spec.extensions, ∀ a ∈ actual.spec.extensions,
        e.type = service.1 → a.type = service.1 →
        ∀ x ∈ e.providerConfig, ∀ y ∈ a.providerConfig, service.2 x y := by
  intro service hservice e he a ha htype htype' x hx y hy
  have hsame : SameExtensions expected.spec.extensions actual.spec.extensions :=
    passes_iff.1 h ComparedField.extensions (by simp [ComparedField.all])
  have hconfig := (hsame.agree e he a ha (htype.trans htype'.symm)).config
  exact ((Extension.saysSame_iff_alike hservice htype htype' hx hy).1 hconfig).2.2

/-! Two Shoots that pass although both of their documents differ. -/

def sampleShoot (dns cert : Json) : Shoot where
  metadata := { name := some "sample", nameSpace := some "garden-kyma" }
  spec :=
    { extensions := [⟨ExtensionType.dns, some dns, none⟩, ⟨ExtensionType.cert, some cert, none⟩]
      kubernetes := { version := "1.30.1" }
      provider := { type := "aws" }
      region := "eu-1" }

def plainDns : Json :=
  .object [("apiVersion", .string "service.dns.extensions.gardener.cloud/v1alpha1"),
    ("kind", .string "DNSConfig")]

/-- With a member that the extension does not know. -/
def surplusDns : Json :=
  .object [("apiVersion", .string "service.dns.extensions.gardener.cloud/v1alpha1"),
    ("kind", .string "DNSConfig"), ("ttl", .int 120)]

def plainCert : Json :=
  .object [("apiVersion", .string "service.cert.extensions.gardener.cloud/v1alpha1"),
    ("kind", .string "CertConfig"), ("shootIssuers", .object [("enabled", .bool true)])]

/-- With its records written as arrays. -/
def positionalCert : Json :=
  .array [.string "service.cert.extensions.gardener.cloud/v1alpha1", .string "CertConfig",
    .array [.bool true]]

theorem passes_sampleShoot :
    Passes (sampleShoot plainDns plainCert) (sampleShoot surplusDns positionalCert) :=
  ⟨⟨[]⟩, by rfl, rfl⟩

theorem alike_of_passes_sample :
    Passes (sampleShoot plainDns plainCert) (sampleShoot surplusDns positionalCert) ∧
      DnsConfig.alike plainDns surplusDns ∧ CertConfig.alike plainCert positionalCert := by
  have halike := alike_of_passes passes_sampleShoot
  have hdns := halike (ExtensionType.dns, DnsConfig.alike) (by simp [ServiceDocument.likenesses])
    _ List.mem_cons_self _ List.mem_cons_self rfl rfl plainDns rfl surplusDns rfl
  have hcert := halike (ExtensionType.cert, CertConfig.alike) (by simp [ServiceDocument.likenesses])
    _ (List.mem_cons_of_mem _ List.mem_cons_self) _ (List.mem_cons_of_mem _ List.mem_cons_self)
    rfl rfl plainCert rfl positionalCert rfl
  exact ⟨passes_sampleShoot, hdns, hcert⟩

/-- What passes may differ in more than the order of members and those that are null or empty. -/
theorem passes_hiding_members :
    Passes (sampleShoot plainDns plainCert) (sampleShoot surplusDns positionalCert) ∧
      ∀ type ∈ [ExtensionType.dns, ExtensionType.cert],
        ∃ e ∈ (sampleShoot plainDns plainCert).spec.extensions,
        ∃ a ∈ (sampleShoot surplusDns positionalCert).spec.extensions,
          e.type = type ∧ a.type = type ∧
            ∃ x ∈ e.providerConfig, ∃ y ∈ a.providerConfig, ¬x.SameButDefaults y := by
  have hdns : ¬plainDns.SameButDefaults surplusDns := by decide
  have hcert : ¬plainCert.SameButDefaults positionalCert := by decide
  refine ⟨passes_sampleShoot, ?_⟩
  simp [sampleShoot, ExtensionType.dns, ExtensionType.cert, hdns, hcert]

end Comparison

end ShootPlan
