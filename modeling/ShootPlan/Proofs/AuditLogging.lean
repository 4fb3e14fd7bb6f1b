import ShootPlan.Proofs.ExtensionList
import ShootPlan.Proofs.ServiceRoundTrip
/-!
Audit logging over the life of a cluster. Three parts of a Shoot belong together: the
extension that sends the logs, the credentials it sends them with, and the policy that says
what is logged. They come together, for one tenant, and none of them ever goes again.
-/
namespace ShootPlan

namespace Conversion

variable {c : Conversion} {runtime : Runtime} {e : Extension}

/-- Of the extensions that are renewed only one takes audit logs, and it is there for a tenant. -/
theorem mem_renewed_iff (h : e.type = ExtensionType.auditLog) :
    e ∈ c.renewed runtime ↔ (c.tenant? runtime).map Extension.auditLog = some e := by
  have hother {others : List Extension} (hothers : ExtensionType.auditLog ∉ others.map Extension.type) :
      e ∉ others := fun hmem => hothers (h ▸ List.mem_map_of_mem hmem)
  have hfixed : e ∉ [Extension.networkFilter runtime, Extension.cert,
      Extension.dns c.setup.settings.dns.secretName c.setup.settings.dns.providerType (c.domain runtime),
      Extension.oidc] := by
    refine hother ?_
    open ExtensionType in exact (by decide : auditLog ∉ [networkFilter, cert, dns, oidc])
  have hcaches : e ∉ if runtime.spec.caching.isEmpty then []
      else [Extension.registryCache runtime.spec.caching] := by
    refine hother ?_
    split_ifs
    · exact List.not_mem_nil
    · open ExtensionType in exact (by decide : auditLog ∉ [registryCache])
  rw [renewed, Extender.renewed, List.mem_append, List.mem_append, or_iff_left hcaches,
    or_iff_right hfixed, Option.mem_toList]
  rfl

theorem mem_keys_renewed_iff :
    ExtensionType.auditLog ∈ (c.renewed runtime).map Keyed.key ↔ (c.tenant? runtime).isSome := by
  constructor
  · intro hmem
    obtain ⟨e, he, htype⟩ := List.mem_map.1 hmem
    have htenant := (mem_renewed_iff htype).1 he
    rw [← Option.isSome_map, htenant]
    rfl
  · intro hsome
    obtain ⟨tenant, htenant⟩ := Option.isSome_iff_exists.1 hsome
    have he : Extension.auditLog tenant ∈ c.renewed runtime :=
      (mem_renewed_iff rfl).2 (by rw [htenant]; rfl)
    exact List.mem_map_of_mem he

end Conversion

/-- The parts of audit logging, for this tenant or for none. -/
structure AuditParts (tenant? : Option Tenant) (extensions : List Extension)
    (resources : List NamedResource) (policy : Option AuditConfig) : Prop where
  distinct : (extensions.map Keyed.key).Nodup
  mem_iff : ∀ e : Extension, e.type = ExtensionType.auditLog →
    (e ∈ extensions ↔ tenant?.map Extension.auditLog = some e)
  resources_eq : resources = (tenant?.map Conversion.credentials).toList
  isSome_policy : policy.isSome = tenant?.isSome

namespace AuditParts

theorem nothing : AuditParts none [] [] none := ⟨.nil, by simp, rfl, rfl⟩

variable {c : Conversion} {runtime : Runtime} {tenant? : Option Tenant}

/-- A conversion gives all parts to its tenant; without one they stay with the tenant they had. -/
theorem convert (h : AuditParts tenant? c.priorExtensions c.priorResources
      (c.mode.existing?.bind ExistingShoot.auditConfig)) :
    AuditParts ((c.tenant? runtime).or tenant?) (c.extensions runtime) (c.resources runtime)
      (c.auditConfig runtime) where
  distinct := Conversion.nodup_extensions c runtime
  mem_iff e he := by
    have hkey : Keyed.key e = ExtensionType.auditLog := he
    rw [Conversion.mem_extensions_iff h.distinct, Conversion.mem_renewed_iff he, hkey,
      Conversion.mem_keys_renewed_iff, h.mem_iff e he]
    cases c.tenant? runtime <;> simp
  resources_eq := by
    rw [Conversion.resources, h.resources_eq]
    cases c.tenant? runtime with
    | none => rfl
    | some tenant =>
      -- the credentials are added, or take the place of those of another tenant
      cases tenant? <;> rfl
  isSome_policy := by
    rw [Conversion.auditConfig]
    cases c.tenant? runtime with
    | none => exact h.isSome_policy
    | some tenant => rfl

end AuditParts

namespace Shoot

variable {shoot : Shoot} {tenant : Tenant} {tenant? : Option Tenant}

def HasAuditLog (shoot : Shoot) : Prop :=
  ∃ e ∈ shoot.spec.extensions, e.type = ExtensionType.auditLog

def auditConfig? (shoot : Shoot) : Option AuditConfig :=
  shoot.spec.kubernetes.apiServer.bind ApiServer.auditConfig

/-- Logs go to the place of this tenant, with the credentials of this tenant. -/
structure SendsLogsTo (shoot : Shoot) (tenant : Tenant) : Prop where
  extension : ∀ e ∈ shoot.spec.extensions, e.type = ExtensionType.auditLog →
    ∃ json, ∃ config : AuditLogConfig, e.providerConfig = some json ∧ Coded.read json = .ok config ∧
      config.secretReferenceName = auditLogCredentials ∧ config.tenantID = tenant.tenantID ∧
      config.serviceURL = tenant.serviceURL
  secret : ∀ resource ∈ shoot.spec.resources, resource.name = auditLogCredentials →
    resource.resourceRef.name = tenant.secretName

/-- All parts of audit logging are there, for one of these tenants, or none is. -/
structure AuditConsistent (shoot : Shoot) (OneOf : Tenant → Prop) : Prop where
  policy : shoot.HasAuditLog ↔ shoot.auditConfig?.isSome
  credentials : shoot.HasAuditLog ↔
    ∃ resource ∈ shoot.spec.resources, resource.name = auditLogCredentials
  tenant : shoot.HasAuditLog → ∃ tenant, OneOf tenant ∧ shoot.SendsLogsTo tenant

/-- The invariant of a life: the Shoot has the parts for this tenant, or none. -/
def Audited (shoot : Shoot) (tenant? : Option Tenant) : Prop :=
  AuditParts tenant? shoot.spec.extensions shoot.spec.resources shoot.auditConfig?

namespace Audited

theorem hasAuditLog_iff (h : shoot.Audited tenant?) : shoot.HasAuditLog ↔ tenant?.isSome := by
  constructor
  · rintro ⟨e, he, htype⟩
    rw [← Option.isSome_map, (h.mem_iff e htype).1 he]
    rfl
  · intro hsome
    obtain ⟨tenant, rfl⟩ := Option.isSome_iff_exists.1 hsome
    exact ⟨Extension.auditLog tenant, (h.mem_iff _ rfl).2 rfl, rfl⟩

theorem sendsLogsTo (h : shoot.Audited (some tenant)) : shoot.SendsLogsTo tenant where
  extension e he htype := by
    obtain rfl := Option.some.inj ((h.mem_iff e htype).1 he)
    exact ⟨_, _, rfl, (AuditLogConfig.faithful _).read_write, rfl, rfl, rfl⟩
  secret resource hresource _ := by
    rw [h.resources_eq] at hresource
    obtain rfl := List.mem_singleton.1 hresource
    rfl

theorem consistent {OneOf : Tenant → Prop} (h : shoot.Audited tenant?)
    (hone : ∀ tenant ∈ tenant?, OneOf tenant) : shoot.AuditConsistent OneOf where
  policy := by rw [h.hasAuditLog_iff, h.isSome_policy]
  credentials := by
    rw [h.hasAuditLog_iff, h.resources_eq]
    cases tenant? <;> simp [Conversion.credentials]
  tenant hlog := by
    obtain ⟨tenant, rfl⟩ := Option.isSome_iff_exists.1 (h.hasAuditLog_iff.1 hlog)
    exact ⟨tenant, hone tenant rfl, h.sendsLogsTo⟩

end Audited

end Shoot

namespace Lifecycle

/-- The tenant that the table of a step has for its Runtime. -/
def Step.tenant? (step : Step) : Option Tenant := step.setup.auditLogs.tenant? step.runtime

variable {first step : Step} {steps later : List Step} {created shoot next last : Shoot}
  {tenant? : Option Tenant}

theorem audited_of_create (h : convert none first = .ok created) : created.Audited first.tenant? := by
  obtain ⟨-, -, provider, json, -, -, -, rfl⟩ := Conversion.run_eq_ok_iff.1 h
  rw [← Option.or_none (o := first.tenant?)]
  exact AuditParts.convert (c := ⟨first.setup, .create⟩) .nothing

theorem audited_of_patch (hshoot : shoot.Audited tenant?) (h : convert (some shoot) step = .ok next) :
    next.Audited (step.tenant?.or tenant?) := by
  obtain ⟨-, -, provider, json, -, -, -, rfl⟩ := Conversion.run_eq_ok_iff.1 h
  exact AuditParts.convert (c := ⟨step.setup, .patch (.ofShoot shoot)⟩) hshoot

/-- A tenant that some step had for its Runtime. -/
def TenantOf (steps : List Step) (tenant : Tenant) : Prop := ∃ step ∈ steps, step.tenant? = some tenant

theorem audited_of_run (hcreated : convert none first = .ok created)
    (hshoot : run (some created) steps = some shoot) :
    ∃ tenant?, shoot.Audited tenant? ∧ ∀ tenant ∈ tenant?, TenantOf (first :: steps) tenant := by
  refine run_invariant (P := fun s => ∃ tenant?, s.Audited tenant? ∧
      ∀ tenant ∈ tenant?, TenantOf (first :: steps) tenant)
    (fun step hstep s s' hs hconvert => ?_)
    ⟨_, audited_of_create hcreated, fun tenant htenant => ⟨first, List.mem_cons_self, htenant⟩⟩ hshoot
  obtain ⟨tenant?, haudited, hold⟩ := hs
  refine ⟨_, audited_of_patch haudited hconvert, fun tenant htenant => ?_⟩
  rcases Option.or_eq_some_iff.1 htenant with hnew | ⟨-, hkept⟩
  · exact ⟨step, List.mem_cons_of_mem _ hstep, hnew⟩
  · exact hold tenant hkept

/-- A tenant may give way to another one, but never to none. -/
theorem hasAuditLog_of_run (hshoot : shoot.Audited tenant?) (h : shoot.HasAuditLog)
    (hlast : run (some shoot) later = some last) : last.HasAuditLog := by
  have hkept : ∃ tenant, last.Audited (some tenant) := by
    refine run_invariant (P := fun s => ∃ tenant, s.Audited (some tenant))
      (fun step _ s s' hs hconvert => ?_) ?_ hlast
    · obtain ⟨tenant, haudited⟩ := hs
      have hnext := audited_of_patch haudited hconvert
      rw [Option.or_some] at hnext
      exact ⟨_, hnext⟩
    · obtain ⟨tenant, rfl⟩ := Option.isSome_iff_exists.1 (hshoot.hasAuditLog_iff.1 h)
      exact ⟨tenant, hshoot⟩
  obtain ⟨tenant, haudited⟩ := hkept
  exact haudited.hasAuditLog_iff.2 rfl

/--
Over a whole life the parts of audit logging are there together, for a tenant that one of the
steps had, and once they are there they stay.
-/
theorem audit_logging_consistent (hcreated : convert none first = .ok created)
    (hshoot : run (some created) steps = some shoot) (hlast : run (some shoot) later = some last) :
    shoot.AuditConsistent (TenantOf (first :: steps)) ∧
      last.AuditConsistent (TenantOf (first :: (steps ++ later))) ∧
      (shoot.HasAuditLog → last.HasAuditLog) := by
  have hwhole : run (some created) (steps ++ later) = some last := by
    rw [run_append, hshoot]
    exact hlast
  obtain ⟨tenant?, haudited, hone⟩ := audited_of_run hcreated hshoot
  obtain ⟨tenant?', haudited', hone'⟩ := audited_of_run hcreated hwhole
  exact ⟨haudited.consistent hone, haudited'.consistent hone',
    fun h => hasAuditLog_of_run haudited h hlast⟩

/-- The sample with a table that has a tenant for its region. -/
def auditedStep (zones : List String) : Step :=
  let table := AuditLogTable.empty.insert "openstack" "eu-1" ⟨"tenant", "logs.example.com", "logs-secret"⟩
  { sampleStep .openstack "1.30.1" zones with setup := { sampleSetup with auditLogs := table } }

/-- The tenant is gone from the table of the second step. -/
theorem audit_logging_consistent_sample : ∃ created last,
    convert none (auditedStep ["a"]) = .ok created ∧
    run (some created) [sampleStep .openstack "1.30.1" ["a"]] = some last ∧ created.HasAuditLog ∧
    last.AuditConsistent (TenantOf [auditedStep ["a"], sampleStep .openstack "1.30.1" ["a"]]) ∧
    last.HasAuditLog := by
  obtain ⟨created, hcreated⟩ : ∃ created, convert none (auditedStep ["a"]) = .ok created := ⟨_, by rfl⟩
  obtain ⟨last, hlast⟩ := exists_run_eq_some created [sampleStep .openstack "1.30.1" ["a"]]
  have hlog : created.HasAuditLog := (audited_of_create hcreated).hasAuditLog_iff.2 (by decide)
  have hshoot : run (some created) [] = some created := rfl
  obtain ⟨-, hconsistent, hstays⟩ := audit_logging_consistent hcreated hshoot hlast
  exact ⟨created, last, hcreated, hlast, hlog, hconsistent, hstays hlog⟩

end Lifecycle

end ShootPlan
