import ShootPlan.Proofs.ServiceRoundTrip
import ShootPlan.Proofs.ShootRoundTrip
import ShootPlan.Runtime
import ShootPlan.Settings
/-!
A Runtime is read back as it was written, under the same conditions as a Shoot, the time in its
status among them. Settings always are.
-/
namespace ShootPlan

open ShootPlan.Coded ShootPlan.Field

theorem RuntimeApiServer.faithful (server : RuntimeApiServer) : Faithful server :=
  Record.faithful (by decide) rfl ⟨faithful_defaulted (OidcConfig.faithful _), trivial⟩

theorem RuntimeKubernetes.faithful (kubernetes : RuntimeKubernetes) : Faithful kubernetes :=
  Record.faithful (by decide) rfl
    ⟨faithful_optional fun _ _ => faithful_string _,
      faithful_defaulted (RuntimeApiServer.faithful _), trivial⟩

theorem RuntimeNetworking.faithful (networking : RuntimeNetworking) : Faithful networking :=
  Record.faithful (by decide) rfl
    ⟨faithful_optional fun _ _ => faithful_string _, faithful_required (faithful_string _),
      faithful_required (faithful_string _), faithful_required (faithful_string _),
      faithful_optional fun _ _ => faithful_bool _, trivial⟩

theorem FilterSwitch.faithful (switch : FilterSwitch) : Faithful switch :=
  Record.faithful (by decide) rfl ⟨faithful_required (faithful_bool _), trivial⟩

theorem TrafficFilter.faithful (filter : TrafficFilter) : Faithful filter :=
  Record.faithful (by decide) rfl
    ⟨faithful_optional fun switch _ => FilterSwitch.faithful switch,
      faithful_defaulted (FilterSwitch.faithful _), trivial⟩

theorem NetworkSecurity.faithful (security : NetworkSecurity) : Faithful security :=
  Record.faithful (by decide) rfl ⟨faithful_defaulted (TrafficFilter.faithful _), trivial⟩

theorem Security.faithful (security : Security) : Faithful security :=
  Record.faithful (by decide) rfl
    ⟨faithful_defaulted (faithful_list fun _ _ => faithful_string _),
      faithful_defaulted (NetworkSecurity.faithful _), trivial⟩

theorem CacheSettings.faithful (settings : CacheSettings) : Faithful settings where
  read_write := Outcome.map_eq_ok_iff.2
    ⟨settings.cache, Record.read_write (by decide) rfl (RegistryCache.fields_faithful _ _), rfl⟩
  ne_null := Json.canonical_ne_null nofun

theorem CacheRequest.faithful (request : CacheRequest) : Faithful request :=
  Record.faithful (by decide) rfl
    ⟨faithful_required (faithful_string _), faithful_defaulted (faithful_string _),
      faithful_defaulted (faithful_string _), faithful_required (CacheSettings.faithful _), trivial⟩

theorem RuntimeState.faithful (state : RuntimeState) : Faithful state := by
  cases state <;> exact ⟨rfl, by simp [Coded.write, Json.canonical]⟩

theorem RuntimeStatus.faithful {status : RuntimeStatus}
    (h : ∀ time ∈ status.lastReconciled, Faithful time) : Faithful status :=
  Record.faithful (by decide) rfl
    ⟨faithful_defaulted (RuntimeState.faithful _), faithful_optional h, trivial⟩

def RuntimeProvider.documents (provider : RuntimeProvider) : List Json :=
  provider.workers.flatMap Worker.documents
    ++ (provider.additionalWorkers.getD []).flatMap Worker.documents
    ++ provider.infrastructureConfig.toList ++ provider.controlPlaneConfig.toList

def Runtime.documents (runtime : Runtime) : List Json :=
  runtime.metadata.documents ++ runtime.spec.shoot.provider.documents

theorem RuntimeProvider.faithful {provider : RuntimeProvider}
    (h : ∀ doc ∈ provider.documents, IsDocument doc) : Faithful provider := by
  simp only [documents, List.forall_mem_append, List.forall_mem_flatMap] at h
  rw [forall_mem_getD_nil] at h
  obtain ⟨⟨⟨hworkers, hadditional⟩, hinfrastructure⟩, hcontrolPlane⟩ := h
  exact Record.faithful (by decide) rfl
    ⟨faithful_required (faithful_string _),
      faithful_required (faithful_list fun worker hworker => Worker.faithful (hworkers worker hworker)),
      faithful_optional fun workers hsome => faithful_list fun worker hworker =>
        Worker.faithful (hadditional workers hsome worker hworker),
      faithful_optional fun doc hdoc => faithful_document (hinfrastructure doc (Option.mem_toList.2 hdoc)),
      faithful_optional fun doc hdoc => faithful_document (hcontrolPlane doc (Option.mem_toList.2 hdoc)),
      trivial⟩

theorem RuntimeShoot.faithful {shoot : RuntimeShoot}
    (h : ∀ doc ∈ shoot.provider.documents, IsDocument doc) : Faithful shoot :=
  Record.faithful (by decide) rfl
    ⟨faithful_required (faithful_string _), faithful_defaulted (faithful_string _),
      faithful_defaulted (faithful_string _), faithful_required (faithful_string _),
      faithful_optional fun _ _ => faithful_string _, faithful_required (faithful_string _),
      faithful_optional fun _ _ => faithful_bool _,
      faithful_defaulted (RuntimeKubernetes.faithful _),
      faithful_required (RuntimeProvider.faithful h),
      faithful_required (RuntimeNetworking.faithful _),
      faithful_optional fun controlPlane _ => ControlPlane.faithful controlPlane, trivial⟩

theorem RuntimeSpec.faithful {spec : RuntimeSpec}
    (h : ∀ doc ∈ spec.shoot.provider.documents, IsDocument doc) : Faithful spec :=
  Record.faithful (by decide) rfl
    ⟨faithful_required (RuntimeShoot.faithful h), faithful_defaulted (Security.faithful _),
      faithful_sparse fun request _ => CacheRequest.faithful request, trivial⟩

/-- The time in the status, if there is one. -/
def Runtime.lastReconciled? (runtime : Runtime) : Option Instant :=
  runtime.status.bind RuntimeStatus.lastReconciled

theorem Runtime.faithful {runtime : Runtime}
    (htimes : ∀ time ∈ runtime.metadata.times, Faithful time)
    (htime : ∀ time ∈ runtime.lastReconciled?, Faithful time)
    (h : ∀ doc ∈ runtime.documents, IsDocument doc) : Faithful runtime := by
  rw [documents, List.forall_mem_append] at h
  exact Record.faithful (by decide) rfl
    ⟨faithful_required (Metadata.faithful htimes h.1), faithful_required (RuntimeSpec.faithful h.2),
      faithful_placed fun status hstatus => RuntimeStatus.faithful fun time hlast =>
        htime time (Option.mem_bind_iff.2 ⟨status, hstatus, hlast⟩), trivial⟩

theorem KubernetesSettings.faithful (settings : KubernetesSettings) : Faithful settings :=
  Record.faithful (by decide) rfl
    ⟨faithful_required (faithful_string _), faithful_defaulted (faithful_bool _),
      faithful_defaulted (faithful_bool _), faithful_defaulted (OidcConfig.faithful _), trivial⟩

theorem DnsSettings.faithful (settings : DnsSettings) : Faithful settings :=
  Record.faithful (by decide) rfl
    ⟨faithful_required (faithful_string _), faithful_required (faithful_string _),
      faithful_required (faithful_string _), trivial⟩

theorem AwsSettings.faithful (settings : AwsSettings) : Faithful settings :=
  Record.faithful (by decide) rfl ⟨faithful_defaulted (faithful_bool _), trivial⟩

theorem ProviderSettings.faithful (settings : ProviderSettings) : Faithful settings :=
  Record.faithful (by decide) rfl ⟨faithful_defaulted (AwsSettings.faithful _), trivial⟩

theorem MachineImageSettings.faithful (settings : MachineImageSettings) : Faithful settings :=
  Record.faithful (by decide) rfl
    ⟨faithful_required (faithful_string _), faithful_required (faithful_string _), trivial⟩

theorem GardenerSettings.faithful (settings : GardenerSettings) : Faithful settings :=
  Record.faithful (by decide) rfl ⟨faithful_required (faithful_string _), trivial⟩

theorem AuditLogSettings.faithful (settings : AuditLogSettings) : Faithful settings :=
  Record.faithful (by decide) rfl
    ⟨faithful_required (faithful_string _), faithful_optional fun _ _ => faithful_string _, trivial⟩

theorem MaintenanceSettings.faithful (settings : MaintenanceSettings) : Faithful settings :=
  Record.faithful (by decide) rfl ⟨faithful_optional fun _ _ => faithful_string _, trivial⟩

theorem Settings.faithful (settings : Settings) : Faithful settings :=
  Record.faithful (by decide) rfl
    ⟨faithful_required (KubernetesSettings.faithful _), faithful_required (DnsSettings.faithful _),
      faithful_defaulted (ProviderSettings.faithful _),
      faithful_required (MachineImageSettings.faithful _),
      faithful_required (GardenerSettings.faithful _),
      faithful_required (AuditLogSettings.faithful _),
      faithful_defaulted (MaintenanceSettings.faithful _), trivial⟩

end ShootPlan
