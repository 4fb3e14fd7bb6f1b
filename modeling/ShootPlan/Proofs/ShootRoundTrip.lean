import ShootPlan.Proofs.MetadataRoundTrip
import ShootPlan.Shoot
/-!
A Shoot is read back as it was written, as long as its times are and the documents that it
carries along are documents: null would be taken for one that is not there.
-/
namespace ShootPlan

open ShootPlan.Coded ShootPlan.Field

theorem AccessRestriction.faithful (restriction : AccessRestriction) : Faithful restriction :=
  Record.faithful (by decide) rfl
    ⟨faithful_required (faithful_string _), faithful_texts _, trivial⟩

theorem FailureTolerance.faithful (tolerance : FailureTolerance) : Faithful tolerance :=
  Record.faithful (by decide) rfl ⟨faithful_required (faithful_string _), trivial⟩

theorem HighAvailability.faithful (availability : HighAvailability) : Faithful availability :=
  Record.faithful (by decide) rfl ⟨faithful_required (FailureTolerance.faithful _), trivial⟩

theorem ControlPlane.faithful (controlPlane : ControlPlane) : Faithful controlPlane :=
  Record.faithful (by decide) rfl
    ⟨faithful_optional fun availability _ => HighAvailability.faithful availability, trivial⟩

theorem Dns.faithful (dns : Dns) : Faithful dns :=
  Record.faithful (by decide) rfl ⟨faithful_optional fun _ _ => faithful_string _, trivial⟩

theorem ObjectReference.faithful (reference : ObjectReference) : Faithful reference :=
  Record.faithful (by decide) rfl ⟨faithful_required (faithful_string _), trivial⟩

theorem AuditPolicy.faithful (policy : AuditPolicy) : Faithful policy :=
  Record.faithful (by decide) rfl
    ⟨faithful_optional fun reference _ => ObjectReference.faithful reference, trivial⟩

theorem AuditConfig.faithful (config : AuditConfig) : Faithful config :=
  Record.faithful (by decide) rfl
    ⟨faithful_optional fun policy _ => AuditPolicy.faithful policy, trivial⟩

theorem ServiceAccountConfig.faithful (config : ServiceAccountConfig) : Faithful config :=
  Record.faithful (by decide) rfl
    ⟨faithful_optional fun _ _ => faithful_bool _, faithful_optional fun _ _ => faithful_string _,
      trivial⟩

theorem OidcConfig.faithful (oidc : OidcConfig) : Faithful oidc :=
  Record.faithful (by decide) rfl
    ⟨faithful_optional fun _ _ => faithful_string _, faithful_optional fun _ _ => faithful_string _,
      faithful_optional fun _ _ => faithful_string _, faithful_optional fun _ _ => faithful_string _,
      faithful_texts _, faithful_sparse fun _ _ => faithful_string _,
      faithful_optional fun _ _ => faithful_string _, faithful_optional fun _ _ => faithful_string _,
      trivial⟩

theorem ApiServer.faithful (server : ApiServer) : Faithful server :=
  Record.faithful (by decide) rfl
    ⟨faithful_optional fun config _ => AuditConfig.faithful config,
      faithful_optional fun oidc _ => OidcConfig.faithful oidc,
      faithful_optional fun config _ => ServiceAccountConfig.faithful config, trivial⟩

theorem Kubernetes.faithful (kubernetes : Kubernetes) : Faithful kubernetes :=
  Record.faithful (by decide) rfl
    ⟨faithful_defaulted (faithful_string _),
      faithful_optional fun server _ => ApiServer.faithful server, trivial⟩

theorem AutoUpdate.faithful (update : AutoUpdate) : Faithful update :=
  Record.faithful (by decide) rfl
    ⟨faithful_required (faithful_bool _), faithful_optional fun _ _ => faithful_bool _, trivial⟩

theorem TimeWindow.faithful (window : TimeWindow) : Faithful window :=
  Record.faithful (by decide) rfl
    ⟨faithful_required (faithful_string _), faithful_required (faithful_string _), trivial⟩

theorem Maintenance.faithful (maintenance : Maintenance) : Faithful maintenance :=
  Record.faithful (by decide) rfl
    ⟨faithful_optional fun update _ => AutoUpdate.faithful update,
      faithful_optional fun window _ => TimeWindow.faithful window, trivial⟩

theorem IpFamily.faithful (family : IpFamily) : Faithful family := by
  cases family <;> exact ⟨rfl, by simp [Coded.write, Json.canonical]⟩

theorem Networking.faithful (networking : Networking) : Faithful networking :=
  Record.faithful (by decide) rfl
    ⟨faithful_optional fun _ _ => faithful_string _,
      faithful_sparse fun family _ => IpFamily.faithful family,
      faithful_optional fun _ _ => faithful_string _, faithful_optional fun _ _ => faithful_string _,
      faithful_optional fun _ _ => faithful_string _, trivial⟩

theorem SshAccess.faithful (access : SshAccess) : Faithful access :=
  Record.faithful (by decide) rfl ⟨faithful_required (faithful_bool _), trivial⟩

theorem WorkersSettings.faithful (settings : WorkersSettings) : Faithful settings :=
  Record.faithful (by decide) rfl
    ⟨faithful_optional fun access _ => SshAccess.faithful access, trivial⟩

theorem ResourceTarget.faithful (target : ResourceTarget) : Faithful target :=
  Record.faithful (by decide) rfl
    ⟨faithful_required (faithful_string _), faithful_required (faithful_string _),
      faithful_required (faithful_string _), trivial⟩

theorem NamedResource.faithful (resource : NamedResource) : Faithful resource :=
  Record.faithful (by decide) rfl
    ⟨faithful_required (faithful_string _), faithful_required (ResourceTarget.faithful _), trivial⟩

theorem SeedSelector.faithful (selector : SeedSelector) : Faithful selector :=
  Record.faithful (by decide) rfl ⟨faithful_texts _, trivial⟩

theorem Toleration.faithful (toleration : Toleration) : Faithful toleration :=
  Record.faithful (by decide) rfl
    ⟨faithful_required (faithful_string _), faithful_optional fun _ _ => faithful_string _, trivial⟩

theorem MachineImage.faithful (image : MachineImage) : Faithful image :=
  Record.faithful (by decide) rfl
    ⟨faithful_required (faithful_string _), faithful_optional fun _ _ => faithful_string _, trivial⟩

theorem Machine.faithful (machine : Machine) : Faithful machine :=
  Record.faithful (by decide) rfl
    ⟨faithful_required (faithful_string _),
      faithful_optional fun image _ => MachineImage.faithful image,
      faithful_optional fun _ _ => faithful_string _, trivial⟩

theorem Volume.faithful (volume : Volume) : Faithful volume :=
  Record.faithful (by decide) rfl
    ⟨faithful_optional fun _ _ => faithful_string _, faithful_required (faithful_string _), trivial⟩

theorem UpdateStrategy.faithful (strategy : UpdateStrategy) : Faithful strategy := by
  cases strategy <;> exact ⟨rfl, by simp [Coded.write, Json.canonical]⟩

/-! The documents that are carried along. -/

def Worker.documents (worker : Worker) : List Json := worker.providerConfig.toList

def Extension.documents (e : Extension) : List Json := e.providerConfig.toList

def ProviderBlock.documents (block : ProviderBlock) : List Json :=
  block.controlPlaneConfig.toList ++ block.infrastructureConfig.toList
    ++ block.workers.flatMap Worker.documents

def Shoot.documents (shoot : Shoot) : List Json :=
  shoot.metadata.documents ++ shoot.spec.extensions.flatMap Extension.documents
    ++ shoot.spec.provider.documents

theorem Worker.faithful {worker : Worker} (h : ∀ doc ∈ worker.documents, IsDocument doc) :
    Faithful worker :=
  Record.faithful (by decide) rfl
    ⟨faithful_required (faithful_string _), faithful_required (Machine.faithful _),
      faithful_required (faithful_int32 _), faithful_required (faithful_int32 _),
      faithful_optional fun _ _ => faithful_int32 _, faithful_optional fun _ _ => faithful_int32 _,
      faithful_sparse fun _ _ => faithful_string _,
      faithful_optional fun volume _ => Volume.faithful volume,
      faithful_optional fun doc hdoc => faithful_document (h doc (Option.mem_toList.2 hdoc)),
      faithful_optional fun strategy _ => UpdateStrategy.faithful strategy, trivial⟩

theorem Extension.faithful {e : Extension} (h : ∀ doc ∈ e.documents, IsDocument doc) :
    Faithful e :=
  Record.faithful (by decide) rfl
    ⟨faithful_required (faithful_string _),
      faithful_optional fun doc hdoc => faithful_document (h doc (Option.mem_toList.2 hdoc)),
      faithful_optional fun _ _ => faithful_bool _, trivial⟩

theorem ProviderBlock.faithful {block : ProviderBlock}
    (h : ∀ doc ∈ block.documents, IsDocument doc) : Faithful block := by
  simp only [documents, List.forall_mem_append, List.forall_mem_flatMap] at h
  exact Record.faithful (by decide) rfl
    ⟨faithful_required (faithful_string _),
      faithful_optional fun doc hdoc => faithful_document (h.1.1 doc (Option.mem_toList.2 hdoc)),
      faithful_optional fun doc hdoc => faithful_document (h.1.2 doc (Option.mem_toList.2 hdoc)),
      faithful_defaulted (faithful_list fun worker hworker => Worker.faithful (h.2 worker hworker)),
      faithful_optional fun settings _ => WorkersSettings.faithful settings, trivial⟩

theorem ShootSpec.faithful {spec : ShootSpec}
    (hextensions : ∀ e ∈ spec.extensions, ∀ doc ∈ e.documents, IsDocument doc)
    (hprovider : ∀ doc ∈ spec.provider.documents, IsDocument doc) : Faithful spec :=
  Record.faithful (by decide) rfl
    ⟨faithful_sparse fun restriction _ => AccessRestriction.faithful restriction,
      faithful_optional fun _ _ => faithful_string _,
      faithful_optional fun controlPlane _ => ControlPlane.faithful controlPlane,
      faithful_optional fun dns _ => Dns.faithful dns,
      faithful_optional fun _ _ => faithful_string _,
      faithful_sparse fun e he => Extension.faithful (hextensions e he),
      faithful_required (Kubernetes.faithful _),
      faithful_optional fun maintenance _ => Maintenance.faithful maintenance,
      faithful_optional fun networking _ => Networking.faithful networking,
      faithful_required (ProviderBlock.faithful hprovider),
      faithful_optional fun _ _ => faithful_string _, faithful_required (faithful_string _),
      faithful_sparse fun resource _ => NamedResource.faithful resource,
      faithful_optional fun _ _ => faithful_string _,
      faithful_optional fun selector _ => SeedSelector.faithful selector,
      faithful_sparse fun toleration _ => Toleration.faithful toleration, trivial⟩

theorem Shoot.faithful {shoot : Shoot} (htimes : ∀ time ∈ shoot.metadata.times, Faithful time)
    (h : ∀ doc ∈ shoot.documents, IsDocument doc) : Faithful shoot := by
  simp only [documents, List.forall_mem_append, List.forall_mem_flatMap] at h
  obtain ⟨⟨hmetadata, hextensions⟩, hprovider⟩ := h
  exact Record.faithful (by decide) rfl
    ⟨faithful_required (Metadata.faithful htimes hmetadata),
      faithful_required (ShootSpec.faithful hextensions hprovider), trivial⟩

end ShootPlan
