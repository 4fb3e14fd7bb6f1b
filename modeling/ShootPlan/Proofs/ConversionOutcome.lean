import Mathlib.Tactic
import ShootPlan.Lifecycle
/-!
A conversion seen as a whole. Here is where each part of its Shoot comes from, as a function
of the Runtime, the setup and the existing Shoot, and when there is a Shoot at all. Later
modules use these equations and never run the extenders again.
-/
namespace ShootPlan

namespace Extender

theorem applyAll_cons_ok {extender : Extender} {rest : List Extender} {runtime : Runtime}
    {shoot next : Shoot} (h : extender.apply runtime shoot = .ok next) :
    applyAll runtime (extender :: rest) shoot = applyAll runtime rest next := by
  simp only [applyAll, h]

theorem applyAll_cons_error {extender : Extender} {rest : List Extender} {runtime : Runtime}
    {shoot : Shoot} {error : ConversionError} (h : extender.apply runtime shoot = .error error) :
    applyAll runtime (extender :: rest) shoot = .error (.extender extender.name error) := by
  simp only [applyAll, h]

end Extender

namespace Conversion

variable (c : Conversion) (runtime : Runtime)

def kubernetesVersion : String :=
  Extender.chosenVersion c.setup.settings.kubernetes.defaultVersion
    (c.mode.existing?.map ExistingShoot.kubernetesVersion) runtime.spec.shoot.kubernetes.version

def domain : String := runtime.spec.shoot.name ++ "." ++ c.setup.settings.dns.domainPrefix

def tenant? : Option Tenant := c.setup.auditLogs.tenant? runtime

def priorExtensions : List Extension := (c.mode.existing?.map ExistingShoot.extensions).getD []

/-- What is renewed of the extensions, in the order it is added. -/
def renewed : List Extension :=
  Extender.renewed c.setup.settings.dns.secretName c.setup.settings.dns.providerType
    c.setup.auditLogs runtime (c.domain runtime)

def extensions : List Extension :=
  ((c.renewed runtime).foldl KeyedList.upsert (KeyedList.ofList c.priorExtensions)).items

def priorResources : List NamedResource := (c.mode.existing?.map ExistingShoot.resources).getD []

def credentials (tenant : Tenant) : NamedResource :=
  ⟨auditLogCredentials, ⟨"v1", "Secret", tenant.secretName⟩⟩

def resources : List NamedResource :=
  match c.tenant? runtime with
  | some tenant => ((KeyedList.ofList c.priorResources).upsert (credentials tenant)).items
  | none => c.priorResources

def auditPolicy : AuditConfig := ⟨some ⟨some ⟨c.setup.settings.auditLogging.policyConfigMapName⟩⟩⟩

def auditConfig : Option AuditConfig :=
  match c.tenant? runtime with
  | some _ => some c.auditPolicy
  | none => c.mode.existing?.bind ExistingShoot.auditConfig

/-- The login that is asked for, or else the default. -/
def chosenOidc : OidcConfig :=
  let requested := runtime.spec.shoot.kubernetes.apiServer.oidcConfig
  if requested.isConfigured then requested else c.setup.settings.kubernetes.defaultOperatorOidc

/-- The login that is set up, if one is configured. -/
def oidcConfig : Option OidcConfig :=
  if (c.chosenOidc runtime).isConfigured then some (c.chosenOidc runtime) else none

def apiServer : ApiServer where
  auditConfig := c.auditConfig runtime
  oidcConfig := c.oidcConfig runtime
  serviceAccountConfig := some ⟨some false, some "2592000s"⟩

def annotations : Dict String :=
  Dict.empty
    |>.insertSome Extender.runtimeIdAnnotation (runtime.label Extender.runtimeIdLabel)
    |>.insertSome Extender.licenceTypeAnnotation (runtime.spec.shoot.licenceType.filter (· ≠ ""))
    |>.insertSome euAccessAnnotation (if runtime.needsEuAccess then some "true" else none)

def labels : Option (Dict String) :=
  Extender.addLabel
    (Extender.addLabel none "account" (runtime.label Extender.globalAccountLabel))
    "subaccount" (runtime.label Extender.subaccountLabel)

def maintenance : Maintenance where
  autoUpdate := some ⟨c.setup.settings.kubernetes.enableKubernetesVersionAutoUpdate,
    some c.setup.settings.kubernetes.enableMachineImageVersionAutoUpdate⟩
  timeWindow := (c.setup.windows.get? runtime.spec.shoot.region).map MaintenanceWindow.timeWindow

variable (provider : Hyperscaler)

/-- The Runtime's pools in the order of the Shoot. -/
def ordered : List Worker :=
  let workers := runtime.spec.shoot.provider.allWorkers
  match c.mode with
  | .create => workers
  | .patch existing => existing.provider.ordered workers

theorem ordered_perm : (c.ordered runtime).Perm runtime.spec.shoot.provider.allWorkers := by
  unfold ordered
  cases c.mode with
  | create => exact .refl _
  | patch existing => exact List.mergeSort_perm _ _

def pool (worker : Worker) : Worker :=
  let defaults := workerDefaults c.setup.settings
  match c.mode with
  | .create => worker.create defaults provider
  | .patch existing => existing.provider.patch defaults provider worker

def infrastructure : Except ConversionError Json :=
  match c.mode with
  | .create => runtime.createInfrastructure provider
  | .patch existing => existing.provider.infrastructure runtime provider (c.ordered runtime)

/-- One pool is in order. -/
theorem infrastructure_of_one_pool {setup : Setup} {existing : ExistingShoot} {worker : Worker}
    (h : runtime.spec.shoot.provider.allWorkers = [worker]) :
    infrastructure ⟨setup, .patch existing⟩ runtime provider =
      existing.provider.infrastructure runtime provider [worker] := by
  have hordered : existing.provider.ordered [worker] = [worker] := List.mergeSort_singleton worker
  simp only [infrastructure, ordered, h, hordered]

def controlPlane : Json :=
  match c.mode with
  | .create => runtime.createControlPlane provider
  | .patch existing => existing.provider.controlPlane provider

def block (infrastructure : Json) : ProviderBlock where
  type := provider.name
  controlPlaneConfig := some (c.controlPlane runtime provider)
  infrastructureConfig := some infrastructure
  workers := (c.ordered runtime).map (c.pool provider)
  workersSettings := some workersSettings

/-- The Shoot of a conversion that succeeds with this infrastructure document. -/
def outcome (infrastructure : Json) : Shoot where
  metadata := {
    annotations := some (annotations runtime)
    labels := labels runtime
    name := some runtime.spec.shoot.name
    nameSpace := some c.setup.settings.nameSpace }
  spec := {
    accessRestrictions := if runtime.needsEuAccess then [Extender.euAccessRestriction] else []
    cloudProfileName := some (Extender.cloudProfileName provider)
    controlPlane := runtime.spec.shoot.controlPlane
    dns := some { domain := some (c.domain runtime) }
    exposureClassName := if provider = .openstack then some "converged-cloud-internet" else none
    extensions := c.extensions runtime
    kubernetes := {
      version := c.kubernetesVersion runtime
      apiServer := some (c.apiServer runtime) }
    maintenance := some (c.maintenance runtime)
    networking := some (networking runtime)
    provider := c.block runtime provider infrastructure
    purpose := if runtime.spec.shoot.purpose = "" then none else some runtime.spec.shoot.purpose
    region := runtime.spec.shoot.region
    resources := c.resources runtime
    secretBindingName := some runtime.spec.shoot.secretBindingName
    seedSelector :=
      if runtime.spec.shoot.enforceSeedLocation = some true then
        some { matchLabels := .singleton "seed.gardener.cloud/region" runtime.spec.shoot.region }
      else none
    tolerations :=
      if runtime.spec.shoot.platformRegion = "cf-sa30" then [Extender.assuredWorkload] else [] }

end Conversion

namespace Extender

variable {runtime : Runtime} {shoot : Shoot}

theorem accessRestrictions_apply (h : shoot.spec.accessRestrictions = []) :
    accessRestrictions.apply runtime shoot =
      .ok { shoot with spec := { shoot.spec with
        accessRestrictions := if runtime.needsEuAccess then [euAccessRestriction] else [] } } := by
  obtain ⟨metadata, spec⟩ := shoot
  simp only at h
  simp only [accessRestrictions, h]
  split
  · rfl
  · rw [← h]

theorem cloudProfile_apply {provider : Hyperscaler} (h : runtime.hyperscaler = .ok provider) :
    cloudProfile.apply runtime shoot =
      .ok { shoot with spec := { shoot.spec with
        cloudProfileName := some (cloudProfileName provider) } } := by
  simp only [cloudProfile, h]
  rfl

theorem cloudProfile_apply_error {error : ConversionError}
    (h : runtime.hyperscaler = .error error) : cloudProfile.apply runtime shoot = .error error := by
  simp only [cloudProfile, h]
  rfl

theorem exposureClass_apply {provider : Hyperscaler} (h : runtime.hyperscaler = .ok provider)
    (hnone : shoot.spec.exposureClassName = none) :
    exposureClass.apply runtime shoot =
      .ok { shoot with spec := { shoot.spec with
        exposureClassName :=
          if provider = .openstack then some "converged-cloud-internet" else none } } := by
  obtain ⟨metadata, spec⟩ := shoot
  simp only at hnone
  simp only [exposureClass, h, bind, Except.bind, pure, Except.pure]
  split
  · rfl
  · rw [← hnone]

theorem tolerations_apply (h : shoot.spec.tolerations = []) :
    tolerations.apply runtime shoot =
      .ok { shoot with spec := { shoot.spec with
        tolerations :=
          if runtime.spec.shoot.platformRegion = "cf-sa30" then [assuredWorkload] else [] } } := by
  obtain ⟨metadata, spec⟩ := shoot
  simp only at h
  simp only [tolerations, h, List.any_nil, and_true]
  split
  · rfl
  · rw [← h]

theorem seedSelector_apply (h : shoot.spec.seedSelector = none) :
    seedSelector.apply runtime shoot =
      .ok { shoot with spec := { shoot.spec with
        seedSelector :=
          if runtime.spec.shoot.enforceSeedLocation = some true then
            some { matchLabels := .singleton "seed.gardener.cloud/region" runtime.spec.shoot.region }
          else none } } := by
  obtain ⟨metadata, spec⟩ := shoot
  simp only at h
  simp only [seedSelector]
  split
  · rfl
  · rw [← h]

end Extender

namespace Conversion

variable {c : Conversion} {runtime : Runtime} {shoot : Shoot}

theorem oidc_apply (h : shoot.spec.kubernetes.apiServer = none) :
    (Extender.oidc c.setup.settings.kubernetes.defaultOperatorOidc).apply runtime shoot =
      .ok { shoot with spec := { shoot.spec with
        kubernetes := { shoot.spec.kubernetes with
          apiServer := (c.oidcConfig runtime).map fun oidc => { oidcConfig := some oidc } } } } := by
  change Except.ok (if (c.chosenOidc runtime).isConfigured then _ else _) = _
  obtain ⟨metadata, spec⟩ := shoot
  simp only at h
  simp only [oidcConfig]
  split
  · simp only [Shoot.updateApiServer, h]
    rfl
  · rw [Option.map_none, ← h]

theorem auditLog_apply {server : ApiServer} (h : shoot.spec.kubernetes.apiServer = some server)
    (hnone : server.auditConfig = none) (hres : shoot.spec.resources = c.priorResources) :
    (Extender.auditLog c.setup.settings.auditLogging.policyConfigMapName c.setup.auditLogs
        (c.mode.existing?.bind ExistingShoot.auditConfig)).apply runtime shoot =
      .ok { shoot with spec := { shoot.spec with
        kubernetes := { shoot.spec.kubernetes with
          apiServer := some { server with auditConfig := c.auditConfig runtime } }
        resources := c.resources runtime } } := by
  obtain ⟨metadata, spec⟩ := shoot
  simp only at h hres
  simp only [Extender.auditLog, Shoot.updateApiServer, h, hres, Option.getD_some, auditConfig,
    resources, tenant?]
  cases c.setup.auditLogs.tenant? runtime with
  | some tenant => rfl
  | none =>
    cases c.mode.existing?.bind ExistingShoot.auditConfig with
    | some config => simp only [← hres]
    | none =>
      obtain ⟨_, oidc, account⟩ := server
      simp only at hnone
      subst hnone
      simp only [← h, ← hres]

/-- The last extender sets the cloud side or fails; both modes check the main pool first. -/
theorem providerExtender_apply {provider : Hyperscaler} (h : runtime.hyperscaler = .ok provider) :
    c.providerExtender.apply runtime shoot =
      (runtime.checkMainWorker >>= fun _ => c.infrastructure runtime provider).map
        fun infrastructure => { shoot with spec := { shoot.spec with
          provider := c.block runtime provider infrastructure } } := by
  obtain ⟨setup, mode⟩ := c
  cases hmain : runtime.checkMainWorker with
  | error error =>
    cases mode with
    | create =>
      simp only [providerExtender, Extender.providerCreate, hmain]
      rfl
    | patch existing =>
      simp only [providerExtender, Extender.providerPatch, hmain]
      rfl
  | ok =>
    cases mode with
    | create =>
      simp only [providerExtender, Extender.providerCreate, hmain, h, infrastructure]
      cases hdoc : runtime.createInfrastructure provider with
      | error error => simp only [bind, Except.bind, hdoc, Except.map]
      | ok doc =>
        simp only [bind, Except.bind, hdoc, Except.map]
        rfl
    | patch existing =>
      simp only [providerExtender, Extender.providerPatch, hmain, h, infrastructure, ordered]
      cases hdoc : existing.provider.infrastructure runtime provider
          (existing.provider.ordered runtime.spec.shoot.provider.allWorkers) with
      | error error => simp only [bind, Except.bind, hdoc, Except.map]
      | ok doc =>
        simp only [bind, Except.bind, hdoc, Except.map]
        rfl

theorem providerExtender_name : c.providerExtender.name = "provider" := by
  obtain ⟨setup, mode⟩ := c
  cases mode <;> rfl

theorem getD_apiServer (oidc : Option OidcConfig) :
    (oidc.map fun oidc => ({ oidcConfig := some oidc } : ApiServer)).getD {} =
      { oidcConfig := oidc } := by
  cases oidc <;> rfl

/-- Where nothing fails before the last extender, the last one decides. -/
theorem run_eq {provider : Hyperscaler} (hversion : c.kubernetesVersion runtime ≠ "")
    (hname : runtime.spec.shoot.name ≠ "") (hprovider : runtime.hyperscaler = .ok provider) :
    c.run runtime =
      ((runtime.checkMainWorker >>= fun _ => c.infrastructure runtime provider).map
        (c.outcome runtime provider)).mapError (.extender "provider") := by
  simp only [run, extenders]
  rw [Extender.applyAll_cons_ok rfl, Extender.applyAll_cons_ok rfl]
  dsimp only [seed, Option.getD_none]
  rw [Extender.applyAll_cons_ok (if_neg hversion), Extender.applyAll_cons_ok (if_neg hname)]
  dsimp only
  rw [Extender.applyAll_cons_ok (oidc_apply rfl),
    Extender.applyAll_cons_ok (Extender.cloudProfile_apply hprovider)]
  dsimp only
  rw [Extender.applyAll_cons_ok (Extender.accessRestrictions_apply rfl),
    Extender.applyAll_cons_ok rfl]
  dsimp only
  rw [Extender.applyAll_cons_ok (Extender.exposureClass_apply hprovider rfl),
    Extender.applyAll_cons_ok (Extender.tolerations_apply rfl),
    Extender.applyAll_cons_ok (Extender.seedSelector_apply rfl)]
  dsimp only
  rw [Extender.applyAll_cons_ok rfl, Extender.applyAll_cons_ok rfl]
  dsimp only [Shoot.updateApiServer]
  rw [getD_apiServer, Extender.applyAll_cons_ok (auditLog_apply rfl rfl rfl)]
  cases hdoc : runtime.checkMainWorker >>= fun _ => c.infrastructure runtime provider with
  | error error =>
    rw [Extender.applyAll_cons_error ((providerExtender_apply hprovider).trans (by rw [hdoc]; rfl)),
      providerExtender_name]
    rfl
  | ok doc =>
    rw [Extender.applyAll_cons_ok ((providerExtender_apply hprovider).trans (by rw [hdoc]; rfl))]
    rfl

theorem run_of_version_eq_empty (h : c.kubernetesVersion runtime = "") :
    c.run runtime = .error (.extender "kubernetes" .emptyKubernetesVersion) := by
  simp only [run, extenders]
  rw [Extender.applyAll_cons_ok rfl, Extender.applyAll_cons_ok rfl,
    Extender.applyAll_cons_error (if_pos h)]
  rfl

theorem run_of_name_eq_empty (hversion : c.kubernetesVersion runtime ≠ "")
    (h : runtime.spec.shoot.name = "") :
    c.run runtime = .error (.extender "dns" .emptyShootName) := by
  simp only [run, extenders]
  rw [Extender.applyAll_cons_ok rfl, Extender.applyAll_cons_ok rfl,
    Extender.applyAll_cons_ok (if_neg hversion), Extender.applyAll_cons_error (if_pos h)]
  rfl

theorem run_of_hyperscaler_eq_error {error : ConversionError}
    (hversion : c.kubernetesVersion runtime ≠ "") (hname : runtime.spec.shoot.name ≠ "")
    (h : runtime.hyperscaler = .error error) :
    c.run runtime = .error (.extender "cloud-profile" error) := by
  simp only [run, extenders]
  rw [Extender.applyAll_cons_ok rfl, Extender.applyAll_cons_ok rfl]
  dsimp only [seed]
  rw [Extender.applyAll_cons_ok (if_neg hversion), Extender.applyAll_cons_ok (if_neg hname)]
  dsimp only
  rw [Extender.applyAll_cons_ok (oidc_apply rfl),
    Extender.applyAll_cons_error (Extender.cloudProfile_apply_error h)]
  rfl

/-- A conversion succeeds just when its guards hold, and then with this Shoot. -/
theorem run_eq_ok_iff :
    c.run runtime = .ok shoot ↔
      c.kubernetesVersion runtime ≠ "" ∧ runtime.spec.shoot.name ≠ "" ∧
        ∃ provider doc, runtime.hyperscaler = .ok provider ∧ runtime.checkMainWorker = .ok () ∧
          c.infrastructure runtime provider = .ok doc ∧
          shoot = c.outcome runtime provider doc := by
  by_cases hversion : c.kubernetesVersion runtime = ""
  · simp [run_of_version_eq_empty hversion, hversion]
  by_cases hname : runtime.spec.shoot.name = ""
  · simp [run_of_name_eq_empty hversion hname, hname]
  cases hprovider : runtime.hyperscaler with
  | error error => simp [run_of_hyperscaler_eq_error hversion hname hprovider]
  | ok provider =>
    rw [run_eq hversion hname hprovider]
    cases hmain : runtime.checkMainWorker with
    | error error => simp [bind, Except.bind, Except.map, Except.mapError]
    | ok =>
      cases hdoc : c.infrastructure runtime provider with
      | error error => simp [bind, Except.bind, Except.map, Except.mapError, hdoc]
      | ok doc =>
        simp [bind, Except.bind, Except.map, Except.mapError, hdoc, hversion, hname, eq_comm]

end Conversion

end ShootPlan
