import ShootPlan.Proofs.ConversionOutcome
import ShootPlan.Proofs.Footprints
/-!
What the extenders set. Nearly all of them set one part of the Shoot, or leave it as it is, and
most do not even look at what is there.
-/
namespace ShootPlan.Extender

variable (runtime : Runtime)

theorem annotations_updates : annotations.Updates runtime .annotations fun given =>
    .ok (some (some <| (given.getD .empty)
      |>.insertSome runtimeIdAnnotation (runtime.label runtimeIdLabel)
      |>.insertSome licenceTypeAnnotation (runtime.spec.shoot.licenceType.filter (· ≠ ""))
      |>.insertSome euAccessAnnotation (if runtime.needsEuAccess then some "true" else none))) :=
  fun _ => rfl

theorem labels_updates : labels.Updates runtime .labels fun given =>
    .ok (some (addLabel
      (addLabel given "account" (runtime.label globalAccountLabel))
      "subaccount" (runtime.label subaccountLabel))) := fun _ => rfl

theorem kubernetes_updates (defaultVersion : String) (current : Option String) :
    (kubernetes defaultVersion current).Updates runtime .version fun _ =>
      let version := chosenVersion defaultVersion current runtime.spec.shoot.kubernetes.version
      if version = "" then .error .emptyKubernetesVersion else .ok (some version) := by
  intro shoot
  simp only [kubernetes]
  split_ifs <;> rfl

theorem dns_updates (domainPrefix : String) : (dns domainPrefix).Updates runtime .dns fun _ =>
    if runtime.spec.shoot.name = "" then .error .emptyShootName
    else .ok (some (some { domain := some (runtime.spec.shoot.name ++ "." ++ domainPrefix) })) := by
  intro shoot
  simp only [dns]
  split_ifs <;> rfl

theorem oidc_updates (fallback : OidcConfig) : (oidc fallback).Updates runtime .oidcConfig fun _ =>
    let requested := runtime.spec.shoot.kubernetes.apiServer.oidcConfig
    let chosen := if requested.isConfigured then requested else fallback
    .ok (if chosen.isConfigured then some (some chosen) else none) :=
  fun shoot => congrArg Except.ok (Part.put_ite .oidcConfig _ shoot).symm

theorem cloudProfile_updates : cloudProfile.Updates runtime .cloudProfile fun _ =>
    runtime.hyperscaler.map fun provider => some (some (cloudProfileName provider)) := by
  intro shoot
  simp only [cloudProfile]
  cases runtime.hyperscaler <;> rfl

theorem accessRestrictions_updates : accessRestrictions.Updates runtime .accessRestrictions fun given =>
    .ok (if runtime.needsEuAccess then
      some ((KeyedList.ofList given).upsert euAccessRestriction).items
    else none) :=
  fun shoot => congrArg Except.ok (Part.put_ite .accessRestrictions _ shoot).symm

theorem extensions_puts (secretName providerType : String) (auditLogs : AuditLogTable) :
    (extensions secretName providerType auditLogs).Puts runtime .extensions fun shoot =>
      (shoot.spec.dns.bind Dns.domain).elim (.error .domainMissing) fun domain =>
        .ok (some ((renewed secretName providerType auditLogs runtime domain).foldl
          KeyedList.upsert (KeyedList.ofList shoot.spec.extensions)).items) := by
  intro shoot
  simp only [extensions]
  cases shoot.spec.dns.bind Dns.domain <;> rfl

theorem exposureClass_updates : exposureClass.Updates runtime .exposureClass fun _ =>
    runtime.hyperscaler.map fun provider =>
      if provider = .openstack then some (some "converged-cloud-internet") else none := by
  intro shoot
  simp only [exposureClass]
  cases runtime.hyperscaler with
  | error => rfl
  | ok provider => cases provider <;> rfl

theorem tolerations_updates : tolerations.Updates runtime .tolerations fun given : List Toleration =>
    .ok (if runtime.spec.shoot.platformRegion = "cf-sa30"
        ∧ (given.any fun t => t.key == assuredWorkload.key) = false then
      some (given ++ [assuredWorkload]) else none) :=
  fun shoot => congrArg Except.ok (Part.put_ite .tolerations _ shoot).symm

theorem seedSelector_updates : seedSelector.Updates runtime .seedSelector fun _ =>
    .ok (if runtime.spec.shoot.enforceSeedLocation = some true then
      some (some { matchLabels := .singleton "seed.gardener.cloud/region" runtime.spec.shoot.region })
    else none) :=
  fun shoot => congrArg Except.ok (Part.put_ite .seedSelector _ shoot).symm

theorem maintenance_updates (kubernetesVersion machineImageVersion : Bool) (windows : MaintenanceTable) :
    (maintenance kubernetesVersion machineImageVersion windows).Updates runtime .maintenance fun _ =>
      .ok (some (some {
        autoUpdate := some ⟨kubernetesVersion, some machineImageVersion⟩
        timeWindow :=
          (windows.get? runtime.spec.shoot.region).map MaintenanceWindow.timeWindow })) :=
  fun _ => rfl

theorem tokenExpiration_updates : tokenExpiration.Updates runtime .serviceAccountConfig fun _ =>
    .ok (some (some ⟨some false, some "2592000s"⟩)) := fun _ => rfl

/-- The audit logs are the only extender that sets two parts. -/
theorem auditLog_apply_eq (policyConfigMapName : String) (auditLogs : AuditLogTable)
    (existing : Option AuditConfig) (shoot : Shoot) :
    (auditLog policyConfigMapName auditLogs existing).apply runtime shoot =
      .ok (Part.resources.put
        ((auditLogs.tenant? runtime).map fun tenant =>
          ((KeyedList.ofList shoot.spec.resources).upsert (Conversion.credentials tenant)).items)
        (Part.auditConfig.put
          (((auditLogs.tenant? runtime).map fun _ => ⟨some ⟨some ⟨policyConfigMapName⟩⟩⟩).or existing
            |>.map some) shoot)) := by
  simp only [auditLog]
  cases auditLogs.tenant? runtime with
  | some tenant => rfl
  | none => cases existing <;> rfl

/-- The provider is set when all that can be wrong with it has been looked into. -/
def newProvider (infrastructure : Hyperscaler → Except ConversionError Json)
    (block : Hyperscaler → Json → ProviderBlock) : Except ConversionError (Option ProviderBlock) := do
  runtime.checkMainWorker
  let provider ← runtime.hyperscaler
  return some (block provider (← infrastructure provider))

theorem newProvider_map (infrastructure : Hyperscaler → Except ConversionError Json)
    (block : Hyperscaler → Json → ProviderBlock) (shoot : Shoot) :
    (newProvider runtime infrastructure block).map (fun value => Part.provider.put value shoot) = (do
      runtime.checkMainWorker
      let provider ← runtime.hyperscaler
      let document ← infrastructure provider
      return Part.provider.set (block provider document) shoot) := by
  simp only [newProvider, bind, Except.bind]
  cases runtime.checkMainWorker with
  | error => rfl
  | ok =>
    cases runtime.hyperscaler with
    | error => rfl
    | ok provider =>
      simp only
      cases infrastructure provider <;> rfl

theorem providerCreate_updates (defaults : WorkerDefaults) :
    (providerCreate defaults).Updates runtime .provider fun _ =>
      newProvider runtime runtime.createInfrastructure fun provider infrastructure => {
        type := provider.name
        controlPlaneConfig := some (runtime.createControlPlane provider)
        infrastructureConfig := some infrastructure
        workers := runtime.spec.shoot.provider.allWorkers.map (Worker.create defaults provider)
        workersSettings := some workersSettings } :=
  fun shoot => (newProvider_map runtime _ _ shoot).symm

theorem providerPatch_updates (defaults : WorkerDefaults) (prior : PriorProvider) :
    (providerPatch defaults prior).Updates runtime .provider fun _ =>
      let workers := prior.ordered runtime.spec.shoot.provider.allWorkers
      newProvider runtime (prior.infrastructure runtime · workers) fun provider infrastructure => {
        type := provider.name
        controlPlaneConfig := some (prior.controlPlane provider)
        infrastructureConfig := some infrastructure
        workers := workers.map (prior.patch defaults provider)
        workersSettings := some workersSettings } :=
  fun shoot => (newProvider_map runtime _ _ shoot).symm

end ShootPlan.Extender
