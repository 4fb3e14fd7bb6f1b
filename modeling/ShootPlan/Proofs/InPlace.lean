import ShootPlan.Proofs.Repetition
/-!
The extenders as they work on a Shoot in place: parts are taken out and put back one after the
other, and what is done before a failure stays done. This comes to the same as working on a copy
and giving that back at the end, since nothing fails once a part has been touched.
-/
namespace ShootPlan

/-- Work on a Shoot. After a failure the Shoot is as the work has left it. -/
abbrev Work := EStateM ConversionError Shoot

namespace Work

variable {α : Type}

/-- Find out something that has nothing to do with the Shoot. -/
def ask (answer : Except ConversionError α) : Work α := fun shoot =>
  match answer with
  | .ok value => .ok value shoot
  | .error error => .error error shoot

/-- Go without an entry that is not there. -/
def lookUp (entry : Except ConversionError α) : Work (Option α) :=
  match entry with
  | .ok found => pure (some found)
  | .error error => if error.isNotFound then pure none else throw error

def look (part : Part) : Work part.Value := do return part.get (← get)

def put (part : Part) (value : part.Value) : Work Unit := modify (part.set value)

def change (part : Part) (f : part.Value → part.Value) : Work Unit :=
  modify fun shoot => part.set (f (part.get shoot)) shoot

/-- Take a part out of the Shoot and leave something else in its place. -/
def take (part : Part) (left : part.Value) : Work part.Value :=
  modifyGet fun shoot => (part.get shoot, part.set left shoot)

/-- The provider is set when all that can be wrong with it has been looked into. -/
def putProvider (runtime : Runtime) (infrastructure : Hyperscaler → Except ConversionError Json)
    (block : Hyperscaler → Json → ProviderBlock) : Work Unit := do
  ask runtime.checkMainWorker
  let provider ← ask runtime.hyperscaler
  let document ← ask (infrastructure provider)
  put .provider (block provider document)

/-- The Shoot after the work, and what went wrong if it failed. -/
def outcome (work : Work Unit) (shoot : Shoot) : Shoot × Option ConversionError :=
  match work.run shoot with
  | .ok () next => (next, none)
  | .error error left => (left, some error)

end Work

/-- An extender, by what it is made with. -/
inductive Rule where
  | annotations
  | labels
  | kubernetes (defaultVersion : String) (current : Option String)
  | dns (domainPrefix : String)
  | oidc (fallback : OidcConfig)
  | cloudProfile
  | accessRestrictions
  | extensions (secretName providerType : String) (auditLogs : AuditLogTable)
  | exposureClass
  | tolerations
  | seedSelector
  | maintenance (kubernetesVersion machineImageVersion : Bool) (windows : MaintenanceTable)
  | tokenExpiration
  | auditLog (policyConfigMapName : String) (auditLogs : AuditLogTable)
      (existing : Option AuditConfig)
  | providerCreate (defaults : WorkerDefaults)
  | providerPatch (defaults : WorkerDefaults) (prior : PriorProvider)

namespace Rule

def extender : Rule → Extender
  | annotations => .annotations
  | labels => .labels
  | kubernetes defaultVersion current => .kubernetes defaultVersion current
  | dns domainPrefix => .dns domainPrefix
  | oidc fallback => .oidc fallback
  | cloudProfile => .cloudProfile
  | accessRestrictions => .accessRestrictions
  | extensions secretName providerType auditLogs => .extensions secretName providerType auditLogs
  | exposureClass => .exposureClass
  | tolerations => .tolerations
  | seedSelector => .seedSelector
  | maintenance kubernetesVersion machineImageVersion windows =>
    .maintenance kubernetesVersion machineImageVersion windows
  | tokenExpiration => .tokenExpiration
  | auditLog policyConfigMapName auditLogs existing => .auditLog policyConfigMapName auditLogs existing
  | providerCreate defaults => .providerCreate defaults
  | providerPatch defaults prior => .providerPatch defaults prior

open Work in
/-- What the extender does to the Shoot, in the order in which it does it. -/
def work (runtime : Runtime) : Rule → Work Unit
  | annotations => do
    change .annotations fun given => some (given.getD .empty)
    change .annotations (Extender.addLabel · Extender.runtimeIdAnnotation
      (runtime.label Extender.runtimeIdLabel))
    change .annotations (Extender.addLabel · Extender.licenceTypeAnnotation
      (runtime.spec.shoot.licenceType.filter (· ≠ "")))
    change .annotations (Extender.addLabel · euAccessAnnotation
      (if runtime.needsEuAccess then some "true" else none))
  | labels => do
    change .labels (Extender.addLabel · "account" (runtime.label Extender.globalAccountLabel))
    change .labels (Extender.addLabel · "subaccount" (runtime.label Extender.subaccountLabel))
  | kubernetes defaultVersion current => do
    let version :=
      Extender.chosenVersion defaultVersion current runtime.spec.shoot.kubernetes.version
    if version = "" then throw .emptyKubernetesVersion
    put .version version
  | dns domainPrefix => do
    if runtime.spec.shoot.name = "" then throw .emptyShootName
    put .dns (some { domain := some (runtime.spec.shoot.name ++ "." ++ domainPrefix) })
  | oidc fallback => do
    let requested := runtime.spec.shoot.kubernetes.apiServer.oidcConfig
    let chosen := if requested.isConfigured then requested else fallback
    if chosen.isConfigured then put .oidcConfig (some chosen)
  | cloudProfile => do
    let provider ← ask runtime.hyperscaler
    put .cloudProfile (some (Extender.cloudProfileName provider))
  | accessRestrictions => do
    if runtime.needsEuAccess then
      let given : List AccessRestriction ← take .accessRestrictions []
      put .accessRestrictions
        ((KeyedList.ofList given).upsert Extender.euAccessRestriction).items
  | extensions secretName providerType auditLogs => do
    let dns : Option Dns ← look .dns
    let some domain := dns.bind Dns.domain | throw .domainMissing
    let given : List Extension ← take .extensions []
    let list := (KeyedList.ofList given)
      |>.upsert (Extension.networkFilter runtime)
      |>.upsert Extension.cert
      |>.upsert (Extension.dns secretName providerType domain)
      |>.upsert Extension.oidc
    let tenant ← lookUp
      (auditLogs.get runtime.spec.shoot.provider.type runtime.spec.shoot.region)
    let list :=
      match tenant with
      | some tenant => list.upsert (Extension.auditLog tenant)
      | none => list
    let caching := runtime.spec.caching
    let list := if caching.isEmpty then list else list.upsert (Extension.registryCache caching)
    put .extensions list.items
  | exposureClass => do
    if (← ask runtime.hyperscaler) = .openstack then
      put .exposureClass (some "converged-cloud-internet")
  | tolerations => do
    if runtime.spec.shoot.platformRegion = "cf-sa30" then
      let given : List Toleration ← look .tolerations
      if (given.any fun t => t.key == Extender.assuredWorkload.key) = false then
        put .tolerations (given ++ [Extender.assuredWorkload])
  | seedSelector => do
    if runtime.spec.shoot.enforceSeedLocation = some true then
      let matchLabels := .singleton "seed.gardener.cloud/region" runtime.spec.shoot.region
      put .seedSelector (some { matchLabels })
  | maintenance kubernetesVersion machineImageVersion windows => do
    let window ← lookUp (windows.get runtime.spec.shoot.region)
    put .maintenance (some {
      autoUpdate := some ⟨kubernetesVersion, some machineImageVersion⟩
      timeWindow := window.map MaintenanceWindow.timeWindow })
  | tokenExpiration => put .serviceAccountConfig (some ⟨some false, some "2592000s"⟩)
  | auditLog policyConfigMapName auditLogs existing => do
    let tenant ← lookUp
      (auditLogs.get runtime.spec.shoot.provider.type runtime.spec.shoot.region)
    match tenant, existing with
    | some tenant, _ =>
      put .auditConfig (some ⟨some ⟨some ⟨policyConfigMapName⟩⟩⟩)
      let given : List NamedResource ← take .resources []
      put .resources ((KeyedList.ofList given).upsert (Conversion.credentials tenant)).items
    | none, some config => put .auditConfig (some config)
    | none, none => return
  | providerCreate defaults =>
    putProvider runtime runtime.createInfrastructure fun provider infrastructure => {
      type := provider.name
      controlPlaneConfig := some (runtime.createControlPlane provider)
      infrastructureConfig := some infrastructure
      workers := runtime.spec.shoot.provider.allWorkers.map (Worker.create defaults provider)
      workersSettings := some workersSettings }
  | providerPatch defaults prior =>
    let workers := prior.ordered runtime.spec.shoot.provider.allWorkers
    putProvider runtime (prior.infrastructure runtime · workers) fun provider infrastructure => {
      type := provider.name
      controlPlaneConfig := some (prior.controlPlane provider)
      infrastructureConfig := some infrastructure
      workers := workers.map (prior.patch defaults provider)
      workersSettings := some workersSettings }

end Rule

namespace Work

/-- What has come of work that gives its changes back at the end, or nothing. -/
def give (shoot : Shoot) : Except ConversionError Shoot → EStateM.Result ConversionError Shoot Unit
  | .ok next => .ok () next
  | .error error => .error error shoot

variable {α : Type} {runtime : Runtime}

theorem look_bind (part : Part) (next : part.Value → Work α) (shoot : Shoot) :
    (look part >>= next) shoot = next (part.get shoot) shoot := rfl

theorem take_bind (part : Part) (left : part.Value) (next : part.Value → Work α) (shoot : Shoot) :
    (take part left >>= next) shoot = next (part.get shoot) (part.set left shoot) := rfl

/-- The only way for a tenant's look-up to fail is that there is none. -/
theorem lookUp_tenant (auditLogs : AuditLogTable) (runtime : Runtime) :
    lookUp (auditLogs.get runtime.spec.shoot.provider.type runtime.spec.shoot.region) =
      pure (auditLogs.tenant? runtime) := by
  rw [AuditLogTable.get, AuditLogTable.tenant?]
  cases auditLogs.get? runtime.spec.shoot.provider.type runtime.spec.shoot.region <;> rfl

theorem lookUp_window (windows : MaintenanceTable) (region : String) :
    lookUp (windows.get region) = pure (windows.get? region) := by
  rw [MaintenanceTable.get]
  cases windows.get? region <;> rfl

theorem putProvider_eq (infrastructure : Hyperscaler → Except ConversionError Json)
    (block : Hyperscaler → Json → ProviderBlock) (shoot : Shoot) :
    putProvider runtime infrastructure block shoot = give shoot (do
      runtime.checkMainWorker
      let provider ← runtime.hyperscaler
      let document ← infrastructure provider
      return Part.provider.set (block provider document) shoot) := by
  simp only [putProvider, bind, EStateM.bind, Except.bind, ask]
  cases runtime.checkMainWorker with
  | error => rfl
  | ok =>
    cases runtime.hyperscaler with
    | error => rfl
    | ok provider =>
      simp only
      cases infrastructure provider <;> rfl

end Work

namespace Rule

variable (runtime : Runtime) (shoot : Shoot)

theorem work_annotations :
    work runtime annotations shoot = Work.give shoot (Extender.annotations.apply runtime shoot) := by
  simp only [work, Extender.annotations]
  cases runtime.label Extender.runtimeIdLabel <;>
    cases runtime.spec.shoot.licenceType.filter (· ≠ "") <;>
    cases runtime.needsEuAccess <;> rfl

theorem work_extensions (secretName providerType : String) (auditLogs : AuditLogTable) :
    work runtime (extensions secretName providerType auditLogs) shoot =
      Work.give shoot ((Extender.extensions secretName providerType auditLogs).apply runtime shoot) := by
  simp only [work, Work.lookUp_tenant, Extender.extensions, Extender.renewed]
  refine (Work.look_bind .dns _ shoot).trans ?_
  simp only [Part.get]
  cases shoot.spec.dns.bind Dns.domain with
  | none => rfl
  | some domain =>
    -- with the list taken out there is nothing left that can fail
    refine (Work.take_bind .extensions [] _ shoot).trans ?_
    simp only [Part.get, pure_bind]
    cases auditLogs.tenant? runtime <;> cases runtime.spec.caching.isEmpty <;>
      simp only [Option.map_none, Option.map_some, Option.toList_none, Option.toList_some,
        List.append_nil, List.cons_append, List.nil_append, List.foldl_cons, List.foldl_nil,
        if_true, if_false, Bool.false_eq_true] <;> rfl

theorem work_tolerations :
    work runtime tolerations shoot = Work.give shoot (Extender.tolerations.apply runtime shoot) := by
  simp only [work, Extender.tolerations]
  by_cases hregion : runtime.spec.shoot.platformRegion = "cf-sa30"
  · simp only [hregion, if_true, true_and]
    change (if (shoot.spec.tolerations.any fun t => t.key == Extender.assuredWorkload.key) = false
      then Work.put .tolerations (shoot.spec.tolerations ++ [Extender.assuredWorkload])
      else pure ()) shoot = _
    split_ifs <;> rfl
  · simp only [hregion, if_false, false_and]
    rfl

/-- In place or not, an extender does the same. -/
theorem work_eq (rule : Rule) :
    rule.work runtime shoot = Work.give shoot (rule.extender.apply runtime shoot) := by
  cases rule with
  | annotations => exact work_annotations runtime shoot
  | labels => rfl
  | kubernetes defaultVersion current =>
    simp only [work, extender, Extender.kubernetes]
    split_ifs <;> rfl
  | dns domainPrefix =>
    simp only [work, extender, Extender.dns]
    split_ifs <;> rfl
  | oidc fallback =>
    simp only [work, extender, Extender.oidc]
    split_ifs <;> rfl
  | cloudProfile =>
    simp only [work, extender, Extender.cloudProfile]
    cases runtime.hyperscaler <;> rfl
  | accessRestrictions =>
    simp only [work, extender, Extender.accessRestrictions]
    split_ifs <;> rfl
  | extensions secretName providerType auditLogs =>
    exact work_extensions runtime shoot secretName providerType auditLogs
  | exposureClass =>
    simp only [work, extender, Extender.exposureClass]
    cases runtime.hyperscaler with
    | error => rfl
    | ok provider => cases provider <;> rfl
  | tolerations => exact work_tolerations runtime shoot
  | seedSelector =>
    simp only [work, extender, Extender.seedSelector]
    split_ifs <;> rfl
  | maintenance kubernetesVersion machineImageVersion windows =>
    simp only [work, Work.lookUp_window]
    rfl
  | tokenExpiration => rfl
  | auditLog policyConfigMapName auditLogs existing =>
    simp only [work, Work.lookUp_tenant, extender, Extender.auditLog]
    cases auditLogs.tenant? runtime with
    | some tenant => rfl
    | none => cases existing <;> rfl
  | providerCreate defaults => exact Work.putProvider_eq _ _ shoot
  | providerPatch defaults prior => exact Work.putProvider_eq _ _ shoot

variable {runtime shoot}

theorem extender_settles (rule : Rule) : rule.extender.Settles runtime := by
  cases rule with
  | annotations => exact Extender.annotations_settles
  | labels => exact Extender.labels_settles
  | kubernetes defaultVersion current =>
    exact (Extender.kubernetes_updates runtime defaultVersion current).settles_of_const
  | dns domainPrefix => exact (Extender.dns_updates runtime domainPrefix).settles_of_const
  | oidc fallback => exact (Extender.oidc_updates runtime fallback).settles_of_const
  | cloudProfile => exact (Extender.cloudProfile_updates runtime).settles_of_const
  | accessRestrictions => exact Extender.accessRestrictions_settles
  | extensions secretName providerType auditLogs =>
    exact Extender.extensions_settles secretName providerType auditLogs
  | exposureClass => exact (Extender.exposureClass_updates runtime).settles_of_const
  | tolerations => exact Extender.tolerations_settles
  | seedSelector => exact (Extender.seedSelector_updates runtime).settles_of_const
  | maintenance kubernetesVersion machineImageVersion windows =>
    exact (Extender.maintenance_updates runtime kubernetesVersion machineImageVersion
      windows).settles_of_const
  | tokenExpiration => exact (Extender.tokenExpiration_updates runtime).settles_of_const
  | auditLog policyConfigMapName auditLogs existing =>
    exact Extender.auditLog_settles policyConfigMapName auditLogs existing
  | providerCreate defaults =>
    exact (Extender.providerCreate_updates runtime defaults).settles_of_const
  | providerPatch defaults prior =>
    exact (Extender.providerPatch_updates runtime defaults prior).settles_of_const

theorem outcome_work (rule : Rule) :
    (rule.work runtime).outcome shoot = rule.extender.run runtime shoot := by
  rw [Work.outcome, EStateM.run, work_eq, Extender.run]
  cases rule.extender.apply runtime shoot <;> rfl

theorem run_eq_none_iff (rule : Rule) {next : Shoot} :
    rule.extender.run runtime shoot = (next, none) ↔
      rule.extender.apply runtime shoot = .ok next := by
  rw [Extender.run]
  cases rule.extender.apply runtime shoot <;> simp

/--
An extender that works in place gives what it would give as a whole. If it fails the Shoot is as
it was before, and if it succeeds it succeeds again and finds nothing to change.
-/
theorem atomic_and_idempotent (rule : Rule) (runtime : Runtime) (shoot : Shoot) :
    (rule.work runtime).outcome shoot = rule.extender.run runtime shoot ∧
    (∀ left error, (rule.work runtime).outcome shoot = (left, some error) → left = shoot) ∧
    (∀ next, (rule.work runtime).outcome shoot = (next, none) →
      (rule.work runtime).outcome next = (next, none)) := by
  refine ⟨rule.outcome_work, fun left error hleft => ?_, fun next hnext => ?_⟩
  · rw [outcome_work, Extender.run] at hleft
    cases happly : rule.extender.apply runtime shoot with
    | ok => simp [happly] at hleft
    | error => simpa [happly, eq_comm] using congrArg Prod.fst hleft
  · rw [outcome_work, run_eq_none_iff] at hnext ⊢
    exact rule.extender_settles shoot next hnext

/-! The sample has two extensions of one type, as no conversion makes them, and may have a domain. -/

def sampleShoot (domain : Option String) : Shoot where
  metadata := {}
  spec := {
    dns := some { domain }
    extensions := [Extension.plain ExtensionType.oidc true, Extension.plain ExtensionType.oidc false] }

def sampleWork : Work Unit :=
  (extensions "secret" "route53" .empty).work (Lifecycle.sampleStep .openstack "1.30.1" ["a"]).runtime

theorem atomic_and_idempotent_sample : ∃ next left error,
    sampleWork.outcome (sampleShoot (some "garden.example")) = (next, none) ∧
    sampleWork.outcome next = (next, none) ∧
    sampleWork.outcome (sampleShoot none) = (left, some error) ∧ left = sampleShoot none := by
  obtain ⟨next, hnext⟩ : ∃ next,
      sampleWork.outcome (sampleShoot (some "garden.example")) = (next, none) := ⟨_, by rfl⟩
  obtain ⟨left, error, hleft⟩ : ∃ left error,
      sampleWork.outcome (sampleShoot none) = (left, some error) := ⟨_, _, by rfl⟩
  exact ⟨next, left, error, hnext, (atomic_and_idempotent _ _ _).2.2 next hnext, hleft,
    (atomic_and_idempotent _ _ _).2.1 left error hleft⟩

end Rule

namespace Conversion

def rules (c : Conversion) : List Rule :=
  let settings := c.setup.settings
  let existing := c.mode.existing?
  let defaults := workerDefaults settings
  [.annotations, .labels,
    .kubernetes settings.kubernetes.defaultVersion (existing.map ExistingShoot.kubernetesVersion),
    .dns settings.dns.domainPrefix, .oidc settings.kubernetes.defaultOperatorOidc, .cloudProfile,
    .accessRestrictions,
    .extensions settings.dns.secretName settings.dns.providerType c.setup.auditLogs,
    .exposureClass, .tolerations, .seedSelector,
    .maintenance settings.kubernetes.enableKubernetesVersionAutoUpdate
      settings.kubernetes.enableMachineImageVersionAutoUpdate c.setup.windows,
    .tokenExpiration,
    .auditLog settings.auditLogging.policyConfigMapName c.setup.auditLogs
      (existing.bind ExistingShoot.auditConfig),
    match c.mode with
    | .create => .providerCreate defaults
    | .patch existing => .providerPatch defaults existing.provider]

/-- A conversion applies no other extenders than these. -/
theorem map_extender_rules (c : Conversion) : c.rules.map Rule.extender = c.extenders := by
  obtain ⟨setup, mode⟩ := c
  cases mode <;> rfl

end Conversion

end ShootPlan
