import ShootPlan.Proofs.KeyedOrder
import ShootPlan.Proofs.NetworkPartition
import ShootPlan.Proofs.ZoneBatches
import ShootPlan.Proofs.ZoneLifecycle
/-!
What a Runtime has to be like for a new cluster. The conditions stand in the order in which
extenders look at them, and the first that is not met names the extender that fails. Tenants
and maintenance windows are not among them: without an entry a conversion does without.
-/
namespace ShootPlan

/-- Something that has to hold, and the extender that fails where it does not. -/
structure Condition where
  extender : String
  Holds : Prop

/-- This extender is the one of the first condition that does not hold. -/
def Condition.FirstUnmet (conditions : List Condition) (extender : String) : Prop :=
  ∃ before unmet after, conditions = before ++ unmet :: after ∧
    (∀ condition ∈ before, condition.Holds) ∧ ¬unmet.Holds ∧ unmet.extender = extender

namespace Condition

variable {condition : Condition} {conditions : List Condition} {extender : String}

theorem FirstUnmet.head (h : ¬condition.Holds) :
    FirstUnmet (condition :: conditions) condition.extender :=
  ⟨[], condition, conditions, rfl, nofun, h, rfl⟩

theorem FirstUnmet.tail (hhead : condition.Holds) (h : FirstUnmet conditions extender) :
    FirstUnmet (condition :: conditions) extender := by
  obtain ⟨before, unmet, after, rfl, hbefore, hunmet, hextender⟩ := h
  exact ⟨condition :: before, unmet, after, rfl, List.forall_mem_cons.2 ⟨hhead, hbefore⟩, hunmet,
    hextender⟩

theorem FirstUnmet.not_all (h : FirstUnmet conditions extender) :
    ¬∀ condition ∈ conditions, condition.Holds := by
  obtain ⟨before, unmet, after, rfl, -, hunmet, -⟩ := h
  exact fun hall => hunmet (hall unmet (List.mem_append_right _ List.mem_cons_self))

end Condition

theorem nodup_eraseDups (names : List String) : names.eraseDups.Nodup := by
  induction names using List.reverseRecOn with
  | nil => exact .nil
  | append_singleton names name ih =>
    rw [eraseDups_concat]
    split_ifs with hmem
    · exact ih
    · have hnew : name ∉ names.eraseDups := by rwa [List.mem_eraseDups]
      exact List.concat_eq_append ▸ ih.concat hnew

theorem nodup_zonesOf (workers : List Worker) : (zonesOf workers).Nodup := nodup_eraseDups _

namespace Runtime

variable (runtime : Runtime)

/-- The zones that any pool is to have. -/
def askedZones : Finset String :=
  (runtime.spec.shoot.provider.allWorkers.flatMap Worker.zones).toFinset

/-- A new cluster's network and zones can be laid out. -/
structure Placeable : Prop where
  network : ∃ block, Cidr.parse runtime.spec.shoot.networking.nodes = .ok block ∧
    16 ≤ block.length ∧ block.length ≤ 24
  few : runtime.askedZones.card ≤ 8
  some_zone : runtime.spec.shoot.provider.type = "aws" ∨ runtime.spec.shoot.provider.type = "alicloud" →
    1 ≤ runtime.askedZones.card
  /-- No two names mean the same number. -/
  numbered : runtime.spec.shoot.provider.type = "azure" →
    ∀ a ∈ runtime.askedZones, ∀ b ∈ runtime.askedZones, ∀ n,
      AzureNetwork.zoneNumber? a = some n → AzureNetwork.zoneNumber? b = some n → a = b

variable {runtime}

theorem mem_askedZones {zone : String} :
    zone ∈ runtime.askedZones ↔ zone ∈ zonesOf runtime.spec.shoot.provider.allWorkers := by
  rw [askedZones, List.mem_toFinset, zonesOf, List.mem_eraseDups]

theorem card_askedZones :
    runtime.askedZones.card = (zonesOf runtime.spec.shoot.provider.allWorkers).length := by
  have hsame : runtime.askedZones = (zonesOf runtime.spec.shoot.provider.allWorkers).toFinset := by
    ext zone
    rw [mem_askedZones, List.mem_toFinset]
  rw [hsame, List.toFinset_card_of_nodup (nodup_zonesOf _)]

theorem hyperscaler_eq_ok_iff {provider : Hyperscaler} :
    runtime.hyperscaler = .ok provider ↔ runtime.spec.shoot.provider.type = provider.name := by
  constructor
  · intro h
    unfold hyperscaler at h
    split at h
    · rename_i found hfound
      obtain rfl := Except.ok.inj h
      have hname := List.find?_some hfound
      exact (beq_iff_eq.1 hname).symm
    · cases h
  · exact hyperscaler_of_type

theorem eq_unsupportedProvider_of_hyperscaler {error : ConversionError}
    (h : runtime.hyperscaler = .error error) :
    error = .unsupportedProvider runtime.spec.shoot.provider.type := by
  unfold hyperscaler at h
  split at h
  · cases h
  · exact (Except.error.inj h).symm

theorem exists_hyperscaler_iff :
    (∃ provider, runtime.hyperscaler = .ok provider) ↔
      runtime.spec.shoot.provider.type ∈ ["aws", "azure", "alicloud", "openstack"] := by
  simp only [hyperscaler_eq_ok_iff, List.mem_cons, List.not_mem_nil, or_false]
  constructor
  · rintro ⟨provider, h⟩
    cases provider with
    | aws => exact .inl h
    | azure => exact .inr (.inl h)
    | alicloud => exact .inr (.inr (.inl h))
    | openstack => exact .inr (.inr (.inr h))
  · rintro (h | h | h | h)
    · exact ⟨.aws, h⟩
    · exact ⟨.azure, h⟩
    · exact ⟨.alicloud, h⟩
    · exact ⟨.openstack, h⟩

end Runtime

theorem OpenStackNetwork.Infrastructure.exists_create_iff {network : String} {names : List String} :
    (∃ doc, create network names = .ok doc) ↔
      (∃ block, Cidr.parse network = .ok block ∧ 16 ≤ block.length ∧ block.length ≤ 24) ∧
        names.length ≤ 8 ∧ names.Nodup := by
  simp only [create, layout, Outcome.bind_eq_ok_iff, Outcome.pure_eq_ok_iff]
  constructor
  · rintro ⟨_, _, ⟨block, hblock, ⟨⟩, hchecked, rfl⟩, rfl⟩
    exact ⟨⟨block, workerNetwork_eq_ok_iff.1 hblock⟩, (checkZoneNames_eq_ok_iff.1 hchecked).2⟩
  · rintro ⟨⟨block, hblock⟩, hnames⟩
    exact ⟨_, _, ⟨block, workerNetwork_eq_ok_iff.2 hblock, (),
      checkZoneNames_eq_ok_iff.2 ⟨Nat.zero_le _, hnames⟩, rfl⟩, rfl⟩

/-- Distinct names, any two of which mean the same number only by being the same. -/
theorem AzureNetwork.pairwise_zoneNumber_iff {names : List String} (hnames : names.Nodup) :
    (names.Pairwise fun a b => ∀ n, zoneNumber? a = some n → zoneNumber? b ≠ some n) ↔
      ∀ a ∈ names, ∀ b ∈ names, ∀ n, zoneNumber? a = some n → zoneNumber? b = some n → a = b := by
  constructor
  · intro hpairs a ha b hb n hna hnb
    by_contra hne
    have hsymm : Std.Symm fun a b => ∀ n, zoneNumber? a = some n → zoneNumber? b ≠ some n :=
      ⟨fun _ _ h n hb ha => h n ha hb⟩
    exact hpairs.forall ha hb hne n hna hnb
  · intro hsame
    exact hnames.pairwise_of_forall_ne fun a ha b hb hne n hna hnb => hne (hsame a ha b hb n hna hnb)

namespace InfrastructureDocument

/-- A new document needs a workable network and names that the provider takes. -/
theorem exists_create_iff {provider : Hyperscaler} {network : String} {names : List String}
    {dualStack : Bool} (hnames : names.Nodup) :
    (∃ doc, create provider network names dualStack = .ok doc) ↔
      (∃ block, Cidr.parse network = .ok block ∧ 16 ≤ block.length ∧ block.length ≤ 24) ∧
        names.length ≤ 8 ∧ (provider = .aws ∨ provider = .alicloud → 1 ≤ names.length) ∧
        (provider = .azure → ∀ a ∈ names, ∀ b ∈ names, ∀ n,
          AzureNetwork.zoneNumber? a = some n → AzureNetwork.zoneNumber? b = some n → a = b) := by
  cases provider with
  | aws =>
    rw [create, Outcome.exists_map_eq_ok_iff, AwsNetwork.Infrastructure.exists_create_iff,
      (AwsNetwork.laysOut network names).succeeds]
    simp [hnames, and_comm]
  | azure =>
    rw [create, Outcome.exists_map_eq_ok_iff, AzureNetwork.Infrastructure.exists_create_iff,
      (AzureNetwork.laysOut network names).succeeds, AzureNetwork.pairwise_zoneNumber_iff hnames]
    simp [hnames]
  | alicloud =>
    rw [create, Outcome.exists_map_eq_ok_iff, AlicloudNetwork.Infrastructure.exists_create_iff,
      (AlicloudNetwork.laysOut network names).succeeds]
    simp [hnames, and_comm]
  | openstack =>
    rw [create, Outcome.exists_map_eq_ok_iff, OpenStackNetwork.Infrastructure.exists_create_iff]
    simp [hnames]

end InfrastructureDocument

namespace Runtime

variable {runtime : Runtime} {provider : Hyperscaler}

theorem placeable_iff (h : runtime.hyperscaler = .ok provider) :
    runtime.Placeable ↔ ∃ doc, InfrastructureDocument.create provider
      runtime.spec.shoot.networking.nodes (zonesOf runtime.spec.shoot.provider.allWorkers)
      runtime.dualStack = .ok doc := by
  have hname (other : Hyperscaler) : runtime.spec.shoot.provider.type = other.name ↔ provider = other := by
    rw [hyperscaler_eq_ok_iff.1 h]
    constructor
    · intro hnames
      have hfound := Hyperscaler.ofName?_name provider
      rw [hnames, Hyperscaler.ofName?_name] at hfound
      exact (Option.some.inj hfound).symm
    · exact fun hsame => hsame ▸ rfl
  have haws := hname .aws
  have hazure := hname .azure
  have halicloud := hname .alicloud
  simp only [Hyperscaler.name] at haws hazure halicloud
  rw [InfrastructureDocument.exists_create_iff (nodup_zonesOf _)]
  simp only [← mem_askedZones, ← card_askedZones]
  constructor
  · rintro ⟨hnetwork, hfew, hsome, hnumbered⟩
    rw [haws, halicloud] at hsome
    rw [hazure] at hnumbered
    exact ⟨hnetwork, hfew, hsome, hnumbered⟩
  · rintro ⟨hnetwork, hfew, hsome, hnumbered⟩
    rw [← haws, ← halicloud] at hsome
    rw [← hazure] at hnumbered
    exact ⟨hnetwork, hfew, hsome, hnumbered⟩

/-- There is a document just when it is supplied or can be laid out. -/
theorem createInfrastructure_cases (h : runtime.hyperscaler = .ok provider) :
    ((∃ json, runtime.createInfrastructure provider = .ok json) ∧
      ((∃ supplied, runtime.spec.shoot.provider.infrastructureConfig = some supplied) ∨
        runtime.Placeable)) ∨
    ∃ error, runtime.createInfrastructure provider = .error error ∧ error.isNotFound = false ∧
      ¬((∃ supplied, runtime.spec.shoot.provider.infrastructureConfig = some supplied) ∨
        runtime.Placeable) := by
  cases hsupplied : runtime.spec.shoot.provider.infrastructureConfig with
  | some supplied =>
    exact .inl ⟨⟨supplied, by rw [createInfrastructure, hsupplied]⟩, .inl ⟨supplied, rfl⟩⟩
  | none =>
    rw [createInfrastructure, hsupplied, placeable_iff h]
    simp only [newInfrastructure]
    cases InfrastructureDocument.create provider runtime.spec.shoot.networking.nodes
        (zonesOf runtime.spec.shoot.provider.allWorkers) runtime.dualStack with
    | ok doc => exact .inl ⟨⟨doc.json, rfl⟩, .inr ⟨doc, rfl⟩⟩
    | error error => exact .inr ⟨.network error, rfl, rfl, by simp⟩

end Runtime

namespace Conversion

variable {setup : Setup} {runtime : Runtime}

/-- What a conversion without an existing Shoot asks of the Runtime, in order. -/
def createConditions (settings : Settings) (runtime : Runtime) : List Condition :=
  let wanted := runtime.spec.shoot
  [⟨"kubernetes", (∃ version, wanted.kubernetes.version = some version ∧ version ≠ "") ∨
      settings.kubernetes.defaultVersion ≠ ""⟩,
    ⟨"dns", wanted.name ≠ ""⟩,
    ⟨"cloud-profile", wanted.provider.type ∈ ["aws", "azure", "alicloud", "openstack"]⟩,
    ⟨"provider", wanted.provider.workers.length = 1⟩,
    ⟨"provider", (∃ supplied, wanted.provider.infrastructureConfig = some supplied) ∨
      runtime.Placeable⟩]

theorem create_version_ne_empty_iff :
    kubernetesVersion ⟨setup, .create⟩ runtime ≠ "" ↔
      (∃ version, runtime.spec.shoot.kubernetes.version = some version ∧ version ≠ "") ∨
        setup.settings.kubernetes.defaultVersion ≠ "" := by
  simp only [kubernetesVersion, Mode.existing?, Option.map_none, Extender.chosenVersion, Option.filter_none]
  cases runtime.spec.shoot.kubernetes.version with
  | none => simp
  | some version => by_cases h : version = "" <;> simp [h, Option.filter]

theorem create_outcome (setup : Setup) (runtime : Runtime) :
    ((∃ shoot, run ⟨setup, .create⟩ runtime = .ok shoot) ∧
      ∀ condition ∈ createConditions setup.settings runtime, condition.Holds) ∨
    ∃ extender source, run ⟨setup, .create⟩ runtime = .error (.extender extender source) ∧
      source.isNotFound = false ∧
      Condition.FirstUnmet (createConditions setup.settings runtime) extender := by
  by_cases hversion : kubernetesVersion ⟨setup, .create⟩ runtime = ""
  · exact .inr ⟨_, _, run_of_version_eq_empty hversion, rfl,
      .head (create_version_ne_empty_iff.not.1 (not_not.2 hversion))⟩
  have hfirst := create_version_ne_empty_iff.1 hversion
  by_cases hname : runtime.spec.shoot.name = ""
  · exact .inr ⟨_, _, run_of_name_eq_empty hversion hname, rfl, .tail hfirst (.head (not_not.2 hname))⟩
  cases hprovider : runtime.hyperscaler with
  | error error =>
    obtain rfl := Runtime.eq_unsupportedProvider_of_hyperscaler hprovider
    refine .inr ⟨_, _, run_of_hyperscaler_eq_error hversion hname hprovider, rfl,
      .tail hfirst (.tail hname (.head ?_))⟩
    change ¬(_ ∈ _)
    rw [← Runtime.exists_hyperscaler_iff, hprovider]
    simp
  | ok provider =>
    have hsupported := Runtime.exists_hyperscaler_iff.1 ⟨provider, hprovider⟩
    rw [run_eq hversion hname hprovider]
    by_cases hmain : runtime.spec.shoot.provider.workers.length = 1
    · rw [Runtime.checkMainWorker, if_pos hmain]
      rcases Runtime.createInfrastructure_cases hprovider with
        ⟨⟨json, hjson⟩, hplaced⟩ | ⟨error, herror, hfound, hplaced⟩
      · refine .inl ⟨⟨outcome ⟨setup, .create⟩ runtime provider json, ?_⟩, ?_⟩
        · change ((runtime.createInfrastructure provider).map _).mapError _ = _
          rw [hjson]
          rfl
        · simp only [createConditions, List.forall_mem_cons]
          exact ⟨hfirst, hname, hsupported, hmain, hplaced, nofun⟩
      · refine .inr ⟨"provider", error, ?_, hfound,
          .tail hfirst (.tail hname (.tail hsupported (.tail hmain (.head hplaced))))⟩
        change ((runtime.createInfrastructure provider).map _).mapError _ = _
        rw [herror]
        rfl
    · rw [Runtime.checkMainWorker, if_neg hmain]
      exact .inr ⟨"provider", .noSingleMainWorker, rfl, rfl,
        .tail hfirst (.tail hname (.tail hsupported (.head hmain)))⟩

/-- Tenants and maintenance windows have no part in a failure. -/
theorem create_error_congr {settings : Settings} {auditLogs auditLogs' : AuditLogTable}
    {windows windows' : MaintenanceTable} {error : ConversionError}
    (h : run ⟨⟨settings, auditLogs, windows⟩, .create⟩ runtime = .error error) :
    run ⟨⟨settings, auditLogs', windows'⟩, .create⟩ runtime = .error error := by
  have hsame : kubernetesVersion ⟨⟨settings, auditLogs', windows'⟩, .create⟩ runtime =
      kubernetesVersion ⟨⟨settings, auditLogs, windows⟩, .create⟩ runtime := rfl
  by_cases hversion : kubernetesVersion ⟨⟨settings, auditLogs, windows⟩, .create⟩ runtime = ""
  · rw [run_of_version_eq_empty hversion] at h
    rwa [run_of_version_eq_empty (hsame.trans hversion)]
  have hversion' := hsame.trans_ne hversion
  by_cases hname : runtime.spec.shoot.name = ""
  · rw [run_of_name_eq_empty hversion hname] at h
    rwa [run_of_name_eq_empty hversion' hname]
  cases hprovider : runtime.hyperscaler with
  | error refused =>
    rw [run_of_hyperscaler_eq_error hversion hname hprovider] at h
    rwa [run_of_hyperscaler_eq_error hversion' hname hprovider]
  | ok provider =>
    rw [run_eq hversion hname hprovider] at h
    rw [run_eq hversion' hname hprovider]
    simp only [infrastructure] at h ⊢
    cases hdoc : runtime.checkMainWorker >>= fun _ => runtime.createInfrastructure provider with
    | error refused =>
      rw [hdoc] at h
      exact h
    | ok json =>
      rw [hdoc] at h
      cases h

/--
A conversion without an existing Shoot succeeds just when all conditions hold. Otherwise the
extender of the first that does not hold fails, and never for an entry that was not found.
-/
theorem create_succeeds_iff (setup : Setup) (runtime : Runtime) :
    ((∃ shoot, run ⟨setup, .create⟩ runtime = .ok shoot) ↔
      ∀ condition ∈ createConditions setup.settings runtime, condition.Holds) ∧
    (∀ error, run ⟨setup, .create⟩ runtime = .error error → error.isNotFound = false ∧
      ∃ extender source, error = .extender extender source ∧
        Condition.FirstUnmet (createConditions setup.settings runtime) extender) ∧
    ∀ auditLogs windows error, run ⟨setup, .create⟩ runtime = .error error ↔
      run ⟨⟨setup.settings, auditLogs, windows⟩, .create⟩ runtime = .error error := by
  refine ⟨?_, fun error herror => ?_, fun auditLogs windows error =>
    ⟨create_error_congr, create_error_congr⟩⟩
  · rcases create_outcome setup runtime with ⟨hshoot, hall⟩ | ⟨extender, source, herror, -, hunmet⟩
    · exact iff_of_true hshoot hall
    · refine iff_of_false ?_ hunmet.not_all
      rintro ⟨shoot, hshoot⟩
      rw [herror] at hshoot
      cases hshoot
  · rcases create_outcome setup runtime with ⟨⟨shoot, hshoot⟩, -⟩ | ⟨extender, source, h, hfound, hunmet⟩
    · rw [herror] at hshoot
      cases hshoot
    · obtain rfl := Except.error.inj (herror.symm.trans h)
      exact ⟨hfound, extender, source, rfl, hunmet⟩

open Lifecycle (sampleSetup sampleStep) in
/-- Two zones on AWS; on Azure both names mean the same number. -/
theorem create_succeeds_iff_sample :
    (∃ shoot, run ⟨sampleSetup, .create⟩ (sampleStep .aws "1.30.1" ["1", "01"]).runtime = .ok shoot) ∧
    ∃ error, run ⟨sampleSetup, .create⟩ (sampleStep .azure "1.30.1" ["1", "01"]).runtime = .error error ∧
      error.isNotFound = false ∧ ∃ extender source, error = .extender extender source ∧
        Condition.FirstUnmet (createConditions sampleSetup.settings
          (sampleStep .azure "1.30.1" ["1", "01"]).runtime) extender := by
  have hplaceable : (sampleStep .aws "1.30.1" ["1", "01"]).runtime.Placeable :=
    ⟨⟨_, rfl, by decide, by decide⟩, by decide, fun _ => by decide, nofun⟩
  have hall : ∀ condition ∈ createConditions sampleSetup.settings
      (sampleStep .aws "1.30.1" ["1", "01"]).runtime, condition.Holds := by
    simp only [createConditions, List.forall_mem_cons]
    exact ⟨.inl ⟨"1.30.1", rfl, by decide⟩, by decide, by decide, rfl, .inr hplaceable, nofun⟩
  have hrefused : run ⟨sampleSetup, .create⟩ (sampleStep .azure "1.30.1" ["1", "01"]).runtime =
      .error (.extender "provider" (.network (.duplicateZone "01"))) := by rfl
  exact ⟨(create_succeeds_iff sampleSetup _).1.2 hall, _, hrefused,
    (create_succeeds_iff sampleSetup _).2.1 _ hrefused⟩

end Conversion

end ShootPlan
