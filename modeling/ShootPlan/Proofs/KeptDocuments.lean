import ShootPlan.Proofs.AppendedZones
/-!
What a patch leaves as it is. The control plane document always stays, and the infrastructure
document stays unless pools ask for zones that it lacks. Both stay as the values they are, not
only as what this program reads from them, and whatever else the Runtime says.
-/
namespace ShootPlan

/--
A patch for these pools adds no zones: the document tells of none, or of all that the pools ask
for.
-/
def InfrastructureDocument.Suffices (doc : InfrastructureDocument) (workers : List Worker) : Prop :=
  doc.provider = .openstack ∨ (doc.provider = .azure ∧ doc.names = []) ∨
    ∀ worker ∈ workers, ∀ zone ∈ worker.zones, zone ∈ doc.names

theorem PriorProvider.serves_iff_suffices {prior : PriorProvider} {doc : InfrastructureDocument}
    {workers asked : List Worker} (h : workers.Perm asked) :
    prior.Serves doc workers ↔ doc.Suffices asked := by
  by_cases hopenstack : doc.provider = .openstack
  · exact iff_of_true (.inr (.inr hopenstack)) (.inl hopenstack)
  · rw [serves_iff hopenstack, forall_mem_zonesOf_iff h, InfrastructureDocument.Suffices,
      or_iff_right hopenstack]
    exact or_comm

theorem PriorProvider.mem_added_iff {prior : PriorProvider} {doc : InfrastructureDocument}
    {workers asked : List Worker} (h : workers.Perm asked) (hlacks : ¬doc.Suffices asked)
    {zone : String} :
    zone ∈ prior.added doc workers ↔ zone ∉ doc.names ∧ ∃ worker ∈ asked, zone ∈ worker.zones := by
  rw [added_eq fun hopenstack => hlacks (.inl hopenstack), List.mem_filter, decide_eq_true_eq,
    mem_zonesOf, and_comm]
  simp only [h.mem_iff]

namespace Conversion

variable {setup : Setup} {existing : ExistingShoot} {runtime : Runtime} {shoot : Shoot}
  {old control : Json}

/--
A patch keeps the control plane document, and as long as the zones suffice the infrastructure
document. Otherwise that one grows by the zones that it lacks.
-/
theorem documents_kept (hold : existing.infrastructureConfig = some old)
    (hcontrol : existing.controlPlaneConfig = some control)
    (h : run ⟨setup, .patch existing⟩ runtime = .ok shoot) :
    shoot.spec.provider.controlPlaneConfig = some control ∧
      ∃ provider doc, runtime.hyperscaler = .ok provider ∧
        InfrastructureDocument.decode provider old = .ok doc ∧
        (doc.Suffices runtime.spec.shoot.provider.allWorkers →
          shoot.spec.provider.infrastructureConfig = some old) ∧
        (¬doc.Suffices runtime.spec.shoot.provider.allWorkers → ∃ lacking grown,
          (∀ zone, zone ∈ lacking ↔ zone ∉ doc.names ∧
            ∃ worker ∈ runtime.spec.shoot.provider.allWorkers, zone ∈ worker.zones) ∧
          doc.grow runtime.spec.shoot.networking.nodes lacking = .ok grown ∧
          shoot.spec.provider.infrastructureConfig = some grown.json) := by
  obtain ⟨-, -, provider, json, hprovider, -, hjson, rfl⟩ := run_eq_ok_iff.1 h
  have hperm := ordered_perm ⟨setup, .patch existing⟩ runtime
  have hkept : controlPlane ⟨setup, .patch existing⟩ runtime provider = control := by
    simp only [controlPlane, PriorProvider.controlPlane, ExistingShoot.provider, hcontrol]
    rfl
  refine ⟨congrArg some hkept, provider, ?_⟩
  rcases PriorProvider.infrastructure_eq_ok hjson with ⟨hnone, -⟩ | ⟨json', doc, hjson', hdoc, hcases⟩
  · exact absurd (hold.symm.trans hnone) nofun
  obtain rfl : old = json' := Option.some.inj (hold.symm.trans hjson')
  rw [PriorProvider.serves_iff_suffices hperm] at hcases
  refine ⟨doc, hprovider, hdoc, fun hsuffices => ?_, fun hlacks => ?_⟩
  · rcases hcases with ⟨-, rfl⟩ | ⟨hlacks, -⟩
    · rfl
    · exact absurd hsuffices hlacks
  · rcases hcases with ⟨hsuffices, -⟩ | ⟨-, grown, rfl, hgrow⟩
    · exact absurd hsuffices hlacks
    · exact ⟨_, grown, fun _ => PriorProvider.mem_added_iff hperm hlacks, hgrow, rfl⟩

/-! The cluster of one zone again, with a control plane document that nobody can read. -/

def keptExisting : ExistingShoot := { sampleExisting with controlPlaneConfig := some (.array [.null]) }

/-- The Runtime asks for another network by now, and supplies documents of its own. -/
def keptRuntime : Runtime :=
  let step := Lifecycle.sampleStep .aws "1.30.1" ["eu-1a"]
  let wanted := step.runtime.spec.shoot
  let shoot := { wanted with
    networking := { wanted.networking with nodes := "10.180.0.0/16", dualStack := some true }
    provider := { wanted.provider with
      infrastructureConfig := some (.bool true), controlPlaneConfig := some (.bool true) } }
  { step.runtime with spec := { step.runtime.spec with shoot } }

theorem documents_kept_sample : ∃ shoot,
    keptExisting.infrastructureConfig = some sampleJson ∧
      keptExisting.controlPlaneConfig = some (.array [.null]) ∧
      run ⟨Lifecycle.sampleSetup, .patch keptExisting⟩ keptRuntime = .ok shoot ∧
      shoot.spec.provider.controlPlaneConfig = some (.array [.null]) ∧
      shoot.spec.provider.infrastructureConfig = some sampleJson := by
  have hjson : infrastructure ⟨Lifecycle.sampleSetup, .patch keptExisting⟩ keptRuntime .aws =
      .ok sampleJson := by
    rw [infrastructure_of_one_pool _ _ rfl]
    decide +kernel
  obtain ⟨shoot, hshoot⟩ : ∃ shoot,
      run ⟨Lifecycle.sampleSetup, .patch keptExisting⟩ keptRuntime = .ok shoot :=
    ⟨_, run_eq_ok_iff.2 ⟨by decide, by decide, .aws, _, rfl, rfl, hjson, rfl⟩⟩
  have hdecoded : InfrastructureDocument.decode .aws sampleJson = .ok sampleKnown := by decide +kernel
  obtain ⟨hcontrol, provider, doc, hprovider, hdoc, hkept, -⟩ := documents_kept rfl rfl hshoot
  obtain rfl : .aws = provider := Except.ok.inj hprovider
  obtain rfl : sampleKnown = doc := Except.ok.inj (hdecoded.symm.trans hdoc)
  exact ⟨shoot, rfl, rfl, hshoot, hcontrol, hkept (.inr (.inr (by decide)))⟩

end Conversion

end ShootPlan
