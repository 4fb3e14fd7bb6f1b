import ShootPlan.Proofs.DocumentJson
import ShootPlan.Proofs.DocumentRoundTrip
import ShootPlan.ProviderPatch
/-!
What a patch does with the infrastructure document: it is kept, or it grows by the zones that
the pools ask for and the document does not have.
-/
namespace ShootPlan

theorem mem_zonesOf {workers : List Worker} {zone : String} :
    zone ∈ zonesOf workers ↔ ∃ worker ∈ workers, zone ∈ worker.zones := by
  rw [zonesOf, List.mem_eraseDups, List.mem_flatMap]

/-- Which zones there are does not depend on the order of the pools. -/
theorem forall_mem_zonesOf_iff {workers others : List Worker} {P : String → Prop}
    (h : workers.Perm others) :
    (∀ zone ∈ zonesOf workers, P zone) ↔ ∀ worker ∈ others, ∀ zone ∈ worker.zones, P zone := by
  simp only [mem_zonesOf, h.mem_iff]
  constructor
  · intro hall worker hworker zone hzone
    exact hall zone ⟨worker, hworker, hzone⟩
  · rintro hall zone ⟨worker, hworker, hzone⟩
    exact hall worker hworker zone hzone

theorem newInfrastructure_eq_ok_iff {runtime : Runtime} {provider : Hyperscaler}
    {zones : List String} {json : Json} :
    runtime.newInfrastructure provider zones = .ok json ↔
      ∃ doc, InfrastructureDocument.create provider runtime.spec.shoot.networking.nodes zones
        runtime.dualStack = .ok doc ∧ json = doc.json := by
  unfold Runtime.newInfrastructure
  cases InfrastructureDocument.create provider runtime.spec.shoot.networking.nodes zones
      runtime.dualStack with
  | ok doc => simp [eq_comm]
  | error error => simp

namespace PriorProvider

variable {prior : PriorProvider} {runtime : Runtime} {provider : Hyperscaler}
  {workers : List Worker} {old json : Json} {doc grown : InfrastructureDocument}

def known (prior : PriorProvider) (doc : InfrastructureDocument) : List String :=
  doc.zoneNames?.getD (zonesOf prior.workers)

/-- The zones that pools ask for and the cluster does not have. -/
def added (prior : PriorProvider) (doc : InfrastructureDocument) (workers : List Worker) : List String :=
  (zonesOf workers).filter (· ∉ prior.known doc)

/-- The document serves the pools as it is. -/
def Serves (prior : PriorProvider) (doc : InfrastructureDocument) (workers : List Worker) : Prop :=
  (doc.provider = .azure ∧ prior.known doc = []) ∨ prior.added doc workers = [] ∨
    doc.provider = .openstack

theorem known_eq_names (h : doc.provider ≠ .openstack) : prior.known doc = doc.names := by
  cases doc with
  | openstack => exact absurd rfl h
  | aws => rfl
  | azure => rfl
  | alicloud => rfl

theorem mem_known_or_added {zone : String} (h : zone ∈ zonesOf workers) :
    zone ∈ prior.known doc ∨ zone ∈ prior.added doc workers := by
  by_cases hknown : zone ∈ prior.known doc
  · exact .inl hknown
  · exact .inr (List.mem_filter.2 ⟨h, decide_eq_true hknown⟩)

theorem added_eq (h : doc.provider ≠ .openstack) :
    prior.added doc workers = (zonesOf workers).filter (· ∉ doc.names) := by
  rw [added, known_eq_names h]

theorem added_eq_nil_iff (h : doc.provider ≠ .openstack) :
    prior.added doc workers = [] ↔ ∀ zone ∈ zonesOf workers, zone ∈ doc.names := by
  rw [added_eq h, List.filter_eq_nil_iff]
  simp only [decide_eq_true_eq, not_not]

theorem serves_iff (h : doc.provider ≠ .openstack) :
    prior.Serves doc workers ↔
      (∀ zone ∈ zonesOf workers, zone ∈ doc.names) ∨ (doc.provider = .azure ∧ doc.names = []) := by
  rw [Serves, added_eq_nil_iff h, known_eq_names h, or_iff_left h]
  exact or_comm

theorem Serves.mem_names (h : prior.Serves doc workers)
    (hnamed : InfrastructureDocument.GoesByName doc.provider) {zone : String}
    (hzone : zone ∈ zonesOf workers) : zone ∈ doc.names := by
  have hopenstack : doc.provider ≠ .openstack := by rcases hnamed with h | h <;> simp [h]
  have hazure : doc.provider ≠ .azure := by rcases hnamed with h | h <;> simp [h]
  rcases (serves_iff hopenstack).1 h with hall | ⟨heq, -⟩
  · exact hall zone hzone
  · exact absurd heq hazure

theorem infrastructure_eq (hold : prior.infrastructureConfig = some old)
    (hdoc : InfrastructureDocument.decode provider old = .ok doc) :
    prior.infrastructure runtime provider workers =
      if (provider = .azure ∧ prior.known doc = []) ∨ prior.added doc workers = [] ∨
        provider = .openstack then .ok old
      else growDocument doc runtime.spec.shoot.networking.nodes (prior.added doc workers) := by
  rw [infrastructure, infrastructure?, hold]
  simp only [hdoc]
  rfl

theorem infrastructure_of_serves (hold : prior.infrastructureConfig = some old)
    (hdoc : InfrastructureDocument.decode provider old = .ok doc) (h : prior.Serves doc workers) :
    prior.infrastructure runtime provider workers = .ok old := by
  rw [infrastructure_eq hold hdoc]
  rw [Serves, InfrastructureDocument.provider_of_decode hdoc] at h
  rw [if_pos h]

theorem growDocument_eq_ok_iff {network : String} {zones : List String} :
    growDocument doc network zones = .ok json ↔
      ∃ grown, doc.grow network zones = .ok grown ∧ json = grown.json := by
  unfold growDocument
  cases doc.grow network zones with
  | ok grown => simp [eq_comm]
  | error error => cases error <;> simp

/-- The document is new, the one that was there, or that one grown. -/
theorem infrastructure_eq_ok (h : prior.infrastructure runtime provider workers = .ok json) :
    (prior.infrastructureConfig = none ∧ provider = .openstack ∧
      runtime.newInfrastructure provider (zonesOf workers) = .ok json) ∨
    ∃ old doc, prior.infrastructureConfig = some old ∧
      InfrastructureDocument.decode provider old = .ok doc ∧
      ((prior.Serves doc workers ∧ json = old) ∨
        (¬prior.Serves doc workers ∧ ∃ grown, json = grown.json ∧
          doc.grow runtime.spec.shoot.networking.nodes (prior.added doc workers) = .ok grown)) := by
  cases hold : prior.infrastructureConfig with
  | none =>
    left
    rw [infrastructure, infrastructure?, hold] at h
    simp only at h
    split_ifs at h with hopenstack
    · exact ⟨rfl, hopenstack, h⟩
    · cases h
  | some old =>
    right
    cases hdoc : InfrastructureDocument.decode provider old with
    | error error =>
      rw [infrastructure, infrastructure?, hold] at h
      simp only [hdoc] at h
      cases h
    | ok doc =>
      refine ⟨old, doc, rfl, hdoc, ?_⟩
      rw [infrastructure_eq hold hdoc, ← InfrastructureDocument.provider_of_decode hdoc] at h
      split_ifs at h with hserves
      · exact .inl ⟨hserves, (Except.ok.inj h).symm⟩
      · obtain ⟨grown, hgrow, hjson⟩ := growDocument_eq_ok_iff.1 h
        exact .inr ⟨hserves, grown, hjson, hgrow⟩

end PriorProvider

end ShootPlan
