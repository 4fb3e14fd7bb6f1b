import ShootPlan.Proofs.InfrastructurePatch
import ShootPlan.Proofs.LifecycleRun
import ShootPlan.Proofs.PoolPatch
/-!
Zones over the life of a cluster. The document of a Shoot is one that this program has
written, its zones are few and apart, and every pool finds its zones in it. Patches keep
that, whatever the Runtimes ask for, and only ever append zones.
-/
namespace ShootPlan

open InfrastructureDocument (GoesByName)

/-- Every zone of every pool is a zone of the document, where zones go by their names. -/
def Shoot.PoolsPlaced (shoot : Shoot) (doc : InfrastructureDocument) : Prop :=
  GoesByName doc.provider →
    ∀ worker ∈ shoot.spec.provider.workers, ∀ zone ∈ worker.zones, zone ∈ doc.names

/-- The invariant of a life: the Shoot has this document, and it is in order. -/
structure Shoot.Zoned (shoot : Shoot) (doc : InfrastructureDocument) : Prop where
  written : shoot.spec.provider.infrastructureConfig = some doc.json
  allocated : doc.Allocated
  numbered : doc.Numbered
  placed : shoot.PoolsPlaced doc

theorem hyperscaler_of_type {runtime : Runtime} {provider : Hyperscaler}
    (h : runtime.spec.shoot.provider.type = provider.name) : runtime.hyperscaler = .ok provider := by
  rw [Runtime.hyperscaler, h, Hyperscaler.ofName?_name]

namespace Conversion

variable {setup : Setup} {runtime : Runtime} {provider : Hyperscaler} {shoot next : Shoot}
  {doc : InfrastructureDocument}

theorem zoned_of_create (htype : runtime.spec.shoot.provider.type = provider.name)
    (hnone : runtime.spec.shoot.provider.infrastructureConfig = none)
    (h : run ⟨setup, .create⟩ runtime = .ok shoot) :
    ∃ doc : InfrastructureDocument, doc.provider = provider ∧ shoot.Zoned doc := by
  obtain ⟨-, -, provider', json, hprovider, -, hjson, rfl⟩ := run_eq_ok_iff.1 h
  obtain rfl : provider = provider' := Except.ok.inj ((hyperscaler_of_type htype).symm.trans hprovider)
  have hnew : runtime.newInfrastructure provider (zonesOf runtime.spec.shoot.provider.allWorkers) =
      .ok json := by
    simpa only [infrastructure, Runtime.createInfrastructure, hnone] using hjson
  obtain ⟨doc, hdoc, rfl⟩ := newInfrastructure_eq_ok_iff.1 hnew
  obtain ⟨hallocated, hnumbered⟩ := InfrastructureDocument.allocated_of_create hdoc
  have hdocProvider := InfrastructureDocument.provider_of_create hdoc
  refine ⟨doc, hdocProvider, rfl, hallocated, hnumbered, fun hnamed worker hworker zone hzone => ?_⟩
  rw [hdocProvider] at hnamed
  rw [InfrastructureDocument.names_of_create hnamed hdoc, mem_zonesOf]
  obtain ⟨wanted, hwanted, rfl⟩ := List.mem_map.1 hworker
  exact ⟨wanted, hwanted, hzone⟩

theorem mem_zones_patch {prior : PriorProvider} {defaults : WorkerDefaults} {worker : Worker}
    {zone : String} (h : zone ∈ (prior.patch defaults provider worker).zones) :
    zone ∈ worker.zones ∨ ∃ existing ∈ prior.workers, zone ∈ existing.zones := by
  simp only [PriorProvider.patch] at h
  split at h
  · rename_i existing hexisting
    rcases mem_alignZones.1 h with hold | hnew
    · exact .inr ⟨existing, List.mem_of_find?_eq_some hexisting, hold⟩
    · exact .inl hnew
  · exact .inl h

theorem zones_subset_of_patch {prior : PriorProvider} {defaults : WorkerDefaults}
    {workers : List Worker} {names : List String}
    (hprior : ∀ worker ∈ prior.workers, ∀ zone ∈ worker.zones, zone ∈ names)
    (hasked : ∀ zone ∈ zonesOf workers, zone ∈ names) :
    ∀ worker ∈ workers.map (prior.patch defaults provider), ∀ zone ∈ worker.zones, zone ∈ names := by
  intro worker hworker zone hzone
  obtain ⟨wanted, hwanted, rfl⟩ := List.mem_map.1 hworker
  rcases mem_zones_patch hzone with hnew | ⟨existing, hexisting, hold⟩
  · exact hasked zone (mem_zonesOf.2 ⟨wanted, hwanted, hnew⟩)
  · exact hprior existing hexisting zone hold

/-- A patch keeps the zones in order and appends to their entries. -/
theorem zoned_of_patch (hprovider : doc.provider ≠ .openstack)
    (htype : runtime.spec.shoot.provider.type = doc.provider.name) (hshoot : shoot.Zoned doc)
    (h : run ⟨setup, .patch (.ofShoot shoot)⟩ runtime = .ok next) :
    ∃ grown : InfrastructureDocument, grown.provider = doc.provider ∧ next.Zoned grown ∧
      doc.json.zoneEntries <+: grown.json.zoneEntries := by
  obtain ⟨-, -, provider, json, hruntime, -, hjson, rfl⟩ := run_eq_ok_iff.1 h
  obtain rfl : doc.provider = provider :=
    Except.ok.inj ((hyperscaler_of_type htype).symm.trans hruntime)
  have hwritten : (ExistingShoot.ofShoot shoot).provider.infrastructureConfig = some doc.json :=
    hshoot.written
  rcases PriorProvider.infrastructure_eq_ok hjson with ⟨hnone, -⟩ | ⟨old, doc', hold, hdoc, hcases⟩
  · rw [hwritten] at hnone
    cases hnone
  obtain rfl : doc.json = old := Option.some.inj (hwritten.symm.trans hold)
  obtain rfl : doc = doc' := Except.ok.inj (doc.decode_json.symm.trans hdoc)
  rcases hcases with ⟨hserves, rfl⟩ | ⟨-, grown, rfl, hgrow⟩
  · refine ⟨doc, rfl, ⟨rfl, hshoot.allocated, hshoot.numbered, fun hnamed => ?_⟩, List.prefix_refl _⟩
    exact zones_subset_of_patch (hshoot.placed hnamed) fun _ hzone => hserves.mem_names hnamed hzone
  · obtain ⟨hallocated, hnumbered⟩ := hshoot.allocated.grow hshoot.numbered hgrow
    have hgrown := InfrastructureDocument.provider_of_grow hgrow
    refine ⟨grown, hgrown, ⟨rfl, hallocated, hnumbered, fun hnamed => ?_⟩,
      InfrastructureDocument.zoneEntries_prefix_of_grow hgrow⟩
    rw [hgrown] at hnamed
    rw [InfrastructureDocument.names_of_grow hnamed hgrow]
    refine zones_subset_of_patch (fun worker hworker zone hzone => ?_) fun zone hzone => ?_
    · exact List.mem_append_left _ (hshoot.placed hnamed worker hworker zone hzone)
    · rw [List.mem_append, ← PriorProvider.known_eq_names hprovider]
      exact PriorProvider.mem_known_or_added hzone

end Conversion

namespace Lifecycle

/--
Over a whole life the zones of a cluster stay in order, and entries of zones only ever come
to the end.
-/
theorem zones_stay_allocated {provider : Hyperscaler} {first : Step} {steps later : List Step}
    {created shoot last : Shoot} (hprovider : provider ≠ .openstack)
    (htypes : ∀ step ∈ first :: (steps ++ later),
      step.runtime.spec.shoot.provider.type = provider.name)
    (hnone : first.runtime.spec.shoot.provider.infrastructureConfig = none)
    (hcreated : convert none first = .ok created) (hshoot : run (some created) steps = some shoot)
    (hlast : run (some shoot) later = some last) :
    ∃ before json doc, shoot.spec.provider.infrastructureConfig = some before ∧
      last.spec.provider.infrastructureConfig = some json ∧
      InfrastructureDocument.decode provider json = .ok doc ∧ doc.Allocated ∧
      before.zoneEntries <+: json.zoneEntries ∧ last.PoolsPlaced doc := by
  have hfirst : ∃ doc : InfrastructureDocument, doc.provider = provider ∧ created.Zoned doc :=
    Conversion.zoned_of_create (htypes first List.mem_cons_self) hnone hcreated
  have hreached : ∃ doc : InfrastructureDocument, doc.provider = provider ∧ shoot.Zoned doc := by
    refine run_invariant
      (P := fun s => ∃ doc : InfrastructureDocument, doc.provider = provider ∧ s.Zoned doc)
      (fun step hstep s s' hs hconvert => ?_) hfirst hshoot
    obtain ⟨doc, rfl, hzoned⟩ := hs
    have htype := htypes step (List.mem_cons_of_mem _ (List.mem_append_left _ hstep))
    obtain ⟨grown, hgrown, hzoned', -⟩ := Conversion.zoned_of_patch hprovider htype hzoned hconvert
    exact ⟨grown, hgrown, hzoned'⟩
  obtain ⟨start, hstart, hzoned⟩ := hreached
  -- from here on the entries of this document are carried along
  have hkept : ∃ doc : InfrastructureDocument, doc.provider = provider ∧ last.Zoned doc ∧
      start.json.zoneEntries <+: doc.json.zoneEntries := by
    refine run_invariant
      (P := fun s => ∃ doc : InfrastructureDocument, doc.provider = provider ∧ s.Zoned doc ∧
        start.json.zoneEntries <+: doc.json.zoneEntries)
      (fun step hstep s s' hs hconvert => ?_) ⟨start, hstart, hzoned, List.prefix_refl _⟩ hlast
    obtain ⟨doc, rfl, hs, hentries⟩ := hs
    have htype := htypes step (List.mem_cons_of_mem _ (List.mem_append_right _ hstep))
    obtain ⟨grown, hgrown, hs', hmore⟩ := Conversion.zoned_of_patch hprovider htype hs hconvert
    exact ⟨grown, hgrown, hs', hentries.trans hmore⟩
  obtain ⟨doc, rfl, hlastZoned, hentries⟩ := hkept
  exact ⟨start.json, doc.json, doc, hzoned.written, hlastZoned.written, doc.decode_json,
    hlastZoned.allocated, hentries, hlastZoned.placed⟩

theorem zones_stay_allocated_sample :
    ∃ created last before json doc,
      convert none (sampleStep .aws "1.30.1" ["eu-1a"]) = .ok created ∧
      run (some created) [sampleStep .aws "1.30.1" ["eu-1b", "eu-1a"]] = some last ∧
      created.spec.provider.infrastructureConfig = some before ∧
      last.spec.provider.infrastructureConfig = some json ∧
      InfrastructureDocument.decode .aws json = .ok doc ∧ doc.Allocated ∧
      before.zoneEntries <+: json.zoneEntries ∧ last.PoolsPlaced doc := by
  obtain ⟨created, hcreated⟩ :
      ∃ created, convert none (sampleStep .aws "1.30.1" ["eu-1a"]) = .ok created := ⟨_, by rfl⟩
  obtain ⟨last, hlast⟩ :=
    exists_run_eq_some created [sampleStep .aws "1.30.1" ["eu-1b", "eu-1a"]]
  have htypes : ∀ step ∈ sampleStep .aws "1.30.1" ["eu-1a"] ::
      ([] ++ [sampleStep .aws "1.30.1" ["eu-1b", "eu-1a"]]),
      step.runtime.spec.shoot.provider.type = Hyperscaler.aws.name := by
    simp [sampleStep]
  obtain ⟨before, json, doc, h⟩ :=
    zones_stay_allocated (by decide) htypes rfl hcreated rfl hlast
  exact ⟨created, last, before, json, doc, hcreated, hlast, h⟩

end Lifecycle

end ShootPlan
