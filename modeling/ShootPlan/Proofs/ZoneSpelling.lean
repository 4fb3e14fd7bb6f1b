import ShootPlan.Proofs.Convergence
/-!
Spellings of zones on Azure. A new cluster goes by the numbers that its zone names mean, however
they are spelled. A patch looks for the names themselves among the numbers of the document. In
plain decimal both are the same; a zone in any other spelling counts as an added one there, and
is refused because the cluster has its number.
-/
namespace ShootPlan

namespace AzureNetwork.Infrastructure

variable {doc : Infrastructure} {network : String} {wanted : List String}

theorem numbers_of_create (h : create network wanted = .ok doc) :
    doc.numbers = wanted.filterMap zoneNumber? := by
  simp only [create, Outcome.bind_eq_ok_iff] at h
  obtain ⟨zones, hzones, h⟩ := h
  obtain ⟨hnumbers, -⟩ := layout_eq_ok hzones
  rw [← hnumbers]
  split_ifs at h with hempty
  · obtain rfl := Outcome.pure_eq_ok_iff.1 h
    rw [List.isEmpty_iff.1 hempty]
    rfl
  · obtain rfl := Outcome.pure_eq_ok_iff.1 h
    rfl

/-- A document that stays or grows for the names it was made for was made for plain ones. -/
theorem plain_of_create (h : create network wanted = .ok doc)
    (hasked : doc.zoneNames = [] ∨ wanted.filter (· ∉ doc.zoneNames) = [] ∨
      ∃ grown, doc.grow network (wanted.filter (· ∉ doc.zoneNames)) = .ok grown) :
    ∀ name ∈ wanted, Plain name := by
  intro name hname n hnumber
  have hmem : n ∈ doc.numbers := by
    rw [numbers_of_create h]
    exact List.mem_filterMap.2 ⟨name, hname, hnumber⟩
  by_cases hknown : name ∈ doc.zoneNames
  · rw [zoneNames_eq_map] at hknown
    obtain ⟨m, -, rfl⟩ := List.mem_map.1 hknown
    rw [(zoneNumber?_toString_iff.1 hnumber).1]
  have hadded : name ∈ wanted.filter (· ∉ doc.zoneNames) :=
    List.mem_filter.2 ⟨hname, decide_eq_true hknown⟩
  rcases hasked with hnil | hnil | ⟨grown, hgrow⟩
  · rw [zoneNames_eq_map, List.map_eq_nil_iff] at hnil
    exact absurd hmem (hnil ▸ List.not_mem_nil)
  · exact absurd hadded (hnil ▸ List.not_mem_nil)
  · exact absurd hmem (notMem_numbers_of_grow hgrow (List.mem_filterMap.2 ⟨name, hadded, hnumber⟩))

end AzureNetwork.Infrastructure

namespace PriorProvider

variable {prior : PriorProvider} {runtime : Runtime} {workers : List Worker} {json : Json}
  {doc : InfrastructureDocument} {dualStack : Bool}

/-- Zones in plain decimal find themselves in the document; any others stop the patch. -/
theorem infrastructure_eq_ok_iff_plain (hprior : prior.infrastructureConfig = some doc.json)
    (h : InfrastructureDocument.create .azure runtime.spec.shoot.networking.nodes (zonesOf workers)
      dualStack = .ok doc) :
    prior.infrastructure runtime .azure workers = .ok json ↔
      json = doc.json ∧ ∀ zone ∈ zonesOf workers, AzureNetwork.Plain zone := by
  have hprovider := InfrastructureDocument.provider_of_create h
  have hkept (hplain : ∀ zone ∈ zonesOf workers, AzureNetwork.Plain zone) :
      prior.infrastructure runtime .azure workers = .ok doc.json :=
    hprovider ▸ infrastructure_of_settles hprior
      (InfrastructureDocument.settles_of_create (fun _ => hplain) h)
  constructor
  · intro hjson
    have hplain : ∀ zone ∈ zonesOf workers, AzureNetwork.Plain zone := by
      obtain ⟨azure, hazure, rfl⟩ := Outcome.map_eq_ok_iff.1 h
      refine AzureNetwork.Infrastructure.plain_of_create hazure ?_
      have hopenstack : (InfrastructureDocument.azure azure).provider ≠ .openstack := nofun
      rcases infrastructure_eq_ok hjson with ⟨hnone, -⟩ | ⟨old, doc, hold, hdoc, hcases⟩
      · rw [hprior] at hnone
        cases hnone
      obtain rfl := Option.some.inj (hprior.symm.trans hold)
      obtain rfl := Except.ok.inj ((InfrastructureDocument.decode_json (.azure azure)).symm.trans hdoc)
      rcases hcases with ⟨⟨-, hnil⟩ | hnil | hserves, -⟩ | ⟨-, grown, -, hgrow⟩
      · rw [known_eq_names hopenstack] at hnil
        exact .inl hnil
      · rw [added_eq hopenstack] at hnil
        exact .inr (.inl hnil)
      · exact absurd hserves hopenstack
      · rw [added_eq hopenstack] at hgrow
        obtain ⟨grown, hgrow, -⟩ := Outcome.map_eq_ok_iff.1 hgrow
        exact .inr (.inr ⟨grown, hgrow⟩)
    exact ⟨Except.ok.inj (hjson.symm.trans (hkept hplain)), hplain⟩
  · rintro ⟨rfl, hplain⟩
    exact hkept hplain

end PriorProvider

namespace Conversion

variable {setup : Setup} {c : Conversion} {runtime : Runtime} {provider : Hyperscaler}
  {json : Json} {shoot next : Shoot}

/-- Over its own Shoot a conversion can only fail for the infrastructure document. -/
theorem run_again_eq (hnames : (runtime.spec.shoot.provider.allWorkers.map Worker.name).Nodup)
    (hprovider : runtime.hyperscaler = .ok provider)
    (h : c.run runtime = .ok (c.outcome runtime provider json)) :
    (c.again (c.outcome runtime provider json)).run runtime =
      (((ExistingShoot.ofShoot (c.outcome runtime provider json)).provider.infrastructure runtime
          provider (c.ordered runtime)).map
        ((c.again (c.outcome runtime provider json)).outcome runtime provider)).mapError
          (.extender "provider") := by
  obtain ⟨hversion, hname, -, -, -, hmain, -⟩ := run_eq_ok_iff.1 h
  have hordered : (c.again (c.outcome runtime provider json)).ordered runtime = c.ordered runtime :=
    ordered_again hnames
  rw [run_eq (by rwa [kubernetesVersion_again c runtime provider json hversion]) hname hprovider,
    hmain, ← hordered]
  rfl

/--
On Azure the Runtime that a Shoot was created from can be converted again just when all names
that mean zones are in plain decimal. Then nothing changes.
-/
theorem azure_repeats_iff_plain (hruntime : runtime.hyperscaler = .ok .azure)
    (hnames : (runtime.spec.shoot.provider.allWorkers.map Worker.name).Nodup)
    (hnone : runtime.spec.shoot.provider.infrastructureConfig = none)
    (h : run ⟨setup, .create⟩ runtime = .ok shoot) :
    run ⟨setup, .patch (.ofShoot shoot)⟩ runtime = .ok next ↔
      next = shoot ∧ ∀ worker ∈ runtime.spec.shoot.provider.allWorkers, ∀ zone ∈ worker.zones,
        AzureNetwork.Plain zone := by
  obtain ⟨hversion, -, provider, json, hprovider, -, hjson, rfl⟩ := run_eq_ok_iff.1 h
  obtain rfl := Except.ok.inj (hruntime.symm.trans hprovider)
  simp only [infrastructure, Runtime.createInfrastructure, hnone] at hjson
  obtain ⟨doc, hdoc, rfl⟩ := newInfrastructure_eq_ok_iff.1 hjson
  have hsame : (again ⟨setup, .create⟩ (outcome ⟨setup, .create⟩ runtime .azure doc.json)).outcome
      runtime .azure doc.json = outcome ⟨setup, .create⟩ runtime .azure doc.json :=
    outcome_again hnames hversion
  rw [← forall_mem_zonesOf_iff (.refl _)]
  change (again ⟨setup, .create⟩ _).run runtime = _ ↔ _
  rw [run_again_eq hnames hprovider h, Outcome.mapError_eq_ok_iff, Outcome.map_eq_ok_iff]
  constructor
  · rintro ⟨new, hnew, rfl⟩
    obtain ⟨rfl, hplain⟩ := (PriorProvider.infrastructure_eq_ok_iff_plain rfl hdoc).1 hnew
    exact ⟨hsame, hplain⟩
  · rintro ⟨rfl, hplain⟩
    exact ⟨doc.json, (PriorProvider.infrastructure_eq_ok_iff_plain rfl hdoc).2 ⟨rfl, hplain⟩, hsame⟩

theorem azure_repeats_iff_plain_sample : ∃ shoot,
    run ⟨Lifecycle.sampleSetup, .create⟩ (Lifecycle.sampleStep .azure "1.30.1" ["+2", "eu"]).runtime =
      .ok shoot ∧
    ∀ next, run ⟨Lifecycle.sampleSetup, .patch (.ofShoot shoot)⟩
        (Lifecycle.sampleStep .azure "1.30.1" ["+2", "eu"]).runtime = .ok next ↔
      next = shoot ∧
        ∀ worker ∈ (Lifecycle.sampleStep .azure "1.30.1" ["+2", "eu"]).runtime.spec.shoot.provider.allWorkers,
          ∀ zone ∈ worker.zones, AzureNetwork.Plain zone := by
  obtain ⟨shoot, hshoot⟩ : ∃ shoot, run ⟨Lifecycle.sampleSetup, .create⟩
      (Lifecycle.sampleStep .azure "1.30.1" ["+2", "eu"]).runtime = .ok shoot := ⟨_, by rfl⟩
  exact ⟨shoot, hshoot, fun _ => azure_repeats_iff_plain rfl (by decide) rfl hshoot⟩

/-! A cluster of one zone, whose number is asked for with a leading zero. -/

def respelledRuntime : Runtime := (Lifecycle.sampleStep .azure "1.30.1" ["01"]).runtime

def respelledDocument : InfrastructureDocument := .azure {
  networks := {
    vnet := { cidr := some "10.250.0.0/22" }
    zones := [⟨1, "10.250.0.0/25", some .standard⟩] }
  zoned := true }

/-- What the cluster is when it is new. -/
def respelledShoot : Shoot :=
  outcome ⟨Lifecycle.sampleSetup, .create⟩ respelledRuntime .azure respelledDocument.json

theorem infrastructure_respelled :
    (ExistingShoot.ofShoot respelledShoot).provider.infrastructure respelledRuntime .azure
      (ordered ⟨Lifecycle.sampleSetup, .create⟩ respelledRuntime) =
        .error (.network (.duplicateZone "01")) := by
  decide +kernel

/-- The cluster can be created, and the same request is refused from then on. -/
theorem respelled_zone_refused :
    respelledRuntime.hyperscaler = .ok .azure ∧
      (respelledRuntime.spec.shoot.provider.allWorkers.map Worker.name).Nodup ∧
      respelledRuntime.spec.shoot.provider.infrastructureConfig = none ∧
      run ⟨Lifecycle.sampleSetup, .create⟩ respelledRuntime = .ok respelledShoot ∧
      run ⟨Lifecycle.sampleSetup, .patch (.ofShoot respelledShoot)⟩ respelledRuntime =
        .error (.extender "provider" (.network (.duplicateZone "01"))) := by
  have hcreated : run ⟨Lifecycle.sampleSetup, .create⟩ respelledRuntime = .ok respelledShoot :=
    run_eq_ok_iff.2 ⟨by decide, by decide, .azure, _, rfl, rfl, by decide +kernel, rfl⟩
  refine ⟨rfl, by decide, rfl, hcreated, (run_again_eq (by decide) rfl hcreated).trans ?_⟩
  rw [← respelledShoot, infrastructure_respelled]
  rfl

end Conversion

end ShootPlan
