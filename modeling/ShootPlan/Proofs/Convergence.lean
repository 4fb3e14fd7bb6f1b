import ShootPlan.Proofs.ExtensionList
import ShootPlan.Proofs.InfrastructurePatch
import ShootPlan.Proofs.LifecycleRun
import ShootPlan.Proofs.PoolPatch
import ShootPlan.Proofs.Regrowth
/-!
Convergence. A patch with the Runtime that a Shoot was converted from finds everything in
place: whatever the Shoot was made over, converting again gives the same Shoot.
-/
namespace ShootPlan

theorem Extender.chosenVersion_again {standard : String} {current requested : Option String}
    (h : chosenVersion standard current requested ≠ "") :
    chosenVersion standard (some (chosenVersion standard current requested)) requested =
      chosenVersion standard current requested := by
  have hkept : (some (chosenVersion standard current requested)).filter (· ≠ "") =
      some (chosenVersion standard current requested) := by
    simp [Option.filter, h]
  conv_lhs => rw [chosenVersion]
  simp only [hkept]
  split_ifs with hgreater
  · rfl
  · -- the version that was chosen is not the greater one, so it is the one asked for
    unfold chosenVersion at hgreater ⊢
    cases hcurrent : current.filter (· ≠ "") with
    | none => rfl
    | some current =>
      simp only [hcurrent] at hgreater ⊢
      split_ifs with horder
      · rw [if_pos horder] at hgreater
        exact absurd horder hgreater
      · rfl

namespace PriorProvider

variable {prior next : PriorProvider} {runtime : Runtime} {provider : Hyperscaler}
  {workers : List Worker} {json : Json} {doc : InfrastructureDocument}

/-- Only on OpenStack the pools of a cluster tell which zones it has. -/
theorem Serves.congr (h : prior.Serves doc workers) : next.Serves doc workers := by
  by_cases hopenstack : doc.provider = .openstack
  · exact .inr (.inr hopenstack)
  · rw [serves_iff hopenstack] at h ⊢
    exact h

theorem infrastructure_of_settles (hjson : prior.infrastructureConfig = some doc.json)
    (h : doc.Settles runtime.spec.shoot.networking.nodes (zonesOf workers)) :
    prior.infrastructure runtime doc.provider workers = .ok doc.json := by
  by_cases hserves : prior.Serves doc workers
  · exact infrastructure_of_serves hjson doc.decode_json hserves
  have hopenstack : doc.provider ≠ .openstack := fun heq => hserves (.inr (.inr heq))
  rw [Serves, added_eq hopenstack, known_eq_names hopenstack] at hserves
  rw [infrastructure_eq hjson doc.decode_json, added_eq hopenstack, known_eq_names hopenstack,
    if_neg hserves, growDocument_eq_ok_iff]
  rcases h with h | h | h | h
  · exact absurd (.inl h) hserves
  · exact absurd (.inr (.inl h)) hserves
  · exact absurd h hopenstack
  · exact ⟨doc, h, rfl⟩

end PriorProvider

namespace Conversion

variable {c : Conversion} {runtime : Runtime} {provider : Hyperscaler} {json : Json} {shoot : Shoot}

/-- The same conversion over a Shoot. -/
def again (c : Conversion) (shoot : Shoot) : Conversion := ⟨c.setup, .patch (.ofShoot shoot)⟩

section

variable (c runtime provider json)

theorem kubernetesVersion_again (h : c.kubernetesVersion runtime ≠ "") :
    (c.again (c.outcome runtime provider json)).kubernetesVersion runtime =
      c.kubernetesVersion runtime :=
  Extender.chosenVersion_again h

theorem extensions_again :
    (c.again (c.outcome runtime provider json)).extensions runtime = c.extensions runtime := by
  change ((c.renewed runtime).foldl KeyedList.upsert (KeyedList.ofList (c.extensions runtime))).items = _
  rw [extensions, KeyedList.ofList_items,
    KeyedList.foldl_upsert_foldl_upsert _ (nodup_renewed c runtime)]

theorem resources_again :
    (c.again (c.outcome runtime provider json)).resources runtime = c.resources runtime := by
  have htenant : (c.again (c.outcome runtime provider json)).tenant? runtime = c.tenant? runtime := rfl
  have hprior : (c.again (c.outcome runtime provider json)).priorResources = c.resources runtime := rfl
  rw [resources, htenant, hprior]
  cases h : c.tenant? runtime with
  | none => rfl
  | some tenant =>
    simp only [resources, h]
    rw [KeyedList.ofList_items, KeyedList.upsert_of_mem (KeyedList.mem_upsert_self _ _)]

theorem auditConfig_again :
    (c.again (c.outcome runtime provider json)).auditConfig runtime = c.auditConfig runtime := by
  have htenant : (c.again (c.outcome runtime provider json)).tenant? runtime = c.tenant? runtime := rfl
  rw [auditConfig, htenant]
  cases h : c.tenant? runtime with
  | none => rfl
  | some tenant =>
    simp only [auditConfig, h]
    rfl

theorem name_pool (worker : Worker) : (c.pool provider worker).name = worker.name := by
  unfold pool
  cases c.mode <;> rfl

end

section

variable (hnames : (runtime.spec.shoot.provider.allWorkers.map Worker.name).Nodup)

include hnames

theorem nodup_names_ordered : ((c.ordered runtime).map Worker.name).Nodup :=
  ((c.ordered_perm runtime).map Worker.name).nodup_iff.2 hnames

theorem ordered_again :
    (c.again (c.outcome runtime provider json)).ordered runtime = c.ordered runtime := by
  refine PriorProvider.ordered_of_perm ?_ (nodup_names_ordered hnames) (c.ordered_perm runtime)
  change ((c.ordered runtime).map (c.pool provider)).map Worker.name = _
  rw [List.map_map]
  exact List.map_congr_left fun worker _ => c.name_pool provider worker

theorem pool_again {worker : Worker} (h : worker ∈ c.ordered runtime) :
    (c.again (c.outcome runtime provider json)).pool provider worker = c.pool provider worker := by
  have hworkers : (ExistingShoot.ofShoot (c.outcome runtime provider json)).provider.workers =
      (c.ordered runtime).map (c.pool provider) := rfl
  have hnodup : ((ExistingShoot.ofShoot (c.outcome runtime provider json)).provider.workers.map
      Worker.name).Nodup := by
    have hname : Worker.name ∘ c.pool provider = Worker.name := funext (c.name_pool provider)
    rw [hworkers, List.map_map, hname]
    exact nodup_names_ordered hnames
  have hfound : (ExistingShoot.ofShoot (c.outcome runtime provider json)).provider.worker?
      worker.name = some (c.pool provider worker) := by
    rw [← c.name_pool provider worker]
    refine PriorProvider.worker?_of_mem hnodup ?_
    rw [hworkers]
    exact List.mem_map_of_mem h
  obtain ⟨setup, mode⟩ := c
  cases mode with
  | create => exact PriorProvider.patch_of_create hfound
  | patch existing => exact PriorProvider.patch_of_patch hfound

theorem block_again :
    (c.again (c.outcome runtime provider json)).block runtime provider json =
      c.block runtime provider json := by
  have hpools : (c.ordered runtime).map ((c.again (c.outcome runtime provider json)).pool provider) =
      (c.ordered runtime).map (c.pool provider) :=
    List.map_congr_left fun _ hworker => pool_again hnames hworker
  rw [block, ordered_again hnames, hpools]
  rfl

/-- Every part of the Shoot is what it was. -/
theorem outcome_again (hversion : c.kubernetesVersion runtime ≠ "") :
    (c.again (c.outcome runtime provider json)).outcome runtime provider json =
      c.outcome runtime provider json := by
  have hserver : (c.again (c.outcome runtime provider json)).apiServer runtime =
      c.apiServer runtime := by
    rw [apiServer, auditConfig_again]
    rfl
  rw [outcome, kubernetesVersion_again c runtime provider json hversion, hserver, extensions_again,
    resources_again, block_again hnames]
  rfl

end

theorem plain_of_mem_zonesOf
    (hplain : ∀ worker ∈ runtime.spec.shoot.provider.allWorkers, ∀ zone ∈ worker.zones,
      AzureNetwork.Plain zone) :
    ∀ zone ∈ zonesOf (c.ordered runtime), AzureNetwork.Plain zone :=
  (forall_mem_zonesOf_iff (c.ordered_perm runtime)).2 hplain

/-- The document of a Shoot has what was asked for, or else the Shoot could not have it. -/
theorem infrastructure_fixed {prior : PriorProvider}
    (hplain : provider = .azure → ∀ zone ∈ zonesOf (c.ordered runtime), AzureNetwork.Plain zone)
    (hnone : c.mode = .create → runtime.spec.shoot.provider.infrastructureConfig = none)
    (h : c.infrastructure runtime provider = .ok json)
    (hprior : prior.infrastructureConfig = some json) :
    prior.infrastructure runtime provider (c.ordered runtime) = .ok json := by
  have hnew (hnew : runtime.newInfrastructure provider (zonesOf (c.ordered runtime)) = .ok json) :
      prior.infrastructure runtime provider (c.ordered runtime) = .ok json := by
    obtain ⟨doc, hdoc, rfl⟩ := newInfrastructure_eq_ok_iff.1 hnew
    rw [← InfrastructureDocument.provider_of_create hdoc]
    exact PriorProvider.infrastructure_of_settles hprior
      (InfrastructureDocument.settles_of_create hplain hdoc)
  obtain ⟨setup, mode⟩ := c
  cases mode with
  | create =>
    simp only [infrastructure, Runtime.createInfrastructure, hnone rfl] at h
    exact hnew h
  | patch existing =>
    rcases PriorProvider.infrastructure_eq_ok h with ⟨-, -, hcreated⟩ | ⟨old, doc, -, hdoc, hcases⟩
    · exact hnew hcreated
    rcases hcases with ⟨hserves, rfl⟩ | ⟨hserves, grown, rfl, hgrow⟩
    · exact PriorProvider.infrastructure_of_serves hprior hdoc hserves.congr
    · have hopenstack : doc.provider ≠ .openstack := fun heq => hserves (.inr (.inr heq))
      have hprovider := InfrastructureDocument.provider_of_decode hdoc
      rw [← hprovider, ← InfrastructureDocument.provider_of_grow hgrow]
      rw [PriorProvider.added_eq hopenstack] at hgrow
      exact PriorProvider.infrastructure_of_settles hprior
        (InfrastructureDocument.settles_of_grow (fun hazure => hplain (hprovider ▸ hazure)) hgrow)

/-- Converting again over the Shoot of a conversion gives that Shoot. -/
theorem converges (hnames : (runtime.spec.shoot.provider.allWorkers.map Worker.name).Nodup)
    (hplain : runtime.hyperscaler = .ok .azure →
      ∀ worker ∈ runtime.spec.shoot.provider.allWorkers, ∀ zone ∈ worker.zones, AzureNetwork.Plain zone)
    (hnone : c.mode = .create → runtime.spec.shoot.provider.infrastructureConfig = none)
    (h : c.run runtime = .ok shoot) : (c.again shoot).run runtime = .ok shoot := by
  obtain ⟨hversion, hname, provider, json, hprovider, hmain, hjson, rfl⟩ := run_eq_ok_iff.1 h
  refine run_eq_ok_iff.2 ⟨?_, hname, provider, json, hprovider, hmain, ?_, ?_⟩
  · rw [kubernetesVersion_again c runtime provider json hversion]
    exact hversion
  · have hplain' : provider = .azure →
        ∀ zone ∈ zonesOf (c.ordered runtime), AzureNetwork.Plain zone :=
      fun hazure => plain_of_mem_zonesOf (hplain (hazure ▸ hprovider))
    rw [again, infrastructure]
    simp only
    rw [← again, ordered_again hnames]
    exact infrastructure_fixed hplain' hnone hjson rfl
  · exact (outcome_again hnames hversion).symm

theorem converges_sample : ∃ shoot,
    run ⟨Lifecycle.sampleSetup, .create⟩ (Lifecycle.sampleStep .azure "1.30.1" ["2", "eu"]).runtime =
      .ok shoot ∧
    (again ⟨Lifecycle.sampleSetup, .create⟩ shoot).run
      (Lifecycle.sampleStep .azure "1.30.1" ["2", "eu"]).runtime = .ok shoot := by
  obtain ⟨shoot, hshoot⟩ : ∃ shoot, run ⟨Lifecycle.sampleSetup, .create⟩
      (Lifecycle.sampleStep .azure "1.30.1" ["2", "eu"]).runtime = .ok shoot := ⟨_, by rfl⟩
  have hplain : ∀ zone ∈ ["2", "eu"], AzureNetwork.Plain zone := by
    intro zone hzone n hn
    rcases List.mem_pair.1 hzone with rfl | rfl
    · have hnumber : AzureNetwork.zoneNumber? "2" = some 2 := by decide
      obtain rfl : 2 = n := Option.some.inj (hnumber.symm.trans hn)
      decide
    · have hnumber : AzureNetwork.zoneNumber? "eu" = none := by decide
      rw [hnumber] at hn
      cases hn
  refine ⟨shoot, hshoot, converges (by decide) (fun _ worker hworker => ?_) (fun _ => rfl) hshoot⟩
  obtain rfl := List.mem_singleton.1 hworker
  exact hplain

end Conversion

end ShootPlan
