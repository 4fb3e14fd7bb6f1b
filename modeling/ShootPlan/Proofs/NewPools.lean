import ShootPlan.Proofs.Convergence
import ShootPlan.Proofs.PatchedPools
/-!
New pools of a cluster that exists. A patch makes of them what a create makes, up to one case:
a request that leaves the name of the image open but not its version. A new cluster takes the
version with the default name. A patch takes the request for none at all, and so the default
version too.
-/
namespace ShootPlan

namespace WorkerDefaults

variable {defaults : WorkerDefaults} {requested : Option MachineImage}

theorem settle_eq_default_iff {version : Option String} :
    defaults.settle version = defaults.imageVersion ↔
      ∀ v ∈ version, v = "" ∨ v = defaults.imageVersion := by
  cases version with
  | none => simp [settle]
  | some v =>
    by_cases h : v = ""
    · simp [settle, Option.filter, h]
    · simp [settle_of_ne h, h]

theorem image_of_unnamed {wanted : MachineImage} (h : wanted.name = "") :
    defaults.image (some wanted) = ⟨defaults.imageName, some (defaults.settle wanted.version)⟩ := by
  simp [image, settle, Option.filter, h]

theorem patchImage_none_of_unnamed (h : requested.filter (·.name ≠ "") = none) :
    defaults.patchImage requested none = ⟨defaults.imageName, some defaults.imageVersion⟩ := by
  simp only [patchImage, h]
  rfl

theorem patchImage_none_of_named {wanted : MachineImage} (h : wanted.name ≠ "") :
    defaults.patchImage (some wanted) none = defaults.image (some wanted) := by
  simp only [patchImage, filter_named h]

theorem filter_unnamed {wanted : MachineImage} (h : wanted.name = "") :
    (some wanted).filter (·.name ≠ "") = none := by
  simp [Option.filter, h]

/-- Only the version of an image without a name is up to where the pool is made. -/
theorem patchImage_none_eq_iff :
    defaults.patchImage requested none = defaults.image requested ↔
      ∀ image ∈ requested, image.name = "" →
        ∀ version ∈ image.version, version = "" ∨ version = defaults.imageVersion := by
  cases requested with
  | none => simp [patchImage_none_of_unnamed, image]
  | some wanted =>
    simp only [Option.mem_some_iff, forall_eq']
    by_cases h : wanted.name = ""
    · rw [patchImage_none_of_unnamed (filter_unnamed h), image_of_unnamed h, MachineImage.mk.injEq,
        Option.some_inj, ← settle_eq_default_iff]
      simp [h, eq_comm]
    · simp [patchImage_none_of_named h, h]

theorem name_patchImage_none (requested : Option MachineImage) :
    (defaults.patchImage requested none).name = (defaults.image requested).name := by
  cases requested with
  | none => rfl
  | some wanted =>
    by_cases h : wanted.name = ""
    · rw [patchImage_none_of_unnamed (filter_unnamed h), image_of_unnamed h]
    · rw [patchImage_none_of_named h]

end WorkerDefaults

/-- The pool up to the version of its image. -/
def Worker.withoutImageVersion (worker : Worker) : Worker :=
  let image := worker.machine.image.map fun image => { image with version := none }
  { worker with machine := { worker.machine with image } }

namespace PriorProvider

variable {prior : PriorProvider} {defaults : WorkerDefaults} {provider : Hyperscaler} {worker : Worker}

theorem worker?_eq_none_iff {name : String} :
    prior.worker? name = none ↔ name ∉ prior.workers.map Worker.name := by
  simp [worker?]

theorem patch_of_new (h : worker.name ∉ prior.workers.map Worker.name) :
    prior.patch defaults provider worker =
      { worker.create defaults provider with
        machine := { worker.machine with
          image := some (defaults.patchImage worker.machine.image none) } } := by
  simp only [patch, worker?_eq_none_iff.2 h, Option.bind_none, Option.none_or, Option.or_none,
    Worker.create]

theorem patch_of_new_eq_iff (h : worker.name ∉ prior.workers.map Worker.name) :
    prior.patch defaults provider worker = worker.create defaults provider ↔
      ∀ image ∈ worker.machine.image, image.name = "" →
        ∀ version ∈ image.version, version = "" ∨ version = defaults.imageVersion := by
  rw [patch_of_new h, ← WorkerDefaults.patchImage_none_eq_iff]
  simp [Worker.create]

theorem withoutImageVersion_patch_of_new (h : worker.name ∉ prior.workers.map Worker.name) :
    (prior.patch defaults provider worker).withoutImageVersion =
      (worker.create defaults provider).withoutImageVersion := by
  rw [patch_of_new h]
  simp only [Worker.withoutImageVersion, Worker.create, Option.map_some,
    WorkerDefaults.name_patchImage_none]

end PriorProvider

/-- The pools whose names no existing pool has. -/
def ExistingShoot.newPools (existing : ExistingShoot) (workers : List Worker) : List Worker :=
  workers.filter fun worker => worker.name ∉ existing.workers.map Worker.name

namespace Conversion

variable {c : Conversion} {setup : Setup} {existing : ExistingShoot} {runtime : Runtime}
  {shoot created patched : Shoot}

theorem newPools_map_pool (provider : Hyperscaler) (workers : List Worker) :
    existing.newPools (workers.map (c.pool provider)) =
      (existing.newPools workers).map (c.pool provider) := by
  have hname : (fun worker : Worker => decide (worker.name ∉ existing.workers.map Worker.name)) ∘
      c.pool provider = fun worker => decide (worker.name ∉ existing.workers.map Worker.name) :=
    funext fun worker => by rw [Function.comp_apply, name_pool]
  rw [ExistingShoot.newPools, List.filter_map, hname]
  rfl

/-- New pools come in the order of the Runtime, each made from its description. -/
theorem newPools_of_run (hnew : existing.newPools (c.ordered runtime) =
      existing.newPools runtime.spec.shoot.provider.allWorkers) (h : c.run runtime = .ok shoot) :
    ∃ provider, runtime.hyperscaler = .ok provider ∧
      existing.newPools shoot.spec.provider.workers =
        (existing.newPools runtime.spec.shoot.provider.allWorkers).map (c.pool provider) := by
  obtain ⟨-, -, provider, json, hprovider, -, -, rfl⟩ := run_eq_ok_iff.1 h
  exact ⟨provider, hprovider, (newPools_map_pool provider _).trans (by rw [hnew])⟩

/--
A create and a patch make the same of new pools, up to image versions. They make the very same
just when no new pool asks for a version, other than the default, of an image without a name.
-/
theorem newPools_alike_iff (hcreated : run ⟨setup, .create⟩ runtime = .ok created)
    (hpatched : run ⟨setup, .patch existing⟩ runtime = .ok patched) :
    (existing.newPools created.spec.provider.workers).map Worker.name =
        (existing.newPools runtime.spec.shoot.provider.allWorkers).map Worker.name ∧
      (existing.newPools patched.spec.provider.workers).map Worker.withoutImageVersion =
        (existing.newPools created.spec.provider.workers).map Worker.withoutImageVersion ∧
      (existing.newPools patched.spec.provider.workers =
          existing.newPools created.spec.provider.workers ↔
        ∀ worker ∈ existing.newPools runtime.spec.shoot.provider.allWorkers,
          ∀ image ∈ worker.machine.image, image.name = "" → ∀ version ∈ image.version,
            version = "" ∨ version = setup.settings.machineImage.defaultVersion) := by
  obtain ⟨provider, hprovider, hcreatedPools⟩ := newPools_of_run rfl hcreated
  have hnew : existing.newPools (ordered ⟨setup, .patch existing⟩ runtime) =
      existing.newPools runtime.spec.shoot.provider.allWorkers :=
    (existing.provider.arranges_ordered _).filter_notMem
  obtain ⟨provider', hprovider', hpatchedPools⟩ := newPools_of_run hnew hpatched
  obtain rfl : provider = provider' := Except.ok.inj (hprovider.symm.trans hprovider')
  have hname {worker : Worker}
      (h : worker ∈ existing.newPools runtime.spec.shoot.provider.allWorkers) :
      worker.name ∉ existing.provider.workers.map Worker.name :=
    of_decide_eq_true (List.mem_filter.1 h).2
  rw [hcreatedPools, hpatchedPools]
  refine ⟨?_, ?_, ?_⟩
  · rw [List.map_map]
    exact List.map_congr_left fun worker _ => name_pool _ provider worker
  · rw [List.map_map, List.map_map]
    exact List.map_congr_left fun worker hworker =>
      PriorProvider.withoutImageVersion_patch_of_new (hname hworker)
  · rw [List.map_inj_left]
    exact forall₂_congr fun worker hworker => PriorProvider.patch_of_new_eq_iff (hname hworker)

/-! A cluster of another pool, and a request that names no image but a version of it. -/

def unnamedPool : Worker :=
  { samplePool "main" [] with machine := { type := "m6.large", image := some ⟨"", some "1443.3.0"⟩ } }

def unnamedRuntime : Runtime :=
  let step := Lifecycle.sampleStep .openstack "1.30.1" []
  let wanted := step.runtime.spec.shoot
  let shoot := { wanted with provider := { wanted.provider with workers := [unnamedPool] } }
  { step.runtime with spec := { step.runtime.spec with shoot } }

def unnamedExisting : ExistingShoot where
  workers := [samplePool "gpu" []]

theorem run_unnamed : ∃ created patched,
    run ⟨Lifecycle.sampleSetup, .create⟩ unnamedRuntime = .ok created ∧
      run ⟨Lifecycle.sampleSetup, .patch unnamedExisting⟩ unnamedRuntime = .ok patched ∧
      created.spec.provider.workers.map (fun worker => worker.machine.image) =
        [some ⟨"gardenlinux", some "1443.3.0"⟩] ∧
      patched.spec.provider.workers.map (fun worker => worker.machine.image) =
        [some ⟨"gardenlinux", some "1592.2.0"⟩] := by
  have hordered : ordered ⟨Lifecycle.sampleSetup, .patch unnamedExisting⟩ unnamedRuntime =
      [unnamedPool] := List.mergeSort_singleton unnamedPool
  refine ⟨_, _, run_eq_ok_iff.2 ⟨by decide, by decide, .openstack, _, rfl, rfl, rfl, rfl⟩,
    run_eq_ok_iff.2 ⟨by decide, by decide, .openstack, _, rfl, rfl,
      (infrastructure_of_one_pool _ _ rfl).trans rfl, rfl⟩, by decide, ?_⟩
  simp only [outcome, block, hordered]
  decide

theorem newPools_alike_iff_sample : ∃ created patched,
    run ⟨Lifecycle.sampleSetup, .create⟩ unnamedRuntime = .ok created ∧
      run ⟨Lifecycle.sampleSetup, .patch unnamedExisting⟩ unnamedRuntime = .ok patched ∧
      (unnamedExisting.newPools patched.spec.provider.workers).map Worker.withoutImageVersion =
        (unnamedExisting.newPools created.spec.provider.workers).map Worker.withoutImageVersion ∧
      unnamedExisting.newPools patched.spec.provider.workers ≠
        unnamedExisting.newPools created.spec.provider.workers := by
  obtain ⟨created, patched, hcreated, hpatched, -⟩ := run_unnamed
  obtain ⟨-, halike, hsame⟩ := newPools_alike_iff hcreated hpatched
  refine ⟨created, patched, hcreated, hpatched, halike, fun h => ?_⟩
  have hversion := hsame.1 h unnamedPool (by decide) ⟨"", some "1443.3.0"⟩ rfl rfl "1443.3.0" rfl
  exact absurd hversion (by decide)

/-- The pool is new to the cluster, and still gets another image than in a new cluster. -/
theorem new_pool_treated_differently : ∃ created patched,
    run ⟨Lifecycle.sampleSetup, .create⟩ unnamedRuntime = .ok created ∧
      run ⟨Lifecycle.sampleSetup, .patch unnamedExisting⟩ unnamedRuntime = .ok patched ∧
      unnamedRuntime.spec.shoot.provider.allWorkers = [unnamedPool] ∧
      unnamedPool.name ∉ unnamedExisting.workers.map Worker.name ∧
      created.spec.provider.workers.map (fun worker => worker.machine.image) =
        [some ⟨"gardenlinux", some "1443.3.0"⟩] ∧
      patched.spec.provider.workers.map (fun worker => worker.machine.image) =
        [some ⟨"gardenlinux", some "1592.2.0"⟩] := by
  obtain ⟨created, patched, hcreated, hpatched, himage, himage'⟩ := run_unnamed
  exact ⟨created, patched, hcreated, hpatched, rfl, by decide, himage, himage'⟩

end Conversion

end ShootPlan
