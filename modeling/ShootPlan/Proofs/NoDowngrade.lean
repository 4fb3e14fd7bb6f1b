import ShootPlan.Proofs.LifecycleRun
import ShootPlan.Proofs.Outcomes
import ShootPlan.Proofs.PoolPatch
/-!
Versions never go down. A Shoot always has a cluster version, and every pool an image with a
version; patches replace either only by something that is not smaller. For images that holds
as long as the name of the image stays.
-/
namespace ShootPlan

/-- An image that a machine can be made from. -/
def MachineImage.Complete (image : MachineImage) : Prop :=
  image.name ≠ "" ∧ ∃ version, image.version = some version ∧ version ≠ ""

def Worker.Imaged (worker : Worker) : Prop :=
  ∃ image, worker.machine.image = some image ∧ image.Complete

/-- The cluster and all its pools have versions. -/
def Shoot.Versioned (shoot : Shoot) : Prop :=
  shoot.spec.kubernetes.version ≠ "" ∧ ∀ worker ∈ shoot.spec.provider.workers, worker.Imaged

/-- The version of an image stays or grows, if the image is still the same one. -/
def MachineImage.NotAfter (old new : MachineImage) : Prop :=
  old.name = new.name → ∃ before after, old.version = some before ∧ new.version = some after ∧
    (Version.order before after).isLE

/-- Every pool of the next Shoot keeps the version of the first old pool of its name. -/
def Shoot.ImagesNotAfter (shoot next : Shoot) : Prop :=
  ∀ worker ∈ next.spec.provider.workers, ∀ old image newImage,
    shoot.spec.provider.workers.find? (fun e => e.name == worker.name) = some old →
    old.machine.image = some image → worker.machine.image = some newImage →
    image.NotAfter newImage

/-- The settings come from a text and passed its check. -/
def Settings.Loaded (settings : Settings) : Prop := ∃ tree, Settings.load tree = .ok settings

namespace Settings

theorem ne_empty_of_mem_required {settings : Settings} {field : String × String}
    (h : settings.Loaded) (hfield : field ∈ settings.required) : field.2 ≠ "" := by
  obtain ⟨tree, h⟩ := h
  simp only [load, Outcome.bind_eq_ok_iff] at h
  obtain ⟨parsed, -, h⟩ := h
  split_ifs at h with hempty
  obtain rfl : parsed = settings := Outcome.pure_eq_ok_iff.1 h
  rw [emptyPaths, List.map_eq_nil_iff, List.filter_eq_nil_iff] at hempty
  simpa using hempty field hfield

end Settings

namespace WorkerDefaults

variable {defaults : WorkerDefaults} {requested existing : Option MachineImage}

/-- There is an image to fall back on. -/
def Complete (defaults : WorkerDefaults) : Prop :=
  defaults.imageName ≠ "" ∧ defaults.imageVersion ≠ ""

theorem complete_of_loaded {settings : Settings} (h : settings.Loaded) :
    (Conversion.workerDefaults settings).Complete := by
  have hname : ("machine_image.default_name", settings.machineImage.defaultName) ∈
      settings.required := by simp [Settings.required]
  have hversion : ("machine_image.default_version", settings.machineImage.defaultVersion) ∈
      settings.required := by simp [Settings.required]
  exact ⟨Settings.ne_empty_of_mem_required h hname, Settings.ne_empty_of_mem_required h hversion⟩

theorem getD_filter_ne_empty {text : Option String} {fallback : String} (h : fallback ≠ "") :
    (text.filter (· ≠ "")).getD fallback ≠ "" := by
  cases hfilter : text.filter (· ≠ "") with
  | none => exact h
  | some value => simpa using (Option.filter_eq_some_iff.1 hfilter).2

theorem complete_image (h : defaults.Complete) : (defaults.image requested).Complete :=
  ⟨getD_filter_ne_empty h.1, _, rfl, getD_filter_ne_empty h.2⟩

/-- A patched pool has an image, if the existing one had. -/
theorem complete_patchImage (h : defaults.Complete) (hexisting : ∀ image ∈ existing, image.Complete) :
    (defaults.patchImage requested existing).Complete := by
  unfold patchImage
  split
  · exact hexisting _ rfl
  · split_ifs
    · exact complete_image h
    · exact complete_image h
  · exact complete_image h

theorem isLE_settle_mergeVersion_right {current : String} (hne : current ≠ "")
    (wanted : Option String) :
    (Version.order current (defaults.settle (mergeVersion wanted (some current)))).isLE := by
  cases wanted with
  | none =>
    change (Version.order current (defaults.settle (some current))).isLE
    rw [settle_of_ne hne]
    exact Std.ReflCmp.isLE_rfl
  | some wanted =>
    have hmax : Version.max wanted current ≠ "" := fun h => hne (Version.max_eq_empty h).2
    rw [mergeVersion, settle_of_ne hmax]
    exact Version.isLE_max_right wanted current

/-- Of one image a patch never takes a smaller version than the pool has. -/
theorem notAfter_patchImage {old : MachineImage} (hold : old.Complete) :
    old.NotAfter (defaults.patchImage requested (some old)) := by
  intro hname
  obtain ⟨-, before, hbefore, hne⟩ := hold
  obtain hnone | ⟨wanted, rfl, hwanted⟩ := filter_name_cases requested
  · rw [patchImage_of_unnamed hnone]
    exact ⟨before, before, hbefore, hbefore, Std.ReflCmp.isLE_rfl⟩
  by_cases hsame : wanted.name = old.name
  · rw [patchImage_of_same hwanted hsame, hbefore]
    exact ⟨before, _, rfl, rfl, isLE_settle_mergeVersion_right hne wanted.version⟩
  · -- the pool gets an image of another name, and nothing is said about its version
    rw [patchImage_of_other hwanted (by simpa using hsame)] at hname
    exact absurd hname.symm hsame

end WorkerDefaults

namespace Conversion

variable {c : Conversion} {runtime : Runtime} {shoot next : Shoot} {setup : Setup}

theorem isLE_chosenVersion {current : String} (hne : current ≠ "") (fallback : String)
    (requested : Option String) :
    (Version.order current (Extender.chosenVersion fallback (some current) requested)).isLE := by
  have hcurrent : (some current).filter (· ≠ "") = some current := by simp [Option.filter, hne]
  rw [Extender.chosenVersion, hcurrent]
  simp only
  split_ifs with h
  · exact Std.ReflCmp.isLE_rfl
  · exact Ordering.isLE_iff_ne_gt.2 h

theorem versioned_of_create (hloaded : setup.settings.Loaded)
    (h : run ⟨setup, .create⟩ runtime = .ok shoot) : shoot.Versioned := by
  obtain ⟨hversion, -, provider, doc, -, -, -, rfl⟩ := run_eq_ok_iff.1 h
  refine ⟨hversion, fun worker hworker => ?_⟩
  obtain ⟨wanted, -, rfl⟩ := List.mem_map.1 hworker
  exact ⟨_, rfl, WorkerDefaults.complete_image (WorkerDefaults.complete_of_loaded hloaded)⟩

theorem complete_of_worker? (hshoot : shoot.Versioned) {name : String} :
    ∀ image ∈ ((ExistingShoot.ofShoot shoot).provider.worker? name).bind fun e => e.machine.image,
      image.Complete := by
  intro image himage
  obtain ⟨old, hold, hmachine⟩ := Option.bind_eq_some_iff.1 himage
  obtain ⟨image', hsome, hcomplete⟩ := hshoot.2 old (List.mem_of_find?_eq_some hold)
  obtain rfl : image = image' := Option.some.inj (hmachine.symm.trans hsome)
  exact hcomplete

theorem versioned_of_patch (hloaded : setup.settings.Loaded) (hshoot : shoot.Versioned)
    (h : run ⟨setup, .patch (.ofShoot shoot)⟩ runtime = .ok next) : next.Versioned := by
  obtain ⟨hversion, -, provider, doc, -, -, -, rfl⟩ := run_eq_ok_iff.1 h
  refine ⟨hversion, fun worker hworker => ?_⟩
  obtain ⟨wanted, -, rfl⟩ := List.mem_map.1 hworker
  refine ⟨_, rfl, ?_⟩
  exact WorkerDefaults.complete_patchImage (WorkerDefaults.complete_of_loaded hloaded)
    (complete_of_worker? hshoot)

theorem isLE_version_of_patch (hshoot : shoot.Versioned)
    (h : run ⟨setup, .patch (.ofShoot shoot)⟩ runtime = .ok next) :
    (Version.order shoot.spec.kubernetes.version next.spec.kubernetes.version).isLE := by
  obtain ⟨-, -, provider, doc, -, -, -, rfl⟩ := run_eq_ok_iff.1 h
  exact isLE_chosenVersion hshoot.1 _ _

theorem imagesNotAfter_of_patch (hshoot : shoot.Versioned)
    (h : run ⟨setup, .patch (.ofShoot shoot)⟩ runtime = .ok next) : shoot.ImagesNotAfter next := by
  obtain ⟨-, -, provider, doc, -, -, -, rfl⟩ := run_eq_ok_iff.1 h
  intro worker hworker old image newImage hold himage hnew
  obtain ⟨wanted, -, rfl⟩ := List.mem_map.1 hworker
  obtain ⟨image', hsome, hcomplete⟩ := hshoot.2 old (List.mem_of_find?_eq_some hold)
  obtain rfl : image = image' := Option.some.inj (himage.symm.trans hsome)
  have hfound : (ExistingShoot.ofShoot shoot).provider.worker? wanted.name = some old := hold
  have hpatch : newImage = (workerDefaults setup.settings).patchImage wanted.machine.image (some image) := by
    simp only [pool, PriorProvider.patch, hfound, Option.bind_some, himage] at hnew
    exact (Option.some.inj hnew).symm
  rw [hpatch]
  exact WorkerDefaults.notAfter_patchImage hcomplete

end Conversion

namespace Lifecycle

/-- Over a whole life, from the create conversion on, no version ever goes down. -/
theorem never_downgrades {first : Step} {steps later : List Step} {created shoot last : Shoot}
    (hloaded : ∀ step ∈ first :: (steps ++ later), step.setup.settings.Loaded)
    (hcreated : convert none first = .ok created) (hshoot : run (some created) steps = some shoot)
    (hlast : run (some shoot) later = some last) :
    last.Versioned ∧
      (Version.order shoot.spec.kubernetes.version last.spec.kubernetes.version).isLE ∧
      ∀ step next, convert (some last) step = .ok next → last.ImagesNotAfter next := by
  have hfirst : created.Versioned :=
    Conversion.versioned_of_create (hloaded first List.mem_cons_self) hcreated
  have hreached : shoot.Versioned := by
    refine run_invariant (fun step hstep s s' hs => ?_) hfirst hshoot
    have hstep' := hloaded step (List.mem_cons_of_mem _ (List.mem_append_left _ hstep))
    exact Conversion.versioned_of_patch hstep' hs
  -- the order is carried along with the versions, which make it transitive step by step
  have hkept : last.Versioned ∧
      (Version.order shoot.spec.kubernetes.version last.spec.kubernetes.version).isLE := by
    refine run_invariant (P := fun s => s.Versioned ∧
      (Version.order shoot.spec.kubernetes.version s.spec.kubernetes.version).isLE)
      (fun step hstep s s' hs hconvert => ?_) ⟨hreached, Std.ReflCmp.isLE_rfl⟩ hlast
    have hstep' := hloaded step (List.mem_cons_of_mem _ (List.mem_append_right _ hstep))
    exact ⟨Conversion.versioned_of_patch hstep' hs.1 hconvert,
      Std.TransCmp.isLE_trans hs.2 (Conversion.isLE_version_of_patch hs.1 hconvert)⟩
  exact ⟨hkept.1, hkept.2, fun step next hnext => Conversion.imagesNotAfter_of_patch hkept.1 hnext⟩

theorem loaded_sampleSetup : sampleSetup.settings.Loaded :=
  ⟨some (.ofJson (Coded.write sampleSetup.settings)), by rfl⟩

theorem never_downgrades_sample :
    ∃ created last, convert none (sampleStep .openstack "1.30.1" []) = .ok created ∧
      run (some created) [sampleStep .openstack "1.29.9" []] = some last ∧ last.Versioned ∧
      (Version.order created.spec.kubernetes.version last.spec.kubernetes.version).isLE ∧
      ∀ step next, convert (some last) step = .ok next → last.ImagesNotAfter next := by
  obtain ⟨created, hcreated⟩ :
      ∃ created, convert none (sampleStep .openstack "1.30.1" []) = .ok created := ⟨_, by rfl⟩
  obtain ⟨last, hlast⟩ := exists_run_eq_some created [sampleStep .openstack "1.29.9" []]
  have hloaded : ∀ step ∈ sampleStep .openstack "1.30.1" [] ::
      ([] ++ [sampleStep .openstack "1.29.9" []]), step.setup.settings.Loaded := by
    simp [sampleStep, loaded_sampleSetup]
  exact ⟨created, last, hcreated, hlast, never_downgrades hloaded hcreated rfl hlast⟩

end Lifecycle

end ShootPlan
