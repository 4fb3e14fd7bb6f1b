import ShootPlan.Conversion
import ShootPlan.Proofs.KeyedMerge
import ShootPlan.Proofs.VersionOrder
/-!
One pool of an existing cluster: its zones, its image and its place among the others. Each
rule takes what it gave before as a fixed point, which is why a second patch changes nothing.
-/
namespace ShootPlan

theorem filter_notMem_alignZones (existing requested : List String) :
    requested.filter (· ∉ alignZones existing requested) = [] := by
  rw [List.filter_eq_nil_iff]
  intro zone hzone
  simp only [alignZones, decide_eq_true_eq, not_not, List.mem_append, List.mem_filter]
  by_cases h : zone ∈ existing
  · exact .inl h
  · exact .inr ⟨hzone, h⟩

theorem alignZones_alignZones (existing requested : List String) :
    alignZones (alignZones existing requested) requested = alignZones existing requested := by
  rw [alignZones, filter_notMem_alignZones, List.append_nil]

theorem alignZones_self (zones : List String) : alignZones zones zones = zones := by
  have h : zones.filter (· ∉ zones) = [] := List.filter_eq_nil_iff.2 (by simp)
  rw [alignZones, h, List.append_nil]

theorem mem_alignZones {existing requested : List String} {zone : String} :
    zone ∈ alignZones existing requested ↔ zone ∈ existing ∨ zone ∈ requested := by
  simp only [alignZones, List.mem_append, List.mem_filter, decide_eq_true_eq]
  tauto

namespace WorkerDefaults

variable {defaults : WorkerDefaults} {requested existing : Option MachineImage}

/-- An image version that is open or empty gives way to the default. -/
def settle (defaults : WorkerDefaults) (version : Option String) : String :=
  (version.filter (· ≠ "")).getD defaults.imageVersion

/-- Of two versions the greater; without one the other. -/
def mergeVersion : Option String → Option String → Option String
  | some wanted, some current => some (Version.max wanted current)
  | wanted, current => wanted.or current

/-- The image that a named request leads to. -/
def settledImage (defaults : WorkerDefaults) (wanted : MachineImage) (current : Option String) :
    MachineImage :=
  ⟨wanted.name, some (defaults.settle (mergeVersion wanted.version current))⟩

@[simp] theorem mergeVersion_none (wanted : Option String) : mergeVersion wanted none = wanted := by
  cases wanted <;> rfl

theorem settle_of_ne {version : String} (h : version ≠ "") :
    defaults.settle (some version) = version := by
  simp [settle, Option.filter, h]

@[simp] theorem settle_settle (version : Option String) :
    defaults.settle (some (defaults.settle version)) = defaults.settle version := by
  by_cases h : defaults.settle version = ""
  · -- then the default is empty as well, since only it can have been chosen
    have hdefault : defaults.imageVersion = "" := by
      by_contra hne
      cases version with
      | none => exact hne h
      | some v =>
        by_cases hv : v = ""
        · exact hne (by simpa [settle, Option.filter, hv] using h)
        · rw [settle_of_ne hv] at h
          exact hv h
    rw [h]
    simp [settle, Option.filter, hdefault]
  · exact settle_of_ne h

theorem isLE_settle_mergeVersion (wanted : String) (current : Option String) :
    (Version.order wanted (defaults.settle (mergeVersion (some wanted) current))).isLE := by
  by_cases h : wanted = ""
  · rw [h]
    exact Version.isLE_order_empty _
  cases current with
  | none =>
    rw [mergeVersion_none, settle_of_ne h]
    exact Std.ReflCmp.isLE_rfl
  | some current =>
    have hne : Version.max wanted current ≠ "" := fun hmax => h (Version.max_eq_empty hmax).1
    rw [mergeVersion, settle_of_ne hne]
    exact Version.isLE_max_left wanted current

/-- Merging the same request into its own result gives the result. -/
theorem settle_mergeVersion_settle (wanted current : Option String) :
    defaults.settle (mergeVersion wanted (some (defaults.settle (mergeVersion wanted current)))) =
      defaults.settle (mergeVersion wanted current) := by
  cases wanted with
  | none => exact settle_settle _
  | some wanted =>
    rw [mergeVersion, Version.max_of_isLE (isLE_settle_mergeVersion wanted current)]
    exact settle_settle _

theorem image_of_ne {wanted : MachineImage} (h : wanted.name ≠ "") :
    defaults.image (some wanted) = ⟨wanted.name, some (defaults.settle wanted.version)⟩ := by
  simp [image, settle, Option.filter, h]

theorem patchImage_of_unnamed {existing : MachineImage}
    (h : requested.filter (·.name ≠ "") = none) :
    defaults.patchImage requested (some existing) = existing := by
  simp only [patchImage, h]

theorem filter_named {wanted : MachineImage} (hne : wanted.name ≠ "") :
    (some wanted).filter (·.name ≠ "") = some wanted := by
  simp [Option.filter, hne]

theorem patchImage_of_same {wanted existing : MachineImage} (hne : wanted.name ≠ "")
    (h : wanted.name = existing.name) :
    defaults.patchImage (some wanted) (some existing) =
      defaults.settledImage wanted existing.version := by
  have himage := @image_of_ne defaults
    ⟨wanted.name, mergeVersion wanted.version existing.version⟩ hne
  rw [settledImage, ← himage]
  simp only [patchImage, filter_named hne, if_pos h]
  cases wanted.version <;> cases existing.version <;> rfl

/-- Another image, or one for a pool that had none, is taken as it is asked for. -/
theorem patchImage_of_other {wanted : MachineImage} (hne : wanted.name ≠ "")
    (h : ∀ image ∈ existing, wanted.name ≠ image.name) :
    defaults.patchImage (some wanted) existing = defaults.settledImage wanted none := by
  rw [settledImage, mergeVersion_none, ← image_of_ne hne]
  cases existing with
  | none => simp only [patchImage, filter_named hne]
  | some image =>
    have hother : wanted.name ≠ image.name := h image rfl
    simp only [patchImage, filter_named hne, if_neg hother]

theorem filter_name_cases (requested : Option MachineImage) :
    requested.filter (·.name ≠ "") = none ∨ ∃ wanted, requested = some wanted ∧ wanted.name ≠ "" := by
  cases requested with
  | none => exact .inl rfl
  | some wanted =>
    by_cases h : wanted.name = ""
    · exact .inl (by simp [Option.filter, h])
    · exact .inr ⟨wanted, rfl, h⟩

theorem patchImage_settledImage {wanted : MachineImage} (hne : wanted.name ≠ "")
    (current : Option String) :
    defaults.patchImage (some wanted) (some (defaults.settledImage wanted current)) =
      defaults.settledImage wanted current := by
  have hname : wanted.name = (defaults.settledImage wanted current).name := rfl
  rw [patchImage_of_same hne hname]
  simp only [settledImage, settle_mergeVersion_settle]

theorem patchImage_patchImage (requested existing : Option MachineImage) :
    defaults.patchImage requested (some (defaults.patchImage requested existing)) =
      defaults.patchImage requested existing := by
  obtain h | ⟨wanted, rfl, hne⟩ := filter_name_cases requested
  · exact patchImage_of_unnamed h
  by_cases hsame : ∃ image ∈ existing, wanted.name = image.name
  · obtain ⟨image, rfl, hname⟩ := hsame
    rw [patchImage_of_same hne hname]
    exact patchImage_settledImage hne image.version
  · rw [patchImage_of_other hne fun image himage hname => hsame ⟨image, himage, hname⟩]
    exact patchImage_settledImage hne none

theorem patchImage_image (requested : Option MachineImage) :
    defaults.patchImage requested (some (defaults.image requested)) = defaults.image requested := by
  obtain h | ⟨wanted, rfl, hne⟩ := filter_name_cases requested
  · exact patchImage_of_unnamed h
  · rw [image_of_ne hne, ← mergeVersion_none wanted.version]
    exact patchImage_settledImage hne none

end WorkerDefaults

namespace PriorProvider

variable {prior next : PriorProvider} {defaults : WorkerDefaults} {provider : Hyperscaler}

theorem rank_eq_idxOf (worker : Worker) :
    prior.rank worker = (prior.workers.map Worker.name).idxOf worker.name := by
  rw [rank, List.idxOf, List.findIdx_map]
  rfl

theorem rank_le_trans (a b c : Worker) :
    decide (prior.rank a ≤ prior.rank b) = true → decide (prior.rank b ≤ prior.rank c) = true →
      decide (prior.rank a ≤ prior.rank c) = true := by
  simp only [decide_eq_true_eq]
  exact le_trans

theorem rank_le_total (a b : Worker) :
    (decide (prior.rank a ≤ prior.rank b) || decide (prior.rank b ≤ prior.rank a)) = true := by
  simp only [Bool.or_eq_true, decide_eq_true_eq]
  exact le_total _ _

theorem pairwise_ordered (workers : List Worker) :
    (prior.ordered workers).Pairwise fun a b => decide (prior.rank a ≤ prior.rank b) = true :=
  List.pairwise_mergeSort rank_le_trans rank_le_total workers

/-- Pools that stand in the order of the existing Shoot are found in that order. -/
theorem ordered_of_perm {placed workers : List Worker}
    (hnames : prior.workers.map Worker.name = placed.map Worker.name)
    (hnodup : (placed.map Worker.name).Nodup) (hperm : placed.Perm workers) :
    prior.ordered workers = placed := by
  have hrank : ∀ i (h : i < placed.length), prior.rank placed[i] = i := by
    intro i h
    have hi := hnodup.idxOf_getElem i (by simpa using h)
    rw [rank_eq_idxOf, hnames]
    simpa using hi
  have hplaced : placed.Pairwise fun a b => decide (prior.rank a ≤ prior.rank b) = true := by
    rw [List.pairwise_iff_getElem]
    intro i j hi hj hij
    rw [hrank i hi, hrank j hj]
    simpa using hij.le
  have hsame : (prior.ordered workers).Perm placed := (List.mergeSort_perm _ _).trans hperm.symm
  refine hsame.eq_of_pairwise ?_ (pairwise_ordered workers) hplaced
  intro a b ha hb hab hba
  obtain ⟨i, hi, rfl⟩ := List.getElem_of_mem (hsame.subset ha)
  obtain ⟨j, hj, rfl⟩ := List.getElem_of_mem hb
  simp only [hrank i hi, hrank j hj, decide_eq_true_eq] at hab hba
  obtain rfl : i = j := le_antisymm hab hba
  rfl

theorem or_or_self {α : Type} (first second : Option α) :
    first.or (first.or second) = first.or second := by
  rw [← Option.or_assoc, Option.or_self]

/-- What was chosen once is chosen again when it comes second. -/
theorem or_or_or {α : Type} (first second third : Option α) :
    first.or ((first.or (second.or third)).or third) = first.or (second.or third) := by
  cases first <;> cases second <;> cases third <;> rfl

theorem worker?_of_mem {worker : Worker} (hnodup : (prior.workers.map Worker.name).Nodup)
    (h : worker ∈ prior.workers) : prior.worker? worker.name = some worker :=
  find?_key_eq_of_mem hnodup h

/-- A pool that was created from the same description stays as it is. -/
theorem patch_of_create {worker : Worker}
    (h : prior.worker? worker.name = some (worker.create defaults provider)) :
    prior.patch defaults provider worker = worker.create defaults provider := by
  simp only [patch, h, Worker.create, Option.bind_some, WorkerDefaults.patchImage_image,
    alignZones_self, Option.or_self]
  have hconfig := or_or_or worker.providerConfig none (defaults.providerConfig provider)
  simp only [Option.none_or] at hconfig
  rw [hconfig]

/-- A pool that was patched with the same description stays as it is. -/
theorem patch_of_patch {worker : Worker}
    (h : next.worker? worker.name = some (prior.patch defaults provider worker)) :
    next.patch defaults provider worker = prior.patch defaults provider worker := by
  rw [patch, h]
  cases hprior : prior.worker? worker.name with
  | none =>
    simp only [patch, hprior, Option.bind_some, Option.bind_none, alignZones_self,
      WorkerDefaults.patchImage_patchImage, or_or_or, Option.or_none, Option.or_self]
  | some existing =>
    simp only [patch, hprior, Option.bind_some, alignZones_alignZones,
      WorkerDefaults.patchImage_patchImage, or_or_or]
    rw [or_or_self]

end PriorProvider

end ShootPlan
