import ShootPlan.Proofs.LifecycleRun
import ShootPlan.Proofs.TimeNotation
/-!
Maintenance windows on the way from their document into a Shoot. A table is loaded when its
document decodes and all its times pass, and a conversion writes no other times. All of them are
in the notation just when none has a blank in it.
-/
namespace ShootPlan

open MaintenanceTime (InNotation Passes Unspaced)

theorem parseDocument_eq_ok_iff {α : Type} [Coded α] {document : SetupDocument}
    {tree : Option Written} {value : α} :
    parseDocument document tree = .ok value ↔ ∃ written ∈ tree, Coded.read written = .ok value := by
  unfold parseDocument
  cases tree with
  | none => simp
  | some written => simp

namespace MaintenanceWindow

def times (window : MaintenanceWindow) : List String := [window.begin, window.finish]

theorem fault?_eq_none_iff {window : MaintenanceWindow} :
    window.fault? = none ↔ ∀ time ∈ window.times, Passes time := by
  rw [times, List.forall_mem_cons, List.forall_mem_singleton, ← MaintenanceTime.check_eq_ok_iff,
    ← MaintenanceTime.check_eq_ok_iff, fault?]
  cases MaintenanceTime.check window.begin with
  | error fault => simp
  | ok =>
    cases MaintenanceTime.check window.finish with
    | error fault => simp
    | ok => simp

end MaintenanceWindow

/-- Begin and end of the maintenance window, if there is one. -/
def Shoot.windowTimes (shoot : Shoot) : List String :=
  match shoot.spec.maintenance.bind Maintenance.timeWindow with
  | some window => [window.begin, window.finish]
  | none => []

namespace MaintenanceTable

variable {tree : Option Written} {table other : MaintenanceTable}

def times (table : MaintenanceTable) : List String :=
  table.windows.entries.flatMap fun entry => entry.2.times

theorem mem_times_of_get? {region time : String} {window : MaintenanceWindow}
    (h : table.get? region = some window) (htime : time ∈ window.times) : time ∈ table.times := by
  obtain ⟨entry, hentry, rfl⟩ := Option.map_eq_some_iff.1 h
  exact List.mem_flatMap.2 ⟨entry, List.mem_of_find?_eq_some hentry, htime⟩

/-- The document is a map from regions to windows, and this is the map. -/
def Decodes (tree : Option Written) (table : MaintenanceTable) : Prop :=
  ∃ written ∈ tree, Coded.read written = .ok table

theorem Decodes.unique (h : Decodes tree table) (hother : Decodes tree other) : table = other := by
  obtain ⟨written, hwritten, hread⟩ := h
  obtain ⟨written', hwritten', hread'⟩ := hother
  obtain rfl : written = written' := Option.some.inj (hwritten.symm.trans hwritten')
  exact Except.ok.inj (hread.symm.trans hread')

theorem load_eq_ok_iff :
    load tree = .ok table ↔ Decodes tree table ∧ ∀ time ∈ table.times, Passes time := by
  have hparse : ∀ read : MaintenanceTable,
      parseDocument .maintenanceWindows tree = .ok read ↔ Decodes tree read := fun _ =>
    parseDocument_eq_ok_iff
  have hfault : (table.windows.entries.findSome? fun entry => entry.2.fault?.map (entry.1, ·)) = none ↔
      ∀ time ∈ table.times, Passes time := by
    simp only [List.findSome?_eq_none_iff, Option.map_eq_none_iff,
      MaintenanceWindow.fault?_eq_none_iff, times, List.forall_mem_flatMap]
  simp only [load, Outcome.bind_eq_ok_iff, hparse]
  constructor
  · rintro ⟨read, hdecodes, hchecked⟩
    split at hchecked
    · cases hchecked
    · rename_i hnone
      obtain rfl := Outcome.pure_eq_ok_iff.1 hchecked
      exact ⟨hdecodes, hfault.1 hnone⟩
  · rintro ⟨hdecodes, hpasses⟩
    refine ⟨table, hdecodes, ?_⟩
    rw [hfault.2 hpasses]
    rfl

end MaintenanceTable

namespace Conversion

variable {c : Conversion} {runtime : Runtime} {shoot : Shoot}

/-- The window of the Runtime's region is taken from the table as it stands there. -/
theorem mem_times_of_mem_windowTimes (h : c.run runtime = .ok shoot) :
    ∀ time ∈ shoot.windowTimes, time ∈ c.setup.windows.times := by
  obtain ⟨-, -, provider, json, -, -, -, rfl⟩ := run_eq_ok_iff.1 h
  intro time htime
  simp only [Shoot.windowTimes, outcome, maintenance, Option.bind_some] at htime
  cases hwindow : c.setup.windows.get? runtime.spec.shoot.region with
  | none =>
    rw [hwindow] at htime
    cases htime
  | some window =>
    rw [hwindow] at htime
    exact MaintenanceTable.mem_times_of_get? hwindow htime

end Conversion

namespace MaintenanceTable

variable {tree : Option Written}

/--
The document loads just when it is a map with all times in the notation, and conversions with
what is loaded write only such times.
-/
def KeepsNotation (tree : Option Written) : Prop :=
  ((∃ table, load tree = .ok table) ↔
      ∃ table, Decodes tree table ∧ ∀ time ∈ table.times, InNotation time) ∧
    ∀ (c : Conversion) runtime shoot, load tree = .ok c.setup.windows →
      c.run runtime = .ok shoot → ∀ time ∈ shoot.windowTimes, InNotation time

theorem keepsNotation_iff :
    KeepsNotation tree ↔ ∀ table, load tree = .ok table → ∀ time ∈ table.times, Unspaced time := by
  constructor
  · rintro ⟨hloads, -⟩ table hload time htime
    obtain ⟨other, hdecodes, htimes⟩ := hloads.1 ⟨table, hload⟩
    obtain rfl := (load_eq_ok_iff.1 hload).1.unique hdecodes
    exact (MaintenanceTime.inNotation_iff.1 (htimes time htime)).2
  · intro hunspaced
    have hkept : ∀ table, load tree = .ok table → ∀ time ∈ table.times, InNotation time :=
      fun table hload time htime => MaintenanceTime.inNotation_iff.2
        ⟨(load_eq_ok_iff.1 hload).2 time htime, hunspaced table hload time htime⟩
    refine ⟨⟨?_, ?_⟩, ?_⟩
    · rintro ⟨table, hload⟩
      exact ⟨table, (load_eq_ok_iff.1 hload).1, hkept table hload⟩
    · rintro ⟨table, hdecodes, htimes⟩
      have hpasses : ∀ time ∈ table.times, Passes time := fun time htime =>
        (MaintenanceTime.inNotation_iff.1 (htimes time htime)).1
      exact ⟨table, load_eq_ok_iff.2 ⟨hdecodes, hpasses⟩⟩
    · intro c runtime shoot hload hrun time htime
      exact hkept _ hload time (Conversion.mem_times_of_mem_windowTimes hrun time htime)

/--
A document loads when it decodes with times that pass, and conversions write such times. Passing is
wider than the notation by blanks, so a document keeps to the notation just when no time that is
loaded from it has a blank.
-/
theorem keeps_notation_iff_unspaced (tree : Option Written) :
    (∀ table, load tree = .ok table ↔
      Decodes tree table ∧ ∀ time ∈ table.times, Passes time) ∧
    (∀ (c : Conversion) runtime shoot, load tree = .ok c.setup.windows →
      c.run runtime = .ok shoot → ∀ time ∈ shoot.windowTimes, Passes time) ∧
    (∀ time, InNotation time ↔ Passes time ∧ Unspaced time) ∧
    (KeepsNotation tree ↔
      ∀ table, load tree = .ok table → ∀ time ∈ table.times, Unspaced time) := by
  refine ⟨fun _ => load_eq_ok_iff, ?_, fun _ => MaintenanceTime.inNotation_iff, keepsNotation_iff⟩
  intro c runtime shoot hload hrun time htime
  exact (load_eq_ok_iff.1 hload).2 time (Conversion.mem_times_of_mem_windowTimes hrun time htime)

/-! A document with one window, for the region of the sample, and a conversion with its table. -/

def windowDocument (begin finish : String) : Written :=
  .object [(some "eu-1", .object [(some "begin", .string (some begin)),
    (some "end", .string (some finish))])]

def windowTable (begin finish : String) : MaintenanceTable := ⟨.singleton "eu-1" ⟨begin, finish⟩⟩

def windowConversion (begin finish : String) : Conversion :=
  ⟨{ Lifecycle.sampleSetup with windows := windowTable begin finish }, .create⟩

def windowRuntime : Runtime := (Lifecycle.sampleStep .openstack "1.30.1" []).runtime

theorem exists_run_windowConversion (begin finish : String) : ∃ shoot,
    (windowConversion begin finish).run windowRuntime = .ok shoot ∧
      shoot.windowTimes = [begin, finish] := by
  have hversion : (windowConversion begin finish).kubernetesVersion windowRuntime = "1.30.1" := rfl
  exact ⟨_, Conversion.run_eq_ok_iff.2
    ⟨by simp [hversion], by decide, .openstack, _, rfl, rfl, rfl, rfl⟩, rfl⟩

/-- A leap second and an offset to the west. -/
theorem keeps_notation_iff_unspaced_sample : ∃ shoot,
    load (some (windowDocument "215960-0530" "000000+0000")) =
      .ok (windowConversion "215960-0530" "000000+0000").setup.windows ∧
    (windowConversion "215960-0530" "000000+0000").run windowRuntime = .ok shoot ∧
    shoot.windowTimes = ["215960-0530", "000000+0000"] ∧
    KeepsNotation (some (windowDocument "215960-0530" "000000+0000")) ∧
    InNotation "215960-0530" := by
  obtain ⟨-, hwritten, hunspaced, hkeeps⟩ :=
    keeps_notation_iff_unspaced (some (windowDocument "215960-0530" "000000+0000"))
  obtain ⟨shoot, hrun, htimes⟩ := exists_run_windowConversion "215960-0530" "000000+0000"
  have hload : load (some (windowDocument "215960-0530" "000000+0000")) =
      .ok (windowConversion "215960-0530" "000000+0000").setup.windows := by rfl
  have hpasses : Passes "215960-0530" :=
    hwritten _ _ shoot hload hrun "215960-0530" (by simp [htimes])
  refine ⟨shoot, hload, hrun, htimes, hkeeps.2 ?_, (hunspaced _).2 ⟨hpasses, by decide⟩⟩
  intro table htable
  obtain rfl : _ = table := Except.ok.inj (hload.symm.trans htable)
  decide

/-- Blanks in the place of digits do not keep a time from being loaded and written. -/
theorem spaced_time_written : ∃ shoot,
    load (some (windowDocument " 1 2 3+0000" "000000+0000")) =
      .ok (windowConversion " 1 2 3+0000" "000000+0000").setup.windows ∧
    (windowConversion " 1 2 3+0000" "000000+0000").run windowRuntime = .ok shoot ∧
    shoot.windowTimes = [" 1 2 3+0000", "000000+0000"] ∧ ¬InNotation " 1 2 3+0000" ∧
    ¬KeepsNotation (some (windowDocument " 1 2 3+0000" "000000+0000")) := by
  obtain ⟨shoot, hrun, htimes⟩ := exists_run_windowConversion " 1 2 3+0000" "000000+0000"
  have hload : load (some (windowDocument " 1 2 3+0000" "000000+0000")) =
      .ok (windowConversion " 1 2 3+0000" "000000+0000").setup.windows := by rfl
  have hspaced : ¬InNotation " 1 2 3+0000" := fun h =>
    absurd (MaintenanceTime.inNotation_iff.1 h).2 (by decide)
  refine ⟨shoot, hload, hrun, htimes, hspaced, fun hkeeps => ?_⟩
  exact hspaced (hkeeps.2 _ windowRuntime shoot hload hrun " 1 2 3+0000" (by simp [htimes]))

end MaintenanceTable

end ShootPlan
