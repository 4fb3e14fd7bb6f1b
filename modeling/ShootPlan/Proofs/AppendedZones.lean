import ShootPlan.Proofs.InfrastructurePatch
import ShootPlan.Proofs.LifecycleRun
import ShootPlan.Proofs.ZoneEntries
/-!
What growth leaves of a document that others have written. The document is read into what
this program knows of it and written anew, so it keeps just what the program knows.
-/
namespace ShootPlan

open ShootPlan.Json

/--
The new document is the old one with zones appended. On Azure it may also have come to say
that there are zones.
-/
def Json.AppendsZones (provider : Hyperscaler) (old new : Json) : Prop :=
  new.frame provider = old.frame provider ∧ old.zoneEntries <+: new.zoneEntries ∧
    (provider = .azure → new.member "zoned" = old.member "zoned" ∨ new.member "zoned" = .bool true)

namespace InfrastructureDocument

/-- What the document knows is all there is: as JSON it has the same frame and zones. -/
def Covers (doc : InfrastructureDocument) (json : Json) : Prop :=
  json.frame doc.provider = doc.json.frame doc.provider ∧ json.zoneEntries = doc.json.zoneEntries

variable {doc grown : InfrastructureDocument} {json : Json}

/-- On Azure a document that grows from one with zones says that it has zones. -/
theorem zoned_of_grow {network : String} {added : List String} (hprovider : doc.provider = .azure)
    (hnames : doc.names ≠ []) (h : doc.grow network added = .ok grown) :
    grown.json.member "zoned" = .bool true := by
  cases gainsZones_of_grow h with
  | azure doc fresh =>
    have hzoned : (doc.networks.zones ++ fresh).isEmpty = false := by
      cases hzones : doc.networks.zones with
      | nil =>
        have hnil : (azure doc).names = [] := by
          simp [names, zoneNames?, AzureNetwork.Infrastructure.zoneNames, hzones]
        exact absurd hnil hnames
      | cons => rfl
    rw [InfrastructureDocument.json, AzureNetwork.Infrastructure.json_eq]
    simp [member, hzoned]
  | _ => cases hprovider

/-- Growth appends zones to what was there just when the document covers it. -/
theorem appendsZones_grow_iff {network : String} {added : List String}
    (hprovider : doc.provider ≠ .openstack) (hnames : doc.provider = .azure → doc.names ≠ [])
    (hdoc : decode doc.provider json.canonical = .ok doc) (h : doc.grow network added = .ok grown) :
    json.canonical.AppendsZones doc.provider grown.json ↔ doc.Covers json.canonical := by
  have hprefix := zoneEntries_prefix_of_grow h
  have hframe := frame_json_of_grow h
  constructor
  · rintro ⟨hkept, hentries, -⟩
    have hcovers : json.canonical.frame doc.provider = doc.json.frame doc.provider :=
      hkept.symm.trans hframe
    have hlength := length_zoneEntries hprovider hdoc hcovers
    exact ⟨hcovers, (List.prefix_of_prefix_length_le hentries hprefix hlength.le).eq_of_length hlength⟩
  · rintro ⟨hcovers, hentries⟩
    refine ⟨hframe.trans hcovers.symm, hentries ▸ hprefix, fun hazure => .inr ?_⟩
    exact zoned_of_grow hazure (hnames hazure) h

end InfrastructureDocument

namespace Conversion

variable {setup : Setup} {existing : ExistingShoot} {runtime : Runtime} {shoot : Shoot}
  {provider : Hyperscaler} {old : Json}

theorem forall_zones_iff {c : Conversion} {names : List String} :
    (∀ zone ∈ zonesOf (c.ordered runtime), zone ∈ names) ↔
      ∀ worker ∈ runtime.spec.shoot.provider.allWorkers, ∀ zone ∈ worker.zones, zone ∈ names :=
  forall_mem_zonesOf_iff (c.ordered_perm runtime)

/-! A cluster of one zone, whose entry holds a member that this program does not know. -/

def sampleEntry (name workers public_ internal : String) : List (String × Json) :=
  [("internal", .string internal), ("name", .string name), ("public", .string public_),
    ("workers", .string workers)]

def sampleDocument (entries : List (List (String × Json))) : Json := .object [
  ("apiVersion", .string Hyperscaler.aws.apiVersion),
  ("kind", .string "InfrastructureConfig"),
  ("networks", .object [
    ("vpc", .object [("cidr", .string "10.250.0.0/22")]),
    ("zones", .array (entries.map .object))])]

def firstEntry : List (String × Json) :=
  sampleEntry "eu-1a" "10.250.0.0/25" "10.250.0.128/26" "10.250.0.192/26"

def secondEntry : List (String × Json) :=
  sampleEntry "eu-1b" "10.250.1.0/25" "10.250.1.128/26" "10.250.1.192/26"

def sampleJson : Json :=
  sampleDocument [("elasticIPAllocationID", .string "eipalloc-1") :: firstEntry]

def sampleKnown : InfrastructureDocument := .aws {
  networks := {
    vpc := { cidr := some "10.250.0.0/22" }
    zones := [⟨"eu-1a", "10.250.0.0/25", "10.250.0.128/26", "10.250.0.192/26"⟩] } }

def sampleExisting : ExistingShoot where
  infrastructureConfig := some sampleJson

def sampleRuntime : Runtime := (Lifecycle.sampleStep .aws "1.30.1" ["eu-1a", "eu-1b"]).runtime

theorem canonical_sampleJson : sampleJson.canonical = sampleJson := by decide +kernel

theorem infrastructure_sample :
    infrastructure ⟨Lifecycle.sampleSetup, .patch sampleExisting⟩ sampleRuntime .aws =
      .ok (sampleDocument [firstEntry, secondEntry]) := by
  rw [infrastructure_of_one_pool _ _ rfl]
  decide +kernel

theorem run_sample : ∃ shoot,
    run ⟨Lifecycle.sampleSetup, .patch sampleExisting⟩ sampleRuntime = .ok shoot ∧
      shoot.spec.provider.infrastructureConfig = some (sampleDocument [firstEntry, secondEntry]) :=
  ⟨_, run_eq_ok_iff.2 ⟨by decide, by decide, .aws, _, rfl, rfl, infrastructure_sample, rfl⟩, rfl⟩

/--
A patch changes nothing of the document but zones at the end just when it does not have to
make any, or when the document covers all that the cluster had.
-/
theorem appendsZones_iff (hprovider : provider ≠ .openstack)
    (hruntime : runtime.hyperscaler = .ok provider)
    (hold : existing.infrastructureConfig = some old.canonical)
    (h : run ⟨setup, .patch existing⟩ runtime = .ok shoot) :
    ∃ doc new, InfrastructureDocument.decode provider old.canonical = .ok doc ∧
      shoot.spec.provider.infrastructureConfig = some new ∧
      (old.canonical.AppendsZones provider new ↔
        (∀ worker ∈ runtime.spec.shoot.provider.allWorkers, ∀ zone ∈ worker.zones, zone ∈ doc.names) ∨
          (provider = .azure ∧ doc.names = []) ∨ doc.Covers old.canonical) := by
  obtain ⟨-, -, provider', new, hruntime', -, hnew, rfl⟩ := run_eq_ok_iff.1 h
  obtain rfl : provider = provider' := Except.ok.inj (hruntime.symm.trans hruntime')
  rcases PriorProvider.infrastructure_eq_ok hnew with ⟨-, hopenstack, -⟩ | ⟨json, doc, hjson, hdoc, hcases⟩
  · exact absurd hopenstack hprovider
  obtain rfl : old.canonical = json := Option.some.inj (hold.symm.trans hjson)
  obtain rfl := InfrastructureDocument.provider_of_decode hdoc
  refine ⟨doc, new, hdoc, rfl, ?_⟩
  rw [← or_assoc, ← forall_zones_iff (c := ⟨setup, .patch existing⟩),
    ← PriorProvider.serves_iff hprovider]
  rcases hcases with ⟨hserves, rfl⟩ | ⟨hserves, grown, rfl, hgrow⟩
  · have hkept : old.canonical.AppendsZones doc.provider old.canonical :=
      ⟨rfl, List.prefix_refl _, fun _ => .inl rfl⟩
    exact iff_of_true hkept (.inl hserves)
  · rw [or_iff_right hserves]
    refine InfrastructureDocument.appendsZones_grow_iff hprovider (fun hazure hnames => ?_) hdoc hgrow
    exact hserves ((PriorProvider.serves_iff hprovider).2 (.inr ⟨hazure, hnames⟩))

theorem appendsZones_iff_sample : ∃ shoot doc new,
    run ⟨Lifecycle.sampleSetup, .patch sampleExisting⟩ sampleRuntime = .ok shoot ∧
      InfrastructureDocument.decode .aws sampleJson.canonical = .ok doc ∧
      shoot.spec.provider.infrastructureConfig = some new ∧
      (sampleJson.canonical.AppendsZones .aws new ↔
        (∀ worker ∈ sampleRuntime.spec.shoot.provider.allWorkers,
          ∀ zone ∈ worker.zones, zone ∈ doc.names) ∨
        (Hyperscaler.aws = .azure ∧ doc.names = []) ∨ doc.Covers sampleJson.canonical) := by
  obtain ⟨shoot, hshoot, -⟩ := run_sample
  have hold : sampleExisting.infrastructureConfig = some sampleJson.canonical :=
    congrArg some canonical_sampleJson.symm
  obtain ⟨doc, new, h⟩ := appendsZones_iff (by decide) rfl hold hshoot
  exact ⟨shoot, doc, new, hshoot, h⟩

/-- The cluster gets its second zone, and the first one loses the member. -/
theorem growth_loses_member : ∃ shoot new,
    run ⟨Lifecycle.sampleSetup, .patch sampleExisting⟩ sampleRuntime = .ok shoot ∧
      sampleRuntime.hyperscaler = .ok .aws ∧
      sampleExisting.infrastructureConfig = some sampleJson.canonical ∧
      InfrastructureDocument.decode .aws sampleJson.canonical = .ok sampleKnown ∧
      "eu-1b" ∈ zonesOf sampleRuntime.spec.shoot.provider.allWorkers ∧
      "eu-1b" ∉ sampleKnown.names ∧ shoot.spec.provider.infrastructureConfig = some new ∧
      ¬sampleJson.canonical.AppendsZones .aws new := by
  obtain ⟨shoot, hshoot, hnew⟩ := run_sample
  rw [canonical_sampleJson]
  refine ⟨shoot, _, hshoot, rfl, rfl, by decide +kernel, by decide, by decide, hnew, ?_⟩
  rintro ⟨-, hentries, -⟩
  exact absurd hentries (by decide)

end Conversion

end ShootPlan
