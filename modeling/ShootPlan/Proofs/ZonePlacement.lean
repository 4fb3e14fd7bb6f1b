import ShootPlan.Proofs.Subnets
import ShootPlan.ProviderDocument
/-!
Zones that are made one after another, each for its item and its position. The layouts of all
providers are made like this, so what holds of every such row is said here once: it succeeds
when all its zones do, and a longer row starts with the shorter one.
-/
namespace ShootPlan

section

variable {α ζ : Type} (place : Nat → α → Except NetworkError ζ)

/-- The zones of these items, from this position on. -/
def placeFrom : Nat → List α → Except NetworkError (List ζ)
  | _, [] => .ok []
  | index, item :: rest => do
    return (← place index item) :: (← placeFrom (index + 1) rest)

variable {place} {index : Nat} {items more : List α} {zones : List ζ}

theorem exists_placeFrom
    (h : ∀ position, index ≤ position → position < index + items.length → ∀ item,
      ∃ zone, place position item = .ok zone) :
    ∃ zones, placeFrom place index items = .ok zones := by
  induction items generalizing index with
  | nil => exact ⟨[], rfl⟩
  | cons item rest ih =>
    rw [List.length_cons] at h
    obtain ⟨zone, hzone⟩ := h index le_rfl (by omega) item
    obtain ⟨zones, hzones⟩ := @ih (index + 1) fun position hlow hhigh =>
      h position (by omega) (by omega)
    refine ⟨zone :: zones, ?_⟩
    simp only [placeFrom, Outcome.bind_eq_ok_iff, Outcome.pure_eq_ok_iff]
    exact ⟨zone, hzone, zones, hzones, rfl⟩

theorem exists_place_of_mem (h : placeFrom place index items = .ok zones) :
    ∀ zone ∈ zones, ∃ position item, place position item = .ok zone := by
  induction items generalizing index zones with
  | nil =>
    cases h
    exact fun _ hmem => nomatch hmem
  | cons item rest ih =>
    simp only [placeFrom, Outcome.bind_eq_ok_iff, Outcome.pure_eq_ok_iff] at h
    obtain ⟨first, hfirst, others, hothers, rfl⟩ := h
    intro zone hzone
    rcases List.mem_cons.1 hzone with rfl | hzone
    · exact ⟨index, item, hfirst⟩
    · exact ih hothers zone hzone

/-- More items only add zones at the end. -/
theorem placeFrom_append_eq_ok_iff :
    placeFrom place index (items ++ more) = .ok zones ↔
      ∃ before after, placeFrom place index items = .ok before ∧
        placeFrom place (index + items.length) more = .ok after ∧ before ++ after = zones := by
  induction items generalizing index zones with
  | nil =>
    constructor
    · exact fun h => ⟨[], zones, rfl, h, rfl⟩
    · rintro ⟨_, after, ⟨⟩, hafter, rfl⟩
      exact hafter
  | cons item rest ih =>
    have hindex : index + 1 + rest.length = index + (item :: rest).length := by
      rw [List.length_cons]
      omega
    simp only [List.cons_append, placeFrom, Outcome.bind_eq_ok_iff, Outcome.pure_eq_ok_iff, ih, hindex]
    constructor
    · rintro ⟨zone, hzone, _, ⟨before, after, hbefore, hafter, rfl⟩, rfl⟩
      exact ⟨zone :: before, after, ⟨zone, hzone, before, hbefore, rfl⟩, hafter, rfl⟩
    · rintro ⟨_, after, ⟨zone, hzone, before, hbefore, rfl⟩, hafter, rfl⟩
      exact ⟨zone, hzone, before ++ after, ⟨before, after, hbefore, hafter, rfl⟩, rfl⟩

end

section

variable {α ζ : Type}

/--
A layout: network and names are checked, the names are taken for what they mean, and each
meaning gets a zone of the network.
-/
def layOut (least : Nat) (means : List String → Except NetworkError (List α))
    (place : Cidr → Nat → α → Except NetworkError ζ) (network : String) (names : List String) :
    Except NetworkError (List ζ) := do
  let parent ← workerNetwork network
  checkZoneNames names least
  placeFrom (place parent) 0 (← means names)

variable {least : Nat} {means : List String → Except NetworkError (List α)}
  {place : Cidr → Nat → α → Except NetworkError ζ} {network : String} {names : List String}
  {zones : List ζ}

theorem layOut_eq_ok_iff :
    layOut least means place network names = .ok zones ↔
      (least ≤ names.length ∧ names.length ≤ maxZones ∧ names.Nodup) ∧
        ∃ parent items, workerNetwork network = .ok parent ∧ means names = .ok items ∧
          placeFrom (place parent) 0 items = .ok zones := by
  simp only [layOut, Outcome.bind_eq_ok_iff, ← checkZoneNames_eq_ok_iff]
  constructor
  · rintro ⟨parent, hparent, ⟨⟩, hchecked, items, hitems, hzones⟩
    exact ⟨hchecked, parent, items, hparent, hitems, hzones⟩
  · rintro ⟨hchecked, parent, items, hparent, hitems, hzones⟩
    exact ⟨parent, hparent, (), hchecked, items, hitems, hzones⟩

end

namespace AwsNetwork

theorem zonesFrom_eq (parent : Cidr) : zonesFrom parent = placeFrom (zone parent) := by
  funext index names
  induction names generalizing index with
  | nil => rfl
  | cons name rest ih => rw [zonesFrom, placeFrom, ih]

theorem layout_eq : layout = layOut 1 .ok zone := by
  funext network names
  simp only [layout, zonesFrom_eq]
  rfl

end AwsNetwork

/-- One zone that is made from the eighth of the network at its position. -/
def Cidr.placeEighth {α ζ : Type} (make : α → String → ζ) (parent : Cidr) (index : Nat) (item : α) :
    Except NetworkError ζ := do
  let block ← parent.carve (index * (parent.size / 8)) 3
  return make item block.text

theorem Cidr.placeEighth_eq_ok_iff {α ζ : Type} {make : α → String → ζ} {parent : Cidr} {index : Nat}
    {item : α} {zone : ζ} :
    parent.placeEighth make index item = .ok zone ↔
      ∃ block, parent.carve (index * (parent.size / 8)) 3 = .ok block ∧ make item block.text = zone := by
  simp only [placeEighth, Outcome.bind_eq_ok_iff, Outcome.pure_eq_ok_iff]

namespace AlicloudNetwork

theorem zonesFrom_eq (parent : Cidr) : zonesFrom parent = placeFrom (parent.placeEighth Zone.mk) := by
  funext index names
  induction names generalizing index with
  | nil => rfl
  | cons name rest ih =>
    rw [zonesFrom, placeFrom, ih]
    simp only [Cidr.placeEighth, bind_assoc, pure_bind]

theorem layout_eq : layout = layOut 1 .ok (Cidr.placeEighth Zone.mk) := by
  funext network names
  simp only [layout, zonesFrom_eq]
  rfl

end AlicloudNetwork

namespace AzureNetwork

def zone (number : Int32) (cidr : String) : Zone := ⟨number, cidr, some .standard⟩

theorem zonesFrom_eq (parent : Cidr) : zonesFrom parent = placeFrom (parent.placeEighth zone) := by
  funext index numbers
  induction numbers generalizing index with
  | nil => rfl
  | cons number rest ih =>
    rw [zonesFrom, placeFrom, ih]
    simp only [Cidr.placeEighth, zone, bind_assoc, pure_bind]

theorem layout_eq : layout = layOut 0 (zoneNumbers []) (Cidr.placeEighth zone) := by
  funext network names
  simp only [layout, zonesFrom_eq]
  rfl

end AzureNetwork

end ShootPlan
