import ShootPlan.Proofs.Regrowth
import ShootPlan.Proofs.ZoneRanges
/-!
Growth of documents whatever they record. Their zones may have ranges of any network. Where zones
go by their names, the ranges of the positions behind the known zones decide whether a document
can grow. A document that has grown is the old one with zones appended, and the ranges of these
keep clear of those that were in use.
-/
namespace ShootPlan

/-- Zones of these names can be added behind the known ones in a network. -/
structure Admits (known inUse : List String) (rangesAt : Cidr → Nat → List String)
    (network : Cidr) (added : List String) : Prop where
  sized : 16 ≤ network.length ∧ network.length ≤ 24
  counted : 1 ≤ (known ++ added).length ∧ (known ++ added).length ≤ 8
  distinct : (known ++ added).Nodup
  /-- The ranges of the positions that the added zones take are clear of those in use. -/
  clear : KeepClear inUse ((List.range' known.length added.length).flatMap (rangesAt network))

/-- The zones are the wanted ones, and have parts of the network that are clear of ranges in use. -/
structure Fits {ζ ν : Type} (network : String) (inUse : List String) (name : ζ → ν) (wanted : List ν)
    (ranges : ζ → List String) (fresh : List ζ) : Prop where
  names : fresh.map name = wanted
  parts : ∃ parent, Cidr.parse network = .ok parent ∧ parent.PartedInto (fresh.flatMap ranges)
  clear : KeepClear inUse (fresh.flatMap ranges)

/-- Some of the zones of a layout, where they are clear of the ranges in use. -/
theorem LaysOut.fits {ζ ν : Type} {layout : Except NetworkError (List ζ)} {network : String}
    {acceptable : Prop} {name : ζ → ν} {wanted all : List ν} {ranges : ζ → List String}
    {zones fresh : List ζ} {inUse : List String}
    (hlays : LaysOut layout network acceptable name all ranges) (h : layout = .ok zones)
    (hfresh : fresh.Sublist zones) (hnames : fresh.map name = wanted)
    (hclear : ensureDisjoint inUse (fresh.flatMap ranges) = .ok ()) :
    Fits network inUse name wanted ranges fresh where
  names := hnames
  parts := by
    obtain ⟨parent, hparent, hparted⟩ := hlays.parts zones h
    exact ⟨parent, hparent, hparted.sublist (hfresh.flatMap ranges)⟩
  clear := ensureDisjoint_eq_ok_iff.1 hclear

section

variable {δ ζ : Type} {place : Cidr → Nat → String → Except NetworkError ζ} {name : ζ → String}
  {ranges : ζ → List String} {rangesAt : Cidr → Nat → List String} {network : String}
  {known added inUse : List String} {zones : List ζ} {append : List ζ → δ} {grown : δ}

variable (hlays : LaysOut (layOut 1 .ok place network (known ++ added)) network
  (1 ≤ (known ++ added).length ∧ (known ++ added).length ≤ 8 ∧ (known ++ added).Nodup) name
  (known ++ added) ranges)
include hlays

theorem LaysOut.flatMap_drop {parent : Cidr} (hplace : Positional place ranges rangesAt)
    (hparent : Cidr.parse network = .ok parent)
    (h : layOut 1 .ok place network (known ++ added) = .ok zones) :
    (zones.drop known.length).flatMap ranges =
      (List.range' known.length added.length).flatMap (rangesAt parent) := by
  have hcount : zones.length = known.length + added.length := by
    rw [← List.length_append, ← hlays.names zones h, List.length_map]
  rw [hplace.flatMap_drop_layOut known.length h hparent, hcount, Nat.add_sub_cancel_left]

theorem LaysOut.exists_append_iff (hplace : Positional place ranges rangesAt) :
    (∃ grown, AppendsLaidOut place ranges network known inUse added append grown) ↔
      ∃ parent, Cidr.parse network = .ok parent ∧ Admits known inUse rangesAt parent added := by
  constructor
  · rintro ⟨-, zones, hzones, hclear, -⟩
    obtain ⟨⟨parent, hparent, hsized⟩, hlow, hhigh, hdistinct⟩ := hlays.succeeds.1 ⟨zones, hzones⟩
    rw [hlays.flatMap_drop hplace hparent hzones] at hclear
    exact ⟨parent, hparent, hsized, ⟨hlow, hhigh⟩, hdistinct, ensureDisjoint_eq_ok_iff.1 hclear⟩
  · rintro ⟨parent, hparent, hadmits⟩
    obtain ⟨zones, hzones⟩ := hlays.succeeds.2
      ⟨⟨parent, hparent, hadmits.sized⟩, hadmits.counted.1, hadmits.counted.2, hadmits.distinct⟩
    refine ⟨_, zones, hzones, ?_, rfl⟩
    rw [hlays.flatMap_drop hplace hparent hzones]
    exact ensureDisjoint_eq_ok_iff.2 hadmits.clear

theorem LaysOut.fits_of_append
    (h : AppendsLaidOut place ranges network known inUse added append grown) :
    ∃ fresh, grown = append fresh ∧ Fits network inUse name added ranges fresh := by
  obtain ⟨zones, hzones, hclear, rfl⟩ := h
  refine ⟨_, rfl, hlays.fits hzones (List.drop_sublist _ _) ?_ hclear⟩
  rw [List.map_drop, hlays.names zones hzones, List.drop_left]

end

namespace AzureNetwork.Infrastructure

variable {doc grown : Infrastructure} {network : String} {added : List String}

theorem fits_of_grow (h : doc.grow network added = .ok grown) :
    ∃ fresh, grown = { doc with
        networks := { doc.networks with zones := doc.networks.zones ++ fresh }
        zoned := !(doc.networks.zones ++ fresh).isEmpty } ∧
      Fits network doc.subnets Zone.name (added.filterMap zoneNumber?) (fun zone => [zone.cidr])
        fresh := by
  have hnumbers := filter_numbers_of_grow h
  simp only [grow, Outcome.bind_eq_ok_iff, Outcome.pure_eq_ok_iff] at h
  obtain ⟨zones, hzones, ⟨⟩, hclear, rfl⟩ := h
  have hlays := laysOut network (doc.zoneNames ++ added)
  rw [List.map_eq_flatMap (l := List.filter _ _)] at hclear
  refine ⟨_, rfl, hlays.fits hzones List.filter_sublist ?_ hclear⟩
  rw [map_name_fresh, hlays.names zones hzones, hnumbers]

end AzureNetwork.Infrastructure

/--
A document grows by zones of the network that are clear of all that it has. Where zones go by
their names, it grows just when network and names admit it; on Azure names that mean no number
are skipped.
-/
theorem documents_grow (network : String) (added : List String) :
    (∀ doc : AwsNetwork.Infrastructure,
      ((∃ grown, doc.grow network added = .ok grown) ↔
        ∃ parent, Cidr.parse network = .ok parent ∧
          Admits doc.zoneNames doc.subnets AwsNetwork.rangesAt parent added) ∧
      ∀ grown, doc.grow network added = .ok grown → ∃ fresh,
        grown = { doc with networks := { doc.networks with zones := doc.networks.zones ++ fresh } } ∧
          Fits network doc.subnets AwsNetwork.Zone.name added AwsNetwork.Zone.subnets fresh) ∧
    (∀ doc : AlicloudNetwork.Infrastructure,
      ((∃ grown, doc.grow network added = .ok grown) ↔
        ∃ parent, Cidr.parse network = .ok parent ∧
          Admits doc.zoneNames doc.subnets Cidr.eighthAt parent added) ∧
      ∀ grown, doc.grow network added = .ok grown → ∃ fresh,
        grown = { doc with networks := { doc.networks with zones := doc.networks.zones ++ fresh } } ∧
          Fits network doc.subnets AlicloudNetwork.Zone.name added (fun zone => [zone.workers])
            fresh) ∧
    ∀ doc grown : AzureNetwork.Infrastructure, doc.grow network added = .ok grown → ∃ fresh,
      grown = { doc with
          networks := { doc.networks with zones := doc.networks.zones ++ fresh }
          zoned := !(doc.networks.zones ++ fresh).isEmpty } ∧
        Fits network doc.subnets AzureNetwork.Zone.name (added.filterMap AzureNetwork.zoneNumber?)
          (fun zone => [zone.cidr]) fresh := by
  refine ⟨fun doc => ?_, fun doc => ?_, fun doc grown => AzureNetwork.Infrastructure.fits_of_grow⟩
  · have hlays := AwsNetwork.laysOut network (doc.zoneNames ++ added)
    rw [AwsNetwork.layout_eq] at hlays
    simp only [AwsNetwork.Infrastructure.grow_eq_ok_iff]
    exact ⟨hlays.exists_append_iff AwsNetwork.positional_zone, fun _ => hlays.fits_of_append⟩
  · have hlays := AlicloudNetwork.laysOut network (doc.zoneNames ++ added)
    rw [AlicloudNetwork.layout_eq] at hlays
    simp only [AlicloudNetwork.Infrastructure.grow_eq_ok_iff]
    exact ⟨hlays.exists_append_iff AlicloudNetwork.positional_zone, fun _ => hlays.fits_of_append⟩

/-! Documents that record ranges of other networks, or a range that an added zone would get. -/

def foreignAws : AwsNetwork.Infrastructure where
  networks := {
    vpc := { id := some "vpc-1" }
    zones := [⟨"west", "172.16.0.0/12", " 192.168.7.9/24", "10.249.255.0/+024"⟩] }

def takenAlicloud : AlicloudNetwork.Infrastructure where
  networks := { vpc := {}, zones := [⟨"west", "10.250.0.192/26"⟩] }

def foreignAzure : AzureNetwork.Infrastructure where
  networks := { vnet := {}, zones := [⟨9, "172.16.0.0/12", none⟩] }

theorem documents_grow_sample :
    (∃ parent, Cidr.parse "10.250.0.0/22" = .ok parent ∧
      Admits foreignAws.zoneNames foreignAws.subnets AwsNetwork.rangesAt parent ["east", "north"]) ∧
    (¬∃ parent, Cidr.parse "10.250.0.0/22" = .ok parent ∧
      Admits takenAlicloud.zoneNames takenAlicloud.subnets Cidr.eighthAt parent ["east"]) ∧
    ∃ grown fresh, foreignAzure.grow "10.250.0.0/22" ["eu", "+2"] = .ok grown ∧
      grown.networks.zones = foreignAzure.networks.zones ++ fresh ∧
      Fits "10.250.0.0/22" foreignAzure.subnets AzureNetwork.Zone.name [2] (fun zone => [zone.cidr])
        fresh := by
  obtain ⟨haws, -, -⟩ := documents_grow "10.250.0.0/22" ["east", "north"]
  obtain ⟨-, halicloud, -⟩ := documents_grow "10.250.0.0/22" ["east"]
  obtain ⟨-, -, hazure⟩ := documents_grow "10.250.0.0/22" ["eu", "+2"]
  have htaken : (takenAlicloud.grow "10.250.0.0/22" ["east"]).toOption = none := by rfl
  refine ⟨(haws foreignAws).1.1 ⟨_, rfl⟩, fun hadmits => ?_, ?_⟩
  · obtain ⟨grown, hgrown⟩ := (halicloud takenAlicloud).1.2 hadmits
    rw [hgrown] at htaken
    cases htaken
  · obtain ⟨grown, hgrown⟩ : ∃ grown, foreignAzure.grow "10.250.0.0/22" ["eu", "+2"] = .ok grown :=
      ⟨_, rfl⟩
    obtain ⟨fresh, rfl, hfits⟩ := hazure foreignAzure grown hgrown
    exact ⟨_, fresh, hgrown, rfl, hfits⟩

/-- A cluster that is said to have zones, but has none. -/
def emptyAzure : AzureNetwork.Infrastructure where
  networks := { vnet := {} }
  zoned := true

/-- Growth by no zone changes what the document says of itself. -/
theorem growth_clears_zoned :
    emptyAzure.grow "10.250.0.0/22" ["eu"] = .ok { emptyAzure with zoned := false } ∧
      emptyAzure.networks.zones = [] ∧ emptyAzure.zoned = true := by
  decide +kernel

end ShootPlan
