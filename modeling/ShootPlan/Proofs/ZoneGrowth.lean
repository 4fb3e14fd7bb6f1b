import ShootPlan.Proofs.Numerals
import ShootPlan.Proofs.ZoneLayout
/-!
Documents that grow. The zones of a document stay as they are, the added ones follow them,
and if the subnets were disjoint before, they are afterwards.
-/
namespace ShootPlan

section

variable {δ ζ : Type} {place : Cidr → Nat → String → Except NetworkError ζ} {name : ζ → String}
  {ranges : ζ → List String} {start : Cidr → Nat → Nat} {network : String} {names added : List String}
  {known zones : List ζ} {append : List ζ → δ} {grown : δ}

/-- A layout of known and added zones, of which the added ones are appended where they are clear. -/
def AppendsLaidOut (place : Cidr → Nat → String → Except NetworkError ζ) (ranges : ζ → List String)
    (network : String) (known inUse added : List String) (append : List ζ → δ) (grown : δ) : Prop :=
  ∃ zones, layOut 1 .ok place network (known ++ added) = .ok zones ∧
    ensureDisjoint inUse ((zones.drop known.length).flatMap ranges) = .ok () ∧
    append (zones.drop known.length) = grown

variable
  (hplace : ∀ {parent : Cidr}, parent.Workable → PlacesInOrder (place parent) name ranges (start parent))
include hplace

theorem PlacesInOrder.allocated_of_layOut (h : layOut 1 .ok place network names = .ok zones) :
    zones.map name = names ∧ (zones.map name).length ≤ maxZones ∧ (zones.map name).Nodup ∧
      DisjointSubnets (zones.flatMap ranges) := by
  obtain ⟨rfl, hcount, hnodup, blocks, htexts, hapart⟩ := of_layOut_names hplace h
  refine ⟨rfl, hcount, hnodup, ?_⟩
  rw [htexts]
  exact disjointSubnets_texts hapart

/-- With what is appended, the zones have the known names and the added ones behind them. -/
theorem AppendsLaidOut.exists_fresh
    (h : AppendsLaidOut place ranges network (known.map name) (known.flatMap ranges) added append grown) :
    ∃ fresh, grown = append fresh ∧ (known ++ fresh).map name = known.map name ++ added ∧
      ((known ++ fresh).map name).length ≤ maxZones ∧ ((known ++ fresh).map name).Nodup ∧
      (DisjointSubnets (known.flatMap ranges) → DisjointSubnets ((known ++ fresh).flatMap ranges)) := by
  obtain ⟨zones, hzones, hclear, rfl⟩ := h
  obtain ⟨hnames, hcount, hnodup, blocks, htexts, hapart⟩ := PlacesInOrder.of_layOut_names hplace hzones
  have hall : (known ++ zones.drop (known.map name).length).map name = known.map name ++ added := by
    rw [List.map_append, List.map_drop, hnames, List.drop_left]
  rw [← hall] at hcount hnodup
  refine ⟨_, rfl, hall, hcount, hnodup, fun hdisjoint => ?_⟩
  have hsublist := (List.drop_sublist (known.map name).length zones).flatMap ranges
  rw [htexts] at hsublist
  rw [List.flatMap_append]
  exact hdisjoint.append hapart hsublist hclear

end

namespace AwsNetwork.Infrastructure

variable {doc grown : Infrastructure} {network : String} {names added : List String}

def subnets (doc : Infrastructure) : List String := doc.networks.zones.flatMap Zone.subnets

theorem create_eq_ok_iff {dualStack : Bool} : create network names dualStack = .ok doc ↔
    ∃ zones, layOut 1 .ok zone network names = .ok zones ∧
      { networks := { vpc := { cidr := some network }, zones }
        dualStack := if dualStack then some ⟨true⟩ else none } = doc := by
  simp only [create, layout_eq, Outcome.bind_eq_ok_iff, Outcome.pure_eq_ok_iff]

theorem grow_eq_ok_iff : doc.grow network added = .ok grown ↔
    AppendsLaidOut zone Zone.subnets network doc.zoneNames doc.subnets added (fun fresh =>
      { doc with networks := { doc.networks with zones := doc.networks.zones ++ fresh } }) grown := by
  have hlength : doc.zoneNames.length = doc.networks.zones.length := List.length_map _
  simp only [grow, layout_eq, AppendsLaidOut, hlength, Outcome.bind_eq_ok_iff, Outcome.pure_eq_ok_iff,
    Unique.exists_iff]
  rfl

theorem create_eq_ok {dualStack : Bool} (h : create network names dualStack = .ok doc) :
    doc.zoneNames = names ∧ doc.zoneNames.length ≤ maxZones ∧ doc.zoneNames.Nodup ∧
      DisjointSubnets doc.subnets := by
  obtain ⟨zones, hzones, rfl⟩ := create_eq_ok_iff.1 h
  exact PlacesInOrder.allocated_of_layOut placesInOrder hzones

theorem grow_eq_ok (h : doc.grow network added = .ok grown) :
    ∃ fresh, grown = { doc with networks := { doc.networks with zones := doc.networks.zones ++ fresh } } ∧
      grown.zoneNames = doc.zoneNames ++ added ∧ grown.zoneNames.length ≤ maxZones ∧
      grown.zoneNames.Nodup ∧ (DisjointSubnets doc.subnets → DisjointSubnets grown.subnets) := by
  obtain ⟨fresh, rfl, hfresh⟩ := (grow_eq_ok_iff.1 h).exists_fresh placesInOrder
  exact ⟨fresh, rfl, hfresh⟩

end AwsNetwork.Infrastructure

namespace AlicloudNetwork.Infrastructure

variable {doc grown : Infrastructure} {network : String} {names added : List String}

def subnets (doc : Infrastructure) : List String := doc.networks.zones.map Zone.workers

theorem subnets_eq_flatMap (doc : Infrastructure) :
    doc.subnets = doc.networks.zones.flatMap fun zone => [zone.workers] := List.map_eq_flatMap

theorem create_eq_ok_iff : create network names = .ok doc ↔
    ∃ zones, layOut 1 .ok (Cidr.placeEighth Zone.mk) network names = .ok zones ∧
      { networks := { vpc := { cidr := some network }, zones } } = doc := by
  simp only [create, layout_eq, Outcome.bind_eq_ok_iff, Outcome.pure_eq_ok_iff]

theorem grow_eq_ok_iff : doc.grow network added = .ok grown ↔
    AppendsLaidOut (Cidr.placeEighth Zone.mk) (fun zone => [zone.workers]) network doc.zoneNames
      doc.subnets added (fun fresh =>
        { doc with networks := { doc.networks with zones := doc.networks.zones ++ fresh } }) grown := by
  have hlength : doc.zoneNames.length = doc.networks.zones.length := List.length_map _
  simp only [grow, layout_eq, AppendsLaidOut, hlength, Outcome.bind_eq_ok_iff, Outcome.pure_eq_ok_iff,
    Unique.exists_iff, ← List.map_eq_flatMap]
  rfl

theorem create_eq_ok (h : create network names = .ok doc) :
    doc.zoneNames = names ∧ doc.zoneNames.length ≤ maxZones ∧ doc.zoneNames.Nodup ∧
      DisjointSubnets doc.subnets := by
  obtain ⟨zones, hzones, rfl⟩ := create_eq_ok_iff.1 h
  rw [subnets_eq_flatMap]
  exact PlacesInOrder.allocated_of_layOut placesInOrder hzones

theorem grow_eq_ok (h : doc.grow network added = .ok grown) :
    ∃ fresh, grown = { doc with networks := { doc.networks with zones := doc.networks.zones ++ fresh } } ∧
      grown.zoneNames = doc.zoneNames ++ added ∧ grown.zoneNames.length ≤ maxZones ∧
      grown.zoneNames.Nodup ∧ (DisjointSubnets doc.subnets → DisjointSubnets grown.subnets) := by
  have hgrow := grow_eq_ok_iff.1 h
  rw [subnets_eq_flatMap] at hgrow
  obtain ⟨fresh, rfl, hfresh⟩ := hgrow.exists_fresh placesInOrder
  simp only [subnets_eq_flatMap]
  exact ⟨fresh, rfl, hfresh⟩

end AlicloudNetwork.Infrastructure

namespace AzureNetwork

/-- The numbers that a zone can have. -/
def zoneRange : List Int32 := [1, 2, 3, 4, 5, 6, 7, 8]

theorem mem_zoneRange_of_zoneNumber? {name : String} {n : Int32} (h : zoneNumber? name = some n) :
    n ∈ zoneRange := by
  unfold zoneNumber? at h
  split at h
  · split_ifs at h with hrange
    obtain ⟨hlow, hhigh⟩ := hrange
    obtain rfl := Option.some.inj h
    interval_cases ‹Int› <;> decide
  · cases h

theorem zoneNumber?_toString_iff {m n : Int32} :
    zoneNumber? (toString m.toInt) = some n ↔ n = m ∧ 1 ≤ m.toInt ∧ m.toInt ≤ 8 := by
  rw [zoneNumber?, Numeral.signed?_toString]
  simp only
  split_ifs with hrange
  · rw [Int32.ofInt_toInt, Option.some.injEq]
    exact ⟨fun h => ⟨h.symm, hrange⟩, fun h => h.1.symm⟩
  · simp [hrange]

theorem zoneNumber?_toString {n : Int32} (h : n ∈ zoneRange) :
    zoneNumber? (toString n.toInt) = some n := by
  refine zoneNumber?_toString_iff.2 ⟨rfl, ?_⟩
  fin_cases h <;> decide

namespace Infrastructure

variable {doc grown : Infrastructure} {network : String} {names added : List String}

def subnets (doc : Infrastructure) : List String := doc.networks.zones.map Zone.cidr

def numbers (doc : Infrastructure) : List Int32 := doc.networks.zones.map Zone.name

theorem zoneNames_eq_map (doc : Infrastructure) :
    doc.zoneNames = doc.numbers.map fun n => toString n.toInt := by
  rw [zoneNames, numbers, List.map_map]
  rfl

/-- Distinct numbers, each of which a name can mean. -/
def Numbered (doc : Infrastructure) : Prop :=
  doc.numbers.Nodup ∧ ∀ n ∈ doc.numbers, n ∈ zoneRange

theorem Numbered.nodup_zoneNames (h : doc.Numbered) : doc.zoneNames.Nodup := by
  rw [zoneNames_eq_map]
  refine h.1.map_on fun a ha b hb hab => ?_
  have ha' := zoneNumber?_toString (h.2 a ha)
  have hb' := zoneNumber?_toString (h.2 b hb)
  rw [hab, hb'] at ha'
  exact (Option.some.inj ha').symm

theorem Numbered.length_zoneNames (h : doc.Numbered) : doc.zoneNames.length ≤ maxZones := by
  have hlength := (List.subperm_of_subset h.1 h.2).length_le
  rw [zoneNames_eq_map, List.length_map]
  exact hlength

theorem create_eq_ok (h : create network names = .ok doc) :
    doc.Numbered ∧ DisjointSubnets doc.subnets := by
  simp only [create, Outcome.bind_eq_ok_iff] at h
  obtain ⟨zones, hzones, h⟩ := h
  obtain ⟨hnames, blocks, htexts, hapart⟩ := layout_eq_ok hzones
  obtain ⟨-, -, hdistinct, -⟩ := layout_eq_ok_iff.1 hzones
  have hdoc : doc.networks.zones = zones := by
    split_ifs at h with hempty
    · obtain rfl := Outcome.pure_eq_ok_iff.1 h
      exact (List.isEmpty_iff.1 hempty).symm
    · obtain rfl := Outcome.pure_eq_ok_iff.1 h
      rfl
  refine ⟨⟨?_, fun n hn => ?_⟩, ?_⟩
  · rw [numbers, hdoc, hnames]
    exact hdistinct
  · rw [numbers, hdoc, hnames] at hn
    obtain ⟨name, -, hname⟩ := List.mem_filterMap.1 hn
    exact mem_zoneRange_of_zoneNumber? hname
  · rw [subnets, hdoc, htexts]
    exact disjointSubnets_texts hapart

/-- Of a layout the zones are fresh whose numbers the document does not have. -/
theorem map_name_fresh (doc : Infrastructure) (zones : List Zone) :
    (zones.filter fun zone => !doc.networks.zones.any fun z => z.name == zone.name).map Zone.name =
      (zones.map Zone.name).filter (· ∉ doc.numbers) := by
  rw [List.filter_map]
  congr 1
  refine List.filter_congr fun zone _ => ?_
  rw [Bool.eq_iff_iff]
  simp [numbers, List.any_eq_false]

theorem grow_eq_ok (h : doc.grow network added = .ok grown) :
    ∃ fresh, grown = { doc with
        networks := { doc.networks with zones := doc.networks.zones ++ fresh }
        zoned := !(doc.networks.zones ++ fresh).isEmpty } ∧
      fresh.map Zone.name =
        ((doc.zoneNames ++ added).filterMap zoneNumber?).filter (· ∉ doc.numbers) ∧
      (DisjointSubnets doc.subnets → DisjointSubnets grown.subnets) := by
  simp only [grow, Outcome.bind_eq_ok_iff, Outcome.pure_eq_ok_iff] at h
  obtain ⟨zones, hzones, ⟨⟩, hclear, rfl⟩ := h
  obtain ⟨hnames, blocks, htexts, hapart⟩ := layout_eq_ok hzones
  refine ⟨_, rfl, hnames ▸ map_name_fresh doc zones, fun hdisjoint => ?_⟩
  have hsublist := (List.filter_sublist (l := zones)
    (p := fun zone => !doc.networks.zones.any fun z => z.name == zone.name)).map Zone.cidr
  rw [htexts] at hsublist
  simp only [subnets, List.map_append]
  exact hdisjoint.append hapart hsublist hclear

theorem Numbered.grow (hdoc : doc.Numbered) (h : doc.grow network added = .ok grown) :
    grown.Numbered := by
  obtain ⟨fresh, rfl, hfresh, -⟩ := grow_eq_ok h
  obtain ⟨zones, hzones, -⟩ := by
    simp only [grow, Outcome.bind_eq_ok_iff] at h
    exact h
  obtain ⟨-, -, hdistinct, -⟩ := layout_eq_ok_iff.1 hzones
  simp only [Numbered, numbers, List.map_append, hfresh]
  refine ⟨List.nodup_append.2 ⟨hdoc.1, hdistinct.filter _, ?_⟩, fun n hn => ?_⟩
  · rintro a ha b hb rfl
    exact of_decide_eq_true (List.mem_filter.1 hb).2 ha
  · rcases List.mem_append.1 hn with hn | hn
    · exact hdoc.2 n hn
    · obtain ⟨name, -, hname⟩ := List.mem_filterMap.1 (List.mem_of_mem_filter hn)
      exact mem_zoneRange_of_zoneNumber? hname

end Infrastructure

end AzureNetwork

namespace InfrastructureDocument

variable {doc grown : InfrastructureDocument} {provider : Hyperscaler} {network : String}
  {zones added : List String}

/-- All ranges of all zones; OpenStack records none. -/
def subnets : InfrastructureDocument → List String
  | aws doc => doc.subnets
  | azure doc => doc.subnets
  | alicloud doc => doc.subnets
  | openstack _ => []

/-- The zones that the document records. -/
def names (doc : InfrastructureDocument) : List String := doc.zoneNames?.getD []

/-- Zones that fit into one network: few enough, with names and ranges of their own. -/
structure Allocated (doc : InfrastructureDocument) : Prop where
  distinct : doc.names.Nodup
  few : doc.names.length ≤ maxZones
  disjoint : DisjointSubnets doc.subnets

/-- On Azure the zones have numbers that names can mean, which later growth relies on. -/
def Numbered : InfrastructureDocument → Prop
  | azure doc => doc.Numbered
  | _ => True

theorem provider_of_create {dualStack : Bool} (h : create provider network zones dualStack = .ok doc) :
    doc.provider = provider := by
  cases provider <;> obtain ⟨_, -, rfl⟩ := Outcome.map_eq_ok_iff.1 h <;> rfl

/-- Zones are appended to the document, and on Azure it says anew whether it has any. -/
inductive GainsZones : InfrastructureDocument → InfrastructureDocument → Prop
  | aws (doc : AwsNetwork.Infrastructure) (fresh : List AwsNetwork.Zone) :
    GainsZones (.aws doc) (.aws
      { doc with networks := { doc.networks with zones := doc.networks.zones ++ fresh } })
  | azure (doc : AzureNetwork.Infrastructure) (fresh : List AzureNetwork.Zone) :
    GainsZones (.azure doc) (.azure { doc with
      networks := { doc.networks with zones := doc.networks.zones ++ fresh }
      zoned := !(doc.networks.zones ++ fresh).isEmpty })
  | alicloud (doc : AlicloudNetwork.Infrastructure) (fresh : List AlicloudNetwork.Zone) :
    GainsZones (.alicloud doc) (.alicloud
      { doc with networks := { doc.networks with zones := doc.networks.zones ++ fresh } })
  | openstack (doc : OpenStackNetwork.Infrastructure) : GainsZones (.openstack doc) (.openstack doc)

theorem gainsZones_of_grow (h : doc.grow network added = .ok grown) : doc.GainsZones grown := by
  cases doc with
  | aws doc =>
    obtain ⟨_, haws, rfl⟩ := Outcome.map_eq_ok_iff.1 h
    obtain ⟨fresh, rfl, -⟩ := AwsNetwork.Infrastructure.grow_eq_ok haws
    exact .aws doc fresh
  | azure doc =>
    obtain ⟨_, hazure, rfl⟩ := Outcome.map_eq_ok_iff.1 h
    obtain ⟨fresh, rfl, -⟩ := AzureNetwork.Infrastructure.grow_eq_ok hazure
    exact .azure doc fresh
  | alicloud doc =>
    obtain ⟨_, halicloud, rfl⟩ := Outcome.map_eq_ok_iff.1 h
    obtain ⟨fresh, rfl, -⟩ := AlicloudNetwork.Infrastructure.grow_eq_ok halicloud
    exact .alicloud doc fresh
  | openstack doc =>
    cases h
    exact .openstack doc

theorem provider_of_grow (h : doc.grow network added = .ok grown) : grown.provider = doc.provider := by
  cases gainsZones_of_grow h <;> rfl

theorem allocated_of_create {dualStack : Bool}
    (h : create provider network zones dualStack = .ok doc) : doc.Allocated ∧ doc.Numbered := by
  cases provider with
  | aws =>
    obtain ⟨aws, haws, rfl⟩ := Outcome.map_eq_ok_iff.1 h
    obtain ⟨-, hcount, hnodup, hdisjoint⟩ := AwsNetwork.Infrastructure.create_eq_ok haws
    exact ⟨⟨hnodup, hcount, hdisjoint⟩, trivial⟩
  | azure =>
    obtain ⟨azure, hazure, rfl⟩ := Outcome.map_eq_ok_iff.1 h
    obtain ⟨hnumbered, hdisjoint⟩ := AzureNetwork.Infrastructure.create_eq_ok hazure
    exact ⟨⟨hnumbered.nodup_zoneNames, hnumbered.length_zoneNames, hdisjoint⟩, hnumbered⟩
  | alicloud =>
    obtain ⟨alicloud, halicloud, rfl⟩ := Outcome.map_eq_ok_iff.1 h
    obtain ⟨-, hcount, hnodup, hdisjoint⟩ := AlicloudNetwork.Infrastructure.create_eq_ok halicloud
    exact ⟨⟨hnodup, hcount, hdisjoint⟩, trivial⟩
  | openstack =>
    obtain ⟨openstack, -, rfl⟩ := Outcome.map_eq_ok_iff.1 h
    exact ⟨⟨.nil, Nat.zero_le _, [], rfl, .nil⟩, trivial⟩

/-- Growth keeps zones few and apart. -/
theorem Allocated.grow (hdoc : doc.Allocated) (hnumbered : doc.Numbered)
    (h : doc.grow network added = .ok grown) : grown.Allocated ∧ grown.Numbered := by
  cases doc with
  | aws aws =>
    obtain ⟨_, haws, rfl⟩ := Outcome.map_eq_ok_iff.1 h
    obtain ⟨fresh, rfl, -, hcount, hnodup, hdisjoint⟩ := AwsNetwork.Infrastructure.grow_eq_ok haws
    exact ⟨⟨hnodup, hcount, hdisjoint hdoc.disjoint⟩, trivial⟩
  | azure azure =>
    obtain ⟨grown, hazure, rfl⟩ := Outcome.map_eq_ok_iff.1 h
    have hgrown : grown.Numbered := AzureNetwork.Infrastructure.Numbered.grow hnumbered hazure
    obtain ⟨fresh, -, -, hdisjoint⟩ := AzureNetwork.Infrastructure.grow_eq_ok hazure
    exact ⟨⟨hgrown.nodup_zoneNames, hgrown.length_zoneNames, hdisjoint hdoc.disjoint⟩, hgrown⟩
  | alicloud alicloud =>
    obtain ⟨_, halicloud, rfl⟩ := Outcome.map_eq_ok_iff.1 h
    obtain ⟨fresh, rfl, -, hcount, hnodup, hdisjoint⟩ :=
      AlicloudNetwork.Infrastructure.grow_eq_ok halicloud
    exact ⟨⟨hnodup, hcount, hdisjoint hdoc.disjoint⟩, trivial⟩
  | openstack openstack =>
    cases h
    exact ⟨hdoc, trivial⟩

/-- On these providers a zone is known by the name that pools use for it. -/
def GoesByName (provider : Hyperscaler) : Prop := provider = .aws ∨ provider = .alicloud

theorem names_of_create {dualStack : Bool} (hnamed : GoesByName provider)
    (h : create provider network zones dualStack = .ok doc) : doc.names = zones := by
  rcases hnamed with rfl | rfl
  · obtain ⟨aws, haws, rfl⟩ := Outcome.map_eq_ok_iff.1 h
    exact (AwsNetwork.Infrastructure.create_eq_ok haws).1
  · obtain ⟨alicloud, halicloud, rfl⟩ := Outcome.map_eq_ok_iff.1 h
    exact (AlicloudNetwork.Infrastructure.create_eq_ok halicloud).1

theorem names_of_grow (hnamed : GoesByName doc.provider) (h : doc.grow network added = .ok grown) :
    grown.names = doc.names ++ added := by
  cases doc with
  | aws aws =>
    obtain ⟨_, haws, rfl⟩ := Outcome.map_eq_ok_iff.1 h
    obtain ⟨fresh, rfl, hnames, -⟩ := AwsNetwork.Infrastructure.grow_eq_ok haws
    exact hnames
  | alicloud alicloud =>
    obtain ⟨_, halicloud, rfl⟩ := Outcome.map_eq_ok_iff.1 h
    obtain ⟨fresh, rfl, hnames, -⟩ := AlicloudNetwork.Infrastructure.grow_eq_ok halicloud
    exact hnames
  | azure => rcases hnamed with h | h <;> cases h
  | openstack => rcases hnamed with h | h <;> cases h

end InfrastructureDocument

end ShootPlan
