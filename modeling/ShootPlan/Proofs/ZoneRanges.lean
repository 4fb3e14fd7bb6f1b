import ShootPlan.Proofs.NetworkPartition
import ShootPlan.Proofs.ZoneGrowth
/-!
The ranges of a zone depend on its position and on the network it is carved from, and on
nothing else. So a document that grows gets the ranges of the positions behind those it has,
in the network that it grows in.
-/
namespace ShootPlan

section

variable {α ζ : Type} {place : Cidr → Nat → α → Except NetworkError ζ} {ranges : ζ → List String}
  {rangesAt : Cidr → Nat → List String}

/-- A zone has the ranges of its position, whatever it is made for. -/
structure Positional (place : Cidr → Nat → α → Except NetworkError ζ) (ranges : ζ → List String)
    (rangesAt : Cidr → Nat → List String) : Prop where
  ranges_eq : ∀ {parent index item zone}, place parent index item = .ok zone →
    ranges zone = rangesAt parent index

namespace Positional

variable {parent : Cidr} {index : Nat} {items : List α} {known zones : List ζ}
  (hplace : Positional place ranges rangesAt)

include hplace

theorem map_placeFrom (h : placeFrom (place parent) index items = .ok zones) :
    zones.map ranges = (List.range' index zones.length).map (rangesAt parent) := by
  induction items generalizing index zones with
  | nil =>
    cases h
    rfl
  | cons item rest ih =>
    simp only [placeFrom, Outcome.bind_eq_ok_iff, Outcome.pure_eq_ok_iff] at h
    obtain ⟨zone, hzone, others, hothers, rfl⟩ := h
    have hfirst := hplace.ranges_eq hzone
    have hrest := ih hothers
    rw [List.map_cons, List.length_cons, List.range'_succ, List.map_cons, hfirst, hrest]

/-- The zones of a layout from a position on have the ranges of these positions. -/
theorem flatMap_drop_layOut {least : Nat} {means : List String → Except NetworkError (List α)}
    {network : String} {names : List String} (position : Nat)
    (h : layOut least means place network names = .ok zones)
    (hparent : Cidr.parse network = .ok parent) :
    (zones.drop position).flatMap ranges =
      (List.range' position (zones.length - position)).flatMap (rangesAt parent) := by
  obtain ⟨-, block, items, hblock, -, hzones⟩ := layOut_eq_ok_iff.1 h
  obtain rfl := Except.ok.inj (hparent.symm.trans (workerNetwork_eq_ok_iff.1 hblock).1)
  rw [List.flatMap_def, List.flatMap_def, List.map_drop, hplace.map_placeFrom hzones, ← List.map_drop,
    List.drop_range', Nat.zero_add, Nat.mul_one]

/-- What a layout has more than the known zones takes the positions behind theirs. -/
theorem append_drop_layOut {least : Nat} {means : List String → Except NetworkError (List α)}
    {network : String} {names : List String} (known : List ζ)
    (h : layOut least means place network names = .ok zones) :
    ∃ parent count, Cidr.parse network = .ok parent ∧
      (known ++ zones.drop known.length).length = known.length + count ∧
      (known ++ zones.drop known.length).flatMap ranges =
        known.flatMap ranges ++ (List.range' known.length count).flatMap (rangesAt parent) := by
  obtain ⟨-, parent, -, hparent, -⟩ := layOut_eq_ok_iff.1 h
  have hnetwork := (workerNetwork_eq_ok_iff.1 hparent).1
  refine ⟨parent, zones.length - known.length, hnetwork, ?_, ?_⟩
  · rw [List.length_append, List.length_drop]
  · rw [List.flatMap_append, hplace.flatMap_drop_layOut known.length h hnetwork]

end Positional

/-- What is appended to the known zones has the ranges of the positions behind theirs. -/
theorem AppendsLaidOut.exists_positions {δ : Type} {place : Cidr → Nat → String → Except NetworkError ζ}
    {name : ζ → String} {network : String} {known : List ζ} {inUse added : List String}
    {append : List ζ → δ} {grown : δ} (hplace : Positional place ranges rangesAt)
    (h : AppendsLaidOut place ranges network (known.map name) inUse added append grown) :
    ∃ fresh, grown = append fresh ∧ ∃ parent count, Cidr.parse network = .ok parent ∧
      (known ++ fresh).length = known.length + count ∧
      (known ++ fresh).flatMap ranges =
        known.flatMap ranges ++ (List.range' known.length count).flatMap (rangesAt parent) := by
  obtain ⟨zones, hzones, -, rfl⟩ := h
  rw [List.length_map]
  exact ⟨_, rfl, hplace.append_drop_layOut known hzones⟩

end

namespace AwsNetwork

/-- The ranges of the zone at this position. -/
def rangesAt (parent : Cidr) (index : Nat) : List String :=
  match zone parent index "" with
  | .ok zone => zone.subnets
  | .error _ => []

theorem positional_zone : Positional zone Zone.subnets rangesAt where
  ranges_eq {parent index name z} h := by
    simp only [zone, Outcome.bind_eq_ok_iff, Outcome.pure_eq_ok_iff] at h
    obtain ⟨workers, hworkers, public_, hpublic, internal, hinternal, rfl⟩ := h
    have hunnamed : zone parent index "" = .ok ⟨"", workers.text, public_.text, internal.text⟩ := by
      simp only [zone, Outcome.bind_eq_ok_iff, Outcome.pure_eq_ok_iff]
      exact ⟨workers, hworkers, public_, hpublic, internal, hinternal, rfl⟩
    rw [rangesAt, hunnamed]
    rfl

end AwsNetwork

/-- The eighth of the network at this position. -/
def Cidr.eighthAt (parent : Cidr) (index : Nat) : List String :=
  match parent.carve (index * (parent.size / 8)) 3 with
  | .ok block => [block.text]
  | .error _ => []

theorem Positional.eighths {α ζ : Type} {make : α → String → ζ} {range : ζ → String}
    (hrange : ∀ item text, range (make item text) = text) :
    Positional (Cidr.placeEighth make) (fun zone => [range zone]) Cidr.eighthAt where
  ranges_eq {parent index item zone} h := by
    obtain ⟨block, hblock, rfl⟩ := Cidr.placeEighth_eq_ok_iff.1 h
    simp only [Cidr.eighthAt, hblock, hrange]

theorem AlicloudNetwork.positional_zone :
    Positional (Cidr.placeEighth Zone.mk) (fun zone => [zone.workers]) Cidr.eighthAt :=
  .eighths fun _ _ => rfl

theorem AzureNetwork.positional_zone :
    Positional (Cidr.placeEighth zone) (fun zone => [zone.cidr]) Cidr.eighthAt :=
  .eighths fun _ _ => rfl

namespace AzureNetwork.Infrastructure

variable {doc grown : Infrastructure} {network : String} {added : List String} {zones : List Zone}

theorem Numbered.filterMap_zoneNames (h : doc.Numbered) :
    doc.zoneNames.filterMap zoneNumber? = doc.numbers := by
  rw [zoneNames_eq_map, List.filterMap_map]
  refine (List.filterMap_congr fun n hn => ?_).trans List.filterMap_some
  exact zoneNumber?_toString (h.2 n hn)

/-- The zones whose numbers the document has are the first ones of the layout. -/
theorem Numbered.fresh_eq_drop (hdoc : doc.Numbered)
    (h : layout network (doc.zoneNames ++ added) = .ok zones) :
    (zones.filter fun zone => !doc.networks.zones.any fun z => z.name == zone.name) =
      zones.drop doc.networks.zones.length := by
  obtain ⟨hnames, -⟩ := layout_eq_ok h
  obtain ⟨-, -, hdistinct, -⟩ := layout_eq_ok_iff.1 h
  rw [List.filterMap_append, hdoc.filterMap_zoneNames] at hnames hdistinct
  have hlength : doc.numbers.length = doc.networks.zones.length := List.length_map _
  have hknown : (zones.take doc.networks.zones.length).map Zone.name = doc.numbers := by
    rw [List.map_take, hnames, ← hlength, List.take_left]
  have hnew : (zones.drop doc.networks.zones.length).map Zone.name = added.filterMap zoneNumber? := by
    rw [List.map_drop, hnames, ← hlength, List.drop_left]
  have hany (zone : Zone) :
      (doc.networks.zones.any fun z => z.name == zone.name) = true ↔ zone.name ∈ doc.numbers := by
    simp [numbers]
  conv_lhs => rw [← List.take_append_drop doc.networks.zones.length zones]
  rw [List.filter_append, List.filter_eq_nil_iff.2, List.filter_eq_self.2, List.nil_append]
  · intro zone hzone
    have hmem : zone.name ∈ added.filterMap zoneNumber? := hnew ▸ List.mem_map_of_mem hzone
    rw [Bool.not_eq_true', Bool.eq_false_iff, ne_eq, hany]
    exact fun hold => (List.nodup_append.1 hdistinct).2.2 _ hold _ hmem rfl
  · intro zone hzone
    have hmem : zone.name ∈ doc.numbers := hknown ▸ List.mem_map_of_mem hzone
    simp [(hany zone).2 hmem]

end AzureNetwork.Infrastructure

/-- The ranges of the zone at this position of a worker network; OpenStack zones have none. -/
def Hyperscaler.rangesAt : Hyperscaler → Cidr → Nat → List String
  | .aws => AwsNetwork.rangesAt
  | .azure => Cidr.eighthAt
  | .alicloud => Cidr.eighthAt
  | .openstack => fun _ _ => []

namespace InfrastructureDocument

variable {doc grown : InfrastructureDocument} {provider : Hyperscaler} {network : String}
  {zones added : List String}

/-- Growth appends the ranges of the positions behind those that are taken. -/
theorem subnets_of_grow (hprovider : doc.provider ≠ .openstack) (hdoc : doc.Numbered)
    (h : doc.grow network added = .ok grown) :
    ∃ parent count, Cidr.parse network = .ok parent ∧
      grown.names.length = doc.names.length + count ∧
      grown.subnets = doc.subnets ++
        (List.range' doc.names.length count).flatMap (doc.provider.rangesAt parent) := by
  cases doc with
  | openstack => exact absurd rfl hprovider
  | aws aws =>
    obtain ⟨_, haws, rfl⟩ := Outcome.map_eq_ok_iff.1 h
    have hgrow := AwsNetwork.Infrastructure.grow_eq_ok_iff.1 haws
    obtain ⟨fresh, rfl, hranges⟩ := hgrow.exists_positions AwsNetwork.positional_zone
    simp only [names, zoneNames?, Option.getD_some, AwsNetwork.Infrastructure.zoneNames, List.length_map]
    exact hranges
  | azure azure =>
    obtain ⟨_, hazure, rfl⟩ := Outcome.map_eq_ok_iff.1 h
    simp only [AzureNetwork.Infrastructure.grow, Outcome.bind_eq_ok_iff, Outcome.pure_eq_ok_iff] at hazure
    obtain ⟨zones, hzones, -, -, rfl⟩ := hazure
    have hfresh := AzureNetwork.Infrastructure.Numbered.fresh_eq_drop hdoc hzones
    rw [AzureNetwork.layout_eq] at hzones
    obtain ⟨parent, count, hparent, hcount, hranges⟩ :=
      AzureNetwork.positional_zone.append_drop_layOut azure.networks.zones hzones
    rw [← List.map_eq_flatMap, ← List.map_eq_flatMap] at hranges
    simp only [names, zoneNames?, Option.getD_some, AzureNetwork.Infrastructure.zoneNames, List.length_map,
      hfresh]
    exact ⟨parent, count, hparent, hcount, hranges⟩
  | alicloud alicloud =>
    obtain ⟨_, halicloud, rfl⟩ := Outcome.map_eq_ok_iff.1 h
    have hgrow := AlicloudNetwork.Infrastructure.grow_eq_ok_iff.1 halicloud
    obtain ⟨fresh, rfl, hranges⟩ := hgrow.exists_positions AlicloudNetwork.positional_zone
    simp only [names, zoneNames?, Option.getD_some, AlicloudNetwork.Infrastructure.zoneNames,
      List.length_map]
    rw [subnets, subnets, AlicloudNetwork.Infrastructure.subnets_eq_flatMap,
      AlicloudNetwork.Infrastructure.subnets_eq_flatMap]
    exact hranges

end InfrastructureDocument

end ShootPlan
