import ShootPlan.Proofs.DocumentJson
import ShootPlan.Proofs.Regrowth
import ShootPlan.Proofs.ZonePlacement
/-!
Zones that come in batches. The layout of the first names is where the layout of all names
starts, so a document that grows batch by batch ends as the one that is made for all names
at once.
-/
namespace ShootPlan

/-- The zones of the first names do not depend on the names after them. -/
structure AppendStable {ζ : Type} (least : Nat)
    (layout : List String → Except NetworkError (List ζ)) : Prop where
  least_le : ∀ {names zones}, layout names = .ok zones → least ≤ names.length
  exists_prefix : ∀ {names more zones}, layout (names ++ more) = .ok zones → least ≤ names.length →
    ∃ before, layout names = .ok before ∧ before <+: zones

namespace AppendStable

variable {ζ : Type} {least : Nat} {layout : List String → Except NetworkError (List ζ)}
  {names added more : List String} {before zones : List ζ} (hstable : AppendStable least layout)

include hstable

theorem exists_append (h : layout names = .ok before) (hwhole : layout (names ++ more) = .ok zones) :
    ∃ after, before ++ after = zones := by
  obtain ⟨other, hother, hprefix⟩ := hstable.exists_prefix hwhole (hstable.least_le h)
  obtain rfl : before = other := Except.ok.inj (h.symm.trans hother)
  exact hprefix

/-- What can be made where there is a layout can be made for every number of names in between. -/
theorem exists_between {δ : Type} {f : List String → Except NetworkError δ}
    (hf : ∀ names, (∃ doc, f names = .ok doc) ↔ ∃ zones, layout names = .ok zones)
    (h : ∃ start, f names = .ok start) (hwhole : ∃ whole, f (names ++ added ++ more) = .ok whole) :
    ∃ doc, f (names ++ added) = .ok doc := by
  rw [hf] at h hwhole ⊢
  obtain ⟨before, hbefore⟩ := h
  obtain ⟨zones, hzones⟩ := hwhole
  have hlength : least ≤ (names ++ added).length := by
    have hleast := hstable.least_le hbefore
    rw [List.length_append]
    omega
  exact (hstable.exists_prefix hzones hlength).imp fun _ h => h.1

end AppendStable

theorem appendStable_layOut {α ζ : Type} {least : Nat}
    {means : List String → Except NetworkError (List α)}
    {place : Cidr → Nat → α → Except NetworkError ζ} {network : String}
    (hmeans : ∀ {names more items}, means (names ++ more) = .ok items →
      ∃ first rest, means names = .ok first ∧ first ++ rest = items) :
    AppendStable least (layOut least means place network) where
  least_le h := (layOut_eq_ok_iff.1 h).1.1
  exists_prefix h hleast := by
    obtain ⟨⟨-, hcount, hnodup⟩, parent, items, hparent, hitems, hzones⟩ := layOut_eq_ok_iff.1 h
    obtain ⟨first, rest, hfirst, rfl⟩ := hmeans hitems
    obtain ⟨before, after, hbefore, -, rfl⟩ := placeFrom_append_eq_ok_iff.1 hzones
    rw [List.length_append] at hcount
    exact ⟨before, layOut_eq_ok_iff.2 ⟨⟨hleast, by omega, hnodup.of_append_left⟩, parent, first,
      hparent, hfirst, hbefore⟩, List.prefix_append _ _⟩

/-- Ranges of one layout pass the check against each other. -/
theorem ensureDisjoint_of_apart {persisted added : List String} {blocks : List Cidr}
    (htexts : persisted ++ added = blocks.map Cidr.text) (hapart : blocks.Pairwise Cidr.Apart) :
    ensureDisjoint persisted added = .ok () := by
  obtain ⟨inUse, others, rfl, rfl, rfl⟩ := List.append_eq_map_iff.1 htexts
  refine ensureDisjoint_eq_ok_iff.2 ⟨inUse, mapM_parse_text inUse, fun text htext => ?_⟩
  obtain ⟨block, hblock, rfl⟩ := List.mem_map.1 htext
  exact ⟨block, Cidr.parse_text block, fun other hother =>
    (List.pairwise_append.1 hapart).2.2 other hother block hblock⟩

section

variable {ζ : Type} {place : Cidr → Nat → String → Except NetworkError ζ} {name : ζ → String}
  {ranges : ζ → List String} {start : Cidr → Nat → Nat} {network : String} {names added : List String}
  {known zones : List ζ}

theorem appendStable_layOut_names {least : Nat} : AppendStable least (layOut least .ok place network) :=
  appendStable_layOut fun h => ⟨_, _, rfl, Except.ok.inj h⟩

/-- What a longer layout adds to a shorter one is what zones of the shorter one grow by. -/
theorem AppendsLaidOut.of_layOut
    (hplace : ∀ {parent : Cidr}, parent.Workable → PlacesInOrder (place parent) name ranges (start parent))
    (h : layOut 1 .ok place network names = .ok known)
    (hwhole : layOut 1 .ok place network (names ++ added) = .ok zones) :
    ∃ fresh, known ++ fresh = zones ∧ ∀ {δ : Type} (append : List ζ → δ),
      AppendsLaidOut place ranges network (known.map name) (known.flatMap ranges) added append
        (append fresh) := by
  obtain ⟨hnames, -⟩ := PlacesInOrder.of_layOut_names hplace h
  obtain ⟨-, -, -, blocks, htexts, hapart⟩ := PlacesInOrder.of_layOut_names hplace hwhole
  obtain ⟨fresh, rfl⟩ := appendStable_layOut_names.exists_append h hwhole
  have hfresh : (known ++ fresh).drop (known.map name).length = fresh := by
    rw [List.length_map, List.drop_left]
  rw [List.flatMap_append] at htexts
  refine ⟨fresh, rfl, fun append => ⟨known ++ fresh, ?_, ?_, ?_⟩⟩
  · rw [hnames]
    exact hwhole
  · rw [hfresh]
    exact ensureDisjoint_of_apart htexts hapart
  · rw [hfresh]

end

namespace AwsNetwork

variable {network : String} {names added : List String} {dualStack : Bool}

theorem appendStable_layout (network : String) : AppendStable 1 (layout network) := by
  rw [layout_eq]
  exact appendStable_layOut_names

theorem Infrastructure.exists_create_iff :
    (∃ doc, create network names dualStack = .ok doc) ↔ ∃ zones, layout network names = .ok zones :=
  Outcome.exists_bind_eq_ok_iff fun _ => ⟨_, rfl⟩

theorem Infrastructure.grow_into_whole {doc whole : Infrastructure}
    (h : create network names dualStack = .ok doc)
    (hwhole : create network (names ++ added) dualStack = .ok whole) :
    doc.grow network added = .ok whole := by
  obtain ⟨known, hknown, rfl⟩ := create_eq_ok_iff.1 h
  obtain ⟨_, hzones, rfl⟩ := create_eq_ok_iff.1 hwhole
  obtain ⟨fresh, rfl, happends⟩ := AppendsLaidOut.of_layOut placesInOrder hknown hzones
  exact grow_eq_ok_iff.2 (happends _)

end AwsNetwork

namespace AlicloudNetwork

variable {network : String} {names added : List String}

theorem appendStable_layout (network : String) : AppendStable 1 (layout network) := by
  rw [layout_eq]
  exact appendStable_layOut_names

theorem Infrastructure.exists_create_iff :
    (∃ doc, create network names = .ok doc) ↔ ∃ zones, layout network names = .ok zones :=
  Outcome.exists_bind_eq_ok_iff fun _ => ⟨_, rfl⟩

theorem Infrastructure.grow_into_whole {doc whole : Infrastructure}
    (h : create network names = .ok doc) (hwhole : create network (names ++ added) = .ok whole) :
    doc.grow network added = .ok whole := by
  obtain ⟨known, hknown, rfl⟩ := create_eq_ok_iff.1 h
  obtain ⟨_, hzones, rfl⟩ := create_eq_ok_iff.1 hwhole
  obtain ⟨fresh, rfl, happends⟩ := AppendsLaidOut.of_layOut placesInOrder hknown hzones
  rw [grow_eq_ok_iff, subnets_eq_flatMap]
  exact happends _

end AlicloudNetwork

namespace AzureNetwork

variable {network : String} {names added : List String} {before zones : List Zone}

theorem appendStable_layout (network : String) : AppendStable 0 (layout network) := by
  rw [layout_eq]
  refine appendStable_layOut fun {names more items} h => ?_
  obtain ⟨rfl, hnodup, -⟩ := zoneNumbers_eq_ok_iff.1 h
  rw [List.filterMap_append] at hnodup
  refine ⟨_, more.filterMap zoneNumber?, zoneNumbers_eq_ok_iff.2 ⟨rfl, hnodup.of_append_left, ?_⟩, ?_⟩
  · exact fun _ _ => List.not_mem_nil
  · rw [List.filterMap_append]

theorem filterMap_numerals (names : List String) :
    (numerals names).filterMap zoneNumber? = names.filterMap zoneNumber? := by
  rw [numerals, List.filterMap_map]
  refine (List.filterMap_congr fun n hn => ?_).trans List.filterMap_some
  obtain ⟨name, -, hname⟩ := List.mem_filterMap.1 hn
  exact zoneNumber?_toString (mem_zoneRange_of_zoneNumber? hname)

/-- Names may be put in plain decimal, and those that mean no number left out. -/
theorem layout_numerals (hknown : (numerals names).Nodup)
    (h : layout network (names ++ added) = .ok zones) :
    layout network (numerals names ++ added) = .ok zones := by
  obtain ⟨hcount, hnodup, hdistinct, parent, hparent, hzones⟩ := layout_eq_ok_iff.1 h
  have hsame : (numerals names ++ added).filterMap zoneNumber? =
      (names ++ added).filterMap zoneNumber? := by
    rw [List.filterMap_append, List.filterMap_append, filterMap_numerals]
  have hshort : (numerals names).length ≤ names.length := by
    rw [numerals, List.length_map]
    exact List.length_filterMap_le _ _
  refine layout_eq_ok_iff.2 ⟨?_, ?_, hsame ▸ hdistinct, parent, hparent, hsame ▸ hzones⟩
  · rw [List.length_append] at hcount ⊢
    omega
  · refine List.nodup_append.2 ⟨hknown, hnodup.of_append_right, ?_⟩
    -- a numeral that is asked for again would mean its number a second time
    rintro name hname _ hadded rfl
    obtain ⟨n, hn, rfl⟩ := List.mem_map.1 hname
    obtain ⟨spelled, -, hspelled⟩ := List.mem_filterMap.1 hn
    have hmeans := zoneNumber?_toString (mem_zoneRange_of_zoneNumber? hspelled)
    have hagain : n ∈ added.filterMap zoneNumber? := List.mem_filterMap.2 ⟨_, hadded, hmeans⟩
    rw [List.filterMap_append] at hdistinct
    exact (List.nodup_append.1 hdistinct).2.2 n hn n hagain rfl

namespace Infrastructure

variable {doc whole : Infrastructure}

/-- The document of a new cluster with zones: nothing else of it depends on their names. -/
def zonedWith (network : String) (zones : List Zone) : Infrastructure where
  networks := { vnet := { cidr := some network }, zones }
  zoned := true

theorem create_eq_ok_of_layout (hzones : zones ≠ []) (h : layout network names = .ok zones) :
    create network names = .ok (zonedWith network zones) := by
  rw [create, h]
  change (if zones.isEmpty then _ else _) = _
  rw [if_neg (by simpa using hzones)]
  rfl

theorem exists_create_iff :
    (∃ doc, create network names = .ok doc) ↔ ∃ zones, layout network names = .ok zones := by
  refine Outcome.exists_bind_eq_ok_iff fun zones => ?_
  split_ifs <;> exact ⟨_, rfl⟩

/-- The numbers after those of the document are none of its own. -/
theorem filter_fresh {after : List Zone} (h : ((before ++ after).map Zone.name).Nodup) :
    ((before ++ after).filter fun zone => !before.any fun z => z.name == zone.name) = after := by
  rw [List.map_append, List.nodup_append] at h
  rw [List.filter_append, List.filter_eq_nil_iff.2, List.filter_eq_self.2, List.nil_append]
  · intro zone hzone
    simp only [Bool.not_eq_true', List.any_eq_false, beq_iff_eq]
    exact fun z hz => h.2.2 _ (List.mem_map_of_mem hz) _ (List.mem_map_of_mem hzone)
  · intro zone hzone
    simp only [Bool.not_eq_true', Bool.not_eq_false, List.any_eq_true, beq_iff_eq]
    exact ⟨zone, hzone, rfl⟩

theorem grow_zonedWith {after : List Zone} (hsome : before ≠ [])
    (h : layout network ((zonedWith network before).zoneNames ++ added) = .ok (before ++ after)) :
    (zonedWith network before).grow network added = .ok (zonedWith network (before ++ after)) := by
  obtain ⟨-, -, hdistinct, -⟩ := layout_eq_ok_iff.1 h
  obtain ⟨hnames, blocks, htexts, hapart⟩ := layout_eq_ok h
  rw [List.map_append] at htexts
  have hfresh := filter_fresh (hnames ▸ hdistinct)
  have hzones : (zonedWith network before).networks.zones = before := rfl
  simp only [grow, Outcome.bind_eq_ok_iff, Outcome.pure_eq_ok_iff, hzones]
  refine ⟨before ++ after, h, (), ?_, ?_⟩
  · rw [hfresh]
    exact ensureDisjoint_of_apart htexts hapart
  · rw [hfresh]
    simp [zonedWith, hsome]

theorem grow_into_whole (husable : ∃ name ∈ names, (zoneNumber? name).isSome)
    (h : create network names = .ok doc) (hwhole : create network (names ++ added) = .ok whole) :
    doc.grow network added = .ok whole := by
  obtain ⟨before, hbefore⟩ := exists_create_iff.1 ⟨doc, h⟩
  obtain ⟨zones, hzones⟩ := exists_create_iff.1 ⟨whole, hwhole⟩
  obtain ⟨hnames, -⟩ := layout_eq_ok hbefore
  have hsome : before ≠ [] := by
    obtain ⟨name, hname, hmeans⟩ := husable
    obtain ⟨n, hn⟩ := Option.isSome_iff_exists.1 hmeans
    have hmem : n ∈ before.map Zone.name := hnames ▸ List.mem_filterMap.2 ⟨name, hname, hn⟩
    exact fun hnil => List.ne_nil_of_mem hmem (by rw [hnil]; rfl)
  obtain ⟨after, rfl⟩ := (appendStable_layout network).exists_append hbefore hzones
  obtain ⟨hnumbered, -⟩ := create_eq_ok h
  have hall : before ++ after ≠ [] := List.append_ne_nil_of_left_ne_nil hsome after
  obtain rfl := Except.ok.inj (h.symm.trans (create_eq_ok_of_layout hsome hbefore))
  obtain rfl := Except.ok.inj (hwhole.symm.trans (create_eq_ok_of_layout hall hzones))
  have hknown : (zonedWith network before).zoneNames = numerals names := by
    rw [zoneNames_eq_map, numbers, numerals, ← hnames]
    rfl
  refine grow_zonedWith hsome ?_
  rw [hknown]
  exact layout_numerals (hknown ▸ hnumbered.nodup_zoneNames) hzones

end Infrastructure

end AzureNetwork

namespace OpenStackNetwork

variable {network : String} {names more : List String} {networks : Networks}

/-- All zones share the network, whatever their names. -/
theorem layout_of_append (h : layout network (names ++ more) = .ok networks) :
    layout network names = .ok networks := by
  simp only [layout, Outcome.bind_eq_ok_iff] at h ⊢
  obtain ⟨block, hblock, ⟨⟩, hchecked, hnetworks⟩ := h
  obtain ⟨-, hcount, hnodup⟩ := checkZoneNames_eq_ok_iff.1 hchecked
  rw [List.length_append] at hcount
  exact ⟨block, hblock, (),
    checkZoneNames_eq_ok_iff.2 ⟨Nat.zero_le _, by omega, hnodup.of_append_left⟩, hnetworks⟩

theorem Infrastructure.create_of_append {doc : Infrastructure}
    (h : create network (names ++ more) = .ok doc) : create network names = .ok doc := by
  simp only [create, Outcome.bind_eq_ok_iff] at h ⊢
  obtain ⟨networks, hnetworks, hdoc⟩ := h
  exact ⟨networks, layout_of_append hnetworks, hdoc⟩

end OpenStackNetwork

namespace InfrastructureDocument

variable {provider : Hyperscaler} {network : String} {dualStack : Bool}
  {names added more : List String} {doc grown start whole : InfrastructureDocument}

/-- On Azure a cluster has zones when one of its names means a number. -/
def Usable (provider : Hyperscaler) (names : List String) : Prop :=
  provider = .azure → ∃ name ∈ names, (AzureNetwork.zoneNumber? name).isSome

theorem Usable.append (h : Usable provider names) : Usable provider (names ++ added) :=
  fun hazure => (h hazure).imp fun _ hname => ⟨List.mem_append_left _ hname.1, hname.2⟩

theorem grow_into_whole (husable : Usable provider names)
    (h : create provider network names dualStack = .ok doc)
    (hwhole : create provider network (names ++ added) dualStack = .ok whole) :
    doc.grow network added = .ok whole := by
  cases provider with
  | aws =>
    obtain ⟨aws, haws, rfl⟩ := Outcome.map_eq_ok_iff.1 h
    obtain ⟨all, hall, rfl⟩ := Outcome.map_eq_ok_iff.1 hwhole
    exact Outcome.map_eq_ok_iff.2 ⟨all, AwsNetwork.Infrastructure.grow_into_whole haws hall, rfl⟩
  | azure =>
    obtain ⟨azure, hazure, rfl⟩ := Outcome.map_eq_ok_iff.1 h
    obtain ⟨all, hall, rfl⟩ := Outcome.map_eq_ok_iff.1 hwhole
    exact Outcome.map_eq_ok_iff.2
      ⟨all, AzureNetwork.Infrastructure.grow_into_whole (husable rfl) hazure hall, rfl⟩
  | alicloud =>
    obtain ⟨alicloud, halicloud, rfl⟩ := Outcome.map_eq_ok_iff.1 h
    obtain ⟨all, hall, rfl⟩ := Outcome.map_eq_ok_iff.1 hwhole
    exact Outcome.map_eq_ok_iff.2
      ⟨all, AlicloudNetwork.Infrastructure.grow_into_whole halicloud hall, rfl⟩
  | openstack =>
    obtain ⟨openstack, hopenstack, rfl⟩ := Outcome.map_eq_ok_iff.1 h
    obtain ⟨all, hall, rfl⟩ := Outcome.map_eq_ok_iff.1 hwhole
    have hsame := OpenStackNetwork.Infrastructure.create_of_append hall
    obtain rfl : openstack = all := Except.ok.inj (hopenstack.symm.trans hsame)
    rfl

/-- Between two clusters that can be made there is one for every number of names. -/
theorem exists_create_between (h : create provider network names dualStack = .ok start)
    (hwhole : create provider network (names ++ added ++ more) dualStack = .ok whole) :
    ∃ doc, create provider network (names ++ added) dualStack = .ok doc := by
  cases provider with
  | aws =>
    exact (AwsNetwork.appendStable_layout network).exists_between (f := (create .aws network · dualStack))
      (fun _ => Outcome.exists_map_eq_ok_iff.trans AwsNetwork.Infrastructure.exists_create_iff)
      ⟨start, h⟩ ⟨whole, hwhole⟩
  | azure =>
    exact (AzureNetwork.appendStable_layout network).exists_between
      (f := (create .azure network · dualStack))
      (fun _ => Outcome.exists_map_eq_ok_iff.trans AzureNetwork.Infrastructure.exists_create_iff)
      ⟨start, h⟩ ⟨whole, hwhole⟩
  | alicloud =>
    exact (AlicloudNetwork.appendStable_layout network).exists_between
      (f := (create .alicloud network · dualStack))
      (fun _ => Outcome.exists_map_eq_ok_iff.trans AlicloudNetwork.Infrastructure.exists_create_iff)
      ⟨start, h⟩ ⟨whole, hwhole⟩
  | openstack =>
    obtain ⟨all, hall, -⟩ := Outcome.map_eq_ok_iff.1 hwhole
    have hbetween := OpenStackNetwork.Infrastructure.create_of_append hall
    exact ⟨.openstack all, Outcome.map_eq_ok_iff.2 ⟨all, hbetween, rfl⟩⟩

/-- The zones of the document come first in the other one, by name and as they were written. -/
def StartsOff (doc grown : InfrastructureDocument) : Prop :=
  doc.names <+: grown.names ∧ doc.json.zoneEntries <+: grown.json.zoneEntries

theorem startsOff_of_grow (h : doc.grow network added = .ok grown) : doc.StartsOff grown := by
  refine ⟨?_, zoneEntries_prefix_of_grow h⟩
  cases gainsZones_of_grow h with
  | aws doc fresh => exact (List.prefix_append doc.networks.zones fresh).map AwsNetwork.Zone.name
  | azure doc fresh => exact (List.prefix_append doc.networks.zones fresh).map _
  | alicloud doc fresh =>
    exact (List.prefix_append doc.networks.zones fresh).map AlicloudNetwork.Zone.name
  | openstack doc => exact List.prefix_refl _

/-- The documents after each batch of added zones. -/
def growAll (network : String) (doc : InfrastructureDocument) :
    List (List String) → Except NetworkError (List InfrastructureDocument)
  | [] => .ok []
  | batch :: rest => do
    let grown ← doc.grow network batch
    return grown :: (← growAll network grown rest)

theorem growAll_of_create {batches : List (List String)} (husable : Usable provider names)
    (hstart : create provider network names dualStack = .ok start)
    (hwhole : create provider network (names ++ batches.flatten) dualStack = .ok whole) :
    ∃ docs, start.growAll network batches = .ok docs ∧ (start :: docs).IsChain StartsOff ∧
      (start :: docs).getLast? = some whole := by
  induction batches generalizing names start with
  | nil =>
    rw [List.flatten_nil, List.append_nil] at hwhole
    obtain rfl : start = whole := Except.ok.inj (hstart.symm.trans hwhole)
    exact ⟨[], rfl, .singleton start, rfl⟩
  | cons batch rest ih =>
    rw [List.flatten_cons, ← List.append_assoc] at hwhole
    obtain ⟨next, hnext⟩ := exists_create_between hstart hwhole
    have hgrow := grow_into_whole husable hstart hnext
    obtain ⟨docs, hdocs, hchain, hlast⟩ := ih husable.append hnext hwhole
    refine ⟨next :: docs, ?_, .cons_cons (startsOff_of_grow hgrow) hchain, ?_⟩
    · simp only [growAll, Outcome.bind_eq_ok_iff, Outcome.pure_eq_ok_iff]
      exact ⟨next, hgrow, docs, hdocs, rfl⟩
    · rw [List.getLast?_cons_cons]
      exact hlast

/--
A document that is made for the first zones and grows by the others, in whatever batches,
becomes the one that is made for all of them. Layouts of more names start with those of
fewer; the least numbers of names are those that a layout needs at all.
-/
theorem batches_grow_into_whole (network : String) :
    (∀ provider dualStack first batches start whole, Usable provider first →
      create provider network first dualStack = .ok start →
      create provider network (first ++ batches.flatten) dualStack = .ok whole →
      ∃ docs, start.growAll network batches = .ok docs ∧ (start :: docs).IsChain StartsOff ∧
        (start :: docs).getLast? = some whole) ∧
      AppendStable 1 (AwsNetwork.layout network) ∧ AppendStable 0 (AzureNetwork.layout network) ∧
      AppendStable 1 (AlicloudNetwork.layout network) ∧
      ∀ names more networks, OpenStackNetwork.layout network (names ++ more) = .ok networks →
        OpenStackNetwork.layout network names = .ok networks :=
  ⟨fun _ _ _ _ _ _ husable hstart hwhole => growAll_of_create husable hstart hwhole,
    AwsNetwork.appendStable_layout network, AzureNetwork.appendStable_layout network,
    AlicloudNetwork.appendStable_layout network, fun _ _ _ => OpenStackNetwork.layout_of_append⟩

/-- One name has no number, and the others have theirs in several spellings. -/
theorem batches_grow_into_whole_sample : ∃ start whole docs,
    create .azure "10.250.0.0/22" ["eu-1a", "02"] false = .ok start ∧
    create .azure "10.250.0.0/22" ["eu-1a", "02", "+1", "eu-1b", "8"] false = .ok whole ∧
    start.growAll "10.250.0.0/22" [["+1", "eu-1b"], [], ["8"]] = .ok docs ∧
    (start :: docs).IsChain StartsOff ∧ (start :: docs).getLast? = some whole := by
  obtain ⟨start, hstart⟩ : ∃ start,
      create .azure "10.250.0.0/22" ["eu-1a", "02"] false = .ok start := ⟨_, by rfl⟩
  obtain ⟨whole, hwhole⟩ : ∃ whole,
      create .azure "10.250.0.0/22" ["eu-1a", "02", "+1", "eu-1b", "8"] false = .ok whole :=
    ⟨_, by rfl⟩
  have husable : Usable .azure ["eu-1a", "02"] := fun _ => ⟨"02", by simp, by decide⟩
  obtain ⟨docs, h⟩ := (batches_grow_into_whole "10.250.0.0/22").1 .azure false ["eu-1a", "02"]
    [["+1", "eu-1b"], [], ["8"]] start whole husable hstart hwhole
  exact ⟨start, whole, docs, hstart, hwhole, h⟩

end InfrastructureDocument

end ShootPlan
