import ShootPlan.Proofs.ZoneLayout
/-!
How a worker network is parted into zones. Every offset that a layout asks for is aligned and
leaves room, so nothing but the network's text and the zone names can be refused; and the
ranges that come out lie in the network and apart from each other.
-/
namespace ShootPlan

namespace Cidr

variable {parent : Cidr}

/-- The texts are the notation of blocks of the network, no two of which share an address. -/
def PartedInto (parent : Cidr) (texts : List String) : Prop :=
  ∃ blocks : List Cidr, texts = blocks.map text ∧ texts.mapM parse = .ok blocks ∧
    (∀ block ∈ blocks, block.Within parent) ∧ blocks.Pairwise Apart

theorem partedInto_of_within {texts : List String} {blocks : List Cidr}
    (htexts : texts = blocks.map text) (hapart : blocks.Pairwise Apart)
    (hwithin : ∀ text ∈ texts, ∃ block : Cidr, block.text = text ∧ block.Within parent) :
    parent.PartedInto texts := by
  refine ⟨blocks, htexts, htexts ▸ mapM_parse_text blocks, fun block hblock => ?_, hapart⟩
  obtain ⟨other, hother, hinside⟩ := hwithin block.text (htexts ▸ List.mem_map_of_mem hblock)
  obtain rfl := text_injective hother
  exact hinside

theorem PartedInto.sublist {texts others : List String} (h : parent.PartedInto texts)
    (hothers : others.Sublist texts) : parent.PartedInto others := by
  obtain ⟨blocks, rfl, -, hwithin, hapart⟩ := h
  obtain ⟨chosen, hchosen, rfl⟩ := List.sublist_map_iff.1 hothers
  exact ⟨chosen, rfl, mapM_parse_text chosen, fun block hblock => hwithin block (hchosen.subset hblock),
    hapart.sublist hchosen⟩

end Cidr

/-- The computation does not fail because a subnet leaves its network. -/
def StaysInRange {α : Type} (x : Except NetworkError α) : Prop :=
  ∀ parent offset length, x ≠ .error (.subnetOutOfRange parent offset length)

namespace StaysInRange

variable {α β : Type}

theorem of_ok {x : Except NetworkError α} (h : ∃ a, x = .ok a) : StaysInRange x := by
  obtain ⟨a, rfl⟩ := h
  intro parent offset length h
  cases h

theorem bind {x : Except NetworkError α} {f : α → Except NetworkError β} (hx : StaysInRange x)
    (hf : ∀ a, x = .ok a → StaysInRange (f a)) : StaysInRange (x >>= f) := by
  cases x with
  | error error =>
    intro parent offset length h
    cases h
    exact hx parent offset length rfl
  | ok a => exact hf a rfl

theorem workerNetwork (text : String) : StaysInRange (workerNetwork text) := by
  intro parent offset length h
  simp only [ShootPlan.workerNetwork, Cidr.parse] at h
  cases htext : Cidr.ofText text with
  | error fault =>
    rw [htext] at h
    cases h
  | ok block =>
    rw [htext] at h
    change (if _ then _ else _) = _ at h
    split_ifs at h <;> cases h

theorem checkZoneNames (names : List String) (least : Nat) :
    StaysInRange (checkZoneNames names least) := by
  intro parent offset length h
  unfold ShootPlan.checkZoneNames at h
  split_ifs at h
  · cases h
  · split at h <;> cases h

theorem zoneNumbers (seen : List Int32) (names : List String) :
    StaysInRange (AzureNetwork.zoneNumbers seen names) := by
  induction names generalizing seen with
  | nil => exact of_ok ⟨[], rfl⟩
  | cons name rest ih =>
    rw [AzureNetwork.zoneNumbers]
    split
    · exact ih seen
    · rename_i n _
      split_ifs
      · intro parent offset length h
        cases h
      · intro parent offset length h
        cases hrest : AzureNetwork.zoneNumbers (n :: seen) rest with
        | error error =>
          rw [hrest] at h
          cases h
          exact ih (n :: seen) parent offset length hrest
        | ok numbers =>
          rw [hrest] at h
          cases h

end StaysInRange

/-- What a layout of zones promises about the network and the names it is made for. -/
structure LaysOut {ζ ν : Type} (layout : Except NetworkError (List ζ)) (network : String)
    (acceptable : Prop) (name : ζ → ν) (wanted : List ν) (ranges : ζ → List String) : Prop where
  /-- It succeeds for networks of a supported size and acceptable names, and only for them. -/
  succeeds : (∃ zones, layout = .ok zones) ↔
    (∃ parent, Cidr.parse network = .ok parent ∧ 16 ≤ parent.length ∧ parent.length ≤ 24) ∧ acceptable
  inRange : StaysInRange layout
  /-- There is one zone for each wanted name, in order. -/
  names : ∀ zones, layout = .ok zones → zones.map name = wanted
  parts : ∀ zones, layout = .ok zones →
    ∃ parent, Cidr.parse network = .ok parent ∧ parent.PartedInto (zones.flatMap ranges)

theorem LaysOut.congr {ζ ν : Type} {layout : Except NetworkError (List ζ)} {network : String}
    {acceptable other : Prop} {name : ζ → ν} {wanted : List ν} {ranges : ζ → List String}
    (h : LaysOut layout network acceptable name wanted ranges) (hother : acceptable ↔ other) :
    LaysOut layout network other name wanted ranges where
  succeeds := h.succeeds.trans (and_congr_right fun _ => hother)
  inRange := h.inRange
  names := h.names
  parts := h.parts

section

variable {α ζ : Type}

/-- There is room for a zone at every position, and its ranges belong to the network. -/
structure HasRoom (place : Cidr → Nat → α → Except NetworkError ζ) (ranges : ζ → List String) :
    Prop where
  exists_zone : ∀ {parent : Cidr} {index : Nat}, parent.Workable → index < maxZones →
    ∀ item, ∃ zone, place parent index item = .ok zone
  within : ∀ {parent : Cidr} {index : Nat} {item : α} {zone : ζ},
    place parent index item = .ok zone →
      ∀ text ∈ ranges zone, ∃ block : Cidr, block.text = text ∧ block.Within parent

variable {least : Nat} {means : List String → Except NetworkError (List α)}
  {place : Cidr → Nat → α → Except NetworkError ζ} {ranges : ζ → List String} {network : String}
  {names : List String} {zones : List ζ}

namespace HasRoom

variable (hroom : HasRoom place ranges)

include hroom

theorem exists_zones {parent : Cidr} {items : List α} (hparent : parent.Workable)
    (hcount : items.length ≤ maxZones) : ∃ zones, placeFrom (place parent) 0 items = .ok zones :=
  exists_placeFrom fun position _ hposition item => by
    have hindex : position < maxZones := by omega
    exact hroom.exists_zone hparent hindex item

theorem partedInto_of_layOut {blocks : List Cidr}
    (h : layOut least means place network names = .ok zones)
    (htexts : zones.flatMap ranges = blocks.map Cidr.text) (hapart : blocks.Pairwise Cidr.Apart) :
    ∃ parent, Cidr.parse network = .ok parent ∧ parent.PartedInto (zones.flatMap ranges) := by
  obtain ⟨-, parent, items, hparent, -, hzones⟩ := layOut_eq_ok_iff.1 h
  refine ⟨parent, (workerNetwork_eq_ok_iff.1 hparent).1,
    Cidr.partedInto_of_within htexts hapart fun text htext => ?_⟩
  obtain ⟨zone, hzone, hmem⟩ := List.mem_flatMap.1 htext
  obtain ⟨position, item, hplace⟩ := exists_place_of_mem hzones zone hzone
  exact hroom.within hplace text hmem

/-- Only the network's size and the names decide whether there is a layout. -/
theorem exists_layOut_iff (hfew : ∀ items, means names = .ok items → items.length ≤ names.length) :
    (∃ zones, layOut least means place network names = .ok zones) ↔
      (∃ parent, Cidr.parse network = .ok parent ∧ 16 ≤ parent.length ∧ parent.length ≤ 24) ∧
        (least ≤ names.length ∧ names.length ≤ 8 ∧ names.Nodup) ∧ ∃ items, means names = .ok items := by
  simp only [layOut_eq_ok_iff]
  constructor
  · rintro ⟨zones, hchecked, parent, items, hparent, hitems, -⟩
    exact ⟨⟨parent, workerNetwork_eq_ok_iff.1 hparent⟩, hchecked, items, hitems⟩
  · rintro ⟨⟨parent, hparent⟩, hchecked, items, hitems⟩
    obtain ⟨zones, hzones⟩ := hroom.exists_zones hparent.2 ((hfew items hitems).trans hchecked.2.1)
    exact ⟨zones, hchecked, parent, items, workerNetwork_eq_ok_iff.2 hparent, hitems, hzones⟩

theorem staysInRange_layOut (hfew : ∀ items, means names = .ok items → items.length ≤ names.length)
    (hmeans : StaysInRange (means names)) :
    StaysInRange (layOut least means place network names) := by
  refine (StaysInRange.workerNetwork network).bind fun parent hparent => ?_
  refine (StaysInRange.checkZoneNames names least).bind fun _ hchecked => ?_
  refine hmeans.bind fun items hitems => .of_ok ?_
  have hcount := (checkZoneNames_eq_ok_iff.1 hchecked).2.1
  exact hroom.exists_zones (workerNetwork_eq_ok_iff.1 hparent).2 ((hfew items hitems).trans hcount)

theorem laysOut {name : ζ → α} {start : Cidr → Nat → Nat} {wanted : List α}
    (hplace : ∀ {parent : Cidr}, parent.Workable → PlacesInOrder (place parent) name ranges (start parent))
    (hmeans : StaysInRange (means names)) (hwanted : ∀ items, means names = .ok items → items = wanted)
    (hlength : wanted.length ≤ names.length) :
    LaysOut (layOut least means place network names) network
      ((least ≤ names.length ∧ names.length ≤ 8 ∧ names.Nodup) ∧ ∃ items, means names = .ok items)
      name wanted ranges := by
  have hfew : ∀ items, means names = .ok items → items.length ≤ names.length :=
    fun items hitems => hwanted items hitems ▸ hlength
  refine ⟨hroom.exists_layOut_iff hfew, hroom.staysInRange_layOut hfew hmeans, fun zones h => ?_,
    fun zones h => ?_⟩
  · exact (PlacesInOrder.of_layOut hplace hwanted hlength h).1
  · obtain ⟨-, blocks, htexts, hapart⟩ := PlacesInOrder.of_layOut hplace hwanted hlength h
    exact hroom.partedInto_of_layOut h htexts hapart

end HasRoom

/-- Where names stand for themselves, distinct ones are laid out if they are neither few nor many. -/
theorem HasRoom.laysOut_names {place : Cidr → Nat → String → Except NetworkError ζ} {name : ζ → String}
    {start : Cidr → Nat → Nat} (hroom : HasRoom place ranges)
    (hplace : ∀ {parent : Cidr}, parent.Workable → PlacesInOrder (place parent) name ranges (start parent)) :
    LaysOut (layOut least .ok place network names) network
      (least ≤ names.length ∧ names.length ≤ 8 ∧ names.Nodup) name names ranges := by
  refine (hroom.laysOut hplace (.of_ok ⟨names, rfl⟩) (fun _ h => (Except.ok.inj h).symm) le_rfl).congr ?_
  simp

end

namespace AwsNetwork

variable {parent : Cidr} {index : Nat}

/-- In units of the smallest range, where a zone starts and how large its ranges are. -/
theorem block_units (hparent : parent.Workable) (hindex : index < maxZones) :
    let b := block parent.size index
    let unit := blockSize (parent.length + 6)
    ∃ start workers range, b.start = start * unit ∧
      blockSize (parent.length + b.workerBits) = workers * unit ∧
      blockSize (parent.length + b.rangeBits) = range * unit ∧
      workers ∣ start ∧ range ∣ start + workers ∧ start + workers + 2 * range ≤ 64 := by
  obtain ⟨hsize, heighth, hsixteenth, -⟩ := hparent.size_eq
  have hindex : index < 8 := hindex
  rw [hsize]
  generalize hunit : blockSize (parent.length + 6) = unit at *
  by_cases hlarge : index < largeZones
  · have hlarge' : index < 3 := hlarge
    refine ⟨16 * index, 8, 4, ?_, ?_, ?_, by omega, by omega, by omega⟩
    · have hquarter : 64 * unit / 4 = 16 * unit := by omega
      rw [block, if_pos hlarge]
      simp only [hquarter]
      ring
    · rw [block, if_pos hlarge]
      exact heighth
    · rw [block, if_pos hlarge]
      exact hsixteenth
  · have hlarge' : 3 ≤ index := not_lt.1 hlarge
    refine ⟨48 + 3 * (index - 3), 1, 1, ?_, ?_, ?_, one_dvd _, one_dvd _, by omega⟩
    · have hthree : 3 * (64 * unit) / 4 = 48 * unit := by omega
      have hsmall : 64 * unit / 64 = unit := by omega
      rw [block, if_neg hlarge]
      simp only [hthree, hsmall, largeZones]
      ring
    · rw [block, if_neg hlarge, one_mul]
      exact hunit
    · rw [block, if_neg hlarge, one_mul]
      exact hunit

theorem exists_zone (hparent : parent.Workable) (hindex : index < maxZones) (name : String) :
    ∃ z, zone parent index name = .ok z := by
  obtain ⟨hworkerBits, hrangeBits, -, -⟩ := block_end_le hparent hindex
  obtain ⟨start, w, r, hstart, hworkers, hranges, hdvd, hdvd', hfit⟩ := block_units hparent hindex
  obtain ⟨hsize, -, -, hle⟩ := hparent.size_eq
  have hlength : parent.length ≤ 24 := hparent.2
  have hall : blockSize 0 = 4294967296 := rfl
  rw [← hsize] at hle
  simp only [zone, Outcome.bind_eq_ok_iff, Outcome.pure_eq_ok_iff]
  generalize block parent.size index = b at *
  generalize blockSize (parent.length + 6) = unit at *
  have hfits : (start + w + 2 * r) * unit ≤ parent.size := by
    rw [hsize]
    exact Nat.mul_le_mul_right _ hfit
  simp only [Nat.add_mul, Nat.mul_assoc] at hfits
  obtain ⟨workers, hcarve⟩ : ∃ workers, parent.carve b.start b.workerBits = .ok workers := by
    refine Cidr.exists_carve (by omega) ?_ (by omega)
    rw [hstart, hworkers]
    exact Nat.mul_dvd_mul_right hdvd unit
  obtain ⟨-, hbits⟩ := Cidr.carve_eq_ok (by omega) (by omega) hcarve
  have hworkerSize : workers.size = w * unit := by rw [Cidr.size, hbits, hworkers]
  obtain ⟨public_, hcarve'⟩ :
      ∃ public_, parent.carve (b.start + workers.size) b.rangeBits = .ok public_ := by
    refine Cidr.exists_carve (by omega) ?_ (by omega)
    rw [hstart, hworkerSize, hranges, ← Nat.add_mul]
    exact Nat.mul_dvd_mul_right hdvd' unit
  obtain ⟨-, hbits'⟩ := Cidr.carve_eq_ok (by omega) (by omega) hcarve'
  have hpublicSize : public_.size = r * unit := by rw [Cidr.size, hbits', hranges]
  have hdvd'' : r ∣ start + w + r := Nat.dvd_add hdvd' dvd_rfl
  obtain ⟨internal, hcarve''⟩ :
      ∃ internal, parent.carve (b.start + workers.size + public_.size) b.rangeBits = .ok internal := by
    refine Cidr.exists_carve (by omega) ?_ (by omega)
    rw [hstart, hworkerSize, hpublicSize, hranges, ← Nat.add_mul, ← Nat.add_mul]
    exact Nat.mul_dvd_mul_right hdvd'' unit
  exact ⟨_, workers, hcarve, public_, hcarve', internal, hcarve'', rfl⟩

theorem within_of_zone {z : Zone} {name : String} (h : zone parent index name = .ok z) :
    ∀ text ∈ z.subnets, ∃ block : Cidr, block.text = text ∧ block.Within parent := by
  simp only [zone, Outcome.bind_eq_ok_iff, Outcome.pure_eq_ok_iff] at h
  obtain ⟨workers, hworkers, public_, hpublic, internal, hinternal, rfl⟩ := h
  intro text htext
  simp only [Zone.subnets, List.mem_cons, List.not_mem_nil, or_false] at htext
  rcases htext with rfl | rfl | rfl
  · exact ⟨workers, rfl, Cidr.within_of_carve hworkers⟩
  · exact ⟨public_, rfl, Cidr.within_of_carve hpublic⟩
  · exact ⟨internal, rfl, Cidr.within_of_carve hinternal⟩

theorem hasRoom : HasRoom zone Zone.subnets := ⟨exists_zone, within_of_zone⟩

theorem laysOut (network : String) (names : List String) :
    LaysOut (layout network names) network (1 ≤ names.length ∧ names.length ≤ 8 ∧ names.Nodup)
      Zone.name names Zone.subnets := by
  rw [layout_eq]
  exact hasRoom.laysOut_names placesInOrder

end AwsNetwork

theorem Cidr.exists_carve_eighth {parent : Cidr} {index : Nat} (hparent : parent.Workable)
    (hindex : index < maxZones) :
    ∃ block, parent.carve (index * (parent.size / 8)) 3 = .ok block := by
  obtain ⟨hsize, heighth, -, hle⟩ := hparent.size_eq
  have hindex : index < 8 := hindex
  have hlength : parent.length ≤ 24 := hparent.2
  have hpart : parent.size / 8 = blockSize (parent.length + 3) := by omega
  have hoffset : index * (parent.size / 8) ≤ 7 * (parent.size / 8) :=
    Nat.mul_le_mul_right _ (by omega)
  refine Cidr.exists_carve (by omega) ?_ (by omega)
  rw [hpart]
  exact Dvd.intro_left index rfl

/-- There is an eighth at every position. -/
theorem HasRoom.eighths {α ζ : Type} {make : α → String → ζ} {range : ζ → String}
    (hrange : ∀ item text, range (make item text) = text) :
    HasRoom (Cidr.placeEighth make) fun zone => [range zone] where
  exists_zone hparent hindex item := by
    obtain ⟨block, hblock⟩ := Cidr.exists_carve_eighth hparent hindex
    exact ⟨make item block.text, Cidr.placeEighth_eq_ok_iff.2 ⟨block, hblock, rfl⟩⟩
  within h text htext := by
    obtain ⟨block, hblock, rfl⟩ := Cidr.placeEighth_eq_ok_iff.1 h
    rw [List.mem_singleton, hrange] at htext
    exact ⟨block, htext.symm, Cidr.within_of_carve hblock⟩

namespace AlicloudNetwork

theorem hasRoom : HasRoom (Cidr.placeEighth Zone.mk) fun zone => [zone.workers] :=
  .eighths fun _ _ => rfl

theorem laysOut (network : String) (names : List String) :
    LaysOut (layout network names) network (1 ≤ names.length ∧ names.length ≤ 8 ∧ names.Nodup)
      Zone.name names (fun zone => [zone.workers]) := by
  rw [layout_eq]
  exact hasRoom.laysOut_names placesInOrder

end AlicloudNetwork

namespace AzureNetwork

theorem hasRoom : HasRoom (Cidr.placeEighth zone) fun zone => [zone.cidr] :=
  .eighths fun _ _ => rfl

theorem exists_zoneNumbers_iff {names : List String} :
    (∃ numbers, zoneNumbers [] names = .ok numbers) ↔
      names.Pairwise fun a b => ∀ n, zoneNumber? a = some n → zoneNumber? b ≠ some n := by
  have hnodup : (∃ numbers, zoneNumbers [] names = .ok numbers) ↔
      (names.filterMap zoneNumber?).Nodup := by
    simp only [zoneNumbers_eq_ok_iff]
    constructor
    · rintro ⟨_, rfl, hnodup, -⟩
      exact hnodup
    · exact fun hnodup => ⟨_, rfl, hnodup, by simp⟩
  rw [hnodup, List.Nodup, List.pairwise_filterMap]
  refine List.Pairwise.iff fun a b => ?_
  constructor
  · exact fun h n ha hb => h n ha n hb rfl
  · rintro h n ha m hb rfl
    exact h n ha hb

theorem laysOut (network : String) (names : List String) :
    LaysOut (layout network names) network
      (names.length ≤ 8 ∧ names.Nodup ∧
        names.Pairwise fun a b => ∀ n, zoneNumber? a = some n → zoneNumber? b ≠ some n)
      Zone.name (names.filterMap zoneNumber?) fun zone => [zone.cidr] := by
  rw [layout_eq]
  refine (hasRoom.laysOut placesInOrder (.zoneNumbers [] names)
    (fun _ h => (zoneNumbers_eq_ok_iff.1 h).1) (List.length_filterMap_le _ _)).congr ?_
  rw [exists_zoneNumbers_iff]
  simp [and_assoc]

end AzureNetwork

/--
The layouts of all providers succeed for every workable network and every acceptable list of
names, and part the network among the zones. On Azure a name without a number gets no zone,
and two names of one number are refused.
-/
theorem layouts_part_network (network : String) (names : List String) :
    LaysOut (AwsNetwork.layout network names) network
        (1 ≤ names.length ∧ names.length ≤ 8 ∧ names.Nodup)
        AwsNetwork.Zone.name names AwsNetwork.Zone.subnets ∧
      LaysOut (AzureNetwork.layout network names) network
        (names.length ≤ 8 ∧ names.Nodup ∧
          names.Pairwise fun a b =>
            ∀ n, AzureNetwork.zoneNumber? a = some n → AzureNetwork.zoneNumber? b ≠ some n)
        AzureNetwork.Zone.name (names.filterMap AzureNetwork.zoneNumber?) (fun zone => [zone.cidr]) ∧
      LaysOut (AlicloudNetwork.layout network names) network
        (1 ≤ names.length ∧ names.length ≤ 8 ∧ names.Nodup)
        AlicloudNetwork.Zone.name names fun zone => [zone.workers] :=
  ⟨AwsNetwork.laysOut network names, AzureNetwork.laysOut network names,
    AlicloudNetwork.laysOut network names⟩

end ShootPlan
