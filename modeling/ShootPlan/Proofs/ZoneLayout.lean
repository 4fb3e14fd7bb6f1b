import ShootPlan.Proofs.ZonePlacement
/-!
The zones that are laid out in a worker network: which ones there are, and that their
subnets lie one after another.
-/
namespace ShootPlan

namespace Cidr

/-- The blocks lie above `low`, each one behind the one before it. -/
def InOrder (low : Nat) : List Cidr → Prop
  | [] => True
  | block :: rest => low ≤ block.base ∧ InOrder block.finish rest

theorem InOrder.mono {low high : Nat} (h : low ≤ high) :
    {blocks : List Cidr} → InOrder high blocks → InOrder low blocks
  | [], _ => trivial
  | _ :: _, hblocks => ⟨h.trans hblocks.1, hblocks.2⟩

theorem InOrder.base_ge {low : Nat} {blocks : List Cidr} (h : InOrder low blocks) :
    ∀ block ∈ blocks, low ≤ block.base := by
  induction blocks generalizing low with
  | nil => exact fun _ hmem => nomatch hmem
  | cons first rest ih =>
    intro block hblock
    rcases List.mem_cons.1 hblock with rfl | hrest
    · exact h.1
    · have hfinish : first.base ≤ first.finish := Nat.le_add_right _ _
      have hbase := ih h.2 block hrest
      have hlow := h.1
      omega

theorem InOrder.apart {low : Nat} {blocks : List Cidr} (h : InOrder low blocks) :
    blocks.Pairwise Apart := by
  induction blocks generalizing low with
  | nil => exact .nil
  | cons first rest ih =>
    exact List.pairwise_cons.2
      ⟨fun block hblock => apart_of_finish_le (h.2.base_ge block hblock), ih h.2⟩

/-- What a worker network may be: room for all zones, and offsets that are easily counted. -/
theorem Workable.size_eq {parent : Cidr} (h : parent.Workable) :
    parent.size = 64 * blockSize (parent.length + 6) ∧
      blockSize (parent.length + 3) = 8 * blockSize (parent.length + 6) ∧
      blockSize (parent.length + 4) = 4 * blockSize (parent.length + 6) ∧
      64 * blockSize (parent.length + 6) ≤ 65536 := by
  have hlow : 16 ≤ parent.length := h.1
  have hhigh : parent.length ≤ 24 := h.2
  have hsize := @blockSize_eq parent.length 6 (by omega)
  have heighth := @blockSize_eq (parent.length + 3) 3 (by omega)
  have hsixteenth := @blockSize_eq (parent.length + 4) 2 (by omega)
  have hle : blockSize parent.length ≤ 65536 := blockSize_le hlow
  rw [hsize] at hle
  exact ⟨hsize, heighth, hsixteenth, hle⟩

end Cidr

section

variable {α ζ : Type}

/--
Zones are named after their items, and each has ranges that lie in order in front of all that
starts where the next zone does.
-/
structure PlacesInOrder (place : Nat → α → Except NetworkError ζ) (name : ζ → α)
    (ranges : ζ → List String) (start : Nat → Nat) : Prop where
  name_eq : ∀ {index item zone}, place index item = .ok zone → name zone = item
  inOrder : ∀ {index item zone}, index < maxZones → place index item = .ok zone →
    ∃ blocks : List Cidr, ranges zone = blocks.map Cidr.text ∧
      ∀ rest, Cidr.InOrder (start (index + 1)) rest → Cidr.InOrder (start index) (blocks ++ rest)

namespace PlacesInOrder

variable {name : ζ → α} {ranges : ζ → List String} {zones : List ζ}

theorem of_placeFrom {place : Nat → α → Except NetworkError ζ} {start : Nat → Nat} {index : Nat}
    {items : List α} (hplace : PlacesInOrder place name ranges start)
    (hcount : index + items.length ≤ maxZones) (h : placeFrom place index items = .ok zones) :
    zones.map name = items ∧ ∃ blocks : List Cidr,
      zones.flatMap ranges = blocks.map Cidr.text ∧ Cidr.InOrder (start index) blocks := by
  induction items generalizing index zones with
  | nil =>
    cases h
    exact ⟨rfl, [], rfl, trivial⟩
  | cons item rest ih =>
    simp only [placeFrom, Outcome.bind_eq_ok_iff, Outcome.pure_eq_ok_iff] at h
    obtain ⟨zone, hzone, others, hothers, rfl⟩ := h
    rw [List.length_cons] at hcount
    obtain ⟨first, hfirst, hbefore⟩ := hplace.inOrder (by omega) hzone
    obtain ⟨hnames, blocks, htexts, horder⟩ := ih (by omega) hothers
    refine ⟨?_, first ++ blocks, ?_, hbefore blocks horder⟩
    · rw [List.map_cons, hplace.name_eq hzone, hnames]
    · rw [List.flatMap_cons, hfirst, htexts, List.map_append]

/-- A layout has a zone for each name's meaning, and no two ranges of it share an address. -/
theorem of_layOut {least : Nat} {means : List String → Except NetworkError (List α)}
    {place : Cidr → Nat → α → Except NetworkError ζ} {start : Cidr → Nat → Nat} {network : String}
    {names : List String} {wanted : List α}
    (hplace : ∀ {parent : Cidr}, parent.Workable → PlacesInOrder (place parent) name ranges (start parent))
    (hwanted : ∀ items, means names = .ok items → items = wanted)
    (hfew : wanted.length ≤ names.length) (h : layOut least means place network names = .ok zones) :
    zones.map name = wanted ∧ ∃ blocks : List Cidr,
      zones.flatMap ranges = blocks.map Cidr.text ∧ blocks.Pairwise Cidr.Apart := by
  obtain ⟨⟨-, hcount, -⟩, parent, items, hparent, hitems, hzones⟩ := layOut_eq_ok_iff.1 h
  obtain rfl := hwanted items hitems
  obtain ⟨hnames, blocks, htexts, horder⟩ :=
    (hplace (workerNetwork_eq_ok_iff.1 hparent).2).of_placeFrom (by omega) hzones
  exact ⟨hnames, blocks, htexts, horder.apart⟩

/-- Where names stand for themselves, each of them has its zone. -/
theorem of_layOut_names {least : Nat} {place : Cidr → Nat → String → Except NetworkError ζ}
    {name : ζ → String} {start : Cidr → Nat → Nat} {network : String} {names : List String}
    (hplace : ∀ {parent : Cidr}, parent.Workable → PlacesInOrder (place parent) name ranges (start parent))
    (h : layOut least .ok place network names = .ok zones) :
    zones.map name = names ∧ names.length ≤ maxZones ∧ names.Nodup ∧ ∃ blocks : List Cidr,
      zones.flatMap ranges = blocks.map Cidr.text ∧ blocks.Pairwise Cidr.Apart := by
  obtain ⟨-, hcount, hnodup⟩ := (layOut_eq_ok_iff.1 h).1
  obtain ⟨hnames, hblocks⟩ := of_layOut hplace (fun _ h => (Except.ok.inj h).symm) le_rfl h
  exact ⟨hnames, hcount, hnodup, hblocks⟩

end PlacesInOrder

end

namespace AwsNetwork

variable {parent : Cidr} {index : Nat} {name : String}

/-- The ranges of a zone end before those of the next one start, and within the network. -/
theorem block_end_le (hparent : parent.Workable) (hindex : index < maxZones) :
    let b := block parent.size index
    b.workerBits ≤ 6 ∧ b.rangeBits ≤ 6 ∧
      b.start + blockSize (parent.length + b.workerBits) + 2 * blockSize (parent.length + b.rangeBits)
        ≤ (block parent.size (index + 1)).start ∧
      (block parent.size (index + 1)).start ≤ 65536 := by
  obtain ⟨hsize, heighth, hsixteenth, hle⟩ := hparent.size_eq
  have hindex : index < 8 := hindex
  rw [hsize]
  interval_cases index
  all_goals
    simp only [block, largeZones]
    norm_num
    omega

def zoneStart (parent : Cidr) (index : Nat) : Nat := parent.base + (block parent.size index).start

theorem zone_eq_ok {z : Zone} (hparent : parent.Workable) (hindex : index < maxZones)
    (h : zone parent index name = .ok z) :
    ∃ workers public_ internal : Cidr,
      z.subnets = [workers.text, public_.text, internal.text] ∧
      workers.base = zoneStart parent index ∧ public_.base = workers.finish ∧
      internal.base = public_.finish ∧ internal.finish ≤ zoneStart parent (index + 1) := by
  obtain ⟨hworkerBits, hrangeBits, hend, hnext⟩ := block_end_le hparent hindex
  have hlength : parent.length ≤ 24 := hparent.2
  have hall : blockSize 0 = 4294967296 := rfl
  simp only [zone, Outcome.bind_eq_ok_iff, Outcome.pure_eq_ok_iff] at h
  obtain ⟨workers, hworkers, public_, hpublic, internal, hinternal, rfl⟩ := h
  rw [zoneStart, zoneStart]
  generalize block parent.size index = b at *
  obtain ⟨hbase, hbits⟩ := Cidr.carve_eq_ok (by omega) (by omega) hworkers
  have hsize : workers.size = blockSize (parent.length + b.workerBits) := by rw [Cidr.size, hbits]
  rw [hsize] at hpublic hinternal
  obtain ⟨hbase', hbits'⟩ := Cidr.carve_eq_ok (by omega) (by omega) hpublic
  have hsize' : public_.size = blockSize (parent.length + b.rangeBits) := by rw [Cidr.size, hbits']
  rw [hsize'] at hinternal
  obtain ⟨hbase'', hbits''⟩ := Cidr.carve_eq_ok (by omega) (by omega) hinternal
  have hsize'' : internal.size = blockSize (parent.length + b.rangeBits) := by
    rw [Cidr.size, hbits'']
  refine ⟨workers, public_, internal, rfl, hbase, ?_, ?_, ?_⟩
  · rw [Cidr.finish, hsize, hbase]
    omega
  · rw [Cidr.finish, hsize', hbase']
    omega
  · rw [Cidr.finish, hsize'', hbase'']
    omega

theorem placesInOrder (hparent : parent.Workable) :
    PlacesInOrder (zone parent) Zone.name Zone.subnets (zoneStart parent) where
  name_eq h := by
    simp only [zone, Outcome.bind_eq_ok_iff, Outcome.pure_eq_ok_iff] at h
    obtain ⟨_, -, _, -, _, -, rfl⟩ := h
    rfl
  inOrder hindex h := by
    obtain ⟨workers, public_, internal, hsubnets, hworkers, hpublic, hinternal, hend⟩ :=
      zone_eq_ok hparent hindex h
    exact ⟨[workers, public_, internal], hsubnets, fun rest hrest =>
      ⟨hworkers.ge, hpublic.ge, hinternal.ge, hrest.mono hend⟩⟩

end AwsNetwork

def Cidr.eighth (parent : Cidr) (index : Nat) : Nat := parent.base + index * (parent.size / 8)

theorem Cidr.carve_eighth {parent block : Cidr} {index : Nat} (hparent : parent.Workable)
    (hindex : index < maxZones) (h : parent.carve (index * (parent.size / 8)) 3 = .ok block) :
    block.base = parent.eighth index ∧ block.finish = parent.eighth (index + 1) := by
  obtain ⟨hsize, heighth, -, hle⟩ := hparent.size_eq
  have hindex : index < 8 := hindex
  have hlength : parent.length ≤ 24 := hparent.2
  have hall : blockSize 0 = 4294967296 := rfl
  have hpart : parent.size / 8 = blockSize (parent.length + 3) := by omega
  have hoffset : index * (parent.size / 8) ≤ 8 * (parent.size / 8) := Nat.mul_le_mul_right _ hindex.le
  obtain ⟨hbase, hbits⟩ := Cidr.carve_eq_ok (by omega) (by omega) h
  have hblock : block.size = parent.size / 8 := by rw [hpart, size, hbits]
  refine ⟨hbase, ?_⟩
  rw [finish, hbase, hblock, eighth, Nat.succ_mul, Nat.add_assoc]

/-- Eighths follow one another. -/
theorem PlacesInOrder.eighths {α ζ : Type} {make : α → String → ζ} {name : ζ → α} {range : ζ → String}
    {parent : Cidr} (hname : ∀ item text, name (make item text) = item)
    (hrange : ∀ item text, range (make item text) = text) (hparent : parent.Workable) :
    PlacesInOrder (parent.placeEighth make) name (fun zone => [range zone]) parent.eighth where
  name_eq h := by
    obtain ⟨block, -, rfl⟩ := Cidr.placeEighth_eq_ok_iff.1 h
    exact hname _ _
  inOrder hindex h := by
    obtain ⟨block, hblock, rfl⟩ := Cidr.placeEighth_eq_ok_iff.1 h
    obtain ⟨hbase, hfinish⟩ := Cidr.carve_eighth hparent hindex hblock
    refine ⟨[block], ?_, fun rest hrest => ⟨hbase.ge, hfinish ▸ hrest⟩⟩
    rw [hrange, List.map_singleton]

theorem AlicloudNetwork.placesInOrder {parent : Cidr} (hparent : parent.Workable) :
    PlacesInOrder (parent.placeEighth Zone.mk) Zone.name (fun zone => [zone.workers]) parent.eighth :=
  .eighths (fun _ _ => rfl) (fun _ _ => rfl) hparent

namespace AzureNetwork

variable {names : List String} {numbers : List Int32} {zones : List Zone}

/-- The numbers are those of the names that mean one, and each is meant once. -/
theorem zoneNumbers_eq_ok_iff {seen : List Int32} :
    zoneNumbers seen names = .ok numbers ↔
      numbers = names.filterMap zoneNumber? ∧ numbers.Nodup ∧ ∀ n ∈ numbers, n ∉ seen := by
  induction names generalizing seen numbers with
  | nil =>
    simp only [zoneNumbers, Except.ok.injEq, List.filterMap_nil]
    constructor
    · rintro rfl
      simp
    · rintro ⟨rfl, -⟩
      rfl
  | cons name rest ih =>
    rw [zoneNumbers]
    cases hnumber : zoneNumber? name with
    | none => simp only [List.filterMap_cons_none hnumber, ih]
    | some n =>
      simp only [List.filterMap_cons_some hnumber]
      split_ifs with hseen
      · simp only [false_iff]
        rintro ⟨rfl, -, hall⟩
        exact hall n List.mem_cons_self hseen
      · rw [Outcome.map_eq_ok_iff]
        constructor
        · rintro ⟨others, hothers, rfl⟩
          obtain ⟨rfl, hfresh⟩ := ih.1 hothers
          exact ⟨rfl, (nodup_notMem_cons_iff hseen).1 hfresh⟩
        · rintro ⟨rfl, hfresh⟩
          exact ⟨_, ih.2 ⟨rfl, (nodup_notMem_cons_iff hseen).2 hfresh⟩, rfl⟩

theorem placesInOrder {parent : Cidr} (hparent : parent.Workable) :
    PlacesInOrder (parent.placeEighth zone) Zone.name (fun zone => [zone.cidr]) parent.eighth :=
  .eighths (fun _ _ => rfl) (fun _ _ => rfl) hparent

/-- A layout depends on the names only through the numbers they mean. -/
theorem layout_eq_ok_iff {network : String} :
    layout network names = .ok zones ↔
      names.length ≤ maxZones ∧ names.Nodup ∧ (names.filterMap zoneNumber?).Nodup ∧
        ∃ parent, workerNetwork network = .ok parent ∧
          zonesFrom parent 0 (names.filterMap zoneNumber?) = .ok zones := by
  simp only [layout, Outcome.bind_eq_ok_iff]
  constructor
  · rintro ⟨parent, hparent, ⟨⟩, hchecked, numbers, hnumbers, hzones⟩
    obtain ⟨-, hcount, hnodup⟩ := checkZoneNames_eq_ok_iff.1 hchecked
    obtain ⟨rfl, hdistinct, -⟩ := zoneNumbers_eq_ok_iff.1 hnumbers
    exact ⟨hcount, hnodup, hdistinct, parent, hparent, hzones⟩
  · rintro ⟨hcount, hnodup, hdistinct, parent, hparent, hzones⟩
    exact ⟨parent, hparent, (), checkZoneNames_eq_ok_iff.2 ⟨Nat.zero_le _, hcount, hnodup⟩, _,
      zoneNumbers_eq_ok_iff.2 ⟨rfl, hdistinct, by simp⟩, hzones⟩

theorem layout_eq_ok {network : String} (h : layout network names = .ok zones) :
    zones.map Zone.name = names.filterMap zoneNumber? ∧ ∃ blocks : List Cidr,
      zones.map Zone.cidr = blocks.map Cidr.text ∧ blocks.Pairwise Cidr.Apart := by
  rw [layout_eq] at h
  obtain ⟨hnames, hblocks⟩ := PlacesInOrder.of_layOut placesInOrder
    (fun _ h => (zoneNumbers_eq_ok_iff.1 h).1) (List.length_filterMap_le _ _) h
  rw [← List.map_eq_flatMap] at hblocks
  exact ⟨hnames, hblocks⟩

end AzureNetwork

end ShootPlan
