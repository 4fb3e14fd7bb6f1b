import ShootPlan.Proofs.ZoneGrowth
/-!
Documents that are asked again for zones that they were made for. On most providers nothing
is missing then. On Azure names that mean no number stay out of the document, so pools go on
asking for them, but the same layout comes out again and nothing is left to append.
-/
namespace ShootPlan

namespace AzureNetwork

variable {known added : List String} {network : String} {zones : List Zone}

def meansNumber (name : String) : Bool := (zoneNumber? name).isSome

/-- A name that means a number is that number in plain decimal. -/
def Plain (name : String) : Prop := ∀ n, zoneNumber? name = some n → name = toString n.toInt

/-- The numbers that the names mean, in plain decimal. -/
def numerals (names : List String) : List String :=
  (names.filterMap zoneNumber?).map fun n => toString n.toInt

theorem numerals_eq_filter (h : ∀ name ∈ added, Plain name) :
    numerals added = added.filter meansNumber := by
  induction added with
  | nil => rfl
  | cons name rest ih =>
    have hrest := ih fun other hother => h other (List.mem_cons_of_mem _ hother)
    cases hnumber : zoneNumber? name with
    | none =>
      have hmeans : ¬meansNumber name = true := by simp [meansNumber, hnumber]
      rw [numerals, List.filterMap_cons_none hnumber, List.filter_cons_of_neg hmeans, ← hrest,
        numerals]
    | some n =>
      have hname : name = toString n.toInt := h name List.mem_cons_self n hnumber
      have hmeans : meansNumber name = true := by simp [meansNumber, hnumber]
      rw [numerals, List.filterMap_cons_some hnumber, List.filter_cons_of_pos hmeans,
        List.map_cons, ← hname, ← hrest, numerals]

theorem filterMap_meansNumber (names : List String) :
    (names.filter meansNumber).filterMap zoneNumber? =
      names.filterMap zoneNumber? := by
  rw [List.filterMap_filter]
  refine List.filterMap_congr fun name _ => ?_
  rw [meansNumber]
  cases zoneNumber? name <;> rfl

theorem filterMap_not_meansNumber (names : List String) :
    (names.filter fun name => !meansNumber name).filterMap zoneNumber? = [] := by
  rw [List.filterMap_filter, List.filterMap_eq_nil_iff]
  intro name _
  rw [meansNumber]
  cases zoneNumber? name <;> rfl

theorem layout_filter_append (h : layout network (known ++ added) = .ok zones) :
    layout network (known ++ (added.filter meansNumber) ++
      added.filter fun name => !meansNumber name) = .ok zones := by
  obtain ⟨hcount, hnodup, hdistinct, parent, hparent, hzones⟩ := layout_eq_ok_iff.1 h
  have hperm : (known ++ (added.filter meansNumber) ++
      added.filter fun name => !meansNumber name).Perm (known ++ added) := by
    rw [List.append_assoc]
    exact (List.filter_append_perm _ added).append_left known
  have hnumbers : (known ++ (added.filter meansNumber) ++
      added.filter fun name => !meansNumber name).filterMap zoneNumber? =
      (known ++ added).filterMap zoneNumber? := by
    simp only [List.filterMap_append, filterMap_meansNumber, filterMap_not_meansNumber,
      List.append_nil]
  rw [layout_eq_ok_iff, hnumbers]
  exact ⟨hperm.length_eq ▸ hcount, hperm.nodup_iff.2 hnodup, hdistinct, parent, hparent, hzones⟩

/-- The zones of a layout stay laid out when they are known and the rest is asked for again. -/
theorem relayout (hplain : ∀ name ∈ added, Plain name)
    (h : layout network (known ++ added) = .ok zones) :
    layout network (known ++ numerals added ++ added.filter (· ∉ numerals added)) = .ok zones := by
  have hnamed : numerals added = added.filter meansNumber := numerals_eq_filter hplain
  have hrest : added.filter (· ∉ numerals added) = added.filter fun name => !meansNumber name := by
    refine List.filter_congr fun name hname => ?_
    simp [hnamed, List.mem_filter, hname]
  rw [hrest, hnamed]
  exact layout_filter_append h

namespace Infrastructure

variable {doc grown : Infrastructure} {names wanted : List String}

theorem mem_numbers_of_mem_zoneNames {name : String} {n : Int32} (h : name ∈ doc.zoneNames)
    (hnumber : zoneNumber? name = some n) : n ∈ doc.numbers := by
  rw [zoneNames_eq_map] at h
  obtain ⟨m, hm, rfl⟩ := List.mem_map.1 h
  obtain rfl := (zoneNumber?_toString_iff.1 hnumber).1
  exact hm

theorem grow_of_layout (h : layout network (doc.zoneNames ++ added) = .ok zones)
    (hhas : ∀ zone ∈ zones, zone.name ∈ doc.numbers) (hread : Readable doc.subnets)
    (hzoned : doc.zoned = !doc.networks.zones.isEmpty) : doc.grow network added = .ok doc := by
  have hfresh : (zones.filter fun zone => !doc.networks.zones.any fun z => z.name == zone.name) = [] := by
    rw [List.filter_eq_nil_iff]
    intro zone hzone
    obtain ⟨z, hz, hname⟩ := List.mem_map.1 (hhas zone hzone)
    simp only [Bool.not_eq_true, Bool.not_eq_false', List.any_eq_true, beq_iff_eq]
    exact ⟨z, hz, hname⟩
  simp only [grow, Outcome.bind_eq_ok_iff, Outcome.pure_eq_ok_iff]
  refine ⟨zones, h, (), ?_, ?_⟩
  · rw [hfresh]
    exact ensureDisjoint_nil hread
  · rw [hfresh, List.append_nil, ← hzoned]

/-- A document whose zones are known ones and those of added names has all that are asked for. -/
theorem grow_of_zoneNames (hplain : ∀ name ∈ added, Plain name)
    (hlayout : layout network (known ++ added) = .ok zones)
    (hnames : doc.zoneNames = known ++ numerals added)
    (hread : Readable doc.subnets) (hzoned : doc.zoned = !doc.networks.zones.isEmpty) :
    doc.grow network (added.filter (· ∉ doc.zoneNames)) = .ok doc := by
  obtain ⟨-, hnodup, -⟩ := layout_eq_ok_iff.1 hlayout
  have hnew : added.filter (· ∉ doc.zoneNames) =
      added.filter (· ∉ numerals added) := by
    refine List.filter_congr fun name hname => ?_
    have hnotMem : name ∉ known := fun hmem => (List.nodup_append.1 hnodup).2.2 name hmem name hname rfl
    simp [hnames, hnotMem]
  have hagain := relayout hplain hlayout
  rw [← hnames, ← hnew] at hagain
  refine grow_of_layout hagain (fun zone hzone => ?_) hread hzoned
  have hnumber : zone.name ∈ (known ++ added).filterMap zoneNumber? := by
    rw [← (layout_eq_ok hlayout).1]
    exact List.mem_map_of_mem hzone
  obtain ⟨name, hname, hmeans⟩ := List.mem_filterMap.1 hnumber
  have hmem : name ∈ doc.zoneNames := by
    rw [hnames]
    rcases List.mem_append.1 hname with hknown | hadded
    · exact List.mem_append_left _ hknown
    · rw [hplain name hadded _ hmeans]
      exact List.mem_append_right _
        (List.mem_map_of_mem (List.mem_filterMap.2 ⟨name, hadded, hmeans⟩))
  exact mem_numbers_of_mem_zoneNames hmem hmeans

/-- No number is added that the document has, in whatever spelling. -/
theorem notMem_numbers_of_grow (h : doc.grow network added = .ok grown) {n : Int32}
    (hadded : n ∈ added.filterMap zoneNumber?) : n ∉ doc.numbers := by
  simp only [grow, Outcome.bind_eq_ok_iff] at h
  obtain ⟨zones, hlayout, -⟩ := h
  obtain ⟨-, -, hdistinct, -⟩ := layout_eq_ok_iff.1 hlayout
  rw [List.filterMap_append, List.nodup_append] at hdistinct
  obtain ⟨name, -, hnumber⟩ := List.mem_filterMap.1 hadded
  intro hmem
  have hknown : n ∈ doc.zoneNames.filterMap zoneNumber? := by
    rw [zoneNames_eq_map]
    exact List.mem_filterMap.2 ⟨_, List.mem_map_of_mem hmem,
      zoneNumber?_toString (mem_zoneRange_of_zoneNumber? hnumber)⟩
  exact hdistinct.2.2 n hknown n hadded rfl

/-- What the layout has more than the document are the zones of the added numbers. -/
theorem filter_numbers_of_grow (h : doc.grow network added = .ok grown) :
    ((doc.zoneNames ++ added).filterMap zoneNumber?).filter (· ∉ doc.numbers) =
      added.filterMap zoneNumber? := by
  have hold : (doc.zoneNames.filterMap zoneNumber?).filter (· ∉ doc.numbers) = [] := by
    rw [List.filter_eq_nil_iff]
    intro n hn
    obtain ⟨name, hname, hnumber⟩ := List.mem_filterMap.1 hn
    simpa using mem_numbers_of_mem_zoneNames hname hnumber
  have hadded : (added.filterMap zoneNumber?).filter (· ∉ doc.numbers) = added.filterMap zoneNumber? :=
    List.filter_eq_self.2 fun _ hn => decide_eq_true (notMem_numbers_of_grow h hn)
  rw [List.filterMap_append, List.filter_append, hold, hadded, List.nil_append]

theorem numbers_of_grow (h : doc.grow network added = .ok grown) :
    grown.numbers = doc.numbers ++ added.filterMap zoneNumber? := by
  have hnumbers := filter_numbers_of_grow h
  obtain ⟨fresh, rfl, hfresh, -⟩ := grow_eq_ok h
  rw [hnumbers] at hfresh
  rw [← hfresh]
  simp [numbers]

/-- A document that grew to serve names serves them: it would grow into itself. -/
theorem grow_of_grow (hplain : ∀ name ∈ wanted, Plain name)
    (h : doc.grow network (wanted.filter (· ∉ doc.zoneNames)) = .ok grown) :
    grown.grow network (wanted.filter (· ∉ grown.zoneNames)) = .ok grown := by
  have hplain' : ∀ name ∈ wanted.filter (· ∉ doc.zoneNames), Plain name :=
    fun name hname => hplain name (List.mem_of_mem_filter hname)
  have hnumbers := numbers_of_grow h
  have hnames : grown.zoneNames =
      doc.zoneNames ++ numerals (wanted.filter (· ∉ doc.zoneNames)) := by
    rw [zoneNames_eq_map, hnumbers, List.map_append, ← zoneNames_eq_map, numerals]
  have hwanted : (wanted.filter (· ∉ doc.zoneNames)).filter (· ∉ grown.zoneNames) =
      wanted.filter (· ∉ grown.zoneNames) := by
    rw [List.filter_filter]
    refine List.filter_congr fun name _ => ?_
    have hkept : name ∉ grown.zoneNames → name ∉ doc.zoneNames := by
      rw [hnames]
      exact fun hnotMem hmem => hnotMem (List.mem_append_left _ hmem)
    rw [← Bool.decide_and, decide_eq_decide]
    exact and_iff_left_of_imp hkept
  simp only [grow, Outcome.bind_eq_ok_iff, Outcome.pure_eq_ok_iff] at h
  obtain ⟨zones, hlayout, ⟨⟩, hclear, rfl⟩ := h
  rw [← hwanted]
  refine grow_of_zoneNames hplain' hlayout hnames ?_ rfl
  rw [subnets, List.map_append]
  exact readable_append_of_ensureDisjoint hclear

theorem grow_of_create (hplain : ∀ name ∈ wanted, Plain name)
    (h : create network wanted = .ok doc) (hzones : doc.zoneNames ≠ []) :
    doc.grow network (wanted.filter (· ∉ doc.zoneNames)) = .ok doc := by
  obtain ⟨-, blocks, hblocks, -⟩ := create_eq_ok h
  simp only [create, Outcome.bind_eq_ok_iff] at h
  obtain ⟨zones, hlayout, h⟩ := h
  split_ifs at h with hempty
  · obtain rfl := Outcome.pure_eq_ok_iff.1 h
    exact absurd rfl hzones
  obtain rfl := Outcome.pure_eq_ok_iff.1 h
  obtain ⟨hnumbers, -⟩ := layout_eq_ok hlayout
  rw [← List.nil_append wanted] at hlayout
  refine grow_of_zoneNames hplain hlayout ?_ ⟨blocks, hblocks⟩ ?_
  · rw [zoneNames_eq_map, numbers, hnumbers, List.nil_append, numerals]
  · simp [hempty]

end Infrastructure

end AzureNetwork

namespace InfrastructureDocument

variable {doc grown : InfrastructureDocument} {provider : Hyperscaler} {network : String}
  {wanted : List String}

/-- Asked for these zones, the document stays as it is. -/
def Settles (doc : InfrastructureDocument) (network : String) (wanted : List String) : Prop :=
  (doc.provider = .azure ∧ doc.names = []) ∨ wanted.filter (· ∉ doc.names) = [] ∨
    doc.provider = .openstack ∨ doc.grow network (wanted.filter (· ∉ doc.names)) = .ok doc

theorem settles_of_forall_mem (h : ∀ zone ∈ wanted, zone ∈ doc.names) :
    doc.Settles network wanted := by
  refine .inr (.inl (List.filter_eq_nil_iff.2 fun zone hzone => ?_))
  simpa using h zone hzone

theorem settles_of_create {dualStack : Bool}
    (hplain : provider = .azure → ∀ zone ∈ wanted, AzureNetwork.Plain zone)
    (h : create provider network wanted dualStack = .ok doc) : doc.Settles network wanted := by
  cases provider with
  | aws => exact settles_of_forall_mem fun _ hzone => names_of_create (.inl rfl) h ▸ hzone
  | alicloud => exact settles_of_forall_mem fun _ hzone => names_of_create (.inr rfl) h ▸ hzone
  | openstack => exact .inr (.inr (.inl (provider_of_create h)))
  | azure =>
    obtain ⟨azure, hazure, rfl⟩ := Outcome.map_eq_ok_iff.1 h
    by_cases hnames : azure.zoneNames = []
    · exact .inl ⟨rfl, hnames⟩
    · have hagain := AzureNetwork.Infrastructure.grow_of_create (hplain rfl) hazure hnames
      exact .inr (.inr (.inr (Outcome.map_eq_ok_iff.2 ⟨azure, hagain, rfl⟩)))

theorem settles_of_grow (hplain : doc.provider = .azure → ∀ zone ∈ wanted, AzureNetwork.Plain zone)
    (h : doc.grow network (wanted.filter (· ∉ doc.names)) = .ok grown) :
    grown.Settles network wanted := by
  have hnamed (hnamed : GoesByName doc.provider) : grown.Settles network wanted := by
    refine settles_of_forall_mem fun zone hzone => ?_
    rw [names_of_grow hnamed h, List.mem_append, List.mem_filter]
    by_cases hknown : zone ∈ doc.names
    · exact .inl hknown
    · exact .inr ⟨hzone, decide_eq_true hknown⟩
  cases doc with
  | aws => exact hnamed (.inl rfl)
  | alicloud => exact hnamed (.inr rfl)
  | openstack => exact .inr (.inr (.inl (provider_of_grow h)))
  | azure doc =>
    obtain ⟨azure, hazure, rfl⟩ := Outcome.map_eq_ok_iff.1 h
    have hagain := AzureNetwork.Infrastructure.grow_of_grow (hplain rfl) hazure
    exact .inr (.inr (.inr (Outcome.map_eq_ok_iff.2 ⟨azure, hagain, rfl⟩)))

end InfrastructureDocument

end ShootPlan
