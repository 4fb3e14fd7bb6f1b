import ShootPlan.Proofs.Carving
/-!
The rules that the networks of all providers share. The checks of names and of ranges accept just
what they are meant to.
-/
namespace ShootPlan

/-- An item can be counted among the seen ones or among those to come. -/
theorem nodup_notMem_cons_iff {α : Type} {a : α} {seen rest : List α} (ha : a ∉ seen) :
    (rest.Nodup ∧ ∀ b ∈ rest, b ∉ a :: seen) ↔
      (a :: rest).Nodup ∧ ∀ b ∈ a :: rest, b ∉ seen := by
  simp only [List.nodup_cons, List.mem_cons, not_or, forall_eq_or_imp]
  constructor
  · rintro ⟨hnodup, hrest⟩
    exact ⟨⟨fun hmem => (hrest a hmem).1 rfl, hnodup⟩, ha, fun b hb => (hrest b hb).2⟩
  · rintro ⟨⟨hnotMem, hnodup⟩, -, hrest⟩
    refine ⟨hnodup, fun b hb => ⟨?_, hrest b hb⟩⟩
    rintro rfl
    exact hnotMem hb

theorem firstRepeated_eq_none_iff {seen names : List String} :
    firstRepeated seen names = none ↔ names.Nodup ∧ ∀ name ∈ names, name ∉ seen := by
  induction names generalizing seen with
  | nil => simp [firstRepeated]
  | cons name rest ih =>
    rw [firstRepeated]
    split_ifs with hseen
    · simp [hseen]
    · rw [ih]
      exact nodup_notMem_cons_iff hseen

theorem checkZoneNames_eq_ok_iff {names : List String} {least : Nat} :
    checkZoneNames names least = .ok () ↔
      least ≤ names.length ∧ names.length ≤ maxZones ∧ names.Nodup := by
  unfold checkZoneNames
  split_ifs with hcount
  · simp only [false_iff]
    omega
  · have hrepeated := @firstRepeated_eq_none_iff [] names
    simp only [List.not_mem_nil, not_false_eq_true, implies_true, and_true] at hrepeated
    cases hfirst : firstRepeated [] names with
    | none =>
      simp only [true_iff]
      exact ⟨by omega, by omega, hrepeated.1 hfirst⟩
    | some name =>
      simp only [reduceCtorEq, false_iff]
      rintro ⟨-, -, hnodup⟩
      rw [hrepeated.2 hnodup] at hfirst
      cases hfirst

/-- The lengths that a worker network may have. -/
def Cidr.Workable (block : Cidr) : Prop :=
  workerLengths.1 ≤ block.length ∧ block.length ≤ workerLengths.2

theorem workerNetwork_eq_ok_iff {text : String} {block : Cidr} :
    workerNetwork text = .ok block ↔ Cidr.parse text = .ok block ∧ block.Workable := by
  simp only [workerNetwork, Outcome.bind_eq_ok_iff, Cidr.Workable]
  constructor
  · rintro ⟨parsed, hparsed, h⟩
    split_ifs at h with hlength
    obtain rfl := Outcome.pure_eq_ok_iff.1 h
    exact ⟨hparsed, hlength⟩
  · rintro ⟨hparsed, hlength⟩
    exact ⟨block, hparsed, by rw [if_pos hlength]; rfl⟩

/-- All texts are blocks, and no added one shares an address with a persisted one. -/
def KeepClear (persisted added : List String) : Prop :=
  ∃ inUse, persisted.mapM Cidr.parse = .ok inUse ∧
    ∀ text ∈ added, ∃ subnet, Cidr.parse text = .ok subnet ∧ ∀ other ∈ inUse, other.Apart subnet

theorem ensureDisjoint_eq_ok_iff {persisted added : List String} :
    ensureDisjoint persisted added = .ok () ↔ KeepClear persisted added := by
  simp only [ensureDisjoint, Outcome.bind_eq_ok_iff, List.forM_eq_forM, Outcome.forM_eq_ok_iff]
  refine exists_congr fun inUse => and_congr_right fun _ => forall₂_congr fun text _ =>
    exists_congr fun subnet => and_congr_right fun _ => ?_
  cases hfind : inUse.find? (·.overlaps subnet) with
  | none =>
    rw [List.find?_eq_none] at hfind
    simp only [Outcome.pure_eq_ok_iff, true_iff]
    exact fun other hother => Cidr.overlaps_eq_false_iff.1 (by simpa using hfind other hother)
  | some other =>
    simp only [Outcome.throw_eq_ok_iff, false_iff]
    intro hall
    have happart := hall other (List.mem_of_find?_eq_some hfind)
    have hoverlaps := List.find?_some hfind
    rw [Cidr.overlaps_eq_false_iff.2 happart] at hoverlaps
    cases hoverlaps

def Readable (texts : List String) : Prop := ∃ blocks, texts.mapM Cidr.parse = .ok blocks

theorem readable_append_of_ensureDisjoint {persisted fresh : List String}
    (h : ensureDisjoint persisted fresh = .ok ()) : Readable (persisted ++ fresh) := by
  obtain ⟨inUse, hinUse, hfresh⟩ := ensureDisjoint_eq_ok_iff.1 h
  have hread : ∀ text ∈ fresh, ∃ block, Cidr.parse text = .ok block := fun text htext =>
    (hfresh text htext).imp fun _ hblock => hblock.1
  obtain ⟨blocks, hblocks⟩ := Outcome.exists_mapM_eq_ok_iff.2 hread
  refine ⟨inUse ++ blocks, ?_⟩
  rw [Outcome.mapM_eq_ok_iff] at hinUse hblocks ⊢
  exact List.rel_append hinUse hblocks

theorem ensureDisjoint_nil {persisted : List String} (h : Readable persisted) :
    ensureDisjoint persisted [] = .ok () := by
  obtain ⟨blocks, hblocks⟩ := h
  exact ensureDisjoint_eq_ok_iff.2 ⟨blocks, hblocks, by simp⟩

/-- The texts are blocks, no two of which share an address. -/
def DisjointSubnets (texts : List String) : Prop :=
  ∃ blocks, texts.mapM Cidr.parse = .ok blocks ∧ blocks.Pairwise Cidr.Apart

theorem mapM_parse_text (blocks : List Cidr) :
    (blocks.map Cidr.text).mapM Cidr.parse = .ok blocks := by
  rw [Outcome.mapM_eq_ok_iff, List.forall₂_map_left_iff, List.forall₂_same]
  exact fun block _ => Cidr.parse_text block

theorem disjointSubnets_texts {blocks : List Cidr} (h : blocks.Pairwise Cidr.Apart) :
    DisjointSubnets (blocks.map Cidr.text) := ⟨blocks, mapM_parse_text blocks, h⟩

/-- Added ranges that passed the check keep a set of subnets disjoint. -/
theorem DisjointSubnets.append {persisted added : List String} {blocks : List Cidr}
    (hpersisted : DisjointSubnets persisted) (hblocks : blocks.Pairwise Cidr.Apart)
    (hadded : added.Sublist (blocks.map Cidr.text)) (h : ensureDisjoint persisted added = .ok ()) :
    DisjointSubnets (persisted ++ added) := by
  obtain ⟨chosen, hchosen, rfl⟩ := List.sublist_map_iff.1 hadded
  obtain ⟨old, hold, hapart⟩ := hpersisted
  obtain ⟨inUse, hinUse, hclear⟩ := ensureDisjoint_eq_ok_iff.1 h
  obtain rfl : old = inUse := Except.ok.inj (hold.symm.trans hinUse)
  refine ⟨old ++ chosen, ?_,
    List.pairwise_append.2 ⟨hapart, hblocks.sublist hchosen, fun a ha b hb => ?_⟩⟩
  · rw [Outcome.mapM_eq_ok_iff] at hold ⊢
    exact List.rel_append hold (Outcome.mapM_eq_ok_iff.1 (mapM_parse_text chosen))
  · obtain ⟨subnet, hsubnet, hothers⟩ := hclear b.text (List.mem_map_of_mem hb)
    obtain rfl : b = subnet := Except.ok.inj ((Cidr.parse_text b).symm.trans hsubnet)
    exact hothers a ha

end ShootPlan
