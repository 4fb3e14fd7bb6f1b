import ShootPlan.Proofs.RecordRoundTrip
/-!
What is written of a value tells which value it is. A record's written form leaves out some
values and has the others under their keys; so two written forms are the same when, field by
field, the same is written or nothing on both sides.
-/
namespace ShootPlan

namespace Json

theorem comparand_ne_null {json : Json} (h : json ≠ null) : json.comparand ≠ null := by
  cases json <;> simp_all [comparand]

/-- The same key, and values that count as the same. -/
def SameMember (m n : String × Json) : Prop := m.1 = n.1 ∧ m.2.comparand = n.2.comparand

theorem comparandMembers_congr {ms ns : List (String × Json)} (h : List.Forall₂ SameMember ms ns) :
    comparandMembers ms = comparandMembers ns := by
  induction h with
  | nil => rfl
  | @cons m n ms ns hfirst _ ih =>
    obtain ⟨key, value⟩ := m
    obtain ⟨key', value'⟩ := n
    obtain ⟨rfl, hvalue⟩ := hfirst
    rw [comparandMembers, comparandMembers, ih, hvalue]

end Json

namespace Coded

/-- Values of the type can be told apart by what is written of them, and from nothing. -/
class Telling (α : Type) [Coded α] : Prop where
  injective : Function.Injective fun a : α => (Coded.write a).comparand
  ne_null : ∀ a : α, Coded.write a ≠ .null

variable {α : Type} [Coded α]

instance : Telling String where
  injective _ _ h := Json.string.inj h
  ne_null _ h := nomatch h

instance : Telling Bool where
  injective _ _ h := Json.bool.inj h
  ne_null _ h := nomatch h

instance : Telling Int32 where
  injective _ _ h := Int32.toInt_inj.1 (Json.int.inj h)
  ne_null _ h := nomatch h

theorem comparand_write_dict (dict : Dict α) :
    (Coded.write dict).comparand =
      .object (dict.entries.map fun entry => (entry.1, (Coded.write entry.2).comparand)) := by
  have hsorted : (dict.entries.map fun entry => (entry.1, Coded.write entry.2)).Pairwise
      fun a b => a.1 < b.1 := List.pairwise_map.2 dict.sorted
  change Json.object (Json.comparandMembers _) = _
  rw [Json.comparandMembers_eq, Json.placeMembers_of_sorted Json.comparand hsorted, List.map_map]
  rfl

/-- Lists are told apart as far as their items are. -/
theorem comparand_write_list_iff {β : Type} {view : α → β}
    (h : ∀ a b : α, (Coded.write a).comparand = (Coded.write b).comparand ↔ view a = view b)
    {as bs : List α} :
    (Coded.write as).comparand = (Coded.write bs).comparand ↔ as.map view = bs.map view := by
  simp only [Coded.write, Json.comparand_array, List.map_map, Json.array.injEq]
  induction as generalizing bs with
  | nil => cases bs <;> simp
  | cons a as ih =>
    cases bs with
    | nil => simp
    | cons b bs => simp only [List.map_cons, List.cons.injEq, Function.comp_apply, h, ih]

variable [Telling α]

theorem comparand_write_inj {a b : α} :
    (Coded.write a).comparand = (Coded.write b).comparand ↔ a = b := Telling.injective.eq_iff

instance : Telling (List α) where
  injective as bs h := by
    have hview (a b : α) : (Coded.write a).comparand = (Coded.write b).comparand ↔ id a = id b :=
      comparand_write_inj
    simpa using (comparand_write_list_iff hview).1 h
  ne_null _ h := nomatch h

instance : Telling (Dict α) where
  injective a b h := by
    simp only [comparand_write_dict, Json.object.injEq] at h
    have hentries : a.entries = b.entries := by
      refine List.map_injective_iff.2 (fun m n hmn => ?_) h
      obtain ⟨hkey, hvalue⟩ := Prod.mk.inj hmn
      exact Prod.ext hkey (Telling.injective hvalue)
    cases a
    cases b
    simp_all
  ne_null _ h := nomatch h

/-- Nothing is told from something as well. -/
theorem comparand_write_option_inj {a b : Option α} :
    (Coded.write a).comparand = (Coded.write b).comparand ↔ a = b := by
  have hnull (a : α) : (Coded.write a).comparand ≠ Json.null.comparand :=
    Json.comparand_ne_null (Telling.ne_null a)
  cases a with
  | none =>
    cases b with
    | none => simp
    | some b => exact ⟨fun h => absurd h.symm (hnull b), nofun⟩
  | some a =>
    cases b with
    | none => exact ⟨fun h => absurd h (hnull a), nofun⟩
    | some b =>
      rw [Option.some_inj]
      change (Coded.write a).comparand = (Coded.write b).comparand ↔ a = b
      exact comparand_write_inj

end Coded

namespace Field

variable {α : Type} (field : Field α)

/-- What is written of a field's value, if it is not left out. -/
def part (value : α) : Option Json :=
  if field.hidden value then none else some (field.write value).comparand

variable [Coded α] {key : String} {v w : α}

theorem part_required :
    (required key).part v = (required key).part w ↔ (Coded.write v).comparand = (Coded.write w).comparand :=
  Option.some_inj

theorem part_defaulted {fallback : α} :
    (defaulted key fallback).part v = (defaulted key fallback).part w ↔
      (Coded.write v).comparand = (Coded.write w).comparand :=
  Option.some_inj

theorem part_optional (v : Option α) :
    (optional key).part v = v.map fun a => (Coded.write a).comparand := by
  cases v <;> rfl

theorem injective_required [Coded.Telling α] : Function.Injective (required key : Field α).part :=
  fun _ _ h => Coded.comparand_write_inj.1 (part_required.1 h)

theorem injective_defaulted [Coded.Telling α] {fallback : α} :
    Function.Injective (defaulted key fallback).part :=
  fun _ _ h => Coded.comparand_write_inj.1 (part_defaulted.1 h)

theorem injective_optional [Coded.Telling α] :
    Function.Injective (optional key : Field (Option α)).part := by
  intro v w h
  rw [part_optional, part_optional] at h
  exact Option.map_injective Coded.Telling.injective h

/-- A field that leaves out one value alone. -/
theorem injective_of_hidden {β : Type} {field : Field β} (hidden : β)
    (hhidden : ∀ v, field.hidden v = true ↔ v = hidden)
    (h : Function.Injective fun v => (field.write v).comparand) : Function.Injective field.part := by
  intro v w hvw
  unfold part at hvw
  split_ifs at hvw with hv hw hw
  · rw [(hhidden v).1 hv, (hhidden w).1 hw]
  · exact h (Option.some_inj.1 hvw)

theorem injective_sparse [Coded.Telling α] : Function.Injective (sparse key : Field (List α)).part :=
  injective_of_hidden [] (fun _ => List.isEmpty_iff) Coded.Telling.injective

theorem injective_sparseMap [Coded.Telling α] :
    Function.Injective (sparseMap key : Field (Dict α)).part := by
  refine injective_of_hidden .empty (fun dict => ?_) Coded.Telling.injective
  obtain ⟨entries, hsorted⟩ := dict
  simp [sparseMap, Dict.isEmpty, Dict.empty]

end Field

namespace Fields

/-- The same is written of both values, field by field. -/
def Agree : {αs : List Type} → Fields αs → Values αs → Values αs → Prop
  | _, .nil, _, _ => True
  | _, .cons field rest, (v, vs), (w, ws) => field.part v = field.part w ∧ rest.Agree vs ws

/-- Every field tells its values apart. -/
def Telling : {αs : List Type} → Fields αs → Prop
  | _, .nil => True
  | _, .cons field rest => Function.Injective field.part ∧ rest.Telling

variable {αs : List Type} {fields : Fields αs}

theorem Telling.eq_of_agree (h : fields.Telling) {vs ws : Values αs} (hagree : fields.Agree vs ws) :
    vs = ws := by
  induction fields with
  | nil => rfl
  | cons field rest ih => exact Prod.ext (h.1 hagree.1) (ih h.2 hagree.2)

theorem forall₂_write_of_agree {vs ws : Values αs} (h : fields.Agree vs ws) :
    List.Forall₂ Json.SameMember (fields.write vs) (fields.write ws) := by
  induction fields with
  | nil => exact .nil
  | cons field rest ih =>
    obtain ⟨v, vs⟩ := vs
    obtain ⟨w, ws⟩ := ws
    obtain ⟨hpart, hrest⟩ := h
    unfold Field.part at hpart
    rw [write, write]
    split_ifs at hpart ⊢
    · exact ih hrest
    · exact .cons ⟨rfl, Option.some_inj.1 hpart⟩ (ih hrest)

/-- Under its key stands what is written of a field. -/
theorem lookup_write_self {α : Type} {field : Field α} (h : field.key ∉ fields.keys) (v : α)
    (vs : Values αs) :
    (((Fields.cons field fields).write (v, vs)).lookup field.key).map Json.comparand =
      field.part v := by
  rw [write, Field.part]
  split_ifs
  · rw [lookup_write_of_notMem h, Option.map_none]
  · rw [List.lookup_cons_self, Option.map_some]

theorem lookup_write_of_ne {α : Type} {field : Field α} {key : String} (h : key ≠ field.key) (v : α)
    (vs : Values αs) :
    ((Fields.cons field fields).write (v, vs)).lookup key = (fields.write vs).lookup key := by
  have hbeq : (key == field.key) = false := by simpa using h
  rw [write]
  split_ifs
  · rfl
  · rw [List.lookup_cons, hbeq]

theorem agree_of_lookup (hkeys : fields.keys.Nodup) {vs ws : Values αs}
    (h : ∀ key ∈ fields.keys, ((fields.write vs).lookup key).map Json.comparand =
      ((fields.write ws).lookup key).map Json.comparand) : fields.Agree vs ws := by
  induction fields with
  | nil => trivial
  | cons field rest ih =>
    obtain ⟨v, vs⟩ := vs
    obtain ⟨w, ws⟩ := ws
    rw [keys, List.nodup_cons] at hkeys
    refine ⟨?_, ih hkeys.2 fun key hkey => ?_⟩
    · rw [← lookup_write_self hkeys.1 v vs, ← lookup_write_self hkeys.1 w ws]
      exact h field.key List.mem_cons_self
    · have hne : key ≠ field.key := fun heq => hkeys.1 (heq ▸ hkey)
      rw [← lookup_write_of_ne hne v vs, ← lookup_write_of_ne hne w ws]
      exact h key (List.mem_cons_of_mem _ hkey)

end Fields

namespace Record

variable {σ : Type} {record : Record σ}

theorem comparand_write_iff (record : Record σ) {a b : σ}
    (hkeys : (record.banner.map Prod.fst ++ record.fields.keys).Nodup) :
    (record.write a).comparand = (record.write b).comparand ↔
      record.fields.Agree (record.split a) (record.split b) := by
  simp only [write, Json.comparand, Json.object.injEq]
  constructor
  · refine fun h => Fields.agree_of_lookup (List.nodup_append.1 hkeys).2.1 fun key hkey => ?_
    rw [Json.comparandMembers_eq, Json.comparandMembers_eq] at h
    rw [← lookup_placeMembers Json.comparand hkeys hkey, h, lookup_placeMembers Json.comparand hkeys hkey]
  · refine fun h => Json.comparandMembers_congr ?_
    exact List.rel_append (List.forall₂_same.2 fun _ _ => ⟨rfl, rfl⟩) (Fields.forall₂_write_of_agree h)

/-- A type that is described as a record, all of whose fields tell their values apart. -/
theorem telling (hkeys : (record.banner.map Prod.fst ++ record.fields.keys).Nodup)
    (hbuild : ∀ a, record.build (record.split a) = a) (h : record.fields.Telling) :
    @Coded.Telling σ record.coded :=
  @Coded.Telling.mk σ record.coded
    (fun a b hab => by
      have hsplit := h.eq_of_agree ((comparand_write_iff record hkeys).1 hab)
      rw [← hbuild a, hsplit, hbuild b])
    fun _ hnull => nomatch hnull

end Record

end ShootPlan
