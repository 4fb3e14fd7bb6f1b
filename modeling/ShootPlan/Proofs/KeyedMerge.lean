import Mathlib.Tactic
import ShootPlan.KeyedList
/-!
Lists with one item for each key, and what happens when items are put into them again: an
item that is there already changes nothing.
-/
namespace ShootPlan

/-- An item is the only one of its key. -/
theorem filter_key_eq_of_mem {α : Type} {key : α → String} {items : List α} {item : α}
    (hnodup : (items.map key).Nodup) (h : item ∈ items) :
    items.filter (fun other => key other == key item) = [item] := by
  induction items with
  | nil => cases h
  | cons first rest ih =>
    rw [List.map_cons, List.nodup_cons] at hnodup
    rcases List.mem_cons.1 h with rfl | hrest
    · rw [List.filter_cons_of_pos (by simp), List.filter_eq_nil_iff.2]
      intro other hother hsame
      exact hnodup.1 (beq_iff_eq.1 hsame ▸ List.mem_map_of_mem hother)
    · have hne : key first ≠ key item := fun heq => hnodup.1 (heq ▸ List.mem_map_of_mem hrest)
      rw [List.filter_cons_of_neg (by simpa using hne)]
      exact ih hnodup.2 hrest

theorem find?_key_eq_of_mem {α : Type} {key : α → String} {items : List α} {item : α}
    (hnodup : (items.map key).Nodup) (h : item ∈ items) :
    items.find? (fun other => key other == key item) = some item := by
  rw [← List.head?_filter, filter_key_eq_of_mem hnodup h, List.head?_cons]

namespace KeyedList

variable {α : Type} [Keyed α]

theorem ext_items {a b : KeyedList α} (h : a.items = b.items) : a = b := by
  cases a
  cases b
  simp_all

theorem replace_of_mem {item : α} {items : List α} (hnodup : (items.map Keyed.key).Nodup)
    (h : item ∈ items) : replace item items = items := by
  rw [replace]
  conv_rhs => rw [← List.map_id items]
  refine List.map_congr_left fun old hold => ?_
  split_ifs with hkey
  · exact (List.inj_on_of_nodup_map hnodup hold h hkey).symm
  · rfl

/-- An item that is there stays where it is. -/
theorem upsert_of_mem {list : KeyedList α} {item : α} (h : item ∈ list.items) :
    list.upsert item = list := by
  have hkey : Keyed.key item ∈ list.items.map Keyed.key := List.mem_map_of_mem h
  apply ext_items
  rw [upsert, dif_pos hkey]
  exact replace_of_mem list.distinct h

theorem mem_upsert_iff {list : KeyedList α} {item other : α} :
    other ∈ (list.upsert item).items ↔
      other = item ∨ other ∈ list.items ∧ Keyed.key other ≠ Keyed.key item := by
  unfold upsert
  split_ifs with hkey
  · obtain ⟨held, hheld, hsame⟩ := List.mem_map.1 hkey
    constructor
    · intro h
      obtain ⟨old, hold, rfl⟩ := List.mem_map.1 h
      split_ifs with hold'
      · exact .inl rfl
      · exact .inr ⟨hold, hold'⟩
    · rintro (rfl | ⟨hold, hne⟩)
      · exact List.mem_map.2 ⟨held, hheld, if_pos hsame⟩
      · exact List.mem_map.2 ⟨other, hold, if_neg hne⟩
  · constructor
    · intro h
      rcases List.mem_append.1 h with hold | hnew
      · exact .inr ⟨hold, fun heq => hkey (heq ▸ List.mem_map_of_mem hold)⟩
      · exact .inl (List.mem_singleton.1 hnew)
    · rintro (rfl | ⟨hold, -⟩)
      · exact List.mem_append_right _ (List.mem_singleton_self other)
      · exact List.mem_append_left _ hold

theorem mem_upsert_self (list : KeyedList α) (item : α) : item ∈ (list.upsert item).items :=
  mem_upsert_iff.2 (.inl rfl)

/-- The items that are put in, and those they leave in place. -/
theorem mem_foldl_upsert_iff {list : KeyedList α} {items : List α} {other : α}
    (hnodup : (items.map Keyed.key).Nodup) :
    other ∈ (items.foldl upsert list).items ↔
      other ∈ items ∨ other ∈ list.items ∧ Keyed.key other ∉ items.map Keyed.key := by
  induction items generalizing list with
  | nil => simp
  | cons item items ih =>
    rw [List.map_cons, List.nodup_cons] at hnodup
    rw [List.foldl_cons, ih hnodup.2, mem_upsert_iff, List.map_cons, List.mem_cons, List.mem_cons, not_or]
    constructor
    · rintro (h | ⟨rfl | ⟨hold, hne⟩, hkey⟩)
      · exact .inl (.inr h)
      · exact .inl (.inl rfl)
      · exact .inr ⟨hold, hne, hkey⟩
    · rintro ((rfl | h) | ⟨hold, hne, hkey⟩)
      · exact .inr ⟨.inl rfl, hnodup.1⟩
      · exact .inl h
      · exact .inr ⟨.inr ⟨hold, hne⟩, hkey⟩

theorem foldl_upsert_of_forall_mem {list : KeyedList α} {items : List α}
    (h : ∀ item ∈ items, item ∈ list.items) : items.foldl upsert list = list := by
  induction items with
  | nil => rfl
  | cons item items ih =>
    rw [List.foldl_cons, upsert_of_mem (h item List.mem_cons_self)]
    exact ih fun i hi => h i (List.mem_cons_of_mem _ hi)

/-- Putting the same items in a second time changes nothing. -/
theorem foldl_upsert_foldl_upsert (list : KeyedList α) {items : List α}
    (hnodup : (items.map Keyed.key).Nodup) :
    items.foldl upsert (items.foldl upsert list) = items.foldl upsert list :=
  foldl_upsert_of_forall_mem fun _ h => (mem_foldl_upsert_iff hnodup).2 (.inl h)

theorem foldl_appendIfAbsent_items (list : KeyedList α) {items : List α}
    (hnodup : ((list.items ++ items).map Keyed.key).Nodup) :
    (items.foldl (fun list item => (list.appendIfAbsent item).1) list).items =
      list.items ++ items := by
  induction items generalizing list with
  | nil => simp
  | cons item items ih =>
    have hkey : Keyed.key item ∉ list.items.map Keyed.key := by
      rw [List.map_append, List.map_cons, List.nodup_append] at hnodup
      exact fun hmem => hnodup.2.2 _ hmem _ List.mem_cons_self rfl
    have happend : (list.appendIfAbsent item).1.items = list.items ++ [item] := by
      rw [appendIfAbsent, dif_neg hkey]
    rw [List.foldl_cons, ih, happend, List.append_assoc, List.singleton_append]
    rw [happend, List.append_assoc]
    exact hnodup

/-- A list whose keys are distinct loses nothing. -/
theorem ofList_items (list : KeyedList α) : ofList list.items = list := by
  apply ext_items
  exact (foldl_appendIfAbsent_items empty list.distinct).trans (List.nil_append _)

theorem ofList_items_of_nodup {items : List α} (h : (items.map Keyed.key).Nodup) :
    (ofList items).items = items := congrArg KeyedList.items (ofList_items ⟨items, h⟩)

end KeyedList

end ShootPlan
