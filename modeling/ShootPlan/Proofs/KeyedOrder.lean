import ShootPlan.Proofs.KeyedMerge
/-!
The order of a list with one item for each key, and the item that is found for a key. Making a
list keeps the first item of each key, and putting items in adds new keys at the end and moves
nothing.
-/
namespace ShootPlan

theorem eraseDups_concat (keys : List String) (key : String) :
    (keys ++ [key]).eraseDups = if key ∈ keys then keys.eraseDups else keys.eraseDups ++ [key] := by
  rw [List.eraseDups_append, List.removeAll]
  split_ifs with h
  · rw [List.filter_cons_of_neg (by simpa using h)]
    exact List.append_nil _
  · rw [List.filter_cons_of_pos (by simpa using h)]
    rfl

namespace KeyedList

variable {α : Type} [Keyed α]

theorem upsert_keys (list : KeyedList α) (item : α) :
    (list.upsert item).keys =
      if Keyed.key item ∈ list.keys then list.keys else list.keys ++ [Keyed.key item] := by
  unfold upsert keys
  split_ifs
  · exact map_key_replace item list.items
  · rw [List.map_append, List.map_singleton]

theorem foldl_upsert_keys (list : KeyedList α) {items : List α}
    (hnodup : (items.map Keyed.key).Nodup) :
    (items.foldl upsert list).keys =
      list.keys ++ (items.map Keyed.key).filter (· ∉ list.keys) := by
  induction items generalizing list with
  | nil => simp
  | cons item items ih =>
    rw [List.map_cons, List.nodup_cons] at hnodup
    rw [List.foldl_cons, ih _ hnodup.2, upsert_keys, List.map_cons]
    split_ifs with hkey
    · rw [List.filter_cons_of_neg (by simpa using hkey)]
    · -- the new key is none of those to come, so these are still looked up in the old list
      have hrest : (items.map Keyed.key).filter (· ∉ list.keys ++ [Keyed.key item]) =
          (items.map Keyed.key).filter (· ∉ list.keys) := by
        refine List.filter_congr fun key hmem => ?_
        have hne : key ≠ Keyed.key item := fun heq => hnodup.1 (heq ▸ hmem)
        simp [hne]
      rw [hrest, List.filter_cons_of_pos (by simpa using hkey), List.append_assoc,
        List.singleton_append]

theorem ofList_concat (items : List α) (item : α) :
    ofList (items ++ [item]) = ((ofList items).appendIfAbsent item).1 := List.foldl_concat ..

/-- An item whose key is there already changes nothing. -/
theorem appendIfAbsent_eq (list : KeyedList α) (item : α) :
    list.appendIfAbsent item =
      if Keyed.key item ∈ list.keys then (list, false) else (list.upsert item, true) := by
  unfold appendIfAbsent upsert keys
  split_ifs <;> rfl

theorem appendIfAbsent_keys (list : KeyedList α) (item : α) :
    (list.appendIfAbsent item).1.keys =
      if Keyed.key item ∈ list.keys then list.keys else list.keys ++ [Keyed.key item] := by
  rw [appendIfAbsent_eq]
  split_ifs with hkey
  · rfl
  · rw [upsert_keys, if_neg hkey]

/-- Keys stand in the order in which they first occur. -/
theorem ofList_keys (items : List α) : (ofList items).keys = (items.map Keyed.key).eraseDups := by
  induction items using List.reverseRecOn with
  | nil => rfl
  | append_singleton items item ih =>
    rw [ofList_concat, appendIfAbsent_keys, ih, List.map_append, List.map_singleton,
      eraseDups_concat]
    simp only [List.mem_eraseDups]

theorem eraseDups_map_key {items : List α} (h : (items.map Keyed.key).Nodup) :
    (items.map Keyed.key).eraseDups = items.map Keyed.key := by
  rw [← ofList_keys, keys, ofList_items_of_nodup h]

theorem get?_of_mem {list : KeyedList α} {item : α} (h : item ∈ list.items) :
    list.get? (Keyed.key item) = some item := find?_key_eq_of_mem list.distinct h

theorem get?_eq_none_iff {list : KeyedList α} {key : String} :
    list.get? key = none ↔ key ∉ list.keys := by
  simp [get?, keys]

theorem get?_eq_some_iff {list : KeyedList α} {key : String} {item : α} :
    list.get? key = some item ↔ item ∈ list.items ∧ Keyed.key item = key := by
  constructor
  · intro h
    exact ⟨List.mem_of_find?_eq_some h, by simpa using List.find?_some h⟩
  · rintro ⟨hmem, rfl⟩
    exact get?_of_mem hmem

theorem get?_upsert (list : KeyedList α) (item : α) (key : String) :
    (list.upsert item).get? key = if Keyed.key item = key then some item else list.get? key := by
  ext other
  split_ifs with hkey
  · subst hkey
    rw [get?_of_mem (mem_upsert_self list item)]
  · rw [get?_eq_some_iff, get?_eq_some_iff, mem_upsert_iff]
    constructor
    · rintro ⟨rfl | ⟨hold, -⟩, hother⟩
      · exact absurd hother hkey
      · exact ⟨hold, hother⟩
    · rintro ⟨hold, rfl⟩
      exact ⟨.inr ⟨hold, fun heq => hkey heq.symm⟩, rfl⟩

theorem get?_appendIfAbsent (list : KeyedList α) (item : α) (key : String) :
    (list.appendIfAbsent item).1.get? key =
      (list.get? key).or ([item].find? fun item => Keyed.key item == key) := by
  rw [appendIfAbsent_eq]
  by_cases hkey : Keyed.key item = key
  · subst hkey
    split_ifs with hmem
    · obtain ⟨held, hheld⟩ := Option.ne_none_iff_exists'.1 (get?_eq_none_iff.not_left.2 hmem)
      rw [hheld, Option.some_or]
    · rw [get?_eq_none_iff.2 hmem, get?_upsert]
      simp
  · have hnew : [item].find? (fun item => Keyed.key item == key) = none := by simpa using hkey
    rw [hnew, Option.or_none]
    split_ifs
    · rfl
    · rw [get?_upsert, if_neg hkey]

/-- Of the items with one key the first is kept. -/
theorem get?_ofList (items : List α) (key : String) :
    (ofList items).get? key = items.find? fun item => Keyed.key item == key := by
  induction items using List.reverseRecOn with
  | nil => rfl
  | append_singleton items item ih =>
    rw [ofList_concat, get?_appendIfAbsent, ih, List.find?_append]

theorem mem_ofList_iff {items : List α} {other : α} :
    other ∈ (ofList items).items ↔
      items.find? (fun item => Keyed.key item == Keyed.key other) = some other := by
  rw [← get?_ofList, get?_eq_some_iff]
  exact (and_iff_left rfl).symm

end KeyedList

end ShootPlan
