import Mathlib.Tactic
import ShootPlan.Dict
/-!
What a map holds once an entry has been put into it. An entry that is there already changes
nothing.
-/
namespace ShootPlan.Dict

variable {α : Type} {dict : Dict α} {key other : String} {value : α}

theorem get?_insert_self (dict : Dict α) (key : String) (value : α) :
    (dict.insert key value).get? key = some value := by
  obtain ⟨entries, hsorted⟩ := dict
  simp only [insert, get?]
  clear hsorted
  induction entries with
  | nil => simp [place]
  | cons entry rest ih =>
    obtain ⟨k, v⟩ := entry
    rw [place]
    split_ifs with hlt heq
    · rw [List.find?_cons_of_pos (by simp), Option.map_some]
    · rw [List.find?_cons_of_pos (by simp), Option.map_some]
    · rw [List.find?_cons_of_neg (by simpa using Ne.symm heq), ih]

theorem get?_insert_of_ne (h : other ≠ key) :
    (dict.insert key value).get? other = dict.get? other := by
  obtain ⟨entries, hsorted⟩ := dict
  simp only [insert, get?]
  clear hsorted
  induction entries with
  | nil => simp [place, h.symm]
  | cons entry rest ih =>
    obtain ⟨k, v⟩ := entry
    rw [place]
    split_ifs with hlt heq
    · rw [List.find?_cons_of_neg (by simpa using h.symm)]
    · rw [List.find?_cons_of_neg (by simpa using h.symm),
        List.find?_cons_of_neg (by simpa using heq ▸ h.symm)]
    · simp only [List.find?_cons]
      cases k == other with
      | true => rfl
      | false => exact ih

/-- As the keys are sorted, an entry is put where it is found. -/
theorem insert_of_get? (h : dict.get? key = some value) : dict.insert key value = dict := by
  obtain ⟨entries, hsorted⟩ := dict
  suffices hplace : place key value entries = entries by simp only [insert, hplace]
  simp only [get?] at h
  induction entries with
  | nil => cases h
  | cons entry rest ih =>
    obtain ⟨first, held⟩ := entry
    rw [List.pairwise_cons] at hsorted
    rw [place]
    by_cases hkey : first = key
    · subst hkey
      rw [List.find?_cons_of_pos (by simp), Option.map_some, Option.some.injEq] at h
      rw [if_neg (String.lt_irrefl first), if_pos rfl, ← h]
    · rw [List.find?_cons_of_neg (by simpa using hkey)] at h
      obtain ⟨found, hfound, -⟩ := Option.map_eq_some_iff.1 h
      have hsame : found.1 = key := by simpa using List.find?_some hfound
      have hlt : first < key := hsame ▸ hsorted.1 found (List.mem_of_find?_eq_some hfound)
      rw [if_neg (String.lt_asymm hlt), if_neg (Ne.symm hkey), ih hsorted.2 h]

theorem insertSome_of_get? {value : Option α} (h : ∀ v ∈ value, dict.get? key = some v) :
    dict.insertSome key value = dict := by
  cases value with
  | none => rfl
  | some value => exact insert_of_get? (h value rfl)

theorem get?_insertSome_self (dict : Dict α) (key : String) {value : Option α} :
    ∀ v ∈ value, (dict.insertSome key value).get? key = some v := by
  rintro v rfl
  exact get?_insert_self dict key v

theorem get?_insertSome_of_ne {value : Option α} (h : other ≠ key) :
    (dict.insertSome key value).get? other = dict.get? other := by
  cases value with
  | none => rfl
  | some value => exact get?_insert_of_ne h

/-- Put in all entries that have a value. -/
def insertAll (dict : Dict α) (entries : List (String × Option α)) : Dict α :=
  entries.foldl (fun dict entry => dict.insertSome entry.1 entry.2) dict

variable {entries : List (String × Option α)}

theorem get?_insertAll_of_not_mem (h : other ∉ entries.map Prod.fst) :
    (dict.insertAll entries).get? other = dict.get? other := by
  induction entries generalizing dict with
  | nil => rfl
  | cons entry entries ih =>
    rw [List.map_cons, List.mem_cons, not_or] at h
    rw [insertAll, List.foldl_cons]
    exact (ih h.2).trans (get?_insertSome_of_ne h.1)

theorem get?_insertAll_of_mem (hnodup : (entries.map Prod.fst).Nodup) :
    ∀ entry ∈ entries, ∀ v ∈ entry.2, (dict.insertAll entries).get? entry.1 = some v := by
  induction entries generalizing dict with
  | nil => simp
  | cons entry entries ih =>
    rw [List.map_cons, List.nodup_cons] at hnodup
    rw [List.forall_mem_cons]
    refine ⟨fun v hv => ?_, ih hnodup.2⟩
    exact (get?_insertAll_of_not_mem hnodup.1).trans (get?_insertSome_self dict entry.1 v hv)

theorem insertAll_of_get? (h : ∀ entry ∈ entries, ∀ v ∈ entry.2, dict.get? entry.1 = some v) :
    dict.insertAll entries = dict := by
  induction entries with
  | nil => rfl
  | cons entry entries ih =>
    rw [List.forall_mem_cons] at h
    rw [insertAll, List.foldl_cons, insertSome_of_get? h.1]
    exact ih h.2

theorem insertAll_insertAll (dict : Dict α) (hnodup : (entries.map Prod.fst).Nodup) :
    (dict.insertAll entries).insertAll entries = dict.insertAll entries :=
  insertAll_of_get? (get?_insertAll_of_mem hnodup)

end ShootPlan.Dict
