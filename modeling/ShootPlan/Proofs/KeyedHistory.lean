import ShootPlan.Proofs.KeyedOrder
/-!
A list with one item for each key is a map that keeps its keys in the order in which they came.
What it holds is told by its history alone: by the items it was made from and by the changes
since then.
-/
namespace ShootPlan.KeyedList

variable {α : Type}

/-- What is done to a list. -/
inductive Change (α : Type) where
  | upsert (item : α)
  | appendIfAbsent (item : α)

namespace Change

def item : Change α → α
  | upsert item => item
  | appendIfAbsent item => item

/-- The item of a change that takes the place of what is there. -/
def replacement? : Change α → Option α
  | upsert item => some item
  | appendIfAbsent _ => none

def perform [Keyed α] (list : KeyedList α) : Change α → KeyedList α
  | upsert item => list.upsert item
  | appendIfAbsent item => (list.appendIfAbsent item).1

end Change

/-- The items that a list was made from, duplicates and all, and the changes since then. -/
structure History (α : Type) where
  initial : List α
  changes : List (Change α) := []

namespace History

/-- The items in the order in which they came. -/
def given (history : History α) : List α := history.initial ++ history.changes.map Change.item

def concat (history : History α) (change : Change α) : History α :=
  { history with changes := history.changes ++ [change] }

theorem given_concat (history : History α) (change : Change α) :
    (history.concat change).given = history.given ++ [change.item] := by
  simp only [given, concat, List.map_append, List.map_singleton, List.append_assoc]

variable [Keyed α]

/-- Each key where it first came. -/
def keys (history : History α) : List String := (history.given.map Keyed.key).eraseDups

/-- The item that was last put in for the key or, if none was, the first that was given for it. -/
def item? (history : History α) (key : String) : Option α :=
  ((history.changes.filterMap Change.replacement?).reverse.find? fun item => Keyed.key item == key).or
    (history.given.find? fun item => Keyed.key item == key)

theorem mem_keys {history : History α} {key : String} :
    key ∈ history.keys ↔ key ∈ history.given.map Keyed.key := List.mem_eraseDups

theorem keys_concat (history : History α) (change : Change α) :
    (history.concat change).keys =
      if Keyed.key change.item ∈ history.keys then history.keys
      else history.keys ++ [Keyed.key change.item] := by
  simp only [mem_keys]
  rw [keys, given_concat, List.map_append, List.map_singleton, eraseDups_concat, keys]

theorem item?_concat_upsert (history : History α) (item : α) (key : String) :
    (history.concat (.upsert item)).item? key =
      if Keyed.key item = key then some item else history.item? key := by
  rw [item?, given_concat]
  simp only [concat, List.filterMap_append, List.filterMap_cons, Change.replacement?,
    List.filterMap_nil, List.reverse_append, List.reverse_singleton, List.singleton_append,
    List.find?_append, Change.item]
  split_ifs with hkey
  · rw [List.find?_cons_of_pos (by simpa using hkey), Option.some_or]
  · rw [List.find?_cons_of_neg (by simpa using hkey), List.find?_cons_of_neg (by simpa using hkey),
      List.find?_nil, Option.or_none, item?]

theorem item?_concat_appendIfAbsent (history : History α) (item : α) (key : String) :
    (history.concat (.appendIfAbsent item)).item? key =
      (history.item? key).or ([item].find? fun item => Keyed.key item == key) := by
  rw [item?, given_concat]
  simp only [concat, List.filterMap_append, List.filterMap_cons, Change.replacement?,
    List.filterMap_nil, List.append_nil, List.find?_append, Change.item, ← Option.or_assoc]
  rw [item?]

end History

variable [Keyed α]

def performAll (list : KeyedList α) (changes : List (Change α)) : KeyedList α :=
  changes.foldl Change.perform list

theorem performAll_concat (list : KeyedList α) (changes : List (Change α)) (change : Change α) :
    list.performAll (changes ++ [change]) = change.perform (list.performAll changes) :=
  List.foldl_concat ..

/-- A change adds its key at the end, if it is a new one. -/
theorem keys_perform (list : KeyedList α) (change : Change α) :
    (change.perform list).keys =
      if Keyed.key change.item ∈ list.keys then list.keys
      else list.keys ++ [Keyed.key change.item] := by
  cases change with
  | upsert item => exact list.upsert_keys item
  | appendIfAbsent item => exact list.appendIfAbsent_keys item

theorem keys_prefix_performAll (list : KeyedList α) (changes : List (Change α)) :
    list.keys <+: (list.performAll changes).keys := by
  induction changes using List.reverseRecOn with
  | nil => exact List.prefix_refl _
  | append_singleton changes change ih =>
    rw [performAll_concat, keys_perform]
    split_ifs
    · exact ih
    · exact ih.trans (List.prefix_append _ _)

/-- The list has the keys of its history, in the same order, and the item of each. -/
structure Follows (list : KeyedList α) (history : History α) : Prop where
  keys_eq : list.keys = history.keys
  get_eq : ∀ key, list.get? key = history.item? key

namespace Follows

variable {list : KeyedList α} {history : History α}

theorem ofList (initial : List α) : (ofList initial).Follows ⟨initial, []⟩ where
  keys_eq := by rw [ofList_keys, History.keys, History.given, List.map_nil, List.append_nil]
  get_eq key := by simp [get?_ofList, History.item?, History.given]

theorem perform (h : list.Follows history) (change : Change α) :
    (change.perform list).Follows (history.concat change) where
  keys_eq := by rw [keys_perform, History.keys_concat, h.keys_eq]
  get_eq key := by
    cases change with
    | upsert item => rw [Change.perform, get?_upsert, History.item?_concat_upsert, h.get_eq]
    | appendIfAbsent item =>
      rw [Change.perform, get?_appendIfAbsent, History.item?_concat_appendIfAbsent, h.get_eq]

theorem performAll (initial : List α) (changes : List (Change α)) :
    ((KeyedList.ofList initial).performAll changes).Follows ⟨initial, changes⟩ := by
  induction changes using List.reverseRecOn with
  | nil => exact ofList initial
  | append_singleton changes change ih =>
    rw [performAll_concat]
    exact ih.perform change

end Follows

theorem items_eq_filterMap (list : KeyedList α) : list.items = list.keys.filterMap list.get? := by
  have hitem : ∀ item ∈ list.items, (list.get? ∘ Keyed.key) item = some item :=
    fun item hitem => get?_of_mem hitem
  rw [keys, List.filterMap_map, List.filterMap_congr hitem, List.filterMap_some]

theorem position?_eq_idxOf? (list : KeyedList α) (key : String) :
    list.position? key = list.keys.idxOf? key := by
  rw [position?, keys, List.idxOf?, List.findIdx?_map]
  rfl

/--
After any changes a list is the map of its history: its keys are distinct, stand in the order in
which they first came and never move or go, each with the item last put in for it or else the
first one given.
-/
theorem follows_history (initial : List α) (changes : List (Change α)) :
    let list := (ofList initial).performAll changes
    let history : History α := ⟨initial, changes⟩
    (list.keys = history.keys ∧ list.keys.Nodup ∧
      ∀ more, list.keys <+: (list.performAll more).keys) ∧
    (∀ key, list.get? key = history.item? key) ∧
    (∀ item, list.appendIfAbsent item =
      if Keyed.key item ∈ history.keys then (list, false) else (list.upsert item, true)) ∧
    (∀ key, list.position? key = history.keys.idxOf? key) ∧
    list.items = history.keys.filterMap history.item? ∧
    list.size = history.keys.length ∧ (list.isEmpty = true ↔ history.keys = []) := by
  intro list history
  have h : list.Follows history := .performAll initial changes
  have hget : list.get? = history.item? := funext h.get_eq
  rw [← h.keys_eq, ← hget]
  refine ⟨⟨rfl, list.distinct, list.keys_prefix_performAll⟩, fun _ => rfl, list.appendIfAbsent_eq,
    list.position?_eq_idxOf?, list.items_eq_filterMap, ?_, ?_⟩
  · rw [size, keys, List.length_map]
  · rw [isEmpty, List.isEmpty_iff, keys, List.map_eq_nil_iff]

end ShootPlan.KeyedList
