import ShootPlan.Shoot
/-!
Lists with one item for each key. An item is replaced where it stands or added at the end,
so the order of what is there never changes.
-/
namespace ShootPlan

class Keyed (α : Type) where
  key : α → String

instance : Keyed Extension := ⟨Extension.type⟩
instance : Keyed Worker := ⟨Worker.name⟩
instance : Keyed AccessRestriction := ⟨AccessRestriction.name⟩
instance : Keyed NamedResource := ⟨NamedResource.name⟩

structure KeyedList (α : Type) [Keyed α] where
  items : List α
  distinct : (items.map Keyed.key).Nodup

namespace KeyedList

variable {α : Type} [Keyed α]

def empty : KeyedList α := ⟨[], .nil⟩

def keys (list : KeyedList α) : List String := list.items.map Keyed.key

def size (list : KeyedList α) : Nat := list.items.length

def isEmpty (list : KeyedList α) : Bool := list.items.isEmpty

def get? (list : KeyedList α) (key : String) : Option α :=
  list.items.find? fun item => Keyed.key item == key

def position? (list : KeyedList α) (key : String) : Option Nat :=
  list.items.findIdx? fun item => Keyed.key item == key

/-- The item takes the place of the one with its key. -/
def replace (item : α) (items : List α) : List α :=
  items.map fun old => if Keyed.key old = Keyed.key item then item else old

theorem map_key_replace (item : α) (items : List α) :
    (replace item items).map Keyed.key = items.map Keyed.key := by
  rw [replace, List.map_map]
  refine List.map_congr_left fun old _ => ?_
  simp only [Function.comp]
  split
  · rename_i h
    exact h.symm
  · rfl

theorem nodup_append_key {item : α} {items : List α} (h : (items.map Keyed.key).Nodup)
    (hk : Keyed.key item ∉ items.map Keyed.key) : ((items ++ [item]).map Keyed.key).Nodup := by
  rw [List.map_append, List.nodup_append]
  refine ⟨h, by simp, fun a ha b hb => ?_⟩
  simp only [List.map_cons, List.map_nil, List.mem_singleton] at hb
  subst hb
  intro hab
  exact hk (hab ▸ ha)

/-- Replace the item with the same key, or add at the end. -/
def upsert (list : KeyedList α) (item : α) : KeyedList α :=
  if h : Keyed.key item ∈ list.items.map Keyed.key then
    ⟨replace item list.items, map_key_replace item list.items ▸ list.distinct⟩
  else ⟨list.items ++ [item], nodup_append_key list.distinct h⟩

/-- Add at the end unless the key is there; tells whether it was added. -/
def appendIfAbsent (list : KeyedList α) (item : α) : KeyedList α × Bool :=
  if h : Keyed.key item ∈ list.items.map Keyed.key then (list, false)
  else (⟨list.items ++ [item], nodup_append_key list.distinct h⟩, true)

/-- The first item of each key. -/
def ofList (items : List α) : KeyedList α :=
  items.foldl (fun list item => (list.appendIfAbsent item).1) empty

end KeyedList

end ShootPlan
