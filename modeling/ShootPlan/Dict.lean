/-!
Finite maps from text keys. The entries stay sorted by key, so two maps with the same
content are equal.
-/
namespace ShootPlan

/-- Keys follow the order of `String`, which is by code point. -/
structure Dict (α : Type) where
  entries : List (String × α)
  sorted : entries.Pairwise fun a b => a.1 < b.1
  deriving DecidableEq

namespace Dict

variable {α β : Type}

/-- Put an entry where its key belongs; an entry with the same key gives way. -/
def place (key : String) (value : α) : List (String × α) → List (String × α)
  | [] => [(key, value)]
  | (k, v) :: rest =>
    if key < k then (key, value) :: (k, v) :: rest
    else if key = k then (key, value) :: rest
    else (k, v) :: place key value rest

theorem key_mem_place {key : String} {value : α} {entry : String × α} {entries : List (String × α)}
    (h : entry ∈ place key value entries) : entry.1 = key ∨ entry ∈ entries := by
  induction entries with
  | nil => simp_all [place]
  | cons head rest ih =>
    obtain ⟨k, v⟩ := head
    simp only [place] at h
    split at h
    · rcases List.mem_cons.1 h with rfl | h
      · exact .inl rfl
      · exact .inr h
    · split at h
      · rcases List.mem_cons.1 h with rfl | h
        · exact .inl rfl
        · exact .inr (List.mem_cons_of_mem _ h)
      · rcases List.mem_cons.1 h with rfl | h
        · exact .inr List.mem_cons_self
        · exact (ih h).imp_right (List.mem_cons_of_mem _)

theorem place_sorted (key : String) (value : α) {entries : List (String × α)}
    (h : entries.Pairwise fun a b => a.1 < b.1) :
    (place key value entries).Pairwise fun a b => a.1 < b.1 := by
  induction entries with
  | nil => simp [place]
  | cons head rest ih =>
    obtain ⟨k, v⟩ := head
    have hrest := List.pairwise_cons.1 h
    simp only [place]
    split
    · rename_i hlt
      refine List.pairwise_cons.2 ⟨fun e he => ?_, h⟩
      rcases List.mem_cons.1 he with rfl | he
      · exact hlt
      · exact String.lt_trans hlt (hrest.1 e he)
    · split
      · rename_i heq
        subst heq
        exact List.pairwise_cons.2 ⟨hrest.1, hrest.2⟩
      · rename_i hlt hne
        refine List.pairwise_cons.2 ⟨fun e he => ?_, ih hrest.2⟩
        rcases key_mem_place he with he | he
        · rw [he]
          rcases Std.lt_trichotomy key k with hk | hk | hk
          · exact absurd hk hlt
          · exact absurd hk hne
          · exact hk
        · exact hrest.1 e he

def empty : Dict α := ⟨[], .nil⟩

instance : Inhabited (Dict α) := ⟨empty⟩

def insert (dict : Dict α) (key : String) (value : α) : Dict α :=
  ⟨place key value dict.entries, place_sorted key value dict.sorted⟩

def get? (dict : Dict α) (key : String) : Option α :=
  (dict.entries.find? fun entry => entry.1 == key).map Prod.snd

/-- The last entry of a key wins. -/
def ofList (entries : List (String × α)) : Dict α :=
  entries.foldl (fun dict entry => dict.insert entry.1 entry.2) empty

def singleton (key : String) (value : α) : Dict α := empty.insert key value

/-- Put an entry if there is a value for it. -/
def insertSome (dict : Dict α) (key : String) : Option α → Dict α
  | some value => dict.insert key value
  | none => dict

def isEmpty (dict : Dict α) : Bool := dict.entries.isEmpty

def keys (dict : Dict α) : List String := dict.entries.map Prod.fst

end Dict

end ShootPlan
