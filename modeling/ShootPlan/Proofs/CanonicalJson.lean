import Mathlib.Tactic
import ShootPlan.Json
/-!
The canonical form of a JSON value. Its objects have their members in the order of the keys,
so no key is there twice; members that had distinct keys before are found as before.
-/
namespace ShootPlan.Json

theorem canonicalItems_eq_map (items : List Json) : canonicalItems items = items.map canonical := by
  induction items with
  | nil => rfl
  | cons item items ih => rw [canonicalItems, ih, List.map_cons]

theorem canonical_array (items : List Json) : (array items).canonical = array (items.map canonical) := by
  rw [canonical, canonicalItems_eq_map]

theorem comparandItems_eq_map (items : List Json) : comparandItems items = items.map comparand := by
  induction items with
  | nil => rfl
  | cons item items ih => rw [comparandItems, ih, List.map_cons]

theorem comparand_array (items : List Json) : (array items).comparand = array (items.map comparand) := by
  rw [comparand, comparandItems_eq_map]

theorem canonical_ne_null {json : Json} (h : json ≠ null) : json.canonical ≠ null := by
  cases json <;> simp_all [canonical]

theorem lookup_placeAbsent {key : String} {members : List (String × Json)}
    (h : key ∉ members.map Prod.fst) (value : Json) (other : String) :
    (placeAbsent key value members).lookup other = ((key, value) :: members).lookup other := by
  induction members with
  | nil => rfl
  | cons first rest ih =>
    obtain ⟨k, v⟩ := first
    simp only [List.map_cons, List.mem_cons, not_or] at h
    rw [placeAbsent]
    split_ifs with hlt heq
    · rfl
    · exact absurd heq h.1
    · simp only [List.lookup_cons, ih h.2]
      by_cases hk : other = k
      · subst hk
        have hne : (other == key) = false := by simpa using Ne.symm h.1
        simp [hne]
      · have hne : (other == k) = false := by simpa using hk
        simp [hne]

theorem keys_placeAbsent {key : String} {members : List (String × Json)} (value : Json)
    (other : String) :
    other ∈ (placeAbsent key value members).map Prod.fst ↔ other = key ∨ other ∈ members.map Prod.fst := by
  induction members with
  | nil => simp [placeAbsent]
  | cons first rest ih =>
    obtain ⟨k, v⟩ := first
    rw [placeAbsent]
    split_ifs with hlt heq
    · simp
    · simp [heq]
    · simp only [List.map_cons, List.mem_cons, ih]
      tauto

/-- Members put in the order of their keys, each value changed in the same way. -/
def placeMembers (change : Json → Json) : List (String × Json) → List (String × Json)
  | [] => []
  | (key, value) :: rest => placeAbsent key (change value) (placeMembers change rest)

theorem keys_placeMembers (change : Json → Json) (members : List (String × Json)) (key : String) :
    key ∈ (placeMembers change members).map Prod.fst ↔ key ∈ members.map Prod.fst := by
  induction members with
  | nil => rfl
  | cons first rest ih =>
    obtain ⟨k, v⟩ := first
    rw [placeMembers, keys_placeAbsent, ih, List.map_cons, List.mem_cons]

theorem lookup_placeMembers (change : Json → Json) {members : List (String × Json)}
    (h : (members.map Prod.fst).Nodup) (key : String) :
    (placeMembers change members).lookup key = (members.lookup key).map change := by
  induction members with
  | nil => rfl
  | cons first rest ih =>
    obtain ⟨k, v⟩ := first
    rw [List.map_cons, List.nodup_cons] at h
    have hk : k ∉ (placeMembers change rest).map Prod.fst := by
      rw [keys_placeMembers]
      exact h.1
    rw [placeMembers, lookup_placeAbsent hk, List.lookup_cons, List.lookup_cons, ih h.2]
    cases key == k <;> rfl

theorem canonicalMembers_eq (members : List (String × Json)) :
    canonicalMembers members = placeMembers canonical members := by
  induction members with
  | nil => rfl
  | cons first rest ih => rw [canonicalMembers, placeMembers, ih]

theorem comparandMembers_eq (members : List (String × Json)) :
    comparandMembers members = placeMembers comparand members := by
  induction members with
  | nil => rfl
  | cons first rest ih => rw [comparandMembers, placeMembers, ih]

/-- Members that are in order already stay where they are. -/
theorem placeMembers_of_sorted (change : Json → Json) {members : List (String × Json)}
    (h : members.Pairwise fun a b => a.1 < b.1) :
    placeMembers change members = members.map fun m => (m.1, change m.2) := by
  induction members with
  | nil => rfl
  | cons first rest ih =>
    obtain ⟨key, value⟩ := first
    have hrest := List.pairwise_cons.1 h
    rw [placeMembers, ih hrest.2, List.map_cons]
    cases rest with
    | nil => rfl
    | cons second more =>
      have hlt : key < second.1 := hrest.1 second List.mem_cons_self
      rw [List.map_cons, placeAbsent, if_pos hlt]

theorem placeAbsent_sorted (key : String) (value : Json) {members : List (String × Json)}
    (h : members.Pairwise fun a b => a.1 < b.1) :
    (placeAbsent key value members).Pairwise fun a b => a.1 < b.1 := by
  induction members with
  | nil => simp [placeAbsent]
  | cons first rest ih =>
    obtain ⟨k, v⟩ := first
    have hrest := List.pairwise_cons.1 h
    rw [placeAbsent]
    split_ifs with hlt heq
    · refine List.pairwise_cons.2 ⟨fun m hm => ?_, h⟩
      rcases List.mem_cons.1 hm with rfl | hm
      · exact hlt
      · exact String.lt_trans hlt (hrest.1 m hm)
    · exact h
    · refine List.pairwise_cons.2 ⟨fun m hm => ?_, ih hrest.2⟩
      have hkey := (keys_placeAbsent value m.1).1 (List.mem_map_of_mem hm)
      rcases hkey with hkey | hkey
      · rw [hkey]
        rcases Std.lt_trichotomy key k with hk | hk | hk
        · exact absurd hk hlt
        · exact absurd hk heq
        · exact hk
      · obtain ⟨other, hother, hsame⟩ := List.mem_map.1 hkey
        rw [← hsame]
        exact hrest.1 other hother

theorem canonicalMembers_sorted (members : List (String × Json)) :
    (canonicalMembers members).Pairwise fun a b => a.1 < b.1 := by
  induction members with
  | nil => exact .nil
  | cons first rest ih => exact placeAbsent_sorted _ _ ih

theorem nodup_keys_canonicalMembers (members : List (String × Json)) :
    ((canonicalMembers members).map Prod.fst).Nodup := by
  rw [List.Nodup, List.pairwise_map]
  refine (canonicalMembers_sorted members).imp fun {a b} h heq => ?_
  exact String.lt_irrefl a.1 (by rwa [← heq] at h)

theorem mem_placeAbsent {key : String} {value : Json} {members : List (String × Json)}
    {m : String × Json} (h : m ∈ placeAbsent key value members) : m = (key, value) ∨ m ∈ members := by
  induction members with
  | nil => exact .inl (List.mem_singleton.1 h)
  | cons first rest ih =>
    obtain ⟨k, v⟩ := first
    rw [placeAbsent] at h
    split_ifs at h with hlt heq
    · exact List.mem_cons.1 h
    · exact .inr h
    · rcases List.mem_cons.1 h with rfl | h
      · exact .inr List.mem_cons_self
      · exact (ih h).imp_right (List.mem_cons_of_mem _)

theorem exists_canonical_of_mem {members : List (String × Json)} {m : String × Json}
    (h : m ∈ canonicalMembers members) : ∃ value, m.2 = canonical value := by
  induction members with
  | nil => cases h
  | cons first rest ih =>
    obtain ⟨k, v⟩ := first
    rw [canonicalMembers] at h
    rcases mem_placeAbsent h with rfl | h
    · exact ⟨v, rfl⟩
    · exact ih h

theorem canonicalMembers_of_canonical {members : List (String × Json)}
    (hsorted : members.Pairwise fun a b => a.1 < b.1)
    (hvalues : ∀ m ∈ members, m.2.canonical = m.2) : canonicalMembers members = members := by
  rw [canonicalMembers_eq, placeMembers_of_sorted canonical hsorted]
  conv_rhs => rw [← List.map_id members]
  refine List.map_congr_left fun m hm => ?_
  rw [hvalues m hm, id_eq]

mutual

theorem canonical_canonical : (json : Json) → json.canonical.canonical = json.canonical
  | .null | .bool _ | .int _ | .decimal _ | .string _ => rfl
  | .array items => by
    rw [canonical, canonical_array]
    conv_rhs => rw [← List.map_id (canonicalItems items)]
    exact congrArg array (List.map_congr_left (canonical_of_mem_canonicalItems items))
  | .object members => by
    rw [canonical, canonical, canonicalMembers_of_canonical (canonicalMembers_sorted members)
      (canonical_of_mem_canonicalMembers members)]

theorem canonical_of_mem_canonicalItems : (items : List Json) →
    ∀ item ∈ canonicalItems items, item.canonical = item
  | [], _, h => nomatch h
  | first :: rest, item, h => by
    rw [canonicalItems, List.mem_cons] at h
    rcases h with rfl | h
    · exact canonical_canonical first
    · exact canonical_of_mem_canonicalItems rest item h

theorem canonical_of_mem_canonicalMembers : (members : List (String × Json)) →
    ∀ m ∈ canonicalMembers members, m.2.canonical = m.2
  | [], _, h => nomatch h
  | (key, value) :: rest, m, h => by
    rw [canonicalMembers] at h
    rcases mem_placeAbsent h with rfl | h
    · exact canonical_canonical value
    · exact canonical_of_mem_canonicalMembers rest m h

end

theorem canonical_of_mem_array {items : List Json} (h : (array items).canonical = array items) :
    ∀ item ∈ items, item.canonical = item := by
  rw [canonical, array.injEq] at h
  intro item hitem
  rw [← h] at hitem
  exact canonical_of_mem_canonicalItems items item hitem

theorem canonical_of_mem_object {members : List (String × Json)}
    (h : (object members).canonical = object members) : ∀ m ∈ members, m.2.canonical = m.2 := by
  rw [canonical, object.injEq] at h
  intro m hm
  rw [← h] at hm
  exact canonical_of_mem_canonicalMembers members m hm

theorem canonical_eq_object {json : Json} {members : List (String × Json)}
    (h : json.canonical = object members) : ∃ ms, members = canonicalMembers ms := by
  cases json with
  | object ms =>
    rw [canonical] at h
    exact ⟨ms, (object.inj h).symm⟩
  | _ => simp [canonical] at h

theorem nodup_keys_of_canonical {json : Json} {members : List (String × Json)}
    (h : json.canonical = object members) : (members.map Prod.fst).Nodup := by
  obtain ⟨ms, rfl⟩ := canonical_eq_object h
  exact nodup_keys_canonicalMembers ms

theorem exists_canonical_member (json : Json) (key : String) :
    ∃ value, json.canonical.member key = canonical value := by
  cases json with
  | object ms =>
    rw [canonical, member]
    cases hfind : (canonicalMembers ms).find? (fun m => m.1 == key) with
    | none => exact ⟨.null, rfl⟩
    | some m => exact exists_canonical_of_mem (List.mem_of_find?_eq_some hfind)
  | _ => exact ⟨.null, rfl⟩

theorem member_object (members : List (String × Json)) (key : String) :
    (object members).member key = (members.lookup key).getD .null := by
  induction members with
  | nil => rfl
  | cons first rest ih =>
    obtain ⟨k, v⟩ := first
    simp only [member, List.find?_cons, List.lookup_cons] at ih ⊢
    by_cases hk : key = k
    · subst hk
      simp
    · have hkey : (key == k) = false := by simpa using hk
      have hkey' : (k == key) = false := by simpa using Ne.symm hk
      rw [hkey, hkey']
      exact ih

end ShootPlan.Json
