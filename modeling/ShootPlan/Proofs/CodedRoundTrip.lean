import ShootPlan.Proofs.RecordRoundTrip
/-!
Reading back long numbers, maps and whole documents, and the fields for them. Maps are written
in the order of their keys, so entry after entry goes to the end when they are read.
-/
namespace ShootPlan

theorem forall_mem_getD_nil {α : Type} {values : Option (List α)} {p : α → Prop} :
    (∀ a ∈ values.getD [], p a) ↔ ∀ as ∈ values, ∀ a ∈ as, p a := by
  cases values <;> simp

namespace Dict

variable {α : Type}

theorem place_of_forall_lt {key : String} {value : α} {entries : List (String × α)}
    (h : ∀ entry ∈ entries, entry.1 < key) : place key value entries = entries ++ [(key, value)] := by
  induction entries with
  | nil => rfl
  | cons first rest ih =>
    rw [List.forall_mem_cons] at h
    have hne : key ≠ first.1 := fun heq => String.lt_irrefl key (heq ▸ h.1)
    rw [place, if_neg (String.lt_asymm h.1), if_neg hne, ih h.2, List.cons_append]

end Dict

namespace Coded

variable {α : Type} [Coded α]

theorem expect_eq_ok_iff {β : Type} {json : Json} {got : Option β} {wanted : String} {b : β} :
    expect wanted got json = .ok b ↔ got = some b := by
  cases got with
  | none => simp [expect]
  | some b => simp [expect]

theorem read_list_eq_ok_iff {json : Json} {as : List α} :
    Coded.read json = .ok as ↔
      ∃ items, json = .array items ∧ List.Forall₂ (fun item a => Coded.read item = .ok a) items as := by
  have hitems {items : List Json} : Source.items? json = some items ↔ json = .array items := by
    cases json <;> simp [Source.items?, Json.items?]
  change (expect "a sequence" (Source.items? json) json >>= fun items => items.mapM Coded.read) = _ ↔ _
  simp only [Outcome.bind_eq_ok_iff, expect_eq_ok_iff, hitems, Outcome.mapM_eq_ok_iff]

theorem read_option_eq_ok_iff {json : Json} {a? : Option α} :
    Coded.read json = .ok a? ↔
      json = .null ∧ none = a? ∨ json ≠ .null ∧ ∃ a, Coded.read json = .ok a ∧ some a = a? := by
  have hnull : json.isNull = true ↔ json = .null := by cases json <;> simp [Json.isNull]
  change (if json.isNull then pure none
    else (Coded.read json >>= fun a => pure (some a))) = Except.ok a? ↔ _
  split_ifs with hjson
  · simp only [Outcome.pure_eq_ok_iff, hnull.1 hjson, ne_eq, not_true, false_and, or_false, true_and]
  · rw [hnull] at hjson
    simp only [Outcome.bind_eq_ok_iff, Outcome.pure_eq_ok_iff, ne_eq, hjson, not_false_iff,
      false_and, false_or, true_and]

theorem faithful_int64 (n : Int64) : Faithful n := by
  refine ⟨?_, by simp [Coded.write, Json.canonical]⟩
  have hlow := Int64.le_toInt n
  have hhigh := Int64.toInt_lt n
  change (integer (-9223372036854775808) 9223372036854775807 "i64" (Json.int n.toInt)).map Int64.ofInt =
    .ok n
  rw [integer_int ⟨by omega, by omega⟩, Except.map, Int64.ofInt_toInt]

/-- A document as a value of its own, which is not taken for an absent one. -/
structure IsDocument (json : Json) : Prop where
  ne_null : json ≠ .null
  canonical_eq : json.canonical = json

theorem faithful_document {json : Json} (h : IsDocument json) : Faithful json := by
  have hwrite : (Coded.write json).canonical = json := h.canonical_eq
  exact ⟨by rw [hwrite]; rfl, by rw [hwrite]; exact h.ne_null⟩

/-- Entries that come in order are put at the end one by one. -/
theorem readEntries_of_sorted {ν : Type} [Source ν] (dict : Dict α) {members : List (String × ν)}
    {entries : List (String × α)}
    (hread : List.Forall₂ (fun m e => m.1 = e.1 ∧ Coded.read m.2 = .ok e.2) members entries)
    (hsorted : (dict.entries ++ entries).Pairwise fun a b => a.1 < b.1) :
    readEntries members dict = .ok ⟨dict.entries ++ entries, hsorted⟩ := by
  induction hread generalizing dict with
  | nil =>
    obtain ⟨_, _⟩ := dict
    simp [readEntries]
  | @cons m e members entries hfirst _ ih =>
    obtain ⟨key, node⟩ := m
    obtain ⟨_, value⟩ := e
    obtain ⟨rfl, hvalue⟩ := hfirst
    have hlast : ∀ entry ∈ dict.entries, entry.1 < key := fun entry hentry =>
      (List.pairwise_append.1 hsorted).2.2 entry hentry (key, value) List.mem_cons_self
    have hinsert : (dict.insert key value).entries ++ entries = dict.entries ++ (key, value) :: entries := by
      change Dict.place key value dict.entries ++ entries = _
      rw [Dict.place_of_forall_lt hlast, List.append_assoc, List.singleton_append]
    have hrest := ih (dict.insert key value) (hinsert ▸ hsorted)
    simp only [readEntries, hvalue]
    refine hrest.trans ?_
    simp only [hinsert]

theorem faithful_dict {dict : Dict α} (h : ∀ entry ∈ dict.entries, Faithful entry.2) :
    Faithful dict := by
  refine ⟨?_, by simp [Coded.write, Json.canonical]⟩
  have hsorted : (dict.entries.map fun entry => (entry.1, Coded.write entry.2)).Pairwise
      fun a b => a.1 < b.1 := List.pairwise_map.2 dict.sorted
  have hwrite : (Coded.write dict).canonical =
      .object (dict.entries.map fun entry => (entry.1, (Coded.write entry.2).canonical)) := by
    change Json.object (Json.canonicalMembers _) = _
    rw [Json.canonicalMembers_eq, Json.placeMembers_of_sorted Json.canonical hsorted, List.map_map]
    rfl
  rw [hwrite]
  refine readEntries_of_sorted .empty ?_ dict.sorted
  rw [List.forall₂_map_left_iff, List.forall₂_same]
  exact fun entry hentry => ⟨rfl, (h entry hentry).read_write⟩

end Coded

namespace Field

variable {α : Type} [Coded α] {key : String}

theorem faithful_placed {value : Option α} (h : ∀ a ∈ value, Coded.Faithful a) :
    (Field.placed key).Faithful value := @faithful_optional α _ key value h

theorem faithful_sparseMap {dict : Dict α} (h : ∀ entry ∈ dict.entries, Coded.Faithful entry.2) :
    (Field.sparseMap key).Faithful dict := by
  obtain ⟨entries, hsorted⟩ := dict
  cases entries with
  | nil => rfl
  | cons first rest => exact (Coded.faithful_dict h).read_write

theorem faithful_lenient (value : String) : (Field.lenient key).Faithful value := rfl

/-- A map of texts, which is left out when empty. -/
theorem faithful_texts (dict : Dict String) : (Field.sparseMap key).Faithful dict :=
  faithful_sparseMap fun _ _ => Coded.faithful_string _

end Field

end ShootPlan
