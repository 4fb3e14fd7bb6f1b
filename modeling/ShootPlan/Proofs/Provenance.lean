import ShootPlan.Proofs.CodedRoundTrip
/-!
Where the values of a record come from that was read from JSON. Each is either what stands for
an absent one, or it was itself read from a part of the document.
-/
namespace ShootPlan

namespace Coded

variable {α : Type} [Coded α]

/-- There is a JSON value that is read as this. -/
def Decoded (a : α) : Prop := ∃ json : Json, json.canonical = json ∧ Coded.read json = .ok a

theorem decoded_of_mem {values : List α} (h : Decoded values) : ∀ a ∈ values, Decoded a := by
  obtain ⟨json, hjson, hread⟩ := h
  obtain ⟨items, rfl, hitems⟩ := read_list_eq_ok_iff.1 hread
  replace hjson := Json.canonical_of_mem_array hjson
  clear hread
  induction hitems with
  | nil => simp
  | cons hfirst _ ih =>
    rw [List.forall_mem_cons] at hjson ⊢
    exact ⟨⟨_, hjson.1, hfirst⟩, ih hjson.2⟩

end Coded

namespace Field

variable {α : Type}

/-- The value stands for an absent one, or it was read from some JSON value. -/
def Sourced (field : Field α) (value : α) : Prop :=
  field.absent = some value ∨ field.short = some value ∨
    ∃ part : Json, part.canonical = part ∧ field.read part = .ok value

variable [Coded α] {key : String}

theorem decoded_required {value : α} (h : (Field.required key).Sourced value) :
    Coded.Decoded value := by
  rcases h with h | h | h
  · cases h
  · cases h
  · exact h

/-- Null is read as nothing. -/
theorem exists_of_sourced_optional {value : Option α} (h : (Field.optional key).Sourced value) :
    ∀ a ∈ value, ∃ part : Json, part ≠ .null ∧ part.canonical = part ∧ Coded.read part = .ok a := by
  rintro a rfl
  rcases h with h | h | ⟨part, hpart, hread⟩
  · cases h
  · cases h
  · obtain ⟨-, hnone⟩ | ⟨hnull, found, hfound, hsome⟩ := Coded.read_option_eq_ok_iff.1 hread
    · cases hnone
    · obtain rfl := Option.some.inj hsome
      exact ⟨part, hnull, hpart, hfound⟩

theorem decoded_optional {value : Option α} (h : (Field.optional key).Sourced value) :
    ∀ a ∈ value, Coded.Decoded a := fun a ha =>
  (exists_of_sourced_optional h a ha).imp fun _ hpart => hpart.2

theorem isDocument_of_sourced {value : Option Json} (h : (Field.optional key).Sourced value) :
    ∀ doc ∈ value, Coded.IsDocument doc := by
  intro doc hdoc
  obtain ⟨part, hnull, hpart, hread⟩ := exists_of_sourced_optional h doc hdoc
  obtain rfl := Except.ok.inj hread
  exact ⟨hnull, hpart⟩

theorem decoded_of_mem_defaulted {values : List α} (h : (Field.defaulted key []).Sourced values) :
    ∀ a ∈ values, Coded.Decoded a := by
  rcases h with h | h | h
  · cases h
    simp
  · cases h
    simp
  · exact Coded.decoded_of_mem h

theorem decoded_of_mem_sparse {values : List α} (h : (Field.sparse key).Sourced values) :
    ∀ a ∈ values, Coded.Decoded a := @decoded_of_mem_defaulted α _ key values h

end Field

namespace Fields

def Sourced : {αs : List Type} → Fields αs → Values αs → Prop
  | _, .nil, () => True
  | _, .cons field rest, (value, values) => field.Sourced value ∧ rest.Sourced values

theorem sourced_of_reads {αs : List Type} {fields : Fields αs} {members : List (String × Json)}
    {values : Values αs} (hmembers : ∀ m ∈ members, m.2.canonical = m.2)
    (h : fields.Reads members values) : fields.Sourced values := by
  induction fields with
  | nil => trivial
  | cons field rest ih =>
    obtain ⟨value, values⟩ := values
    refine ⟨?_, ih h.2⟩
    have hvalue := h.1
    rw [ReadsOne] at hvalue
    cases hnode : members.lookup field.key with
    | none =>
      rw [hnode] at hvalue
      exact .inl hvalue
    | some node =>
      rw [hnode] at hvalue
      obtain ⟨before, after, rfl, -⟩ := List.lookup_eq_some_iff.1 hnode
      exact .inr (.inr ⟨node, hmembers (field.key, node) (by simp), hvalue⟩)

theorem sourced_of_fromItems {αs : List Type} {fields : Fields αs} {record : String}
    {total count : Nat} {items left : List Json} {values : Values αs}
    (hitems : ∀ item ∈ items, item.canonical = item)
    (h : fields.fromItems record total count items = .ok (values, left)) : fields.Sourced values := by
  induction fields generalizing count items with
  | nil => trivial
  | cons field rest ih =>
    obtain ⟨value, values⟩ := values
    cases items with
    | cons item items =>
      rw [List.forall_mem_cons] at hitems
      simp only [fromItems, Outcome.bind_eq_ok_iff, Outcome.pure_eq_ok_iff] at h
      obtain ⟨first, hfirst, ⟨others, rest⟩, hothers, hpair⟩ := h
      cases hpair
      exact ⟨.inr (.inr ⟨item, hitems.1, hfirst⟩), ih hitems.2 hothers⟩
    | nil =>
      rw [fromItems] at h
      cases hshort : field.short with
      | none => simp [hshort] at h
      | some default =>
        simp only [hshort, Outcome.bind_eq_ok_iff, Outcome.pure_eq_ok_iff] at h
        obtain ⟨⟨others, rest⟩, hothers, hpair⟩ := h
        cases hpair
        exact ⟨.inr (.inl hshort), ih hitems hothers⟩

end Fields

namespace Record

variable {σ : Type}

theorem sourced_split {record : Record σ} {a : σ} (hkeys : record.fields.keys.Nodup)
    (hbuild : Function.LeftInverse record.split record.build)
    (h : @Coded.Decoded σ record.coded a) : record.fields.Sourced (record.split a) := by
  obtain ⟨json, hjson, hread⟩ := h
  change record.read json = .ok a at hread
  cases json with
  | object members =>
    change record.readMembers members = .ok a at hread
    obtain ⟨values, hreads, rfl⟩ :=
      (readMembers_eq_ok_iff hkeys (Json.nodup_keys_of_canonical hjson)).1 hread
    rw [hbuild]
    exact Fields.sourced_of_reads (Json.canonical_of_mem_object hjson) hreads
  | array items =>
    cases hlayout : record.layout with
    | objectOnly => simp [read, hlayout, Source.members?, Json.members?] at hread
    | positional =>
      have hitems : record.readItems items = .ok a := by
        simpa only [read, hlayout, Source.members?, Json.members?, Source.items?, Json.items?]
          using hread
      simp only [readItems, Outcome.bind_eq_ok_iff] at hitems
      obtain ⟨⟨values, left⟩, hvalues, hdone⟩ := hitems
      split_ifs at hdone
      · obtain rfl := Outcome.pure_eq_ok_iff.1 hdone
        rw [hbuild]
        exact Fields.sourced_of_fromItems (Json.canonical_of_mem_array hjson) hvalues
  | _ =>
    cases hlayout : record.layout <;>
      simp [read, hlayout, Source.members?, Json.members?, Source.items?, Json.items?] at hread

end Record

end ShootPlan
