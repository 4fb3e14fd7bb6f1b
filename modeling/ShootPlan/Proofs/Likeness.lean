import ShootPlan.Proofs.CodedRoundTrip
/-!
When two documents are read as the same value. A likeness says it of the documents alone: a
record's members stand under their keys in an object and at their places in an array, one that
is left out counts as its default, and a member without a name does not count.
-/
namespace ShootPlan

/-- A member of a record, by its key in an object and by its place in an array. -/
def Json.part (json : Json) (key : String) (place : Nat) : Option Json :=
  match json with
  | .object members => members.lookup key
  | .array items => items[place]?
  | _ => none

/-- An object, or an array of at most so many items. -/
inductive Json.IsRecord (size : Nat) : Json → Prop where
  | object (members : List (String × Json)) : IsRecord size (.object members)
  | array {items : List Json} (h : items.length ≤ size) : IsRecord size (.array items)

/-- When two documents say the same. -/
abbrev Likeness := Json → Json → Prop

/-- A member that has a name, and the value that it has where it is left out. -/
structure NamedMember where
  key : String
  omitted : Option Json
  alike : Likeness

namespace NamedMember

def required (key : String) (alike : Likeness) : NamedMember := ⟨key, none, alike⟩

/-- Both have the member or its default, and these are alike. -/
def Alike (member : NamedMember) (x? y? : Option Json) : Prop :=
  ∃ x ∈ x?.or member.omitted, ∃ y ∈ y?.or member.omitted, member.alike x y

end NamedMember

namespace Likeness

/-- Lists of the same length, item by item. -/
def items (item : Likeness) : Likeness := fun x y =>
  ∃ xs ys, x = .array xs ∧ y = .array ys ∧ List.Forall₂ item xs ys

/-- Null is like nothing else. -/
def orNull (value : Likeness) : Likeness := fun x y =>
  if x = .null ∨ y = .null then x = y else value x y

/-- Records, by their named members. -/
def record (members : List NamedMember) : Likeness := fun x y =>
  x.IsRecord members.length ∧ y.IsRecord members.length ∧
    ∀ m ∈ members.zipIdx, m.1.Alike (x.part m.1.key m.2) (y.part m.1.key m.2)

end Likeness

namespace NamedMember

def optional (key : String) (alike : Likeness) : NamedMember := ⟨key, some .null, .orNull alike⟩

def list (key : String) (item : Likeness) : NamedMember := ⟨key, some (.array []), .items item⟩

end NamedMember

/-- Documents that can be read are read as the same value exactly if they are alike. -/
def IsLikeness {α : Type} (read : Json → Except Fault α) (alike : Likeness) : Prop :=
  ∀ ⦃x y : Json⦄ ⦃a b : α⦄, read x = .ok a → read y = .ok b → (a = b ↔ alike x y)

/-- A value that only one document is read as. -/
theorem IsLikeness.of_injective {α : Type} {read : Json → Except Fault α} {make : α → Json}
    (hmake : Function.Injective make) (hread : ∀ {json a}, read json = .ok a → json = make a) :
    IsLikeness read Eq := by
  intro x y a b hx hy
  rw [hread hx, hread hy, hmake.eq_iff]

theorem IsLikeness.map {α β : Type} {read : Json → Except Fault α} {alike : Likeness} {wrap : α → β}
    (h : IsLikeness read alike) (hwrap : Function.Injective wrap) :
    IsLikeness (fun json => (read json).map wrap) alike := by
  intro x y c d hx hy
  obtain ⟨a, ha, rfl⟩ := Outcome.map_eq_ok_iff.1 hx
  obtain ⟨b, hb, rfl⟩ := Outcome.map_eq_ok_iff.1 hy
  rw [hwrap.eq_iff, h ha hb]

/-- Lists of results are equal when the results are, one by one. -/
theorem eq_iff_forall₂ {ν α : Type} {gives : ν → α → Prop} {alike : ν → ν → Prop}
    (h : ∀ x y a b, gives x a → gives y b → (a = b ↔ alike x y)) {xs ys : List ν} {as bs : List α}
    (hxs : List.Forall₂ gives xs as) (hys : List.Forall₂ gives ys bs) :
    as = bs ↔ List.Forall₂ alike xs ys := by
  induction hxs generalizing ys bs with
  | nil => cases hys <;> simp
  | cons hfirst hrest ih =>
    cases hys with
    | nil => simp
    | cons hfirst' hrest' =>
      have htail := ih hrest'
      rw [List.cons.injEq, List.forall₂_cons, h _ _ _ _ hfirst hfirst', htail]

namespace Coded

variable {α : Type} {json : Json}

theorem isLikeness_string : IsLikeness (Coded.read (α := String)) Eq := by
  refine .of_injective (fun _ _ => Json.string.inj) fun {json s} h => ?_
  have hgot := expect_eq_ok_iff.1 h
  cases json <;> simp_all [Source.string?, Json.string?]

theorem isLikeness_bool : IsLikeness (Coded.read (α := Bool)) Eq := by
  refine .of_injective (fun _ _ => Json.bool.inj) fun {json b} h => ?_
  have hgot := expect_eq_ok_iff.1 h
  cases json <;> simp_all [Source.bool?, Json.bool?]

variable [Coded α] {alike : Likeness}

theorem isLikeness_list (h : IsLikeness (Coded.read (α := α)) alike) :
    IsLikeness (Coded.read (α := List α)) (.items alike) := by
  intro x y as bs hx hy
  obtain ⟨xs, rfl, hxs⟩ := read_list_eq_ok_iff.1 hx
  obtain ⟨ys, rfl, hys⟩ := read_list_eq_ok_iff.1 hy
  have hitems : Likeness.items alike (.array xs) (.array ys) ↔ List.Forall₂ alike xs ys := by
    simp [Likeness.items]
  rw [hitems]
  exact eq_iff_forall₂ (fun x y a b => @h x y a b) hxs hys

theorem isLikeness_option (h : IsLikeness (Coded.read (α := α)) alike) :
    IsLikeness (Coded.read (α := Option α)) (.orNull alike) := by
  intro x y a? b? hx hy
  rw [Likeness.orNull]
  obtain ⟨rfl, rfl⟩ | ⟨hxnull, a, ha, rfl⟩ := read_option_eq_ok_iff.1 hx <;>
    obtain ⟨rfl, rfl⟩ | ⟨hynull, b, hb, rfl⟩ := read_option_eq_ok_iff.1 hy
  · simp
  · simp [hynull.symm]
  · simp [hxnull]
  · rw [if_neg (by simp [hxnull, hynull]), Option.some.injEq, h ha hb]

end Coded

namespace Field

variable {α : Type}

/-- The value that a field gets from what stands in its part of a document. -/
def Gets (field : Field α) (x? : Option Json) (a : α) : Prop :=
  match x? with
  | some x => field.read x = .ok a
  | none => field.absent = some a

/-- The member by which the documents of a field are told apart. -/
structure IsMember (field : Field α) (member : NamedMember) : Prop where
  key : field.key = member.key
  /-- It makes no difference whether an object or an array ends without it. -/
  short : field.short = field.absent
  omitted : ∀ a, field.absent = some a → ∃ x ∈ member.omitted, field.read x = .ok a
  alike : IsLikeness (field.read (ν := Json)) member.alike

theorem IsMember.eq_iff {field : Field α} {member : NamedMember} (h : field.IsMember member)
    {x? y? : Option Json} {a b : α} (ha : field.Gets x? a) (hb : field.Gets y? b) :
    a = b ↔ member.Alike x? y? := by
  have hread {x? : Option Json} {a : α} (ha : field.Gets x? a) :
      ∃ x, x?.or member.omitted = some x ∧ field.read x = .ok a := by
    cases x? with
    | none => exact h.omitted a ha
    | some x => exact ⟨x, rfl, ha⟩
  obtain ⟨x, hx, hreadx⟩ := hread ha
  obtain ⟨y, hy, hready⟩ := hread hb
  simp [NamedMember.Alike, hx, hy, h.alike hreadx hready]

/-- A field with a default, which is read from a document of its own. -/
theorem isMember_of_default {field : Field α} {default : α} {x : Json} {alike : Likeness}
    (habsent : field.absent = some default) (hshort : field.short = some default)
    (hx : field.read x = .ok default) (halike : IsLikeness (field.read (ν := Json)) alike) :
    field.IsMember ⟨field.key, some x, alike⟩ where
  key := rfl
  short := hshort.trans habsent.symm
  omitted a ha := by
    obtain rfl : default = a := Option.some.inj (habsent.symm.trans ha)
    exact ⟨x, rfl, hx⟩
  alike := halike

variable [Coded α] {key : String} {alike : Likeness}

theorem isMember_required (h : IsLikeness (Coded.read (α := α)) alike) :
    (Field.required (α := α) key).IsMember (.required key alike) :=
  ⟨rfl, rfl, nofun, h⟩

theorem isMember_optional (h : IsLikeness (Coded.read (α := α)) alike) :
    (Field.optional (α := α) key).IsMember (.optional key alike) :=
  isMember_of_default rfl rfl rfl (Coded.isLikeness_option h)

theorem isMember_sparse (h : IsLikeness (Coded.read (α := α)) alike) :
    (Field.sparse (α := α) key).IsMember (.list key alike) :=
  isMember_of_default rfl rfl rfl (Coded.isLikeness_list h)

theorem isMember_defaulted_nil (h : IsLikeness (Coded.read (α := α)) alike) :
    (Field.defaulted (α := List α) key []).IsMember (.list key alike) :=
  isMember_of_default rfl rfl rfl (Coded.isLikeness_list h)

end Field

namespace Fields

/-- The members by which the documents of a record are told apart, field by field. -/
inductive AreMembers : {αs : List Type} → Fields αs → List NamedMember → Prop where
  | nil : AreMembers .nil []
  | cons {α : Type} {αs : List Type} {field : Field α} {rest : Fields αs} {member : NamedMember}
    {members : List NamedMember} (head : field.IsMember member) (tail : AreMembers rest members) :
    AreMembers (.cons field rest) (member :: members)

/-- What each field gets from its part of a document. -/
def Get (json : Json) : {αs : List Type} → Fields αs → Nat → Values αs → Prop
  | _, .nil, _, () => True
  | _, .cons field rest, place, (value, values) =>
    field.Gets (json.part field.key place) value ∧ rest.Get json (place + 1) values

variable {αs : List Type} {fields : Fields αs} {members : List NamedMember} {place : Nat}

theorem AreMembers.length (h : fields.AreMembers members) : members.length = fields.size := by
  induction h with
  | nil => rfl
  | cons _ _ ih => rw [List.length_cons, size, ih]

theorem AreMembers.eq_iff (h : fields.AreMembers members) {x y : Json} {as bs : Values αs}
    (ha : fields.Get x place as) (hb : fields.Get y place bs) :
    as = bs ↔ ∀ m ∈ members.zipIdx place, m.1.Alike (x.part m.1.key m.2) (y.part m.1.key m.2) := by
  induction h generalizing place with
  | nil =>
    obtain ⟨⟩ := as
    obtain ⟨⟩ := bs
    exact ⟨fun _ => by simp, fun _ => rfl⟩
  | cons hfield _ ih =>
    obtain ⟨a, as⟩ := as
    obtain ⟨b, bs⟩ := bs
    rw [List.zipIdx_cons, List.forall_mem_cons, ← ih ha.2 hb.2, ← hfield.key,
      ← hfield.eq_iff ha.1 hb.1]
    exact Prod.mk.injEq a as b bs ▸ Iff.rfl

theorem get_of_reads {found : List (String × Json)} {values : Values αs}
    (h : fields.Reads found values) : fields.Get (.object found) place values := by
  induction fields generalizing place with
  | nil =>
    obtain ⟨⟩ := values
    trivial
  | cons field rest ih =>
    obtain ⟨value, values⟩ := values
    refine ⟨?_, ih h.2⟩
    have hone : ReadsOne field found value := h.1
    change field.Gets (found.lookup field.key) value
    unfold ReadsOne at hone
    cases hlookup : found.lookup field.key with
    | none => rwa [hlookup] at hone
    | some node => rwa [hlookup] at hone

/-- The fields take the items from their places on, and leave those after them. -/
theorem get_of_fromItems {record : String} {total : Nat} {all items left : List Json}
    {values : Values αs} (hmembers : fields.AreMembers members) (hall : all.drop place = items)
    (h : fields.fromItems record total place items = .ok (values, left)) :
    fields.Get (.array all) place values ∧ left = all.drop (place + fields.size) := by
  induction hmembers generalizing place items with
  | nil =>
    cases h
    exact ⟨trivial, hall.symm⟩
  | @cons α αs field rest _ _ hfield _ ih =>
    obtain ⟨value, values⟩ := values
    have htail : all.drop (place + 1) = items.tail := by
      rw [← hall, List.tail_drop]
    have hpart : (Json.array all).part field.key place = items.head? := by
      rw [← hall, List.head?_drop]
      rfl
    have hsize : place + (Fields.cons field rest).size = place + 1 + rest.size := by
      rw [size]
      omega
    rw [Get, hpart, hsize]
    cases items with
    | nil =>
      rw [fromItems, hfield.short] at h
      cases habsent : field.absent with
      | none => simp [habsent] at h
      | some default =>
        simp only [habsent, Outcome.bind_eq_ok_iff, Outcome.pure_eq_ok_iff] at h
        obtain ⟨⟨others, rest⟩, hothers, hpair⟩ := h
        cases hpair
        obtain ⟨hget, hleft⟩ := ih htail hothers
        exact ⟨⟨habsent, hget⟩, hleft⟩
    | cons item items =>
      simp only [fromItems, Outcome.bind_eq_ok_iff, Outcome.pure_eq_ok_iff] at h
      obtain ⟨first, hfirst, ⟨others, rest⟩, hothers, hpair⟩ := h
      cases hpair
      obtain ⟨hget, hleft⟩ := ih htail hothers
      exact ⟨⟨hfirst, hget⟩, hleft⟩

end Fields

namespace Record

variable {σ : Type} {record : Record σ} {members : List NamedMember}

theorem get_of_read (hlayout : record.layout = .positional) (hkeys : record.fields.keys.Nodup)
    (hmembers : record.fields.AreMembers members) {json : Json} {a : σ}
    (h : record.read json = .ok a) :
    json.IsRecord members.length ∧
      ∃ values, record.fields.Get json 0 values ∧ record.build values = a := by
  cases json with
  | object found =>
    change record.readMembers found = .ok a at h
    simp only [readMembers, hlayout, decide_true, Outcome.bind_eq_ok_iff, Outcome.pure_eq_ok_iff] at h
    obtain ⟨slots, haccept, values, hcomplete, hbuild⟩ := h
    have hreads := Fields.reads_of_acceptAll hkeys haccept hcomplete
    exact ⟨.object found, values, Fields.get_of_reads hreads, hbuild⟩
  | array items =>
    have hitems : record.readItems items = .ok a := by
      simpa only [read, hlayout, Source.members?, Json.members?, Source.items?, Json.items?] using h
    simp only [readItems, Outcome.bind_eq_ok_iff] at hitems
    obtain ⟨⟨values, left⟩, hvalues, hdone⟩ := hitems
    obtain ⟨hget, hleft⟩ := Fields.get_of_fromItems hmembers rfl hvalues
    split_ifs at hdone with hempty
    · rw [List.isEmpty_iff, hleft, List.drop_eq_nil_iff, Nat.zero_add, ← hmembers.length] at hempty
      exact ⟨.array hempty, values, hget, Outcome.pure_eq_ok_iff.1 hdone⟩
  | _ => simp [read, hlayout, Source.members?, Json.members?, Source.items?, Json.items?] at h

/-- A record that is its fields' values, and that is read from an object or an array. -/
theorem isLikeness (hlayout : record.layout = .positional) (hkeys : record.fields.keys.Nodup)
    (hbuild : Function.LeftInverse record.split record.build)
    (hmembers : record.fields.AreMembers members) :
    IsLikeness (record.read (ν := Json)) (.record members) := by
  intro x y a b ha hb
  obtain ⟨hx, as, has, rfl⟩ := get_of_read hlayout hkeys hmembers ha
  obtain ⟨hy, bs, hbs, rfl⟩ := get_of_read hlayout hkeys hmembers hb
  rw [hbuild.injective.eq_iff, hmembers.eq_iff has hbs, Likeness.record]
  simp only [hx, hy, true_and]

end Record
end ShootPlan
