import ShootPlan.Proofs.CanonicalJson
import ShootPlan.Proofs.Outcomes
import ShootPlan.Record
/-!
Reading back what was written. A value is faithful when its canonical form reads as the
value itself; a record is, when its fields are and their keys are distinct.

The members of a canonical object stand in the order of their keys and not in that of the
fields. So reading is first taken apart by fields: what a field gets depends on the members
of its key alone, wherever they stand.
-/
namespace ShootPlan

namespace Coded

variable {α : Type} [Coded α]

/-- The written form reads as the value, and cannot be taken for one that is not there. -/
structure Faithful (a : α) : Prop where
  read_write : Coded.read (Coded.write a).canonical = .ok a
  ne_null : (Coded.write a).canonical ≠ .null

theorem Faithful.map_read_write {β : Type} {a : α} (h : Faithful a) (f : α → β) :
    (Coded.read (Coded.write a).canonical).map f = Except.ok (ε := Fault) (f a) :=
  Outcome.map_eq_ok_iff.2 ⟨a, h.read_write, rfl⟩

theorem faithful_string (s : String) : Faithful s := ⟨rfl, by simp [Coded.write, Json.canonical]⟩

theorem faithful_bool (b : Bool) : Faithful b := ⟨rfl, by simp [Coded.write, Json.canonical]⟩

theorem integer_int {low high n : Int} (h : low ≤ n ∧ n ≤ high) (wanted : String) :
    integer low high wanted (Json.int n) = .ok n := by
  change (if low ≤ n ∧ n ≤ high then Except.ok n else _) = _
  rw [if_pos h]

theorem faithful_int32 (n : Int32) : Faithful n := by
  refine ⟨?_, by simp [Coded.write, Json.canonical]⟩
  have hlow := Int32.le_toInt n
  have hhigh := Int32.toInt_lt n
  change (integer (-2147483648) 2147483647 "i32" (Json.int n.toInt)).map Int32.ofInt = .ok n
  rw [integer_int ⟨by omega, by omega⟩, Except.map, Int32.ofInt_toInt]

theorem faithful_list {values : List α} (h : ∀ a ∈ values, Faithful a) : Faithful values := by
  refine ⟨?_, by simp [Coded.write, Json.canonical]⟩
  have hwrite : (Coded.write values).canonical =
      .array (values.map fun a => (Coded.write a).canonical) := by
    simp only [Coded.write, Json.canonical_array, List.map_map]
    rfl
  have hread : (values.map fun a => (Coded.write a).canonical).mapM Coded.read = Except.ok (ε := Fault) values := by
    rw [Outcome.mapM_eq_ok_iff, List.forall₂_map_left_iff, List.forall₂_same]
    exact fun a ha => (h a ha).read_write
  rw [hwrite]
  exact hread

theorem read_write_some {a : α} (h : Faithful a) :
    (Coded.read (Coded.write (some a)).canonical : Except Fault (Option α)) = .ok (some a) := by
  have hnull : (Coded.write a).canonical.isNull = false := by
    cases hjson : (Coded.write a).canonical <;> first | rfl | exact absurd hjson h.ne_null
  have hread : (Coded.read (Coded.write a).canonical : Except Fault α) = .ok a := h.read_write
  change (if (Coded.write a).canonical.isNull then pure none
    else (Coded.read (Coded.write a).canonical >>= fun a => pure (some a))) = _
  rw [hnull, hread]
  rfl

end Coded

namespace Field

variable {α : Type}

/-- A written value is read back, a hidden one comes back as what stands for an absent one. -/
def Faithful (field : Field α) (value : α) : Prop :=
  if field.hidden value then field.absent = some value
  else field.read (field.write value).canonical = .ok value

variable [Coded α] {key : String}

theorem faithful_required {value : α} (h : Coded.Faithful value) :
    (Field.required key).Faithful value := h.read_write

theorem faithful_defaulted {value fallback : α} (h : Coded.Faithful value) :
    (Field.defaulted key fallback).Faithful value := h.read_write

theorem faithful_optional {value : Option α} (h : ∀ a ∈ value, Coded.Faithful a) :
    (Field.optional key).Faithful value := by
  cases value with
  | none => rfl
  | some a => exact Coded.read_write_some (h a rfl)

theorem faithful_sparse {values : List α} (h : ∀ a ∈ values, Coded.Faithful a) :
    (Field.sparse key).Faithful values := by
  cases values with
  | nil => rfl
  | cons a rest => exact (Coded.faithful_list h).read_write

end Field

namespace Fields

variable {ν : Type} [Source ν]

def keys : {αs : List Type} → Fields αs → List String
  | _, .nil => []
  | _, .cons field rest => field.key :: rest.keys

def Faithful : {αs : List Type} → Fields αs → Values αs → Prop
  | _, .nil, () => True
  | _, .cons field rest, (value, values) => field.Faithful value ∧ rest.Faithful values

def take {α : Type} (field : Field α) (members : List (String × ν)) : Except Fault (Option α) :=
  match members.lookup field.key with
  | some node => (field.read node).map some
  | none => .ok none

theorem acceptAll_nil (strict : Bool) (members : List (String × ν)) :
    Fields.nil.acceptAll strict members () = .ok () := by
  induction members with
  | nil => rfl
  | cons first rest ih => exact ih

variable {α : Type} {αs : List Type} {strict : Bool} {field : Field α} {rest : Fields αs}
  {members : List (String × ν)} {slot : Option α} {slots : Slots αs}

theorem acceptAll_cons_of_notMem (h : field.key ∉ members.map Prod.fst) :
    (Fields.cons field rest).acceptAll strict members (slot, slots) =
      (rest.acceptAll strict members slots).map fun slots => (slot, slots) := by
  induction members generalizing slots with
  | nil => rfl
  | cons first members ih =>
    obtain ⟨key, node⟩ := first
    simp only [List.map_cons, List.mem_cons, not_or] at h
    simp only [acceptAll, accept, if_neg h.1]
    cases rest.accept strict key node slots with
    | error fault => rfl
    | ok next => exact ih h.2

theorem acceptAll_cons_eq_ok_iff (h : field.key ∉ members.map Prod.fst) {out : Slots (α :: αs)} :
    (Fields.cons field rest).acceptAll strict members (slot, slots) = .ok out ↔
      slot = out.1 ∧ rest.acceptAll strict members slots = .ok out.2 := by
  obtain ⟨outSlot, outSlots⟩ := out
  rw [acceptAll_cons_of_notMem h]
  refine Outcome.map_eq_ok_iff.trans ⟨?_, ?_⟩
  · rintro ⟨filled, hfilled, hout⟩
    cases hout
    exact ⟨rfl, hfilled⟩
  · rintro ⟨hslot, hfilled⟩
    cases hslot
    exact ⟨outSlots, hfilled, rfl⟩

theorem take_cons_self (node : ν) :
    take field ((field.key, node) :: members) = (field.read node).map some := by
  simp [take]

theorem take_cons_of_ne {key : String} (h : field.key ≠ key) (node : ν) :
    take field ((key, node) :: members) = take field members := by
  have hbeq : (field.key == key) = false := by simpa using h
  rw [take, List.lookup_cons, hbeq]
  rfl

omit [Source ν] in
theorem filter_of_notMem {key : String} (h : key ∉ members.map Prod.fst) :
    members.filter (fun m => m.1 ≠ key) = members := by
  rw [List.filter_eq_self]
  intro m hm
  have hne : m.1 ≠ key := fun heq => h (List.mem_map.2 ⟨m, hm, heq⟩)
  simpa using hne

/-- A member goes to the first field or to the other fields, never to both. -/
theorem acceptAll_cons (h : (members.map Prod.fst).Nodup) {out : Slots (α :: αs)} :
    (Fields.cons field rest).acceptAll strict members (none, slots) = .ok out ↔
      take field members = .ok out.1 ∧
        rest.acceptAll strict (members.filter fun m => m.1 ≠ field.key) slots = .ok out.2 := by
  induction members generalizing slots with
  | nil =>
    have htake : take field ([] : List (String × ν)) = .ok none := rfl
    rw [acceptAll_cons_eq_ok_iff List.not_mem_nil, htake, Except.ok.injEq]
    rfl
  | cons first members ih =>
    obtain ⟨key, node⟩ := first
    rw [List.map_cons, List.nodup_cons] at h
    by_cases hkey : field.key = key
    · subst hkey
      rw [take_cons_self, List.filter_cons_of_neg (by simp), filter_of_notMem h.1]
      simp only [acceptAll, accept, if_true, Option.isSome_none, Bool.and_false]
      cases field.read node with
      | error fault => simp [Except.map, bind, Except.bind]
      | ok value =>
        change (Fields.cons field rest).acceptAll strict members (some value, slots) = _ ↔
          Except.ok (some value) = _ ∧ _
        rw [acceptAll_cons_eq_ok_iff h.1, Except.ok.injEq]
    · rw [take_cons_of_ne hkey, List.filter_cons_of_pos (by simpa using Ne.symm hkey)]
      simp only [acceptAll, accept, if_neg hkey]
      cases rest.accept strict key node slots with
      | error fault => simp [Except.map, bind, Except.bind]
      | ok next => exact ih h.2

/-- A strict reader takes no second member of a field. -/
theorem notMem_of_acceptAll_some {value : α} {out : Slots (α :: αs)}
    (h : (Fields.cons field rest).acceptAll true members (some value, slots) = .ok out) :
    field.key ∉ members.map Prod.fst := by
  induction members generalizing slots with
  | nil => simp
  | cons first members ih =>
    obtain ⟨key, node⟩ := first
    simp only [acceptAll, Outcome.bind_eq_ok_iff] at h
    obtain ⟨next, haccept, hmore⟩ := h
    rw [accept] at haccept
    split_ifs at haccept with hkey hfilled
    · simp at hfilled
    · obtain ⟨others, -, rfl⟩ := Outcome.map_eq_ok_iff.1 haccept
      rw [List.map_cons, List.mem_cons, not_or]
      exact ⟨hkey, ih hmore⟩

/-- A strict reader finds each field as if no key was there twice. -/
theorem acceptAll_cons_of_strict {out : Slots (α :: αs)}
    (h : (Fields.cons field rest).acceptAll true members (none, slots) = .ok out) :
    take field members = .ok out.1 ∧
      rest.acceptAll true (members.filter fun m => m.1 ≠ field.key) slots = .ok out.2 := by
  induction members generalizing slots with
  | nil =>
    cases h
    exact ⟨rfl, rfl⟩
  | cons first members ih =>
    obtain ⟨key, node⟩ := first
    simp only [acceptAll, Outcome.bind_eq_ok_iff] at h
    obtain ⟨next, haccept, hmore⟩ := h
    rw [accept] at haccept
    by_cases hkey : field.key = key
    · subst hkey
      simp only [if_true, Option.isSome_none, Bool.and_false] at haccept
      obtain ⟨value, hread, rfl⟩ := Outcome.map_eq_ok_iff.1 haccept
      have hnotMem := notMem_of_acceptAll_some hmore
      obtain ⟨hslot, hslots⟩ := (acceptAll_cons_eq_ok_iff hnotMem).1 hmore
      rw [take_cons_self, hread, ← hslot, List.filter_cons_of_neg (by simp), filter_of_notMem hnotMem]
      exact ⟨rfl, hslots⟩
    · rw [if_neg hkey] at haccept
      obtain ⟨others, hothers, rfl⟩ := Outcome.map_eq_ok_iff.1 haccept
      obtain ⟨htake, hrest⟩ := ih hmore
      rw [take_cons_of_ne hkey, List.filter_cons_of_pos (by simpa using Ne.symm hkey)]
      refine ⟨htake, ?_⟩
      simp only [acceptAll, hothers]
      exact hrest

theorem complete_cons_eq_ok_iff {value : α} {values : Values αs} :
    (Fields.cons field rest).complete (slot, slots) = .ok (value, values) ↔
      slot.or field.absent = some value ∧ rest.complete slots = .ok values := by
  rw [complete]
  cases slot.or field.absent with
  | none => simp
  | some found =>
    refine Outcome.map_eq_ok_iff.trans ⟨?_, ?_⟩
    · rintro ⟨others, hothers, hpair⟩
      cases hpair
      exact ⟨rfl, hothers⟩
    · rintro ⟨hvalue, hothers⟩
      cases hvalue
      exact ⟨values, hothers, rfl⟩

/-- What a field finds, or else what stands for an absent value. -/
def ReadsOne {α : Type} (field : Field α) (members : List (String × ν)) (value : α) : Prop :=
  match members.lookup field.key with
  | some node => field.read node = .ok value
  | none => field.absent = some value

def Reads : {αs : List Type} → Fields αs → List (String × ν) → Values αs → Prop
  | _, .nil, _, () => True
  | _, .cons field rest, members, (value, values) =>
    ReadsOne field members value ∧ rest.Reads members values

theorem readsOne_iff {value : α} :
    ReadsOne field members value ↔
      ∃ slot, take field members = .ok slot ∧ slot.or field.absent = some value := by
  unfold ReadsOne take
  cases members.lookup field.key with
  | none => simp
  | some node => simp

omit [Source ν] in
theorem lookup_filter_of_ne {key other : String} (h : key ≠ other) (members : List (String × ν)) :
    (members.filter fun m => m.1 ≠ other).lookup key = members.lookup key := by
  induction members with
  | nil => rfl
  | cons first members ih =>
    obtain ⟨k, node⟩ := first
    by_cases hk : k = other
    · subst hk
      have hbeq : (key == k) = false := by simpa using h
      rw [List.filter_cons_of_neg (by simp), ih, List.lookup_cons, hbeq]
    · rw [List.filter_cons_of_pos (by simpa using hk), List.lookup_cons, List.lookup_cons, ih]

theorem reads_filter {αs : List Type} {fields : Fields αs} {key : String} (h : key ∉ fields.keys)
    {values : Values αs} :
    fields.Reads (members.filter fun m => m.1 ≠ key) values ↔ fields.Reads members values := by
  induction fields with
  | nil => rfl
  | cons field rest ih =>
    obtain ⟨value, values⟩ := values
    simp only [keys, List.mem_cons, not_or] at h
    simp only [Reads, ReadsOne, lookup_filter_of_ne (Ne.symm h.1), ih h.2]

/-- An object reads as the values that its fields find, in whatever order the members are. -/
theorem acceptAll_complete_iff {αs : List Type} {fields : Fields αs} {values : Values αs}
    (hkeys : fields.keys.Nodup) (hmembers : (members.map Prod.fst).Nodup) :
    (∃ slots, fields.acceptAll strict members fields.blank = .ok slots ∧
      fields.complete slots = .ok values) ↔ fields.Reads members values := by
  induction fields generalizing members with
  | nil => 
    obtain ⟨⟩ := values
    exact ⟨fun _ => trivial, fun _ => ⟨(), acceptAll_nil strict members, rfl⟩⟩
  | cons field rest ih =>
    obtain ⟨value, values⟩ := values
    rw [keys, List.nodup_cons] at hkeys
    have hfiltered : ((members.filter fun m => m.1 ≠ field.key).map Prod.fst).Nodup :=
      hmembers.sublist (List.filter_sublist.map _)
    have hrest : (∃ slots, rest.acceptAll strict (members.filter fun m => m.1 ≠ field.key)
        rest.blank = .ok slots ∧ rest.complete slots = .ok values) ↔ rest.Reads members values :=
      (ih hkeys.2 hfiltered).trans (reads_filter hkeys.1)
    rw [Reads, readsOne_iff, ← hrest]
    constructor
    · rintro ⟨⟨slot, slots⟩, haccept, hcomplete⟩
      obtain ⟨htake, hslots⟩ := (acceptAll_cons hmembers).1 haccept
      obtain ⟨hvalue, hvalues⟩ := complete_cons_eq_ok_iff.1 hcomplete
      exact ⟨⟨slot, htake, hvalue⟩, slots, hslots, hvalues⟩
    · rintro ⟨⟨slot, htake, hvalue⟩, slots, haccept, hvalues⟩
      exact ⟨(slot, slots), (acceptAll_cons hmembers).2 ⟨htake, haccept⟩,
        complete_cons_eq_ok_iff.2 ⟨hvalue, hvalues⟩⟩

/-- What a strict reader takes from an object is what its fields find, repeated keys or not. -/
theorem reads_of_acceptAll {αs : List Type} {fields : Fields αs} {slots : Slots αs}
    {values : Values αs} (hkeys : fields.keys.Nodup)
    (haccept : fields.acceptAll true members fields.blank = .ok slots)
    (hcomplete : fields.complete slots = .ok values) : fields.Reads members values := by
  induction fields generalizing members with
  | nil =>
    obtain ⟨⟩ := values
    trivial
  | cons field rest ih =>
    obtain ⟨slot, slots⟩ := slots
    obtain ⟨value, values⟩ := values
    rw [keys, List.nodup_cons] at hkeys
    obtain ⟨htake, hslots⟩ := acceptAll_cons_of_strict haccept
    obtain ⟨hvalue, hvalues⟩ := complete_cons_eq_ok_iff.1 hcomplete
    exact ⟨readsOne_iff.2 ⟨slot, htake, hvalue⟩, (reads_filter hkeys.1).1 (ih hkeys.2 hslots hvalues)⟩

theorem keys_write_sublist {αs : List Type} (fields : Fields αs) (values : Values αs) :
    ((fields.write values).map Prod.fst).Sublist fields.keys := by
  induction fields with
  | nil => exact .slnil
  | cons field rest ih =>
    obtain ⟨value, values⟩ := values
    rw [write, keys]
    split_ifs
    · exact (ih values).cons _
    · exact (ih values).cons_cons _

theorem lookup_write_of_notMem {αs : List Type} {fields : Fields αs} {key : String}
    (h : key ∉ fields.keys) (values : Values αs) : (fields.write values).lookup key = none := by
  rw [List.lookup_eq_none_iff]
  intro m hm
  have hmem := (keys_write_sublist fields values).subset (List.mem_map_of_mem hm)
  have hne : key ≠ m.1 := fun heq => h (heq ▸ hmem)
  simpa using hne

/-- Faithful fields are read from any members that hold what they have written. -/
theorem reads_of_faithful {αs : List Type} {fields : Fields αs} {values : Values αs}
    {members : List (String × Json)} (hkeys : fields.keys.Nodup) (h : fields.Faithful values)
    (hmembers : ∀ key ∈ fields.keys,
      members.lookup key = ((fields.write values).lookup key).map Json.canonical) :
    fields.Reads members values := by
  induction fields with
  | nil =>
    obtain ⟨⟩ := values
    trivial
  | cons field rest ih =>
    obtain ⟨value, values⟩ := values
    rw [keys, List.nodup_cons] at hkeys
    have hself := hmembers field.key List.mem_cons_self
    rw [write] at hself hmembers
    have hvalue : field.Faithful value := h.1
    unfold Field.Faithful at hvalue
    by_cases hhidden : field.hidden value
    · rw [if_pos hhidden] at hself hmembers hvalue
      refine ⟨?_, ih hkeys.2 h.2 fun key hkey => hmembers key (List.mem_cons_of_mem _ hkey)⟩
      rw [lookup_write_of_notMem hkeys.1] at hself
      rw [ReadsOne, hself]
      exact hvalue
    · rw [if_neg hhidden] at hself hmembers hvalue
      constructor
      · rw [List.lookup_cons_self] at hself
        rw [ReadsOne, hself]
        exact hvalue
      · refine ih hkeys.2 h.2 fun key hkey => ?_
        have hne : key ≠ field.key := fun heq => hkeys.1 (heq ▸ hkey)
        have hbeq : (key == field.key) = false := by simpa using hne
        rw [hmembers key (List.mem_cons_of_mem _ hkey), List.lookup_cons, hbeq]

end Fields

namespace Record

variable {σ ν : Type} [Source ν]

/-- An object reads as the record that is built from the values of its fields. -/
theorem readMembers_eq_ok_iff {record : Record σ} {members : List (String × ν)} {a : σ}
    (hkeys : record.fields.keys.Nodup) (hmembers : (members.map Prod.fst).Nodup) :
    record.readMembers members = .ok a ↔
      ∃ values, record.fields.Reads members values ∧ record.build values = a := by
  simp only [readMembers, Outcome.bind_eq_ok_iff, Outcome.pure_eq_ok_iff]
  constructor
  · rintro ⟨slots, haccept, values, hcomplete, hbuild⟩
    exact ⟨values, (Fields.acceptAll_complete_iff hkeys hmembers).1 ⟨slots, haccept, hcomplete⟩, hbuild⟩
  · rintro ⟨values, hreads, hbuild⟩
    obtain ⟨slots, haccept, hcomplete⟩ := (Fields.acceptAll_complete_iff hkeys hmembers).2 hreads
    exact ⟨slots, haccept, values, hcomplete, hbuild⟩

/-- Members of the banner do not hide those of the fields, in whatever order all are placed. -/
theorem lookup_placeMembers {record : Record σ} (change : Json → Json)
    (hkeys : (record.banner.map Prod.fst ++ record.fields.keys).Nodup) {key : String}
    (hkey : key ∈ record.fields.keys) (a : σ) :
    (Json.placeMembers change (record.banner ++ record.fields.write (record.split a))).lookup key =
      ((record.fields.write (record.split a)).lookup key).map change := by
  have hwritten : ((record.banner ++ record.fields.write (record.split a)).map Prod.fst).Nodup := by
    rw [List.map_append]
    exact hkeys.sublist ((List.Sublist.refl _).append (Fields.keys_write_sublist _ _))
  have hbanner : record.banner.lookup key = none := by
    rw [List.lookup_eq_none_iff]
    intro m hm
    have hne : key ≠ m.1 := fun heq =>
      (List.nodup_append.1 hkeys).2.2 m.1 (List.mem_map_of_mem hm) key hkey heq.symm
    simpa using hne
  rw [Json.lookup_placeMembers change hwritten, List.lookup_append, hbanner, Option.none_or]

theorem read_write {record : Record σ} {a : σ}
    (hkeys : (record.banner.map Prod.fst ++ record.fields.keys).Nodup)
    (hbuild : record.build (record.split a) = a) (h : record.fields.Faithful (record.split a)) :
    record.read (record.write a).canonical = .ok a := by
  have hfields : record.fields.keys.Nodup := (List.nodup_append.1 hkeys).2.1
  change record.readMembers (Json.canonicalMembers _) = .ok a
  rw [readMembers_eq_ok_iff hfields (Json.nodup_keys_canonicalMembers _)]
  refine ⟨record.split a, Fields.reads_of_faithful hfields h fun key hkey => ?_, hbuild⟩
  rw [Json.canonicalMembers_eq, lookup_placeMembers Json.canonical hkeys hkey]

/-- A type that is described as a record, whose fields have distinct keys. -/
theorem faithful {record : Record σ} {a : σ}
    (hkeys : (record.banner.map Prod.fst ++ record.fields.keys).Nodup)
    (hbuild : record.build (record.split a) = a) (h : record.fields.Faithful (record.split a)) :
    @Coded.Faithful σ record.coded a :=
  @Coded.Faithful.mk σ record.coded a (read_write hkeys hbuild h)
    (Json.canonical_ne_null (by simp [Coded.write, write]))

end Record

end ShootPlan
