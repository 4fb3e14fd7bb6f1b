import ShootPlan.Proofs.DocumentJson
import ShootPlan.Proofs.DocumentRoundTrip
/-!
The zones in documents that others have written. Whatever else is in such a document, it has
as many entries for zones as zones are read from it.
-/
namespace ShootPlan

namespace Json

theorem member_without {key other : String} (h : key ≠ other) (json : Json) :
    (json.without other).member key = json.member key := by
  cases json with
  | object members =>
    rw [without, member_object, member_object, Fields.lookup_filter_of_ne h]
  | _ => rfl

theorem member_mapMember {change : Json → Json} (h : change .null = .null) (key : String) (json : Json) :
    (json.mapMember key change).member key = change (json.member key) := by
  cases json with
  | object members =>
    rw [mapMember, member_object, member_object]
    induction members with
    | nil => exact h.symm
    | cons first rest ih =>
      obtain ⟨k, v⟩ := first
      rw [List.map_cons]
      by_cases hk : k = key
      · subst hk
        simp
      · have hkey : (key == k) = false := by simpa using Ne.symm hk
        rw [if_neg hk, List.lookup_cons, List.lookup_cons, hkey]
        exact ih
  | _ => exact h.symm

theorem member_frame (provider : Hyperscaler) (json : Json) :
    (json.frame provider).member "networks" = (json.member "networks").without "zones" := by
  unfold frame
  split_ifs
  · rw [member_without (by decide)]
    exact member_mapMember rfl "networks" json
  · exact member_mapMember rfl "networks" json

def entries : Json → List Json
  | .array items => items
  | _ => []

theorem zoneEntries_eq (json : Json) :
    json.zoneEntries = ((json.member "networks").member "zones").entries := rfl

end Json

open ShootPlan.Json

section

variable {α : Type} [Coded α] {key : String} {members : List (String × Json)}

/-- A list under this key, none where there is no such member. -/
structure Field.ReadsList (field : Field (List α)) (key : String) : Prop where
  key_eq : field.key = key
  read_eq : field.read (ν := Json) = Coded.read
  absent_eq : field.absent = some []

theorem Field.readsList_defaulted : (Field.defaulted key ([] : List α)).ReadsList key := ⟨rfl, rfl, rfl⟩

theorem Field.readsList_sparse : (Field.sparse (α := α) key).ReadsList key := ⟨rfl, rfl, rfl⟩

namespace Fields

theorem read_of_readsOne_required {a : α} (h : ReadsOne (Field.required key) members a) :
    Coded.read ((Json.object members).member key) = Except.ok (ε := Fault) a := by
  unfold ReadsOne at h
  rw [member_object]
  split at h
  · rename_i node hnode
    have hfound : members.lookup key = some node := hnode
    rw [hfound]
    exact h
  · cases h

theorem length_of_read {json : Json} {values : List α}
    (h : Coded.read json = Except.ok (ε := Fault) values) : json.entries.length = values.length := by
  cases json with
  | array items =>
    have hread : items.mapM Coded.read = Except.ok (ε := Fault) values := h
    exact (Outcome.mapM_eq_ok_iff.1 hread).length_eq
  | _ => cases h

/-- A list has as many entries as values are read from it, also where it is left out. -/
theorem length_of_readsOne {field : Field (List α)} {values : List α} (hfield : field.ReadsList key)
    (h : ReadsOne field members values) :
    ((Json.object members).member key).entries.length = values.length := by
  unfold ReadsOne at h
  rw [member_object]
  rw [hfield.key_eq] at h
  split at h
  · rename_i node hnode
    rw [hnode]
    rw [hfield.read_eq] at h
    exact length_of_read h
  · rename_i hnode
    rw [hnode]
    rw [hfield.absent_eq] at h
    obtain rfl := Option.some.inj h
    rfl

end Fields

end

open Fields

namespace Record

variable {σ τ α : Type} {members inside : List (String × Json)}

/-- What an object has for the field becomes this part of the record. -/
structure Holds (record : Record σ) (field : Field α) (part : σ → α) : Prop where
  keys_nodup : record.fields.keys.Nodup
  readsOne : ∀ {members : List (String × Json)} {values}, record.fields.Reads members values →
    ReadsOne field members (part (record.build values))

theorem Holds.readsOne_of_read {record : Record σ} {field : Field α} {part : σ → α} {a : σ}
    (hholds : record.Holds field part) (hmembers : (members.map Prod.fst).Nodup)
    (h : record.readMembers members = .ok a) : ReadsOne field members (part a) := by
  obtain ⟨values, hreads, rfl⟩ := (readMembers_eq_ok_iff hholds.keys_nodup hmembers).1 h
  exact hholds.readsOne hreads

/-- As many zones are read with the networks of a document as there are entries for them. -/
theorem length_zoneEntries [Coded α] {document : Record σ} {inner : Record τ} {networks : σ → τ}
    {field : Field (List α)} {zones : τ → List α} {doc : σ}
    (hdocument : document.Holds (@Field.required τ inner.coded "networks") networks)
    (hinner : inner.Holds field zones) (hfield : field.ReadsList "zones")
    (hmembers : (members.map Prod.fst).Nodup) (hinside : (inside.map Prod.fst).Nodup)
    (hnetworks : (Json.object members).member "networks" = .object inside)
    (h : document.readMembers members = .ok doc) :
    (Json.object members).zoneEntries.length = (zones (networks doc)).length := by
  let _ : Coded τ := inner.coded
  have hread := read_of_readsOne_required (hdocument.readsOne_of_read hmembers h)
  rw [hnetworks] at hread
  have hzones := hinner.readsOne_of_read hinside hread
  rw [zoneEntries_eq, hnetworks]
  exact length_of_readsOne hfield hzones

end Record

namespace AwsNetwork

theorem Infrastructure.holds_networks : record.Holds (.required "networks") networks where
  keys_nodup := by decide
  readsOne := by
    rintro _ ⟨_, _, _, _, ⟨⟩⟩ ⟨-, -, hnetworks, -⟩
    exact hnetworks

theorem Networks.holds_zones : record.Holds (.defaulted "zones" []) zones where
  keys_nodup := by decide
  readsOne := by
    rintro _ ⟨_, _, ⟨⟩⟩ ⟨-, hzones, -⟩
    exact hzones

end AwsNetwork

namespace AlicloudNetwork

theorem Infrastructure.holds_networks : record.Holds (.required "networks") networks where
  keys_nodup := by decide
  readsOne := by
    rintro _ ⟨_, _, _, ⟨⟩⟩ ⟨-, -, hnetworks, -⟩
    exact hnetworks

theorem Networks.holds_zones : record.Holds (.defaulted "zones" []) zones where
  keys_nodup := by decide
  readsOne := by
    rintro _ ⟨_, _, ⟨⟩⟩ ⟨-, hzones, -⟩
    exact hzones

end AlicloudNetwork

namespace AzureNetwork

theorem Infrastructure.holds_networks : record.Holds (.required "networks") networks where
  keys_nodup := by decide
  readsOne := by
    rintro _ ⟨_, _, _, _, ⟨⟩⟩ ⟨-, -, hnetworks, -⟩
    exact hnetworks

theorem Networks.holds_zones : record.Holds (.sparse "zones") zones where
  keys_nodup := by decide
  readsOne := by
    rintro _ ⟨_, _, _, _, ⟨⟩⟩ ⟨-, -, -, hzones, -⟩
    exact hzones

end AzureNetwork

namespace InfrastructureDocument

variable {doc : InfrastructureDocument} {json : Json}

theorem exists_networks (h : doc.provider ≠ .openstack) :
    ∃ inner, doc.json.member "networks" = .object inner := by
  cases doc with
  | aws doc =>
    rw [InfrastructureDocument.json, AwsNetwork.Infrastructure.json_eq, AwsNetwork.Networks.json_eq]
    cases doc.dualStack <;> exact ⟨_, rfl⟩
  | azure doc =>
    rw [InfrastructureDocument.json, AzureNetwork.Infrastructure.json_eq,
      AzureNetwork.Networks.json_eq]
    exact ⟨_, rfl⟩
  | alicloud doc =>
    rw [InfrastructureDocument.json, AlicloudNetwork.Infrastructure.json_eq,
      AlicloudNetwork.Networks.json_eq]
    exact ⟨_, rfl⟩
  | openstack doc => exact absurd rfl h

/-- With the same frame the JSON is made of objects where the document is. -/
theorem exists_objects (hprovider : doc.provider ≠ .openstack)
    (h : json.frame doc.provider = doc.json.frame doc.provider) :
    ∃ members inner, json = .object members ∧ json.member "networks" = .object inner := by
  obtain ⟨inner, hinner⟩ := exists_networks hprovider
  have hwithout : (json.member "networks").without "zones" = (Json.object inner).without "zones" := by
    rw [← member_frame, h, member_frame, hinner]
  cases hnetworks : json.member "networks" with
  | object found =>
    cases json with
    | object members => exact ⟨members, found, rfl, rfl⟩
    | _ => cases hnetworks
  | _ =>
    rw [hnetworks] at hwithout
    cases hwithout

/-- Then as many entries stand in the JSON as the document has zones. -/
theorem length_zoneEntries (hprovider : doc.provider ≠ .openstack)
    (hdoc : decode doc.provider json.canonical = .ok doc)
    (hframe : json.canonical.frame doc.provider = doc.json.frame doc.provider) :
    json.canonical.zoneEntries.length = doc.json.zoneEntries.length := by
  obtain ⟨members, inner, hmembers, hinner⟩ := exists_objects hprovider hframe
  have hkeys : (members.map Prod.fst).Nodup := nodup_keys_of_canonical hmembers
  have hinnerKeys : (inner.map Prod.fst).Nodup := by
    obtain ⟨value, hvalue⟩ := exists_canonical_member json "networks"
    exact nodup_keys_of_canonical (hvalue.symm.trans hinner)
  unfold decode at hdoc
  rw [Outcome.mapError_eq_ok_iff, hmembers] at hdoc
  rw [hmembers] at hinner ⊢
  cases doc with
  | aws doc =>
    obtain ⟨_, hread, hdoc⟩ := Outcome.map_eq_ok_iff.1 hdoc
    cases hdoc
    rw [Record.length_zoneEntries AwsNetwork.Infrastructure.holds_networks
      AwsNetwork.Networks.holds_zones Field.readsList_defaulted hkeys hinnerKeys hinner hread,
      InfrastructureDocument.json, AwsNetwork.Infrastructure.zoneEntries_json, List.length_map]
  | azure doc =>
    obtain ⟨_, hread, hdoc⟩ := Outcome.map_eq_ok_iff.1 hdoc
    cases hdoc
    rw [Record.length_zoneEntries AzureNetwork.Infrastructure.holds_networks
      AzureNetwork.Networks.holds_zones Field.readsList_sparse hkeys hinnerKeys hinner hread,
      InfrastructureDocument.json, AzureNetwork.Infrastructure.zoneEntries_json, List.length_map]
  | alicloud doc =>
    obtain ⟨_, hread, hdoc⟩ := Outcome.map_eq_ok_iff.1 hdoc
    cases hdoc
    rw [Record.length_zoneEntries AlicloudNetwork.Infrastructure.holds_networks
      AlicloudNetwork.Networks.holds_zones Field.readsList_defaulted hkeys hinnerKeys hinner hread,
      InfrastructureDocument.json, AlicloudNetwork.Infrastructure.zoneEntries_json, List.length_map]
  | openstack doc => exact absurd rfl hprovider

end InfrastructureDocument

end ShootPlan
