import ShootPlan.Metadata
import ShootPlan.Proofs.CodedRoundTrip
/-!
The metadata of an object is read back as it was written, as long as its times are and the notes
of who manages which fields are documents.
-/
namespace ShootPlan

open ShootPlan.Coded ShootPlan.Field

theorem FieldSet.faithful {fields : FieldSet} (h : IsDocument fields.json) : Faithful fields := by
  have hwrite : (Coded.write fields).canonical = fields.json := h.canonical_eq
  exact ⟨by rw [hwrite]; rfl, by rw [hwrite]; exact h.ne_null⟩

def ManagedFields.documents (managed : ManagedFields) : List Json :=
  managed.fieldsV1.toList.map FieldSet.json

theorem ManagedFields.faithful {managed : ManagedFields}
    (htime : ∀ time ∈ managed.time, Faithful time)
    (h : ∀ doc ∈ managed.documents, IsDocument doc) : Faithful managed := by
  have hfields : ∀ fields ∈ managed.fieldsV1, Faithful fields := fun fields hfields =>
    FieldSet.faithful (h _ (List.mem_map_of_mem (Option.mem_toList.2 hfields)))
  exact Record.faithful (by decide) rfl
    ⟨faithful_optional fun _ _ => faithful_string _, faithful_optional fun _ _ => faithful_string _,
      faithful_optional hfields, faithful_optional fun _ _ => faithful_string _,
      faithful_optional fun _ _ => faithful_string _, faithful_optional fun _ _ => faithful_string _,
      faithful_optional htime, trivial⟩

theorem OwnerReference.faithful (owner : OwnerReference) : Faithful owner :=
  Record.faithful (by decide) rfl
    ⟨faithful_lenient _, faithful_optional fun _ _ => faithful_bool _,
      faithful_optional fun _ _ => faithful_bool _, faithful_lenient _, faithful_lenient _,
      faithful_lenient _, trivial⟩

namespace Metadata

def documents (metadata : Metadata) : List Json :=
  (metadata.managedFields.getD []).flatMap ManagedFields.documents

def times (metadata : Metadata) : List WholeSecond :=
  metadata.creationTimestamp.toList ++ metadata.deletionTimestamp.toList
    ++ (metadata.managedFields.getD []).flatMap fun managed => managed.time.toList

theorem faithful {metadata : Metadata} (htimes : ∀ time ∈ metadata.times, Faithful time)
    (h : ∀ doc ∈ metadata.documents, IsDocument doc) : Faithful metadata := by
  simp only [times, List.forall_mem_append, List.forall_mem_flatMap, Option.mem_toList,
    forall_mem_getD_nil] at htimes
  simp only [documents, List.forall_mem_flatMap, forall_mem_getD_nil] at h
  obtain ⟨⟨hcreation, hdeletion⟩, hmanaged⟩ := htimes
  have hlabels (dict : Dict String) : Faithful dict := faithful_dict fun _ _ => faithful_string _
  exact Record.faithful (by decide) rfl
    ⟨faithful_optional fun dict _ => hlabels dict, faithful_optional hcreation,
      faithful_optional fun _ _ => faithful_int64 _, faithful_optional hdeletion,
      faithful_optional fun _ _ => faithful_list fun _ _ => faithful_string _,
      faithful_optional fun _ _ => faithful_string _, faithful_optional fun _ _ => faithful_int64 _,
      faithful_optional fun dict _ => hlabels dict,
      faithful_optional fun notes hnotes => faithful_list fun managed hmem =>
        ManagedFields.faithful (hmanaged notes hnotes managed hmem) (h notes hnotes managed hmem),
      faithful_optional fun _ _ => faithful_string _, faithful_optional fun _ _ => faithful_string _,
      faithful_optional fun _ _ => faithful_list fun owner _ => OwnerReference.faithful owner,
      faithful_optional fun _ _ => faithful_string _, faithful_optional fun _ _ => faithful_string _,
      faithful_optional fun _ _ => faithful_string _, trivial⟩

end Metadata

end ShootPlan
