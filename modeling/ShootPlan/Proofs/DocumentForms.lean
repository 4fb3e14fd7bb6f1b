import ShootPlan.Proofs.DocumentRoundTrip
import ShootPlan.Proofs.ServiceRoundTrip
/-!
All documents that a conversion writes are read back as they were, and the form in which they
are written is a normal form: a document that was read may be written and read again, as often
as one likes, without a change.
-/
namespace ShootPlan

open ShootPlan.Coded ShootPlan.Field

theorem PlainControlPlane.faithful (doc : PlainControlPlane) : Faithful doc :=
  Record.faithful (by decide) rfl
    ⟨faithful_required (faithful_string _), faithful_required (faithful_string _), trivial⟩

theorem BalancedControlPlane.faithful (doc : BalancedControlPlane) : Faithful doc :=
  Record.faithful (by decide) rfl
    ⟨faithful_required (faithful_string _), faithful_required (faithful_string _),
      faithful_optional fun _ _ => faithful_string _, trivial⟩

namespace ControlPlaneDocument

def provider : ControlPlaneDocument → Hyperscaler
  | aws _ => .aws
  | azure _ => .azure
  | alicloud _ => .alicloud
  | openstack _ => .openstack

theorem decode_json (doc : ControlPlaneDocument) : decode doc.provider doc.json = .ok doc := by
  unfold decode
  rw [Outcome.mapError_eq_ok_iff]
  cases doc with
  | aws doc => exact doc.faithful.map_read_write _
  | azure doc => exact doc.faithful.map_read_write _
  | alicloud doc => exact doc.faithful.map_read_write _
  | openstack doc => exact doc.faithful.map_read_write _

theorem provider_of_decode {provider : Hyperscaler} {json : Json} {doc : ControlPlaneDocument}
    (h : decode provider json = .ok doc) : doc.provider = provider := by
  unfold decode at h
  rw [Outcome.mapError_eq_ok_iff] at h
  cases provider <;> obtain ⟨_, -, rfl⟩ := Outcome.map_eq_ok_iff.1 h <;> rfl

end ControlPlaneDocument

/--
These values, and no others, are what documents are read as, and they are read back from the
document that they are written as.
-/
structure NormalForm {ε α : Type} (own : α → Prop) (decode : Json → Except ε α) (encode : α → Json) :
    Prop where
  decode_encode : ∀ a, own a → decode (encode a) = .ok a
  own_of_decode : ∀ json a, decode json = .ok a → own a
  /-- Writing what was read gives a document that reads the same. -/
  decode_again : ∀ json a, decode json = .ok a → decode (encode a) = .ok a

theorem NormalForm.of_own {ε α : Type} {own : α → Prop} {decode : Json → Except ε α}
    {encode : α → Json} (hencode : ∀ a, own a → decode (encode a) = .ok a)
    (hown : ∀ json a, decode json = .ok a → own a) : NormalForm own decode encode where
  decode_encode := hencode
  own_of_decode := hown
  decode_again json a h := hencode a (hown json a h)

/-- All values of a type are read back. -/
def Coded.ReadsBack (α : Type) [Coded α] : Prop :=
  NormalForm (fun _ : α => True) (Coded.read (ν := Json)) fun a => (Coded.write a).canonical

theorem Coded.ReadsBack.of_faithful {α : Type} [Coded α] (h : ∀ a : α, Faithful a) : ReadsBack α :=
  .of_own (fun a _ => (h a).read_write) fun _ _ _ => trivial

/--
The documents of a provider and those of the garden's extensions are read back as they were
written, with the zones in their order, and what they are written as is a normal form.
-/
theorem documents_normalForm :
    (∀ provider, NormalForm (fun doc => doc.provider = provider)
      (InfrastructureDocument.decode provider) InfrastructureDocument.json) ∧
    (∀ doc : InfrastructureDocument,
      (InfrastructureDocument.decode doc.provider doc.json).map InfrastructureDocument.zoneNames? =
        .ok doc.zoneNames?) ∧
    (∀ provider, NormalForm (fun doc => doc.provider = provider)
      (ControlPlaneDocument.decode provider) ControlPlaneDocument.json) ∧
    Coded.ReadsBack DnsConfig ∧ Coded.ReadsBack CertConfig ∧ Coded.ReadsBack AuditLogConfig ∧
    Coded.ReadsBack RegistryConfig := by
  refine ⟨fun provider => ?_, fun doc => ?_, fun provider => ?_, .of_faithful DnsConfig.faithful,
    .of_faithful CertConfig.faithful, .of_faithful AuditLogConfig.faithful,
    .of_faithful RegistryConfig.faithful⟩
  · exact .of_own (fun doc hown => hown ▸ doc.decode_json)
      fun _ _ => InfrastructureDocument.provider_of_decode
  · rw [doc.decode_json]
    rfl
  · exact .of_own (fun doc hown => hown ▸ doc.decode_json)
      fun _ _ => ControlPlaneDocument.provider_of_decode

/-! The sample has its members in another order, and one more than the provider knows of. -/

def sampleControlPlane : Json :=
  .object [("kind", .string "ControlPlaneConfig"), ("zone", .string "a"), ("apiVersion", .string "v1")]

theorem documents_normalForm_sample :
    ControlPlaneDocument.decode .openstack sampleControlPlane =
      .ok (.openstack ⟨"v1", "ControlPlaneConfig", none⟩) ∧
    ControlPlaneDocument.decode .openstack
      (ControlPlaneDocument.openstack ⟨"v1", "ControlPlaneConfig", none⟩).json =
      .ok (.openstack ⟨"v1", "ControlPlaneConfig", none⟩) := by
  have hread : ControlPlaneDocument.decode .openstack sampleControlPlane =
      .ok (.openstack ⟨"v1", "ControlPlaneConfig", none⟩) := by rfl
  exact ⟨hread, (documents_normalForm.2.2.1 .openstack).decode_again sampleControlPlane _ hread⟩

end ShootPlan
