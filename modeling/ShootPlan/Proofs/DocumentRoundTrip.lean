import ShootPlan.Proofs.RecordRoundTrip
import ShootPlan.ProviderDocument
/-!
The infrastructure documents are read back as they were written, whatever is in them.
-/
namespace ShootPlan

open ShootPlan.Coded ShootPlan.Field

namespace AwsNetwork

theorem Zone.faithful (zone : Zone) : Faithful zone :=
  Record.faithful (by decide) rfl
    ⟨faithful_required (faithful_string _), faithful_required (faithful_string _),
      faithful_required (faithful_string _), faithful_required (faithful_string _), trivial⟩

theorem Vpc.faithful (vpc : Vpc) : Faithful vpc :=
  Record.faithful (by decide) rfl
    ⟨faithful_optional fun _ _ => faithful_string _, faithful_optional fun _ _ => faithful_string _,
      trivial⟩

theorem Networks.faithful (networks : Networks) : Faithful networks :=
  Record.faithful (by decide) rfl
    ⟨faithful_required (Vpc.faithful _),
      faithful_defaulted (faithful_list fun zone _ => Zone.faithful zone), trivial⟩

theorem DualStack.faithful (dualStack : DualStack) : Faithful dualStack :=
  Record.faithful (by decide) rfl ⟨faithful_required (faithful_bool _), trivial⟩

theorem Infrastructure.faithful (doc : Infrastructure) : Faithful doc :=
  Record.faithful (by decide) rfl
    ⟨faithful_required (faithful_string _), faithful_required (faithful_string _),
      faithful_required (Networks.faithful _),
      faithful_optional fun dualStack _ => DualStack.faithful dualStack, trivial⟩

end AwsNetwork

namespace AzureNetwork

theorem NatGateway.faithful (gateway : NatGateway) : Faithful gateway :=
  Record.faithful (by decide) rfl
    ⟨faithful_required (faithful_bool _), faithful_optional fun n _ => faithful_int32 n, trivial⟩

theorem Zone.faithful (zone : Zone) : Faithful zone :=
  Record.faithful (by decide) rfl
    ⟨faithful_required (faithful_int32 _), faithful_required (faithful_string _),
      faithful_optional fun gateway _ => NatGateway.faithful gateway, trivial⟩

theorem VNet.faithful (vnet : VNet) : Faithful vnet :=
  Record.faithful (by decide) rfl
    ⟨faithful_optional fun _ _ => faithful_string _, faithful_optional fun _ _ => faithful_string _,
      faithful_optional fun _ _ => faithful_string _, trivial⟩

theorem Networks.faithful (networks : Networks) : Faithful networks :=
  Record.faithful (by decide) rfl
    ⟨faithful_required (VNet.faithful _), faithful_optional fun _ _ => faithful_string _,
      faithful_optional fun gateway _ => NatGateway.faithful gateway,
      faithful_sparse fun zone _ => Zone.faithful zone, trivial⟩

theorem Infrastructure.faithful (doc : Infrastructure) : Faithful doc :=
  Record.faithful (by decide) rfl
    ⟨faithful_required (faithful_string _), faithful_required (faithful_string _),
      faithful_required (Networks.faithful _), faithful_defaulted (faithful_bool _), trivial⟩

end AzureNetwork

namespace AlicloudNetwork

theorem Zone.faithful (zone : Zone) : Faithful zone :=
  Record.faithful (by decide) rfl
    ⟨faithful_required (faithful_string _), faithful_required (faithful_string _), trivial⟩

theorem Vpc.faithful (vpc : Vpc) : Faithful vpc :=
  Record.faithful (by decide) rfl
    ⟨faithful_optional fun _ _ => faithful_string _, faithful_optional fun _ _ => faithful_string _,
      trivial⟩

theorem Networks.faithful (networks : Networks) : Faithful networks :=
  Record.faithful (by decide) rfl
    ⟨faithful_required (Vpc.faithful _),
      faithful_defaulted (faithful_list fun zone _ => Zone.faithful zone), trivial⟩

theorem Infrastructure.faithful (doc : Infrastructure) : Faithful doc :=
  Record.faithful (by decide) rfl
    ⟨faithful_required (faithful_string _), faithful_required (faithful_string _),
      faithful_required (Networks.faithful _), trivial⟩

end AlicloudNetwork

namespace OpenStackNetwork

theorem Networks.faithful (networks : Networks) : Faithful networks :=
  Record.faithful (by decide) rfl ⟨faithful_optional fun _ _ => faithful_string _, trivial⟩

theorem Infrastructure.faithful (doc : Infrastructure) : Faithful doc :=
  Record.faithful (by decide) rfl
    ⟨faithful_required (faithful_string _), faithful_required (faithful_string _),
      faithful_required (faithful_string _), faithful_required (Networks.faithful _), trivial⟩

end OpenStackNetwork

namespace InfrastructureDocument

/-- What a provider's document is written as, that provider reads back. -/
theorem decode_json (doc : InfrastructureDocument) : decode doc.provider doc.json = .ok doc := by
  unfold decode
  rw [Outcome.mapError_eq_ok_iff]
  cases doc with
  | aws doc => exact doc.faithful.map_read_write _
  | azure doc => exact doc.faithful.map_read_write _
  | alicloud doc => exact doc.faithful.map_read_write _
  | openstack doc => exact doc.faithful.map_read_write _

theorem provider_of_decode {provider : Hyperscaler} {json : Json} {doc : InfrastructureDocument}
    (h : decode provider json = .ok doc) : doc.provider = provider := by
  unfold decode at h
  rw [Outcome.mapError_eq_ok_iff] at h
  cases provider <;> obtain ⟨_, -, rfl⟩ := Outcome.map_eq_ok_iff.1 h <;> rfl

end InfrastructureDocument

end ShootPlan
