import Mathlib.Data.String.Basic
import ShootPlan.Proofs.CanonicalJson
import ShootPlan.Proofs.ZoneGrowth
/-!
The JSON of infrastructure documents, parted into the entries of their zones and the frame
around them. Zones that are added show in the entries alone.
-/
namespace ShootPlan

namespace Json

/-- The entries of `networks.zones`; none where there is no such list. -/
def zoneEntries (json : Json) : List Json :=
  match (json.member "networks").member "zones" with
  | .array entries => entries
  | _ => []

/-- An object without the members of that key. -/
def without (key : String) : Json → Json
  | .object members => .object (members.filter fun m => m.1 ≠ key)
  | json => json

/-- An object with its members of that key changed. -/
def mapMember (key : String) (change : Json → Json) : Json → Json
  | .object members => .object (members.map fun m => if m.1 = key then (m.1, change m.2) else m)
  | json => json

/-- All that is outside of `networks.zones`; on Azure, `zoned` goes with the zones. -/
def frame (provider : Hyperscaler) (json : Json) : Json :=
  let rest := json.mapMember "networks" (without "zones")
  if provider = .azure then rest.without "zoned" else rest

end Json

open ShootPlan.Json

section
variable {α : Type} [Coded α]

theorem canonical_write_list (items : List α) :
    (Coded.write items).canonical = .array (items.map fun item => (Coded.write item).canonical) := by
  simp only [Coded.write, canonical_array, List.map_map]
  rfl

end

namespace AwsNetwork

theorem Networks.json_eq (networks : Networks) :
    (Coded.write networks).canonical = .object
      [("vpc", (Coded.write networks.vpc).canonical),
        ("zones", .array (networks.zones.map fun zone => (Coded.write zone).canonical))] := by
  rw [← canonical_write_list]
  simp [Coded.write, Record.write, record, Fields.write, Field.required, Field.defaulted,
    canonical, canonicalMembers, placeAbsent, -String.lt_iff_ltb]

theorem Infrastructure.json_eq (doc : Infrastructure) :
    (Coded.write doc).canonical = .object (
      ("apiVersion", .string doc.apiVersion) ::
      (doc.dualStack.toList.map fun d => ("dualStack", (Coded.write d).canonical)) ++
      [("kind", .string doc.kind), ("networks", (Coded.write doc.networks).canonical)]) := by
  obtain ⟨apiVersion, kind, networks, dualStack⟩ := doc
  cases dualStack <;>
    simp [Coded.write, Record.write, record, Fields.write, Field.required, Field.optional,
      canonical, canonicalMembers, placeAbsent, -String.lt_iff_ltb]

theorem Infrastructure.zoneEntries_json (doc : Infrastructure) :
    (Coded.write doc).canonical.zoneEntries =
      doc.networks.zones.map fun zone => (Coded.write zone).canonical := by
  rw [Infrastructure.json_eq, Networks.json_eq]
  cases doc.dualStack <;> simp [zoneEntries, member]

theorem Infrastructure.frame_json (doc : Infrastructure) (zones : List Zone) :
    frame .aws (Coded.write { doc with networks := { doc.networks with zones } }).canonical =
      frame .aws (Coded.write doc).canonical := by
  rw [Infrastructure.json_eq, Infrastructure.json_eq, Networks.json_eq, Networks.json_eq]
  cases doc.dualStack <;> simp [frame, mapMember, without]

end AwsNetwork

namespace AlicloudNetwork

theorem Networks.json_eq (networks : Networks) :
    (Coded.write networks).canonical = .object
      [("vpc", (Coded.write networks.vpc).canonical),
        ("zones", .array (networks.zones.map fun zone => (Coded.write zone).canonical))] := by
  rw [← canonical_write_list]
  simp [Coded.write, Record.write, record, Fields.write, Field.required, Field.defaulted,
    canonical, canonicalMembers, placeAbsent, -String.lt_iff_ltb]

theorem Infrastructure.json_eq (doc : Infrastructure) :
    (Coded.write doc).canonical = .object
      [("apiVersion", .string doc.apiVersion), ("kind", .string doc.kind),
        ("networks", (Coded.write doc.networks).canonical)] := by
  simp [Coded.write, Record.write, record, Fields.write, Field.required, canonical,
    canonicalMembers, placeAbsent, -String.lt_iff_ltb]

theorem Infrastructure.zoneEntries_json (doc : Infrastructure) :
    (Coded.write doc).canonical.zoneEntries =
      doc.networks.zones.map fun zone => (Coded.write zone).canonical := by
  rw [Infrastructure.json_eq, Networks.json_eq]
  simp [zoneEntries, member]

theorem Infrastructure.frame_json (doc : Infrastructure) (zones : List Zone) :
    frame .alicloud (Coded.write { doc with networks := { doc.networks with zones } }).canonical =
      frame .alicloud (Coded.write doc).canonical := by
  rw [Infrastructure.json_eq, Infrastructure.json_eq, Networks.json_eq, Networks.json_eq]
  simp [frame, mapMember, without]

end AlicloudNetwork

namespace AzureNetwork

theorem Networks.json_eq (networks : Networks) :
    (Coded.write networks).canonical = .object (
      (networks.natGateway.toList.map fun g => ("natGateway", (Coded.write g).canonical)) ++
      ("vnet", (Coded.write networks.vnet).canonical) ::
      (networks.workers.toList.map fun w => ("workers", .string w)) ++
      (if networks.zones.isEmpty then [] else
        [("zones", .array (networks.zones.map fun zone => (Coded.write zone).canonical))])) := by
  rw [← canonical_write_list]
  obtain ⟨vnet, workers, natGateway, zones⟩ := networks
  cases workers <;> cases natGateway <;> cases zones <;>
    simp [Coded.write, Record.write, record, Fields.write, Field.required, Field.optional,
      Field.sparse, canonical, canonicalMembers, placeAbsent, -String.lt_iff_ltb]

theorem Infrastructure.json_eq (doc : Infrastructure) :
    (Coded.write doc).canonical = .object
      [("apiVersion", .string doc.apiVersion), ("kind", .string doc.kind),
        ("networks", (Coded.write doc.networks).canonical), ("zoned", .bool doc.zoned)] := by
  simp [Coded.write, Record.write, record, Fields.write, Field.required, Field.defaulted,
    canonical, canonicalMembers, placeAbsent, -String.lt_iff_ltb]

theorem Infrastructure.zoneEntries_json (doc : Infrastructure) :
    (Coded.write doc).canonical.zoneEntries =
      doc.networks.zones.map fun zone => (Coded.write zone).canonical := by
  rw [Infrastructure.json_eq, Networks.json_eq]
  obtain ⟨apiVersion, kind, ⟨vnet, workers, natGateway, zones⟩, zoned⟩ := doc
  cases workers <;> cases natGateway <;> cases zones <;> simp [zoneEntries, member]

theorem Infrastructure.frame_json (doc : Infrastructure) (zones : List Zone) (zoned : Bool) :
    frame .azure (Coded.write { doc with networks := { doc.networks with zones }, zoned }).canonical =
      frame .azure (Coded.write doc).canonical := by
  rw [Infrastructure.json_eq, Infrastructure.json_eq, Networks.json_eq, Networks.json_eq]
  obtain ⟨apiVersion, kind, ⟨vnet, workers, natGateway, old⟩, _⟩ := doc
  cases workers <;> cases natGateway <;> cases old <;> cases zones <;>
    simp [frame, mapMember, without]

end AzureNetwork

namespace InfrastructureDocument

variable {doc grown : InfrastructureDocument} {network : String} {added : List String}

/-- The entries that are there come first, unchanged. -/
theorem zoneEntries_prefix_of_grow (h : doc.grow network added = .ok grown) :
    doc.json.zoneEntries <+: grown.json.zoneEntries := by
  cases gainsZones_of_grow h with
  | aws doc fresh =>
    simp only [json, AwsNetwork.Infrastructure.zoneEntries_json]
    exact (List.prefix_append doc.networks.zones fresh).map _
  | azure doc fresh =>
    simp only [json, AzureNetwork.Infrastructure.zoneEntries_json]
    exact (List.prefix_append doc.networks.zones fresh).map _
  | alicloud doc fresh =>
    simp only [json, AlicloudNetwork.Infrastructure.zoneEntries_json]
    exact (List.prefix_append doc.networks.zones fresh).map _
  | openstack => exact List.prefix_refl _

/-- Growth changes nothing outside of the zones. -/
theorem frame_json_of_grow (h : doc.grow network added = .ok grown) :
    grown.json.frame doc.provider = doc.json.frame doc.provider := by
  cases gainsZones_of_grow h with
  | aws doc => exact AwsNetwork.Infrastructure.frame_json doc _
  | azure doc => exact AzureNetwork.Infrastructure.frame_json doc _ _
  | alicloud doc => exact AlicloudNetwork.Infrastructure.frame_json doc _
  | openstack => rfl

end InfrastructureDocument

end ShootPlan
