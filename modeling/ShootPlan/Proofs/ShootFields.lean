import ShootPlan.Proofs.WrittenForm
import ShootPlan.Shoot
/-!
The parts of a Shoot are told apart by what is written of them. The provider's own documents
are known only as documents; two of them are the same when they are compared as the same.
-/
namespace ShootPlan

open ShootPlan.Coded ShootPlan.Field

instance : Telling AccessRestriction :=
  Record.telling (by decide) (fun _ => rfl) ⟨injective_required, injective_sparseMap, trivial⟩

instance : Telling FailureTolerance :=
  Record.telling (by decide) (fun _ => rfl) ⟨injective_required, trivial⟩

instance : Telling HighAvailability :=
  Record.telling (by decide) (fun _ => rfl) ⟨injective_required, trivial⟩

instance : Telling ControlPlane :=
  Record.telling (by decide) (fun _ => rfl) ⟨injective_optional, trivial⟩

instance : Telling Dns := Record.telling (by decide) (fun _ => rfl) ⟨injective_optional, trivial⟩

instance : Telling ObjectReference :=
  Record.telling (by decide) (fun _ => rfl) ⟨injective_required, trivial⟩

instance : Telling AuditPolicy :=
  Record.telling (by decide) (fun _ => rfl) ⟨injective_optional, trivial⟩

instance : Telling AuditConfig :=
  Record.telling (by decide) (fun _ => rfl) ⟨injective_optional, trivial⟩

instance : Telling OidcConfig :=
  Record.telling (by decide) (fun _ => rfl)
    ⟨injective_optional, injective_optional, injective_optional, injective_optional,
      injective_sparseMap, injective_sparse, injective_optional, injective_optional, trivial⟩

instance : Telling ServiceAccountConfig :=
  Record.telling (by decide) (fun _ => rfl) ⟨injective_optional, injective_optional, trivial⟩

instance : Telling ApiServer :=
  Record.telling (by decide) (fun _ => rfl)
    ⟨injective_optional, injective_optional, injective_optional, trivial⟩

instance : Telling Kubernetes :=
  Record.telling (by decide) (fun _ => rfl) ⟨injective_defaulted, injective_optional, trivial⟩

instance : Telling AutoUpdate :=
  Record.telling (by decide) (fun _ => rfl) ⟨injective_required, injective_optional, trivial⟩

instance : Telling TimeWindow :=
  Record.telling (by decide) (fun _ => rfl) ⟨injective_required, injective_required, trivial⟩

instance : Telling Maintenance :=
  Record.telling (by decide) (fun _ => rfl) ⟨injective_optional, injective_optional, trivial⟩

instance : Telling IpFamily where
  injective a b h := by
    have hname : a.name = b.name := Json.string.inj h
    cases a <;> cases b <;> first | rfl | exact absurd hname (by decide)
  ne_null _ h := nomatch h

instance : Telling Networking :=
  Record.telling (by decide) (fun _ => rfl)
    ⟨injective_optional, injective_sparse, injective_optional, injective_optional,
      injective_optional, trivial⟩

instance : Telling SshAccess :=
  Record.telling (by decide) (fun _ => rfl) ⟨injective_required, trivial⟩

instance : Telling WorkersSettings :=
  Record.telling (by decide) (fun _ => rfl) ⟨injective_optional, trivial⟩

instance : Telling ResourceTarget :=
  Record.telling (by decide) (fun _ => rfl)
    ⟨injective_required, injective_required, injective_required, trivial⟩

instance : Telling NamedResource :=
  Record.telling (by decide) (fun _ => rfl) ⟨injective_required, injective_required, trivial⟩

instance : Telling SeedSelector :=
  Record.telling (by decide) (fun _ => rfl) ⟨injective_sparseMap, trivial⟩

instance : Telling Toleration :=
  Record.telling (by decide) (fun _ => rfl) ⟨injective_required, injective_optional, trivial⟩

instance : Telling MachineImage :=
  Record.telling (by decide) (fun _ => rfl) ⟨injective_required, injective_optional, trivial⟩

instance : Telling Machine :=
  Record.telling (by decide) (fun _ => rfl)
    ⟨injective_required, injective_optional, injective_optional, trivial⟩

instance : Telling Volume :=
  Record.telling (by decide) (fun _ => rfl) ⟨injective_optional, injective_required, trivial⟩

instance : Telling UpdateStrategy where
  injective a b h := by
    have hname : a.name = b.name := Json.string.inj h
    cases a <;> cases b <;> first | rfl | exact absurd hname (by decide)
  ne_null _ h := nomatch h

/-- The pool with its document as it is compared. -/
def Worker.comparand (worker : Worker) : Worker :=
  { worker with providerConfig := worker.providerConfig.map Json.comparand }

/-- The block with all documents as they are compared. -/
def ProviderBlock.comparand (block : ProviderBlock) : ProviderBlock :=
  { block with
    controlPlaneConfig := block.controlPlaneConfig.map Json.comparand
    infrastructureConfig := block.infrastructureConfig.map Json.comparand
    workers := block.workers.map Worker.comparand }

theorem part_document {key : String} (document : Option Json) :
    (optional key : Field (Option Json)).part document = document.map Json.comparand :=
  part_optional document

theorem Worker.comparand_write_iff (v w : Worker) :
    (Coded.write v).comparand = (Coded.write w).comparand ↔ v.comparand = w.comparand := by
  refine (Record.comparand_write_iff Worker.record (by decide)).trans ?_
  simp only [Worker.record, Fields.Agree, injective_required.eq_iff, injective_optional.eq_iff,
    injective_sparse.eq_iff, part_document, Worker.comparand, Worker.mk.injEq, and_true]

theorem ProviderBlock.comparand_write_iff (a b : ProviderBlock) :
    (Coded.write a).comparand = (Coded.write b).comparand ↔ a.comparand = b.comparand := by
  refine (Record.comparand_write_iff ProviderBlock.record (by decide)).trans ?_
  simp only [ProviderBlock.record, Fields.Agree, injective_required.eq_iff, injective_optional.eq_iff,
    part_defaulted, comparand_write_list_iff Worker.comparand_write_iff, part_document,
    ProviderBlock.comparand, ProviderBlock.mk.injEq, and_true]

end ShootPlan
